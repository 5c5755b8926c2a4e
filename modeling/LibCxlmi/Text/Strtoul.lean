import Mathlib.Algebra.Group.Nat.Defs

/-!
# C strings as numbers and names

`strtoul` and `strtoull` with base 0 where `unsigned long` has 64 bits, `atoi`
where `int` has 32, and `strcasecmp`, in the C locale.
-/

namespace LibCxlmi.Text

def isSpace (c : Char) : Bool := c = ' ' || (9 ≤ c.toNat && c.toNat ≤ 13)

def digitVal (c : Char) : ℕ :=
  if '0' ≤ c ∧ c ≤ '9' then c.toNat - '0'.toNat
  else if 'a' ≤ c ∧ c ≤ 'z' then c.toNat - 'a'.toNat + 10
  else if 'A' ≤ c ∧ c ≤ 'Z' then c.toNat - 'A'.toNat + 10
  else 36

/-- The digit that `%x` prints. -/
def hexChar (d : ℕ) : Char := Char.ofNat (if d < 10 then 48 + d else 87 + d)

/-- The number the leading digits make up, and what follows them. -/
def readDigits (base : ℕ) : ℕ → List Char → ℕ × List Char
  | acc, [] => (acc, [])
  | acc, c :: s => if digitVal c < base then readDigits base (acc * base + digitVal c) s else (acc, c :: s)

/-- Base 0: hexadecimal after `0x`, octal after `0`, decimal otherwise; `none`
when there is no digit. -/
def readMagnitude : List Char → Option (ℕ × List Char)
  | '0' :: x :: d :: s =>
      if (x = 'x' ∨ x = 'X') ∧ digitVal d < 16 then some (readDigits 16 0 (d :: s))
      else some (readDigits 8 0 ('0' :: x :: d :: s))
  | '0' :: s => some (readDigits 8 0 ('0' :: s))
  | c :: s => if digitVal c < 10 then some (readDigits 10 0 (c :: s)) else none
  | [] => none

def ulongMax : ℕ := 2 ^ 64 - 1

/- A value out of range gives the largest one, whatever its sign; a minus in
front of one in range negates it modulo 2^64. -/
def signedValue (neg : Bool) (n : ℕ) : ℕ :=
  if ulongMax < n then ulongMax else if neg = true then (2 ^ 64 - n) % 2 ^ 64 else n

/-- The value, and where the conversion stopped. -/
def strtoulEnd (s : String) : ℕ × List Char :=
  let (neg, t) : Bool × List Char :=
    match s.toList.dropWhile isSpace with
    | '-' :: t => (true, t)
    | '+' :: t => (false, t)
    | t => (false, t)
  match readMagnitude t with
  | some (n, rest) => (signedValue neg n, rest)
  | none => (0, s.toList)

def strtoul (s : String) : ℕ := (strtoulEnd s).1

example : strtoul " -0x1" = 2 ^ 64 - 1 := by decide

def splitSign : List Char → Bool × List Char
  | '-' :: t => (true, t)
  | '+' :: t => (false, t)
  | t => (false, t)

/-- What is converted: the sign, the number itself, and what follows. -/
def numeral (s : String) : Option (Bool × ℕ × List Char) :=
  let signed := splitSign (s.toList.dropWhile isSpace)
  (readMagnitude signed.2).map fun m => (signed.1, m)

theorem strtoulEnd_eq (s : String) : strtoulEnd s =
    match numeral s with
    | some (neg, n, rest) => (signedValue neg n, rest)
    | none => (0, s.toList) := by
  change (match readMagnitude (splitSign (s.toList.dropWhile isSpace)).2 with
    | some (n, rest) => (signedValue (splitSign (s.toList.dropWhile isSpace)).1 n, rest)
    | none => (0, s.toList)) = _
  dsimp only [numeral]
  cases readMagnitude (splitSign (s.toList.dropWhile isSpace)).2 with
  | none => rfl
  | some m => rfl

theorem strtoul_of_numeral (s : String) (neg : Bool) (n : ℕ) (rest : List Char)
    (h : numeral s = some (neg, n, rest)) : strtoul s = signedValue neg n := by
  rw [strtoul, strtoulEnd_eq, h]

theorem signedValue_le (neg : Bool) (n : ℕ) : signedValue neg n ≤ ulongMax := by
  unfold signedValue
  split
  · exact Nat.le_refl ulongMax
  · rename_i hbig
    split
    · exact Nat.le_of_lt_succ (Nat.mod_lt _ (by decide))
    · exact Nat.le_of_not_lt hbig

theorem strtoul_le (s : String) : strtoul s ≤ ulongMax := by
  rw [strtoul, strtoulEnd_eq]
  cases numeral s with
  | none => exact Nat.zero_le ulongMax
  | some m => exact signedValue_le m.1 m.2.1

/-- The conversion sets `errno`. -/
def outOfRange (s : String) : Bool :=
  match numeral s with
  | some (_, n, _) => decide (ulongMax < n)
  | none => false

/-- A decimal number behind white space and a sign, and what follows it. -/
def decimal (s : List Char) : Option (ℤ × List Char) :=
  let signed := splitSign (s.dropWhile isSpace)
  match signed.2 with
  | [] => none
  | c :: t =>
      if digitVal c < 10 then
        let read := readDigits 10 0 (c :: t)
        some (if signed.1 = true then -(read.1 : ℤ) else (read.1 : ℤ), read.2)
      else none

def IsInt (z : ℤ) : Prop := -0x80000000 ≤ z ∧ z < 0x80000000

instance isIntDecidable (z : ℤ) : Decidable (IsInt z) := inferInstanceAs (Decidable (_ ∧ _))

/- What a number that is no `int` gives is up to the C library. -/
def atoi (overflow : ℤ → ℤ) (s : List Char) : ℤ :=
  match decimal s with
  | none => 0
  | some (z, _) => if IsInt z then z else overflow z

/-- The whole text is a number that an `int` holds. -/
def IntText (s : List Char) (z : ℤ) : Prop := decimal s = some (z, []) ∧ IsInt z

theorem atoi_intText (overflow : ℤ → ℤ) (s : List Char) (z : ℤ) (h : IntText s z) : atoi overflow s = z := by
  rw [atoi, h.1]
  exact if_pos h.2

def sameIgnoringCase (a b : String) : Bool := a.toList.map Char.toLower == b.toList.map Char.toLower

end LibCxlmi.Text
