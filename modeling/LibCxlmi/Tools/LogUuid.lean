import LibCxlmi.Text.Literals
import LibCxlmi.Tools.Features

/-!
# UUIDs as arguments (mbcci-sfx cmd_logs.c:327-443, mctp-cci util.c:131-169)

Both tools copy 32 characters out of the argument and let `sscanf` read sixteen numbers
of two characters out of them. They differ in the characters they copy, and both let
more through than hexadecimal digits.
-/

namespace LibCxlmi.Tools
open LibCxlmi.Word LibCxlmi.Text

/-! ### sscanf -/

/- One or two characters of a number. Where they are `0x`, so that the digits behind the
prefix do not count any more, `bare` is whether that is a zero. -/
def scanTwo (bare : Bool) : List Char → Option Byte
  | [] => none
  | c :: s =>
      if c = '+' ∨ c = '-' then
        match s with
        | [] => none
        | d :: _ =>
            if digitVal d < 16 then
              some (Fin.ofNat 256 (if c = '-' then 256 - digitVal d else digitVal d))
            else none
      else if 16 ≤ digitVal c then none
      else
        match s with
        | [] => some (Fin.ofNat 256 (digitVal c))
        | d :: _ =>
            if c = '0' ∧ (d = 'x' ∨ d = 'X') then if bare = true then some 0 else none
            else if digitVal d < 16 then some (Fin.ofNat 256 (16 * digitVal c + digitVal d))
            else some (Fin.ofNat 256 (digitVal c))

/-- `%2x`; white space in front of the number is not part of the two characters. -/
def scanHex (bare : Bool) (hex : List Char) : Option Byte := scanTwo bare (hex.dropWhile isSpace)

/-! ### The parsers and the printers -/

/- `parseLogUuid` is mbcci-sfx's. Here `i` is the place in an argument of 36 characters. -/
def copyUuidDigits : ℕ → List Char → Option (List Char)
  | _, [] => some []
  | i, c :: s =>
      if i = 8 ∨ i = 13 ∨ i = 18 ∨ i = 23 then if c ≠ '-' then none else copyUuidDigits (i + 1) s
      else (copyUuidDigits (i + 1) s).map (c :: ·)

def mctpParseLogUuid (scan : List Char → Option Byte) (str : String) : Option (Vec 16) :=
  if str.toList.length = 32 then scanBytes scan 16 str.toList
  else if str.toList.length = 36 then
    (copyUuidDigits 0 str.toList).bind fun buf => if buf.length ≠ 32 then none else scanBytes scan 16 buf
  else none

/-- `%02x` of each byte. -/
def hexChars (bs : Bytes) : List Char := bs.flatMap fun b : Byte => [hexChar (b.val / 16), hexChar (b.val % 16)]

/-- Groups of 8, 4, 4, 4 and the other characters. -/
def dashed (hex : List Char) : List Char :=
  hex.take 8 ++ '-' :: ((hex.drop 8).take 4 ++ '-' :: ((hex.drop 12).take 4 ++ '-' ::
    ((hex.drop 16).take 4 ++ '-' :: hex.drop 20)))

def uuidText (uuid : Vec 16) : String := String.ofList (dashed (hexChars uuid.val))

def printLogUuid : Vec 16 → String := uuidText
def printUuid : Vec 16 → String := uuidText

/-! ### What is a UUID -/

def HexDigits (hex : List Char) : Prop := ∀ c ∈ hex, digitVal c < 16

/-- 32 digits, or the 36 characters with the dashes between them. -/
def IsUuid (s : String) : Prop :=
  ∃ hex : List Char, hex.length = 32 ∧ HexDigits hex ∧ (s.toList = hex ∨ s.toList = dashed hex)

/-- A digit, or a sign and a digit. -/
def StartsNumber (bare : Bool) : List Char → Prop
  | [] => False
  | [c] => digitVal c < 16
  | c :: d :: _ =>
      ((c = '+' ∨ c = '-') ∧ digitVal d < 16) ∨
        (digitVal c < 16 ∧ (bare = true ∨ ¬ (c = '0' ∧ (d = 'x' ∨ d = 'X'))))

/-- A place where `sscanf` finds a number, whatever the white space in front of it. -/
def NumberAt (bare : Bool) (hex : List Char) (i : ℕ) : Prop := StartsNumber bare ((hex.drop i).dropWhile isSpace)

/-- The 32 characters that are taken have a number at each second place. -/
def Readable (bare : Bool) (hex : List Char) : Prop := hex.length = 32 ∧ ∀ i < 16, NumberAt bare hex (2 * i)

/-- What mbcci-sfx takes: the first 32 characters that are no dashes. -/
def withoutDashes (s : String) : List Char := (s.toList.filter fun c => c ≠ '-').take 32

/-- What mctp-cci takes: 32 characters, or 36 with dashes at four places. -/
def AtDashes (s : String) (hex : List Char) : Prop :=
  hex.length = 32 ∧ (s.toList = hex ∨ s.toList = dashed hex)

/-! ### Numbers -/

theorem scanTwo_isSome_iff (bare : Bool) (cs : List Char) :
    (scanTwo bare cs).isSome = true ↔ StartsNumber bare cs := by
  match cs with
  | [] => simp [scanTwo, StartsNumber]
  | [c] =>
    by_cases hsign : c = '+' ∨ c = '-'
    · simp [scanTwo, StartsNumber, digitVal_sign c hsign]
    · simp only [scanTwo, StartsNumber, if_neg hsign]
      split_ifs with hdigit
      · simpa using hdigit
      · simpa using hdigit
  | c :: d :: s =>
    by_cases hsign : c = '+' ∨ c = '-'
    · simp only [scanTwo, StartsNumber, if_pos hsign, digitVal_sign c hsign]
      by_cases hdigit : digitVal d < 16
      · rw [if_pos hdigit]
        exact iff_of_true rfl (Or.inl ⟨hsign, hdigit⟩)
      · rw [if_neg hdigit]
        simp [hdigit]
    · simp only [scanTwo, StartsNumber, if_neg hsign]
      split_ifs with hdigit hlead hbare hsecond
      · simp [hsign, Nat.not_lt.mpr hdigit]
      · simp [hbare, Nat.not_le.mp hdigit]
      · simp [hlead, hbare]
      · simp [Nat.not_le.mp hdigit, hlead]
      · simp [Nat.not_le.mp hdigit, hlead]

theorem scanBytes_isSome_iff (scan : List Char → Option Byte) (n : ℕ) (hex : List Char) :
    (scanBytes scan n hex).isSome = true ↔ ∀ i < n, (scan (hex.drop (2 * i))).isSome = true := by
  induction n generalizing hex with
  | zero => simp [scanBytes]
  | succ n ih =>
    have hrest := ih (hex.drop 2)
    rw [scanBytes]
    cases hfirst : scan hex with
    | none =>
      refine iff_of_false (by simp) ?_
      intro h
      have hzero := h 0 (Nat.succ_pos n)
      rw [Nat.mul_zero, List.drop_zero, hfirst] at hzero
      cases hzero
    | some b =>
      rw [Option.bind_some, Option.isSome_map, hrest]
      constructor
      · intro h i hi
        cases i with
        | zero => rw [Nat.mul_zero, List.drop_zero, hfirst]; rfl
        | succ i =>
          have hi := h i (Nat.lt_of_succ_lt_succ hi)
          rwa [List.drop_drop, show 2 + 2 * i = 2 * (i + 1) by omega] at hi
      · intro h i hi
        have hi := h (i + 1) (Nat.succ_lt_succ hi)
        rwa [List.drop_drop, show 2 + 2 * i = 2 * (i + 1) by omega]

theorem scanBytes_readable_iff (bare : Bool) (hex : List Char) (hlen : hex.length = 32) :
    (scanBytes (scanHex bare) 16 hex).isSome = true ↔ Readable bare hex := by
  rw [scanBytes_isSome_iff]
  constructor
  · intro h
    exact ⟨hlen, fun i hi => (scanTwo_isSome_iff bare _).mp (h i hi)⟩
  · intro h i hi
    exact (scanTwo_isSome_iff bare _).mpr (h.2 i hi)

/-! ### Digits -/

theorem scanHex_digits (bare : Bool) (c d : Char) (s : List Char) (hc : digitVal c < 16) (hd : digitVal d < 16) :
    scanHex bare (c :: d :: s) = some (Fin.ofNat 256 (16 * digitVal c + digitVal d)) := by
  have hsign := not_sign_of_digit c (by omega)
  have hlead : ¬ (c = '0' ∧ (d = 'x' ∨ d = 'X')) := by
    rintro ⟨-, rfl | rfl⟩
    · exact absurd hd (by decide)
    · exact absurd hd (by decide)
  rw [scanHex, List.dropWhile_cons_of_neg (by rw [not_isSpace_of_digit c (by omega)]; decide), scanTwo, if_neg hsign,
    if_neg (Nat.not_le.mpr hc)]
  simp only [if_neg hlead, if_pos hd]

/-- Digits are read two at a time, whatever stands behind them. -/
theorem scanBytes_digits (bare : Bool) (n : ℕ) (hex : List Char) (hlen : hex.length = 2 * n) (hd : HexDigits hex) :
    (scanBytes (scanHex bare) n hex).isSome = true := by
  induction n generalizing hex with
  | zero => rfl
  | succ n ih =>
    obtain ⟨c, d, s, rfl, hs⟩ := exists_pair n hex hlen
    have hrest : HexDigits s := fun e he => hd e (by simp [he])
    rw [scanBytes, scanHex_digits bare c d s (hd c (by simp)) (hd d (by simp)), Option.bind_some, Option.isSome_map]
    exact ih s hs hrest

/-! ### The characters that are taken -/

theorem copyUuidDigits_block (i : ℕ) (l rest : List Char)
    (h : ∀ k < l.length, ¬ (i + k = 8 ∨ i + k = 13 ∨ i + k = 18 ∨ i + k = 23)) :
    copyUuidDigits i (l ++ rest) = (copyUuidDigits (i + l.length) rest).map (l ++ ·) := by
  induction l generalizing i with
  | nil => simp
  | cons c l ih =>
    have hfirst : ¬ (i = 8 ∨ i = 13 ∨ i = 18 ∨ i = 23) := h 0 (Nat.succ_pos _)
    have hrest : ∀ k < l.length, ¬ (i + 1 + k = 8 ∨ i + 1 + k = 13 ∨ i + 1 + k = 18 ∨ i + 1 + k = 23) := by
      intro k hk
      have hnext := h (k + 1) (Nat.succ_lt_succ hk)
      rwa [Nat.add_right_comm i 1 k]
    rw [List.cons_append, copyUuidDigits, if_neg hfirst, ih (i + 1) hrest, Option.map_map, List.length_cons,
      show i + 1 + l.length = i + (l.length + 1) by omega]
    rfl

/-- A group and the dash that has to stand behind it. -/
theorem copyUuidDigits_group (i n : ℕ) (l rest : List Char) (p : Char) (hlen : l.length = n)
    (h : ∀ k < n, ¬ (i + k = 8 ∨ i + k = 13 ∨ i + k = 18 ∨ i + k = 23))
    (hsep : i + n = 8 ∨ i + n = 13 ∨ i + n = 18 ∨ i + n = 23) :
    copyUuidDigits i (l ++ p :: rest) =
      if p = '-' then (copyUuidDigits (i + n + 1) rest).map (l ++ ·) else none := by
  subst hlen
  rw [copyUuidDigits_block i l _ h, copyUuidDigits, if_pos hsep]
  by_cases hp : p = '-'
  · rw [if_pos hp, if_neg (not_not.mpr hp)]
  · rw [if_neg hp, if_pos hp]
    rfl

/- An argument of 36 characters: five groups with a character behind each but the last. -/
structure Grouped (cs a b c d e : List Char) (p q r t : Char) : Prop where
  text : cs = a ++ p :: (b ++ q :: (c ++ r :: (d ++ t :: e)))
  first : a.length = 8
  second : b.length = 4
  third : c.length = 4
  fourth : d.length = 4
  fifth : e.length = 12

theorem split_before (n : ℕ) (cs : List Char) (h : n < cs.length) :
    ∃ a p rest, cs = a ++ p :: rest ∧ a.length = n ∧ rest.length = cs.length - (n + 1) := by
  refine ⟨cs.take n, cs[n], cs.drop (n + 1), ?_, ?_, ?_⟩
  · rw [List.getElem_cons_drop, List.take_append_drop]
  · rw [List.length_take]
    omega
  · rw [List.length_drop]

theorem exists_grouped (cs : List Char) (h : cs.length = 36) : ∃ a b c d e p q r t, Grouped cs a b c d e p q r t := by
  obtain ⟨a, p, rest₁, h₁, ha, hlen₁⟩ := split_before 8 cs (by omega)
  obtain ⟨b, q, rest₂, h₂, hb, hlen₂⟩ := split_before 4 rest₁ (by omega)
  obtain ⟨c, r, rest₃, h₃, hc, hlen₃⟩ := split_before 4 rest₂ (by omega)
  obtain ⟨d, t, e, h₄, hd, hlen₄⟩ := split_before 4 rest₃ (by omega)
  refine ⟨a, b, c, d, e, p, q, r, t, ?_, ha, hb, hc, hd, by omega⟩
  rw [h₁, h₂, h₃, h₄]

theorem Grouped.copyUuidDigits {cs a b c d e : List Char} {p q r t : Char} (h : Grouped cs a b c d e p q r t) :
    Tools.copyUuidDigits 0 cs =
      if p = '-' ∧ q = '-' ∧ r = '-' ∧ t = '-' then some (a ++ (b ++ (c ++ (d ++ e)))) else none := by
  have hlast : Tools.copyUuidDigits 24 e = some e := by
    have hblock := copyUuidDigits_block 24 e [] fun k hk => by omega
    rw [List.append_nil] at hblock
    rw [hblock]
    simp [Tools.copyUuidDigits]
  rw [h.text, copyUuidDigits_group 0 8 a _ p h.first (by omega) (by decide),
    copyUuidDigits_group 9 4 b _ q h.second (by omega) (by decide),
    copyUuidDigits_group 14 4 c _ r h.third (by omega) (by decide),
    copyUuidDigits_group 19 4 d _ t h.fourth (by omega) (by decide), hlast]
  split_ifs <;> simp_all

theorem dashed_grouped (hex : List Char) (h : hex.length = 32) :
    Grouped (dashed hex) (hex.take 8) ((hex.drop 8).take 4) ((hex.drop 12).take 4) ((hex.drop 16).take 4) (hex.drop 20)
      '-' '-' '-' '-' := by
  refine ⟨rfl, ?_, ?_, ?_, ?_, ?_⟩ <;> simp only [List.length_take, List.length_drop, h] <;> rfl

theorem groups_join (hex : List Char) : hex.take 8 ++ ((hex.drop 8).take 4 ++ ((hex.drop 12).take 4 ++
    ((hex.drop 16).take 4 ++ hex.drop 20))) = hex := by
  have h₁ : (hex.drop 16).take 4 ++ hex.drop 20 = hex.drop 16 := by
    rw [show hex.drop 20 = (hex.drop 16).drop 4 by rw [List.drop_drop], List.take_append_drop]
  have h₂ : (hex.drop 12).take 4 ++ hex.drop 16 = hex.drop 12 := by
    rw [show hex.drop 16 = (hex.drop 12).drop 4 by rw [List.drop_drop], List.take_append_drop]
  have h₃ : (hex.drop 8).take 4 ++ hex.drop 12 = hex.drop 8 := by
    rw [show hex.drop 12 = (hex.drop 8).drop 4 by rw [List.drop_drop], List.take_append_drop]
  rw [h₁, h₂, h₃, List.take_append_drop]

theorem copyUuidDigits_dashed (hex : List Char) (h : hex.length = 32) : copyUuidDigits 0 (dashed hex) = some hex := by
  rw [(dashed_grouped hex h).copyUuidDigits, if_pos ⟨rfl, rfl, rfl, rfl⟩, groups_join]

theorem Grouped.dashed {cs a b c d e : List Char} (h : Grouped cs a b c d e '-' '-' '-' '-') :
    cs = Tools.dashed (a ++ (b ++ (c ++ (d ++ e)))) := by
  have h₈ : (a ++ (b ++ (c ++ (d ++ e)))).drop 8 = b ++ (c ++ (d ++ e)) := List.drop_left' h.first
  have h₁₂ : (a ++ (b ++ (c ++ (d ++ e)))).drop 12 = c ++ (d ++ e) := by
    rw [show 12 = 8 + 4 from rfl, ← List.drop_drop, h₈, List.drop_left' h.second]
  have h₁₆ : (a ++ (b ++ (c ++ (d ++ e)))).drop 16 = d ++ e := by
    rw [show 16 = 12 + 4 from rfl, ← List.drop_drop, h₁₂, List.drop_left' h.third]
  have h₂₀ : (a ++ (b ++ (c ++ (d ++ e)))).drop 20 = e := by
    rw [show 20 = 16 + 4 from rfl, ← List.drop_drop, h₁₆, List.drop_left' h.fourth]
  rw [h.text, Tools.dashed, h₈, h₁₂, h₁₆, h₂₀, List.take_left' h.first, List.take_left' h.second,
    List.take_left' h.third, List.take_left' h.fourth]

theorem copyUuidDigits_eq_some (cs hex : List Char) (hlen : cs.length = 36) (h : copyUuidDigits 0 cs = some hex) :
    hex.length = 32 ∧ cs = dashed hex := by
  obtain ⟨a, b, c, d, e, p, q, r, t, hg⟩ := exists_grouped cs hlen
  rw [hg.copyUuidDigits] at h
  split_ifs at h with hdash
  obtain ⟨rfl, rfl, rfl, rfl⟩ := hdash
  obtain rfl := Option.some.inj h
  refine ⟨?_, hg.dashed⟩
  simp only [List.length_append, hg.first, hg.second, hg.third, hg.fourth, hg.fifth]

theorem dashed_length (hex : List Char) (h : hex.length = 32) : (dashed hex).length = 36 := by
  simp only [dashed, List.length_append, List.length_cons, List.length_take, List.length_drop, h]
  rfl

theorem mctpParseLogUuid_atDashes (scan : List Char → Option Byte) (s : String) (hex : List Char) (h : AtDashes s hex) :
    mctpParseLogUuid scan s = scanBytes scan 16 hex := by
  obtain ⟨hlen, hs | hs⟩ := h
  · rw [mctpParseLogUuid, hs, if_pos hlen]
  · have h36 := dashed_length hex hlen
    rw [mctpParseLogUuid, hs, if_neg (by omega), if_pos h36, copyUuidDigits_dashed hex hlen, Option.bind_some,
      if_neg (not_not.mpr hlen)]

theorem mctpParseLogUuid_none (scan : List Char → Option Byte) (s : String) (h : ¬ ∃ hex, AtDashes s hex) :
    mctpParseLogUuid scan s = none := by
  unfold mctpParseLogUuid
  split_ifs with h32 h36
  · exact absurd ⟨s.toList, h32, Or.inl rfl⟩ h
  · cases hcopy : copyUuidDigits 0 s.toList with
    | none => rfl
    | some hex =>
      obtain ⟨hlen, hs⟩ := copyUuidDigits_eq_some s.toList hex h36 hcopy
      exact absurd ⟨hex, hlen, Or.inr hs⟩ h
  · rfl

theorem mctpParseLogUuid_isSome_iff (bare : Bool) (s : String) :
    (mctpParseLogUuid (scanHex bare) s).isSome = true ↔ ∃ hex, AtDashes s hex ∧ Readable bare hex := by
  constructor
  · intro h
    by_cases hex : ∃ hex, AtDashes s hex
    · obtain ⟨hex, hat⟩ := hex
      rw [mctpParseLogUuid_atDashes _ s hex hat, scanBytes_readable_iff bare hex hat.1] at h
      exact ⟨hex, hat, h⟩
    · rw [mctpParseLogUuid_none _ s hex] at h
      cases h
  · rintro ⟨hex, hat, h⟩
    rw [mctpParseLogUuid_atDashes _ s hex hat, scanBytes_readable_iff bare hex hat.1]
    exact h

theorem parseLogUuid_isSome_iff (bare : Bool) (s : String) :
    (parseLogUuid (scanHex bare) s).isSome = true ↔ Readable bare (withoutDashes s) := by
  show (if (withoutDashes s).length ≠ 32 then none else scanBytes (scanHex bare) 16 (withoutDashes s)).isSome = true ↔ _
  by_cases hlen : (withoutDashes s).length = 32
  · rw [if_neg (not_not.mpr hlen), scanBytes_readable_iff bare _ hlen]
  · rw [if_pos hlen]
    exact iff_of_false (by simp) fun h => hlen h.1

end LibCxlmi.Tools
