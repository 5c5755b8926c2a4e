import Mathlib.Data.Nat.Digits.Defs
import Mathlib.Tactic.Ring

/-!
# Bytes, words and host byte order

Byte strings, the little-endian encoding of fixed-width words, and what a load
or a store of a word does on a host of either byte order. `cpuToLe` and
`leToCpu` are the two conversions of an endian library: the identity on a
little-endian host, a byte swap on a big-endian one. A store of a converted
word and a conversion of a loaded word do not depend on the host; a store or a
load without the conversion does.
-/

namespace LibCxlmi.Word

abbrev Byte := Fin 256
abbrev Bytes := List Byte

abbrev U (w : ℕ) := Fin (2 ^ w)

/- All numerals of one of these types share a proof that the type has them. -/
instance neZeroByte : NeZero (256 : ℕ) := ⟨by decide⟩
instance neZeroU16 : NeZero (2 ^ 16 : ℕ) := ⟨by decide⟩
instance neZeroU31 : NeZero (2 ^ 31 : ℕ) := ⟨by decide⟩
instance neZeroU32 : NeZero (2 ^ 32 : ℕ) := ⟨by decide⟩
instance neZeroU64 : NeZero (2 ^ 64 : ℕ) := ⟨by decide⟩

def leBytes : ℕ → ℕ → Bytes
  | 0, _ => []
  | n + 1, v => ⟨v % 256, Nat.mod_lt v (by decide)⟩ :: leBytes n (v / 256)

def leVal (bs : Bytes) : ℕ := Nat.ofDigits 256 (bs.map Fin.val)

@[simp] theorem leVal_nil : leVal [] = 0 := rfl

@[simp] theorem leVal_cons (b : Byte) (bs : Bytes) : leVal (b :: bs) = b.val + 256 * leVal bs := by
  simp only [leVal, List.map_cons, Nat.ofDigits_cons]

@[simp] theorem leBytes_length (n v : ℕ) : (leBytes n v).length = n := by
  induction n generalizing v with
  | zero => rfl
  | succ n ih => simp only [leBytes, List.length_cons, ih]

theorem leVal_lt (bs : Bytes) : leVal bs < 256 ^ bs.length := by
  have h := Nat.ofDigits_lt_base_pow_length (b := 256) (l := bs.map Fin.val) (by decide) (by
    intro x hx
    obtain ⟨b, -, rfl⟩ := List.mem_map.mp hx
    exact b.isLt)
  simpa only [leVal, List.length_map] using h

theorem leVal_leBytes (n v : ℕ) : leVal (leBytes n v) = v % 256 ^ n := by
  induction n generalizing v with
  | zero => simp only [leBytes, leVal_nil, pow_zero, Nat.mod_one]
  | succ n ih =>
    rw [leBytes, leVal_cons, ih, pow_succ', Nat.mod_mul]

theorem leVal_leBytes_of_lt (n v : ℕ) (h : v < 256 ^ n) : leVal (leBytes n v) = v := by
  rw [leVal_leBytes, Nat.mod_eq_of_lt h]

theorem leBytes_leVal (bs : Bytes) : leBytes bs.length (leVal bs) = bs := by
  induction bs with
  | nil => rfl
  | cons b bs ih =>
    have hb := b.isLt
    have hmod : (b.val + 256 * leVal bs) % 256 = b.val := by omega
    have hdiv : (b.val + 256 * leVal bs) / 256 = leVal bs := by omega
    simp only [List.length_cons, leBytes, leVal_cons, hdiv, ih, List.cons.injEq, and_true]
    exact Fin.ext hmod

/- A byte is made up of its two hexadecimal digits. -/
theorem byte_of_digits (b : Byte) : Fin.ofNat 256 (16 * (b.val / 16) + b.val % 16) = b := by
  rw [Nat.div_add_mod]
  exact Fin.ext (Nat.mod_eq_of_lt b.isLt)

/-! ### Host byte order -/

inductive ByteOrder where
  | little
  | big
  deriving DecidableEq, Repr

/-- Bytes in memory after the host stores the `n`-byte word `v`. -/
def storeWord (o : ByteOrder) (n v : ℕ) : Bytes :=
  match o with
  | .little => leBytes n v
  | .big => (leBytes n v).reverse

/-- Word the host loads from the bytes `bs`. -/
def loadWord (o : ByteOrder) (bs : Bytes) : ℕ :=
  match o with
  | .little => leVal bs
  | .big => leVal bs.reverse

def swapWord (n v : ℕ) : ℕ := leVal (leBytes n v).reverse

/-- Conversion of a host word to a little-endian one. -/
def cpuToLe (o : ByteOrder) (n v : ℕ) : ℕ :=
  match o with
  | .little => v % 256 ^ n
  | .big => swapWord n v

/-- Conversion of a little-endian word to a host one. -/
def leToCpu (o : ByteOrder) (n v : ℕ) : ℕ := cpuToLe o n v

@[simp] theorem storeWord_length (o : ByteOrder) (n v : ℕ) : (storeWord o n v).length = n := by
  cases o <;> simp [storeWord]

theorem leBytes_swapWord (n v : ℕ) : leBytes n (swapWord n v) = (leBytes n v).reverse := by
  have h := leBytes_leVal (leBytes n v).reverse
  rwa [List.length_reverse, leBytes_length] at h

theorem leBytes_mod (n v : ℕ) : leBytes n (v % 256 ^ n) = leBytes n v := by
  rw [← leVal_leBytes]
  have h := leBytes_leVal (leBytes n v)
  rwa [leBytes_length] at h

/-- A stored word that was converted first is little-endian on either host. -/
@[simp] theorem storeWord_cpuToLe (o : ByteOrder) (n v : ℕ) :
    storeWord o n (cpuToLe o n v) = leBytes n v := by
  cases o with
  | little => simp only [storeWord, cpuToLe, leBytes_mod]
  | big => simp only [storeWord, cpuToLe, leBytes_swapWord, List.reverse_reverse]

/-- A loaded word that is converted is the little-endian value on either host. -/
theorem leToCpu_loadWord (o : ByteOrder) (n : ℕ) (bs : Bytes) (h : bs.length = n) :
    leToCpu o n (loadWord o bs) = leVal bs := by
  subst h
  cases o with
  | little =>
    simp only [leToCpu, loadWord, cpuToLe]
    exact Nat.mod_eq_of_lt (leVal_lt bs)
  | big =>
    have hr := leBytes_leVal bs.reverse
    rw [List.length_reverse] at hr
    simp only [leToCpu, loadWord, cpuToLe, swapWord, hr, List.reverse_reverse]

theorem cpuToLe_little (n v : ℕ) (h : v < 256 ^ n) : cpuToLe .little n v = v :=
  Nat.mod_eq_of_lt h

end LibCxlmi.Word
