import LibCxlmi.Word.Field

/-!
# Stores into an object

An object is the byte string it occupies. `storeAt` overwrites some of its
bytes; the frame lemmas say what a load elsewhere finds. An `int` is stored as
a word of four bytes in two's complement.

Where an access runs over the end of an object, memory as a whole is a byte for each
address, and a little-endian access of some width starts at one.
-/

namespace LibCxlmi.Word

def storeAt (m : Bytes) (i : ℕ) (d : Bytes) : Bytes := m.take i ++ d ++ m.drop (i + d.length)

theorem storeAt_length (m : Bytes) (i : ℕ) (d : Bytes) (h : i + d.length ≤ m.length) :
    (storeAt m i d).length = m.length := by
  simp only [storeAt, List.length_append, List.length_take, List.length_drop]
  omega

theorem slice_storeAt_same (m : Bytes) (i : ℕ) (d : Bytes) (h : i ≤ m.length) :
    slice (storeAt m i d) i d.length = d := by
  have hi : (m.take i).length = i := List.length_take_of_le h
  rw [storeAt, List.append_assoc, slice_append_right _ _ i _ (Nat.le_of_eq hi), hi, Nat.sub_self,
    slice_append d _ 0 _ (by omega), slice_self d d.length rfl]

theorem slice_storeAt_before (m : Bytes) (i : ℕ) (d : Bytes) (j n : ℕ) (h : i ≤ m.length) (hj : j + n ≤ i) :
    slice (storeAt m i d) j n = slice m j n := by
  have hi : (m.take i).length = i := List.length_take_of_le h
  rw [storeAt, List.append_assoc, slice_append _ _ j n (by omega), slice_take m i j n hj]

/- A store over the middle of an object. -/
theorem storeAt_mid (a b c d : Bytes) (h : d.length = b.length) :
    storeAt (a ++ b ++ c) a.length d = a ++ d ++ c := by
  have htake : (a ++ b ++ c).take a.length = a := by
    rw [List.append_assoc, List.take_left]
  have hdrop : (a ++ b ++ c).drop (a.length + d.length) = c := by
    rw [h, ← List.length_append, List.drop_left]
  rw [storeAt, htake, hdrop]

theorem slice_mid (a b c : Bytes) : slice (a ++ b ++ c) a.length b.length = b := by
  rw [slice_append _ c _ _ (by rw [List.length_append]), slice_append_right a b _ _ (Nat.le_refl _), Nat.sub_self,
    slice_self b _ rfl]

/-! ### Words and ints -/

theorem leVal_append (a b : Bytes) : leVal (a ++ b) = leVal a + 256 ^ a.length * leVal b := by
  simp only [leVal, List.map_append, Nat.ofDigits_append, List.length_map]

theorem loadWord_storeWord (o : ByteOrder) (n v : ℕ) : loadWord o (storeWord o n v) = v % 256 ^ n := by
  cases o with
  | little => exact leVal_leBytes n v
  | big => simp only [loadWord, storeWord, List.reverse_reverse, leVal_leBytes]

def storeInt (o : ByteOrder) (i : ℤ) : Bytes := storeWord o 4 (i % 2 ^ 32).toNat

def loadInt (o : ByteOrder) (b : Bytes) : ℤ := int32 (loadWord o b)

@[simp] theorem storeInt_length (o : ByteOrder) (i : ℤ) : (storeInt o i).length = 4 := storeWord_length o 4 _

theorem loadInt_storeInt (o : ByteOrder) (i : ℤ) (hl : -2 ^ 31 ≤ i) (hu : i < 2 ^ 31) :
    loadInt o (storeInt o i) = i := by
  rw [loadInt, storeInt, loadWord_storeWord, int32, Int.bmod_def]
  have hlt : (i % 2 ^ 32).toNat % 256 ^ 4 = (i % 2 ^ 32).toNat := Nat.mod_eq_of_lt (by omega)
  rw [hlt]
  omega

/- Minus one is all ones, whatever the byte order. -/
theorem storeInt_neg_one (o : ByteOrder) : storeInt o (-1) = List.replicate 4 255 := by
  cases o with
  | little => rfl
  | big => rfl

/-! ### All of memory -/

abbrev Ram := ℕ → Byte

def Ram.store (m : Ram) (addr width v : ℕ) : Ram := fun i =>
  if addr ≤ i ∧ i < addr + width then Fin.ofNat 256 (v / 256 ^ (i - addr)) else m i

def Ram.load (m : Ram) (addr : ℕ) : ℕ → ℕ
  | 0 => 0
  | width + 1 => (m addr).val + 256 * m.load (addr + 1) width

namespace Ram
variable (m : Ram) (addr width v : ℕ)

theorem store_inside (i : ℕ) (h : i < width) : m.store addr width v (addr + i) = Fin.ofNat 256 (v / 256 ^ i) := by
  rw [store, if_pos (by omega), Nat.add_sub_cancel_left]

theorem store_outside (i : ℕ) (h : i < addr ∨ addr + width ≤ i) : m.store addr width v i = m i := by
  rw [store, if_neg (by omega)]

/-- Part of a stored word. -/
theorem load_store (off n : ℕ) (h : off + n ≤ width) :
    (m.store addr width v).load (addr + off) n = v / 256 ^ off % 256 ^ n := by
  induction n generalizing off with
  | zero => rw [load, Nat.pow_zero, Nat.mod_one]
  | succ n ih =>
    have hbyte : (m.store addr width v (addr + off)).val = v / 256 ^ off % 256 := by
      rw [store_inside m addr width v off (by omega)]
      rfl
    have hdiv : v / 256 ^ (off + 1) = v / 256 ^ off / 256 := by rw [Nat.pow_succ, Nat.div_div_eq_div_mul]
    rw [load, hbyte, Nat.add_assoc, ih (off + 1) (by omega), hdiv, Nat.pow_succ', Nat.mod_mul]

theorem load_store_self (n : ℕ) (h : n ≤ width) : (m.store addr width v).load addr n = v % 256 ^ n := by
  have hpart := load_store m addr width v 0 n (by omega)
  rwa [Nat.pow_zero, Nat.div_one, Nat.add_zero] at hpart

theorem load_store_apart (at' n : ℕ) (h : at' + n ≤ addr ∨ addr + width ≤ at') :
    (m.store addr width v).load at' n = m.load at' n := by
  induction n generalizing at' with
  | zero => rfl
  | succ n ih => rw [load, load, store_outside m addr width v at' (by omega), ih (at' + 1) (by omega)]

theorem load_eq_zero_iff (n : ℕ) : m.load addr n = 0 ↔ ∀ i < n, m (addr + i) = 0 := by
  induction n generalizing addr with
  | zero => exact iff_of_true rfl fun i hi => absurd hi (Nat.not_lt_zero i)
  | succ n ih =>
    have hsplit : m.load addr (n + 1) = 0 ↔ m addr = 0 ∧ m.load (addr + 1) n = 0 := by
      rw [load, Fin.ext_iff]
      show _ ↔ (m addr).val = 0 ∧ _
      omega
    rw [hsplit, ih]
    constructor
    · intro h i hi
      cases i with
      | zero => exact h.1
      | succ i =>
        rw [Nat.add_comm i 1, ← Nat.add_assoc]
        exact h.2 i (Nat.lt_of_succ_lt_succ hi)
    · intro h
      refine ⟨h 0 (Nat.succ_pos n), fun i hi => ?_⟩
      rw [Nat.add_assoc, Nat.add_comm 1 i]
      exact h (i + 1) (Nat.succ_lt_succ hi)

/-- A number of one byte is lost when its first byte is. -/
theorem load_store_first (at' n : ℕ) (hsmall : m.load at' n < 256) (hfirst : addr ≤ at' ∧ at' < addr + width)
    (hzero : v < 256 ^ (at' - addr)) : (m.store addr width v).load at' n = 0 := by
  rw [load_eq_zero_iff]
  intro i hi
  by_cases hin : at' + i < addr + width
  · have hbyte := store_inside m addr width v (at' - addr + i) (by omega)
    have hpow : 256 ^ (at' - addr) ≤ 256 ^ (at' - addr + i) := Nat.pow_le_pow_right (by decide) (Nat.le_add_right _ i)
    rw [Nat.div_eq_of_lt (Nat.lt_of_lt_of_le hzero hpow)] at hbyte
    rw [show at' + i = addr + (at' - addr + i) by omega]
    exact hbyte
  · rw [store_outside m addr width v (at' + i) (by omega)]
    cases n with
    | zero => cases hi
    | succ n =>
      have hrest : m.load (at' + 1) n = 0 := by
        rw [load] at hsmall
        omega
      have hbytes := (load_eq_zero_iff m (at' + 1) n).mp hrest (i - 1) (by omega)
      rwa [show at' + 1 + (i - 1) = at' + i by omega] at hbytes

end Ram

end LibCxlmi.Word
