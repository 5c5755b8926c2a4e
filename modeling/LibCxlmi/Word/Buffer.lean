import LibCxlmi.Word.ByteOrder
import Mathlib.Data.List.GetD

/-!
# Zeroed buffers and C integer conversions

A buffer is a byte string; what a program reads at an offset is `byteAt`, or
`slice` for several bytes. `fillBuf n d` is a zeroed buffer of `n` bytes whose
front holds the received bytes `d`. `sizeT`, `int32` and `u32` are the
conversions to `size_t` (64 bits), `int` (32 bits) and `uint32_t`.
-/

namespace LibCxlmi.Word

def zeros (n : ℕ) : Bytes := List.replicate n 0

@[simp] theorem zeros_length (n : ℕ) : (zeros n).length = n := List.length_replicate

def byteAt (m : Bytes) (i : ℕ) : Byte := m.getD i 0

def slice (m : Bytes) (i n : ℕ) : Bytes := (List.range n).map fun k => byteAt m (i + k)

@[simp] theorem slice_length (m : Bytes) (i n : ℕ) : (slice m i n).length = n := by
  simp only [slice, List.length_map, List.length_range]

theorem byteAt_append (d z : Bytes) (i : ℕ) (h : i < d.length) : byteAt (d ++ z) i = byteAt d i :=
  List.getD_append d z 0 i h

theorem byteAt_append_right (d z : Bytes) (i : ℕ) (h : d.length ≤ i) :
    byteAt (d ++ z) i = byteAt z (i - d.length) :=
  List.getD_append_right d z 0 i h

theorem byteAt_drop (m : Bytes) (k i : ℕ) : byteAt (m.drop k) i = byteAt m (k + i) := by
  simp only [byteAt, List.getD_eq_getElem?_getD, List.getElem?_drop]

theorem byteAt_take (m : Bytes) (k i : ℕ) (h : i < k) : byteAt (m.take k) i = byteAt m i := by
  simp only [byteAt, List.getD_eq_getElem?_getD, List.getElem?_take_of_lt h]

theorem byteAt_zeros (n i : ℕ) : byteAt (zeros n) i = 0 := by
  simp only [byteAt, zeros, List.getD_eq_getElem?_getD, List.getElem?_replicate]
  split <;> rfl

theorem slice_zeros (n i k : ℕ) : slice (zeros n) i k = zeros k := by
  simp only [slice, byteAt_zeros, List.map_const', List.length_range]
  rfl

theorem leVal_zeros (n : ℕ) : leVal (zeros n) = 0 := by
  induction n with
  | zero => rfl
  | succ n ih =>
    rw [zeros, List.replicate_succ, leVal_cons, ← zeros, ih]
    rfl

theorem slice_append (d z : Bytes) (i n : ℕ) (h : i + n ≤ d.length) :
    slice (d ++ z) i n = slice d i n := by
  simp only [slice]
  refine List.map_congr_left fun k hk => byteAt_append d z (i + k) ?_
  have hk' := List.mem_range.mp hk
  omega

theorem slice_append_right (d z : Bytes) (i n : ℕ) (h : d.length ≤ i) :
    slice (d ++ z) i n = slice z (i - d.length) n := by
  simp only [slice]
  refine List.map_congr_left fun k _ => ?_
  rw [byteAt_append_right d z (i + k) (by omega)]
  congr 1
  omega

theorem slice_drop (m : Bytes) (k i n : ℕ) : slice (m.drop k) i n = slice m (k + i) n := by
  simp only [slice, byteAt_drop, Nat.add_assoc]

theorem slice_take (m : Bytes) (k i n : ℕ) (h : i + n ≤ k) : slice (m.take k) i n = slice m i n := by
  simp only [slice]
  refine List.map_congr_left fun j hj => byteAt_take m k (i + j) ?_
  have hj' := List.mem_range.mp hj
  omega

theorem slice_self (m : Bytes) (n : ℕ) (h : m.length = n) : slice m 0 n = m := by
  subst h
  refine List.ext_getElem (slice_length m 0 m.length) fun i h1 h2 => ?_
  simp only [slice, List.getElem_map, List.getElem_range, Nat.zero_add, byteAt]
  exact List.getD_eq_getElem m 0 h2

theorem slice_add (m : Bytes) (i a b : ℕ) : slice m i (a + b) = slice m i a ++ slice m (i + a) b := by
  simp only [slice, List.range_add, List.map_append, List.map_map]
  congr 1
  refine List.map_congr_left fun k _ => ?_
  rw [Function.comp_apply, Nat.add_assoc]

theorem slice_chunks (m : Bytes) (i w n : ℕ) :
    ((List.range n).flatMap fun k => slice m (i + k * w) w) = slice m i (n * w) := by
  induction n with
  | zero => simp only [List.range_zero, List.flatMap_nil, Nat.zero_mul, slice, List.map_nil]
  | succ n ih => rw [List.range_succ, List.flatMap_append, ih, List.flatMap_singleton, Nat.succ_mul, slice_add]

theorem slice_take_self (m : Bytes) (n : ℕ) (h : n ≤ m.length) : slice m 0 n = m.take n := by
  rw [← slice_take m n 0 n (by omega), slice_self _ n (List.length_take_of_le h)]

/-! ### Received bytes in a zeroed buffer -/

def fillBuf (n : ℕ) (d : Bytes) : Bytes := d ++ zeros (n - d.length)

theorem fillBuf_length (n : ℕ) (d : Bytes) (h : d.length ≤ n) : (fillBuf n d).length = n := by
  simp only [fillBuf, List.length_append, zeros_length]
  omega

theorem fillBuf_nil (n : ℕ) : fillBuf n [] = zeros n := by
  simp only [fillBuf, List.nil_append, List.length_nil, Nat.sub_zero]

theorem fillBuf_drop (n k : ℕ) (d : Bytes) (h : k ≤ d.length) :
    (fillBuf n d).drop k = fillBuf (n - k) (d.drop k) := by
  simp only [fillBuf, List.drop_append_of_le_length h, List.length_drop]
  congr 2
  omega

theorem fillBuf_take (n : ℕ) (d : Bytes) (h : d.length ≤ n) : (fillBuf n d).take n = fillBuf n d :=
  List.take_of_length_le (Nat.le_of_eq (fillBuf_length n d h))

theorem byteAt_fillBuf (n : ℕ) (d : Bytes) (i : ℕ) (h : i < d.length) : byteAt (fillBuf n d) i = byteAt d i :=
  byteAt_append d _ i h

/-- Reading beyond the end of what was received finds zeros, as in the buffer. -/
theorem slice_fillBuf (n : ℕ) (d : Bytes) (i k : ℕ) : slice (fillBuf n d) i k = slice d i k := by
  apply List.map_congr_left
  intro j _
  rcases Nat.lt_or_ge (i + j) d.length with hlt | hge
  · exact byteAt_fillBuf n d (i + j) hlt
  · rw [fillBuf, byteAt_append_right d _ _ hge, byteAt_zeros]
    exact (List.getD_eq_default d 0 hge).symm

/-! ### Conversions between C integer types -/

def sizeT (i : ℤ) : ℕ := (i % 2 ^ 64).toNat
def int32 (i : ℤ) : ℤ := i.bmod (2 ^ 32)
def u32 (n : ℕ) : ℕ := n % 2 ^ 32

theorem sizeT_natCast (n : ℕ) (h : n < 2 ^ 64) : sizeT (n : ℤ) = n := by
  unfold sizeT
  omega

theorem int32_natCast (n : ℕ) (h : n < 2 ^ 31) : int32 (n : ℤ) = n := by
  unfold int32
  rw [Int.bmod_def]
  omega

/-- Above `2^31` the conversion of an unsigned 32-bit value is negative. -/
theorem int32_natCast_neg (n : ℕ) (hl : 2 ^ 31 ≤ n) (hu : n < 2 ^ 32) :
    int32 (n : ℤ) = (n : ℤ) - 2 ^ 32 := by
  unfold int32
  rw [Int.bmod_def]
  omega

theorem int32_bounds (i : ℤ) : -2 ^ 31 ≤ int32 i ∧ int32 i < 2 ^ 31 := by
  unfold int32
  constructor
  · exact Int.le_bmod (by decide)
  · exact Int.bmod_lt (by decide)

theorem int32_inj (v w : ℕ) (hv : v < 2 ^ 32) (hw : w < 2 ^ 32) (h : int32 v = int32 w) : v = w := by
  unfold int32 at h
  rw [Int.bmod_def, Int.bmod_def] at h
  split_ifs at h <;> omega

theorem sizeT_inj (i j : ℤ) (hi : -2 ^ 63 ≤ i ∧ i < 2 ^ 63) (hj : -2 ^ 63 ≤ j ∧ j < 2 ^ 63)
    (h : sizeT i = sizeT j) : i = j := by
  unfold sizeT at h
  omega

theorem int32_eq_iff (n : ℕ) : int32 (n : ℤ) = n ↔ n < 2 ^ 31 := by
  constructor
  · intro h
    have hlt := (int32_bounds n).2
    rw [h] at hlt
    omega
  · exact int32_natCast n

theorem natCast_sizeT (i : ℤ) : (sizeT i : ℤ) = i % 2 ^ 64 := Int.toNat_of_nonneg (Int.emod_nonneg i (by norm_num))

theorem sizeT_add (a : ℕ) (i : ℤ) : (a + sizeT i) % 2 ^ 64 = sizeT (a + i) := by
  apply Int.ofNat.inj
  change (((a + sizeT i) % 2 ^ 64 : ℕ) : ℤ) = (sizeT (a + i) : ℤ)
  rw [natCast_sizeT, Int.natCast_emod, Int.natCast_add, natCast_sizeT]
  push_cast
  rw [Int.add_emod_emod]

theorem u32_of_lt (n : ℕ) (h : n < 2 ^ 32) : u32 n = n := Nat.mod_eq_of_lt h

theorem u32_lt (n : ℕ) : u32 n < 2 ^ 32 := Nat.mod_lt n (by decide)

theorem u32_le (n : ℕ) : u32 n ≤ n := Nat.mod_le n _

end LibCxlmi.Word
