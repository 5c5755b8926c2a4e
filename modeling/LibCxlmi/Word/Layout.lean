import LibCxlmi.Word.Field

/-!
# Layout of packed structures

A packed structure is the list of its members in order; where a member stands
follows from the sizes of those before it. `LaidOut ms m i` says that the bytes
of `m` from offset `i` on are the members `ms`, one after the other.
-/

namespace LibCxlmi.Word

structure Member where
  size : ℕ
  holds : Bytes → Prop

namespace Member

/-- A little-endian word of `n` bytes. -/
def le (n v : ℕ) : Member := ⟨n, fun b => leVal b = v⟩

def raw (n : ℕ) (v : Bytes) : Member := ⟨n, fun b => b = v⟩

def byte (v : Byte) : Member := ⟨1, fun b => b = [v]⟩

def ignored (n : ℕ) : Member := ⟨n, fun _ => True⟩

end Member

def extent (ms : List Member) : ℕ := (ms.map Member.size).sum

def LaidOut : List Member → Bytes → ℕ → Prop
  | [], _, _ => True
  | f :: fs, m, i => f.holds (slice m i f.size) ∧ LaidOut fs m (i + f.size)

@[simp] theorem extent_nil : extent [] = 0 := rfl

@[simp] theorem extent_cons (f : Member) (fs : List Member) : extent (f :: fs) = f.size + extent fs := by
  simp only [extent, List.map_cons, List.sum_cons]

@[simp] theorem extent_append (a b : List Member) : extent (a ++ b) = extent a + extent b := by
  simp only [extent, List.map_append, List.sum_append]

theorem slice_one (m : Bytes) (i : ℕ) : slice m i 1 = [byteAt m i] := rfl

theorem slice_slice (m : Bytes) (i n j k : ℕ) (h : j + k ≤ n) : slice (slice m i n) j k = slice m (i + j) k := by
  refine List.map_congr_left fun t ht => ?_
  have hlt : j + t < n := by
    have := List.mem_range.mp ht
    omega
  unfold slice byteAt
  rw [List.getD_eq_getElem _ _ (by simpa using hlt)]
  simp only [List.getElem_map, List.getElem_range, Nat.add_assoc]

theorem byteAt_slice (m : Bytes) (i n j : ℕ) (h : j < n) : byteAt (slice m i n) j = byteAt m (i + j) := by
  have hs := slice_slice m i n j 1 h
  rw [slice_one, slice_one] at hs
  exact (List.cons.inj hs).1

theorem laidOut_append (a b : List Member) (m : Bytes) (i : ℕ) :
    LaidOut (a ++ b) m i ↔ LaidOut a m i ∧ LaidOut b m (i + extent a) := by
  induction a generalizing i with
  | nil => simp only [List.nil_append, LaidOut, true_and, extent_nil, Nat.add_zero]
  | cons f a ih => simp only [List.cons_append, LaidOut, ih, extent_cons, and_assoc, Nat.add_assoc]

/- Which buffer the bytes are read from does not matter as long as they agree. -/
theorem laidOut_congr (ms : List Member) (m m' : Bytes) (i j : ℕ)
    (h : ∀ k n, k + n ≤ extent ms → slice m (i + k) n = slice m' (j + k) n) : LaidOut ms m i ↔ LaidOut ms m' j := by
  induction ms generalizing i j with
  | nil => exact Iff.rfl
  | cons f ms ih =>
    have hhead := h 0 f.size (by rw [extent_cons]; omega)
    rw [Nat.add_zero, Nat.add_zero] at hhead
    have htail := ih (i + f.size) (j + f.size) fun k n hk => by
      rw [Nat.add_assoc, Nat.add_assoc]
      refine h (f.size + k) n ?_
      rw [extent_cons]
      omega
    rw [LaidOut, LaidOut, hhead, htail]

theorem laidOut_slice (ms : List Member) (m : Bytes) (i n : ℕ) (h : extent ms ≤ n) :
    LaidOut ms (slice m i n) 0 ↔ LaidOut ms m i :=
  laidOut_congr ms _ _ 0 i fun k w hk => by rw [Nat.zero_add, slice_slice m i n k w (by omega)]

theorem laidOut_append_bytes (ms : List Member) (d z : Bytes) (i : ℕ) (h : i + extent ms ≤ d.length) :
    LaidOut ms (d ++ z) i ↔ LaidOut ms d i :=
  laidOut_congr ms _ _ i i fun k n hk => slice_append d z (i + k) n (by omega)

/-! ### Arrays -/

variable {β : Type}

theorem extent_flatMap (xs : List β) (f : β → List Member) (sz : ℕ) (h : ∀ x, extent (f x) = sz) :
    extent (xs.flatMap f) = xs.length * sz := by
  induction xs with
  | nil => simp only [List.flatMap_nil, extent_nil, List.length_nil, Nat.zero_mul]
  | cons x xs ih => rw [List.flatMap_cons, extent_append, ih, h, List.length_cons, Nat.succ_mul, Nat.add_comm]

/-- Records that were read one by one are laid out one after the other if each
of them is. -/
theorem laidOut_records (f : β → List Member) (dec : Bytes → β) (m : Bytes) (off sz n : ℕ)
    (hsz : ∀ x, extent (f x) = sz) :
    LaidOut (((List.range n).map fun k => dec (slice m (off + k * sz) sz)).flatMap f) m off ↔
      ∀ k < n, LaidOut (f (dec (slice m (off + k * sz) sz))) (slice m (off + k * sz) sz) 0 := by
  induction n with
  | zero =>
    refine iff_of_true trivial fun k hk => ?_
    exact absurd hk (Nat.not_lt_zero k)
  | succ n ih =>
    have hlast := laidOut_slice (f (dec (slice m (off + n * sz) sz))) m (off + n * sz) sz (hsz _).le
    rw [List.range_succ, List.map_append, List.flatMap_append, laidOut_append, ih, extent_flatMap _ f sz hsz,
      List.length_map, List.length_range, List.map_singleton, List.flatMap_singleton, ← hlast]
    constructor
    · rintro ⟨hall, hn⟩ k hk
      rcases Nat.lt_succ_iff_lt_or_eq.mp hk with hlt | rfl
      · exact hall k hlt
      · exact hn
    · intro hall
      exact ⟨fun k hk => hall k (Nat.lt_succ_of_lt hk), hall n (Nat.lt_succ_self n)⟩

end LibCxlmi.Word
