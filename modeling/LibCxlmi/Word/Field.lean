import LibCxlmi.Word.Buffer

/-!
# Fields of packed structures

Reading and writing members of a packed structure in a byte buffer. `getLe` and
`putLe` are a load or store of a word together with the endian conversion that
goes with it; neither depends on the host. `records` and `copyOut` are a loop
over an array of records and a `memcpy` out of a buffer; they are undefined
(`none`) when they would leave the buffer, or when the loop would overflow its
`int` counter.
-/

namespace LibCxlmi.Word

abbrev Vec (n : ℕ) := {b : Bytes // b.length = n}

@[simp] theorem vec_length {n : ℕ} (v : Vec n) : v.val.length = n := v.property

def putLe (o : ByteOrder) (n v : ℕ) : Bytes := storeWord o n (cpuToLe o n v)

def getLe (o : ByteOrder) (n : ℕ) (m : Bytes) (i : ℕ) : ℕ := leToCpu o n (loadWord o (slice m i n))

theorem putLe_eq (o : ByteOrder) (n v : ℕ) : putLe o n v = leBytes n v := storeWord_cpuToLe o n v

theorem getLe_eq (o : ByteOrder) (n : ℕ) (m : Bytes) (i : ℕ) : getLe o n m i = leVal (slice m i n) :=
  leToCpu_loadWord o n (slice m i n) (slice_length m i n)

theorem getLe_zeros (o : ByteOrder) (k n i : ℕ) : getLe o k (zeros n) i = 0 := by
  rw [getLe_eq, slice_zeros, leVal_zeros]

theorem putLe_big : putLe .big = putLe .little := by
  funext n v
  rw [putLe_eq, putLe_eq]

theorem getLe_big : getLe .big = getLe .little := by
  funext n m i
  rw [getLe_eq, getLe_eq]

@[simp] theorem putLe_length (o : ByteOrder) (n v : ℕ) : (putLe o n v).length = n :=
  storeWord_length o n _

/-! ### Lengths of small structures

On a host of either order, so that they can stand for a proof about both. -/

theorem oneByte_length (a : Byte) (_ : ByteOrder) : [a].length = 1 := rfl

theorem twoBytes_length (a b : Byte) (_ : ByteOrder) : [a, b].length = 2 := rfl

theorem vec16_length (v : Vec 16) (_ : ByteOrder) : v.val.length = 16 := v.property

theorem word64_length (v : U 64) (o : ByteOrder) : (putLe o 8 v).length = 8 := putLe_length o 8 v

theorem twoWords32_length (a b : U 32) (o : ByteOrder) : (putLe o 4 a ++ putLe o 4 b).length = 8 := by
  rw [List.length_append, putLe_length, putLe_length]

/-! ### Arrays -/

variable {α β : Type}

/-- The `n` records of `sz` bytes from offset `off` on. -/
def records (m : Bytes) (off sz n : ℕ) (f : Bytes → α) : Option (List α) :=
  if off + n * sz ≤ m.length ∧ n < 2 ^ 31 then
    some ((List.range n).map fun i => f (slice m (off + i * sz) sz))
  else none

def copyOut (m : Bytes) (off n : ℕ) : Option Bytes :=
  if off + n ≤ m.length then some (slice m off n) else none

theorem getLe_fillBuf (o : ByteOrder) (w n : ℕ) (d : Bytes) (i : ℕ) :
    getLe o w (fillBuf n d) i = getLe o w d i := by
  rw [getLe, getLe, slice_fillBuf]

theorem records_fillBuf (n : ℕ) (d : Bytes) (off sz k : ℕ) (f : Bytes → α) (hk : k < 2 ^ 31)
    (h : off + k * sz ≤ d.length) (hd : d.length ≤ n) :
    records (fillBuf n d) off sz k f = some ((List.range k).map fun i => f (slice d (off + i * sz) sz)) := by
  unfold records
  rw [fillBuf_length n d hd, if_pos ⟨by omega, hk⟩]
  simp only [slice_fillBuf]

theorem copyOut_fillBuf (n : ℕ) (d : Bytes) (off k : ℕ) (h : off + k ≤ d.length) (hd : d.length ≤ n) :
    copyOut (fillBuf n d) off k = some (slice d off k) := by
  unfold copyOut
  rw [fillBuf_length n d hd, if_pos (by omega), slice_fillBuf n d off k]

/-- A loop that writes one record after the other. -/
def putRecords (xs : List β) (f : β → Bytes) : Option Bytes :=
  if xs.length < 2 ^ 31 then some (xs.flatMap f) else none

theorem flatMap_length (xs : List β) (f : β → Bytes) (k : ℕ) (h : ∀ x, (f x).length = k) :
    (xs.flatMap f).length = xs.length * k := by
  induction xs with
  | nil => simp only [List.flatMap_nil, List.length_nil, Nat.zero_mul]
  | cons x xs ih =>
    rw [List.flatMap_cons, List.length_append, ih, h, List.length_cons, Nat.succ_mul, Nat.add_comm]

theorem flatMap_eq_iff (xs : List β) (f g : β → Bytes) (hlen : ∀ x, (f x).length = (g x).length) :
    xs.flatMap f = xs.flatMap g ↔ ∀ x ∈ xs, f x = g x := by
  induction xs with
  | nil => exact iff_of_true rfl (List.forall_mem_nil _)
  | cons x xs ih =>
    rw [List.flatMap_cons, List.flatMap_cons, List.forall_mem_cons, ← ih]
    exact ⟨fun h => List.append_inj h (hlen x), fun h => congrArg₂ (· ++ ·) h.1 h.2⟩

end LibCxlmi.Word
