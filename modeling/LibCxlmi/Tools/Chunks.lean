import LibCxlmi.Tools.Args

/-!
# Sending a file in chunks

`transfer_fw_file` and `vu_dlcfg_file` are the same function but for the request
they fill in and the results they go on after. `ChunkRun` is what their loop
does, told by the results the device gives and by which chunks can be read.
-/

namespace LibCxlmi.Tools
open LibCxlmi.Word

inductive ChunkAction where
  | full
  | init
  | cont
  | last
  deriving DecidableEq, Repr

def pickAction (chunkIdx numChunks : ℕ) : ChunkAction :=
  if numChunks = 1 then .full
  else if chunkIdx = 0 then .init
  else if chunkIdx = numChunks - 1 then .last
  else .cont

structure Chunk where
  chunkIdx : ℕ
  numChunks : ℕ
  byteOffset : U 32
  data : Bytes

/-- A request is `headerSz` bytes and the data; the loop goes on while the
results are `ok`. -/
structure ChunkSender where
  headerSz : ℕ
  ok : ℤ → Bool
  send : Chunk → Tool ℤ

/- `byte_offset` is 32 bits wide. It never exceeds the file's size. -/
def chunkOffset (chunkSize i : ℕ) : U 32 := toU32 (i * chunkSize)

def chunkLen (f : File) (chunkSize i : ℕ) : ℕ := min (f.size - (chunkOffset chunkSize i).val) chunkSize

/-- The loop from `left` chunks before its end on. `pos` is where the file is
read, and `rc` what a failed read returns: the result of the chunk before. -/
def sendChunks (k : ChunkSender) (f : File) (chunkSize numChunks : ℕ) : ℕ → ℕ → ℤ → Tool ℤ
  | 0, _, _ => return 0
  | left + 1, pos, rc =>
      let idx := numChunks - (left + 1)
      let len := chunkLen f chunkSize idx
      checked (f.fread pos len) (return rc) do
        let rc ← k.send ⟨idx, numChunks, chunkOffset chunkSize idx, f.read pos len⟩
        if k.ok rc = true then sendChunks k f chunkSize numChunks left (pos + len) rc else return rc

/-- The number of chunks, rounded up, before it is stored as an `unsigned`. -/
def chunkCount (size chunkSize : ℕ) : ℕ := (size + chunkSize - 1) / chunkSize

/- `file_size + chunk_size` is a `long`, and it is divided by the chunk size. -/
def sendOpened (k : ChunkSender) (f : File) (chunkSize : U 32) : Tool End :=
  if chunkSize = 0 ∨ 2 ^ 63 ≤ f.size + chunkSize.val then return .undefined
  else
    checked (calloc (k.headerSz + chunkSize.val)) (return .returned (-1)) do
      let numChunks := u32 (chunkCount f.size chunkSize.val)
      let rc ← sendChunks k f chunkSize.val numChunks numChunks 0 (-1)
      return .returned rc

def sendFile (k : ChunkSender) (disk : Disk) (inputFile : String) (chunkSize : U 32) : Tool End :=
  match disk inputFile with
  | none => return .returned (-1)
  | some f =>
      checked fseekEnd (return .returned (-1)) <|
      checked ftell (return .returned (-1)) <|
      if f.size = 0 then return .returned (-1)
      else checked (fseekSet 0) (return .returned (-1)) (sendOpened k f chunkSize)

/-! ### Chunks of a file -/

theorem chunkCount_pos (size c : ℕ) (hs : size ≠ 0) (hc : c ≠ 0) : 0 < chunkCount size c :=
  Nat.div_pos (by omega) (by omega)

/-- The last chunk starts inside the file and the chunks reach its end. -/
theorem chunkCount_spec (size c : ℕ) (hs : size ≠ 0) (hc : c ≠ 0) :
    (chunkCount size c - 1) * c < size ∧ size ≤ chunkCount size c * c := by
  have hmod := Nat.mod_lt (size + c - 1) (Nat.pos_of_ne_zero hc)
  have hdiv := Nat.div_add_mod' (size + c - 1) c
  have hpos := chunkCount_pos size c hs hc
  have hprev : (chunkCount size c - 1) * c + c = chunkCount size c * c := by
    rw [← Nat.succ_mul, Nat.succ_eq_add_one, Nat.sub_add_cancel hpos]
  have hle : chunkCount size c * c = (size + c - 1) / c * c := rfl
  omega

theorem chunk_start_lt (size c i : ℕ) (hs : size ≠ 0) (hc : c ≠ 0) (hi : i < chunkCount size c) : i * c < size :=
  Nat.lt_of_le_of_lt (Nat.mul_le_mul_right c (by omega)) (chunkCount_spec size c hs hc).1

theorem chunkOffset_le (c i : ℕ) : (chunkOffset c i).val ≤ i * c := Nat.mod_le _ _

/-- A chunk before the last one is whole, wherever its offset has wrapped to. -/
theorem chunkLen_before_last (f : File) (c i : ℕ) (hs : f.size ≠ 0) (hc : c ≠ 0)
    (hi : i + 1 < chunkCount f.size c) : chunkLen f c i = c := by
  have hnext := chunk_start_lt f.size c (i + 1) hs hc hi
  have hoff := chunkOffset_le c i
  rw [Nat.succ_mul] at hnext
  exact Nat.min_eq_right (by omega)

theorem chunkLen_le (f : File) (c i : ℕ) : chunkLen f c i ≤ c := Nat.min_le_right _ _

theorem chunkOffset_of_lt (c i : ℕ) (h : i * c < 2 ^ 32) : (chunkOffset c i).val = i * c := Nat.mod_eq_of_lt h

theorem chunkLen_of_lt (f : File) (c i : ℕ) (h : i * c < 2 ^ 32) : chunkLen f c i = min (f.size - i * c) c := by
  rw [chunkLen, chunkOffset_of_lt c i h]

/-- Chunks that start below 4 GiB and are sent one after the other reach as far as
they should. -/
theorem chunkLen_sum (f : File) (c j : ℕ) (hs : f.size ≠ 0) (hc : c ≠ 0) (hj : j ≤ chunkCount f.size c)
    (hlow : ∀ i < j, i * c < 2 ^ 32) : ((List.range j).map (chunkLen f c)).sum = min (j * c) f.size := by
  induction j with
  | zero => simp only [List.range_zero, List.map_nil, List.sum_nil, Nat.zero_mul, Nat.zero_min]
  | succ j ih =>
    have hstart := chunk_start_lt f.size c j hs hc (by omega)
    rw [List.range_succ, List.map_append, List.sum_append, ih (by omega) fun i hi => hlow i (by omega),
      List.map_singleton, List.sum_singleton, chunkLen_of_lt f c j (hlow j (by omega)), Nat.succ_mul]
    omega

/-- Before the last one, wherever their offsets have wrapped to, chunks are whole. -/
theorem chunkLen_sum_before_last (f : File) (c j : ℕ) (hs : f.size ≠ 0) (hc : c ≠ 0) (hj : j < chunkCount f.size c) :
    ((List.range j).map (chunkLen f c)).sum = j * c := by
  induction j with
  | zero => simp only [List.range_zero, List.map_nil, List.sum_nil, Nat.zero_mul]
  | succ j ih =>
    rw [List.range_succ, List.map_append, List.sum_append, ih (by omega), List.map_singleton, List.sum_singleton,
      chunkLen_before_last f c j hs hc hj, Nat.succ_mul]

theorem chunkLen_sum_le (f : File) (c j : ℕ) : ((List.range j).map (chunkLen f c)).sum ≤ j * c := by
  induction j with
  | zero => simp only [List.range_zero, List.map_nil, List.sum_nil, Nat.zero_mul, Nat.le_refl]
  | succ j ih =>
    rw [List.range_succ, List.map_append, List.sum_append, List.map_singleton, List.sum_singleton, Nat.succ_mul]
    exact Nat.add_le_add ih (chunkLen_le f c j)

theorem map_mapIdx_index {α β γ : Type} (h : ℕ → α → β) (p : β → γ) (g : ℕ → γ) (hp : ∀ j x, p (h j x) = g j)
    (xs : List α) : (xs.mapIdx h).map p = (List.range xs.length).map g := by
  induction xs generalizing h g with
  | nil => rfl
  | cons x xs ih =>
    rw [List.mapIdx_cons, List.map_cons, hp, ih _ (fun j => g (j + 1)) fun j y => hp (j + 1) y, List.length_cons,
      List.range_succ_eq_map, List.map_cons, List.map_map]
    rfl

theorem map_mapIdx_value {α β : Type} (h : ℕ → α → β) (p : β → α) (hp : ∀ j x, p (h j x) = x) (xs : List α) :
    (xs.mapIdx h).map p = xs := by
  induction xs generalizing h with
  | nil => rfl
  | cons x xs ih => rw [List.mapIdx_cons, List.map_cons, hp, ih _ fun j y => hp (j + 1) y]

/-! ### Actions -/

theorem range_pickAction (n : ℕ) (h : 2 ≤ n) :
    (List.range n).map (pickAction · n) = .init :: List.replicate (n - 2) .cont ++ [.last] := by
  obtain ⟨m, rfl⟩ : ∃ m, n = m + 2 := ⟨n - 2, by omega⟩
  have hmid : (List.range m).map (fun i => pickAction (i + 1) (m + 2)) = List.replicate m .cont := by
    rw [List.eq_replicate_iff, List.length_map, List.length_range]
    refine ⟨rfl, fun a ha => ?_⟩
    obtain ⟨i, hi, rfl⟩ := List.mem_map.mp ha
    have hlt := List.mem_range.mp hi
    rw [pickAction, if_neg (by omega), if_neg (by omega), if_neg (by omega)]
  have hlast : pickAction (m + 1) (m + 2) = .last := by
    rw [pickAction, if_neg (by omega), if_neg (by omega), if_pos (by omega)]
  rw [List.range_succ_eq_map, List.map_cons, List.map_map, List.range_succ, List.map_append, Nat.add_sub_cancel,
    List.cons_append]
  have hinit : pickAction 0 (m + 2) = .init := by rw [pickAction, if_neg (by omega), if_pos rfl]
  rw [hinit, ← hmid]
  simp only [Function.comp_def, List.map_cons, List.map_nil, Nat.succ_eq_add_one, hlast]

/-- FULL, or a prefix of INIT CONTINUE* END. -/
def InSequence (as : List ChunkAction) : Prop :=
  as = [.full] ∨ ∃ n, as <+: .init :: List.replicate n .cont ++ [.last]

theorem pickAction_inSequence (m n : ℕ) (h : m ≤ n) : InSequence ((List.range m).map (pickAction · n)) := by
  rcases Nat.lt_or_ge n 2 with hn | hn
  · rcases Nat.eq_zero_or_pos m with rfl | hm
    · exact Or.inr ⟨0, List.nil_prefix⟩
    · obtain ⟨rfl, rfl⟩ : m = 1 ∧ n = 1 := by omega
      exact Or.inl rfl
  · refine Or.inr ⟨n - 2, ?_⟩
    rw [← range_pickAction n hn]
    obtain ⟨d, rfl⟩ := Nat.exists_eq_add_of_le h
    rw [List.range_add, List.map_append]
    exact List.prefix_append _ _

/-! ### What the loop does -/

/-- From chunk `i` of `n` on, with the result `rc` before it: the results of the
commands sent, and what is returned. -/
inductive ChunkRun (ok : ℤ → Bool) (readable : ℕ → Bool) (n : ℕ) : ℕ → ℤ → List ℤ → ℤ → Prop
  | done (i : ℕ) (rc : ℤ) (h : n ≤ i) : ChunkRun ok readable n i rc [] 0
  | unread (i : ℕ) (rc : ℤ) (h : i < n) (hr : readable i = false) : ChunkRun ok readable n i rc [] rc
  | refused (i : ℕ) (rc x : ℤ) (h : i < n) (hr : readable i = true) (hx : ok x = false) :
      ChunkRun ok readable n i rc [x] x
  | next (i : ℕ) (rc x : ℤ) (xs : List ℤ) (r : ℤ) (h : i < n) (hr : readable i = true) (hx : ok x = true)
      (hrest : ChunkRun ok readable n (i + 1) x xs r) : ChunkRun ok readable n i rc (x :: xs) r

section ChunkRun
variable {ok : ℤ → Bool} {readable : ℕ → Bool} {n i : ℕ} {rc r : ℤ} {xs : List ℤ}

theorem ChunkRun.readable_of_lt (h : ChunkRun ok readable n i rc xs r) (j : ℕ) (hj : j < xs.length) :
    i + j < n ∧ readable (i + j) = true := by
  induction h generalizing j with
  | done => exact absurd hj (Nat.not_lt_zero j)
  | unread => exact absurd hj (Nat.not_lt_zero j)
  | refused i rc x h hr hx =>
    obtain rfl : j = 0 := Nat.lt_one_iff.mp hj
    exact ⟨h, hr⟩
  | next i rc x xs r h hr hx hrest ih =>
    cases j with
    | zero => exact ⟨h, hr⟩
    | succ j =>
      have hlater := ih j (Nat.lt_of_succ_lt_succ hj)
      rwa [Nat.add_assoc, Nat.add_comm 1 j] at hlater

theorem ChunkRun.length_le (h : ChunkRun ok readable n i rc xs r) : xs.length ≤ n - i := by
  rcases Nat.eq_zero_or_pos xs.length with hz | hpos
  · omega
  · have hlast := (h.readable_of_lt (xs.length - 1) (by omega)).1
    omega

theorem ChunkRun.ok_before_last (h : ChunkRun ok readable n i rc xs r) (j : ℕ) (x : ℤ) (hx : xs[j]? = some x)
    (hj : j + 1 < xs.length) : ok x = true := by
  induction h generalizing j with
  | done => cases hx
  | unread => cases hx
  | refused => exact absurd hj (by simp)
  | next i rc y ys r h hr hy hrest ih =>
    cases j with
    | zero => exact Option.some.inj hx ▸ hy
    | succ j => exact ih j hx (Nat.lt_of_succ_lt_succ hj)

/-- How the loop ends: after the last chunk, at a read, or at a refused command. -/
theorem ChunkRun.ends (h : ChunkRun ok readable n i rc xs r) :
    ((∀ x ∈ xs, ok x = true) ∧ n ≤ i + xs.length ∧ r = 0) ∨
    ((∀ x ∈ xs, ok x = true) ∧ i + xs.length < n ∧ readable (i + xs.length) = false ∧ r = xs.getLastD rc) ∨
      (r ∈ xs ∧ ok r = false) := by
  induction h with
  | done i rc h =>
    refine Or.inl ⟨?_, h, rfl⟩
    intro x hx
    cases hx
  | unread i rc h hr =>
    refine Or.inr (Or.inl ⟨?_, h, hr, rfl⟩)
    intro x hx
    cases hx
  | refused i rc x h hr hx => exact Or.inr (Or.inr ⟨List.mem_singleton_self x, hx⟩)
  | next i rc x xs r h hr hx hrest ih =>
    have hall : (∀ y ∈ xs, ok y = true) → ∀ y ∈ x :: xs, ok y = true := by
      intro hxs y hy
      rcases List.mem_cons.mp hy with rfl | hy
      · exact hx
      · exact hxs y hy
    have hlen : i + (x :: xs).length = i + 1 + xs.length := by rw [List.length_cons]; omega
    rw [hlen]
    rcases ih with ⟨hxs, hn, hr'⟩ | ⟨hxs, hn, hun, hr'⟩ | ⟨hmem, hno⟩
    · exact Or.inl ⟨hall hxs, hn, hr'⟩
    · refine Or.inr (Or.inl ⟨hall hxs, hn, hun, ?_⟩)
      rw [hr']
      cases xs with
      | nil => rfl
      | cons y ys => rfl
    · exact Or.inr (Or.inr ⟨List.mem_cons_of_mem x hmem, hno⟩)

/-- Where only the first chunk can be unreadable, a run that ends at a read sends nothing. -/
theorem ChunkRun.ends_readable (h : ChunkRun ok readable n 0 rc xs r)
    (hread : ∀ i, 0 < i → i < n → readable i = true) :
    ((∀ x ∈ xs, ok x = true) ∧ n ≤ xs.length ∧ r = 0) ∨ (xs = [] ∧ r = rc) ∨ (r ∈ xs ∧ ok r = false) := by
  have hends := h.ends
  rw [Nat.zero_add] at hends
  rcases hends with hall | ⟨-, hn, hun, hr⟩ | hno
  · exact Or.inl hall
  · cases xs with
    | nil => exact Or.inr (Or.inl ⟨rfl, hr⟩)
    | cons x xs => exact absurd (hun.symm.trans (hread _ (Nat.succ_pos _) hn)) Bool.false_ne_true
  · exact Or.inr (Or.inr hno)

end ChunkRun

/-- Against a device that takes everything with a zero, the loop returns 0
whether or not it got through, once a chunk has been read. -/
theorem ChunkRun.exists_zeros (ok : ℤ → Bool) (readable : ℕ → Bool) (n : ℕ) (hok : ok 0 = true) (left i : ℕ) (rc : ℤ)
    (hleft : i + left = n) (hrc : rc = 0 ∨ n ≤ i ∨ readable i = true) :
    ∃ m, ChunkRun ok readable n i rc (List.replicate m 0) 0 := by
  induction left generalizing i rc with
  | zero => exact ⟨0, .done i rc (by omega)⟩
  | succ left ih =>
    cases hr : readable i with
    | false =>
      rcases hrc with rfl | hn | hread
      · exact ⟨0, .unread i 0 (by omega) hr⟩
      · omega
      · exact absurd hread (by rw [hr]; decide)
    | true =>
      obtain ⟨m, hrest⟩ := ih (i + 1) 0 (by omega) (Or.inl rfl)
      exact ⟨m + 1, .next i rc 0 _ 0 (by omega) hr hok hrest⟩

/-- One round: an unreadable chunk ends the loop, and so does a refused one. -/
theorem chunkRun_iff (ok : ℤ → Bool) (readable : ℕ → Bool) (n i : ℕ) (rc r : ℤ) (xs : List ℤ) (h : i < n) :
    ChunkRun ok readable n i rc xs r ↔
      if readable i = true then
        ∃ x ys, xs = x :: ys ∧ if ok x = true then ChunkRun ok readable n (i + 1) x ys r else ys = [] ∧ r = x
      else xs = [] ∧ r = rc := by
  constructor
  · intro hrun
    cases hrun with
    | done i rc hn => omega
    | unread i rc h hr =>
      rw [hr]
      exact ⟨rfl, rfl⟩
    | refused i rc x h hr hx =>
      rw [if_pos hr]
      refine ⟨r, [], rfl, ?_⟩
      rw [hx]
      exact ⟨rfl, rfl⟩
    | next i rc x ys r h hr hx hrest =>
      rw [if_pos hr]
      refine ⟨x, ys, rfl, ?_⟩
      rw [if_pos hx]
      exact hrest
  · intro hround
    cases hr : readable i with
    | false =>
      rw [hr] at hround
      obtain ⟨rfl, rfl⟩ := hround
      exact .unread i r h hr
    | true =>
      rw [if_pos hr] at hround
      obtain ⟨x, ys, rfl, hround⟩ := hround
      cases hx : ok x with
      | false =>
        rw [hx] at hround
        obtain ⟨rfl, rfl⟩ := hround
        exact .refused i rc r h hr hx
      | true =>
        rw [if_pos hx] at hround
        exact .next i rc x ys r h hr hx hround

end LibCxlmi.Tools
