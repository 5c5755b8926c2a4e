import LibCxlmi.Tools.Chunks
import LibCxlmi.Tools.Observed

/-!
# The runs of a chunked transfer

`FileRun` says what every run of `sendFile` comes to: the commands it sends and
how it ends, by what the operating system and the device answer.
-/

namespace LibCxlmi.Tools
open LibCxlmi.Word LibCxlmi.Dialogue

variable (os : (q : SysCall) → q.Answer)

/-- A request goes out as the question `q`, and that is all. -/
def ChunkSender.Asks (k : ChunkSender) (q : Chunk → SysCall) : Prop :=
  ∀ c l x, Observed os (k.send c) l x ↔ l = [(q c, x)]

/-! ### Runs of the loop -/

variable (k : ChunkSender) (q : Chunk → SysCall) (f : File) (c n : ℕ)

def chunkAt (i : ℕ) : Chunk := ⟨i, n, chunkOffset c i, f.read (i * c) (chunkLen f c i)⟩

def chunkReadable (i : ℕ) : Bool :=
  reads os (i * c) (chunkLen f c i) && decide (i * c + chunkLen f c i ≤ f.size)

theorem chunkReadable_of_lt (i : ℕ) (h : i * c < 2 ^ 32) (hle : i * c ≤ f.size) :
    chunkReadable os f c i = reads os (i * c) (min (f.size - i * c) c) := by
  rw [chunkReadable, chunkLen_of_lt f c i h, decide_eq_true (by omega), Bool.and_true]

theorem chunkReadable_zero : chunkReadable os f c 0 = reads os 0 (min f.size c) := by
  rw [chunkReadable_of_lt os f c 0 (by omega) (by omega), Nat.zero_mul, Nat.sub_zero]

/-- For any chunk, if the last one starts below 4 GiB. -/
theorem chunkReadable_before (hs : f.size ≠ 0) (hc : c ≠ 0) (hlow : (chunkCount f.size c - 1) * c < 2 ^ 32) (i : ℕ)
    (hi : i < chunkCount f.size c) : chunkReadable os f c i = reads os (i * c) (min (f.size - i * c) c) :=
  chunkReadable_of_lt os f c i (Nat.lt_of_le_of_lt (Nat.mul_le_mul_right c (by omega)) hlow)
    (Nat.le_of_lt (chunk_start_lt f.size c i hs hc hi))

def chunkCalls (i : ℕ) (xs : List ℤ) : List (SysCall × ℤ) := xs.mapIdx fun j x => (q (chunkAt f c n (i + j)), x)

theorem chunkCalls_cons (i : ℕ) (x : ℤ) (xs : List ℤ) :
    chunkCalls q f c n i (x :: xs) = (q (chunkAt f c n i), x) :: chunkCalls q f c n (i + 1) xs := by
  rw [chunkCalls, List.mapIdx_cons, Nat.add_zero, chunkCalls]
  simp only [Nat.add_assoc, Nat.add_comm 1]

theorem filterMap_chunkCalls {γ : Type} (pick : SysCall × ℤ → Option γ) (h : Chunk → ℤ → γ)
    (hpick : ∀ c x, pick (q c, x) = some (h c x)) (i : ℕ) (xs : List ℤ) :
    (chunkCalls q f c n i xs).filterMap pick = xs.mapIdx fun j x => h (chunkAt f c n (i + j)) x := by
  rw [chunkCalls, List.mapIdx_eq_zipIdx_map, List.mapIdx_eq_zipIdx_map, List.filterMap_map]
  exact List.filterMap_eq_map_iff_forall_eq_some.mpr fun e _ => hpick _ _

/-- The loop is `ChunkRun`, as long as `pos` is where chunk `i` starts; after the
last chunk it need not be. -/
theorem observed_sendChunks (hq : k.Asks os q) (hs : f.size ≠ 0) (hc : c ≠ 0) (hn : n ≤ chunkCount f.size c)
    (left i pos : ℕ) (rc r : ℤ) (l : List (SysCall × ℤ)) (hleft : i + left = n) (hpos : pos = i * c ∨ left = 0) :
    Observed os (sendChunks k f c n left pos rc) l r ↔
      ∃ xs, ChunkRun k.ok (chunkReadable os f c) n i rc xs r ∧ l = chunkCalls q f c n i xs := by
  induction left generalizing i pos rc l with
  | zero =>
    rw [sendChunks, observed_ret]
    constructor
    · rintro ⟨rfl, rfl⟩
      exact ⟨[], .done i rc (by omega), rfl⟩
    · rintro ⟨xs, hrun, rfl⟩
      cases hrun with
      | done => exact ⟨rfl, rfl⟩
      | unread i rc h => omega
      | refused i rc x h => omega
      | next i rc x xs r h => omega
  | succ left ih =>
    obtain rfl : pos = i * c := hpos.resolve_right (Nat.succ_ne_zero left)
    have hidx : n - (left + 1) = i := by omega
    have hnext : i * c + chunkLen f c i = (i + 1) * c ∨ left = 0 := by
      rcases Nat.eq_zero_or_pos left with h | h
      · exact Or.inr h
      · rw [chunkLen_before_last f c i hs hc (by omega), Nat.succ_mul]
        exact Or.inl rfl
    have hround : ∀ xs, ChunkRun k.ok (chunkReadable os f c) n i rc xs r ↔ _ := fun xs =>
      chunkRun_iff k.ok (chunkReadable os f c) n i rc r xs (by omega)
    rw [sendChunks, hidx, observed_checked os _ _ _ _ l r (observed_fread os f _ _)]
    change Observed os (if chunkReadable os f c i = true then _ else _) l r ↔ _
    cases hb : chunkReadable os f c i with
    | false =>
      simp only [hround, hb, if_neg Bool.false_ne_true, observed_ret]
      constructor
      · rintro ⟨rfl, rfl⟩
        exact ⟨[], ⟨rfl, rfl⟩, rfl⟩
      · rintro ⟨xs, ⟨rfl, rfl⟩, rfl⟩
        exact ⟨rfl, rfl⟩
    | true =>
      simp only [hround, hb, if_true, observed_bind]
      constructor
      · rintro ⟨l₁, l₂, x, rfl, hsend, hrest⟩
        obtain rfl := (hq _ l₁ x).mp hsend
        cases hx : k.ok x with
        | false =>
          rw [hx, if_neg Bool.false_ne_true, observed_ret] at hrest
          obtain ⟨rfl, rfl⟩ := hrest
          refine ⟨[r], ⟨r, [], rfl, ?_⟩, (chunkCalls_cons q f c n i r []).symm⟩
          rw [hx]
          exact ⟨rfl, rfl⟩
        | true =>
          rw [hx, if_pos rfl, ih (i + 1) _ x l₂ (by omega) hnext] at hrest
          obtain ⟨ys, hys, rfl⟩ := hrest
          refine ⟨x :: ys, ⟨x, ys, rfl, ?_⟩, (chunkCalls_cons q f c n i x ys).symm⟩
          rw [if_pos hx]
          exact hys
      · rintro ⟨xs, ⟨x, ys, rfl, hys⟩, rfl⟩
        refine ⟨[_], _, x, chunkCalls_cons q f c n i x ys, (hq _ _ x).mpr rfl, ?_⟩
        cases hx : k.ok x with
        | false =>
          rw [hx] at hys
          obtain ⟨rfl, rfl⟩ := hys
          rw [if_neg Bool.false_ne_true, observed_ret]
          exact ⟨rfl, rfl⟩
        | true =>
          rw [if_pos hx] at hys
          rw [if_pos rfl, ih (i + 1) _ x _ (by omega) hnext]
          exact ⟨ys, hys, rfl⟩

/-! ### Runs of the function -/

/-- The file can be measured and has something in it. -/
def Opened : Prop :=
  os .fseekEnd = true ∧ os .ftell = true ∧ f.size ≠ 0 ∧ os (.fseekSet 0) = true

/-- What a run of `sendFile` on the file `f` comes to. -/
inductive FileRun (chunkSize : U 32) : List (SysCall × ℤ) → End → Prop
  | unopened (h : ¬Opened os f) : FileRun chunkSize [] (.returned (-1))
  | undefined (h : Opened os f) (hc : chunkSize = 0 ∨ 2 ^ 63 ≤ f.size + chunkSize.val) :
      FileRun chunkSize [] .undefined
  | noMemory (h : Opened os f) (hc : ¬(chunkSize = 0 ∨ 2 ^ 63 ≤ f.size + chunkSize.val))
      (ha : os (.calloc (k.headerSz + chunkSize.val)) = false) : FileRun chunkSize [] (.returned (-1))
  | sent (h : Opened os f) (hc : ¬(chunkSize = 0 ∨ 2 ^ 63 ≤ f.size + chunkSize.val))
      (ha : os (.calloc (k.headerSz + chunkSize.val)) = true) (xs : List ℤ) (rc : ℤ)
      (hrun : ChunkRun k.ok (chunkReadable os f chunkSize.val) (u32 (chunkCount f.size chunkSize.val)) 0 (-1) xs rc) :
      FileRun chunkSize (chunkCalls q f chunkSize.val (u32 (chunkCount f.size chunkSize.val)) 0 xs) (.returned rc)

theorem observed_open (disk : Disk) (inputFile : String) (hf : disk inputFile = some f) (chunkSize : U 32)
    (l : List (SysCall × ℤ)) (r : End) :
    Observed os (sendFile k disk inputFile chunkSize) l r ↔
      (Opened os f ∧ Observed os (sendOpened k f chunkSize) l r) ∨
        (¬Opened os f ∧ l = [] ∧ r = .returned (-1)) := by
  have hfail : ¬Opened os f → (Observed os (return .returned (-1) : Tool End) l r ↔
      (Opened os f ∧ Observed os (sendOpened k f chunkSize) l r) ∨ (¬Opened os f ∧ l = [] ∧ r = .returned (-1))) := by
    intro hno
    rw [observed_ret]
    exact ⟨fun h => Or.inr ⟨hno, h⟩, fun h => h.elim (fun h => absurd h.1 hno) And.right⟩
  rw [sendFile, hf]
  dsimp only
  rw [observed_checked os fseekEnd _ _ _ l r (observed_local os .fseekEnd rfl)]
  cases h₁ : os .fseekEnd with
  | false => exact hfail fun h => Bool.false_ne_true (h₁.symm.trans h.1)
  | true =>
    rw [if_pos rfl, observed_checked os ftell _ _ _ l r (observed_local os .ftell rfl)]
    cases h₂ : os .ftell with
    | false => exact hfail fun h => Bool.false_ne_true (h₂.symm.trans h.2.1)
    | true =>
      rw [if_pos rfl]
      by_cases h₃ : f.size = 0
      · rw [if_pos h₃]
        exact hfail fun h => h.2.2.1 h₃
      · rw [if_neg h₃, observed_checked os (fseekSet 0) _ _ _ l r (observed_local os (.fseekSet 0) rfl)]
        cases h₄ : os (.fseekSet 0) with
        | false => exact hfail fun h => Bool.false_ne_true (h₄.symm.trans h.2.2.2)
        | true =>
          have hopen : Opened os f := ⟨h₁, h₂, h₃, h₄⟩
          exact ⟨fun h => Or.inl ⟨hopen, h⟩, fun h => h.elim And.right fun h => absurd hopen h.1⟩

theorem observed_sendOpened (hq : k.Asks os q) (hopen : Opened os f) (chunkSize : U 32) (l : List (SysCall × ℤ))
    (r : End) : Observed os (sendOpened k f chunkSize) l r ↔ FileRun os k q f chunkSize l r := by
  rw [sendOpened]
  by_cases hc : chunkSize = 0 ∨ 2 ^ 63 ≤ f.size + chunkSize.val
  · rw [if_pos hc, observed_ret]
    constructor
    · rintro ⟨rfl, rfl⟩
      exact .undefined hopen hc
    · intro hrun
      cases hrun with
      | unopened h => exact absurd hopen h
      | undefined => exact ⟨rfl, rfl⟩
      | noMemory _ h => exact absurd hc h
      | sent _ h => exact absurd hc h
  · have hc0 : chunkSize.val ≠ 0 := fun h => hc (Or.inl (Fin.ext h))
    rw [if_neg hc, observed_checked os (calloc _) _ _ _ l r (observed_local os (.calloc _) rfl)]
    cases ha : os (.calloc (k.headerSz + chunkSize.val)) with
    | false =>
      rw [if_neg Bool.false_ne_true, observed_ret]
      constructor
      · rintro ⟨rfl, rfl⟩
        exact .noMemory hopen hc ha
      · intro hrun
        cases hrun with
        | unopened h => exact absurd hopen h
        | undefined _ h => exact absurd h hc
        | noMemory => exact ⟨rfl, rfl⟩
        | sent _ _ h => exact absurd (ha.symm.trans h) Bool.false_ne_true
    | true =>
      rw [if_pos rfl, observed_bind]
      have hloop := observed_sendChunks os k q f chunkSize.val (u32 (chunkCount f.size chunkSize.val)) hq hopen.2.2.1
        hc0 (u32_le _) (u32 (chunkCount f.size chunkSize.val)) 0 0 (-1)
      constructor
      · rintro ⟨l₁, l₂, rc, rfl, hrun, hret⟩
        obtain ⟨rfl, rfl⟩ := (observed_ret os _ l₂ r).mp hret
        obtain ⟨xs, hxs, rfl⟩ := (hloop rc l₁ (Nat.zero_add _) (Or.inl (Nat.zero_mul _).symm)).mp hrun
        rw [List.append_nil]
        exact .sent hopen hc ha xs rc hxs
      · intro hrun
        cases hrun with
        | unopened h => exact absurd hopen h
        | undefined _ h => exact absurd h hc
        | noMemory _ _ h => exact absurd (h.symm.trans ha) Bool.false_ne_true
        | sent _ _ _ xs rc hxs =>
          exact ⟨_, [], rc, (List.append_nil _).symm,
            (hloop rc _ (Nat.zero_add _) (Or.inl (Nat.zero_mul _).symm)).mpr ⟨xs, hxs, rfl⟩,
            (observed_ret os _ [] _).mpr ⟨rfl, rfl⟩⟩

theorem observed_sendFile (hq : k.Asks os q) (disk : Disk) (inputFile : String) (hf : disk inputFile = some f)
    (chunkSize : U 32) (l : List (SysCall × ℤ)) (r : End) :
    Observed os (sendFile k disk inputFile chunkSize) l r ↔ FileRun os k q f chunkSize l r := by
  rw [observed_open os k f disk inputFile hf]
  by_cases hopen : Opened os f
  · rw [observed_sendOpened os k q f hq hopen]
    exact ⟨fun h => h.elim And.right fun h => absurd hopen h.1, fun h => Or.inl ⟨hopen, h⟩⟩
  · constructor
    · rintro (⟨h, -⟩ | ⟨-, rfl, rfl⟩)
      · exact absurd h hopen
      · exact .unopened hopen
    · intro hrun
      cases hrun with
      | unopened => exact Or.inr ⟨hopen, rfl, rfl⟩
      | undefined h => exact absurd h hopen
      | noMemory h => exact absurd h hopen
      | sent h => exact absurd h hopen

theorem forall_runs_sendFile (hq : k.Asks os q) (disk : Disk) (inputFile : String) (hf : disk inputFile = some f)
    (chunkSize : U 32) (P : List (SysCall × ℤ) → End → Prop) :
    (∀ t e, (sendFile k disk inputFile chunkSize).Runs t e → Follows os t → P (deviceCalls t) e) ↔
      ∀ l e, FileRun os k q f chunkSize l e → P l e := by
  constructor
  · intro hall l e hrun
    obtain ⟨t, ht, hos, rfl⟩ := (observed_sendFile os k q f hq disk inputFile hf chunkSize l e).mpr hrun
    exact hall t e ht hos
  · intro hall t e ht hos
    exact hall _ e ((observed_sendFile os k q f hq disk inputFile hf chunkSize _ e).mp ⟨t, ht, hos, rfl⟩)

end LibCxlmi.Tools
