import LibCxlmi.Tools.UnionExchange
import LibCxlmi.Tools.VuCommands

/-!
# Unlock windows

Between an unlock that was reported successful and the lock after it the VU
mailbox is open. `windowAfter` follows this through the commands of a run, and
has no value once a command was sent out of turn. Each command keeps its windows
in order and closes them, except where vu-dlcfg divides by a chunk size of 0, or
runs over in the division's numerator, between the unlock and the lock.
-/

namespace LibCxlmi.Tools
open LibCxlmi.Word LibCxlmi.Dialogue

/-! ### The property -/

inductive VuKind where
  | unlock
  | lock
  | data
  deriving DecidableEq, Repr

def VuRequest.kind (r : VuRequest) : VuKind :=
  if r.vuCmdId = 0 then .unlock else if r.vuCmdId = 1 then .lock else .data

def Message.kind : Message → VuKind
  | .vu r => r.kind
  | .sdbVu _ r => r.kind
  | .sdb _ _ _ _ _ => .data

/-- What the tool takes the result of a command without reply data for. -/
def reportedRc (o : ByteOrder) (m : Message) (x : VendorReply) : ℤ :=
  match m with
  | .vu _ => x.rc
  | _ => if x.rc ≠ 0 then x.rc else (innerReturnCode o (fillBuf 16 (x.data.take 16)) : ℤ)

/-- `some true` while the mailbox is open. -/
def windowStep (o : ByteOrder) (s : Option Bool) (c : Message × VendorReply) : Option Bool :=
  match s, c.1.kind with
  | some false, .unlock => some (decide (reportedRc o c.1 c.2 = 0))
  | some true, .data => some true
  | some true, .lock => some false
  | _, _ => none

def windowAfter (o : ByteOrder) (xs : Calls) : Option Bool := xs.foldl (windowStep o) (some false)

def FailedLock (o : ByteOrder) (xs : Calls) : Prop := ∃ c ∈ xs, c.1.kind = .lock ∧ reportedRc o c.1 c.2 ≠ 0

/-- The commands `xs` of a run that ends in `e`. -/
def WindowsKept (o : ByteOrder) (xs : Calls) : End → Prop
  | .returned rc => windowAfter o xs = some false ∧ (FailedLock o xs → rc ≠ 0)
  | .running => windowAfter o xs ≠ none
  | .undefined => False

theorem windowAfter_append (o : ByteOrder) (xs : Calls) (c : Message × VendorReply) :
    windowAfter o (xs ++ [c]) = windowStep o (windowAfter o xs) c := by
  rw [windowAfter, List.foldl_append]
  rfl

theorem foldl_windowStep_none (o : ByteOrder) (xs : Calls) : xs.foldl (windowStep o) none = none := by
  induction xs with
  | nil => rfl
  | cons c xs ih => exact ih

section Step
variable (o : ByteOrder) (c : Message × VendorReply)

theorem windowStep_unlock (h : c.1.kind = .unlock) :
    windowStep o (some false) c = some (decide (reportedRc o c.1 c.2 = 0)) := by
  simp only [windowStep, h]

theorem windowStep_unlock_open (h : c.1.kind = .unlock) : windowStep o (some true) c = none := by
  simp only [windowStep, h]

theorem windowStep_data (h : c.1.kind = .data) : windowStep o (some true) c = some true := by
  simp only [windowStep, h]

theorem windowStep_lock (h : c.1.kind = .lock) : windowStep o (some true) c = some false := by
  simp only [windowStep, h]

end Step

/-- An open window is closed by the next lock, with nothing but data before it. -/
theorem open_then_lock (o : ByteOrder) (xs : Calls) (h : xs.foldl (windowStep o) (some true) = some false) :
    ∃ ds l rest, xs = ds ++ l :: rest ∧ (∀ d ∈ ds, d.1.kind = .data) ∧ l.1.kind = .lock ∧
      windowAfter o rest = some false := by
  induction xs with
  | nil => cases h
  | cons c xs ih =>
    rw [List.foldl_cons] at h
    cases hk : c.1.kind with
    | unlock =>
      rw [windowStep_unlock_open o c hk, foldl_windowStep_none] at h
      cases h
    | lock =>
      rw [windowStep_lock o c hk] at h
      exact ⟨[], c, xs, rfl, List.forall_mem_nil _, hk, h⟩
    | data =>
      rw [windowStep_data o c hk] at h
      obtain ⟨ds, l, rest, rfl, hds, hl, hrest⟩ := ih h
      exact ⟨c :: ds, l, rest, rfl, List.forall_mem_cons.mpr ⟨hk, hds⟩, hl, hrest⟩

/-- After an unlock that was reported successful come data commands, a lock, and
then windows again. -/
theorem unlock_then_lock (o : ByteOrder) (pre : Calls) (u : Message × VendorReply) (rest : Calls)
    (hkept : windowAfter o (pre ++ u :: rest) = some false) (hu : u.1.kind = .unlock)
    (hok : reportedRc o u.1 u.2 = 0) :
    ∃ ds l later, rest = ds ++ l :: later ∧ (∀ d ∈ ds, d.1.kind = .data) ∧ l.1.kind = .lock ∧
      windowAfter o later = some false := by
  rw [windowAfter, List.foldl_append, List.foldl_cons] at hkept
  refine open_then_lock o rest ?_
  cases hpre : pre.foldl (windowStep o) (some false) with
  | none =>
    have hnone : windowStep o none u = none := rfl
    rw [hpre, hnone, foldl_windowStep_none] at hkept
    cases hkept
  | some b =>
    rw [hpre] at hkept
    cases b with
    | false => rwa [windowStep_unlock o u hu, decide_eq_true hok] at hkept
    | true =>
      rw [windowStep_unlock_open o u hu, foldl_windowStep_none] at hkept
      cases hkept

/-! ### Rules -/

def Via.tunnelled : Via → Bool
  | .direct => false
  | .sdb _ => true

/- Nothing is relied on but the allocations: a request for the tunnel, the lock
among them, is not sent when there is no room for it. -/
def vuContract (tunnelled : Bool) : CallContract where
  rely _ _ _ := True
  guarantee _ _ := True
  env q a :=
    match q with
    | .calloc _ => tunnelled = true → a = true
    | _ => True

section Rules
variable (o : ByteOrder)

/-- The windows so far are in order, and no lock has failed. -/
structure Orderly (s : Bool) (xs : Calls) : Prop where
  window : windowAfter o xs = some s
  locks : ¬FailedLock o xs

theorem orderly_nil : Orderly o false [] := ⟨rfl, fun ⟨_, h, _⟩ => nomatch h⟩

theorem failedLock_append (xs : Calls) (c : Message × VendorReply) :
    FailedLock o (xs ++ [c]) ↔ FailedLock o xs ∨ (c.1.kind = .lock ∧ reportedRc o c.1 c.2 ≠ 0) := by
  constructor
  · rintro ⟨d, hd, hk, hrc⟩
    rcases List.mem_append.mp hd with hold | hnew
    · exact Or.inl ⟨d, hold, hk, hrc⟩
    · obtain rfl := List.mem_singleton.mp hnew
      exact Or.inr ⟨hk, hrc⟩
  · rintro (⟨d, hd, h⟩ | h)
    · exact ⟨d, List.mem_append_left _ hd, h⟩
    · exact ⟨c, List.mem_append_right _ (List.mem_singleton.mpr rfl), h⟩

theorem failedLock_other (xs : Calls) (c : Message × VendorReply) (hc : c.1.kind ≠ .lock) :
    FailedLock o (xs ++ [c]) ↔ FailedLock o xs := by
  rw [failedLock_append]
  exact or_iff_left fun h => hc h.1

theorem Orderly.unlock (xs : Calls) (m : Message) (x : VendorReply) (h : Orderly o false xs) (hm : m.kind = .unlock) :
    Orderly o (decide (reportedRc o m x = 0)) (xs ++ [(m, x)]) := by
  refine ⟨?_, fun hf => ?_⟩
  · rw [windowAfter_append, h.window, windowStep_unlock o (m, x) hm]
  · exact h.locks ((failedLock_other o xs (m, x) (by rw [hm]; decide)).mp hf)

theorem Orderly.data (xs : Calls) (m : Message) (x : VendorReply) (h : Orderly o true xs) (hm : m.kind = .data) :
    Orderly o true (xs ++ [(m, x)]) := by
  refine ⟨?_, fun hf => ?_⟩
  · rw [windowAfter_append, h.window, windowStep_data o (m, x) hm]
  · exact h.locks ((failedLock_other o xs (m, x) (by rw [hm]; decide)).mp hf)

/- After the lock the window is shut, and a lock that failed is this one. -/
theorem Orderly.lock (xs : Calls) (m : Message) (x : VendorReply) (h : Orderly o true xs) (hm : m.kind = .lock) :
    windowAfter o (xs ++ [(m, x)]) = some false ∧ (FailedLock o (xs ++ [(m, x)]) → reportedRc o m x ≠ 0) := by
  refine ⟨?_, fun hf => ?_⟩
  · rw [windowAfter_append, h.window, windowStep_lock o (m, x) hm]
  · rcases (failedLock_append o xs (m, x)).mp hf with hold | ⟨-, hrc⟩
    · exact absurd hold h.locks
    · exact hrc

theorem kind_message (v : Via) (r : VuRequest) : (v.message r).kind = r.kind := by
  cases v <;> rfl

theorem keeps_calloc {α : Type} (n : ℕ) (failed next : Tool α) (post : α → Calls → Prop) (xs : Calls)
    (h : Keeps (vuContract true) next post xs) : Keeps (vuContract true) (checked (calloc n) failed next) post xs := by
  refine keeps_checked _ _ _ _ _ xs (keeps_local _ _ (by nofun) _ xs fun b hb => ?_)
  have hb : b = true := hb rfl
  rw [if_pos hb]
  exact h

/-- A VU request and its result, on either way. -/
theorem keeps_exchange (v : Via) (r : VuRequest) (n : ℕ) (post : ℤ × Bytes → Calls → Prop) (xs : Calls)
    (hpost : ∀ x rc out, post (rc, out) (xs ++ [(v.message r, x)])) :
    Keeps (vuContract v.tunnelled) (v.exchange o r n) post xs := by
  cases v with
  | direct =>
    refine keeps_bind _ _ _ _ xs (keeps_vendor _ _ _ _ xs trivial fun x _ => keeps_ret _ _ _ _ ?_)
    exact hpost x _ _
  | sdb port =>
    refine keeps_calloc _ _ _ _ xs (keeps_calloc _ _ _ _ xs (keeps_bind _ _ _ _ xs (keeps_bind _ _ _ _ xs
      (keeps_vendor _ _ _ _ xs trivial fun x _ => keeps_ret _ _ _ _ ?_))))
    generalize (if x.rc = 0 then fillBuf (16 + n) (x.data.take (16 + n)) else zeros (16 + n)) = rsp
    dsimp only
    split_ifs
    · exact keeps_ret _ _ _ _ (hpost x _ _)
    · exact keeps_ret _ _ _ _ (hpost x _ _)
    · exact keeps_ret _ _ _ _ (hpost x _ _)

/-- A request without reply data, with what it reports. -/
theorem keeps_send (v : Via) (r : VuRequest) (post : ℤ → Calls → Prop) (xs : Calls)
    (hpost : ∀ x, post (reportedRc o (v.message r) x) (xs ++ [(v.message r, x)])) :
    Keeps (vuContract v.tunnelled) (v.send o r) post xs := by
  cases v with
  | direct =>
    refine keeps_bind _ _ _ _ xs (keeps_bind _ _ _ _ xs (keeps_vendor _ _ _ _ xs trivial fun x _ =>
      keeps_ret _ _ _ _ (keeps_ret _ _ _ _ ?_)))
    exact hpost x
  | sdb port =>
    refine keeps_bind _ _ _ _ xs (keeps_calloc _ _ _ _ xs (keeps_calloc _ _ _ _ xs (keeps_bind _ _ _ _ xs
      (keeps_bind _ _ _ _ xs (keeps_vendor _ _ _ _ xs trivial fun x _ => keeps_ret _ _ _ _ ?_)))))
    have hx := hpost x
    dsimp only [reportedRc, Via.message] at hx ⊢
    by_cases hrc : x.rc = 0
    · rw [if_neg (not_not.mpr hrc)] at hx ⊢
      rw [if_pos hrc]
      by_cases hinner : innerReturnCode o (fillBuf 16 (x.data.take 16)) = 0
      · rw [if_neg (not_not.mpr hinner)]
        rw [hinner] at hx
        exact keeps_ret _ _ _ _ (keeps_ret _ _ _ _ hx)
      · rw [if_pos hinner]
        exact keeps_ret _ _ _ _ (keeps_ret _ _ _ _ hx)
    · rw [if_pos hrc] at hx ⊢
      exact keeps_ret _ _ _ _ (keeps_ret _ _ _ _ hx)

/-- What the command inside a window has to keep to. -/
def InWindow (e : End) (xs : Calls) : Prop := Orderly o true xs ∧ e ≠ .undefined

theorem keeps_vuWindow (v : Via) (body : Tool End)
    (hbody : ∀ xs, Orderly o true xs → Keeps (vuContract v.tunnelled) body (InWindow o) xs) :
    Keeps (vuContract v.tunnelled) (vuWindow o v body) (fun e xs => WindowsKept o xs e) [] := by
  rw [vuWindow, v.unlock_eq, v.lock_eq]
  refine keeps_bind _ _ _ _ [] (keeps_send o v vuunlock _ [] fun x => ?_)
  have hopened := (orderly_nil o).unlock o [] (v.message vuunlock) x (kind_message v vuunlock)
  split_ifs with hrc
  · rw [decide_eq_false hrc] at hopened
    exact keeps_ret _ _ _ _ ⟨hopened.window, fun hf => absurd hf hopened.locks⟩
  · rw [decide_eq_true (not_not.mp hrc)] at hopened
    refine keeps_bind _ _ _ _ _ (keeps_mono _ _ _ _ _ (hbody _ hopened) fun e ys hin => ?_)
    obtain ⟨horderly, hdefined⟩ := hin
    cases e with
    | returned rc =>
      refine keeps_bind _ _ _ _ _ (keeps_send o v vulock _ ys fun z => keeps_ret _ _ _ _ ?_)
      obtain ⟨hshut, hfailed⟩ := horderly.lock o ys (v.message vulock) z (kind_message v vulock)
      refine ⟨hshut, fun hf => ?_⟩
      split_ifs with hrc0
      · exact hfailed hf
      · exact hrc0
    | undefined => exact absurd rfl hdefined
    | running =>
      refine keeps_ret _ _ _ _ ?_
      dsimp only [WindowsKept]
      rw [horderly.window]
      exact Option.some_ne_none _

end Rules

end LibCxlmi.Tools
