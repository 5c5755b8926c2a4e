import LibCxlmi.Tools.Calls
import LibCxlmi.Tools.Union

/-!
# Rules for union downloads

`ActionDue` says what the tool may send after a response, `SendKeeps` what one
action with its unlock and lock comes to, and `UnionProof` collects what has to
be shown, step by step, for a property of all runs.
-/

namespace LibCxlmi.Tools
open LibCxlmi.Word LibCxlmi.Dialogue

def responseOf (o : ByteOrder) (x : VendorReply) : FwdownloadOutput :=
  .read o (if x.rc = 0 then fillBuf 44 (x.data.take 44) else zeros 44)

/-- What follows a response that does not end the session. -/
inductive ActionDue (f : File) (rsp : FwdownloadOutput) : FwAction → U 32 → U 32 → Bytes → Prop
  | data (h : fwState rsp.state = .needData) (hr : rangeOk f rsp.nextOffset rsp.nextLength = true) :
      ActionDue f rsp .data rsp.nextOffset (rsp.acceptedSequence + 1) (f.read rsp.nextOffset.val rsp.nextLength.val)
  | query (h : (fwState rsp.state).isBusy = true) : ActionDue f rsp .query 0 0 []
  | finish (h : fwState rsp.state = .readyToFinish) : ActionDue f rsp .finish 0 0 []

theorem rangeOk_iff (f : File) (offset length : U 32) : rangeOk f offset length = true ↔
    0 < length.val ∧ length.val ≤ 2016 ∧ offset.val + length.val ≤ (size32 f).val := by
  simp only [rangeOk, Bool.and_eq_true, decide_eq_true_eq, ne_eq]
  constructor
  · rintro ⟨⟨⟨h0, h1⟩, h2⟩, h3⟩
    have hpos : length.val ≠ 0 := fun h => h0 (Fin.ext h)
    omega
  · rintro ⟨h0, h1, h2⟩
    refine ⟨⟨⟨fun h => ?_, h1⟩, by omega⟩, by omega⟩
    rw [h] at h0
    exact absurd h0 (by decide)

theorem ActionDue.payload_le (f : File) (rsp : FwdownloadOutput) (a : FwAction) (off seq : U 32) (pl : Bytes)
    (h : ActionDue f rsp a off seq pl) : pl.length ≤ 2016 := by
  cases h with
  | data _ hr =>
    rw [File.read_length]
    exact ((rangeOk_iff f _ _).mp hr).2.1
  | query => exact Nat.zero_le _
  | finish => exact Nat.zero_le _

section Send
variable (k : CallContract) (o : ByteOrder)

/-- Unlock, the command and lock, from the calls `xs` on. -/
def SendKeeps (a : FwAction) (sp off seq : U 32) (pl : Bytes) (post : ℤ → FwdownloadOutput → Calls → Prop)
    (xs : Calls) : Prop :=
  k.guarantee xs (.vu vuunlock) ∧ ∀ x, k.rely xs (.vu vuunlock) x →
    (x.rc ≠ 0 → post (-1) noResponse (xs ++ [(.vu vuunlock, x)])) ∧
    (x.rc = 0 →
      k.guarantee (xs ++ [(.vu vuunlock, x)]) (.vu (fwdownloadRequest a sp off seq pl)) ∧
      ∀ y, k.rely (xs ++ [(.vu vuunlock, x)]) (.vu (fwdownloadRequest a sp off seq pl)) y →
        k.guarantee (xs ++ [(.vu vuunlock, x)] ++ [(.vu (fwdownloadRequest a sp off seq pl), y)]) (.vu vulock) ∧
        ∀ z, k.rely (xs ++ [(.vu vuunlock, x)] ++ [(.vu (fwdownloadRequest a sp off seq pl), y)]) (.vu vulock) z →
          post (sendResult a sp y.rc z.rc (responseOf o y)) (responseOf o y)
            (xs ++ [(.vu vuunlock, x)] ++ [(.vu (fwdownloadRequest a sp off seq pl), y)] ++ [(.vu vulock, z)]))

theorem keeps_fwdownloadSend (a : FwAction) (sp off seq : U 32) (pl : Bytes)
    (post : ℤ × FwdownloadOutput → Calls → Prop) (xs : Calls) (hlen : pl.length ≤ 2016)
    (h : SendKeeps k o a sp off seq pl (fun rc rsp => post (rc, rsp)) xs) :
    Keeps k (fwdownloadSend o a sp off seq pl) post xs := by
  rw [fwdownloadSend, if_neg (Nat.not_lt.mpr hlen)]
  refine keeps_bind k _ _ post xs (keeps_bind k _ _ _ xs (keeps_bind k _ _ _ xs ?_))
  refine keeps_vendor k _ 0 _ xs h.1 fun x hx => keeps_ret k _ _ _ (keeps_ret k _ _ _ ?_)
  obtain ⟨hlocked, hunlocked⟩ := h.2 x hx
  by_cases hrc : x.rc = 0
  · obtain ⟨hreq, hrest⟩ := hunlocked hrc
    rw [if_neg (not_not.mpr hrc)]
    refine keeps_bind k _ _ post _ (keeps_bind k _ _ _ _ ?_)
    refine keeps_vendor k _ 44 _ _ hreq fun y hy => keeps_ret k _ _ _ ?_
    obtain ⟨hlock, hpost⟩ := hrest y hy
    refine keeps_bind k _ _ post _ (keeps_bind k _ _ _ _ (keeps_bind k _ _ _ _ ?_))
    exact keeps_vendor k _ 0 _ _ hlock fun z hz =>
      keeps_ret k _ _ _ (keeps_ret k _ _ _ (keeps_ret k _ _ _ (hpost z hz)))
  · rw [if_pos hrc]
    exact keeps_ret k _ _ _ (hlocked hrc)

theorem sendKeeps_mono (a : FwAction) (sp off seq : U 32) (pl : Bytes)
    (post post' : ℤ → FwdownloadOutput → Calls → Prop) (xs : Calls)
    (himp : ∀ rc rsp ys, post rc rsp ys → post' rc rsp ys) (h : SendKeeps k o a sp off seq pl post xs) :
    SendKeeps k o a sp off seq pl post' xs := by
  refine ⟨h.1, fun x hx => ⟨fun hrc => himp _ _ _ ((h.2 x hx).1 hrc), fun hrc => ?_⟩⟩
  obtain ⟨hreq, hrest⟩ := (h.2 x hx).2 hrc
  exact ⟨hreq, fun y hy => ⟨(hrest y hy).1, fun z hz => himp _ _ _ ((hrest y hy).2 z hz)⟩⟩

end Send

/-! ### Rounds -/

/-- The checks on the response that opens a session. -/
def beginOk (f : File) (rsp : FwdownloadOutput) : Bool :=
  decide (rsp.sessionId ≠ 0) && decide (fwState rsp.state = .needData) && decide (rsp.totalBytes = size32 f)

def UnionExit.aborts (sid : U 32) (e : UnionExit) : Prop :=
  e.abortNeeded = true ∧ (fwState e.state).isTerminal = false ∧ sid ≠ 0

/-- What to show for `post` to hold at the end of every run: predicates of the
calls before BEGIN, after an accepted BEGIN, between two rounds, and at `out`,
and that each step leads from one to the next. -/
structure UnionProof (k : CallContract) (o : ByteOrder) (f : File) (image : UnionImage)
    (partition : Option UnionPartition) (post : End → Calls → Prop) where
  wait : Calls → Prop
  accepted : FwdownloadOutput → Calls → Prop
  inv : U 32 → FwdownloadOutput → Calls → Prop
  exit : U 32 → UnionExit → Calls → Prop
  waiting : ∀ xs, wait xs → post .running xs
  running : ∀ sid rsp xs, inv sid rsp xs → post .running xs
  early : post (.returned (-1)) []
  start : wait []
  begin_send : ∀ xs, wait xs →
    SendKeeps k o (beginAction image) (beginPartition image partition) (size32 f) 2016 [] (fun rc rsp ys =>
      (rc = 0 → accepted rsp ys) ∧ (rc = 2 → wait ys) ∧ (rc ≠ 0 → post (.returned (-1)) ys)) xs
  rejected : ∀ rsp xs, accepted rsp xs → beginOk f rsp = false → post (.returned (-1)) xs
  opened : ∀ rsp xs, accepted rsp xs → beginOk f rsp = true → inv rsp.sessionId rsp xs
  round_fail : ∀ sid rsp xs, inv sid rsp xs → exit sid ⟨-1, true, rsp.state⟩ xs
  round_end : ∀ sid rsp xs rc, inv sid rsp xs → (fwState rsp.state).isTerminal = true →
    (rc = 0 → fwState rsp.state = .complete) → exit sid ⟨rc, false, rsp.state⟩ xs
  round_send : ∀ sid rsp xs a off seq pl, inv sid rsp xs → ActionDue f rsp a off seq pl →
    SendKeeps k o a sid off seq pl
      (fun rc rsp' ys => exit sid ⟨-1, true, rsp'.state⟩ ys ∧ (rc = 0 → inv sid rsp' ys)) xs
  leave : ∀ sid e xs, exit sid e xs → ¬e.aborts sid → post (.returned e.rc) xs
  abort : ∀ sid e xs, exit sid e xs → e.aborts sid →
    SendKeeps k o .abort sid 0 0 [] (fun _ _ ys => post (.returned e.rc) ys) xs

section Rules
variable {k : CallContract} {o : ByteOrder} {f : File} {image : UnionImage} {partition : Option UnionPartition}
  {post : End → Calls → Prop} (P : UnionProof k o f image partition post)

/-- After a round: the invariant for the next one, or the way out. -/
def UnionProof.after (sid : U 32) : Session ⊕ UnionExit → Calls → Prop
  | .inl s => P.inv sid s.rsp
  | .inr e => P.exit sid e

theorem UnionProof.keeps_failWith (sid : U 32) (rsp : FwdownloadOutput) (xs : Calls)
    (h : P.exit sid ⟨-1, true, rsp.state⟩ xs) : Keeps k (failWith rsp) (P.after sid) xs :=
  keeps_ret k _ _ xs h

theorem UnionProof.keeps_sendAction (sid : U 32) (rsp : FwdownloadOutput) (a : FwAction) (off seq : U 32) (pl : Bytes)
    (next : FwdownloadOutput → Tool (Session ⊕ UnionExit)) (xs : Calls) (hinv : P.inv sid rsp xs)
    (hdue : ActionDue f rsp a off seq pl)
    (hnext : ∀ rsp' ys, P.exit sid ⟨-1, true, rsp'.state⟩ ys → P.inv sid rsp' ys →
      Keeps k (next rsp') (P.after sid) ys) :
    Keeps k (sendAction o a sid off seq pl next) (P.after sid) xs := by
  refine keeps_bind k _ _ _ xs (keeps_fwdownloadSend k o a sid off seq pl _ xs hdue.payload_le ?_)
  refine sendKeeps_mono k o a sid off seq pl _ _ xs ?_ (P.round_send sid rsp xs a off seq pl hinv hdue)
  rintro rc rsp' ys ⟨hexit, hok⟩
  by_cases hrc : rc = 0
  · change Keeps k (if rc ≠ 0 then failWith rsp' else next rsp') (P.after sid) ys
    rw [if_neg (not_not.mpr hrc)]
    exact hnext rsp' ys hexit (hok hrc)
  · change Keeps k (if rc ≠ 0 then failWith rsp' else next rsp') (P.after sid) ys
    rw [if_pos hrc]
    exact P.keeps_failWith sid rsp' ys hexit

theorem UnionProof.keeps_sendQuery (sid : U 32) (s : Session) (xs : Calls) (hinv : P.inv sid s.rsp xs)
    (hbusy : (fwState s.rsp.state).isBusy = true) : Keeps k (sendQuery o sid s) (P.after sid) xs := by
  refine keeps_bind k _ _ _ xs (keeps_local k _ (by nofun) _ xs fun _ _ => ?_)
  exact P.keeps_sendAction sid s.rsp .query 0 0 [] _ xs hinv (.query hbusy) fun rsp' ys _ h => keeps_ret k _ _ ys h

theorem UnionProof.keeps_sendData (sid : U 32) (s : Session) (xs : Calls) (hinv : P.inv sid s.rsp xs)
    (hstate : fwState s.rsp.state = .needData) : Keeps k (sendData o f sid s) (P.after sid) xs := by
  have hfail := P.keeps_failWith sid s.rsp xs (P.round_fail sid s.rsp xs hinv)
  unfold sendData
  dsimp only
  split_ifs with hlast hrange
  · exact hfail
  · exact hfail
  · rw [Bool.not_eq_false] at hrange
    refine keeps_attempt k _ _ _ _ xs (quiet_fseekSet k _) hfail ?_
    refine keeps_attempt k _ _ _ _ xs (quiet_fread k f _ _) hfail ?_
    refine P.keeps_sendAction sid s.rsp .data _ _ _ _ xs hinv (.data hstate hrange) fun rsp' ys hexit h => ?_
    split_ifs with hseq
    · exact P.keeps_failWith sid rsp' ys hexit
    · exact keeps_ret k _ _ ys h

theorem UnionProof.keeps_waitBusy (sid : U 32) (s : Session) (xs : Calls) (hinv : P.inv sid s.rsp xs)
    (hbusy : (fwState s.rsp.state).isBusy = true) : Keeps k (waitBusy o sid s) (P.after sid) xs := by
  refine keeps_bind k _ _ _ xs (keeps_local k _ (by nofun) _ xs fun now _ => ?_)
  have hfail := P.keeps_failWith sid s.rsp xs (P.round_fail sid s.rsp xs hinv)
  cases now with
  | none => exact hfail
  | some ms =>
    dsimp only
    split_ifs
    · exact P.keeps_sendQuery sid _ xs hinv hbusy
    · exact hfail
    · exact P.keeps_sendQuery sid s xs hinv hbusy

theorem UnionProof.keeps_unionRound (sid : U 32) (s : Session) (xs : Calls) (hinv : P.inv sid s.rsp xs) :
    Keeps k (unionRound o f sid s) (P.after sid) xs := by
  have hfail := P.keeps_failWith sid s.rsp xs (P.round_fail sid s.rsp xs hinv)
  rw [unionRound]
  split_ifs with hprogress
  · exact hfail
  · cases hst : fwState s.rsp.state with
    | preparing => exact P.keeps_waitBusy sid s xs hinv (by rw [hst]; rfl)
    | writing => exact P.keeps_waitBusy sid s xs hinv (by rw [hst]; rfl)
    | aborting => exact P.keeps_waitBusy sid s xs hinv (by rw [hst]; rfl)
    | needData => exact P.keeps_sendData sid s xs hinv hst
    | readyToFinish =>
      exact P.keeps_sendAction sid s.rsp .finish 0 0 [] _ xs hinv (.finish hst) fun rsp' ys _ h => keeps_ret k _ _ ys h
    | complete =>
      exact keeps_ret k _ _ xs (P.round_end sid s.rsp xs 0 hinv (by rw [hst]; rfl) fun _ => hst)
    | failed =>
      exact keeps_ret k _ _ xs (P.round_end sid s.rsp xs (-1) hinv (by rw [hst]; rfl) fun h => absurd h (by decide))
    | aborted =>
      exact keeps_ret k _ _ xs (P.round_end sid s.rsp xs (-1) hinv (by rw [hst]; rfl) fun h => absurd h (by decide))
    | idle => exact hfail
    | unknown => exact hfail

/-! ### Whole runs -/

theorem UnionProof.keeps_unionOut (sid : U 32) (e : UnionExit) (xs : Calls) (h : P.exit sid e xs) :
    Keeps k (unionOut o sid e) post xs := by
  unfold unionOut
  split_ifs with ha
  · refine keeps_bind k _ _ _ xs (keeps_fwdownloadSend k o .abort sid 0 0 [] _ xs (Nat.zero_le _) ?_)
    exact sendKeeps_mono k o _ _ _ _ _ _ _ xs (fun _ _ ys hpost => keeps_ret k _ _ ys hpost) (P.abort sid e xs h ha)
  · exact keeps_ret k _ _ xs (P.leave sid e xs h ha)

theorem UnionProof.keeps_unionSession (rounds : ℕ) (rsp : FwdownloadOutput) (xs : Calls) (h : P.accepted rsp xs) :
    Keeps k (unionSession o f rounds rsp) post xs := by
  rw [unionSession]
  split_ifs with hbad
  · have hrejected : beginOk f rsp = false := by
      simp only [beginOk, Bool.and_eq_false_iff, decide_eq_false_iff_not, not_not]
      tauto
    rw [unionOut, if_neg fun h => Bool.false_ne_true h.1]
    exact keeps_ret k _ _ xs (P.rejected rsp xs h hrejected)
  · have hok : beginOk f rsp = true := by
      simp only [beginOk, Bool.and_eq_true, decide_eq_true_eq]
      tauto
    refine keeps_bind k _ _ _ xs ?_
    refine keeps_mono k _ _ _ xs (keeps_iterate k (unionRound o f rsp.sessionId) (fun s => P.inv rsp.sessionId s.rsp)
      (P.exit rsp.sessionId) (fun s ys hs => ?_) rounds _ xs (P.opened rsp xs h hok)) fun r ys hr => ?_
    · refine keeps_mono k _ _ _ ys (P.keeps_unionRound rsp.sessionId s ys hs) fun r zs hr => ?_
      cases r with
      | inl s' => exact hr
      | inr e => exact hr
    · cases r with
      | none =>
        obtain ⟨s, hinv⟩ := hr
        exact keeps_ret k _ _ ys (P.running _ s.rsp ys hinv)
      | some e => exact P.keeps_unionOut rsp.sessionId e ys hr

/-- What a try to open the session leads to. -/
def UnionProof.afterBegin : Unit ⊕ (FwdownloadOutput ⊕ UnionExit) → Calls → Prop
  | .inl _ => P.wait
  | .inr (.inl rsp) => P.accepted rsp
  | .inr (.inr e) => fun ys => e.abortNeeded = false ∧ post (.returned e.rc) ys

theorem UnionProof.keeps_beginRound (begun : U 64) (xs : Calls) (h : P.wait xs) :
    Keeps k (beginRound o f image partition begun) P.afterBegin xs := by
  refine keeps_bind k _ _ _ xs (keeps_fwdownloadSend k o _ _ _ _ [] _ xs (Nat.zero_le _) ?_)
  refine sendKeeps_mono k o _ _ _ _ _ _ _ xs ?_ (P.begin_send xs h)
  rintro rc rsp ys ⟨hok, hbusy, hfailed⟩
  dsimp only
  split_ifs with h0 h2
  · exact keeps_ret k _ _ ys (hok h0)
  · exact keeps_ret k _ _ ys ⟨rfl, hfailed h0⟩
  · refine keeps_bind k _ _ _ ys (keeps_local k _ (by nofun) _ ys fun now _ => ?_)
    cases now with
    | none => exact keeps_ret k _ _ ys ⟨rfl, hfailed h0⟩
    | some ms =>
      dsimp only
      split_ifs
      · exact keeps_ret k _ _ ys ⟨rfl, hfailed h0⟩
      · refine keeps_bind k _ _ _ ys (keeps_local k _ (by nofun) _ ys fun _ _ => ?_)
        exact keeps_ret k _ _ ys (hbusy (not_not.mp h2))

theorem UnionProof.keeps_unionDownload (P : UnionProof k o f image partition post) (rounds : ℕ) :
    Keeps k (unionDownload o f image partition rounds) post [] := by
  have hearly : Keeps k (return .returned (-1) : Tool End) post [] := keeps_ret k _ _ [] P.early
  refine keeps_attempt k _ _ _ _ [] (quiet_fseekEnd k) hearly ?_
  refine keeps_attempt k _ _ _ _ [] (quiet_ftell k) hearly ?_
  split_ifs
  · exact hearly
  refine keeps_attempt k _ _ _ _ [] (quiet_fseekSet k 0) hearly ?_
  refine keeps_bind k _ _ _ [] (keeps_local k _ (by nofun) _ [] fun begun _ => ?_)
  cases begun with
  | none => exact hearly
  | some ms =>
    refine keeps_bind k _ _ _ [] (keeps_mono k _ _ _ [] (keeps_iterate k _ (fun _ => P.wait)
      (fun r => P.afterBegin (.inr r)) (fun _ ys hw => ?_) rounds () [] P.start) fun r ys hr => ?_)
    · refine keeps_mono k _ _ _ ys (P.keeps_beginRound (nowMs ms) ys hw) fun r zs hr => ?_
      cases r with
      | inl u => exact hr
      | inr r => exact hr
    · cases r with
      | none =>
        obtain ⟨_, hwait⟩ := hr
        exact keeps_ret k _ _ ys (P.waiting ys hwait)
      | some r =>
        cases r with
        | inl rsp => exact P.keeps_unionSession rounds rsp ys hr
        | inr e =>
          dsimp only
          rw [unionOut, if_neg fun h => Bool.false_ne_true (hr.1.symm.trans h.1)]
          exact keeps_ret k _ _ ys hr.2

end Rules

end LibCxlmi.Tools
