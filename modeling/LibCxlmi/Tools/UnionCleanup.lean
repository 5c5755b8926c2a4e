import LibCxlmi.Tools.UnionExchange

/-!
# Sessions left open by union downloads

A session that the device opened should be over when the tool returns: seen in
a terminal state, or aborted. The tool aborts what it has accepted as its own
session; a BEGIN it does not accept, a terminal state it takes from another
session and an unlock that fails before ABORT leave one open.
-/

namespace LibCxlmi.Tools
open LibCxlmi.Word LibCxlmi.Dialogue

/-- The device has opened a session. -/
def Opens (rsp : FwdownloadOutput) : Prop := rsp.result = 0 ∧ rsp.sessionId ≠ 0

instance (rsp : FwdownloadOutput) : Decidable (Opens rsp) := inferInstanceAs (Decidable (_ ∧ _))

def Terminated (o : ByteOrder) (sid : U 32) (xs : Exchanges) : Prop :=
  ∃ p ∈ xs, (responseOf o p.2).sessionId = sid ∧ (fwState (responseOf o p.2).state).isTerminal = true

def Aborted (sid : U 32) (xs : Exchanges) : Prop := ∃ p ∈ xs, p.1.arg1 = FwAction.abort.code ∧ p.1.arg2 = sid

/-- Every session that was opened has ended or was aborted. -/
def CleansUp (o : ByteOrder) (xs : Exchanges) : Prop :=
  ∀ p ∈ xs, isBeginRequest p.1 = true → Opens (responseOf o p.2) →
    Terminated o (responseOf o p.2).sessionId xs ∨ Aborted (responseOf o p.2).sessionId xs

instance (o : ByteOrder) (xs : Exchanges) : Decidable (CleansUp o xs) := by
  unfold CleansUp Terminated Aborted
  infer_instance

/-- The reply `x` to `m`, after the calls `xs`, does not lead the tool astray: a
session is opened as the tool expects it, or is over at once, and the lock after
that succeeds; and a terminal state is one of the session it was asked about. -/
structure ReplyOk (o : ByteOrder) (f : File) (xs : Calls) (m : Message) (x : VendorReply) : Prop where
  opened : ∀ r ∈ fwRequest m, isBeginRequest r = true → Opens (responseOf o x) →
    (fwState (responseOf o x).state).isTerminal = true ∨
      ((responseOf o x).version = 1 ∧ beginOk f (responseOf o x) = true)
  session : ∀ r ∈ fwRequest m, isBeginRequest r = false →
    (fwState (responseOf o x).state).isTerminal = true → (responseOf o x).sessionId = r.arg2
  locked : m = .vu vulock → ∀ c ∈ xs.getLast?, ∀ r ∈ fwRequest c.1, isBeginRequest r = true →
    Opens (responseOf o c.2) → (fwState (responseOf o c.2).state).isTerminal = true ∨ x.rc = 0

instance (o : ByteOrder) (f : File) (xs : Calls) (m : Message) (x : VendorReply) : Decidable (ReplyOk o f xs m x) :=
  decidable_of_iff (_ ∧ _ ∧ _) ⟨fun h => ⟨h.1, h.2.1, h.2.2⟩, fun h => ⟨h.opened, h.session, h.locked⟩⟩

/-- The run does not end with an unlock that failed. -/
def LastUnlocked (xs : Calls) : Prop := ∀ c ∈ xs.getLast?, c.1 = .vu vuunlock → c.2.rc = 0

instance (xs : Calls) : Decidable (LastUnlocked xs) := by
  unfold LastUnlocked
  infer_instance

section Proof
variable (o : ByteOrder) (f : File)

def cleanContract : CallContract where
  rely := ReplyOk o f
  guarantee _ _ := True
  env _ _ := True

/-- No session but `sid` was opened. -/
def OnlyOpened (sid : U 32) (xs : Exchanges) : Prop :=
  ∀ p ∈ xs, isBeginRequest p.1 = true → Opens (responseOf o p.2) → (responseOf o p.2).sessionId = sid

def NoneOpened (xs : Exchanges) : Prop := ∀ p ∈ xs, isBeginRequest p.1 = true → ¬Opens (responseOf o p.2)

theorem cleansUp_of_none (xs : Exchanges) (h : NoneOpened o xs) : CleansUp o xs :=
  fun p hp hb ho => absurd ho (h p hp hb)

theorem cleansUp_of_only (sid : U 32) (xs : Exchanges) (h : OnlyOpened o sid xs)
    (hover : sid ≠ 0 → Terminated o sid xs ∨ Aborted sid xs) : CleansUp o xs := by
  intro p hp hb ho
  have hsid := h p hp hb ho
  rw [hsid]
  exact hover (hsid ▸ ho.2)

theorem onlyOpened_append (sid : U 32) (xs : Exchanges) (r : VuRequest) (y : VendorReply) (h : OnlyOpened o sid xs)
    (hr : isBeginRequest r = true → Opens (responseOf o y) → (responseOf o y).sessionId = sid) :
    OnlyOpened o sid (xs ++ [(r, y)]) :=
  List.forall_mem_append.mpr ⟨h, List.forall_mem_singleton.mpr hr⟩

theorem NoneOpened.only (sid : U 32) (xs : Exchanges) (h : NoneOpened o xs) : OnlyOpened o sid xs :=
  fun p hp hb ho => absurd ho (h p hp hb)

theorem terminated_last (xs : Exchanges) (r : VuRequest) (y : VendorReply)
    (h : (fwState (responseOf o y).state).isTerminal = true) :
    Terminated o (responseOf o y).sessionId (xs ++ [(r, y)]) :=
  ⟨(r, y), List.mem_append_right xs (List.mem_singleton.mpr rfl), rfl, h⟩

theorem responseOf_failed (y : VendorReply) (h : y.rc ≠ 0) : responseOf o y = noResponse := by
  rw [responseOf, if_neg h]
  cases o <;> decide +kernel

theorem not_opens_noResponse : ¬Opens noResponse := fun h => h.2 rfl

theorem sendResult_busy (a : FwAction) (sp : U 32) (rc lockRc : ℤ) (rsp : FwdownloadOutput)
    (h : sendResult a sp rc lockRc rsp = 2) : ¬Opens rsp := by
  intro hopens
  unfold sendResult at h
  split_ifs at h with _ _ _ _ hresult
  · exact hresult hopens.1
  · exact absurd h (by decide)

/-- An accepted BEGIN. -/
structure Accepted (rsp : FwdownloadOutput) (xs : Exchanges) : Prop where
  only : OnlyOpened o rsp.sessionId xs
  ended : (fwState rsp.state).isTerminal = true → Terminated o rsp.sessionId xs
  valid : rsp.sessionId ≠ 0 → (fwState rsp.state).isTerminal = true ∨ beginOk f rsp = true

/-- Between two rounds. -/
structure Own (sid : U 32) (rsp : FwdownloadOutput) (xs : Exchanges) : Prop where
  only : OnlyOpened o sid xs
  session : rsp.sessionId = sid
  ended : (fwState rsp.state).isTerminal = true → Terminated o sid xs

structure Leaves (sid : U 32) (e : UnionExit) (xs : Exchanges) : Prop where
  only : OnlyOpened o sid xs
  ended : (fwState e.state).isTerminal = true → Terminated o sid xs
  ends : e.abortNeeded = false → (fwState e.state).isTerminal = true

/-- What a run that returns has to show. -/
def Cleaned : End → Calls → Prop
  | .returned _, xs => LastUnlocked xs → CleansUp o (fwExchanges xs)
  | _, _ => True

/- An action inside the session: the response is the tool's own, or a terminal
state of the session it asked about. -/
theorem own_send (sid : U 32) (rsp : FwdownloadOutput) (xs : Calls) (a : FwAction) (off seq : U 32) (pl : Bytes)
    (h : Own o sid rsp (fwExchanges xs)) (hdue : ActionDue f rsp a off seq pl) :
    SendKeeps (cleanContract o f) o a sid off seq pl (fun rc rsp' ys =>
      Leaves o sid ⟨-1, true, rsp'.state⟩ (fwExchanges ys) ∧ (rc = 0 → Own o sid rsp' (fwExchanges ys))) xs := by
  refine sendKeeps_exchange (cleanContract o f) o a sid off seq pl (fun rc rsp' ys =>
    Leaves o sid ⟨-1, true, rsp'.state⟩ ys ∧ (rc = 0 → Own o sid rsp' ys)) xs (fun _ => ⟨trivial, trivial⟩)
    (fun _ => trivial) ?_ fun x y lockRc hy => ?_
  · exact ⟨⟨h.only, fun ht => absurd ht (by decide), fun ht => absurd ht Bool.noConfusion⟩,
      fun h => absurd h (by decide)⟩
  · have hcode := (isBeginRequest_code a sid off seq pl).trans hdue.not_begin.1
    have honly : OnlyOpened o sid (fwExchanges xs ++ [(fwdownloadRequest a sid off seq pl, y)]) :=
      onlyOpened_append o sid _ _ y h.only fun hb => absurd (hcode.symm.trans hb) Bool.false_ne_true
    have hover : (fwState (responseOf o y).state).isTerminal = true →
        Terminated o sid (fwExchanges xs ++ [(fwdownloadRequest a sid off seq pl, y)]) := by
      intro hterm
      have hsid : (responseOf o y).sessionId = sid := hy.session _ rfl hcode hterm
      have hlast := terminated_last o (fwExchanges xs) (fwdownloadRequest a sid off seq pl) y hterm
      rwa [hsid] at hlast
    refine ⟨⟨honly, hover, fun ht => absurd ht Bool.noConfusion⟩, fun hrc => ⟨honly, ?_, hover⟩⟩
    exact ((sendResult_eq_zero a sid y.rc lockRc _).mp hrc).2.2.2.1 hdue.not_begin.1

theorem abort_send (sid : U 32) (e : UnionExit) (xs : Calls) (h : Leaves o sid e (fwExchanges xs)) :
    SendKeeps (cleanContract o f) o .abort sid 0 0 [] (fun _ _ ys => Cleaned o (.returned e.rc) ys) xs := by
  refine ⟨trivial, fun x _ => ⟨fun hx hlast => absurd (hlast _ (List.getLast?_concat) rfl) hx, fun _ => ?_⟩⟩
  refine ⟨trivial, fun y _ => ⟨trivial, fun z _ _ => ?_⟩⟩
  rw [fwExchanges_lock, fwExchanges_request, fwExchanges_unlock]
  refine cleansUp_of_only o sid _ (onlyOpened_append o sid _ _ y h.only fun hb => nomatch hb) fun _ => Or.inr ?_
  exact ⟨_, List.mem_append_right _ (List.mem_singleton.mpr rfl), rfl, rfl⟩

/- The replies to BEGIN and to the lock after it. -/
theorem begin_send (image : UnionImage) (partition : Option UnionPartition) (xs : Calls)
    (h : NoneOpened o (fwExchanges xs)) :
    SendKeeps (cleanContract o f) o (beginAction image) (beginPartition image partition) (size32 f) 2016 []
      (fun rc rsp ys => (rc = 0 → Accepted o f rsp (fwExchanges ys)) ∧ (rc = 2 → NoneOpened o (fwExchanges ys)) ∧
        (rc ≠ 0 → Cleaned o (.returned (-1)) ys)) xs := by
  have hbegin := beginAction_isBegin image
  have hcode := (isBeginRequest_code (beginAction image) (beginPartition image partition) (size32 f) 2016 []).trans
    hbegin
  refine ⟨trivial, fun x _ => ⟨fun _ => ?_, fun _ => ⟨trivial, fun y hy => ⟨trivial, fun z hz => ?_⟩⟩⟩⟩
  · dsimp only [Cleaned]
    rw [fwExchanges_unlock]
    exact ⟨fun h => absurd h (by decide), fun _ => h, fun _ _ => cleansUp_of_none o _ h⟩
  · dsimp only [Cleaned]
    rw [fwExchanges_lock, fwExchanges_request, fwExchanges_unlock]
    have honly : OnlyOpened o (responseOf o y).sessionId (fwExchanges xs ++
        [(fwdownloadRequest (beginAction image) (beginPartition image partition) (size32 f) 2016 [], y)]) :=
      onlyOpened_append o _ _ _ y (h.only o _ _) fun _ _ => rfl
    have hlast := terminated_last o (fwExchanges xs)
      (fwdownloadRequest (beginAction image) (beginPartition image partition) (size32 f) 2016 []) y
    have hopened := hy.opened _ rfl hcode
    have hlocked := hz.locked rfl _ List.getLast?_concat _ rfl hcode
    refine ⟨fun hrc => ⟨honly, hlast, fun hsid => ?_⟩, fun hrc => ?_, fun hrc _ => ?_⟩
    · have hresult := ((sendResult_eq_zero _ _ _ _ _).mp hrc).2.2.2.2
      exact (hopened ⟨hresult, hsid⟩).imp id And.right
    · refine List.forall_mem_append.mpr ⟨h, List.forall_mem_singleton.mpr fun _ => ?_⟩
      exact sendResult_busy _ _ _ _ _ hrc
    · intro p hp hb ho
      rcases List.mem_append.mp hp with hold | hnew
      · exact absurd ho (h p hold hb)
      · obtain rfl := List.mem_singleton.mp hnew
        have hy0 : y.rc = 0 := by
          by_contra hne
          rw [responseOf_failed o y hne] at ho
          exact not_opens_noResponse ho
        rcases hopened ho, hlocked ho with ⟨hterm | ⟨hversion, -⟩, hterm' | hz0⟩
        · exact Or.inl (hlast hterm)
        · exact Or.inl (hlast hterm)
        · exact Or.inl (hlast hterm')
        · have hsession : (beginAction image).isBegin = false →
              (responseOf o y).sessionId = beginPartition image partition := fun hnot => by
            rw [hbegin] at hnot
            exact absurd hnot.symm Bool.false_ne_true
          exact absurd ((sendResult_eq_zero _ _ _ _ _).mpr ⟨hy0, hz0, hversion, hsession, ho.1⟩) hrc

def cleanProof (image : UnionImage) (partition : Option UnionPartition) :
    UnionProof (cleanContract o f) o f image partition (Cleaned o) where
  wait xs := NoneOpened o (fwExchanges xs)
  accepted rsp xs := Accepted o f rsp (fwExchanges xs)
  inv sid rsp xs := Own o sid rsp (fwExchanges xs)
  exit sid e xs := Leaves o sid e (fwExchanges xs)
  waiting _ _ := trivial
  running _ _ _ _ := trivial
  early _ := cleansUp_of_none o _ (List.forall_mem_nil _)
  start := List.forall_mem_nil _
  begin_send xs h := begin_send o f image partition xs h
  rejected rsp xs h hbad _ := by
    refine cleansUp_of_only o rsp.sessionId _ h.only fun hsid => Or.inl ?_
    rcases h.valid hsid with hterm | hok
    · exact h.ended hterm
    · exact absurd (hbad.symm.trans hok) Bool.false_ne_true
  opened rsp xs h _ := ⟨h.only, rfl, h.ended⟩
  round_fail sid rsp xs h := ⟨h.only, h.ended, fun ht => absurd ht Bool.noConfusion⟩
  round_end sid rsp xs rc h hterm _ := ⟨h.only, h.ended, fun _ => hterm⟩
  round_send sid rsp xs a off seq pl h hdue := own_send o f sid rsp xs a off seq pl h hdue
  leave sid e xs h hleave _ := by
    refine cleansUp_of_only o sid _ h.only fun hsid => Or.inl (h.ended ?_)
    by_cases hneeded : e.abortNeeded = true
    · by_contra hterm
      exact hleave ⟨hneeded, Bool.eq_false_of_not_eq_true hterm, hsid⟩
    · exact h.ends (Bool.eq_false_of_not_eq_true hneeded)
  abort sid e xs h _ := abort_send o f sid e xs h

end Proof

theorem union_cleans_up (o : ByteOrder) (disk : Disk) (params : String × UnionImage × Option UnionPartition)
    (rounds : ℕ) (f : File) (hf : disk params.1 = some f) (t : Log) (rc : ℤ)
    (hrun : (vuDlunionDownload o disk params rounds).Runs t (.returned rc))
    (hreplies : ∀ pre m x rest, vendorCalls t = pre ++ (m, x) :: rest → ReplyOk o f pre m x)
    (hunlock : LastUnlocked (vendorCalls t)) : CleansUp o (fwExchanges (vendorCalls t)) := by
  rw [vuDlunionDownload, hf] at hrun
  have hkept : (cleanContract o f).Kept t := ⟨hreplies, fun _ _ _ => trivial⟩
  have hpost := (keeps_sound (cleanContract o f) _ _ t _
    ((cleanProof o f params.2.1 params.2.2).keeps_unionDownload rounds) hrun hkept).2
  exact hpost hunlock

/-- The device asks for the same range again: the tool gives up and aborts. -/
def sameRange : ℕ → FwdownloadOutput
  | 0 => ⟨1, 7, 1, 0, 0, 0, 0, 16, 0, 116, 0⟩
  | _ => ⟨1, 7, 1, 0, 1, 0, 0, 16, 0, 116, 0⟩

theorem sameRange_cleans_up :
    (fwExchanges (vendorCalls (runOf smallImage 5 (scripted .little sameRange)).1)).map (fun p => p.1.arg1) =
        [0, 1, 4] ∧
      CleansUp .little (fwExchanges (vendorCalls (runOf smallImage 5 (scripted .little sameRange)).1)) := by
  have hrun := runOf_runs smallImage 5 (scripted .little sameRange) (-1) (by decide +kernel)
  refine ⟨by decide +kernel, union_cleans_up .little (fun _ => some smallImage) ("union.bin", .union, none) 5 smallImage
    rfl _ (-1) hrun ?_ (by decide +kernel)⟩
  intro pre m x
  exact forall_split _ (fun pre c => ReplyOk .little smallImage pre c.1 c.2) (by decide +kernel) pre (m, x)

/-- BEGIN is answered by a session that is still being prepared. -/
def prematureState : ℕ → FwdownloadOutput := fun _ => ⟨1, 7, 2, 0, 0, 0, 0, 0, 0, 116, 0⟩

/-- DATA is answered by the end of another session. -/
def foreignSession : ℕ → FwdownloadOutput
  | 0 => ⟨1, 7, 1, 0, 0, 0, 0, 16, 0, 116, 0⟩
  | _ => ⟨1, 8, 6, 0, 1, 0, 0, 0, 0, 116, 0⟩

/-- After BEGIN nothing can be unlocked. -/
def lockedOut (xs : Calls) (m : Message) : VendorReply :=
  if m = .vu vuunlock ∧ xs ≠ [] then ⟨1, []⟩ else scripted .little sameRange xs m

theorem sessions_left_open :
    ((downloadOf smallImage 5).Runs (runOf smallImage 5 (scripted .little prematureState)).1 (.returned (-1)) ∧
      ¬CleansUp .little (fwExchanges (vendorCalls (runOf smallImage 5 (scripted .little prematureState)).1))) ∧
    ((downloadOf smallImage 5).Runs (runOf smallImage 5 (scripted .little foreignSession)).1 (.returned (-1)) ∧
      ¬CleansUp .little (fwExchanges (vendorCalls (runOf smallImage 5 (scripted .little foreignSession)).1))) ∧
    ((downloadOf smallImage 5).Runs (runOf smallImage 5 lockedOut).1 (.returned (-1)) ∧
      ¬CleansUp .little (fwExchanges (vendorCalls (runOf smallImage 5 lockedOut).1))) := by
  refine ⟨⟨?_, by decide +kernel⟩, ⟨?_, by decide +kernel⟩, ?_, by decide +kernel⟩
  · exact runOf_runs smallImage 5 (scripted .little prematureState) (-1) (by decide +kernel)
  · exact runOf_runs smallImage 5 (scripted .little foreignSession) (-1) (by decide +kernel)
  · exact runOf_runs smallImage 5 lockedOut (-1) (by decide +kernel)

end LibCxlmi.Tools
