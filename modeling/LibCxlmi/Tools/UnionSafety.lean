import LibCxlmi.Tools.UnionExchange

/-!
# Safety of union downloads

What the tool keeps to in its FWDOWNLOAD actions, whatever the device answers:
data only as it was asked for, FINISH only when the device is ready for it,
nothing after ABORT, and 0 only for a session that is complete.
-/

namespace LibCxlmi.Tools
open LibCxlmi.Word LibCxlmi.Dialogue

/-! ### What the tool keeps to -/

/-- A request in a session, after the exchanges `xs`. -/
structure RequestOk (o : ByteOrder) (f : File) (xs : Exchanges) (r : VuRequest) : Prop where
  noAbort : NoAbort xs
  data : r.arg1 = FwAction.data.code → ∃ rsp, lastResponse o xs = some rsp ∧ fwState rsp.state = .needData ∧
    0 < rsp.nextLength.val ∧ rsp.nextLength.val ≤ 2016 ∧ rsp.nextOffset.val + rsp.nextLength.val ≤ f.size ∧
    r.arg3 = rsp.nextOffset ∧ r.payload = f.read rsp.nextOffset.val rsp.nextLength.val ∧
    begunSession o xs = some r.arg2 ∧ r.arg4 = rsp.acceptedSequence + 1
  finish : r.arg1 = FwAction.finish.code → ∃ rsp, lastResponse o xs = some rsp ∧ fwState rsp.state = .readyToFinish

/-- The last response is COMPLETE, for the session that was begun. -/
def Completed (o : ByteOrder) (xs : Exchanges) : Prop :=
  ∃ rsp, lastResponse o xs = some rsp ∧ fwState rsp.state = .complete ∧ begunSession o xs = some rsp.sessionId

section Proof
variable (o : ByteOrder) (f : File)

/-- Nothing is relied on. -/
def safeContract : CallContract where
  rely _ _ _ := True
  guarantee xs m := ∀ r, fwRequest m = some r → RequestOk o f (fwExchanges xs) r
  env _ _ := True

/-- The state of a session between two actions. -/
structure InSession (sid : U 32) (rsp : FwdownloadOutput) (xs : Exchanges) : Prop where
  noAbort : NoAbort xs
  last : lastResponse o xs = some rsp
  begun : begunSession o xs = some sid
  session : rsp.sessionId = sid

theorem sendKeeps_safe (a : FwAction) (sp off seq : U 32) (pl : Bytes)
    (post : ℤ → FwdownloadOutput → Exchanges → Prop) (xs : Calls)
    (hreq : RequestOk o f (fwExchanges xs) (fwdownloadRequest a sp off seq pl))
    (hfail : post (-1) noResponse (fwExchanges xs))
    (hpost : ∀ y lockRc, post (sendResult a sp y.rc lockRc (responseOf o y)) (responseOf o y)
      (fwExchanges xs ++ [(fwdownloadRequest a sp off seq pl, y)])) :
    SendKeeps (safeContract o f) o a sp off seq pl (fun rc rsp ys => post rc rsp (fwExchanges ys)) xs := by
  refine sendKeeps_exchange (safeContract o f) o a sp off seq pl post xs (fun ys => ⟨by nofun, by nofun⟩) ?_ hfail
    fun _ y lockRc _ => hpost y lockRc
  intro x r hr
  rw [fwExchanges_unlock, ← Option.some.inj hr]
  exact hreq

theorem requestOk_other (a : FwAction) (sp off seq : U 32) (pl : Bytes) (xs : Exchanges) (hxs : NoAbort xs)
    (hd : a ≠ .data) (hf : a ≠ .finish) : RequestOk o f xs (fwdownloadRequest a sp off seq pl) :=
  ⟨hxs, fun h => absurd (FwAction.code_injective h) hd, fun h => absurd (FwAction.code_injective h) hf⟩

theorem InSession.requestOk (hsize : f.size < 2 ^ 32) (sid : U 32) (rsp : FwdownloadOutput) (xs : Exchanges)
    (a : FwAction) (off seq : U 32) (pl : Bytes) (h : InSession o sid rsp xs) (hdue : ActionDue f rsp a off seq pl) :
    RequestOk o f xs (fwdownloadRequest a sid off seq pl) := by
  cases hdue with
  | data hstate hr =>
    obtain ⟨hpos, hle, hend⟩ := (rangeOk_iff f _ _).mp hr
    have h32 : (size32 f).val = f.size := Nat.mod_eq_of_lt hsize
    refine ⟨h.noAbort, fun _ => ?_, fun hcode => absurd hcode (by decide : FwAction.data.code ≠ FwAction.finish.code)⟩
    exact ⟨rsp, h.last, hstate, hpos, hle, h32 ▸ hend, rfl, rfl, h.begun, rfl⟩
  | query => exact requestOk_other o f _ _ _ _ _ xs h.noAbort FwAction.noConfusion FwAction.noConfusion
  | finish hstate =>
    exact ⟨h.noAbort, fun hcode => absurd hcode (by decide : FwAction.finish.code ≠ FwAction.data.code),
      fun _ => ⟨rsp, h.last, hstate⟩⟩

theorem InSession.next (sid : U 32) (rsp : FwdownloadOutput) (xs : Exchanges) (a : FwAction) (off seq : U 32)
    (pl : Bytes) (h : InSession o sid rsp xs) (hdue : ActionDue f rsp a off seq pl) (y : VendorReply) (lockRc : ℤ)
    (hok : sendResult a sid y.rc lockRc (responseOf o y) = 0) :
    InSession o sid (responseOf o y) (xs ++ [(fwdownloadRequest a sid off seq pl, y)]) := by
  obtain ⟨hbegin, habort⟩ := hdue.not_begin
  refine ⟨noAbort_append xs a _ _ _ _ y h.noAbort habort, lastResponse_append o xs _ y, ?_, ?_⟩
  · rw [begunSession_other o xs _ y ((isBeginRequest_code a _ _ _ _).trans hbegin)]
    exact h.begun
  · exact ((sendResult_eq_zero a sid y.rc lockRc _).mp hok).2.2.2.1 hbegin

/-- At `out`, 0 is returned only where the session is complete. -/
structure ExitOk (e : UnionExit) (xs : Exchanges) : Prop where
  noAbort : NoAbort xs
  zero : e.rc = 0 → e.abortNeeded = false ∧ Completed o xs

theorem exitOk_failed (st : U 32) (xs : Exchanges) (h : NoAbort xs) : ExitOk o ⟨-1, true, st⟩ xs :=
  ⟨h, fun hrc => absurd hrc (by decide : (-1 : ℤ) ≠ 0)⟩

def safeProof (hsize : f.size < 2 ^ 32) (image : UnionImage) (partition : Option UnionPartition) :
    UnionProof (safeContract o f) o f image partition
      (fun e xs => e = .returned 0 → Completed o (fwExchanges xs)) where
  wait xs := NoAbort (fwExchanges xs)
  accepted rsp xs := InSession o rsp.sessionId rsp (fwExchanges xs)
  inv sid rsp xs := InSession o sid rsp (fwExchanges xs)
  exit _ e xs := ExitOk o e (fwExchanges xs)
  waiting _ _ h := nomatch h
  running _ _ _ _ h := nomatch h
  early h := absurd (End.returned.inj h) (by decide)
  start := List.forall_mem_nil _
  begin_send xs hw := by
    have hcode := (isBeginRequest_code (beginAction image) (beginPartition image partition) (size32 f) 2016 []).trans
      (beginAction_isBegin image)
    have hbegins := beginAction_ne image
    have hrc : End.returned (-1) ≠ .returned 0 := by decide
    refine sendKeeps_safe o f _ _ _ _ _ (fun rc rsp ys => (rc = 0 → InSession o rsp.sessionId rsp ys) ∧
      (rc = 2 → NoAbort ys) ∧ (rc ≠ 0 → End.returned (-1) = .returned 0 → Completed o ys)) xs ?_ ?_ ?_
    · exact requestOk_other o f _ _ _ _ _ _ hw hbegins.1 hbegins.2.1
    · exact ⟨fun h => absurd h (by decide), fun h => absurd h (by decide), fun _ h => absurd h hrc⟩
    · intro y lockRc
      have hno := noAbort_append (fwExchanges xs) (beginAction image) (beginPartition image partition) (size32 f) 2016
        [] y hw hbegins.2.2
      exact ⟨fun _ => ⟨hno, lastResponse_append o _ _ y, begunSession_begin o _ _ y hcode, rfl⟩, fun _ => hno,
        fun _ h => absurd h hrc⟩
  rejected _ _ _ _ h := absurd (End.returned.inj h) (by decide)
  opened _ _ h _ := h
  round_fail _ _ _ h := exitOk_failed o _ _ h.noAbort
  round_end _ rsp _ _ h _ hrc :=
    ⟨h.noAbort, fun h0 => ⟨rfl, rsp, h.last, hrc h0, h.session ▸ h.begun⟩⟩
  round_send sid rsp xs a off seq pl h hdue := by
    refine sendKeeps_safe o f a sid off seq pl (fun rc rsp' ys => ExitOk o ⟨-1, true, rsp'.state⟩ ys ∧
      (rc = 0 → InSession o sid rsp' ys)) xs (h.requestOk o f hsize _ _ _ _ _ _ _ hdue) ?_ fun y lockRc => ?_
    · exact ⟨exitOk_failed o _ _ h.noAbort, fun h => absurd h (by decide)⟩
    · exact ⟨exitOk_failed o _ _ (noAbort_append _ a _ _ _ _ y h.noAbort hdue.not_begin.2),
        fun hok => h.next o f sid rsp _ a off seq pl hdue y lockRc hok⟩
  leave _ e _ h _ hret := (h.zero (End.returned.inj hret)).2
  abort sid e xs h ha := by
    refine sendKeeps_safe o f .abort sid 0 0 [] (fun _ _ ys => End.returned e.rc = .returned 0 → Completed o ys) xs
      (requestOk_other o f _ _ _ _ _ _ h.noAbort FwAction.noConfusion FwAction.noConfusion) ?_ fun _ _ => ?_
    · exact fun hret => absurd ((h.zero (End.returned.inj hret)).1.symm.trans ha.1) Bool.false_ne_true
    · exact fun hret => absurd ((h.zero (End.returned.inj hret)).1.symm.trans ha.1) Bool.false_ne_true

end Proof

theorem union_requests_safe (o : ByteOrder) (disk : Disk) (params : String × UnionImage × Option UnionPartition)
    (rounds : ℕ) (f : File) (hf : disk params.1 = some f) (hsize : f.size < 2 ^ 32) (t : Log) (e : End)
    (hrun : (vuDlunionDownload o disk params rounds).Runs t e) :
    (∀ pre r x rest, fwExchanges (vendorCalls t) = pre ++ (r, x) :: rest → RequestOk o f pre r) ∧
      (e = .returned 0 → Completed o (fwExchanges (vendorCalls t))) := by
  rw [vuDlunionDownload, hf] at hrun
  have hkept : (safeContract o f).Kept t := ⟨fun _ _ _ _ _ => trivial, fun _ _ _ => trivial⟩
  obtain ⟨hguar, hpost⟩ := keeps_sound (safeContract o f) _ _ t e
    ((safeProof o f hsize params.2.1 params.2.2).keeps_unionDownload rounds) hrun hkept
  refine ⟨fun pre r x rest hsplit => ?_, hpost⟩
  obtain ⟨before, c, after, hcalls, rfl, hc, -⟩ := filterMap_split fwExchange _ pre (r, x) rest hsplit
  obtain ⟨m, y⟩ := c
  obtain ⟨r', hr', heq⟩ := Option.map_eq_some_iff.mp hc
  obtain ⟨rfl, rfl⟩ := Prod.mk.inj heq
  exact hguar before m y after hcalls r' hr'

theorem oneRange_safe :
    (downloadOf smallImage 5).Runs (runOf smallImage 5 (scripted .little oneRange)).1 (.returned 0) ∧
    (fwExchanges (vendorCalls (runOf smallImage 5 (scripted .little oneRange)).1)).map (fun p => p.1.arg1) = [0, 1, 3] ∧
    (∀ pre r x rest,
      fwExchanges (vendorCalls (runOf smallImage 5 (scripted .little oneRange)).1) = pre ++ (r, x) :: rest →
      RequestOk .little smallImage pre r) ∧
    Completed .little (fwExchanges (vendorCalls (runOf smallImage 5 (scripted .little oneRange)).1)) := by
  have hrun := runOf_runs smallImage 5 (scripted .little oneRange) 0 (by decide +kernel)
  have hsafe := union_requests_safe .little (fun _ => some smallImage) ("union.bin", .union, none) 5 smallImage rfl
    (by decide) _ _ hrun
  exact ⟨hrun, by decide +kernel, hsafe.1, hsafe.2 rfl⟩

end LibCxlmi.Tools
