import LibCxlmi.Tools.UnionRules
import LibCxlmi.Word.Memory

/-!
# The exchanges of a union download

The FWDOWNLOAD actions of a run with the responses to them, without the unlocks
and locks around them; and devices that answer from a script.
-/

namespace LibCxlmi.Tools
open LibCxlmi.Word LibCxlmi.Dialogue

abbrev Exchanges := List (VuRequest × VendorReply)

def fwRequest : Message → Option VuRequest
  | .vu r => if r.vuCmdId = 0x0241 then some r else none
  | _ => none

def fwExchange (c : Message × VendorReply) : Option (VuRequest × VendorReply) :=
  (fwRequest c.1).map fun r => (r, c.2)

def fwExchanges (xs : Calls) : Exchanges := xs.filterMap fwExchange

theorem fwExchanges_unlock (xs : Calls) (x : VendorReply) :
    fwExchanges (xs ++ [(.vu vuunlock, x)]) = fwExchanges xs := by
  have hnone : fwExchange (.vu vuunlock, x) = none := rfl
  rw [fwExchanges, List.filterMap_append, List.filterMap_cons_none hnone]
  exact List.append_nil _

theorem fwExchanges_lock (xs : Calls) (x : VendorReply) :
    fwExchanges (xs ++ [(.vu vulock, x)]) = fwExchanges xs := by
  have hnone : fwExchange (.vu vulock, x) = none := rfl
  rw [fwExchanges, List.filterMap_append, List.filterMap_cons_none hnone]
  exact List.append_nil _

theorem fwExchanges_request (xs : Calls) (a : FwAction) (sp off seq : U 32) (pl : Bytes) (y : VendorReply) :
    fwExchanges (xs ++ [(.vu (fwdownloadRequest a sp off seq pl), y)]) =
      fwExchanges xs ++ [(fwdownloadRequest a sp off seq pl, y)] :=
  List.filterMap_append

/-- The response the tool has in hand after the exchanges. -/
def lastResponse (o : ByteOrder) (xs : Exchanges) : Option FwdownloadOutput :=
  xs.getLast?.map fun p => responseOf o p.2

def isBeginRequest (r : VuRequest) : Bool :=
  decide (r.arg1 = FwAction.begin.code) || decide (r.arg1 = FwAction.beginSocRt.code)

/-- The last BEGIN. -/
def beginOf (xs : Exchanges) : Option (VuRequest × VendorReply) := (xs.filter fun p => isBeginRequest p.1).getLast?

/-- The session id in the response to the last BEGIN. -/
def begunSession (o : ByteOrder) (xs : Exchanges) : Option (U 32) :=
  (beginOf xs).map fun p => (responseOf o p.2).sessionId

def NoAbort (xs : Exchanges) : Prop := ∀ p ∈ xs, p.1.arg1 ≠ FwAction.abort.code

theorem lastResponse_append (o : ByteOrder) (xs : Exchanges) (r : VuRequest) (y : VendorReply) :
    lastResponse o (xs ++ [(r, y)]) = some (responseOf o y) := by
  rw [lastResponse, List.getLast?_concat]
  rfl

theorem beginOf_begin (xs : Exchanges) (r : VuRequest) (y : VendorReply) (h : isBeginRequest r = true) :
    beginOf (xs ++ [(r, y)]) = some (r, y) := by
  have hone : [(r, y)].filter (fun p => isBeginRequest p.1) = [(r, y)] := List.filter_cons_of_pos h
  rw [beginOf, List.filter_append, hone, List.getLast?_concat]

theorem beginOf_other (xs : Exchanges) (r : VuRequest) (y : VendorReply) (h : isBeginRequest r = false) :
    beginOf (xs ++ [(r, y)]) = beginOf xs := by
  have hnone : [(r, y)].filter (fun p => isBeginRequest p.1) = [] :=
    List.filter_cons_of_neg fun hbegin => Bool.false_ne_true (h.symm.trans hbegin)
  rw [beginOf, List.filter_append, hnone, List.append_nil, beginOf]

theorem begunSession_begin (o : ByteOrder) (xs : Exchanges) (r : VuRequest) (y : VendorReply)
    (h : isBeginRequest r = true) : begunSession o (xs ++ [(r, y)]) = some (responseOf o y).sessionId := by
  rw [begunSession, beginOf_begin xs r y h]
  rfl

theorem begunSession_other (o : ByteOrder) (xs : Exchanges) (r : VuRequest) (y : VendorReply)
    (h : isBeginRequest r = false) : begunSession o (xs ++ [(r, y)]) = begunSession o xs := by
  rw [begunSession, beginOf_other xs r y h, begunSession]

theorem noAbort_append (xs : Exchanges) (a : FwAction) (sp off seq : U 32) (pl : Bytes) (y : VendorReply)
    (hxs : NoAbort xs) (ha : a ≠ .abort) : NoAbort (xs ++ [(fwdownloadRequest a sp off seq pl, y)]) := by
  intro p hp
  rcases List.mem_append.mp hp with hold | hnew
  · exact hxs p hold
  · rw [List.mem_singleton.mp hnew]
    exact fun h => ha (FwAction.code_injective h)

theorem isBeginRequest_code (a : FwAction) (sp off seq : U 32) (pl : Bytes) :
    isBeginRequest (fwdownloadRequest a sp off seq pl) = a.isBegin := by
  cases a <;> rfl

theorem beginAction_isBegin (image : UnionImage) : (beginAction image).isBegin = true := by
  cases image <;> rfl

theorem beginAction_ne (image : UnionImage) :
    beginAction image ≠ .data ∧ beginAction image ≠ .finish ∧ beginAction image ≠ .abort := by
  cases image <;> exact ⟨FwAction.noConfusion, FwAction.noConfusion, FwAction.noConfusion⟩

theorem ActionDue.not_begin (f : File) (rsp : FwdownloadOutput) (a : FwAction) (off seq : U 32) (pl : Bytes)
    (h : ActionDue f rsp a off seq pl) : a.isBegin = false ∧ a ≠ .abort := by
  cases h <;> exact ⟨rfl, FwAction.noConfusion⟩

theorem sendResult_eq_zero (a : FwAction) (sp : U 32) (rc lockRc : ℤ) (rsp : FwdownloadOutput) :
    sendResult a sp rc lockRc rsp = 0 ↔
      rc = 0 ∧ lockRc = 0 ∧ rsp.version = 1 ∧ (a.isBegin = false → rsp.sessionId = sp) ∧ rsp.result = 0 := by
  constructor
  · intro h
    unfold sendResult at h
    split_ifs at h with hrc hlock hversion hsession hresult
    · have hzero : rsp.result.val = 0 := int32_inj _ _ rsp.result.isLt (by decide) (h.trans (by decide))
      exact absurd (Fin.ext hzero) hresult
    · refine ⟨not_not.mp hrc, not_not.mp hlock, not_not.mp hversion, fun ha => ?_, not_not.mp hresult⟩
      by_contra hne
      exact hsession ⟨ha, hne⟩
  · rintro ⟨hrc, hlock, hversion, hsession, hresult⟩
    rw [sendResult, if_neg (not_not.mpr hrc), if_neg (not_not.mpr hlock), if_neg (not_not.mpr hversion),
      if_neg fun h => h.2 (hsession h.1), if_neg (not_not.mpr hresult)]

/-- A single action, for contracts that say nothing of the unlock and the lock, in terms of the exchanges. -/
theorem sendKeeps_exchange (k : CallContract) (o : ByteOrder) (a : FwAction) (sp off seq : U 32) (pl : Bytes)
    (post : ℤ → FwdownloadOutput → Exchanges → Prop) (xs : Calls)
    (hlocks : ∀ ys, k.guarantee ys (.vu vuunlock) ∧ k.guarantee ys (.vu vulock))
    (hreq : ∀ x, k.guarantee (xs ++ [(.vu vuunlock, x)]) (.vu (fwdownloadRequest a sp off seq pl)))
    (hfail : post (-1) noResponse (fwExchanges xs))
    (hpost : ∀ x y lockRc, k.rely (xs ++ [(.vu vuunlock, x)]) (.vu (fwdownloadRequest a sp off seq pl)) y →
      post (sendResult a sp y.rc lockRc (responseOf o y)) (responseOf o y)
        (fwExchanges xs ++ [(fwdownloadRequest a sp off seq pl, y)])) :
    SendKeeps k o a sp off seq pl (fun rc rsp ys => post rc rsp (fwExchanges ys)) xs := by
  refine ⟨(hlocks xs).1, fun x _ => ⟨fun _ => ?_, fun _ => ⟨hreq x, fun y hy => ⟨(hlocks _).2, fun z _ => ?_⟩⟩⟩⟩
  · dsimp only
    rw [fwExchanges_unlock]
    exact hfail
  · dsimp only
    rw [fwExchanges_lock, fwExchanges_request, fwExchanges_unlock]
    exact hpost x y z.rc hy

/-! ### Devices -/

def FwdownloadOutput.words (r : FwdownloadOutput) : List (U 32) :=
  [r.version, r.sessionId, r.state, r.result, r.acceptedSequence, r.imageIndex, r.nextOffset, r.nextLength,
    r.receivedBytes, r.totalBytes, r.retryAfterMs]

def FwdownloadOutput.encode (o : ByteOrder) (r : FwdownloadOutput) : Bytes :=
  r.words.flatMap fun w : U 32 => storeWord o 4 w.val

theorem hostWord_words (o : ByteOrder) (ws : List (U 32)) (i : ℕ) (w : U 32) (h : ws[i]? = some w) :
    hostWord o (ws.flatMap fun w : U 32 => storeWord o 4 w.val) (4 * i) = w := by
  have hslice : slice (ws.flatMap fun w : U 32 => storeWord o 4 w.val) (4 * i) 4 = storeWord o 4 w := by
    induction ws generalizing i with
    | nil => cases h
    | cons v ws ih =>
      rw [List.flatMap_cons]
      cases i with
      | zero =>
        rw [← Option.some.inj h, slice_append _ _ _ _ (by rw [storeWord_length])]
        exact slice_self _ 4 (storeWord_length o 4 v)
      | succ i =>
        rw [slice_append_right _ _ _ _ (by rw [storeWord_length]; omega), storeWord_length]
        exact ih i h
  rw [hostWord, hslice, loadWord_storeWord]
  exact Fin.ext ((Nat.mod_mod _ _).trans (Nat.mod_eq_of_lt w.isLt))

theorem FwdownloadOutput.read_encode (o : ByteOrder) (r : FwdownloadOutput) : .read o (r.encode o) = r := by
  rw [FwdownloadOutput.read, FwdownloadOutput.encode]
  rw [hostWord_words o r.words 0 r.version rfl, hostWord_words o r.words 1 r.sessionId rfl,
    hostWord_words o r.words 2 r.state rfl, hostWord_words o r.words 3 r.result rfl,
    hostWord_words o r.words 4 r.acceptedSequence rfl, hostWord_words o r.words 5 r.imageIndex rfl,
    hostWord_words o r.words 6 r.nextOffset rfl, hostWord_words o r.words 7 r.nextLength rfl,
    hostWord_words o r.words 8 r.receivedBytes rfl, hostWord_words o r.words 9 r.totalBytes rfl,
    hostWord_words o r.words 10 r.retryAfterMs rfl]

theorem FwdownloadOutput.encode_length (o : ByteOrder) (r : FwdownloadOutput) : (r.encode o).length = 44 := by
  simp only [encode, words, List.flatMap_cons, List.flatMap_nil, List.length_append, storeWord_length, List.length_nil]

theorem responseOf_encode (o : ByteOrder) (r : FwdownloadOutput) : responseOf o ⟨0, r.encode o⟩ = r := by
  have hlen := r.encode_length o
  rw [responseOf, if_pos rfl, List.take_of_length_le (Nat.le_of_eq hlen), fillBuf, hlen]
  exact (congrArg (FwdownloadOutput.read o) (List.append_nil _)).trans (r.read_encode o)

/-- Surroundings in which every call of the C library succeeds. -/
def answering (clock : Log → ℕ) (device : Calls → Message → VendorReply) (h : Log) : (q : SysCall) → q.Answer
  | .fseekEnd | .ftell | .fseekSet _ | .fread _ _ | .fopenWrite _ | .fwrite _ | .calloc _ => true
  | .clockGettime => some (clock h)
  | .usleep _ => ()
  | .transferFw _ => (0 : ℤ)
  | .vendor m _ => device (vendorCalls h) m

/-- The `n`-th FWDOWNLOAD action is answered by `script n`, every other command with success. -/
def scripted (o : ByteOrder) (script : ℕ → FwdownloadOutput) (xs : Calls) (m : Message) : VendorReply :=
  if (fwRequest m).isSome = true then ⟨0, (script (fwExchanges xs).length).encode o⟩ else ⟨0, []⟩

def smallImage : File := ⟨116, fun _ => 0xA5, by decide⟩

def downloadOf (f : File) (rounds : ℕ) : Tool End :=
  vuDlunionDownload .little (fun _ => some f) ("union.bin", .union, none) rounds

def runOf (f : File) (rounds : ℕ) (device : Calls → Message → VendorReply) : Log × End :=
  (downloadOf f rounds).play (answering (fun _ => 0) device) []

theorem runOf_runs (f : File) (rounds : ℕ) (device : Calls → Message → VendorReply) (rc : ℤ)
    (h : (runOf f rounds device).2 = .returned rc) :
    (downloadOf f rounds).Runs (runOf f rounds device).1 (.returned rc) := by
  rw [← h]
  exact play_runs _ _ []

/-- The device takes 116 bytes at once and is done. -/
def oneRange : ℕ → FwdownloadOutput
  | 0 => ⟨1, 7, 1, 0, 0, 0, 0, 116, 0, 116, 0⟩
  | 1 => ⟨1, 7, 4, 0, 1, 0, 0, 0, 116, 116, 0⟩
  | _ => ⟨1, 7, 5, 0, 1, 0, 0, 0, 116, 116, 0⟩

end LibCxlmi.Tools
