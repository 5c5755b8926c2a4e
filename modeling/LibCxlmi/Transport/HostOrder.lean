import LibCxlmi.Transport.Silent

/-!
# One command on hosts of both byte orders

What the transports do with a request that was armed on a little-endian and on
a big-endian host. A request carries two words in host order, `return_code` and
`vendor_ext_status`, of which only the second is not zero, and each tunnel adds
one, `command_size`. The mailbox strips the header of a direct command and the
mock does not look at it, so these two treat both requests alike.
-/

namespace LibCxlmi.Transport
open LibCxlmi.Word LibCxlmi.Cci

/-! ### Transmitted bytes -/

/-- The first byte in memory of the `vendor_ext_status` of a request. -/
def statusByte : ByteOrder → Byte
  | .little => 0xcd
  | .big => 0xab

theorem statusByte_ne : statusByte .little ≠ statusByte .big := by decide

theorem byteAt_status (o : ByteOrder) (tg cmd set : Byte) (n : ℕ) (pl : Bytes) :
    byteAt (cciHeader o tg cmd set n ++ pl) 10 = statusByte o := by
  cases o with
  | little => rfl
  | big => rfl

theorem buildTunnelReq_status (o : ByteOrder) (c : Option ℕ) (id : ℤ) (m : Bytes) :
    byteAt (buildTunnelReq o c id m) 10 = statusByte o := byteAt_status o _ _ _ _ _

theorem mctpMsg_status (o : ByteOrder) (m : MctpTransport) (ti : Option TunnelInfo) (req : Bytes)
    (h : byteAt req 10 = statusByte o) : byteAt (mctpMsg o m ti req) 10 = statusByte o := by
  unfold mctpMsg
  cases ti with
  | none => exact h
  | some t =>
    simp only [mctpTunnelReq, mctpTunnel2Req]
    split_ifs
    · exact h
    · exact buildTunnelReq_status o _ _ _
    · exact buildTunnelReq_status o _ _ _

theorem transferred_mctpMsg_ne (m : MctpTransport) (ti : Option TunnelInfo) (reqL reqB : Bytes)
    (hL : byteAt reqL 10 = statusByte .little) (hB : byteAt reqB 10 = statusByte .big) :
    transferred (mctpMsg .little m ti reqL) ≠ transferred (mctpMsg .big m ti reqB) := by
  intro h
  have hbyte := congrArg (byteAt · 10) h
  simp only [transferred, byteAt_take _ maxRwCount 10 (by decide), mctpMsg_status .little m ti reqL hL,
    mctpMsg_status .big m ti reqB hB] at hbyte
  exact statusByte_ne hbyte

/-- The message behind the outermost tunnel header of a mailbox command. -/
def mailboxInner (o : ByteOrder) (t : TunnelInfo) (req : Bytes) : Bytes :=
  if t.level = 1 then req else buildTunnelReq o none t.ld req

theorem mailboxTunnelReq_eq (o : ByteOrder) (t : TunnelInfo) (req : Bytes) :
    mailboxTunnelReq o t req = ioctlTunnelReq o (outerId t) (mailboxInner o t req) := by
  unfold mailboxTunnelReq outerId mailboxInner ioctlTunnel2Req
  split_ifs
  · rfl
  · rfl

/- More than four bytes of the message reach the first byte of `command_size`,
more than 14 the status; where `in.size` is in between it has wrapped, and
`command_size` is small and not its own swap. -/
theorem ioctlTunnelReq_take_ne (id : ℤ) (mL mB : Bytes) (hlen : mL.length = mB.length)
    (hL : byteAt mL 10 = statusByte .little) (hB : byteAt mB 10 = statusByte .big)
    (h4 : 4 < u32 (4 + mL.length)) :
    (ioctlTunnelReq .little id mL).take (u32 (4 + mL.length)) ≠
      (ioctlTunnelReq .big id mB).take (u32 (4 + mL.length)) := by
  intro h
  by_cases h14 : 14 < u32 (4 + mL.length)
  · have hbyte := congrArg (byteAt · 14) h
    have hin : ∀ o m, byteAt (ioctlTunnelReq o id m) 14 = byteAt m 10 := by
      intro o m
      rw [← ioctlTunnelReq_drop o id m, byteAt_drop, ioctlTunnelReq_drop]
    simp only [byteAt_take _ _ 14 h14, hin, hL, hB] at hbyte
    exact statusByte_ne hbyte
  · have hbyte := congrArg (fun b => (byteAt b 2).val) h
    have hlow : (byteAt (ioctlTunnelReq .little id mL) 2).val = mL.length % 256 := rfl
    have hhigh : (byteAt (ioctlTunnelReq .big id mB) 2).val = mB.length / 256 % 256 := rfl
    simp only [byteAt_take _ _ 2 (show 2 < u32 (4 + mL.length) by omega), hlow, hhigh] at hbyte
    unfold u32 at h4 h14
    have hdiv : mL.length / 256 = 2 ^ 24 * ((4 + mL.length) / 2 ^ 32) := by omega
    have hmod : mL.length % 256 = (4 + mL.length) % 2 ^ 32 - 4 := by omega
    rw [← hlen, hdiv, hmod] at hbyte
    omega

theorem storeWord_two_eq (v : ℕ) (h : v % 256 = v / 256 % 256) : storeWord .little 2 v = storeWord .big 2 v := by
  have hL : leBytes 2 v = [⟨v % 256, by omega⟩, ⟨v / 256 % 256, by omega⟩] := rfl
  simp only [storeWord, hL, h, List.reverse_cons, List.reverse_nil, List.nil_append, List.cons_append]

theorem ioctlTunnelReq_take_eq (id : ℤ) (mL mB : Bytes) (hlen : mL.length = mB.length)
    (h4 : u32 (4 + mL.length) ≤ 4) :
    (ioctlTunnelReq .little id mL).take (u32 (4 + mL.length)) =
      (ioctlTunnelReq .big id mB).take (u32 (4 + mL.length)) := by
  unfold ioctlTunnelReq tunnelReqHdr
  rw [List.append_assoc, List.append_assoc]
  by_cases h2 : u32 (4 + mL.length) ≤ 2
  · rw [List.take_append_of_le_length h2, List.take_append_of_le_length h2]
  · have hsize : storeWord .little 2 mL.length = storeWord .big 2 mB.length := by
      rw [← hlen]
      apply storeWord_two_eq
      unfold u32 at h4 h2
      omega
    have hroom : ∀ o n, u32 (4 + mL.length) ≤ ([uint8 id, targetTypePortOrLd] ++ storeWord o 2 n).length := by
      intro o n
      rw [List.length_append, storeWord_length]
      exact h4
    rw [← List.append_assoc, ← List.append_assoc, List.take_append_of_le_length (hroom _ _),
      List.take_append_of_le_length (hroom _ _), hsize]

/-! ### Outcomes -/

/-- Outcomes that a caller cannot tell apart, whose responses have the same
payload and payload length. -/
structure Alike (a b : Outcome Endpoint) : Prop where
  rc : a.rc = b.rc
  sent : a.sent = b.sent
  recorded : recorded a.st = recorded b.st
  payload : Cci.payload a.rsp = Cci.payload b.rsp
  plLength : Cci.plLength a.rsp = Cci.plLength b.rsp

theorem alike_refl (a : Outcome Endpoint) : Alike a a := ⟨rfl, rfl, rfl, rfl, rfl⟩

theorem mockRsp_alike (cat tg : Byte) (reqL reqB : Bytes) (code : ℕ) (pl : Bytes) (rspSz : ℕ)
    (hc : command reqL = command reqB) (hs : commandSet reqL = commandSet reqB) :
    payload (mockRsp .little cat tg reqL code pl rspSz) = payload (mockRsp .big cat tg reqB code pl rspSz) ∧
      plLength (mockRsp .little cat tg reqL code pl rspSz) = plLength (mockRsp .big cat tg reqB code pl rspSz) := by
  rw [mockRsp, mockRsp, hc, hs]
  exact ⟨rfl, rfl⟩

theorem mockRecord_orders (env : Env) (k : MockTransport) (tg cmd set : Byte) (pl : Bytes) :
    mockRecord env k (cciHeader .little tg cmd set pl.length ++ pl) =
      mockRecord env k (cciHeader .big tg cmd set pl.length ++ pl) := by
  simp only [mockRecord, plLength_cciHeader, payload_cciHeader, command_cciHeader, commandSet_cciHeader]

theorem sendMockCmd_alike (env : Env) (ep : Endpoint) (k : MockTransport) (tg cmd set : Byte) (pl : Bytes)
    (rspSz : ℕ) :
    Alike
      ((sendMockCmd .little env k (cciHeader .little tg cmd set pl.length ++ pl) rspSz).map
        fun k => { ep with transportData := some (.mock k) })
      ((sendMockCmd .big env k (cciHeader .big tg cmd set pl.length ++ pl) rspSz).map
        fun k => { ep with transportData := some (.mock k) }) := by
  have hrsp := fun cat tg' code pl' => mockRsp_alike cat tg' (cciHeader .little tg cmd set pl.length ++ pl)
    (cciHeader .big tg cmd set pl.length ++ pl) code pl' rspSz rfl rfl
  simp only [sendMockCmd, command_cciHeader, commandSet_cciHeader, tag_cciHeader, mockRecord_orders]
  cases mockFindResponse set cmd (mockRecord env k (cciHeader .big tg cmd set pl.length ++ pl)).responses with
  | none => exact ⟨rfl, rfl, rfl, (hrsp _ _ _ _).1, (hrsp _ _ _ _).2⟩
  | some p => exact ⟨rfl, rfl, rfl, (hrsp _ _ _ _).1, (hrsp _ _ _ _).2⟩

theorem sendIoctlDirect_orders (env : Env) (fd : ℤ) (tg cmd set : Byte) (pl : Bytes) (rspSz : ℕ) :
    sendIoctlDirect env fd (cciHeader .little tg cmd set pl.length ++ pl) rspSz =
      sendIoctlDirect env fd (cciHeader .big tg cmd set pl.length ++ pl) rspSz := by
  simp only [sendIoctlDirect, rawOpcode, payload_cciHeader, command_cciHeader, commandSet_cciHeader]

/-! ### Replies to a tunnelled mailbox command -/

/-- Whether a reply of the smallest size the caller takes gets through: its
length has to fit the 16 bits of the tunnel header and the 32 of `out.size`. -/
def Answerable (k rspSz rspMin : ℕ) : Prop :=
  16 * k + rspMin < 2 ^ 16 ∧ 4 + 16 * k + rspMin ≤ u32 (4 + 16 * k + rspSz)

theorem unanswerable_rc (o : ByteOrder) (env : Env) (fd : ℤ) (k : ℕ) (tReq : Bytes) (rspSz rspMin : ℕ)
    (retval : U 16) (out : Bytes) (hio : tunnelledIoctl env fd k rspSz = .done retval out)
    (h : ¬Answerable k rspSz rspMin) :
    (sendIoctlTunnelled o env fd k tReq rspSz rspMin).rc = if retval ≠ 0 then -(retval.val : ℤ) else -1 := by
  have hlen := tunnelledIoctl_length env fd k rspSz retval out hio
  rw [sendIoctlTunnelled_done o env fd k tReq rspSz rspMin retval out hio]
  by_cases hshort : out.length < 4 + 16 * k + rspMin
  · rw [if_pos hshort]
  · have hbig : 2 ^ 16 ≤ 16 * k + rspMin := by
      by_contra hsmall
      exact h ⟨by omega, by omega⟩
    have hfail : tunnelReport out = .failed := by
      have hfield := tunnelLength_lt out 0
      unfold tunnelReport
      exact if_neg (by omega)
    rw [if_neg hshort, tunnelledReports, hfail]
    rfl

theorem sendIoctlTunnelled_unanswerable (env : Env) (ep : Endpoint) (k : ℕ) (reqL reqB : Bytes)
    (rspSz rspMin : ℕ) (htx : mailboxTx ep.fd 0x5300 reqL = mailboxTx ep.fd 0x5300 reqB)
    (h : ¬Answerable k rspSz rspMin) :
    Alike ((sendIoctlTunnelled .little env ep.fd k reqL rspSz rspMin).map fun _ => ep)
      ((sendIoctlTunnelled .big env ep.fd k reqB rspSz rspMin).map fun _ => ep) := by
  cases hio : tunnelledIoctl env ep.fd k rspSz with
  | error =>
    rw [sendIoctlTunnelled_error _ env ep.fd k _ rspSz rspMin hio,
      sendIoctlTunnelled_error _ env ep.fd k _ rspSz rspMin hio]
    exact alike_refl _
  | done retval out =>
    have hrc := fun o req => unanswerable_rc o env ep.fd k req rspSz rspMin retval out hio h
    have hne : ∀ o req, (sendIoctlTunnelled o env ep.fd k req rspSz rspMin).rc ≠ 0 := by
      intro o req
      rw [hrc]
      split_ifs with hr
      · have hv : retval.val ≠ 0 := fun hv => hr (Fin.ext hv)
        omega
      · decide
    have hrsp := fun o req => sendIoctlTunnelled_failed_rsp o env ep.fd k req rspSz rspMin (hne o req)
    refine ⟨(hrc _ _).trans (hrc _ _).symm, ?_, (rfl : recorded ep = recorded ep), ?_, ?_⟩
    · simp only [Outcome.map, sendIoctlTunnelled_sent _ env ep.fd k _ rspSz rspMin retval out hio, htx]
    · simp only [Outcome.map, hrsp]
    · simp only [Outcome.map, hrsp]

def errorReply (req : Bytes) (n : ℕ) : Bytes :=
  [categoryRsp, tag req, 0, command req, commandSet req, 0, 0, 0, 1, 0, 0, 0] ++ zeros (n - 12)

/-- The code such a reply gives: 1 read as a little-endian word, 256 otherwise. -/
def errorCode : ByteOrder → ℕ
  | .little => 1
  | .big => 256

theorem cciReport_errorReply (o : ByteOrder) (req : Bytes) (n : ℕ) (f : Bool) (l : ℕ) :
    cciReport o req (errorReply req n) f l = .code (errorCode o) := by
  have hcode : returnCode o (errorReply req n) = errorCode o := by
    cases o with
    | little => rfl
    | big => rfl
  rw [cciReport_eq_code, hcode]
  refine ⟨?_, ⟨rfl, rfl, rfl, rfl⟩, ?_, rfl⟩
  · rw [errorReply, List.length_append]
    exact Nat.le_add_right 12 _
  · cases o with
    | little => decide
    | big => decide

theorem judge_errorReply (o : ByteOrder) (rspSz rspMin k : ℕ) (req : Bytes) (n : ℕ) :
    judge (nestReports o (mctpRule rspSz rspMin) k req (errorReply req n)) = errorCode o := by
  cases k with
  | zero =>
    rw [nestReports, cciReport_errorReply]
    rfl
  | succ k =>
    rw [nestReports, cciReport_errorReply]
    rfl

def errorOut (req : Bytes) (n : ℕ) : Bytes := leBytes 2 n ++ zeros 2 ++ errorReply req n

theorem sendIoctlTunnelled_errorOut (o : ByteOrder) (env : Env) (fd : ℤ) (k : ℕ) (tReq : Bytes)
    (rspSz rspMin : ℕ) (hret : Returns env (errorOut (tReq.drop 4) (16 * k + rspMin))) (hfd : 0 ≤ fd)
    (hmin : 12 ≤ rspMin) (h : Answerable k rspSz rspMin) :
    (sendIoctlTunnelled o env fd k tReq rspSz rspMin).rc = errorCode o := by
  have hlen : (errorOut (tReq.drop 4) (16 * k + rspMin)).length = 4 + 16 * k + rspMin := by
    simp only [errorOut, errorReply, List.length_append, leBytes_length, zeros_length, List.length_cons,
      List.length_nil]
    omega
  have hdrop : (errorOut (tReq.drop 4) (16 * k + rspMin)).drop 4 = errorReply (tReq.drop 4) (16 * k + rspMin) :=
    List.drop_left' (by rw [List.length_append, leBytes_length, zeros_length])
  have hfield : leVal (slice (errorOut (tReq.drop 4) (16 * k + rspMin)) 0 2) = 16 * k + rspMin := by
    have hs : slice (errorOut (tReq.drop 4) (16 * k + rspMin)) 0 2 = leBytes 2 (16 * k + rspMin) := rfl
    rw [hs]
    exact leVal_leBytes_of_lt 2 _ h.1
  have htun : tunnelReport (errorOut (tReq.drop 4) (16 * k + rspMin)) = .ok := by
    unfold tunnelReport
    exact if_pos ⟨by omega, by omega⟩
  have hio := tunnelledIoctl_returns env fd k rspSz _ hret hfd
  rw [List.take_of_length_le (by rw [hlen]; exact h.2)] at hio
  rw [sendIoctlTunnelled_done o env fd k tReq rspSz rspMin 0 _ hio, if_neg (not_not.mpr rfl), if_neg (by omega),
    tunnelledReports, htun, judge, hdrop]
  exact judge_errorReply o rspSz rspMin k (tReq.drop 4) _

end LibCxlmi.Transport
