import LibCxlmi.Cci.Wrap
import LibCxlmi.Transport.Send

/-!
# What the MCTP receive path accepts

Soundness: a command that returns 0 received exactly the nest of responses its
request layers call for, and the bytes behind the received ones play no part.
Completeness: a device that strips the tunnel headers finds the request, and
when it wraps a conforming response the command succeeds and hands it over.
-/

namespace LibCxlmi.Contract
open LibCxlmi.Word LibCxlmi.Cci LibCxlmi.Transport

theorem judgeArrived_zero (o : ByteOrder) (rspSz rspMin k : ℕ) (tReq : Bytes) (a : Option Bytes)
    (h : judgeArrived o (mctpRule rspSz rspMin) k tReq a = 0) :
    ∃ d, a = some d ∧ Nest o k tReq d ∧ rspMin ≤ d.length - 16 * k := by
  cases a with
  | none => exact absurd h (show (-1 : ℤ) ≠ 0 by decide)
  | some d =>
    obtain ⟨hn, hl⟩ := (judge_mctpRule_eq_zero o rspSz rspMin k tReq d).mp h
    exact ⟨d, rfl, hn, hl.le⟩

/- What acceptance means for the outermost message `tReq` of a command. -/
def Accepted (o : ByteOrder) (env : Env) (k : ℕ) (tReq : Bytes) (rspSz rspMin : ℕ) : Prop :=
  ∃ b, env.recv = .datagram b ∧ Nest o k tReq (received (16 * k + rspSz) b) ∧
    rspMin ≤ (received (16 * k + rspSz) b).length - 16 * k ∧
    (received (16 * k + rspSz) b).length - 16 * k ≤ rspSz

theorem accepted_direct (o : ByteOrder) (env : Env) (m : MctpTransport) (fmapi : Bool) (req : Bytes)
    (rspSz rspMin : ℕ) (h : (sendMctpDirect o env m fmapi req rspSz rspMin).rc = 0) :
    Accepted o env 0 req rspSz rspMin := by
  rw [sendMctpDirect_rc] at h
  obtain ⟨d, ha, hn, hmin⟩ := judgeArrived_zero o rspSz rspMin 0 req _ h
  obtain ⟨b, hb, rfl⟩ := arrived_recv _ _ _ _ _ d ha
  have hle := received_length_le rspSz b
  unfold Accepted
  simp only [Nat.mul_zero, Nat.zero_add, Nat.sub_zero] at hn hmin ⊢
  exact ⟨b, hb, hn, hmin, hle⟩

theorem accepted_tunnelled (o : ByteOrder) (env : Env) (m : MctpTransport) (k : ℕ) (tReq : Bytes)
    (rspSz rspMin : ℕ) (h : (sendMctpTunnelled o env m k tReq rspSz rspMin).rc = 0) :
    Accepted o env k tReq rspSz rspMin := by
  rw [sendMctpTunnelled_rc] at h
  obtain ⟨d, ha, hn, hmin⟩ := judgeArrived_zero o rspSz rspMin k tReq _ h
  unfold arrivedTunnelled at ha
  split_ifs at ha
  obtain ⟨b, hb, rfl⟩ := arrived_recv _ _ _ _ _ d ha
  have hle := received_length_le (16 * k + rspSz) b
  exact ⟨b, hb, hn, hmin, by omega⟩

/-- Acceptance is sound, and does not depend on what stands in the buffer behind
the received bytes. -/
theorem sendMctp_accepts_only_nests (o : ByteOrder) (env : Env) (m : MctpTransport) (fmapi : Bool)
    (ti : Option TunnelInfo) (req : Bytes) (rspSz rspMin : ℕ) :
    ((sendMctp o env m fmapi ti req rspSz rspMin).rc = 0 →
      ∃ k tReq, mctpBuild o env m ti req = some (k, tReq) ∧ Accepted o env k tReq rspSz rspMin) ∧
    ∀ (k : ℕ) (tReq d z z' : Bytes), d.length < 2 ^ 31 →
      unwind o (mctpRule rspSz rspMin) k tReq (d ++ z) d.length =
        unwind o (mctpRule rspSz rspMin) k tReq (d ++ z') d.length := by
  refine ⟨fun h => ?_, fun k tReq d z z' hd => ?_⟩
  · rcases sendMctp_cases o env m fmapi ti req rspSz rspMin with
      ⟨-, n, -, hs⟩ | ⟨hb, hs⟩ | ⟨k, tReq, hb, hs⟩
    · rw [hs] at h
      exact absurd h (show (-1 : ℤ) ≠ 0 by decide)
    · rw [hs] at h
      exact ⟨0, req, hb, accepted_direct o env m fmapi req rspSz rspMin h⟩
    · rw [hs] at h
      exact ⟨k + 1, tReq, hb, accepted_tunnelled o env _ (k + 1) tReq rspSz rspMin h⟩
  · rw [unwind_eq_judge o _ (mctpRule_succ_le rspSz rspMin) k tReq d z hd,
      unwind_eq_judge o _ (mctpRule_succ_le rspSz rspMin) k tReq d z' hd]

/-! ### Completeness -/

theorem stripTunnels_build (m : MctpTransport) (t : TunnelInfo) (req : Bytes) (k : ℕ)
    (hk : k = 0 ∨ k = 1) (ht : t.level = k + 1) (h : 16 + req.length < 2 ^ 16) :
    stripTunnels (k + 1) (mctpTunnelReq .little m t req) = some req := by
  unfold mctpTunnelReq mctpTunnel2Req
  rcases hk with rfl | rfl
  · rw [if_pos (by omega), stripTunnels, stripTunnel_build _ _ _ (by omega)]
    rfl
  · rw [if_neg (by omega), stripTunnels, stripTunnel_build _ _ _ (by rw [buildTunnelReq_length]; omega)]
    show (stripTunnel _).bind _ = _
    rw [stripTunnel_build _ _ _ (by omega)]
    rfl

theorem sendMctpTunnelled_sent (o : ByteOrder) (env : Env) (m : MctpTransport) (k : ℕ) (tReq d : Bytes)
    (rspSz rspMin : ℕ) (hd : Delivers env d) (hsd : 0 ≤ m.fmapiSd) (hl : tReq.length ≤ maxRwCount) :
    (sendMctpTunnelled o env m k tReq rspSz rspMin).sent = [.mctp m.fmapiSd m.fmapiAddr tReq] := by
  have hsend : ¬(m.fmapiSd < 0 ∨ env.sendOk = false) := by
    rw [hd.send]
    simpa using hsd
  unfold sendMctpTunnelled mctpExchange
  simp only [hd.alloc, Bool.true_eq_false, if_false, hsend, transferred_of_le tReq hl, ne_eq,
    not_true_eq_false, and_false, waitReply_eq, hd.poll, decide_true, if_true]

/-- A conforming response in conforming tunnel layers reaches the caller. -/
theorem sendMctpTunnelled_conforming (o : ByteOrder) (env : Env) (m : MctpTransport) (k : ℕ)
    (tReq r d : Bytes) (rspSz rspMin : ℕ) (hd : Delivers env d) (hsd : 0 ≤ m.fmapiSd)
    (hl : tReq.length ≤ maxRwCount) (hw : Wrapped o k tReq r d) (hm : d.length ≤ maxRwCount)
    (hr : CciLayer o (tReq.drop (16 * k)) r) (hmin : rspMin ≤ r.length) (hmax : r.length ≤ rspSz) :
    (sendMctpTunnelled o env m k tReq rspSz rspMin).rc = 0 ∧
      (sendMctpTunnelled o env m k tReq rspSz rspMin).rsp = fillBuf rspSz r := by
  have hlen := wrapped_length o k tReq r d hw
  have harr := arrivedTunnelled_delivers env m k tReq rspSz d hd hsd hl
  rw [received_of_le _ _ (by omega) hm] at harr
  have hrule : LengthOk (rspSz == rspMin) rspMin r.length := by
    unfold LengthOk
    split_ifs with he
    · have heq : rspSz = rspMin := beq_iff_eq.mp he
      omega
    · exact hmin
  have h0 : (sendMctpTunnelled o env m k tReq rspSz rspMin).rc = 0 := by
    rw [sendMctpTunnelled_rc, harr, judgeArrived, wrapped_judge o rspSz rspMin k tReq r d hw,
      cciReport_rc_eq_zero, cciReport_ok_iff_layer]
    exact ⟨hr, hrule⟩
  refine ⟨h0, ?_⟩
  rw [sendMctpTunnelled_rsp o env m k tReq rspSz rspMin d harr (by omega) h0,
    wrapped_drop o k tReq r d hw]

/-- The round trip of a tunnelled command: the device finds the request under
the tunnel headers, and its wrapped response comes back as it is, with zeros
after it. -/
theorem tunnel_roundTrip (env : Env) (ep : Endpoint) (m : MctpTransport) (t : TunnelInfo) (k : ℕ)
    (req r d : Bytes) (rspSz rspMin : ℕ) (hep : ep.transportData = some (.mctp m)) (hid : ep.Identified)
    (hopen : refused ep (some t) req = false) (hsd : 0 ≤ m.fmapiSd) (hk : k = 0 ∨ k = 1)
    (ht : t.level = k + 1) (hreq : req.length < 60000) (hr : CciLayer .little req r)
    (hmin : rspMin ≤ r.length) (hmax : r.length ≤ rspSz) (hd : Delivers env d)
    (hw : Wrapped .little (k + 1) (mctpTunnelReq .little m t req) r d) :
    ∃ out msg, sendCmdCci .little env ep (some t) req rspSz rspMin = some out ∧
      out.sent = [.mctp m.fmapiSd m.fmapiAddr msg] ∧ stripTunnels (k + 1) msg = some req ∧
      out.rc = 0 ∧ out.rsp = r ++ zeros (rspSz - r.length) := by
  have hn := (identified_mctp ep m hep).mp hid
  have hl := mctpTunnelReq_length .little m t req k hk ht
  have hle : (mctpTunnelReq .little m t req).length ≤ maxRwCount := by
    unfold maxRwCount
    omega
  have hdrop := mctpTunnelReq_drop .little m t req k hk ht
  have hdl : d.length ≤ maxRwCount := by
    obtain ⟨-, hl16, hf, -⟩ := hw
    have hlt := tunnelLength_lt d 12
    unfold maxRwCount
    omega
  have hc := sendMctpTunnelled_conforming .little env (m.advance (k + 1)) (k + 1)
    (mctpTunnelReq .little m t req) r d rspSz rspMin hd hsd hle hw hdl (by rw [hdrop]; exact hr) hmin hmax
  have hs := sendMctpTunnelled_sent .little env (m.advance (k + 1)) (k + 1)
    (mctpTunnelReq .little m t req) d rspSz rspMin hd hsd hle
  rw [sendCmdCci_mctp .little env ep m (some t) req rspSz rspMin hopen hep hn,
    sendMctp_tunnel .little env m _ t req rspSz rspMin k hk ht hd.alloc]
  exact ⟨_, mctpTunnelReq .little m t req, rfl, hs, stripTunnels_build m t req k hk ht (by omega),
    hc.1, hc.2⟩

def shortIdentify : Bytes := [1, 0x21, 0, 0x01, 0x00, 2, 0, 0, 0, 0, 0, 0, 0xaa, 0xbb]

def ldBehindPort : TunnelInfo := ⟨3, 1, 2, false⟩

def shortIdentifyDatagram : Bytes :=
  wrapReply 2 (mctpTunnelReq .little mctpPort ldBehindPort (identifyReq 0x21)) shortIdentify

theorem shortIdentify_layer : CciLayer .little (identifyReq 0x21) shortIdentify :=
  ⟨by decide, by decide, by decide, by decide⟩

/- The LD 1 behind port 3 answers Identify through two tunnels. -/
theorem tunnel_roundTrip_identify :
    ∃ out msg, sendCmdCci .little (socketDelivers shortIdentifyDatagram) mctpEndpoint
        (some ldBehindPort) (identifyReq 0x21) 20 12 = some out ∧
      out.sent = [.mctp 5 mctpPort.fmapiAddr msg] ∧ stripTunnels 2 msg = some (identifyReq 0x21) ∧
      out.rc = 0 ∧ out.rsp = shortIdentify ++ zeros 6 :=
  tunnel_roundTrip _ mctpEndpoint mctpPort ldBehindPort 1 (identifyReq 0x21) shortIdentify
    shortIdentifyDatagram 20 12 rfl (by decide) (by decide) (by decide) (Or.inr rfl) rfl (by decide)
    shortIdentify_layer (by decide) (by decide) ⟨fun _ _ => rfl, rfl, rfl, rfl⟩
    (wrapReply_wrapped .little 2 _ shortIdentify (by decide))

/- The nest of the same exchange is what acceptance promises. -/
theorem sendMctp_accepts_identify :
    ∃ k tReq, mctpBuild .little (socketDelivers shortIdentifyDatagram) mctpPort (some ldBehindPort)
        (identifyReq 0x21) = some (k, tReq) ∧
      Accepted .little (socketDelivers shortIdentifyDatagram) k tReq 20 12 :=
  (sendMctp_accepts_only_nests .little (socketDelivers shortIdentifyDatagram) mctpPort false
    (some ldBehindPort) (identifyReq 0x21) 20 12).1 (by decide +kernel)

end LibCxlmi.Contract
