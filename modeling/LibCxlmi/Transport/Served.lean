import LibCxlmi.Cci.Wrap
import LibCxlmi.Transport.Silent

/-!
# A command whose device answers over MCTP

The host serves every request it can: the socket takes the message and delivers
one datagram, and `malloc` has memory for every size it can represent. Whether
a conforming reply is then accepted is only a matter of its length.
-/

namespace LibCxlmi.Transport
open LibCxlmi.Word LibCxlmi.Cci

/-- `malloc` fails exactly for sizes above `PTRDIFF_MAX`. -/
structure Served (env : Env) (d : Bytes) : Prop where
  alloc : ∀ s n, env.alloc s n = decide (n < 2 ^ 63)
  send : env.sendOk = true
  poll : env.poll = .ready
  recv : env.recv = .datagram d

theorem Served.alloc_of_lt {env : Env} {d : Bytes} (h : Served env d) (s : AllocSite) (n : ℕ) (hn : n < 2 ^ 63) :
    env.alloc s n = true := by
  rw [h.alloc]
  exact decide_eq_true hn

theorem Served.alloc_of_ge {env : Env} {d : Bytes} (h : Served env d) (s : AllocSite) (n : ℕ) (hn : 2 ^ 63 ≤ n) :
    env.alloc s n = false := by
  rw [h.alloc]
  exact decide_eq_false (Nat.not_lt.mpr hn)

theorem sendMctp_served (o : ByteOrder) (env : Env) (m : MctpTransport) (fmapi : Bool) (ti : Option TunnelInfo)
    (req d : Bytes) (rspSz rspMin : ℕ) (hd : Served env d) (hk : knownLevel ti = true)
    (hsd : 0 ≤ mctpSd m fmapi (tunnelDepth ti)) (hreq : (mctpMsg o m ti req).length ≤ maxRwCount)
    (hsz : 32 + rspSz < 2 ^ 63) :
    (sendMctp o env m fmapi ti req rspSz rspMin).rc =
        judge (nestReports o (mctpRule rspSz rspMin) (tunnelDepth ti) (mctpMsg o m ti req)
          (received (16 * tunnelDepth ti + rspSz) d)) ∧
      ((sendMctp o env m fmapi ti req rspSz rspMin).rc = 0 →
        (sendMctp o env m fmapi ti req rspSz rspMin).rsp =
          fillBuf rspSz ((received (16 * tunnelDepth ti + rspSz) d).drop (16 * tunnelDepth ti))) := by
  have hlen : req.length ≤ maxRwCount := by
    have hdrop := congrArg List.length (mctpMsg_drop o m ti req hk)
    rw [List.length_drop] at hdrop
    omega
  have hbuild := mctpBuild_known o env m ti req hk fun s n hn =>
    hd.alloc_of_lt s n (by unfold maxRwCount at hlen; omega)
  rcases sendMctp_cases o env m fmapi ti req rspSz rspMin with ⟨hb, -⟩ | ⟨hb, hs⟩ | ⟨k, tReq, hb, hs⟩
  · rw [hbuild] at hb
    exact absurd hb (Option.some_ne_none _)
  · obtain ⟨hz, hmsg⟩ := Prod.mk.inj (Option.some.inj (hbuild.symm.trans hb))
    have hsd' : 0 ≤ if fmapi then m.fmapiSd else m.sd := by
      rw [hz] at hsd
      cases fmapi with
      | false => exact hsd
      | true => exact hsd
    have harr := arrived_datagram env _ req rspSz false d hd.send hd.poll hd.recv hsd' hlen
    have hx := mctpExchange_datagram env _ req rspSz false d hd.send hd.poll hd.recv hsd' hlen
    rw [hs, hz, hmsg, Nat.mul_zero, Nat.zero_add]
    refine ⟨?_, fun _ => ?_⟩
    · rw [sendMctpDirect_rc, harr]
      rfl
    · simp only [sendMctpDirect, hx]
      rfl
  · obtain ⟨hz, hmsg⟩ := Prod.mk.inj (Option.some.inj (hbuild.symm.trans hb))
    have h2 := tunnelDepth_le ti hk
    rw [hz] at hsd h2
    have harr : arrivedTunnelled env (m.advance (k + 1)) (k + 1) tReq rspSz =
        some (received (16 * (k + 1) + rspSz) d) := by
      unfold arrivedTunnelled
      rw [if_neg (by rw [hd.alloc_of_lt _ _ (by omega)]; exact Bool.noConfusion)]
      exact arrived_datagram env m.fmapiSd tReq _ true d hd.send hd.poll hd.recv hsd (hmsg ▸ hreq)
    have hrc := sendMctpTunnelled_rc o env (m.advance (k + 1)) (k + 1) tReq rspSz rspMin
    rw [harr] at hrc
    rw [hs, hz, hmsg]
    refine ⟨hrc, fun h0 => ?_⟩
    have hnest := ((judge_mctpRule_eq_zero o rspSz rspMin (k + 1) tReq _).mp (hrc.symm.trans h0)).1
    have hl := nest_length o (k + 1) tReq _ hnest
    exact sendMctpTunnelled_rsp o env _ (k + 1) tReq rspSz rspMin _ harr (by omega) h0

/-! ### Conforming replies -/

theorem layer_length (o : ByteOrder) (req r : Bytes) (h : CciLayer o req r) : r.length < 12 + 2 ^ 20 := by
  have hp := h.exactLength
  have h5 := (byteAt r 5).isLt
  have h6 := (byteAt r 6).isLt
  rw [plLength_eq] at hp
  omega

theorem wrapped_layer (o : ByteOrder) (k : ℕ) (req r d : Bytes) (hw : Wrapped o k req r d)
    (hr : CciLayer o (req.drop (16 * k)) r) : CciLayer o req d := by
  cases k with
  | zero =>
    obtain rfl : d = r := hw
    exact hr
  | succ k => exact hw.1

/- A reply that does not fit the buffer is cut, and its outermost layer no longer
has the length it names. -/
theorem judge_cut (o : ByteOrder) (rule : LengthRule) (k : ℕ) (req d : Bytes) (n : ℕ) (h : CciLayer o req d)
    (hn : n < d.length) : judge (nestReports o rule k req (d.take n)) = -1 := by
  cases k with
  | zero =>
    rw [nestReports, cciReport_take o req d n _ _ h hn]
    rfl
  | succ k =>
    rw [nestReports, cciReport_take o req d n _ _ h hn]
    rfl

theorem lengthOk_iff (rspSz rspMin n : ℕ) (h : n ≤ rspSz) :
    LengthOk (rspSz == rspMin) rspMin n ↔ rspMin ≤ n := by
  unfold LengthOk
  by_cases he : rspSz = rspMin
  · rw [if_pos (beq_iff_eq.mpr he)]
    omega
  · rw [if_neg (fun hc => he (beq_iff_eq.mp hc))]

/-- A conforming reply is accepted if its length is between the two sizes. -/
theorem judge_wrapped_iff (o : ByteOrder) (rspSz rspMin k : ℕ) (req r d : Bytes) (hk : k ≤ 2)
    (hw : Wrapped o k req r d) (hr : CciLayer o (req.drop (16 * k)) r) :
    judge (nestReports o (mctpRule rspSz rspMin) k req (received (16 * k + rspSz) d)) = 0 ↔
      rspMin ≤ r.length ∧ r.length ≤ rspSz := by
  have hlen := wrapped_length o k req r d hw
  have hmax := layer_length o _ r hr
  by_cases hfit : r.length ≤ rspSz
  · rw [received_of_le _ d (by omega) (by unfold maxRwCount; omega),
      wrapped_judge o rspSz rspMin k req r d hw, cciReport_rc_eq_zero, cciReport_ok_iff_layer,
      lengthOk_iff rspSz rspMin _ hfit]
    exact ⟨fun h => ⟨h.2, hfit⟩, fun h => ⟨hr, h.1⟩⟩
  · have hcut : min (16 * k + rspSz) maxRwCount < d.length := by omega
    unfold received
    rw [judge_cut o _ k req d _ (wrapped_layer o k req r d hw hr) hcut]
    exact iff_of_false (by decide) fun h => hfit h.2

theorem not_silent_mctp (ep : Endpoint) (m : MctpTransport) (ti : Option TunnelInfo) (set : Byte)
    (hep : ep.transportData = some (.mctp m)) (h : ¬Silent ep ti set) :
    knownLevel ti = true ∧ m.nid ≠ mockMagic ∧ 0 ≤ mctpSd m (cmdIsFmapi set) (tunnelDepth ti) := by
  unfold Silent at h
  rw [hep, not_or, not_or] at h
  obtain ⟨hk, hn, hsd⟩ := not_or.mp h.2.2 |>.imp id not_or.mp
  exact ⟨Bool.not_eq_false _ ▸ hk, hn, not_lt.mp hsd⟩

/-- What `send_cmd_cci` makes of a conforming reply. -/
theorem sendCmdCci_served (o : ByteOrder) (env : Env) (ep : Endpoint) (m : MctpTransport) (ti : Option TunnelInfo)
    (req r d : Bytes) (rspSz rspMin : ℕ) (hep : ep.transportData = some (.mctp m)) (hd : Served env d)
    (hs : ¬Silent ep ti (commandSet req)) (hreq : 32 + req.length ≤ maxRwCount) (hsz : 32 + rspSz < 2 ^ 63)
    (hw : Wrapped o (tunnelDepth ti) (mctpMsg o m ti req) r d) (hr : CciLayer o req r) :
    ∃ s, sendCmdCci o env ep ti req rspSz rspMin = some s ∧
      (s.rc = 0 ↔ rspMin ≤ r.length ∧ r.length ≤ rspSz) ∧ (s.rc = 0 → s.rsp = fillBuf rspSz r) := by
  obtain ⟨hk, hnid, hsd⟩ := not_silent_mctp ep m ti _ hep hs
  have h2 := tunnelDepth_le ti hk
  have hmsg := mctpMsg_length o m ti req hk
  obtain ⟨hrc, hrsp⟩ := sendMctp_served o env m (cmdIsFmapi (commandSet req)) ti req d rspSz rspMin hd hk hsd
    (by omega) hsz
  have hiff := judge_wrapped_iff o rspSz rspMin (tunnelDepth ti) _ r d h2 hw
    (by rw [mctpMsg_drop o m ti req hk]; exact hr)
  rw [← hrc] at hiff
  refine ⟨_, sendCmdCci_mctp o env ep m ti req rspSz rspMin (not_refused ep ti req hs) hep hnid, hiff, fun h0 => ?_⟩
  have hlen := wrapped_length o _ _ r d hw
  have hmax := layer_length o _ r hr
  have hfit := (hiff.mp h0).2
  rw [← wrapped_drop o _ _ r d hw, ← received_of_le (16 * tunnelDepth ti + rspSz) d (by omega)
    (by unfold maxRwCount; omega)]
  exact hrsp h0

end LibCxlmi.Transport
