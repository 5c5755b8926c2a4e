import LibCxlmi.Transport.Silent

/-!
# What a successful exchange leaves in the response

`returned` is the part of the device's payload that reached the host: of the
innermost message over MCTP and in tunnels, of the kernel's output buffer, or
of the response configured for a mock. After a zero code the response payload
is these bytes and zeros. Over MCTP and in tunnels there are at least as many
as the caller requires; a direct mailbox command and a mock do not check that.
-/

namespace LibCxlmi.Transport
open LibCxlmi.Word LibCxlmi.Cci

def mailboxOut : IoctlResult → Bytes
  | .error => []
  | .done _ out => out

def returned (env : Env) (ep : Endpoint) (ti : Option TunnelInfo) (set cmd : Byte) (rspSz : ℕ) : Bytes :=
  let k := tunnelDepth ti
  match ep.transportData with
  | some (.mock t) =>
      match mockFindResponse set cmd t.responses with
      | none => []
      | some (resp, _) => resp.payload.take (rspSz - 12)
  | some (.mctp _) =>
      match env.recv with
      | .error => []
      | .datagram d => (received (16 * k + rspSz) d).drop (16 * k + 12)
  | none =>
      if k = 0 then mailboxOut (mailboxIoctl env ep.fd (rspSz - 12))
      else (mailboxOut (mailboxIoctl env ep.fd (4 + 16 * (k - 1) + rspSz))).drop (4 + 16 * (k - 1) + 12)

/-- The transport compares the size of the reply with the caller's minimum. -/
def SizeChecked (ep : Endpoint) (ti : Option TunnelInfo) : Prop :=
  match ep.transportData with
  | some (.mock _) => False
  | some (.mctp _) => True
  | none => tunnelDepth ti ≠ 0

theorem returned_armed (o : ByteOrder) (env : Env) (ep : Endpoint) (set cmd : Byte) (pl : Bytes)
    (ti : Option TunnelInfo) (rspSz : ℕ) :
    returned env (armCciRequest o ep set cmd pl).2 ti set cmd rspSz = returned env ep ti set cmd rspSz := by
  rcases armed_cases o ep set cmd pl with h | ⟨m, hm, h⟩
  · rw [h]
  · rw [h]
    simp only [returned, hm]

theorem sizeChecked_armed (o : ByteOrder) (ep : Endpoint) (set cmd : Byte) (pl : Bytes) (ti : Option TunnelInfo) :
    SizeChecked (armCciRequest o ep set cmd pl).2 ti ↔ SizeChecked ep ti := by
  rcases armed_cases o ep set cmd pl with h | ⟨m, hm, h⟩
  · rw [h]
  · rw [h]
    simp only [SizeChecked, hm]

/-- `rsp` is a response buffer of `rspSz` bytes with `b` and zeros behind its
header, and the header has the size of `b`. -/
structure Leaves (rsp b : Bytes) (rspSz : ℕ) : Prop where
  payload : Cci.payload rsp = fillBuf (rspSz - 12) b
  fits : b.length ≤ rspSz - 12
  plLength : Cci.plLength rsp = b.length % 2 ^ 20

theorem plLength_lt (m : Bytes) : plLength m < 2 ^ 20 := by
  have h5 := (byteAt m 5).isLt
  have h6 := (byteAt m 6).isLt
  rw [plLength_eq]
  omega

theorem leaves_fillBuf (o : ByteOrder) (req x : Bytes) (rspSz : ℕ) (h : CciLayer o req x) (hx : x.length ≤ rspSz) :
    Leaves (fillBuf rspSz x) (x.drop 12) rspSz := by
  have hlt := plLength_lt x
  have hp := h.exactLength
  refine ⟨fillBuf_drop rspSz 12 x h.header, ?_, ?_⟩
  · rw [List.length_drop]
    omega
  · rw [fillBuf, plLength_append x _ h.header, List.length_drop, ← hp, Nat.mod_eq_of_lt hlt]

theorem nest_inner (o : ByteOrder) (k : ℕ) (req d : Bytes) (h : Nest o k req d) :
    CciLayer o (req.drop (16 * k)) (d.drop (16 * k)) := by
  induction k generalizing req d with
  | zero => exact h
  | succ k ih =>
    have hi := ih (req.drop 16) (d.drop 16) h.2.2.2
    rw [List.drop_drop, List.drop_drop] at hi
    rwa [show 16 * (k + 1) = 16 + 16 * k by omega]

/-! ### MCTP -/

theorem sendMctpDirect_success (o : ByteOrder) (env : Env) (m : MctpTransport) (fmapi : Bool) (req : Bytes)
    (rspSz rspMin : ℕ) (h0 : (sendMctpDirect o env m fmapi req rspSz rspMin).rc = 0) :
    ∃ d, env.recv = .datagram d ∧ judge (nestReports o (mctpRule rspSz rspMin) 0 req (received rspSz d)) = 0 ∧
      (sendMctpDirect o env m fmapi req rspSz rspMin).rsp = fillBuf rspSz (received rspSz d) := by
  have hrc := sendMctpDirect_rc o env m fmapi req rspSz rspMin
  rw [h0] at hrc
  cases hx : mctpExchange env (if fmapi then m.fmapiSd else m.sd) req rspSz false with
  | notSent =>
    rw [arrived_of_notReply _ _ _ _ _ (Or.inl hx)] at hrc
    cases hrc
  | noReply =>
    rw [arrived_of_notReply _ _ _ _ _ (Or.inr hx)] at hrc
    cases hrc
  | reply buf len =>
    rcases mctpExchange_reply _ _ _ _ _ buf len hx with ⟨b, hb, rfl, -⟩ | ⟨hn, -, -⟩
    · obtain ⟨d, hd, rfl⟩ := arrived_recv _ _ _ _ _ b hb
      rw [hb] at hrc
      refine ⟨d, hd, hrc.symm, ?_⟩
      simp only [sendMctpDirect, hx]
    · rw [hn] at hrc
      cases hrc

theorem sendMctpTunnelled_success (o : ByteOrder) (env : Env) (m : MctpTransport) (k : ℕ) (tReq : Bytes)
    (rspSz rspMin : ℕ) (h0 : (sendMctpTunnelled o env m k tReq rspSz rspMin).rc = 0) :
    ∃ d, env.recv = .datagram d ∧
      judge (nestReports o (mctpRule rspSz rspMin) k tReq (received (16 * k + rspSz) d)) = 0 ∧
      (sendMctpTunnelled o env m k tReq rspSz rspMin).rsp =
        fillBuf rspSz ((received (16 * k + rspSz) d).drop (16 * k)) := by
  have hrc := sendMctpTunnelled_rc o env m k tReq rspSz rspMin
  rw [h0] at hrc
  cases harr : arrivedTunnelled env m k tReq rspSz with
  | none =>
    rw [harr] at hrc
    cases hrc
  | some b =>
    rw [harr] at hrc
    have hj : judge (nestReports o (mctpRule rspSz rspMin) k tReq b) = 0 := hrc.symm
    have hl := nest_length o k tReq b ((judge_mctpRule_eq_zero o rspSz rspMin k tReq b).mp hj).1
    have hrsp := sendMctpTunnelled_rsp o env m k tReq rspSz rspMin b harr (by omega) h0
    unfold arrivedTunnelled at harr
    split_ifs at harr
    obtain ⟨d, hd, rfl⟩ := arrived_recv _ _ _ _ _ b harr
    exact ⟨d, hd, hj, hrsp⟩

theorem sendMctp_success (o : ByteOrder) (env : Env) (m : MctpTransport) (fmapi : Bool) (ti : Option TunnelInfo)
    (req : Bytes) (rspSz rspMin : ℕ) (h0 : (sendMctp o env m fmapi ti req rspSz rspMin).rc = 0) :
    ∃ tReq d, env.recv = .datagram d ∧
      judge (nestReports o (mctpRule rspSz rspMin) (tunnelDepth ti) tReq
        (received (16 * tunnelDepth ti + rspSz) d)) = 0 ∧
      (sendMctp o env m fmapi ti req rspSz rspMin).rsp =
        fillBuf rspSz ((received (16 * tunnelDepth ti + rspSz) d).drop (16 * tunnelDepth ti)) := by
  rcases sendMctp_cases o env m fmapi ti req rspSz rspMin with ⟨-, n, -, hs⟩ | ⟨hb, hs⟩ | ⟨k, tReq, hb, hs⟩
  · rw [hs] at h0
    cases h0
  · rw [hs] at h0 ⊢
    rw [(mctpBuild_depth o env m ti req 0 req hb).1, Nat.mul_zero, Nat.zero_add]
    exact ⟨req, sendMctpDirect_success o env m fmapi req rspSz rspMin h0⟩
  · rw [hs] at h0 ⊢
    rw [(mctpBuild_depth o env m ti req (k + 1) tReq hb).1]
    exact ⟨tReq, sendMctpTunnelled_success o env _ (k + 1) tReq rspSz rspMin h0⟩

theorem sendMctp_leaves (o : ByteOrder) (env : Env) (m : MctpTransport) (fmapi : Bool) (ti : Option TunnelInfo)
    (req : Bytes) (rspSz rspMin : ℕ) (ep : Endpoint) (set cmd : Byte) (hep : ep.transportData = some (.mctp m))
    (h0 : (sendMctp o env m fmapi ti req rspSz rspMin).rc = 0) :
    Leaves (sendMctp o env m fmapi ti req rspSz rspMin).rsp (returned env ep ti set cmd rspSz) rspSz ∧
      rspMin - 12 ≤ (returned env ep ti set cmd rspSz).length := by
  obtain ⟨tReq, d, hd, hj, hrsp⟩ := sendMctp_success o env m fmapi ti req rspSz rspMin h0
  obtain ⟨hn, hmin⟩ := (judge_mctpRule_eq_zero o rspSz rspMin _ tReq _).mp hj
  have hinner := nest_inner o _ tReq _ hn
  have hl := nest_length o _ tReq _ hn
  have hle := received_length_le (16 * tunnelDepth ti + rspSz) d
  have hm := hmin.le
  have hret : returned env ep ti set cmd rspSz =
      ((received (16 * tunnelDepth ti + rspSz) d).drop (16 * tunnelDepth ti)).drop 12 := by
    simp only [returned, hep, hd, List.drop_drop]
  rw [hrsp, hret]
  refine ⟨leaves_fillBuf o _ _ rspSz hinner ?_, ?_⟩
  all_goals simp only [List.length_drop]
  all_goals omega

/-! ### Mailboxes and mocks -/

theorem plLength_stored (hd tl : Bytes) (n : ℕ) (h : hd.length = 5) :
    plLength (hd ++ leBytes 3 (n % 2 ^ 20) ++ tl) = n % 2 ^ 20 := by
  obtain ⟨a, b, c, d, e, rfl⟩ : ∃ a b c d e, hd = [a, b, c, d, e] := by
    match hd, h with
    | [a, b, c, d, e], _ => exact ⟨a, b, c, d, e, rfl⟩
  have h5 : (byteAt ([a, b, c, d, e] ++ leBytes 3 (n % 2 ^ 20) ++ tl) 5).val = n % 2 ^ 20 % 256 := rfl
  have h6 : (byteAt ([a, b, c, d, e] ++ leBytes 3 (n % 2 ^ 20) ++ tl) 6).val = n % 2 ^ 20 / 256 % 256 := rfl
  have h7 : (byteAt ([a, b, c, d, e] ++ leBytes 3 (n % 2 ^ 20) ++ tl) 7).val = n % 2 ^ 20 / 256 / 256 % 256 := rfl
  rw [plLength_eq, h5, h6, h7]
  omega

theorem sendIoctlDirect_leaves (env : Env) (ep : Endpoint) (ti : Option TunnelInfo) (req : Bytes) (rspSz : ℕ)
    (set cmd : Byte) (hep : ep.transportData = none) (hk : tunnelDepth ti = 0)
    (h0 : (sendIoctlDirect env ep.fd req rspSz).rc = 0) :
    Leaves (sendIoctlDirect env ep.fd req rspSz).rsp (returned env ep ti set cmd rspSz) rspSz := by
  simp only [returned, hep, hk, if_true]
  unfold sendIoctlDirect at h0 ⊢
  cases hio : mailboxIoctl env ep.fd (rspSz - 12) with
  | error =>
    rw [hio] at h0
    cases h0
  | done retval out =>
    have hlen := mailboxIoctl_length env ep.fd _ retval out hio
    have hu := u32_le (rspSz - 12)
    simp only [hio] at h0
    split_ifs at h0 with hr
    · have hv : retval.val ≠ 0 := fun hv => hr (Fin.ext hv)
      have h0' : (retval.val : ℤ) = 0 := h0
      omega
    · simp only [hr, if_false]
      exact ⟨rfl, by simp only [mailboxOut]; omega, plLength_stored [0, 0, 0, 0, 0] _ out.length rfl⟩

theorem sendIoctlTunnelled_leaves (o : ByteOrder) (env : Env) (ep : Endpoint) (ti : Option TunnelInfo) (k : ℕ)
    (tReq : Bytes) (rspSz rspMin : ℕ) (set cmd : Byte) (hep : ep.transportData = none)
    (hk : tunnelDepth ti = k + 1) (h0 : (sendIoctlTunnelled o env ep.fd k tReq rspSz rspMin).rc = 0) :
    Leaves (sendIoctlTunnelled o env ep.fd k tReq rspSz rspMin).rsp (returned env ep ti set cmd rspSz) rspSz ∧
      rspMin - 12 ≤ (returned env ep ti set cmd rspSz).length := by
  obtain ⟨out, hio, hmin, hj⟩ := sendIoctlTunnelled_success o env ep.fd k tReq rspSz rspMin h0
  have hn := ((judge_mctpRule_eq_zero o rspSz rspMin k _ _).mp ((judge_tunnelReport_cons out _).mp hj).2).1
  have hinner := nest_inner o k _ _ hn
  have hl := nest_length o k _ _ hn
  have hfit := (tunnelledIoctl_fits env ep.fd k rspSz 0 out hio).1
  rw [List.length_drop] at hl
  have hrsp := sendIoctlTunnelled_rsp o env ep.fd k tReq rspSz rspMin 0 out hio (by omega) h0
  have hret : returned env ep ti set cmd rspSz = (out.drop (4 + 16 * k)).drop 12 := by
    unfold tunnelledIoctl at hio
    split_ifs at hio
    simp only [returned, hep, hk, Nat.add_sub_cancel, hio, mailboxOut, List.drop_drop]
    exact if_neg (Nat.succ_ne_zero k)
  rw [List.drop_drop, List.drop_drop] at hinner
  rw [hrsp, hret]
  refine ⟨leaves_fillBuf o _ _ rspSz hinner ?_, ?_⟩
  all_goals simp only [List.length_drop]
  all_goals omega

theorem sendMockCmd_leaves (o : ByteOrder) (env : Env) (ep : Endpoint) (t : MockTransport) (ti : Option TunnelInfo)
    (req : Bytes) (rspSz : ℕ) (hep : ep.transportData = some (.mock t))
    (h0 : (sendMockCmd o env t req rspSz).rc = 0) :
    Leaves (sendMockCmd o env t req rspSz).rsp
      (returned env ep ti (commandSet req) (command req) rspSz) rspSz := by
  have hq : (mockRecord env t req).responses = t.responses := rfl
  simp only [returned, hep]
  unfold sendMockCmd at h0 ⊢
  simp only [hq] at h0 ⊢
  cases hf : mockFindResponse (commandSet req) (command req) t.responses with
  | none =>
    rw [hf] at h0
    cases h0
  | some p =>
    obtain ⟨resp, rest⟩ := p
    refine ⟨?_, ?_, ?_⟩
    · unfold payload mockRsp
      exact List.drop_left' (by simp only [List.length_append, List.length_cons, List.length_nil, leBytes_length,
        storeWord_length, zeros_length])
    · rw [List.length_take]
      exact Nat.min_le_left _ _
    · simp only [mockRsp, List.append_assoc]
      rw [← List.append_assoc]
      exact plLength_stored _ _ _ rfl

theorem sendIoctl_leaves (o : ByteOrder) (env : Env) (ep : Endpoint) (ti : Option TunnelInfo) (req : Bytes)
    (rspSz rspMin : ℕ) (set cmd : Byte) (hep : ep.transportData = none)
    (h0 : (sendIoctl o env ep.fd ti req rspSz rspMin).rc = 0) :
    Leaves (sendIoctl o env ep.fd ti req rspSz rspMin).rsp (returned env ep ti set cmd rspSz) rspSz ∧
      (tunnelDepth ti ≠ 0 → rspMin - 12 ≤ (returned env ep ti set cmd rspSz).length) := by
  cases ti with
  | none => exact ⟨sendIoctlDirect_leaves env ep none req rspSz set cmd hep rfl h0, fun h => absurd rfl h⟩
  | some t =>
    by_cases hl : t.level = 0
    · have hk : tunnelDepth (some t) = 0 := by rw [tunnelDepth, hl, Int.toNat_zero]
      rw [sendIoctl_direct o env ep.fd t req rspSz rspMin hl] at h0 ⊢
      exact ⟨sendIoctlDirect_leaves env ep (some t) req rspSz set cmd hep hk h0, fun h => absurd hk h⟩
    · rw [sendIoctl_tunnel o env ep.fd t req rspSz rspMin hl] at h0 ⊢
      cases hb : mailboxBuild o env t req with
      | none =>
        rw [hb] at h0
        cases h0
      | some p =>
        obtain ⟨k, tReq⟩ := p
        rw [hb] at h0
        have hk : tunnelDepth (some t) = k + 1 := mailboxBuild_depth o env t req k tReq hb
        obtain ⟨hleaves, hmin⟩ :=
          sendIoctlTunnelled_leaves o env ep (some t) k tReq rspSz rspMin set cmd hep hk h0
        exact ⟨hleaves, fun _ => hmin⟩

/-- After a zero code the response payload is what the device returned, and
zeros. -/
theorem sendCmdCci_success (o : ByteOrder) (env : Env) (ep : Endpoint) (ti : Option TunnelInfo) (req : Bytes)
    (rspSz rspMin : ℕ) (s : Outcome Endpoint) (hs : sendCmdCci o env ep ti req rspSz rspMin = some s)
    (h0 : s.rc = 0) :
    Leaves s.rsp (returned env ep ti (commandSet req) (command req) rspSz) rspSz ∧
      (SizeChecked ep ti → rspMin - 12 ≤ (returned env ep ti (commandSet req) (command req) rspSz).length) := by
  cases href : refused ep ti req with
  | true =>
    rw [sendCmdCci_refused o env ep ti req rspSz rspMin href] at hs
    obtain rfl := Option.some.inj hs
    cases h0
  | false =>
    cases hep : ep.transportData with
    | none =>
      rw [sendCmdCci_ioctl o env ep ti req rspSz rspMin href hep] at hs
      obtain rfl := Option.some.inj hs
      simp only [SizeChecked, hep]
      exact sendIoctl_leaves o env ep ti req rspSz rspMin _ _ hep h0
    | some td =>
      cases td with
      | mock t =>
        rw [sendCmdCci_mock o env ep t ti req rspSz rspMin href hep] at hs
        obtain rfl := Option.some.inj hs
        simp only [SizeChecked, hep]
        exact ⟨sendMockCmd_leaves o env ep t ti req rspSz hep h0, False.elim⟩
      | mctp m =>
        by_cases hn : m.nid = mockMagic
        · rw [sendCmdCci_confused o env ep m ti req rspSz rspMin href hep hn] at hs
          cases hs
        · rw [sendCmdCci_mctp o env ep m ti req rspSz rspMin href hep hn] at hs
          obtain rfl := Option.some.inj hs
          obtain ⟨hleaves, hmin⟩ := sendMctp_leaves o env m _ ti req rspSz rspMin ep (commandSet req) (command req)
            hep h0
          exact ⟨hleaves, fun _ => hmin⟩

end LibCxlmi.Transport
