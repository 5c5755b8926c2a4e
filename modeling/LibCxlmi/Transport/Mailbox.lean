import LibCxlmi.Transport.Mctp

/-!
# Commands over the Linux mailbox (cxlmi.c:807-1134)

`send_ioctl_direct`, `send_ioctl_tunnel1` and `send_ioctl_tunnel2`. The kernel
takes the place of the outermost CCI header: a tunnelled request is handed over
as the payload of opcode 5300h, and the device's code for it comes back in
`retval`. At depth `k` below, `k` of the tunnels have a CCI header of their
own (none at level 1, one at level 2).
-/

namespace LibCxlmi.Transport
open LibCxlmi.Word LibCxlmi.Cci

/-- CXL_MEM_SEND_COMMAND with room for `outSz` bytes; `out.size` is 32 bits
wide, and the kernel stores no more than it. -/
def mailboxIoctl (env : Env) (fd : ℤ) (outSz : ℕ) : IoctlResult :=
  if fd < 0 then .error
  else
    match env.ioctl with
    | .error => .error
    | .done retval out => .done retval (out.take (u32 outSz))

def mailboxTx (fd : ℤ) (opcode : ℕ) (payload : Bytes) : Tx :=
  .mailbox fd opcode (payload.take (u32 payload.length))

def mailboxRsp (rspSz : ℕ) (plLen : Bytes) (out : Bytes) : Bytes :=
  zeros 5 ++ plLen ++ zeros 4 ++ fillBuf (rspSz - 12) out

def rawOpcode (req : Bytes) : ℕ := (command req).val ||| ((commandSet req).val <<< 8)

def sendIoctlDirect (env : Env) (fd : ℤ) (req : Bytes) (rspSz : ℕ) : Outcome Unit :=
  match mailboxIoctl env fd (rspSz - 12) with
  | .error => ⟨-1, zeros rspSz, [], none, ()⟩
  | .done retval out =>
      let sent := [mailboxTx fd (rawOpcode req) (payload req)]
      if retval ≠ 0 then ⟨retval.val, mailboxRsp rspSz (zeros 3) out, sent, none, ()⟩
      -- a reply below the caller's minimum is only logged
      else ⟨0, mailboxRsp rspSz (leBytes 3 (out.length % 2 ^ 20)) out, sent, none, ()⟩

/- The checks on the returned payload. `len` is an `int` and `len_min` a
`size_t`, so the first comparison is unsigned. -/
def unwindIoctl (o : ByteOrder) (k : ℕ) (req tRsp : Bytes) (outSize rspSz rspMin : ℕ) : ℤ :=
  let len := int32 outSize
  if sizeT len < 4 + 16 * k + rspMin then -1
  else
    let len := int32 (len - 4)
    let tunnelLen := tunnelRspLength o tRsp 0
    if (tunnelLen : ℤ) ≠ len then -1
    else if tunnelLen < 16 * k + rspMin then -1
    else unwind o (ioctlRule rspSz rspMin) k req (tRsp.drop 4) len

/- From the allocation of the response on. A nonzero `retval` is negated. -/
def sendIoctlTunnelled (o : ByteOrder) (env : Env) (fd : ℤ) (k : ℕ) (tReq : Bytes)
    (rspSz rspMin : ℕ) : Outcome Unit :=
  if env.alloc .tunnelRsp (4 + 16 * k + rspSz) = false then ⟨-1, zeros rspSz, [], none, ()⟩
  else
    match mailboxIoctl env fd (4 + 16 * k + rspSz) with
    | .error => ⟨-1, zeros rspSz, [], none, ()⟩
    | .done retval out =>
        let sent := [mailboxTx fd 0x5300 tReq]
        if retval ≠ 0 then ⟨-(retval.val : ℤ), zeros rspSz, sent, none, ()⟩
        else
          let tRsp := fillBuf (4 + 16 * k + rspSz) out
          let rc := unwindIoctl o k (tReq.drop 4) tRsp out.length rspSz rspMin
          ⟨rc, if rc = 0 then (tRsp.drop (4 + 16 * k)).take rspSz else zeros rspSz, sent, none, ()⟩

/-- A tunnel header in front of a message; the target type is always 0 here. -/
def ioctlTunnelReq (o : ByteOrder) (id : ℤ) (msg : Bytes) : Bytes :=
  tunnelReqHdr o (uint8 id) targetTypePortOrLd msg.length ++ msg

theorem ioctlTunnelReq_length (o : ByteOrder) (id : ℤ) (m : Bytes) :
    (ioctlTunnelReq o id m).length = 4 + m.length := by
  rw [ioctlTunnelReq, List.length_append, tunnelReqHdr_length]

theorem ioctlTunnelReq_drop (o : ByteOrder) (id : ℤ) (m : Bytes) : (ioctlTunnelReq o id m).drop 4 = m :=
  List.drop_left' (tunnelReqHdr_length o _ _ _)

/- Level 1 looks at the copied header once more after the check. -/
def sendIoctlTunnel1 (o : ByteOrder) (env : Env) (fd : ℤ) (ti : TunnelInfo) (req : Bytes)
    (rspSz rspMin : ℕ) : Outcome Unit :=
  if env.alloc .tunnelReq (4 + req.length) = false then ⟨-1, zeros rspSz, [], none, ()⟩
  else
    let r := sendIoctlTunnelled o env fd 0 (ioctlTunnelReq o (TunnelInfo.target1 ti) req) rspSz rspMin
    if r.rc = 0 ∧ returnCode o r.rsp ≠ 0 then { r with rc := -(returnCode o r.rsp : ℤ) } else r

def ioctlTunnel2Req (o : ByteOrder) (ti : TunnelInfo) (req : Bytes) : Bytes :=
  ioctlTunnelReq o ti.port (buildTunnelReq o none ti.ld req)

def sendIoctlTunnel2 (o : ByteOrder) (env : Env) (fd : ℤ) (ti : TunnelInfo) (req : Bytes)
    (rspSz rspMin : ℕ) : Outcome Unit :=
  if env.alloc .tunnelReq (16 + req.length) = false then ⟨-1, zeros rspSz, [], none, ()⟩
  else if env.alloc .outerReq (20 + req.length) = false then ⟨-1, zeros rspSz, [], none, ()⟩
  else sendIoctlTunnelled o env fd 1 (ioctlTunnel2Req o ti req) rspSz rspMin

/-! ### Specification -/

theorem mailboxIoctl_length (env : Env) (fd : ℤ) (outSz : ℕ) (retval : U 16) (out : Bytes)
    (h : mailboxIoctl env fd outSz = .done retval out) : out.length ≤ u32 outSz := by
  unfold mailboxIoctl at h
  split_ifs at h
  cases hi : env.ioctl with
  | error =>
    rw [hi] at h
    cases h
  | done rv b =>
    rw [hi] at h
    injection h with _ hb
    rw [← hb, List.length_take]
    exact Nat.min_le_left _ _

theorem cciReport_congr (o : ByteOrder) (req m : Bytes) (f f' : Bool) (n n' : ℕ)
    (h : LengthOk f n m.length ↔ LengthOk f' n' m.length) :
    cciReport o req m f n = cciReport o req m f' n' := by
  unfold cciReport
  simp only [h]

/- Inside the sizes the caller allows, the stricter rule of the mailbox
routines makes no difference. -/
theorem nestReports_ioctlRule (o : ByteOrder) (rspSz rspMin k : ℕ) (req d : Bytes)
    (hl : 16 * k + rspMin ≤ d.length) (hu : d.length ≤ 16 * k + rspSz) :
    nestReports o (ioctlRule rspSz rspMin) k req d = nestReports o (mctpRule rspSz rspMin) k req d := by
  induction k generalizing req d with
  | zero => simp only [nestReports, ioctlRule, mctpRule, Nat.mul_zero, Nat.zero_add]
  | succ k ih =>
    have hin := ih (req.drop 16) (d.drop 16) (by rw [List.length_drop]; omega)
      (by rw [List.length_drop]; omega)
    have hrule : LengthOk (rspSz == rspMin) (16 * (k + 1) + rspMin) d.length := by
      unfold LengthOk
      split_ifs with he
      · have heq : rspSz = rspMin := beq_iff_eq.mp he
        omega
      · exact hl
    have hlen : LengthOk false 16 d.length := by
      show 16 ≤ d.length
      omega
    have hhead : cciReport o req d (ioctlRule rspSz rspMin (k + 1)).1 (ioctlRule rspSz rspMin (k + 1)).2 =
        cciReport o req d (mctpRule rspSz rspMin (k + 1)).1 (mctpRule rspSz rspMin (k + 1)).2 :=
      cciReport_congr o req d _ _ _ _ ⟨fun _ => hlen, fun _ => hrule⟩
    rw [nestReports, nestReports, hhead, hin]

/-- The layers of a tunnelled mailbox reply below the kernel's own. -/
def tunnelledReports (o : ByteOrder) (k : ℕ) (req out : Bytes) (rspSz rspMin : ℕ) : List Report :=
  tunnelReport out :: nestReports o (mctpRule rspSz rspMin) k req (out.drop 4)

theorem unwindIoctl_eq (o : ByteOrder) (k : ℕ) (req out : Bytes) (rspSz rspMin : ℕ)
    (hs : out.length ≤ 4 + 16 * k + rspSz) (hw : out.length < 2 ^ 32) :
    unwindIoctl o k req (fillBuf (4 + 16 * k + rspSz) out) out.length rspSz rspMin =
      if out.length < 4 + 16 * k + rspMin then -1
      else judge (tunnelledReports o k req out rspSz rspMin) := by
  have hmax : leVal (slice out 0 2) < 2 ^ 16 := tunnelLength_lt out 0
  unfold unwindIoctl tunnelledReports
  by_cases hneg : 2 ^ 31 ≤ out.length
  · -- a length above INT_MAX wraps to a value that no 16-bit field has
    have hbuf := tunnelLength_lt (fillBuf (4 + 16 * k + rspSz) out) 0
    have hf : tunnelReport out = .failed := by
      unfold tunnelReport
      exact if_neg (by omega)
    have hi : (leVal (slice (fillBuf (4 + 16 * k + rspSz) out) 0 2) : ℤ) ≠
        int32 (int32 (out.length : ℤ) - 4) := by
      rw [int32_natCast_neg _ hneg hw]
      unfold int32
      rw [Int.bmod_def]
      omega
    simp only [tunnelRspLength_eq, ne_eq, hi, not_false_eq_true, if_true, hf, judge, ite_self]
  · have hi : int32 (out.length : ℤ) = out.length := int32_natCast _ (by omega)
    have hsz : sizeT (out.length : ℤ) = out.length := sizeT_natCast _ (by omega)
    simp only [hi, hsz]
    by_cases hshort : out.length < 4 + 16 * k + rspMin
    · rw [if_pos hshort, if_pos hshort]
    · have hlen : (out.drop 4).length = out.length - 4 := List.length_drop
      have hi4 : int32 ((out.length : ℤ) - 4) = (out.drop 4).length := by
        rw [show (out.length : ℤ) - 4 = ((out.drop 4).length : ℤ) by omega]
        exact int32_natCast _ (by omega)
      have hfield : slice (fillBuf (4 + 16 * k + rspSz) out) 0 2 = slice out 0 2 :=
        slice_append out _ 0 2 (by omega)
      rw [if_neg hshort, if_neg hshort, tunnelRspLength_eq, hfield, hi4]
      by_cases ht : leVal (slice out 0 2) = (out.drop 4).length
      · have hok : tunnelReport out = .ok := by
          unfold tunnelReport
          exact if_pos (by omega)
        have hrule : ∀ j, 16 ≤ (ioctlRule rspSz rspMin (j + 1)).2 := fun j => by
          simp only [ioctlRule]
          omega
        rw [if_neg (by omega), if_neg (by omega), fillBuf_drop _ _ _ (by omega), hok, judge]
        unfold fillBuf
        rw [unwind_eq_judge o _ hrule k req (out.drop 4) _ (by omega),
          nestReports_ioctlRule o rspSz rspMin k req (out.drop 4) (by omega) (by omega)]
      · have hf : tunnelReport out = .failed := by
          unfold tunnelReport
          exact if_neg (by omega)
        rw [if_pos (by omega), hf]
        rfl

def tunnelledIoctl (env : Env) (fd : ℤ) (k rspSz : ℕ) : IoctlResult :=
  if env.alloc .tunnelRsp (4 + 16 * k + rspSz) = false then .error
  else mailboxIoctl env fd (4 + 16 * k + rspSz)

theorem tunnelledIoctl_length (env : Env) (fd : ℤ) (k rspSz : ℕ) (retval : U 16) (out : Bytes)
    (h : tunnelledIoctl env fd k rspSz = .done retval out) : out.length ≤ u32 (4 + 16 * k + rspSz) := by
  unfold tunnelledIoctl at h
  split_ifs at h
  exact mailboxIoctl_length env fd _ retval out h

theorem tunnelledIoctl_fits (env : Env) (fd : ℤ) (k rspSz : ℕ) (retval : U 16) (out : Bytes)
    (h : tunnelledIoctl env fd k rspSz = .done retval out) :
    out.length ≤ 4 + 16 * k + rspSz ∧ out.length < 2 ^ 32 := by
  have hlen := tunnelledIoctl_length env fd k rspSz retval out h
  exact ⟨hlen.trans (u32_le _), hlen.trans_lt (u32_lt _)⟩

theorem sendIoctlTunnelled_error (o : ByteOrder) (env : Env) (fd : ℤ) (k : ℕ) (tReq : Bytes)
    (rspSz rspMin : ℕ) (h : tunnelledIoctl env fd k rspSz = .error) :
    sendIoctlTunnelled o env fd k tReq rspSz rspMin = ⟨-1, zeros rspSz, [], none, ()⟩ := by
  unfold tunnelledIoctl at h
  unfold sendIoctlTunnelled
  split_ifs at h ⊢ with ha
  · rfl
  · simp only [h]

/- The two ways a completed ioctl is taken up: a status, or a message to be unwound. -/
theorem sendIoctlTunnelled_status (o : ByteOrder) (env : Env) (fd : ℤ) (k : ℕ) (tReq : Bytes)
    (rspSz rspMin : ℕ) (retval : U 16) (out : Bytes)
    (h : tunnelledIoctl env fd k rspSz = .done retval out) (hr : retval ≠ 0) :
    sendIoctlTunnelled o env fd k tReq rspSz rspMin =
      ⟨-(retval.val : ℤ), zeros rspSz, [mailboxTx fd 0x5300 tReq], none, ()⟩ := by
  unfold tunnelledIoctl at h
  unfold sendIoctlTunnelled
  split_ifs at h with ha
  simp only [if_neg ha, h, ne_eq, hr, not_false_eq_true, if_true]

theorem sendIoctlTunnelled_unwound (o : ByteOrder) (env : Env) (fd : ℤ) (k : ℕ) (tReq : Bytes)
    (rspSz rspMin : ℕ) (out : Bytes) (rc : ℤ) (h : tunnelledIoctl env fd k rspSz = .done 0 out)
    (hrc : unwindIoctl o k (tReq.drop 4) (fillBuf (4 + 16 * k + rspSz) out) out.length rspSz rspMin = rc) :
    sendIoctlTunnelled o env fd k tReq rspSz rspMin =
      ⟨rc, if rc = 0 then ((fillBuf (4 + 16 * k + rspSz) out).drop (4 + 16 * k)).take rspSz else zeros rspSz,
        [mailboxTx fd 0x5300 tReq], none, ()⟩ := by
  unfold tunnelledIoctl at h
  unfold sendIoctlTunnelled
  split_ifs at h with ha
  simp only [if_neg ha, h, ne_eq, not_true_eq_false, if_false, hrc]

theorem sendIoctlTunnelled_done (o : ByteOrder) (env : Env) (fd : ℤ) (k : ℕ) (tReq : Bytes)
    (rspSz rspMin : ℕ) (retval : U 16) (out : Bytes)
    (h : tunnelledIoctl env fd k rspSz = .done retval out) :
    (sendIoctlTunnelled o env fd k tReq rspSz rspMin).rc =
      if retval ≠ 0 then -(retval.val : ℤ)
      else if out.length < 4 + 16 * k + rspMin then -1
      else judge (tunnelledReports o k (tReq.drop 4) out rspSz rspMin) := by
  obtain ⟨hs, hw⟩ := tunnelledIoctl_fits env fd k rspSz retval out h
  by_cases hr : retval = 0
  · subst hr
    rw [if_neg (not_not.mpr rfl), sendIoctlTunnelled_unwound o env fd k tReq rspSz rspMin out _ h rfl]
    exact unwindIoctl_eq o k (tReq.drop 4) out rspSz rspMin hs hw
  · rw [if_pos hr, sendIoctlTunnelled_status o env fd k tReq rspSz rspMin retval out h hr]

theorem sendIoctlTunnelled_sent (o : ByteOrder) (env : Env) (fd : ℤ) (k : ℕ) (tReq : Bytes)
    (rspSz rspMin : ℕ) (retval : U 16) (out : Bytes)
    (h : tunnelledIoctl env fd k rspSz = .done retval out) :
    (sendIoctlTunnelled o env fd k tReq rspSz rspMin).sent = [mailboxTx fd 0x5300 tReq] := by
  by_cases hr : retval = 0
  · subst hr
    rw [sendIoctlTunnelled_unwound o env fd k tReq rspSz rspMin out _ h rfl]
  · rw [sendIoctlTunnelled_status o env fd k tReq rspSz rspMin retval out h hr]

theorem sendIoctlTunnelled_failed_rsp (o : ByteOrder) (env : Env) (fd : ℤ) (k : ℕ) (tReq : Bytes)
    (rspSz rspMin : ℕ) (h : (sendIoctlTunnelled o env fd k tReq rspSz rspMin).rc ≠ 0) :
    (sendIoctlTunnelled o env fd k tReq rspSz rspMin).rsp = zeros rspSz := by
  cases hio : tunnelledIoctl env fd k rspSz with
  | error => rw [sendIoctlTunnelled_error o env fd k tReq rspSz rspMin hio]
  | done retval out =>
    by_cases hr : retval = 0
    · subst hr
      rw [sendIoctlTunnelled_unwound o env fd k tReq rspSz rspMin out _ hio rfl] at h ⊢
      exact if_neg h
    · rw [sendIoctlTunnelled_status o env fd k tReq rspSz rspMin retval out hio hr]

/-- On success the caller's buffer is the innermost message and zeros. -/
theorem sendIoctlTunnelled_rsp (o : ByteOrder) (env : Env) (fd : ℤ) (k : ℕ) (tReq : Bytes)
    (rspSz rspMin : ℕ) (retval : U 16) (out : Bytes)
    (h : tunnelledIoctl env fd k rspSz = .done retval out) (hk : 4 + 16 * k ≤ out.length)
    (h0 : (sendIoctlTunnelled o env fd k tReq rspSz rspMin).rc = 0) :
    (sendIoctlTunnelled o env fd k tReq rspSz rspMin).rsp = fillBuf rspSz (out.drop (4 + 16 * k)) := by
  obtain ⟨hs, -⟩ := tunnelledIoctl_fits env fd k rspSz retval out h
  by_cases hr : retval = 0
  · subst hr
    rw [sendIoctlTunnelled_unwound o env fd k tReq rspSz rspMin out _ h rfl] at h0 ⊢
    dsimp only at h0 ⊢
    rw [if_pos h0, fillBuf_drop _ _ _ hk, show 4 + 16 * k + rspSz - (4 + 16 * k) = rspSz by omega]
    exact fillBuf_take rspSz _ (by rw [List.length_drop]; omega)
  · rw [sendIoctlTunnelled_status o env fd k tReq rspSz rspMin retval out h hr] at h0
    have hv : retval.val ≠ 0 := fun hv => hr (Fin.ext hv)
    have h0' : -(retval.val : ℤ) = 0 := h0
    omega

/-- Success means the layers were all fine and long enough. -/
theorem sendIoctlTunnelled_success (o : ByteOrder) (env : Env) (fd : ℤ) (k : ℕ) (tReq : Bytes)
    (rspSz rspMin : ℕ) (h0 : (sendIoctlTunnelled o env fd k tReq rspSz rspMin).rc = 0) :
    ∃ out, tunnelledIoctl env fd k rspSz = .done 0 out ∧ 4 + 16 * k + rspMin ≤ out.length ∧
      judge (tunnelledReports o k (tReq.drop 4) out rspSz rspMin) = 0 := by
  cases h : tunnelledIoctl env fd k rspSz with
  | error =>
    rw [sendIoctlTunnelled_error o env fd k tReq rspSz rspMin h] at h0
    exact absurd h0 (show (-1 : ℤ) ≠ 0 by decide)
  | done retval out =>
    rw [sendIoctlTunnelled_done o env fd k tReq rspSz rspMin retval out h] at h0
    split_ifs at h0 with hr hl
    · have hv : retval.val ≠ 0 := fun hv => hr (Fin.ext hv)
      omega
    · exact ⟨out, by rw [not_not.mp hr], by omega, h0⟩

/- The second look at the return code never finds one: the check already
returned it. -/
theorem sendIoctlTunnel1_eq (o : ByteOrder) (env : Env) (fd : ℤ) (ti : TunnelInfo) (req : Bytes)
    (rspSz rspMin : ℕ) :
    sendIoctlTunnel1 o env fd ti req rspSz rspMin =
      if env.alloc .tunnelReq (4 + req.length) = false then ⟨-1, zeros rspSz, [], none, ()⟩
      else sendIoctlTunnelled o env fd 0 (ioctlTunnelReq o (TunnelInfo.target1 ti) req) rspSz rspMin := by
  unfold sendIoctlTunnel1
  by_cases ha : env.alloc .tunnelReq (4 + req.length) = false
  · rw [if_pos ha, if_pos ha]
  · rw [if_neg ha, if_neg ha]
    refine if_neg fun ⟨h0, hne⟩ => ?_
    obtain ⟨out, hd, -, hj⟩ := sendIoctlTunnelled_success o env fd 0 _ rspSz rspMin h0
    have hlayer : CciLayer o _ (out.drop 4) := ((judge_mctpRule_eq_zero o rspSz rspMin 0 _ _).mp
      ((judge_tunnelReport_cons out _).mp hj).2).1
    have hlen := hlayer.header
    rw [List.length_drop] at hlen
    have hrsp := sendIoctlTunnelled_rsp o env fd 0 _ rspSz rspMin 0 out hd (by omega) h0
    rw [hrsp, fillBuf, returnCode_append o _ _ hlayer.header] at hne
    exact hne hlayer.success

end LibCxlmi.Transport
