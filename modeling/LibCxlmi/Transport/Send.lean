import LibCxlmi.Transport.Mailbox
import LibCxlmi.Transport.Mock

/-!
# send_cmd_cci (cxlmi.c:1144-1208, 1794-1827)

The dispatch of one command: the FM-API gate, the bound on the tunnel level and
the choice of a transport. `none` is the one case the C leaves undefined: MCTP
transport data whose network id is the mock magic number would be used as mock
transport data. The inter-command delay only takes time; `Run.Pacing` has it.
-/

namespace LibCxlmi.Transport
open LibCxlmi.Word LibCxlmi.Cci

def cmdIsFmapi (set : Byte) : Bool := 0x51 ≤ set ∧ set ≤ 0x56

def failOutcome {σ : Type} (rspSz : ℕ) (st : σ) : Outcome σ := ⟨-1, zeros rspSz, [], none, st⟩

def sendMctp (o : ByteOrder) (env : Env) (m : MctpTransport) (fmapi : Bool) (ti : Option TunnelInfo)
    (req : Bytes) (rspSz rspMin : ℕ) : Outcome MctpTransport :=
  match ti with
  | none => sendMctpDirect o env m fmapi req rspSz rspMin
  | some t =>
      if t.level = 0 then sendMctpDirect o env m fmapi req rspSz rspMin
      else if t.level = 1 then sendMctpTunnel1 o env m t req rspSz rspMin
      else if t.level = 2 then sendMctpTunnel2 o env m t req rspSz rspMin
      else failOutcome rspSz m

def sendIoctl (o : ByteOrder) (env : Env) (fd : ℤ) (ti : Option TunnelInfo) (req : Bytes)
    (rspSz rspMin : ℕ) : Outcome Unit :=
  match ti with
  | none => sendIoctlDirect env fd req rspSz
  | some t =>
      if t.level = 0 then sendIoctlDirect env fd req rspSz
      else if t.level = 1 then sendIoctlTunnel1 o env fd t req rspSz rspMin
      else if t.level = 2 then sendIoctlTunnel2 o env fd t req rspSz rspMin
      else failOutcome rspSz ()

def refused (ep : Endpoint) (ti : Option TunnelInfo) (req : Bytes) : Bool :=
  (cmdIsFmapi (commandSet req) && !ep.hasFmapi) ||
    match ti with
    | none => false
    | some t => decide (2 < t.level)

def sendCmdCci (o : ByteOrder) (env : Env) (ep : Endpoint) (ti : Option TunnelInfo) (req : Bytes)
    (rspSz rspMin : ℕ) : Option (Outcome Endpoint) :=
  if refused ep ti req then some (failOutcome rspSz ep)
  else
    match ep.transportData with
    | some (.mock k) =>
        some ((sendMockCmd o env k req rspSz).map fun k => { ep with transportData := some (.mock k) })
    | some (.mctp m) =>
        if isMockEndpoint ep then none
        else some ((sendMctp o env m (cmdIsFmapi (commandSet req)) ti req rspSz rspMin).map fun m =>
          { ep with transportData := some (.mctp m) })
    | none => some ((sendIoctl o env ep.fd ti req rspSz rspMin).map fun _ => ep)

/-- `arm_cci_request` and the payload after the header: only an MCTP endpoint
has a tag counter. -/
def armCciRequest (o : ByteOrder) (ep : Endpoint) (set cmd : Byte) (pl : Bytes) : Bytes × Endpoint :=
  match ep.transportData with
  | some (.mctp m) =>
      if isMockEndpoint ep then (cciHeader o 0 cmd set pl.length ++ pl, ep)
      else (cciHeader o (uint8 m.tag) cmd set pl.length ++ pl,
        { ep with transportData := some (.mctp (m.advance 1)) })
  | _ => (cciHeader o 0 cmd set pl.length ++ pl, ep)

theorem armCciRequest_mctp (o : ByteOrder) (ep : Endpoint) (m : MctpTransport) (set cmd : Byte)
    (pl : Bytes) (hm : ep.transportData = some (.mctp m)) (hn : m.nid ≠ mockMagic) :
    armCciRequest o ep set cmd pl = (cciHeader o (uint8 m.tag) cmd set pl.length ++ pl,
      { ep with transportData := some (.mctp (m.advance 1)) }) := by
  have hi : isMockEndpoint ep = false := by
    simp only [isMockEndpoint, hm, beq_eq_false_iff_ne]
    exact hn
  simp only [armCciRequest, hm, hi, Bool.false_eq_true, if_false]

/-! ### What each endpoint kind does -/

theorem sendCmdCci_refused (o : ByteOrder) (env : Env) (ep : Endpoint) (ti : Option TunnelInfo)
    (req : Bytes) (rspSz rspMin : ℕ) (h : refused ep ti req = true) :
    sendCmdCci o env ep ti req rspSz rspMin = some (failOutcome rspSz ep) := if_pos h

theorem sendCmdCci_mock (o : ByteOrder) (env : Env) (ep : Endpoint) (k : MockTransport)
    (ti : Option TunnelInfo) (req : Bytes) (rspSz rspMin : ℕ) (h : refused ep ti req = false)
    (hk : ep.transportData = some (.mock k)) :
    sendCmdCci o env ep ti req rspSz rspMin =
      some ((sendMockCmd o env k req rspSz).map fun k => { ep with transportData := some (.mock k) }) := by
  simp only [sendCmdCci, h, hk, Bool.false_eq_true, if_false]

theorem isMockEndpoint_mctp (ep : Endpoint) (m : MctpTransport)
    (hm : ep.transportData = some (.mctp m)) : isMockEndpoint ep = true ↔ m.nid = mockMagic := by
  simp only [isMockEndpoint, hm, beq_iff_eq]

theorem sendCmdCci_mctp (o : ByteOrder) (env : Env) (ep : Endpoint) (m : MctpTransport)
    (ti : Option TunnelInfo) (req : Bytes) (rspSz rspMin : ℕ) (h : refused ep ti req = false)
    (hm : ep.transportData = some (.mctp m)) (hn : m.nid ≠ mockMagic) :
    sendCmdCci o env ep ti req rspSz rspMin =
      some ((sendMctp o env m (cmdIsFmapi (commandSet req)) ti req rspSz rspMin).map fun m =>
        { ep with transportData := some (.mctp m) }) := by
  have hi : ¬isMockEndpoint ep = true := fun hi => hn ((isMockEndpoint_mctp ep m hm).mp hi)
  simp only [sendCmdCci, h, hm, hi, Bool.false_eq_true, if_false]

theorem sendCmdCci_confused (o : ByteOrder) (env : Env) (ep : Endpoint) (m : MctpTransport)
    (ti : Option TunnelInfo) (req : Bytes) (rspSz rspMin : ℕ) (h : refused ep ti req = false)
    (hm : ep.transportData = some (.mctp m)) (hn : m.nid = mockMagic) :
    sendCmdCci o env ep ti req rspSz rspMin = none := by
  have hi : isMockEndpoint ep = true := (isMockEndpoint_mctp ep m hm).mpr hn
  simp only [sendCmdCci, h, hm, hi, Bool.false_eq_true, if_false, if_true]

theorem sendCmdCci_ioctl (o : ByteOrder) (env : Env) (ep : Endpoint) (ti : Option TunnelInfo)
    (req : Bytes) (rspSz rspMin : ℕ) (h : refused ep ti req = false)
    (hm : ep.transportData = none) :
    sendCmdCci o env ep ti req rspSz rspMin =
      some ((sendIoctl o env ep.fd ti req rspSz rspMin).map fun _ => ep) := by
  simp only [sendCmdCci, h, hm, Bool.false_eq_true, if_false]

/-! ### Tunnelled commands whose buffers are allocated

Level `k + 1`, with `k` 0 or 1. -/

def mctpTunnelReq (o : ByteOrder) (m : MctpTransport) (t : TunnelInfo) (req : Bytes) : Bytes :=
  if t.level = 1 then buildTunnelReq o (some m.tag) (TunnelInfo.target1 t) req
  else mctpTunnel2Req o m t req

def mailboxTunnelReq (o : ByteOrder) (t : TunnelInfo) (req : Bytes) : Bytes :=
  if t.level = 1 then ioctlTunnelReq o (TunnelInfo.target1 t) req else ioctlTunnel2Req o t req

theorem mctpTunnelReq_length (o : ByteOrder) (m : MctpTransport) (t : TunnelInfo) (req : Bytes)
    (k : ℕ) (hk : k = 0 ∨ k = 1) (ht : t.level = k + 1) :
    (mctpTunnelReq o m t req).length = 16 * (k + 1) + req.length := by
  unfold mctpTunnelReq mctpTunnel2Req
  rcases hk with rfl | rfl
  · rw [if_pos (by omega), buildTunnelReq_length]
  · rw [if_neg (by omega), buildTunnelReq_length, buildTunnelReq_length]
    omega

theorem mctpTunnelReq_drop (o : ByteOrder) (m : MctpTransport) (t : TunnelInfo) (req : Bytes)
    (k : ℕ) (hk : k = 0 ∨ k = 1) (ht : t.level = k + 1) :
    (mctpTunnelReq o m t req).drop (16 * (k + 1)) = req := by
  unfold mctpTunnelReq mctpTunnel2Req
  rcases hk with rfl | rfl
  · rw [if_pos (by omega)]
    exact buildTunnelReq_drop o _ _ req
  · rw [if_neg (by omega), show 16 * (1 + 1) = 16 + 16 by rfl, ← List.drop_drop, buildTunnelReq_drop,
      buildTunnelReq_drop]

theorem mailboxTunnelReq_drop (o : ByteOrder) (t : TunnelInfo) (req : Bytes)
    (k : ℕ) (hk : k = 0 ∨ k = 1) (ht : t.level = k + 1) :
    ((mailboxTunnelReq o t req).drop 4).drop (16 * k) = req := by
  unfold mailboxTunnelReq ioctlTunnel2Req ioctlTunnelReq
  rcases hk with rfl | rfl
  · rw [if_pos (by omega), List.drop_left' (tunnelReqHdr_length o _ _ _)]
    rfl
  · rw [if_neg (by omega), List.drop_left' (tunnelReqHdr_length o _ _ _)]
    exact buildTunnelReq_drop o _ _ req

/-- The number of tunnels and the outermost message of a command over MCTP,
where the level is known and the request buffers are allocated. -/
def mctpBuild (o : ByteOrder) (env : Env) (m : MctpTransport) (ti : Option TunnelInfo) (req : Bytes) :
    Option (ℕ × Bytes) :=
  match ti with
  | none => some (0, req)
  | some t =>
      if t.level = 0 then some (0, req)
      else if t.level = 1 ∧ env.alloc .tunnelReq (16 + req.length) = true then
        some (1, mctpTunnelReq o m t req)
      else if t.level = 2 ∧ env.alloc .tunnelReq (16 + req.length) = true ∧
          env.alloc .outerReq (32 + req.length) = true then
        some (2, mctpTunnelReq o m t req)
      else none

/- All that `sendMctp` can do: give up before anything is sent, with at most one
tag spent, send the message itself, or send it in tunnels. -/
theorem sendMctp_cases (o : ByteOrder) (env : Env) (m : MctpTransport) (fmapi : Bool)
    (ti : Option TunnelInfo) (req : Bytes) (rspSz rspMin : ℕ) :
    (mctpBuild o env m ti req = none ∧ ∃ n, n ≤ 1 ∧
        sendMctp o env m fmapi ti req rspSz rspMin = failOutcome rspSz (m.advance n)) ∨
      (mctpBuild o env m ti req = some (0, req) ∧
        sendMctp o env m fmapi ti req rspSz rspMin = sendMctpDirect o env m fmapi req rspSz rspMin) ∨
      ∃ k tReq, mctpBuild o env m ti req = some (k + 1, tReq) ∧
        sendMctp o env m fmapi ti req rspSz rspMin =
          sendMctpTunnelled o env (m.advance (k + 1)) (k + 1) tReq rspSz rspMin := by
  cases ti with
  | none => exact Or.inr (Or.inl ⟨rfl, rfl⟩)
  | some t =>
    by_cases h0 : t.level = 0
    · exact Or.inr (Or.inl ⟨if_pos h0, if_pos h0⟩)
    unfold mctpBuild sendMctp
    simp only [h0, if_false]
    by_cases h1 : t.level = 1
    · have h2 : ¬t.level = 2 := by omega
      simp only [h1, true_and, if_true, sendMctpTunnel1, mctpTunnelReq]
      cases ha : env.alloc .tunnelReq (16 + req.length) with
      | false => exact Or.inl ⟨by simp, 0, Nat.zero_le 1, rfl⟩
      | true => exact Or.inr (Or.inr ⟨0, _, rfl, rfl⟩)
    by_cases h2 : t.level = 2
    · simp only [h2, show ¬(2 : ℤ) = 1 by decide, false_and, true_and, if_true, if_false,
        sendMctpTunnel2, mctpTunnelReq]
      cases ha : env.alloc .tunnelReq (16 + req.length) with
      | false => exact Or.inl ⟨by simp, 0, Nat.zero_le 1, rfl⟩
      | true =>
        cases hb : env.alloc .outerReq (32 + req.length) with
        | false => exact Or.inl ⟨by simp, 1, Nat.le_refl 1, rfl⟩
        | true => exact Or.inr (Or.inr ⟨1, _, rfl, rfl⟩)
    · simp only [h1, h2, false_and, if_false]
      exact Or.inl ⟨trivial, 0, Nat.zero_le 1, rfl⟩

theorem mctpBuild_tag (o : ByteOrder) (env : Env) (m : MctpTransport) (ti : Option TunnelInfo)
    (req : Bytes) (k : ℕ) (tReq : Bytes) (h : mctpBuild o env m ti req = some (k, tReq)) :
    (k = 0 ∧ tReq = req) ∨ (1 ≤ k ∧ tag tReq = uint8 ((m.tag + k - 1 : ℕ) : ℤ)) := by
  unfold mctpBuild at h
  cases ti with
  | none =>
    obtain ⟨rfl, rfl⟩ := Prod.mk.inj (Option.some.inj h)
    exact Or.inl ⟨rfl, rfl⟩
  | some t =>
    simp only at h
    split_ifs at h with h0 h1 h2
    · obtain ⟨rfl, rfl⟩ := Prod.mk.inj (Option.some.inj h)
      exact Or.inl ⟨rfl, rfl⟩
    · obtain ⟨rfl, rfl⟩ := Prod.mk.inj (Option.some.inj h)
      refine Or.inr ⟨Nat.le_refl 1, ?_⟩
      rw [mctpTunnelReq, if_pos h1.1]
      rfl
    · obtain ⟨rfl, rfl⟩ := Prod.mk.inj (Option.some.inj h)
      refine Or.inr ⟨by decide, ?_⟩
      rw [mctpTunnelReq, if_neg (by omega)]
      rfl

/-- The number of tunnels of a level the library knows. -/
def tunnelDepth : Option TunnelInfo → ℕ
  | none => 0
  | some t => t.level.toNat

theorem mctpBuild_depth (o : ByteOrder) (env : Env) (m : MctpTransport) (ti : Option TunnelInfo)
    (req : Bytes) (k : ℕ) (tReq : Bytes) (h : mctpBuild o env m ti req = some (k, tReq)) :
    tunnelDepth ti = k ∧ tReq.length = 16 * k + req.length := by
  unfold mctpBuild at h
  cases ti with
  | none =>
    obtain ⟨rfl, rfl⟩ := Prod.mk.inj (Option.some.inj h)
    exact ⟨rfl, by omega⟩
  | some t =>
    simp only [tunnelDepth] at h ⊢
    split_ifs at h with h0 h1 h2
    · obtain ⟨rfl, rfl⟩ := Prod.mk.inj (Option.some.inj h)
      exact ⟨by omega, by omega⟩
    · obtain ⟨rfl, rfl⟩ := Prod.mk.inj (Option.some.inj h)
      exact ⟨by omega, mctpTunnelReq_length o m t req 0 (Or.inl rfl) (by omega)⟩
    · obtain ⟨rfl, rfl⟩ := Prod.mk.inj (Option.some.inj h)
      exact ⟨by omega, mctpTunnelReq_length o m t req 1 (Or.inr rfl) (by omega)⟩

/-- The descriptor of a command with `k` tunnels: tunnels and FM-API commands
go over the FM-API socket. -/
def mctpSd (m : MctpTransport) (fmapi : Bool) (k : ℕ) : ℤ :=
  if k = 0 ∧ fmapi = false then m.sd else m.fmapiSd

def mctpAddr (m : MctpTransport) (fmapi : Bool) (k : ℕ) : SockaddrMctp :=
  if k = 0 ∧ fmapi = false then m.addr else m.fmapiAddr

theorem sendMctp_effect (o : ByteOrder) (env : Env) (m : MctpTransport) (fmapi : Bool)
    (ti : Option TunnelInfo) (req : Bytes) (rspSz rspMin : ℕ) (r : Outcome MctpTransport)
    (hr : r = sendMctp o env m fmapi ti req rspSz rspMin) :
    (mctpBuild o env m ti req = none ∧ r.sent = [] ∧ r.taken = none ∧ r.rc = -1 ∧
        ∃ n, r.st = m.advance n) ∨
      ∃ k tReq, mctpBuild o env m ti req = some (k, tReq) ∧ r.st = m.advance k ∧
        MctpEffect o env (mctpSd m fmapi k) (mctpAddr m fmapi k) k tReq rspSz rspMin r := by
  subst hr
  rcases sendMctp_cases o env m fmapi ti req rspSz rspMin with
    ⟨hb, n, -, hs⟩ | ⟨hb, hs⟩ | ⟨k, tReq, hb, hs⟩
  · rw [hs]
    exact Or.inl ⟨hb, rfl, rfl, rfl, n, rfl⟩
  · rw [hs]
    refine Or.inr ⟨0, req, hb, sendMctpDirect_st o env m fmapi req rspSz rspMin, ?_⟩
    have he := sendMctpDirect_effect o env m fmapi req rspSz rspMin
    cases fmapi with
    | false => exact he
    | true => exact he
  · rw [hs]
    exact Or.inr ⟨k + 1, tReq, hb, sendMctpTunnelled_st o env _ (k + 1) tReq rspSz rspMin,
      sendMctpTunnelled_effect o env _ (k + 1) tReq rspSz rspMin⟩

def mailboxBuild (o : ByteOrder) (env : Env) (t : TunnelInfo) (req : Bytes) : Option (ℕ × Bytes) :=
  if t.level = 1 ∧ env.alloc .tunnelReq (4 + req.length) = true then some (0, mailboxTunnelReq o t req)
  else if t.level = 2 ∧ env.alloc .tunnelReq (16 + req.length) = true ∧
      env.alloc .outerReq (20 + req.length) = true then
    some (1, mailboxTunnelReq o t req)
  else none

theorem mailboxBuild_level (o : ByteOrder) (env : Env) (t : TunnelInfo) (req : Bytes) (p : ℕ × Bytes)
    (h : mailboxBuild o env t req = some p) : t.level ≠ 0 := by
  intro h0
  unfold mailboxBuild at h
  rw [if_neg (by omega), if_neg (by omega)] at h
  cases h

theorem mailboxBuild_depth (o : ByteOrder) (env : Env) (t : TunnelInfo) (req : Bytes) (k : ℕ) (tReq : Bytes)
    (h : mailboxBuild o env t req = some (k, tReq)) : tunnelDepth (some t) = k + 1 := by
  unfold mailboxBuild at h
  simp only [tunnelDepth]
  split_ifs at h with h1 h2
  · obtain ⟨rfl, -⟩ := Prod.mk.inj (Option.some.inj h)
    omega
  · obtain ⟨rfl, -⟩ := Prod.mk.inj (Option.some.inj h)
    omega

theorem sendIoctl_direct (o : ByteOrder) (env : Env) (fd : ℤ) (t : TunnelInfo) (req : Bytes)
    (rspSz rspMin : ℕ) (h0 : t.level = 0) :
    sendIoctl o env fd (some t) req rspSz rspMin = sendIoctlDirect env fd req rspSz := if_pos h0

theorem sendIoctl_tunnel (o : ByteOrder) (env : Env) (fd : ℤ) (t : TunnelInfo) (req : Bytes)
    (rspSz rspMin : ℕ) (h0 : t.level ≠ 0) :
    sendIoctl o env fd (some t) req rspSz rspMin =
      match mailboxBuild o env t req with
      | none => failOutcome rspSz ()
      | some (k, tReq) => sendIoctlTunnelled o env fd k tReq rspSz rspMin := by
  unfold sendIoctl mailboxBuild
  simp only [h0, if_false]
  by_cases h1 : t.level = 1
  · simp only [h1, true_and, if_true, sendIoctlTunnel1_eq, mailboxTunnelReq]
    cases ha : env.alloc .tunnelReq (4 + req.length) with
    | false => rfl
    | true => rfl
  by_cases h2 : t.level = 2
  · simp only [h2, show ¬(2 : ℤ) = 1 by decide, false_and, true_and, if_true, if_false,
      sendIoctlTunnel2, mailboxTunnelReq]
    cases ha : env.alloc .tunnelReq (16 + req.length) with
    | false => rfl
    | true =>
      cases hb : env.alloc .outerReq (20 + req.length) with
      | false => rfl
      | true => rfl
  · simp only [h1, h2, false_and, if_false]

/-- The socket takes the request and delivers the datagram `d`, after any
number of interrupted waits. -/
structure Delivers (env : Env) (d : Bytes) : Prop where
  alloc : ∀ s n, env.alloc s n = true
  send : env.sendOk = true
  poll : env.poll = .ready
  recv : env.recv = .datagram d

structure Returns (env : Env) (out : Bytes) : Prop where
  alloc : ∀ s n, env.alloc s n = true
  ioctl : env.ioctl = .done 0 out

theorem mctpBuild_alloc (o : ByteOrder) (env : Env) (m : MctpTransport) (t : TunnelInfo) (req : Bytes)
    (k : ℕ) (hk : k = 0 ∨ k = 1) (ht : t.level = k + 1)
    (ha : ∀ s n, n ≤ 32 + req.length → env.alloc s n = true) :
    mctpBuild o env m (some t) req = some (k + 1, mctpTunnelReq o m t req) := by
  have h0 : ¬t.level = 0 := by omega
  have hinner := ha .tunnelReq (16 + req.length) (by omega)
  have houter := ha .outerReq (32 + req.length) (Nat.le_refl _)
  unfold mctpBuild
  simp only [h0, if_false, hinner, houter, and_true]
  rcases hk with rfl | rfl
  · rw [if_pos (by omega)]
  · rw [if_neg (by omega), if_pos (by omega)]

theorem sendMctp_tunnel (o : ByteOrder) (env : Env) (m : MctpTransport) (fmapi : Bool) (t : TunnelInfo)
    (req : Bytes) (rspSz rspMin k : ℕ) (hk : k = 0 ∨ k = 1) (ht : t.level = k + 1)
    (ha : ∀ s n, env.alloc s n = true) :
    sendMctp o env m fmapi (some t) req rspSz rspMin =
      sendMctpTunnelled o env (m.advance (k + 1)) (k + 1) (mctpTunnelReq o m t req) rspSz rspMin := by
  have hb := mctpBuild_alloc o env m t req k hk ht fun s n _ => ha s n
  rcases sendMctp_cases o env m fmapi (some t) req rspSz rspMin with ⟨h, -⟩ | ⟨h, -⟩ | ⟨j, tReq, h, hs⟩
  · rw [h] at hb
    cases hb
  · rw [h] at hb
    cases hb
  · obtain ⟨hj, rfl⟩ := Prod.mk.inj (Option.some.inj (h.symm.trans hb))
    rw [hs, hj]

theorem sendIoctl_tunnel_alloc (o : ByteOrder) (env : Env) (fd : ℤ) (t : TunnelInfo) (req : Bytes)
    (rspSz rspMin k : ℕ) (hk : k = 0 ∨ k = 1) (ht : t.level = k + 1)
    (ha : ∀ s n, env.alloc s n = true) :
    sendIoctl o env fd (some t) req rspSz rspMin =
      sendIoctlTunnelled o env fd k (mailboxTunnelReq o t req) rspSz rspMin := by
  rw [sendIoctl_tunnel o env fd t req rspSz rspMin (by omega)]
  unfold mailboxBuild
  simp only [ha, and_true]
  rcases hk with rfl | rfl
  · rw [if_pos (by omega)]
  · rw [if_neg (by omega), if_pos (by omega)]

theorem arrivedTunnelled_delivers (env : Env) (m : MctpTransport) (k : ℕ) (tReq : Bytes) (rspSz : ℕ)
    (d : Bytes) (h : Delivers env d) (hsd : 0 ≤ m.fmapiSd) (hl : tReq.length ≤ maxRwCount) :
    arrivedTunnelled env m k tReq rspSz = some (received (16 * k + rspSz) d) := by
  unfold arrivedTunnelled
  rw [if_neg (by rw [h.alloc]; exact Bool.noConfusion)]
  exact arrived_datagram env m.fmapiSd tReq _ true d h.send h.poll h.recv hsd hl

theorem tunnelledIoctl_returns (env : Env) (fd : ℤ) (k rspSz : ℕ) (out : Bytes) (h : Returns env out)
    (hfd : 0 ≤ fd) :
    tunnelledIoctl env fd k rspSz = .done 0 (out.take (u32 (4 + 16 * k + rspSz))) := by
  unfold tunnelledIoctl mailboxIoctl
  simp only [h.alloc, Bool.true_eq_false, if_false, not_lt.mpr hfd, h.ioctl]

/-! ### Sample endpoints and devices -/

def mctpPort : MctpTransport :=
  ⟨1, 8, 4, 5, sockaddrMctp 1 8 mctpTypeCxlCci, sockaddrMctp 1 8 mctpTypeCxlFmapi, 0x22⟩

def mctpEndpoint : Endpoint := ⟨some (.mctp mctpPort), -1, true⟩
def switchMailbox : Endpoint := ⟨none, 3, true⟩

def socketDelivers (d : Bytes) : Env := ⟨fun _ _ => true, true, 0, .ready, .datagram d, .error⟩
def mailboxAnswers (retval : U 16) (out : Bytes) : Env :=
  ⟨fun _ _ => true, true, 0, .ready, .error, .done retval out⟩

/-- A device that takes what it is sent on either transport, and a socket that
delivers nothing. -/
def takesAll : Env := ⟨fun _ _ => true, true, 0, .timedOut, .error, .done 0 []⟩

def behindPort (p : ℤ) : TunnelInfo := ⟨p, -1, 1, false⟩

def identifyReq (tg : Byte) : Bytes := cciHeader .little tg 0x01 0x00 0

end LibCxlmi.Transport
