import LibCxlmi.Transport.Send

/-!
# What a command transmits

A command transmits at most one message. Which one is settled by the endpoint,
the tunnel and the request (`outbound`); allocations and the device only decide
whether it is sent.
-/

namespace LibCxlmi.Transport
open LibCxlmi.Word LibCxlmi.Cci

/-- The levels the MCTP and mailbox dispatchers have a case for. -/
def knownLevel : Option TunnelInfo → Bool
  | none => true
  | some t => decide (0 ≤ t.level ∧ t.level ≤ 2)

def mctpMsg (o : ByteOrder) (m : MctpTransport) (ti : Option TunnelInfo) (req : Bytes) : Bytes :=
  match ti with
  | none => req
  | some t => if t.level = 0 then req else mctpTunnelReq o m t req

def mailboxMsg (o : ByteOrder) (ti : Option TunnelInfo) (req : Bytes) : ℕ × Bytes :=
  match ti with
  | none => (rawOpcode req, payload req)
  | some t =>
      if t.level = 0 then (rawOpcode req, payload req) else (0x5300, mailboxTunnelReq o t req)

/-- The first id of a tunnel, the one the outermost header carries. -/
def outerId (t : TunnelInfo) : ℤ := if t.level = 1 then TunnelInfo.target1 t else t.port

def outbound (o : ByteOrder) (ep : Endpoint) (ti : Option TunnelInfo) (req : Bytes) : Option Tx :=
  if refused ep ti req = true ∨ knownLevel ti = false then none
  else
    match ep.transportData with
    | some (.mock _) => none
    | some (.mctp m) =>
        let fmapi := cmdIsFmapi (commandSet req)
        let k := tunnelDepth ti
        if m.nid = mockMagic ∨ mctpSd m fmapi k < 0 then none
        else some (.mctp (mctpSd m fmapi k) (mctpAddr m fmapi k) (transferred (mctpMsg o m ti req)))
    | none =>
        if ep.fd < 0 then none
        else some (mailboxTx ep.fd (mailboxMsg o ti req).1 (mailboxMsg o ti req).2)

theorem knownLevel_cases (t : TunnelInfo) (h : knownLevel (some t) = true) :
    t.level = 0 ∨ t.level = 1 ∨ t.level = 2 := by
  have hl : 0 ≤ t.level ∧ t.level ≤ 2 := of_decide_eq_true h
  omega

theorem mctpBuild_msg (o : ByteOrder) (env : Env) (m : MctpTransport) (ti : Option TunnelInfo)
    (req : Bytes) (k : ℕ) (tReq : Bytes) (h : mctpBuild o env m ti req = some (k, tReq)) :
    k = tunnelDepth ti ∧ tReq = mctpMsg o m ti req ∧ knownLevel ti = true := by
  have hd := (mctpBuild_depth o env m ti req k tReq h).1
  refine ⟨hd.symm, ?_⟩
  unfold mctpBuild at h
  cases ti with
  | none =>
    obtain ⟨-, rfl⟩ := Prod.mk.inj (Option.some.inj h)
    exact ⟨rfl, rfl⟩
  | some t =>
    simp only [mctpMsg, knownLevel, decide_eq_true_eq] at h ⊢
    split_ifs at h ⊢ with h0 h1 h2
    · obtain ⟨-, rfl⟩ := Prod.mk.inj (Option.some.inj h)
      exact ⟨rfl, by omega⟩
    · obtain ⟨-, rfl⟩ := Prod.mk.inj (Option.some.inj h)
      exact ⟨rfl, by omega⟩
    · obtain ⟨-, rfl⟩ := Prod.mk.inj (Option.some.inj h)
      exact ⟨rfl, by omega⟩

theorem mctpBuild_known (o : ByteOrder) (env : Env) (m : MctpTransport) (ti : Option TunnelInfo)
    (req : Bytes) (h : knownLevel ti = true) (ha : ∀ s n, n ≤ 32 + req.length → env.alloc s n = true) :
    mctpBuild o env m ti req = some (tunnelDepth ti, mctpMsg o m ti req) := by
  have hsome : ∃ p, mctpBuild o env m ti req = some p := by
    cases ti with
    | none => exact ⟨_, rfl⟩
    | some t =>
      rcases knownLevel_cases t h with h0 | h1 | h2
      · exact ⟨_, if_pos h0⟩
      · exact ⟨_, mctpBuild_alloc o env m t req 0 (Or.inl rfl) h1 ha⟩
      · exact ⟨_, mctpBuild_alloc o env m t req 1 (Or.inr rfl) h2 ha⟩
  obtain ⟨⟨k, tReq⟩, hp⟩ := hsome
  obtain ⟨rfl, rfl, -⟩ := mctpBuild_msg o env m ti req k tReq hp
  exact hp

theorem mctpMsg_length (o : ByteOrder) (m : MctpTransport) (ti : Option TunnelInfo) (req : Bytes)
    (hk : knownLevel ti = true) : (mctpMsg o m ti req).length = 16 * tunnelDepth ti + req.length :=
  (mctpBuild_depth o takesAll m ti req _ _ (mctpBuild_known o takesAll m ti req hk fun _ _ _ => rfl)).2

theorem mctpMsg_drop (o : ByteOrder) (m : MctpTransport) (ti : Option TunnelInfo) (req : Bytes)
    (h : knownLevel ti = true) : (mctpMsg o m ti req).drop (16 * tunnelDepth ti) = req := by
  cases ti with
  | none => rfl
  | some t =>
    simp only [mctpMsg, tunnelDepth]
    rcases knownLevel_cases t h with h0 | h1 | h2
    · rw [if_pos h0, h0]
      rfl
    · rw [if_neg (by omega), h1]
      exact mctpTunnelReq_drop o m t req 0 (Or.inl rfl) h1
    · rw [if_neg (by omega), h2]
      exact mctpTunnelReq_drop o m t req 1 (Or.inr rfl) h2

theorem tunnelDepth_le (ti : Option TunnelInfo) (h : knownLevel ti = true) : tunnelDepth ti ≤ 2 := by
  cases ti with
  | none => exact Nat.zero_le 2
  | some t =>
    rcases knownLevel_cases t h with h0 | h0 | h0
    all_goals
      simp only [tunnelDepth, h0]
      decide

/-! ### Over MCTP -/

theorem sendMctp_silent (o : ByteOrder) (env : Env) (m : MctpTransport) (fmapi : Bool)
    (ti : Option TunnelInfo) (req : Bytes) (rspSz rspMin : ℕ)
    (h : knownLevel ti = false ∨ mctpSd m fmapi (tunnelDepth ti) < 0) :
    ∃ n, sendMctp o env m fmapi ti req rspSz rspMin = failOutcome rspSz (m.advance n) := by
  rcases sendMctp_cases o env m fmapi ti req rspSz rspMin with
    ⟨-, n, -, hs⟩ | ⟨hb, hs⟩ | ⟨k, tReq, hb, hs⟩
  · exact ⟨n, hs⟩
  · obtain ⟨hd, -, hk⟩ := mctpBuild_msg o env m ti req 0 req hb
    have hsd := h.resolve_left (by rw [hk]; exact Bool.noConfusion)
    have hclosed : (if fmapi then m.fmapiSd else m.sd) < 0 := by
      rw [← hd] at hsd
      cases fmapi with
      | false => exact hsd
      | true => exact hsd
    refine ⟨0, ?_⟩
    rw [hs]
    simp only [sendMctpDirect, mctpExchange_closed env _ req rspSz false hclosed]
    rfl
  · obtain ⟨hd, -, hk⟩ := mctpBuild_msg o env m ti req (k + 1) tReq hb
    have hsd := h.resolve_left (by rw [hk]; exact Bool.noConfusion)
    rw [← hd] at hsd
    exact ⟨k + 1, by rw [hs, sendMctpTunnelled_closed o env (m.advance (k + 1)) (k + 1) tReq rspSz rspMin hsd]; rfl⟩

theorem sendMctp_sent (o : ByteOrder) (env : Env) (m : MctpTransport) (fmapi : Bool)
    (ti : Option TunnelInfo) (req : Bytes) (rspSz rspMin : ℕ) :
    (sendMctp o env m fmapi ti req rspSz rspMin).sent = [] ∨
      (knownLevel ti = true ∧ 0 ≤ mctpSd m fmapi (tunnelDepth ti) ∧
        (sendMctp o env m fmapi ti req rspSz rspMin).sent =
          [.mctp (mctpSd m fmapi (tunnelDepth ti)) (mctpAddr m fmapi (tunnelDepth ti))
            (transferred (mctpMsg o m ti req))]) := by
  by_cases hsd : mctpSd m fmapi (tunnelDepth ti) < 0
  · obtain ⟨n, hs⟩ := sendMctp_silent o env m fmapi ti req rspSz rspMin (Or.inr hsd)
    rw [hs]
    exact Or.inl rfl
  · rcases sendMctp_effect o env m fmapi ti req rspSz rspMin _ rfl with ⟨-, hs, -⟩ | ⟨k, tReq, hb, -, he⟩
    · exact Or.inl hs
    · obtain ⟨rfl, rfl, hk⟩ := mctpBuild_msg o env m ti req k tReq hb
      rcases he with ⟨hs, -⟩ | ⟨hs, -⟩ | ⟨d, -, -, hs, -⟩
      · exact Or.inl hs
      · exact Or.inr ⟨hk, not_lt.mp hsd, hs⟩
      · exact Or.inr ⟨hk, not_lt.mp hsd, hs⟩

theorem mctpExchange_takesAll (sd : ℤ) (msg : Bytes) (bufSz : ℕ) (counted : Bool) (h : 0 ≤ sd) :
    mctpExchange takesAll sd msg bufSz counted = .noReply := by
  have hopen : ¬(sd < 0 ∨ takesAll.sendOk = false) := by
    simpa only [takesAll, Bool.true_eq_false, or_false, not_lt] using h
  have hwait : waitReply takesAll.interrupts takesAll.poll = false := rfl
  unfold mctpExchange
  rw [if_neg hopen, hwait, if_neg Bool.false_ne_true, ite_self]

theorem sendMctp_takesAll (o : ByteOrder) (m : MctpTransport) (fmapi : Bool) (ti : Option TunnelInfo)
    (req : Bytes) (rspSz rspMin : ℕ) (hk : knownLevel ti = true)
    (hsd : 0 ≤ mctpSd m fmapi (tunnelDepth ti)) :
    (sendMctp o takesAll m fmapi ti req rspSz rspMin).rc = -1 ∧
      (sendMctp o takesAll m fmapi ti req rspSz rspMin).rsp = zeros rspSz ∧
      (sendMctp o takesAll m fmapi ti req rspSz rspMin).sent =
        [.mctp (mctpSd m fmapi (tunnelDepth ti)) (mctpAddr m fmapi (tunnelDepth ti))
          (transferred (mctpMsg o m ti req))] := by
  have hbuild := mctpBuild_known o takesAll m ti req hk fun _ _ _ => rfl
  rcases sendMctp_cases o takesAll m fmapi ti req rspSz rspMin with
    ⟨hb, -⟩ | ⟨hb, hs⟩ | ⟨k, tReq, hb, hs⟩
  · rw [hb] at hbuild
    cases hbuild
  · obtain ⟨hk0, hmsg⟩ := Prod.mk.inj (Option.some.inj (hb.symm.trans hbuild))
    rw [← hk0] at hsd ⊢
    rw [hs, ← hmsg]
    cases fmapi with
    | false => simp only [sendMctpDirect, mctpExchange_takesAll m.sd req rspSz false hsd, mctpSd, mctpAddr,
        Bool.false_eq_true, if_false, and_self, if_true]
    | true => simp only [sendMctpDirect, mctpExchange_takesAll m.fmapiSd req rspSz false hsd, mctpSd, mctpAddr,
        Bool.true_eq_false, and_false, if_true, if_false, and_self]
  · obtain ⟨hk1, hmsg⟩ := Prod.mk.inj (Option.some.inj (hb.symm.trans hbuild))
    rw [← hk1] at hsd ⊢
    have he := mctpExchange_takesAll m.fmapiSd tReq (16 * (k + 1) + rspSz) true hsd
    have hopen : takesAll.alloc .tunnelRsp (16 * (k + 1) + rspSz) = true := rfl
    rw [hs, ← hmsg]
    simp only [sendMctpTunnelled, hopen, Bool.true_eq_false, if_false, MctpTransport.advance, he, mctpSd,
      mctpAddr, Nat.succ_ne_zero, false_and, and_self]

/-! ### Over the mailbox -/

theorem mailboxIoctl_closed (env : Env) (fd : ℤ) (outSz : ℕ) (h : fd < 0) :
    mailboxIoctl env fd outSz = .error := if_pos h

theorem sendIoctlDirect_sent (env : Env) (fd : ℤ) (req : Bytes) (rspSz : ℕ) :
    (sendIoctlDirect env fd req rspSz).sent = [] ∨
      (0 ≤ fd ∧ (sendIoctlDirect env fd req rspSz).sent =
        [mailboxTx fd (rawOpcode req) (payload req)]) := by
  cases h : mailboxIoctl env fd (rspSz - 12) with
  | error =>
    refine Or.inl ?_
    simp only [sendIoctlDirect, h]
  | done retval out =>
    refine Or.inr ⟨not_lt.mp fun hfd => ?_, ?_⟩
    · rw [mailboxIoctl_closed env fd _ hfd] at h
      cases h
    · simp only [sendIoctlDirect, h]
      split_ifs
      · rfl
      · rfl

theorem tunnelledIoctl_closed (env : Env) (fd : ℤ) (k rspSz : ℕ) (hfd : fd < 0) :
    tunnelledIoctl env fd k rspSz = .error := by
  rw [tunnelledIoctl, mailboxIoctl_closed env fd _ hfd, ite_self]

theorem sendIoctlTunnelled_sent_or (o : ByteOrder) (env : Env) (fd : ℤ) (k : ℕ) (tReq : Bytes)
    (rspSz rspMin : ℕ) :
    (sendIoctlTunnelled o env fd k tReq rspSz rspMin).sent = [] ∨
      (0 ≤ fd ∧ (sendIoctlTunnelled o env fd k tReq rspSz rspMin).sent = [mailboxTx fd 0x5300 tReq]) := by
  cases h : tunnelledIoctl env fd k rspSz with
  | error => exact Or.inl (by rw [sendIoctlTunnelled_error o env fd k tReq rspSz rspMin h])
  | done retval out =>
    refine Or.inr ⟨not_lt.mp fun hfd => ?_, sendIoctlTunnelled_sent o env fd k tReq rspSz rspMin retval out h⟩
    rw [tunnelledIoctl_closed env fd k rspSz hfd] at h
    cases h

theorem sendIoctl_silent (o : ByteOrder) (env : Env) (fd : ℤ) (ti : Option TunnelInfo) (req : Bytes)
    (rspSz rspMin : ℕ) (h : knownLevel ti = false ∨ fd < 0) :
    sendIoctl o env fd ti req rspSz rspMin = failOutcome rspSz () := by
  have hdirect : fd < 0 → sendIoctlDirect env fd req rspSz = failOutcome rspSz () := by
    intro hfd
    simp only [sendIoctlDirect, mailboxIoctl_closed env fd _ hfd]
    rfl
  cases ti with
  | none => exact hdirect (h.resolve_left Bool.noConfusion)
  | some t =>
    by_cases h0 : t.level = 0
    · have hk : knownLevel (some t) = true := decide_eq_true (by omega)
      rw [sendIoctl_direct o env fd t req rspSz rspMin h0]
      exact hdirect (h.resolve_left (by rw [hk]; exact Bool.noConfusion))
    · rw [sendIoctl_tunnel o env fd t req rspSz rspMin h0]
      cases hb : mailboxBuild o env t req with
      | none => rfl
      | some p =>
        have hk : knownLevel (some t) = true := by
          unfold mailboxBuild at hb
          refine decide_eq_true ?_
          split_ifs at hb with h1 h2
          · omega
          · omega
        have hfd := h.resolve_left (by rw [hk]; exact Bool.noConfusion)
        exact sendIoctlTunnelled_error o env fd p.1 p.2 rspSz rspMin (tunnelledIoctl_closed env fd p.1 rspSz hfd)

theorem sendIoctl_sent (o : ByteOrder) (env : Env) (fd : ℤ) (ti : Option TunnelInfo) (req : Bytes)
    (rspSz rspMin : ℕ) :
    (sendIoctl o env fd ti req rspSz rspMin).sent = [] ∨
      (knownLevel ti = true ∧ 0 ≤ fd ∧ (sendIoctl o env fd ti req rspSz rspMin).sent =
        [mailboxTx fd (mailboxMsg o ti req).1 (mailboxMsg o ti req).2]) := by
  cases ti with
  | none =>
    rcases sendIoctlDirect_sent env fd req rspSz with hs | ⟨hfd, hs⟩
    · exact Or.inl hs
    · exact Or.inr ⟨rfl, hfd, hs⟩
  | some t =>
    by_cases h0 : t.level = 0
    · have hk : knownLevel (some t) = true := decide_eq_true (by omega)
      have hm : mailboxMsg o (some t) req = (rawOpcode req, payload req) := if_pos h0
      rw [sendIoctl_direct o env fd t req rspSz rspMin h0, hm]
      rcases sendIoctlDirect_sent env fd req rspSz with hs | ⟨hfd, hs⟩
      · exact Or.inl hs
      · exact Or.inr ⟨hk, hfd, hs⟩
    · have hm : mailboxMsg o (some t) req = (0x5300, mailboxTunnelReq o t req) := if_neg h0
      rw [sendIoctl_tunnel o env fd t req rspSz rspMin h0, hm]
      cases hb : mailboxBuild o env t req with
      | none => exact Or.inl rfl
      | some p =>
        have hp : knownLevel (some t) = true ∧ p.2 = mailboxTunnelReq o t req := by
          unfold mailboxBuild at hb
          simp only [knownLevel, decide_eq_true_eq]
          split_ifs at hb with h1 h2
          · exact ⟨by omega, (Option.some.inj hb) ▸ rfl⟩
          · exact ⟨by omega, (Option.some.inj hb) ▸ rfl⟩
        rcases sendIoctlTunnelled_sent_or o env fd p.1 p.2 rspSz rspMin with hs | ⟨hfd, hs⟩
        · exact Or.inl hs
        · rw [hp.2] at hs
          exact Or.inr ⟨hp.1, hfd, by rw [← hp.2] at hs ⊢; exact hs⟩

/-- Nothing comes back from this device, so a tunnelled reply is too short. -/
theorem sendIoctl_takesAll (o : ByteOrder) (fd : ℤ) (t : TunnelInfo) (req : Bytes) (rspSz rspMin : ℕ)
    (ht : t.level = 1 ∨ t.level = 2) (hfd : 0 ≤ fd) :
    (sendIoctl o takesAll fd (some t) req rspSz rspMin).rc = -1 ∧
      (sendIoctl o takesAll fd (some t) req rspSz rspMin).rsp = zeros rspSz ∧
      (sendIoctl o takesAll fd (some t) req rspSz rspMin).sent =
        [mailboxTx fd 0x5300 (mailboxTunnelReq o t req)] := by
  obtain ⟨k, hk, hlev⟩ : ∃ k : ℕ, (k = 0 ∨ k = 1) ∧ t.level = k + 1 := by
    rcases ht with ht | ht
    · exact ⟨0, Or.inl rfl, ht⟩
    · exact ⟨1, Or.inr rfl, ht⟩
  have hd := tunnelledIoctl_returns takesAll fd k rspSz [] ⟨fun _ _ => rfl, rfl⟩ hfd
  rw [List.take_nil] at hd
  have hrc := sendIoctlTunnelled_done o takesAll fd k (mailboxTunnelReq o t req) rspSz rspMin 0 [] hd
  rw [if_neg (by decide), if_pos (by rw [List.length_nil]; omega)] at hrc
  rw [sendIoctl_tunnel_alloc o takesAll fd t req rspSz rspMin k hk hlev fun _ _ => rfl]
  exact ⟨hrc, sendIoctlTunnelled_failed_rsp o takesAll fd k _ rspSz rspMin (by rw [hrc]; decide),
    sendIoctlTunnelled_sent o takesAll fd k _ rspSz rspMin 0 [] hd⟩

/-! ### On any endpoint -/

theorem sendCmdCci_sent (o : ByteOrder) (env : Env) (ep : Endpoint) (ti : Option TunnelInfo)
    (req : Bytes) (rspSz rspMin : ℕ) (r : Outcome Endpoint)
    (h : sendCmdCci o env ep ti req rspSz rspMin = some r) :
    ∀ tx ∈ r.sent, outbound o ep ti req = some tx := by
  intro tx htx
  cases hr : refused ep ti req with
  | true =>
    rw [sendCmdCci_refused o env ep ti req rspSz rspMin hr] at h
    rw [← Option.some.inj h] at htx
    cases htx
  | false =>
    unfold outbound
    cases htd : ep.transportData with
    | none =>
      rw [sendCmdCci_ioctl o env ep ti req rspSz rspMin hr htd] at h
      rw [← Option.some.inj h, Outcome.map] at htx
      rcases sendIoctl_sent o env ep.fd ti req rspSz rspMin with hs | ⟨hk, hfd, hs⟩
      · rw [hs] at htx
        cases htx
      · rw [hs, List.mem_singleton] at htx
        simp only [hr, hk, Bool.false_eq_true, Bool.true_eq_false, or_self, if_false, not_lt.mpr hfd, htx]
    | some td =>
      cases td with
      | mock k =>
        rw [sendCmdCci_mock o env ep k ti req rspSz rspMin hr htd] at h
        rw [← Option.some.inj h, Outcome.map, sendMockCmd_sent] at htx
        cases htx
      | mctp m =>
        by_cases hn : m.nid = mockMagic
        · rw [sendCmdCci_confused o env ep m ti req rspSz rspMin hr htd hn] at h
          cases h
        · rw [sendCmdCci_mctp o env ep m ti req rspSz rspMin hr htd hn] at h
          rw [← Option.some.inj h, Outcome.map] at htx
          rcases sendMctp_sent o env m (cmdIsFmapi (commandSet req)) ti req rspSz rspMin with
            hs | ⟨hk, hsd, hs⟩
          · rw [hs] at htx
            cases htx
          · rw [hs, List.mem_singleton] at htx
            simp only [hr, hk, hn, Bool.false_eq_true, Bool.true_eq_false, or_self, if_false,
              not_lt.mpr hsd, htx]

/- The two transports that send something, and what each then has. -/
theorem outbound_cases (o : ByteOrder) (ep : Endpoint) (ti : Option TunnelInfo) (req : Bytes) (tx : Tx)
    (h : outbound o ep ti req = some tx) :
    refused ep ti req = false ∧ knownLevel ti = true ∧
      ((ep.transportData = none ∧ 0 ≤ ep.fd ∧ tx = mailboxTx ep.fd (mailboxMsg o ti req).1 (mailboxMsg o ti req).2) ∨
        ∃ m, ep.transportData = some (.mctp m) ∧ m.nid ≠ mockMagic ∧
          0 ≤ mctpSd m (cmdIsFmapi (commandSet req)) (tunnelDepth ti) ∧
          tx = .mctp (mctpSd m (cmdIsFmapi (commandSet req)) (tunnelDepth ti))
            (mctpAddr m (cmdIsFmapi (commandSet req)) (tunnelDepth ti)) (transferred (mctpMsg o m ti req))) := by
  unfold outbound at h
  have hopen : ¬(refused ep ti req = true ∨ knownLevel ti = false) := by
    intro hc
    rw [if_pos hc] at h
    cases h
  rw [if_neg hopen] at h
  simp only [not_or, Bool.not_eq_true, Bool.not_eq_false] at hopen
  refine ⟨hopen.1, hopen.2, ?_⟩
  cases htd : ep.transportData with
  | none =>
    simp only [htd] at h
    split_ifs at h with hfd
    exact Or.inl ⟨rfl, not_lt.mp hfd, (Option.some.inj h).symm⟩
  | some td =>
    cases td with
    | mock k => simp only [htd, reduceCtorEq] at h
    | mctp m =>
      simp only [htd] at h
      split_ifs at h with hc
      obtain ⟨hn, hsd⟩ := not_or.mp hc
      exact Or.inr ⟨m, rfl, hn, not_lt.mp hsd, (Option.some.inj h).symm⟩

/-- The device that takes everything is sent the outbound message, and does not
answer but for a direct mailbox command. -/
theorem sendCmdCci_takesAll (o : ByteOrder) (ep : Endpoint) (ti : Option TunnelInfo) (req : Bytes)
    (rspSz rspMin : ℕ) (tx : Tx) (h : outbound o ep ti req = some tx) :
    ∃ r, sendCmdCci o takesAll ep ti req rspSz rspMin = some r ∧ r.sent = [tx] ∧
      ((r.rc = -1 ∧ r.rsp = zeros rspSz) ∨ (ep.transportData = none ∧ tunnelDepth ti = 0)) := by
  obtain ⟨hr, hk, ⟨htd, hfd, rfl⟩ | ⟨m, htd, hn, hsd, rfl⟩⟩ := outbound_cases o ep ti req tx h
  · refine ⟨_, sendCmdCci_ioctl o takesAll ep ti req rspSz rspMin hr htd, ?_⟩
    have hdirect : (sendIoctlDirect takesAll ep.fd req rspSz).sent =
        [mailboxTx ep.fd (rawOpcode req) (payload req)] := by
      simp only [sendIoctlDirect, mailboxIoctl, takesAll, not_lt.mpr hfd, if_false, ne_eq, not_true_eq_false]
    cases ti with
    | none => exact ⟨hdirect, Or.inr ⟨htd, rfl⟩⟩
    | some t =>
      by_cases h0 : t.level = 0
      · rw [sendIoctl_direct o takesAll ep.fd t req rspSz rspMin h0]
        have hm : mailboxMsg o (some t) req = (rawOpcode req, payload req) := if_pos h0
        have hd : tunnelDepth (some t) = 0 := by
          rw [tunnelDepth, h0]
          rfl
        rw [hm]
        exact ⟨hdirect, Or.inr ⟨htd, hd⟩⟩
      · have hlev : t.level = 1 ∨ t.level = 2 := (knownLevel_cases t hk).resolve_left h0
        have hs := sendIoctl_takesAll o ep.fd t req rspSz rspMin hlev hfd
        simp only [mailboxMsg, h0, if_false]
        exact ⟨hs.2.2, Or.inl ⟨hs.1, hs.2.1⟩⟩
  · have hs := sendMctp_takesAll o m (cmdIsFmapi (commandSet req)) ti req rspSz rspMin hk hsd
    exact ⟨_, sendCmdCci_mctp o takesAll ep m ti req rspSz rspMin hr htd hn, hs.2.2, Or.inl ⟨hs.1, hs.2.1⟩⟩

end LibCxlmi.Transport
