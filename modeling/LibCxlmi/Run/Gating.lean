import LibCxlmi.Run.Lifecycle

/-!
# Tunnels on an endpoint with FM-API disabled

Tunnels travel over the FM-API, but `send_cmd_cci` only refuses a command when
its own set is an FM-API one. What becomes of the others after FM-API was
disabled depends on the endpoint. A mailbox has no separate FM-API channel and
sends them. On MCTP they are lost on a closed descriptor, unless no FM-API
socket was ever asked for: then the descriptor still is the 0 that `calloc`
left there.
-/

namespace LibCxlmi.Run
open LibCxlmi.Word LibCxlmi.Cci LibCxlmi.Transport LibCxlmi.Commands

def FdCall.isFmapiSocket : FdCall → Bool
  | .socket .fmapi _ => true
  | _ => false

/-- An FM-API socket was asked for at some time, by probe or enable. -/
def Life.fmapiTried (l : Life) : Bool := l.calls.any FdCall.isFmapiSocket

/-- The FM-API descriptor of an MCTP endpoint: open while FM-API is on, closed
after that, and 0 as long as it was never asked for. -/
structure FmapiSd (l : Life) (m : MctpTransport) : Prop where
  on : l.ep.hasFmapi = true → 0 ≤ m.fmapiSd ∧ l.fmapiTried = true
  off : l.ep.hasFmapi = false → if l.fmapiTried then m.fmapiSd < 0 else m.fmapiSd = 0

def Wired (op : Opening) (l : Life) : Prop :=
  match op with
  | .mailbox fd _ => l.ep.transportData = none ∧ l.ep.fd = fd
  | .mctp nid _ _ _ _ _ => ∃ m, l.ep.transportData = some (.mctp m) ∧ m.nid = nid ∧ FmapiSd l m

theorem wired_sameLink (op : Opening) (l : Life) (ep : Endpoint) (h : Wired op l)
    (hs : SameLink l.ep ep) : Wired op { l with ep := ep } := by
  obtain ⟨h1, h2, h3, h4⟩ := hs
  cases op with
  | mailbox fd probe => exact ⟨h3 h.1, h2.trans h.2⟩
  | mctp nid eid sd probe env sock =>
    obtain ⟨m, hm, hn, hf⟩ := h
    obtain ⟨n, hn'⟩ := h4 m hm
    refine ⟨m.advance n, hn', hn, fun hon => ?_, fun hoff => ?_⟩
    · exact hf.on (h1.symm.trans hon)
    · exact hf.off (h1.symm.trans hoff)

theorem fmapiSocket_tried (l : Life) (m : MctpTransport) (sock : ℤ) :
    (l.fmapiSocket m sock).fmapiTried = true := by
  simp only [Life.fmapiSocket, Life.fmapiTried, List.any_append, List.any_cons, FdCall.isFmapiSocket,
    Bool.true_or, Bool.or_true]

/-- A new FM-API socket leaves FM-API on with an open descriptor, or off
without one. -/
theorem fmapiSocket_wired (l : Life) (m : MctpTransport) (sock : ℤ) (hoff : l.ep.hasFmapi = false) :
    ∃ m', (l.fmapiSocket m sock).ep.transportData = some (.mctp m') ∧ m'.nid = m.nid ∧
      FmapiSd (l.fmapiSocket m sock) m' := by
  have ht := fmapiSocket_tried l m sock
  by_cases hs : sock < 0
  · refine ⟨{ m with fmapiSd := sock }, by simp only [Life.fmapiSocket, if_pos hs], rfl, fun hon => ?_,
      fun _ => ?_⟩
    · simp only [Life.fmapiSocket, if_pos hs, hoff, Bool.false_eq_true] at hon
    · rw [ht]
      exact hs
  · refine ⟨{ m with fmapiSd := sock, fmapiAddr := sockaddrMctp m.nid m.eid mctpTypeCxlFmapi },
      by simp only [Life.fmapiSocket, if_neg hs], rfl, fun _ => ⟨not_lt.mp hs, ht⟩, fun hon => ?_⟩
    simp only [Life.fmapiSocket, if_neg hs, Bool.true_eq_false] at hon

theorem enableFmapi_wired (op : Opening) (l l' : Life) (sock : ℤ) (h : Wired op l)
    (he : endpointEnableFmapi l sock = some l') : Wired op l' := by
  unfold endpointEnableFmapi at he
  cases hh : l.ep.hasFmapi with
  | true =>
    rw [hh, if_pos rfl] at he
    exact Option.some.inj he ▸ h
  | false =>
    rw [hh, if_neg (by decide)] at he
    cases op with
    | mailbox fd probe =>
      simp only [h.1] at he
      rw [← Option.some.inj he]
      exact ⟨rfl, h.2⟩
    | mctp nid eid sd probe env s =>
      obtain ⟨m, hm, hn, -⟩ := h
      simp only [hm] at he
      obtain ⟨m', hm', hn', hf'⟩ := fmapiSocket_wired l m sock hh
      rw [← Option.some.inj he]
      exact ⟨m', hm', hn'.trans hn, hf'⟩

theorem disableFmapi_wired (op : Opening) (l l' : Life) (h : Wired op l)
    (hd : endpointDisableFmapi l = some l') : Wired op l' ∧ l'.ep.hasFmapi = false := by
  unfold endpointDisableFmapi at hd
  cases hh : l.ep.hasFmapi with
  | false =>
    rw [hh, if_pos rfl] at hd
    exact Option.some.inj hd ▸ ⟨h, hh⟩
  | true =>
    rw [hh, if_neg (by decide)] at hd
    cases op with
    | mailbox fd probe =>
      simp only [h.1] at hd
      rw [← Option.some.inj hd]
      exact ⟨⟨rfl, h.2⟩, rfl⟩
    | mctp nid eid sd probe env s =>
      obtain ⟨m, hm, hn, hf⟩ := h
      simp only [hm] at hd
      rw [← Option.some.inj hd]
      refine ⟨⟨_, rfl, hn, fun hon => ?_, fun _ => ?_⟩, rfl⟩
      · cases hon
      · have ht := (hf.on hh).2
        simp only [Life.fmapiTried] at ht
        simp only [Life.fmapiTried, List.any_append, ht, Bool.true_or, if_true]
        decide

theorem step_wired (o : ByteOrder) (op : Opening) (l l' : Life) (i : LifeOp) (h : Wired op l)
    (hs : l.step o i = some l') : Wired op l' := by
  cases i with
  | enableFmapi sock => exact enableFmapi_wired op l l' sock h hs
  | disableFmapi => exact (disableFmapi_wired op l l' h hs).1
  | command env ti set cmd pl rspSz rspMin =>
    obtain ⟨r, hr, rfl⟩ := Option.map_eq_some_iff.mp hs
    exact wired_sameLink op l r.st h (sameLink_trans _ _ _ (armCciRequest_sameLink o l.ep set cmd pl)
      (sendCmdCci_sameLink o env _ ti _ rspSz rspMin r hr))

theorem probe_wired (o : ByteOrder) (op : Opening) (l l' : Life) (env : Env) (sock : ℤ)
    (h : Wired op l) (hoff : l.ep.hasFmapi = false) (hp : endpointProbeMctp o env l sock = some l') :
    Wired op l' := by
  obtain ⟨ep, hsame, rfl | ⟨m, hm, rfl⟩⟩ := probeMctp_cases o env l l' sock hp
  · exact wired_sameLink op l ep h hsame
  · have hw := wired_sameLink op l ep h hsame
    cases op with
    | mailbox fd probe =>
      rw [hw.1] at hm
      cases hm
    | mctp nid eid sd probe e s =>
      obtain ⟨m₁, hm₁, hn, -⟩ := hw
      obtain rfl := TransportData.mctp.inj (Option.some.inj (hm₁.symm.trans hm))
      obtain ⟨m', hm', hn', hf'⟩ := fmapiSocket_wired ⟨ep, l.calls⟩ m₁ sock (hsame.1.trans hoff)
      exact ⟨m', hm', hn'.trans hn, hf'⟩

theorem opening_wired (o : ByteOrder) (op : Opening) (l : Life) (h : op.run o = some l) : Wired op l := by
  cases op with
  | mailbox fd probe =>
    cases probe with
    | false => exact Option.some.inj h ▸ ⟨rfl, rfl⟩
    | true => exact Option.some.inj h ▸ ⟨rfl, rfl⟩
  | mctp nid eid sd probe env sock =>
    have h0 : Wired (.mctp nid eid sd probe env sock)
        ⟨⟨some (.mctp ⟨nid, eid, sd, 0, sockaddrMctp nid eid mctpTypeCxlCci, sockaddrZero, 0⟩), -1, false⟩,
          [.socket .cci sd]⟩ :=
      ⟨_, rfl, rfl, fun hon => Bool.noConfusion hon, fun _ => rfl⟩
    cases probe with
    | false => exact Option.some.inj h ▸ h0
    | true => exact probe_wired o _ _ l env sock h0 rfl h

theorem foldlM_wired (o : ByteOrder) (op : Opening) (ops : List LifeOp) (l l' : Life) (h : Wired op l)
    (hf : ops.foldlM (Life.step o) l = some l') : Wired op l' :=
  foldlM_invariant (Life.step o) (Wired op) (fun s i s' => step_wired o op s s' i) ops l l' h hf

/-- Any history that ends with a disable leaves the endpoint wired as it was
opened, with FM-API off. -/
theorem history_disabled (o : ByteOrder) (op : Opening) (ops : List LifeOp) (l : Life)
    (h : history o op (ops ++ [.disableFmapi]) = some l) : Wired op l ∧ l.ep.hasFmapi = false := by
  obtain ⟨l₀, h₀, hf⟩ := Option.bind_eq_some_iff.mp h
  rw [List.foldlM_append] at hf
  obtain ⟨l₁, h₁, hf⟩ := Option.bind_eq_some_iff.mp hf
  have hw := foldlM_wired o op ops l₀ l₁ (opening_wired o op l₀ h₀) h₁
  rw [List.foldlM_cons] at hf
  obtain ⟨l₂, h₂, hf⟩ := Option.bind_eq_some_iff.mp hf
  exact Option.some.inj hf ▸ disableFmapi_wired op l₁ l₂ hw h₂

/-! ### What a tunnelled command does then -/

/-- Refused: code -1, and nothing leaves the host. -/
def Refuses (o : ByteOrder) (env : Env) (ep : Endpoint) (t : TunnelInfo) (req : Bytes) (rspSz rspMin : ℕ) :
    Prop :=
  ∃ r, sendCmdCci o env ep (some t) req rspSz rspMin = some r ∧ r.rc = -1 ∧ r.sent = []

theorem refuses_of_fmapi (o : ByteOrder) (env : Env) (ep : Endpoint) (t : TunnelInfo) (req : Bytes)
    (rspSz rspMin : ℕ) (hoff : ep.hasFmapi = false) (hc : cmdIsFmapi (commandSet req) = true) :
    Refuses o env ep t req rspSz rspMin := by
  have hr : refused ep (some t) req = true := by
    simp only [refused, hc, hoff, Bool.not_false, Bool.and_self, Bool.true_or]
  exact ⟨_, sendCmdCci_refused o env ep (some t) req rspSz rspMin hr, rfl, rfl⟩

theorem refuses_of_closed (o : ByteOrder) (env : Env) (ep : Endpoint) (m : MctpTransport) (t : TunnelInfo)
    (req : Bytes) (rspSz rspMin : ℕ) (ht : t.level = 1 ∨ t.level = 2)
    (hm : ep.transportData = some (.mctp m)) (hn : m.nid ≠ mockMagic) (hsd : m.fmapiSd < 0) :
    Refuses o env ep t req rspSz rspMin := by
  cases hr : refused ep (some t) req with
  | true => exact ⟨_, sendCmdCci_refused o env ep (some t) req rspSz rspMin hr, rfl, rfl⟩
  | false =>
    refine ⟨_, sendCmdCci_mctp o env ep m (some t) req rspSz rspMin hr hm hn, ?_⟩
    rcases sendMctp_cases o env m (cmdIsFmapi (commandSet req)) (some t) req rspSz rspMin with
      ⟨-, n, -, hs⟩ | ⟨hb, -⟩ | ⟨k, tReq, -, hs⟩
    · rw [hs]
      exact ⟨rfl, rfl⟩
    · have hd := (mctpBuild_depth o env m (some t) req 0 req hb).1
      simp only [tunnelDepth] at hd
      omega
    · rw [hs, sendMctpTunnelled_closed o env (m.advance (k + 1)) _ tReq rspSz rspMin hsd]
      exact ⟨rfl, rfl⟩

theorem tunnel_level (t : TunnelInfo) (ht : t.level = 1 ∨ t.level = 2) :
    ∃ k : ℕ, (k = 0 ∨ k = 1) ∧ t.level = k + 1 := by
  rcases ht with ht | ht
  · exact ⟨0, Or.inl rfl, ht⟩
  · exact ⟨1, Or.inr rfl, ht⟩

theorem not_refuses_mctp (o : ByteOrder) (ep : Endpoint) (m : MctpTransport) (t : TunnelInfo)
    (req : Bytes) (rspSz rspMin : ℕ) (ht : t.level = 1 ∨ t.level = 2)
    (hr : refused ep (some t) req = false) (hm : ep.transportData = some (.mctp m))
    (hn : m.nid ≠ mockMagic) (hsd : 0 ≤ m.fmapiSd) : ¬Refuses o takesAll ep t req rspSz rspMin := by
  intro ⟨r, h, _, hsent⟩
  rw [sendCmdCci_mctp o takesAll ep m (some t) req rspSz rspMin hr hm hn] at h
  obtain ⟨k, hk, hlev⟩ := tunnel_level t ht
  rw [sendMctp_tunnel o takesAll m _ t req rspSz rspMin k hk hlev (fun _ _ => rfl)] at h
  have hs := sendMctpTunnelled_sent o takesAll (m.advance (k + 1)) (k + 1) (mctpTunnelReq o m t req) rspSz rspMin
    rfl hsd rfl
  rw [← Option.some.inj h, Outcome.map, hs] at hsent
  cases hsent

theorem not_refuses_mailbox (o : ByteOrder) (ep : Endpoint) (t : TunnelInfo) (req : Bytes)
    (rspSz rspMin : ℕ) (ht : t.level = 1 ∨ t.level = 2) (hr : refused ep (some t) req = false)
    (hm : ep.transportData = none) (hfd : 0 ≤ ep.fd) : ¬Refuses o takesAll ep t req rspSz rspMin := by
  intro ⟨r, h, _, hsent⟩
  rw [sendCmdCci_ioctl o takesAll ep (some t) req rspSz rspMin hr hm] at h
  obtain ⟨k, hk, hlev⟩ := tunnel_level t ht
  rw [sendIoctl_tunnel_alloc o takesAll ep.fd t req rspSz rspMin k hk hlev (fun _ _ => rfl)] at h
  have hs := sendIoctlTunnelled_sent o takesAll ep.fd k (mailboxTunnelReq o t req) rspSz rspMin 0 _
    (tunnelledIoctl_returns takesAll ep.fd k rspSz [] ⟨fun _ _ => rfl, rfl⟩ hfd)
  rw [← Option.some.inj h, Outcome.map, hs] at hsent
  cases hsent

/-- After FM-API was disabled, a tunnelled command is always refused exactly
when it is an FM-API command itself, or the endpoint is an MCTP one, not taken
for a mock, whose FM-API socket was asked for before. -/
theorem tunnel_refused_iff (o : ByteOrder) (op : Opening) (ops : List LifeOp) (l : Life)
    (h : history o op (ops ++ [.disableFmapi]) = some l) (t : TunnelInfo)
    (ht : t.level = 1 ∨ t.level = 2) (req : Bytes) (rspSz rspMin : ℕ) :
    (∀ env, Refuses o env l.ep t req rspSz rspMin) ↔
      cmdIsFmapi (commandSet req) = true ∨
        match op with
        | .mailbox _ _ => False
        | .mctp nid _ _ _ _ _ => nid ≠ mockMagic ∧ l.fmapiTried = true := by
  obtain ⟨hw, hoff⟩ := history_disabled o op ops l h
  cases hc : cmdIsFmapi (commandSet req) with
  | true =>
    exact iff_of_true (fun env => refuses_of_fmapi o env l.ep t req rspSz rspMin hoff hc) (Or.inl rfl)
  | false =>
    have hr : refused l.ep (some t) req = false := by
      simp only [refused, hc, Bool.false_and, Bool.false_or, decide_eq_false_iff_not]
      omega
    simp only [Bool.false_eq_true, false_or]
    cases op with
    | mailbox fd probe =>
      refine iff_of_false (fun hall => ?_) id
      have hfd : 0 ≤ l.ep.fd := hw.2 ▸ Int.natCast_nonneg fd
      exact not_refuses_mailbox o l.ep t req rspSz rspMin ht hr hw.1 hfd (hall _)
    | mctp nid eid sd probe env sock =>
      obtain ⟨m, hm, hnid, hf⟩ := hw
      have hclosed := hf.off hoff
      simp only [← hnid]
      constructor
      · intro hall
        have hn : m.nid ≠ mockMagic := by
          intro hn
          obtain ⟨r, hs, -⟩ := hall takesAll
          rw [sendCmdCci_confused o takesAll l.ep m (some t) req rspSz rspMin hr hm hn] at hs
          cases hs
        refine ⟨hn, ?_⟩
        cases htr : l.fmapiTried with
        | true => rfl
        | false =>
          rw [htr] at hclosed
          exact absurd (hall _) (not_refuses_mctp o l.ep m t req rspSz rspMin ht hr hm hn (le_of_eq hclosed.symm))
      · intro ⟨hn, htr⟩ env
        rw [htr] at hclosed
        exact refuses_of_closed o env l.ep m t req rspSz rspMin ht hm hn hclosed

def toggledLife : Life :=
  ⟨⟨some (.mctp ⟨1, 8, 4, -1, sockaddrMctp 1 8 mctpTypeCxlCci, sockaddrZero, 0⟩), -1, false⟩,
    [.socket .cci 4, .socket .fmapi 5, .close .fmapi 5]⟩

theorem toggledLife_refuses :
    history .little (.mctp 1 8 4 false takesAll (-1)) [.enableFmapi 5, .disableFmapi] = some toggledLife ∧
      ∀ env, Refuses .little env toggledLife.ep (behindPort 0) (identifyReq 0) 30 30 :=
  ⟨rfl, (tunnel_refused_iff .little (.mctp 1 8 4 false takesAll (-1)) [.enableFmapi 5] toggledLife rfl
    (behindPort 0) (Or.inl rfl) (identifyReq 0) 30 30).mpr (Or.inr ⟨by decide, by decide⟩)⟩

/-- Identify through port 0 after FM-API was disabled: a mailbox sends it, and
so does an MCTP endpoint opened without probe, on descriptor 0. -/
theorem disabled_tunnels_are_sent :
    ((history .little (.mailbox 3 true) [.disableFmapi]).bind fun l =>
        (sendCmdCci .little takesAll l.ep (some (behindPort 0)) (identifyReq 0) 30 30).map Outcome.sent) =
      some [.mailbox 3 0x5300 ([0, 0, 12, 0] ++ identifyReq 0)] ∧
    ((history .little (.mctp 1 8 4 false takesAll (-1)) [.disableFmapi]).bind fun l =>
        (sendCmdCci .little takesAll l.ep (some (behindPort 0)) (identifyReq 0) 30 30).map Outcome.sent) =
      some [.mctp 0 sockaddrZero (cciHeader .little 0 0x00 0x53 16 ++ [0, 0, 12, 0] ++ identifyReq 0)] := by
  decide +kernel

end LibCxlmi.Run
