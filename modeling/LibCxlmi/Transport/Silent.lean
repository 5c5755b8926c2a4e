import LibCxlmi.Transport.Outbound

/-!
# Endpoints that stay silent

When nothing of a command leaves the host, whatever its environment, and what
it then returns; and what arming a request changes about this (nothing).
-/

namespace LibCxlmi.Transport
open LibCxlmi.Word LibCxlmi.Cci

/-- Nothing of the command set leaves the host or reaches the mock: the gate
refuses it, the level is unknown, the descriptor is closed, or MCTP transport
data is taken for that of a mock. -/
def Silent (ep : Endpoint) (ti : Option TunnelInfo) (set : Byte) : Prop :=
  (cmdIsFmapi set = true ∧ ep.hasFmapi = false) ∨ (∃ t, ti = some t ∧ 2 < t.level) ∨
    match ep.transportData with
    | some (.mock _) => False
    | some (.mctp m) =>
        knownLevel ti = false ∨ m.nid = mockMagic ∨ mctpSd m (cmdIsFmapi set) (tunnelDepth ti) < 0
    | none => knownLevel ti = false ∨ ep.fd < 0

theorem refused_iff (ep : Endpoint) (ti : Option TunnelInfo) (req : Bytes) :
    refused ep ti req = true ↔
      (cmdIsFmapi (commandSet req) = true ∧ ep.hasFmapi = false) ∨ ∃ t, ti = some t ∧ 2 < t.level := by
  unfold refused
  cases ti with
  | none => simp only [Bool.or_false, Bool.and_eq_true, Bool.not_eq_true', reduceCtorEq, false_and, exists_false,
      or_false]
  | some t => simp only [Bool.or_eq_true, Bool.and_eq_true, Bool.not_eq_true', decide_eq_true_eq, Option.some.injEq,
      exists_eq_left']

theorem not_refused (ep : Endpoint) (ti : Option TunnelInfo) (req : Bytes) (h : ¬Silent ep ti (commandSet req)) :
    refused ep ti req = false := by
  rw [Silent, ← or_assoc, ← refused_iff, not_or] at h
  exact Bool.not_eq_true _ ▸ h.1

theorem silent_outbound (o : ByteOrder) (ep : Endpoint) (ti : Option TunnelInfo) (req : Bytes)
    (h : Silent ep ti (commandSet req)) : outbound o ep ti req = none := by
  unfold outbound
  rw [Silent, ← or_assoc, ← refused_iff] at h
  by_cases hc : refused ep ti req = true ∨ knownLevel ti = false
  · exact if_pos hc
  · rw [if_neg hc]
    obtain ⟨hr, hk⟩ := not_or.mp hc
    have h := h.resolve_left hr
    cases htd : ep.transportData with
    | none =>
      simp only [htd] at h ⊢
      rw [if_pos (h.resolve_left hk)]
    | some td =>
      cases td with
      | mock k => rfl
      | mctp m =>
        simp only [htd] at h ⊢
        rw [if_pos (h.resolve_left hk)]

theorem outbound_mailbox (o : ByteOrder) (ep : Endpoint) (ti : Option TunnelInfo) (req : Bytes)
    (h : ¬Silent ep ti (commandSet req)) (htd : ep.transportData = none) :
    outbound o ep ti req =
      some (mailboxTx ep.fd (mailboxMsg o ti req).1 (mailboxMsg o ti req).2) := by
  rw [Silent, ← or_assoc, ← refused_iff, not_or] at h
  obtain ⟨hr, h⟩ := h
  simp only [htd, not_or] at h
  simp only [outbound, htd]
  rw [if_neg (not_or.mpr ⟨hr, h.1⟩), if_neg h.2]

theorem outbound_mctp (o : ByteOrder) (ep : Endpoint) (m : MctpTransport) (ti : Option TunnelInfo) (req : Bytes)
    (h : ¬Silent ep ti (commandSet req)) (htd : ep.transportData = some (.mctp m)) :
    outbound o ep ti req =
      some (.mctp (mctpSd m (cmdIsFmapi (commandSet req)) (tunnelDepth ti))
        (mctpAddr m (cmdIsFmapi (commandSet req)) (tunnelDepth ti)) (transferred (mctpMsg o m ti req))) := by
  rw [Silent, ← or_assoc, ← refused_iff, not_or] at h
  obtain ⟨hr, h⟩ := h
  simp only [htd, not_or] at h
  simp only [outbound, htd]
  rw [if_neg (not_or.mpr ⟨hr, h.1⟩), if_neg (not_or.mpr h.2)]

theorem outbound_of_not_silent (o : ByteOrder) (ep : Endpoint) (ti : Option TunnelInfo) (req : Bytes)
    (h : ¬Silent ep ti (commandSet req)) (hm : ∀ k, ep.transportData ≠ some (.mock k)) :
    ∃ tx, outbound o ep ti req = some tx := by
  cases htd : ep.transportData with
  | none => exact ⟨_, outbound_mailbox o ep ti req h htd⟩
  | some td =>
    cases td with
    | mock k => exact absurd htd (hm k)
    | mctp m => exact ⟨_, outbound_mctp o ep m ti req h htd⟩

/-- MCTP transport data that a command finds to be that of a mock. -/
def Confused (ep : Endpoint) (ti : Option TunnelInfo) (set : Byte) : Prop :=
  ¬(cmdIsFmapi set = true ∧ ep.hasFmapi = false) ∧ ¬(∃ t, ti = some t ∧ 2 < t.level) ∧
    ∃ m, ep.transportData = some (.mctp m) ∧ m.nid = mockMagic

def recorded (ep : Endpoint) : Option Bytes :=
  match ep.transportData with
  | some (.mock k) => some k.lastPayload
  | _ => none

theorem sendCmdCci_of_confused (o : ByteOrder) (env : Env) (ep : Endpoint) (ti : Option TunnelInfo)
    (req : Bytes) (rspSz rspMin : ℕ) (h : Confused ep ti (commandSet req)) :
    sendCmdCci o env ep ti req rspSz rspMin = none := by
  obtain ⟨hgate, hlevel, m, hm, hn⟩ := h
  have hr : refused ep ti req = false := by
    rw [← Bool.not_eq_true, refused_iff]
    exact not_or.mpr ⟨hgate, hlevel⟩
  exact sendCmdCci_confused o env ep m ti req rspSz rspMin hr hm hn

/-- Nothing else is undefined. -/
theorem sendCmdCci_none_iff (o : ByteOrder) (env : Env) (ep : Endpoint) (ti : Option TunnelInfo) (req : Bytes)
    (rspSz rspMin : ℕ) :
    sendCmdCci o env ep ti req rspSz rspMin = none ↔ Confused ep ti (commandSet req) := by
  constructor
  · intro h
    cases hr : refused ep ti req with
    | true =>
      rw [sendCmdCci_refused o env ep ti req rspSz rspMin hr] at h
      cases h
    | false =>
      have hnot := (refused_iff ep ti req).not.mp (Bool.eq_false_iff.mp hr)
      refine ⟨(not_or.mp hnot).1, (not_or.mp hnot).2, ?_⟩
      cases htd : ep.transportData with
      | none =>
        rw [sendCmdCci_ioctl o env ep ti req rspSz rspMin hr htd] at h
        cases h
      | some td =>
        cases td with
        | mock k =>
          rw [sendCmdCci_mock o env ep k ti req rspSz rspMin hr htd] at h
          cases h
        | mctp m =>
          refine ⟨m, rfl, ?_⟩
          by_contra hn
          rw [sendCmdCci_mctp o env ep m ti req rspSz rspMin hr htd hn] at h
          cases h
  · exact sendCmdCci_of_confused o env ep ti req rspSz rspMin

theorem sendCmdCci_silent (o : ByteOrder) (env : Env) (ep : Endpoint) (ti : Option TunnelInfo)
    (req : Bytes) (rspSz rspMin : ℕ) (h : Silent ep ti (commandSet req))
    (hc : ¬Confused ep ti (commandSet req)) :
    ∃ st, sendCmdCci o env ep ti req rspSz rspMin = some (failOutcome rspSz st) ∧
      recorded st = recorded ep := by
  cases hr : refused ep ti req with
  | true => exact ⟨ep, sendCmdCci_refused o env ep ti req rspSz rspMin hr, rfl⟩
  | false =>
    have hnot : ¬((cmdIsFmapi (commandSet req) = true ∧ ep.hasFmapi = false) ∨ ∃ t, ti = some t ∧ 2 < t.level) := by
      rw [← refused_iff, hr]
      exact Bool.false_ne_true
    rw [Silent, ← or_assoc] at h
    have h := h.resolve_left hnot
    cases htd : ep.transportData with
    | none =>
      rw [htd] at h
      refine ⟨ep, ?_, rfl⟩
      rw [sendCmdCci_ioctl o env ep ti req rspSz rspMin hr htd, sendIoctl_silent o env ep.fd ti req rspSz rspMin h]
      rfl
    | some td =>
      cases td with
      | mock k =>
        rw [htd] at h
        exact False.elim h
      | mctp m =>
        rw [htd] at h
        have hn : m.nid ≠ mockMagic := fun hn => hc ⟨(not_or.mp hnot).1, (not_or.mp hnot).2, m, htd, hn⟩
        have hsil : knownLevel ti = false ∨ mctpSd m (cmdIsFmapi (commandSet req)) (tunnelDepth ti) < 0 :=
          h.imp_right fun h => h.resolve_left hn
        obtain ⟨n, hs⟩ := sendMctp_silent o env m _ ti req rspSz rspMin hsil
        refine ⟨{ ep with transportData := some (.mctp (m.advance n)) }, ?_, ?_⟩
        · rw [sendCmdCci_mctp o env ep m ti req rspSz rspMin hr htd hn, hs]
          rfl
        · simp only [recorded, htd]

theorem sendCmdCci_mock_only (o : ByteOrder) (env : Env) (ep : Endpoint) (ti : Option TunnelInfo)
    (req : Bytes) (rspSz rspMin : ℕ) (r : Outcome Endpoint) (k : MockTransport)
    (h : sendCmdCci o env ep ti req rspSz rspMin = some r) (hk : r.st.transportData = some (.mock k)) :
    ∃ k₀, ep.transportData = some (.mock k₀) := by
  cases htd : ep.transportData with
  | some td =>
    cases td with
    | mock k₀ => exact ⟨k₀, rfl⟩
    | mctp m =>
      simp only [sendCmdCci, htd] at h
      split_ifs at h
      · rw [← Option.some.inj h, failOutcome, htd] at hk
        cases hk
      · rw [← Option.some.inj h, Outcome.map] at hk
        cases hk
  | none =>
    simp only [sendCmdCci, htd] at h
    split_ifs at h
    · rw [← Option.some.inj h, failOutcome, htd] at hk
      cases hk
    · rw [← Option.some.inj h, Outcome.map, htd] at hk
      cases hk

/-! ### Armed requests -/

theorem armCciRequest_req (o : ByteOrder) (ep : Endpoint) (set cmd : Byte) (pl : Bytes) :
    ∃ tg, (armCciRequest o ep set cmd pl).1 = cciHeader o tg cmd set pl.length ++ pl := by
  unfold armCciRequest
  split
  · split_ifs
    · exact ⟨_, rfl⟩
    · exact ⟨_, rfl⟩
  · exact ⟨_, rfl⟩

theorem commandSet_armed (o : ByteOrder) (ep : Endpoint) (set cmd : Byte) (pl : Bytes) :
    commandSet (armCciRequest o ep set cmd pl).1 = set := by
  obtain ⟨tg, h⟩ := armCciRequest_req o ep set cmd pl
  rw [h]
  exact commandSet_cciHeader o tg cmd set pl.length pl

/- Arming only moves the tag counter. -/
theorem armed_eq (ep : Endpoint) (set cmd : Byte) :
    ∃ tg st, recorded st = recorded ep ∧
      ∀ o pl, armCciRequest o ep set cmd pl = (cciHeader o tg cmd set pl.length ++ pl, st) := by
  cases htd : ep.transportData with
  | none => exact ⟨0, ep, rfl, fun o pl => by simp only [armCciRequest, htd]⟩
  | some td =>
    cases td with
    | mock k => exact ⟨0, ep, rfl, fun o pl => by simp only [armCciRequest, htd]⟩
    | mctp m =>
      by_cases hi : isMockEndpoint ep = true
      · exact ⟨0, ep, rfl, fun o pl => by simp only [armCciRequest, htd, hi, if_true]⟩
      · refine ⟨uint8 m.tag, { ep with transportData := some (.mctp (m.advance 1)) }, ?_, fun o pl => ?_⟩
        · simp only [recorded, htd]
        · simp only [armCciRequest, htd, hi, if_false, Bool.false_eq_true]

theorem command_armed (o : ByteOrder) (ep : Endpoint) (set cmd : Byte) (pl : Bytes) :
    command (armCciRequest o ep set cmd pl).1 = cmd := by
  obtain ⟨tg, h⟩ := armCciRequest_req o ep set cmd pl
  rw [h]
  exact command_cciHeader o tg cmd set pl.length pl

theorem armed_cases (o : ByteOrder) (ep : Endpoint) (set cmd : Byte) (pl : Bytes) :
    (armCciRequest o ep set cmd pl).2 = ep ∨ ∃ m, ep.transportData = some (.mctp m) ∧
      (armCciRequest o ep set cmd pl).2 = { ep with transportData := some (.mctp (m.advance 1)) } := by
  unfold armCciRequest
  split
  · rename_i m hm
    split_ifs
    · exact Or.inl rfl
    · exact Or.inr ⟨m, hm, rfl⟩
  · exact Or.inl rfl

theorem silent_armed (o : ByteOrder) (ep : Endpoint) (set cmd : Byte) (pl : Bytes)
    (ti : Option TunnelInfo) (set' : Byte) :
    Silent (armCciRequest o ep set cmd pl).2 ti set' ↔ Silent ep ti set' := by
  rcases armed_cases o ep set cmd pl with harm | ⟨m, hm, harm⟩
  · rw [harm]
  · rw [harm]
    simp only [Silent, hm, MctpTransport.advance, mctpSd]

theorem confused_armed (o : ByteOrder) (ep : Endpoint) (set cmd : Byte) (pl : Bytes)
    (ti : Option TunnelInfo) (set' : Byte) :
    Confused (armCciRequest o ep set cmd pl).2 ti set' ↔ Confused ep ti set' := by
  rcases armed_cases o ep set cmd pl with harm | ⟨m, hm, harm⟩
  · rw [harm]
  · rw [harm]
    simp only [Confused, hm, MctpTransport.advance, Option.some.injEq, TransportData.mctp.injEq, exists_eq_left']

theorem armed_mock (o : ByteOrder) (ep : Endpoint) (set cmd : Byte) (pl : Bytes) (k : MockTransport)
    (h : ep.transportData = some (.mock k)) :
    armCciRequest o ep set cmd pl = (cciHeader o 0 cmd set pl.length ++ pl, ep) := by
  simp only [armCciRequest, h]

theorem armed_mock_only (o : ByteOrder) (ep : Endpoint) (set cmd : Byte) (pl : Bytes) (k : MockTransport)
    (h : (armCciRequest o ep set cmd pl).2.transportData = some (.mock k)) :
    (armCciRequest o ep set cmd pl).2 = ep := by
  rcases armed_cases o ep set cmd pl with harm | ⟨m, -, harm⟩
  · exact harm
  · rw [harm] at h
    cases h

theorem armed_mailbox (o : ByteOrder) (ep : Endpoint) (set cmd : Byte) (pl : Bytes)
    (h : ep.transportData = none) :
    armCciRequest o ep set cmd pl = (cciHeader o 0 cmd set pl.length ++ pl, ep) := by
  simp only [armCciRequest, h]

theorem armed_mailbox_iff (o : ByteOrder) (ep : Endpoint) (set cmd : Byte) (pl : Bytes) :
    (armCciRequest o ep set cmd pl).2.transportData = none ↔ ep.transportData = none := by
  rcases armed_cases o ep set cmd pl with harm | ⟨m, hm, harm⟩
  · rw [harm]
  · rw [harm, hm]
    exact iff_of_false (Option.some_ne_none _) (Option.some_ne_none _)

theorem silent_outbound_armed (o : ByteOrder) (ep : Endpoint) (set cmd : Byte) (pl : Bytes)
    (ti : Option TunnelInfo) (h : Silent ep ti set) :
    outbound o (armCciRequest o ep set cmd pl).2 ti (armCciRequest o ep set cmd pl).1 = none := by
  apply silent_outbound
  rw [commandSet_armed, silent_armed]
  exact h

theorem outbound_armed (o : ByteOrder) (ep : Endpoint) (set cmd : Byte) (pl : Bytes)
    (ti : Option TunnelInfo) (h : ¬Silent ep ti set) (hm : ∀ k, ep.transportData ≠ some (.mock k)) :
    ∃ tx, outbound o (armCciRequest o ep set cmd pl).2 ti (armCciRequest o ep set cmd pl).1 = some tx := by
  apply outbound_of_not_silent
  · rw [commandSet_armed, silent_armed]
    exact h
  · intro k hk
    rw [armed_mock_only o ep set cmd pl k hk] at hk
    exact hm k hk

end LibCxlmi.Transport
