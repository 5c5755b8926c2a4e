import LibCxlmi.Commands.General
import LibCxlmi.Run.Session

/-!
# Opening endpoints, and FM-API on and off (cxlmi.c:251-307, 1210-1345, 1632-1675)

The life of an endpoint: it is opened, probed, and FM-API is enabled and
disabled on it, with commands in between. `calls` is the history of its
`socket` and `close` calls. The descriptors `socket` returns are arguments; a
negative one is a failure. Only MCTP and mailbox endpoints are considered:
`none` is transport data of one kind used as that of another.
-/

namespace LibCxlmi.Run
open LibCxlmi.Word LibCxlmi.Cci LibCxlmi.Transport LibCxlmi.Commands

inductive FdCall where
  | socket (k : Sock) (sd : ℤ)
  | close (k : Sock) (sd : ℤ)
  deriving DecidableEq, Repr

structure Life where
  ep : Endpoint
  calls : List FdCall
  deriving DecidableEq, Repr

/-- The FM-API socket as probe and enable open it: the descriptor is stored
even when it is none. -/
def Life.fmapiSocket (l : Life) (m : MctpTransport) (sock : ℤ) : Life :=
  ⟨if sock < 0 then { l.ep with transportData := some (.mctp { m with fmapiSd := sock }) }
    else { l.ep with
      transportData := some (.mctp { m with
        fmapiSd := sock
        fmapiAddr := sockaddrMctp m.nid m.eid mctpTypeCxlFmapi })
      hasFmapi := true },
    l.calls ++ [.socket .fmapi sock]⟩

def endpointEnableFmapi (l : Life) (sock : ℤ) : Option Life :=
  if l.ep.hasFmapi then some l
  else
    match l.ep.transportData with
    | none => some { l with ep := { l.ep with hasFmapi := true } }
    | some (.mctp m) => some (l.fmapiSocket m sock)
    | some (.mock _) => none

def endpointDisableFmapi (l : Life) : Option Life :=
  if l.ep.hasFmapi = false then some l
  else
    match l.ep.transportData with
    | none => some { l with ep := { l.ep with hasFmapi := false } }
    | some (.mctp m) => some
        ⟨{ l.ep with
          transportData := some (.mctp { m with fmapiSd := -1, fmapiAddr := sockaddrZero })
          hasFmapi := false }, l.calls ++ [.close .fmapi m.fmapiSd]⟩
    | some (.mock _) => none

/- Identify is sent untunnelled; a switch (00h) or a Type 3 device (03h) gets an
FM-API socket. -/
def endpointProbeMctp (o : ByteOrder) (env : Env) (l : Life) (sock : ℤ) : Option Life :=
  (identify.run o env l.ep none).bind fun r =>
    let l := { l with ep := r.st }
    match r.rc, r.value, r.st.transportData with
    | 0, some id, some (.mctp m) =>
        if id.componentType = 0x00 ∨ id.componentType = 0x03 then some (l.fmapiSocket m sock) else some l
    | _, _, _ => some l

def endpointProbe (o : ByteOrder) (probeEnabled : Bool) (env : Env) (l : Life) (sock : ℤ) : Option Life :=
  if probeEnabled = false then some l
  else
    match l.ep.transportData with
    | none => some { l with ep := { l.ep with hasFmapi := true } }
    | some _ => endpointProbeMctp o env l sock

/-- A successful open: the descriptor is not negative. -/
inductive Opening where
  | mctp (nid : U 32) (eid : Byte) (sd : ℕ) (probeEnabled : Bool) (env : Env) (sock : ℤ)
  | mailbox (fd : ℕ) (probeEnabled : Bool)

/- `calloc` clears the transport data, so the FM-API descriptor starts as 0. -/
def Opening.run (o : ByteOrder) : Opening → Option Life
  | .mctp nid eid sd probeEnabled env sock =>
      endpointProbe o probeEnabled env
        ⟨⟨some (.mctp ⟨nid, eid, sd, 0, sockaddrMctp nid eid mctpTypeCxlCci, sockaddrZero, 0⟩), -1, false⟩,
          [.socket .cci sd]⟩ sock
  | .mailbox fd probeEnabled =>
      endpointProbe o probeEnabled (socketDelivers []) ⟨⟨none, fd, false⟩, []⟩ (-1)

inductive LifeOp where
  | enableFmapi (sock : ℤ)
  | disableFmapi
  | command (env : Env) (ti : Option TunnelInfo) (set cmd : Byte) (pl : Bytes) (rspSz rspMin : ℕ)

def Life.step (o : ByteOrder) (l : Life) : LifeOp → Option Life
  | .enableFmapi sock => endpointEnableFmapi l sock
  | .disableFmapi => endpointDisableFmapi l
  | .command env ti set cmd pl rspSz rspMin =>
      let armed := armCciRequest o l.ep set cmd pl
      (sendCmdCci o env armed.2 ti armed.1 rspSz rspMin).map fun r => { l with ep := r.st }

/-- The endpoint after it was opened and the operations `ops` were done on it. -/
def history (o : ByteOrder) (op : Opening) (ops : List LifeOp) : Option Life :=
  (op.run o).bind fun l => ops.foldlM (Life.step o) l

/-! ### What a command leaves alone -/

/-- The same endpoint up to the tag counter. -/
def SameLink (a b : Endpoint) : Prop :=
  b.hasFmapi = a.hasFmapi ∧ b.fd = a.fd ∧ (a.transportData = none → b.transportData = none) ∧
    ∀ m, a.transportData = some (.mctp m) → ∃ n, b.transportData = some (.mctp (m.advance n))

theorem sameLink_refl (a : Endpoint) : SameLink a a :=
  ⟨rfl, rfl, id, fun m h => ⟨0, by rw [h]; rfl⟩⟩

theorem sameLink_trans (a b c : Endpoint) (hab : SameLink a b) (hbc : SameLink b c) : SameLink a c := by
  obtain ⟨h1, h2, h3, h4⟩ := hab
  obtain ⟨g1, g2, g3, g4⟩ := hbc
  refine ⟨g1.trans h1, g2.trans h2, fun h => g3 (h3 h), fun m hm => ?_⟩
  obtain ⟨n, hn⟩ := h4 m hm
  obtain ⟨k, hk⟩ := g4 _ hn
  exact ⟨n + k, by rw [hk, advance_advance]⟩

theorem sendCmdCci_sameLink (o : ByteOrder) (env : Env) (ep : Endpoint) (ti : Option TunnelInfo)
    (req : Bytes) (rspSz rspMin : ℕ) (r : Outcome Endpoint)
    (h : sendCmdCci o env ep ti req rspSz rspMin = some r) : SameLink ep r.st := by
  cases hr : refused ep ti req with
  | true =>
    rw [sendCmdCci_refused o env ep ti req rspSz rspMin hr] at h
    obtain rfl := Option.some.inj h
    exact sameLink_refl ep
  | false =>
    cases ht : ep.transportData with
    | none =>
      rw [sendCmdCci_ioctl o env ep ti req rspSz rspMin hr ht] at h
      obtain rfl := Option.some.inj h
      exact sameLink_refl ep
    | some d =>
      cases d with
      | mock k =>
        rw [sendCmdCci_mock o env ep k ti req rspSz rspMin hr ht] at h
        obtain rfl := Option.some.inj h
        refine ⟨rfl, rfl, fun hn => ?_, fun m hm => ?_⟩
        · rw [ht] at hn
          cases hn
        · rw [ht] at hm
          cases hm
      | mctp m =>
        by_cases hn : m.nid = mockMagic
        · rw [sendCmdCci_confused o env ep m ti req rspSz rspMin hr ht hn] at h
          cases h
        · rw [sendCmdCci_mctp o env ep m ti req rspSz rspMin hr ht hn] at h
          obtain rfl := Option.some.inj h
          refine ⟨rfl, rfl, fun hnone => ?_, fun m' hm' => ?_⟩
          · rw [ht] at hnone
            cases hnone
          · obtain rfl := TransportData.mctp.inj (Option.some.inj (ht.symm.trans hm'))
            rcases sendMctp_effect o env m _ ti req rspSz rspMin _ rfl with
              ⟨-, -, -, -, n, hst⟩ | ⟨n, -, -, hst, -⟩
            · exact ⟨n, by rw [Outcome.map, hst]⟩
            · exact ⟨n, by rw [Outcome.map, hst]⟩

theorem armCciRequest_sameLink (o : ByteOrder) (ep : Endpoint) (set cmd : Byte) (pl : Bytes) :
    SameLink ep (armCciRequest o ep set cmd pl).2 := by
  rcases armed_cases o ep set cmd pl with harm | ⟨m, hm, harm⟩
  · rw [harm]
    exact sameLink_refl ep
  · rw [harm]
    refine ⟨rfl, rfl, fun hn => ?_, fun m' hm' => ?_⟩
    · rw [hm] at hn
      cases hn
    · obtain rfl := TransportData.mctp.inj (Option.some.inj (hm.symm.trans hm'))
      exact ⟨1, rfl⟩

theorem run_sameLink {α : Type} (c : CciCommand α) (o : ByteOrder) (env : Env) (ep : Endpoint)
    (ti : Option TunnelInfo) (r : Reply α) (h : c.run o env ep ti = some r) : SameLink ep r.st := by
  rcases c.run_cases o env ep ti r h with ⟨-, hst | ⟨pl, hst⟩⟩ | ⟨pl, s, -, -, -, hs, hf⟩
  · exact hst ▸ sameLink_refl ep
  · exact hst ▸ armCciRequest_sameLink o ep c.set c.cmd pl
  · rw [(c.finish_eq o s r hf).2.2]
    exact sameLink_trans _ _ _ (armCciRequest_sameLink o ep c.set c.cmd pl)
      (sendCmdCci_sameLink o env _ ti _ _ _ s hs)

theorem not_identified_iff (ep : Endpoint) :
    ¬ep.Identified ↔ ∃ m, ep.transportData = some (.mctp m) ∧ m.nid = mockMagic := by
  unfold Endpoint.Identified
  push Not
  rfl

theorem command_defined (o : ByteOrder) (env : Env) (ep : Endpoint) (ti : Option TunnelInfo) (set cmd : Byte)
    (pl : Bytes) (rspSz rspMin : ℕ) (h : ep.Identified) :
    ∃ r, sendCmdCci o env (armCciRequest o ep set cmd pl).2 ti (armCciRequest o ep set cmd pl).1 rspSz rspMin =
      some r := by
  rw [← Option.ne_none_iff_exists', Ne, sendCmdCci_none_iff, commandSet_armed, confused_armed]
  rintro ⟨-, -, hm⟩
  exact (not_identified_iff ep).mpr hm h

/-! ### Probing -/

/- Identify is only undefined on an endpoint that is taken for a mock, once its
response is allocated. -/
theorem identify_none_iff (o : ByteOrder) (env : Env) (ep : Endpoint) :
    identify.run o env ep none = none ↔ env.alloc .response 30 = true ∧ ¬ep.Identified := by
  have hconf : Confused ep none 0x00 ↔ ¬ep.Identified := by
    rw [not_identified_iff]
    constructor
    · intro h
      exact h.2.2
    · intro h
      refine ⟨fun hf => absurd hf.1 (by decide), ?_, h⟩
      rintro ⟨t, ht, -⟩
      cases ht
  have hrun : identify.run o env ep none =
      if env.alloc .response 30 = false then some ⟨-1, none, [], (armCciRequest o ep 0x00 0x1 []).2⟩
      else (sendCmdCci o env (armCciRequest o ep 0x00 0x1 []).2 none (armCciRequest o ep 0x00 0x1 []).1 30 30).bind
        (identify.finish o) := by
    simp only [CciCommand.run, CciCommand.exchange, identify, query, order, Bool.true_eq_false, Bool.false_eq_true,
      false_and, if_false, Option.bind_some, false_or, true_and]
  rw [hrun]
  cases hal : env.alloc .response 30 with
  | false => simp only [if_true, reduceCtorEq, false_and]
  | true =>
    rw [if_neg Bool.noConfusion, Option.bind_eq_none_iff]
    have hfin : ∀ s, ∃ r, identify.finish o s = some r := by
      intro s
      unfold CciCommand.finish
      split_ifs
      · exact ⟨_, rfl⟩
      · exact ⟨_, rfl⟩
    have hsend := sendCmdCci_none_iff o env (armCciRequest o ep 0x00 0x1 []).2 none
      (armCciRequest o ep 0x00 0x1 []).1 30 30
    rw [commandSet_armed, confused_armed, hconf] at hsend
    rw [← hsend, eq_self_iff_true, true_and]
    constructor
    · intro h
      cases hs : sendCmdCci o env (armCciRequest o ep 0x00 0x1 []).2 none (armCciRequest o ep 0x00 0x1 []).1 30 30 with
      | none => rfl
      | some s =>
        obtain ⟨r, hr⟩ := hfin s
        rw [h s hs] at hr
        cases hr
    · intro h s hs
      rw [h] at hs
      cases hs

/-- The endpoint before it is probed. -/
def mctpOpened (nid : U 32) (eid : Byte) (sd : ℕ) : Life :=
  ⟨⟨some (.mctp ⟨nid, eid, sd, 0, sockaddrMctp nid eid mctpTypeCxlCci, sockaddrZero, 0⟩), -1, false⟩,
    [.socket .cci sd]⟩

theorem opening_mctp_eq (o : ByteOrder) (nid : U 32) (eid : Byte) (sd : ℕ) (probeEnabled : Bool) (env : Env)
    (sock : ℤ) :
    (Opening.mctp nid eid sd probeEnabled env sock).run o =
      if probeEnabled = false then some (mctpOpened nid eid sd)
      else endpointProbeMctp o env (mctpOpened nid eid sd) sock := rfl

/-- What probing does: a command, and perhaps an FM-API socket. -/
theorem probeMctp_cases (o : ByteOrder) (env : Env) (l l' : Life) (sock : ℤ)
    (h : endpointProbeMctp o env l sock = some l') :
    ∃ ep, SameLink l.ep ep ∧ (l' = ⟨ep, l.calls⟩ ∨
      ∃ m, ep.transportData = some (.mctp m) ∧ l' = Life.fmapiSocket ⟨ep, l.calls⟩ m sock) := by
  obtain ⟨r, hr, h⟩ := Option.bind_eq_some_iff.mp h
  refine ⟨r.st, run_sameLink identify o env l.ep none r hr, ?_⟩
  split at h
  · rename_i id m _ _ hm
    split_ifs at h
    · exact Or.inr ⟨m, hm, (Option.some.inj h).symm⟩
    · exact Or.inl (Option.some.inj h).symm
  · exact Or.inl (Option.some.inj h).symm

theorem probeMctp_none_iff (o : ByteOrder) (env : Env) (l : Life) (sock : ℤ) :
    endpointProbeMctp o env l sock = none ↔ env.alloc .response 30 = true ∧ ¬l.ep.Identified := by
  rw [← identify_none_iff o env l.ep, endpointProbeMctp, Option.bind_eq_none_iff]
  constructor
  · intro h
    cases hr : identify.run o env l.ep none with
    | none => rfl
    | some r =>
      have hn := h r hr
      simp only at hn
      split at hn
      · split_ifs at hn
      · cases hn
  · intro h r hr
    rw [h] at hr
    cases hr

end LibCxlmi.Run
