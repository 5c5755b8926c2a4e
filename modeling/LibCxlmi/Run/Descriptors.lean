import LibCxlmi.Run.Registry

/-!
# The descriptors of an MCTP endpoint (cxlmi.c:257-320, 1219-1353)

An MCTP endpoint opens one socket, and a second one for FM-API when it is probed
or when FM-API is enabled; it gives them back when FM-API is disabled and when
it is closed. `held` replays the calls against the descriptors that are open.
The variable of a program that holds the endpoint is a `Slot`: it is empty
before a successful open and after a close.
-/

namespace LibCxlmi.Run
open LibCxlmi.Word LibCxlmi.Cci LibCxlmi.Transport LibCxlmi.Commands

/-- The effect of a call on the descriptors that are open. Closing one that is
not open has none. -/
def hold (h : List (Sock × ℤ)) : FdCall → Option (List (Sock × ℤ))
  | .socket k sd => if sd < 0 then some h else some ((k, sd) :: h)
  | .close k sd => if (k, sd) ∈ h then some (h.erase (k, sd)) else none

/-- The descriptors open after the calls, if every close was of an open one. -/
def held (calls : List FdCall) : Option (List (Sock × ℤ)) := calls.foldlM hold []

theorem hold_failed (h : List (Sock × ℤ)) (k : Sock) (sd : ℤ) (hs : sd < 0) : hold h (.socket k sd) = some h :=
  if_pos hs

theorem hold_opened (h : List (Sock × ℤ)) (k : Sock) (sd : ℤ) (hs : 0 ≤ sd) :
    hold h (.socket k sd) = some ((k, sd) :: h) :=
  if_neg (Int.not_lt.mpr hs)

theorem hold_closed (h : List (Sock × ℤ)) (k : Sock) (sd : ℤ) : hold ((k, sd) :: h) (.close k sd) = some h := by
  rw [hold, if_pos List.mem_cons_self, List.erase_cons_head]

theorem held_append (calls more : List FdCall) (h : List (Sock × ℤ)) (hh : held calls = some h) :
    held (calls ++ more) = more.foldlM hold h := by
  unfold held at hh ⊢
  rw [List.foldlM_append, hh]
  rfl

theorem held_snoc (calls : List FdCall) (c : FdCall) (h : List (Sock × ℤ)) (hh : held calls = some h) :
    held (calls ++ [c]) = hold h c := by
  rw [held_append calls [c] h hh, List.foldlM_cons]
  cases hold h c with
  | none => rfl
  | some h' => rfl

/-! ### Opening and closing, with their calls -/

/- On a failure the new endpoint has no transport data and no descriptor, and
closing it calls nothing. -/
def openMctp (o : ByteOrder) (netid : U 32) (eid : Byte) (probeEnabled : Bool) (sys : MctpSys) :
    Option (Option Endpoint × List FdCall) :=
  if sys.epAlloc = false ∨ sys.mctpAlloc = false then some (none, [])
  else if sys.sd < 0 then some (none, [.socket .cci sys.sd])
  else ((sys.opening netid eid probeEnabled).run o).map fun l => (some l.ep, l.calls)

/-- It is the open of the registry, where no duplicate is met. -/
theorem cxlmiOpenMctp_eq (o : ByteOrder) (ctx : Ctx) (netid : U 32) (eid : Byte) (sys : MctpSys)
    (h : (ctx.endpoints.any fun r => scannedId r.ep == some (netid, eid)) = false) :
    cxlmiOpenMctp o ctx netid eid sys = (openMctp o netid eid ctx.probeEnabled sys).map fun (ep, _) =>
      match ep with
      | none => (ctx, .failed)
      | some ep => (ctx.add ⟨none, ep, fun hn => absurd rfl hn⟩, .opened) := by
  rw [cxlmiOpenMctp, h, if_neg Bool.false_ne_true, openMctp, close_init]
  cases sys.epAlloc with
  | false => rfl
  | true =>
    cases sys.mctpAlloc with
    | false => rfl
    | true =>
      by_cases hsd : sys.sd < 0
      · simp only [Bool.true_eq_false, false_or, hsd, if_true, if_false, Option.map_some]
      · simp only [Bool.true_eq_false, or_self, hsd, if_false, Option.map_map]
        rfl

/-- `cxlmi_close` of an MCTP endpoint. -/
def closeMctp (ep : Endpoint) : Option (List FdCall) :=
  match ep.transportData with
  | some (.mctp m) =>
      if isMockEndpoint ep then none
      else some ((if ep.hasFmapi then [.close .fmapi m.fmapiSd] else []) ++ [.close .cci m.sd])
  | _ => none

/-- It takes the endpoint off the list of the registry. -/
theorem cxlmiClose_eq (ctx : Ctx) (i : ℕ) (r : Registered) (m : MctpTransport) (hr : ctx.endpoints[i]? = some r)
    (hm : r.ep.transportData = some (.mctp m)) :
    cxlmiClose ctx i = (closeMctp r.ep).map fun _ => { ctx with endpoints := ctx.endpoints.eraseIdx i } := by
  simp only [cxlmiClose, hr, closeMctp, hm]
  cases isMockEndpoint r.ep with
  | true => rfl
  | false => rfl

structure Slot where
  endpoint : Option Endpoint
  calls : List FdCall
  deriving DecidableEq, Repr

inductive SlotOp where
  | openMctp (probeEnabled : Bool) (sys : MctpSys)
  | use (op : LifeOp)
  | close

/- A second open of an endpoint is refused before it calls anything; the other
functions do nothing with a null pointer. -/
def Slot.step (o : ByteOrder) (nid : U 32) (eid : Byte) (s : Slot) : SlotOp → Option Slot
  | .openMctp probeEnabled sys =>
      match s.endpoint with
      | some _ => some s
      | none => (Run.openMctp o nid eid probeEnabled sys).map fun (ep, calls) => ⟨ep, s.calls ++ calls⟩
  | .use op =>
      match s.endpoint with
      | none => some s
      | some ep => (Life.step o ⟨ep, s.calls⟩ op).map fun l => ⟨some l.ep, l.calls⟩
  | .close =>
      match s.endpoint with
      | none => some s
      | some ep => (closeMctp ep).map fun calls => ⟨none, s.calls ++ calls⟩

/-- The calls `ops` on an endpoint of one identity, from the start. -/
def slotRun (o : ByteOrder) (nid : U 32) (eid : Byte) (ops : List SlotOp) : Option Slot :=
  ops.foldlM (Slot.step o nid eid) ⟨none, []⟩

/-! ### What is open while the endpoint lives -/

def descriptors (hasFmapi : Bool) (m : MctpTransport) : List (Sock × ℤ) :=
  if hasFmapi then [(.fmapi, m.fmapiSd), (.cci, m.sd)] else [(.cci, m.sd)]

def Owns (nid : U 32) (l : Life) : Prop :=
  ∃ m, l.ep.transportData = some (.mctp m) ∧ m.nid = nid ∧ held l.calls = some (descriptors l.ep.hasFmapi m)

theorem owns_identified (nid : U 32) (l : Life) (h : Owns nid l) (hn : nid ≠ mockMagic) : l.ep.Identified := by
  obtain ⟨m, hm, rfl, -⟩ := h
  exact (identified_mctp l.ep m hm).mpr hn

theorem owns_sameLink (nid : U 32) (l : Life) (ep : Endpoint) (h : Owns nid l) (hs : SameLink l.ep ep) :
    Owns nid { l with ep := ep } := by
  obtain ⟨m, hm, hn, hh⟩ := h
  obtain ⟨n, hn'⟩ := hs.2.2.2 m hm
  refine ⟨m.advance n, hn', hn, ?_⟩
  rw [hs.1]
  exact hh

theorem fmapiSocket_owns (nid : U 32) (l : Life) (m : MctpTransport) (sock : ℤ) (h : Owns nid l)
    (hm : l.ep.transportData = some (.mctp m)) (hoff : l.ep.hasFmapi = false) : Owns nid (l.fmapiSocket m sock) := by
  obtain ⟨m', hm', hn, hh⟩ := h
  obtain rfl := TransportData.mctp.inj (Option.some.inj (hm.symm.trans hm'))
  rw [hoff] at hh
  have hcall := held_snoc l.calls (.socket .fmapi sock) _ hh
  by_cases hs : sock < 0
  · refine ⟨{ m with fmapiSd := sock }, by simp only [Life.fmapiSocket, if_pos hs], hn, ?_⟩
    simp only [Life.fmapiSocket, if_pos hs, hoff]
    exact hcall.trans (hold_failed _ _ sock hs)
  · refine ⟨{ m with fmapiSd := sock, fmapiAddr := sockaddrMctp m.nid m.eid mctpTypeCxlFmapi },
      by simp only [Life.fmapiSocket, if_neg hs], hn, ?_⟩
    simp only [Life.fmapiSocket, if_neg hs]
    exact hcall.trans (hold_opened _ _ sock (Int.not_lt.mp hs))

theorem enableFmapi_owns (nid : U 32) (l : Life) (sock : ℤ) (h : Owns nid l) :
    ∃ l', endpointEnableFmapi l sock = some l' ∧ Owns nid l' := by
  obtain ⟨m, hm, -⟩ := id h
  cases hon : l.ep.hasFmapi with
  | true => exact ⟨l, by rw [endpointEnableFmapi, if_pos hon], h⟩
  | false =>
    refine ⟨l.fmapiSocket m sock, ?_, fmapiSocket_owns nid l m sock h hm hon⟩
    rw [endpointEnableFmapi, hon, if_neg Bool.false_ne_true, hm]

/- The FM-API socket was the last one opened. -/
theorem disableFmapi_owns (nid : U 32) (l : Life) (h : Owns nid l) :
    ∃ l', endpointDisableFmapi l = some l' ∧ Owns nid l' := by
  obtain ⟨m, hm, hn, hh⟩ := id h
  cases hon : l.ep.hasFmapi with
  | false => exact ⟨l, by rw [endpointDisableFmapi, if_pos hon], h⟩
  | true =>
    rw [hon] at hh
    refine ⟨_, by rw [endpointDisableFmapi, hon, hm]; rfl, ?_⟩
    refine ⟨{ m with fmapiSd := -1, fmapiAddr := sockaddrZero }, rfl, hn, ?_⟩
    exact (held_snoc l.calls (.close .fmapi m.fmapiSd) _ hh).trans (hold_closed _ _ _)

theorem use_owns (o : ByteOrder) (nid : U 32) (hn : nid ≠ mockMagic) (l : Life) (op : LifeOp) (h : Owns nid l) :
    ∃ l', l.step o op = some l' ∧ Owns nid l' := by
  cases op with
  | enableFmapi sock => exact enableFmapi_owns nid l sock h
  | disableFmapi => exact disableFmapi_owns nid l h
  | command env ti set cmd pl rspSz rspMin =>
    obtain ⟨r, hr⟩ := command_defined o env l.ep ti set cmd pl rspSz rspMin (owns_identified nid l h hn)
    refine ⟨{ l with ep := r.st }, by simp only [Life.step, hr, Option.map_some], ?_⟩
    exact owns_sameLink nid l r.st h (sameLink_trans _ _ _ (armCciRequest_sameLink o l.ep set cmd pl)
      (sendCmdCci_sameLink o env _ ti _ rspSz rspMin r hr))

theorem opening_owns (o : ByteOrder) (nid : U 32) (eid : Byte) (sd : ℕ) (probeEnabled : Bool) (env : Env) (sock : ℤ)
    (l : Life) (h : (Opening.mctp nid eid sd probeEnabled env sock).run o = some l) : Owns nid l := by
  have h0 : Owns nid (mctpOpened nid eid sd) := by
    refine ⟨_, rfl, rfl, ?_⟩
    exact (held_snoc [] (.socket .cci sd) [] rfl).trans (hold_opened [] .cci sd (Int.natCast_nonneg sd))
  rw [opening_mctp_eq] at h
  split_ifs at h
  · exact Option.some.inj h ▸ h0
  · obtain ⟨ep, hsame, rfl | ⟨m, hm, rfl⟩⟩ := probeMctp_cases o env _ l sock h
    · exact owns_sameLink nid _ ep h0 hsame
    · exact fmapiSocket_owns nid ⟨ep, _⟩ m sock (owns_sameLink nid _ ep h0 hsame) hm hsame.1

/-! ### What is open in any slot -/

def Slot.Owns (nid : U 32) (s : Slot) : Prop :=
  match s.endpoint with
  | none => held s.calls = some []
  | some ep => Run.Owns nid ⟨ep, s.calls⟩

theorem openMctp_owns (o : ByteOrder) (nid : U 32) (eid : Byte) (hn : nid ≠ mockMagic) (probeEnabled : Bool)
    (sys : MctpSys) : ∃ r, openMctp o nid eid probeEnabled sys = some r ∧ Slot.Owns nid ⟨r.1, r.2⟩ := by
  unfold openMctp
  split_ifs with halloc hsd
  · exact ⟨_, rfl, rfl⟩
  · exact ⟨_, rfl, (held_snoc [] (.socket .cci sys.sd) [] rfl).trans (hold_failed [] .cci sys.sd hsd)⟩
  · cases hrun : (sys.opening nid eid probeEnabled).run o with
    | none => exact absurd ((opening_none_iff o nid eid _ probeEnabled _ _).mp hrun).1 hn
    | some l => exact ⟨_, rfl, opening_owns o nid eid _ probeEnabled _ _ l hrun⟩

theorem closeMctp_owns (nid : U 32) (hn : nid ≠ mockMagic) (l : Life) (h : Owns nid l) :
    ∃ calls, closeMctp l.ep = some calls ∧ held (l.calls ++ calls) = some [] := by
  have hid := owns_identified nid l h hn
  obtain ⟨m, hm, -, hh⟩ := h
  have hmock : ¬isMockEndpoint l.ep = true := fun hi => hid m hm ((isMockEndpoint_mctp l.ep m hm).mp hi)
  refine ⟨_, by rw [closeMctp, hm]; exact if_neg hmock, ?_⟩
  have hcci : ∀ calls, held calls = some [(.cci, m.sd)] → held (calls ++ [.close .cci m.sd]) = some [] := by
    intro calls hc
    exact (held_snoc calls (.close .cci m.sd) _ hc).trans (hold_closed [] .cci m.sd)
  cases hon : l.ep.hasFmapi with
  | false =>
    rw [hon] at hh
    exact hcci l.calls hh
  | true =>
    rw [hon] at hh
    rw [if_pos rfl, ← List.append_assoc]
    exact hcci _ ((held_snoc l.calls (.close .fmapi m.fmapiSd) _ hh).trans (hold_closed _ _ _))

/- The calls of an endpoint are judged by themselves if nothing was open
before them. -/
theorem slot_owns_append (nid : U 32) (before : List FdCall) (r : Option Endpoint × List FdCall)
    (hb : held before = some []) (h : Slot.Owns nid ⟨r.1, r.2⟩) : Slot.Owns nid ⟨r.1, before ++ r.2⟩ := by
  have happ : held (before ++ r.2) = held r.2 := held_append before r.2 [] hb
  obtain ⟨ep, calls⟩ := r
  cases ep with
  | none => exact happ.trans h
  | some ep =>
    obtain ⟨m, hm, hn, hh⟩ := h
    exact ⟨m, hm, hn, happ.trans hh⟩

theorem slot_step_owns (o : ByteOrder) (nid : U 32) (eid : Byte) (hn : nid ≠ mockMagic) (s : Slot) (op : SlotOp)
    (h : s.Owns nid) : ∃ s', s.step o nid eid op = some s' ∧ s'.Owns nid := by
  obtain ⟨ep, calls⟩ := s
  cases ep with
  | none =>
    cases op with
    | openMctp probeEnabled sys =>
      obtain ⟨r, hr, hown⟩ := openMctp_owns o nid eid hn probeEnabled sys
      refine ⟨⟨r.1, calls ++ r.2⟩, by simp only [Slot.step, hr, Option.map_some], ?_⟩
      exact slot_owns_append nid calls r h hown
    | use op => exact ⟨_, rfl, h⟩
    | close => exact ⟨_, rfl, h⟩
  | some ep =>
    cases op with
    | openMctp probeEnabled sys => exact ⟨_, rfl, h⟩
    | use op =>
      obtain ⟨l', hl', hown⟩ := use_owns o nid hn ⟨ep, calls⟩ op h
      exact ⟨⟨some l'.ep, l'.calls⟩, by simp only [Slot.step, hl', Option.map_some], hown⟩
    | close =>
      obtain ⟨more, hc, hheld⟩ := closeMctp_owns nid hn ⟨ep, calls⟩ h
      exact ⟨⟨none, calls ++ more⟩, by simp only [Slot.step, hc, Option.map_some], hheld⟩

theorem slotRun_owns (o : ByteOrder) (nid : U 32) (eid : Byte) (hn : nid ≠ mockMagic) (ops : List SlotOp) :
    ∃ s, slotRun o nid eid ops = some s ∧ s.Owns nid :=
  foldlM_defined (Slot.step o nid eid) (Slot.Owns nid) (slot_step_owns o nid eid hn) ops ⟨none, []⟩ rfl

/-- Over any sequence of opens, uses and closes of an MCTP endpoint, every close
is of a descriptor that is open, `has_fmapi` says whether the FM-API socket is,
and nothing is open without an endpoint. -/
theorem descriptors_accounted (o : ByteOrder) (nid : U 32) (eid : Byte) (hn : nid ≠ mockMagic) (ops : List SlotOp) :
    ∃ s h, slotRun o nid eid ops = some s ∧ held s.calls = some h ∧
      (∀ ep, s.endpoint = some ep → (ep.hasFmapi = true ↔ ∃ sd, (Sock.fmapi, sd) ∈ h)) ∧
      (s.endpoint = none → h = []) := by
  obtain ⟨⟨ep, calls⟩, hrun, hown⟩ := slotRun_owns o nid eid hn ops
  cases ep with
  | none =>
    refine ⟨_, [], hrun, hown, fun ep h => ?_, fun _ => rfl⟩
    cases h
  | some ep =>
    obtain ⟨m, -, -, hh⟩ := hown
    refine ⟨_, descriptors ep.hasFmapi m, hrun, hh, fun ep' h => ?_, fun h => absurd h (Option.some_ne_none ep)⟩
    obtain rfl := Option.some.inj h
    cases hon : ep.hasFmapi with
    | true => exact iff_of_true rfl ⟨m.fmapiSd, List.mem_cons_self⟩
    | false =>
      refine iff_of_false Bool.false_ne_true ?_
      rintro ⟨sd, hsd⟩
      have hpair := List.mem_singleton.mp hsd
      cases hpair

def busyLife : List SlotOp :=
  [.openMctp false ⟨true, true, -1, takesAll, -1⟩, .openMctp false ⟨true, true, 5, takesAll, -1⟩,
    .use (.enableFmapi (-1)), .use (.enableFmapi 6), .use .disableFmapi, .use (.enableFmapi 6), .close, .close]

theorem busyLife_accounted :
    slotRun .little 1 8 busyLife = some ⟨none, [.socket .cci (-1), .socket .cci 5, .socket .fmapi (-1),
      .socket .fmapi 6, .close .fmapi 6, .socket .fmapi 6, .close .fmapi 6, .close .cci 5]⟩ ∧
    ∃ s h, slotRun .little 1 8 busyLife = some s ∧ held s.calls = some h ∧
      (∀ ep, s.endpoint = some ep → (ep.hasFmapi = true ↔ ∃ sd, (Sock.fmapi, sd) ∈ h)) ∧
      (s.endpoint = none → h = []) :=
  ⟨rfl, descriptors_accounted .little 1 8 (by decide) busyLife⟩

end LibCxlmi.Run
