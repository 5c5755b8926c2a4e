import LibCxlmi.Run.Registry

/-!
# Duplicates and failed opens

The list of a context never has two MCTP endpoints of one network id and eid or
two mailboxes of one name. A failed open leaves it as it was. A refusal as a
duplicate is right unless a mock is taken for an MCTP endpoint.
-/

namespace LibCxlmi.Contract
open LibCxlmi.Word LibCxlmi.Cci LibCxlmi.Transport LibCxlmi.Run

/-- A failed open changes nothing, and a refused one met an endpoint of the same
kind and identity. -/
def Right (e : OpenEvent) : Prop :=
  (e.result ≠ .opened → e.after = e.before) ∧ (e.result = .duplicate → ∃ r ∈ e.before, r.identity = e.asked)

/- The calls that go wrong: opening the MCTP endpoint a mock looks like, and
probing or closing an MCTP endpoint that is taken for a mock. -/
def Safe (ctx : Ctx) : CtxOp → Prop
  | .openMctp nid eid sys =>
      (∃ r ∈ ctx.endpoints, r.identity = .mctp nid eid) ∨
        ¬(nid = mockMagic ∧ ((eid = 0 ∧ ∃ r ∈ ctx.endpoints, r.identity = .mock) ∨
          (sys.Ready ∧ ctx.probeEnabled = true ∧ sys.probe.alloc .response 30 = true)))
  | .close i => ∀ r, ctx.endpoints[i]? = some r → r.ep.Identified
  | _ => True

theorem unique_add (ctx : Ctx) (r : Registered) (h : ctx.Unique)
    (hnew : ∀ s ∈ ctx.endpoints, r.identity = s.identity → r.identity = .mock) : (ctx.add r).Unique :=
  List.pairwise_cons.mpr ⟨hnew, h⟩

theorem right_failed (asked : Identity) (es : List Registered) : Right ⟨asked, es, .failed, es⟩ :=
  ⟨fun _ => rfl, fun h => by cases h⟩

theorem right_opened (asked : Identity) (es es' : List Registered) : Right ⟨asked, es, .opened, es'⟩ :=
  ⟨fun h => absurd rfl h, fun h => by cases h⟩

/-- The call is defined, the list stays free of duplicates, and every open it
makes is right. -/
def GoesRight (r : Option (Ctx × List OpenEvent)) : Prop :=
  ∃ ctx evs, r = some (ctx, evs) ∧ ctx.Unique ∧ ∀ e ∈ evs, Right e

theorem goesRight_logged (asked : Identity) (ctx ctx' : Ctx) (res : OpenResult) (hu : ctx'.Unique)
    (hr : Right ⟨asked, ctx.endpoints, res, ctx'.endpoints⟩) : GoesRight (logged asked ctx (some (ctx', res))) := by
  refine ⟨ctx', _, rfl, hu, fun e he => ?_⟩
  rw [List.mem_singleton.mp he]
  exact hr

theorem openDev_goesRight (ctx : Ctx) (name : Bytes) (sys : DevSys) (hu : ctx.Unique) :
    GoesRight (logged (.mailbox (some name)) ctx (cxlmiOpen ctx name sys)) := by
  rcases cxlmiOpen_cases ctx name sys with ⟨h, hdup⟩ | h | ⟨r, h, hid, hnew⟩
  · rw [h]
    exact goesRight_logged _ ctx ctx _ hu ⟨fun _ => rfl, fun _ => hdup⟩
  · rw [h]
    exact goesRight_logged _ ctx ctx _ hu (right_failed _ _)
  · rw [h]
    refine goesRight_logged _ ctx _ _ (unique_add ctx r hu fun s hs heq => ?_) (right_opened _ _ _)
    exact absurd (heq.symm.trans hid) (hnew s hs)

theorem scanEntries_goesRight (es : List DirEntry) (ctx : Ctx) (hu : ctx.Unique) : GoesRight (scanEntries es ctx) := by
  induction es generalizing ctx with
  | nil => exact ⟨ctx, [], rfl, hu, fun e he => by cases he⟩
  | cons e es ih =>
    unfold scanEntries
    split_ifs
    · exact ih ctx hu
    · obtain ⟨c, ev, hopen, huc, hev⟩ := openDev_goesRight ctx e.name e.sys hu
      obtain ⟨c', evs, hrest, huc', hevs⟩ := ih c huc
      refine ⟨c', ev ++ evs, ?_, huc', fun x hx => ?_⟩
      · simp only [hopen, Option.bind_some, hrest, Option.map_some]
      · rcases List.mem_append.mp hx with h | h
        · exact hev x h
        · exact hevs x h

theorem scan_goesRight (o : ByteOrder) (ctx : Ctx) (dir : Dir) (hu : ctx.Unique) :
    GoesRight ((CtxOp.scan dir).step o ctx) := by
  cases dir with
  | missing => exact ⟨ctx, [], rfl, hu, fun e he => by cases he⟩
  | unreadable => exact ⟨ctx, [], rfl, hu, fun e he => by cases he⟩
  | entries es =>
    obtain ⟨c, evs, h, huc, hevs⟩ := scanEntries_goesRight es ctx hu
    refine ⟨c, evs, ?_, huc, hevs⟩
    simp only [CtxOp.step, cxlmiScan, h, Option.map_some]

theorem openMock_goesRight (o : ByteOrder) (ctx : Ctx) (sys : MockSys) (hu : ctx.Unique) :
    GoesRight ((CtxOp.openMock sys).step o ctx) := by
  rw [CtxOp.step]
  rcases cxlmiOpenMock_cases ctx sys with h | ⟨r, h, hid⟩
  · rw [h]
    exact goesRight_logged _ ctx ctx _ hu (right_failed _ _)
  · rw [h]
    exact goesRight_logged _ ctx _ _ (unique_add ctx r hu fun _ _ _ => hid) (right_opened _ _ _)

theorem close_goesRight_iff (o : ByteOrder) (ctx : Ctx) (i : ℕ) (hu : ctx.Unique) :
    GoesRight ((CtxOp.close i).step o ctx) ↔ Safe ctx (.close i) := by
  rw [CtxOp.step]
  rcases cxlmiClose_cases ctx i with ⟨h, r, hr, hbad⟩ | ⟨h, hgood⟩
  · refine iff_of_false ?_ fun hs => hbad (hs r hr)
    rintro ⟨c, evs, hsome, -⟩
    rw [h] at hsome
    cases hsome
  · refine iff_of_true ⟨_, [], by rw [h]; rfl, ?_, fun e he => by cases he⟩ hgood
    exact hu.sublist (List.eraseIdx_sublist ctx.endpoints i)

theorem openMctp_goesRight_iff (o : ByteOrder) (ctx : Ctx) (nid : U 32) (eid : Byte) (sys : MctpSys)
    (hu : ctx.Unique) :
    GoesRight ((CtxOp.openMctp nid eid sys).step o ctx) ↔ Safe ctx (.openMctp nid eid sys) := by
  rw [CtxOp.step, Safe]
  rcases cxlmiOpenMctp_cases o ctx nid eid sys with
    ⟨h, r, hr, hid⟩ | ⟨hnone, ⟨h, hready⟩ | ⟨h, hready, hn, hp, ha⟩ | ⟨r, h, hready, hid, hok⟩⟩
  · by_cases hreal : ∃ r ∈ ctx.endpoints, r.identity = .mctp nid eid
    · refine iff_of_true ?_ (Or.inl hreal)
      rw [h]
      exact goesRight_logged _ ctx ctx _ hu ⟨fun _ => rfl, fun _ => hreal⟩
    · -- refused because of a mock
      obtain ⟨hmock, hn, he⟩ := hid.resolve_left fun hid => hreal ⟨r, hr, hid⟩
      refine iff_of_false ?_ fun hs => hs.resolve_left hreal ⟨hn, Or.inl ⟨he, r, hr, hmock⟩⟩
      rintro ⟨c, evs, hsome, -, hevs⟩
      rw [h] at hsome
      obtain ⟨rfl, rfl⟩ := Prod.mk.inj (Option.some.inj hsome)
      exact hreal ((hevs _ (List.mem_singleton.mpr rfl)).2 rfl)
  · refine iff_of_true ?_ (Or.inr ?_)
    · rw [h]
      exact goesRight_logged _ ctx ctx _ hu (right_failed _ _)
    · rintro ⟨hn, ⟨he, r, hr, hmock⟩ | ⟨hr, -⟩⟩
      · exact hnone ⟨r, hr, Or.inr ⟨hmock, hn, he⟩⟩
      · exact hready hr
  · refine iff_of_false ?_ fun hs => ?_
    · rintro ⟨c, evs, hsome, -⟩
      rw [h] at hsome
      cases hsome
    · rcases hs with ⟨r, hr, hid⟩ | hs
      · exact hnone ⟨r, hr, Or.inl hid⟩
      · exact hs ⟨hn, Or.inr ⟨hready, hp, ha⟩⟩
  · refine iff_of_true ?_ (Or.inr ?_)
    · rw [h]
      refine goesRight_logged _ ctx _ _ (unique_add ctx r hu fun s hs heq => ?_) (right_opened _ _ _)
      exact absurd ⟨s, hs, Or.inl (heq.symm.trans hid)⟩ hnone
    · rintro ⟨hn, ⟨he, s, hs, hmock⟩ | ⟨-, hp, ha⟩⟩
      · exact hnone ⟨s, hs, Or.inr ⟨hmock, hn, he⟩⟩
      · exact hok ⟨hn, hp, ha⟩

theorem step_goesRight_iff (o : ByteOrder) (ctx : Ctx) (op : CtxOp) (hu : ctx.Unique) :
    GoesRight (op.step o ctx) ↔ Safe ctx op := by
  cases op with
  | openDev name sys => exact iff_of_true (openDev_goesRight ctx name sys hu) trivial
  | openMctp nid eid sys => exact openMctp_goesRight_iff o ctx nid eid sys hu
  | openMock sys => exact iff_of_true (openMock_goesRight o ctx sys hu) trivial
  | scan dir => exact iff_of_true (scan_goesRight o ctx dir hu) trivial
  | close i => exact close_goesRight_iff o ctx i hu

/- A call that is refused wrongly leaves the list alone, so the list stays free
of duplicates in any case. -/
theorem step_unique (o : ByteOrder) (ctx ctx' : Ctx) (op : CtxOp) (hu : ctx.Unique)
    (h : (op.step o ctx).map Prod.fst = some ctx') : ctx'.Unique := by
  by_cases hs : Safe ctx op
  · obtain ⟨c, es, hc, huc, -⟩ := (step_goesRight_iff o ctx op hu).mpr hs
    rw [hc] at h
    exact Option.some.inj h ▸ huc
  · cases op with
    | openMctp nid eid sys =>
      rw [CtxOp.step] at h
      rcases cxlmiOpenMctp_cases o ctx nid eid sys with ⟨hd, -⟩ | ⟨hnone, ⟨hf, -⟩ | ⟨hb, -⟩ | ⟨r, hr, -, hid, -⟩⟩
      · rw [hd] at h
        exact Option.some.inj h ▸ hu
      · rw [hf] at h
        exact Option.some.inj h ▸ hu
      · rw [hb] at h
        cases h
      · rw [hr] at h
        rw [← Option.some.inj h]
        exact unique_add ctx r hu fun s hs heq => absurd ⟨s, hs, Or.inl (heq.symm.trans hid)⟩ hnone
    | close i =>
      rw [CtxOp.step] at h
      rcases cxlmiClose_cases ctx i with ⟨hb, -⟩ | ⟨-, hgood⟩
      · rw [hb] at h
        cases h
      · exact absurd hgood hs
    | openDev name sys => exact absurd trivial hs
    | openMock sys => exact absurd trivial hs
    | scan dir => exact absurd trivial hs

theorem registry_unique (o : ByteOrder) (probeEnabled : Bool) (ops : List CtxOp) (ctx : Ctx)
    (h : registry o probeEnabled ops = some ctx) : ctx.Unique := by
  have h0 : Ctx.Unique ⟨probeEnabled, []⟩ := List.Pairwise.nil
  exact foldlM_invariant _ Ctx.Unique (fun s op s' hs hstep => step_unique o s s' op hs hstep) ops _ ctx h0 h

/-- After any calls on a new context the list is free of duplicates, and the
next call goes right exactly when it is none of those above. -/
theorem registry_right_iff (o : ByteOrder) (probeEnabled : Bool) (ops : List CtxOp) (ctx : Ctx)
    (h : registry o probeEnabled ops = some ctx) (op : CtxOp) :
    ctx.Unique ∧
      ((∃ ctx' evs, op.step o ctx = some (ctx', evs) ∧ ctx'.Unique ∧ ∀ e ∈ evs, Right e) ↔ Safe ctx op) := by
  have hu := registry_unique o probeEnabled ops ctx h
  exact ⟨hu, step_goesRight_iff o ctx op hu⟩

/- A mock, and system calls that succeed. -/
def mockReady : MockSys := ⟨true, true⟩

def mctpReady : MctpSys := ⟨true, true, 5, takesAll, 6⟩

theorem two_mctp_right :
    ∃ ctx, registry .little false [.openMctp 1 8 mctpReady, .openMock mockReady] = some ctx ∧ ctx.Unique ∧
      ∃ ctx' evs, (CtxOp.openMctp 1 9 mctpReady).step .little ctx = some (ctx', evs) ∧ ctx'.Unique ∧
        ∀ e ∈ evs, Right e := by
  obtain ⟨ctx, h⟩ : ∃ ctx, registry .little false [.openMctp 1 8 mctpReady, .openMock mockReady] = some ctx := ⟨_, rfl⟩
  obtain ⟨hu, hiff⟩ := registry_right_iff .little false _ ctx h (.openMctp 1 9 mctpReady)
  exact ⟨ctx, h, hu, hiff.mpr (Or.inr fun hn => absurd hn.1 (by decide))⟩

/- With a mock on the list the MCTP endpoint 0x4D4F434B:0 is refused, although
no MCTP endpoint was opened before; without it, that endpoint can be opened but
not closed. -/
theorem mock_refuses_mctp :
    (∃ ctx ctx' e, registry .little false [.openMock mockReady] = some ctx ∧
      (CtxOp.openMctp mockMagic 0 mctpReady).step .little ctx = some (ctx', [e]) ∧ e.result = .duplicate ∧
      e.asked = .mctp mockMagic 0 ∧ e.before.map Registered.identity = [.mock]) ∧
    ∃ ctx, registry .little false [.openMctp mockMagic 0 mctpReady] = some ctx ∧
      (CtxOp.close 0).step .little ctx = none :=
  ⟨⟨_, _, _, rfl, rfl, rfl, rfl, rfl⟩, ⟨_, rfl, rfl⟩⟩

end LibCxlmi.Contract
