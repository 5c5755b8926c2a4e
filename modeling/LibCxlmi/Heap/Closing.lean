import LibCxlmi.Heap.Programs
import Mathlib.Tactic.Abel

/-!
# Closing gives everything back

The programs on one endpoint are run on the memory of the endpoint and any other memory
beside it, which they leave alone.
-/

namespace LibCxlmi.Heap
open LibCxlmi.Word LibCxlmi.Cci LibCxlmi.Transport LibCxlmi.Run

variable {s : Live} {t : Slot} {a : Addr} {k : Kind}

theorem mem_self_add (a : Addr) (k : Kind) (s : Live) : (a, k) ∈ ({(a, k)} : Live) + s :=
  Multiset.mem_cons_self (a, k) s

theorem queueCells_cons (q : Addr × Addr) (qs : List (Addr × Addr)) :
    queueCells (q :: qs) = {(q.1, .response)} + bytesAt q.2 + queueCells qs := by
  rw [queueCells, List.map_cons, List.sum_cons]
  rfl

theorem mem_queueCells {q : Addr × Addr} {qs : List (Addr × Addr)} (h : q ∈ qs) :
    (q.1, Kind.response) ∈ queueCells qs := by
  induction qs with
  | nil => cases h
  | cons p qs ih =>
    rw [queueCells_cons, add_assoc]
    rcases List.mem_cons.mp h with rfl | h
    · exact mem_self_add ..
    · exact Multiset.mem_add.mpr (Or.inr (Multiset.mem_add.mpr (Or.inr (ih h))))

theorem isMock_ok (hep : (t.ep, .endpoint) ∈ s) (ht : ∀ c ∈ t.transport, c ∈ s) :
    isMock t s = .ok (isMockEndpoint t.reg.ep, s) := by
  rw [isMock, bind_ok (use_ok hep), bind_ok (lookAt_ok ht)]
  rfl

theorem drain_ok {mock : Addr} {qs : List (Addr × Addr)} (h : Live.Ok (queueCells qs + s)) (hm : (mock, .mock) ∈ s) :
    drain mock qs (queueCells qs + s) = .ok ((), s) := by
  induction qs with
  | nil => rw [queueCells, List.map_nil, List.sum_nil, zero_add]; rfl
  | cons q qs ih =>
    have hlook : ∀ c ∈ (mock, Kind.mock) :: (q :: qs).map fun q => (q.1, Kind.response),
        c ∈ queueCells (q :: qs) + s := by
      intro c hc
      rcases List.mem_cons.mp hc with rfl | hc
      · exact Multiset.mem_add.mpr (Or.inr hm)
      · obtain ⟨p, hp, rfl⟩ := List.mem_map.mp hc
        exact Multiset.mem_add.mpr (Or.inl (mem_queueCells hp))
    have hsplit : queueCells (q :: qs) + s = bytesAt q.2 + ({(q.1, .response)} + (queueCells qs + s)) := by
      rw [queueCells_cons]
      abel
    rw [drain, bind_ok (lookAt_ok hlook), hsplit]
    rw [hsplit] at h
    rw [bind_ok (free_bytes h), bind_ok (free_ok h.of_add)]
    exact ih h.of_add.of_add

theorem owned_mock {m : MockTransport} (h : t.reg.ep.transportData = some (.mock m)) :
    t.owned = {(t.data, .mock)} + (bytesAt t.last + queueCells t.queue) := by
  rw [Slot.owned, h]

theorem freeResponses_ok (h : Live.Ok (queueCells t.queue + s)) (hm : (t.data, .mock) ∈ s) :
    freeResponses t (queueCells t.queue + s) = .ok ((), s) := by
  have hlook : ∀ c ∈ t.nodes, c ∈ queueCells t.queue + s := by
    intro c hc
    rcases List.mem_cons.mp hc with rfl | hc
    · exact Multiset.mem_add.mpr (Or.inr hm)
    · obtain ⟨p, hp, rfl⟩ := List.mem_map.mp hc
      exact Multiset.mem_add.mpr (Or.inl (mem_queueCells hp))
  rw [freeResponses, bind_ok (lookAt_ok hlook)]
  exact drain_ok h hm

theorem closeTransport_ok (h : Live.Ok (t.owned + s)) (hep : (t.ep, .endpoint) ∈ s) (hid : t.reg.ep.Identified) :
    closeTransport t (t.owned + s) = .ok ((), s) := by
  have hep' : (t.ep, Kind.endpoint) ∈ t.owned + s := Multiset.mem_add.mpr (Or.inr hep)
  cases hd : t.reg.ep.transportData with
  | none =>
    have hmock : isMockEndpoint t.reg.ep = false := by rw [isMockEndpoint, hd]
    have hown : t.owned = bytesAt t.devname := by rw [Slot.owned, hd]
    have hlook : ∀ c ∈ t.transport, c ∈ t.owned + s := by simp [Slot.transport, hd]
    rw [closeTransport, bind_ok (isMock_ok hep' hlook), hmock, if_neg Bool.false_ne_true, if_neg (not_not.mpr hd)]
    rw [hown] at h ⊢
    exact free_bytes h
  | some d =>
    cases d with
    | mctp m =>
      have hmock : isMockEndpoint t.reg.ep = false := by
        rw [isMockEndpoint, hd]
        exact beq_eq_false_iff_ne.mpr (hid m hd)
      have hown : t.owned = {(t.data, .mctp)} := by rw [Slot.owned, hd]
      have hlook : ∀ c ∈ t.transport, c ∈ t.owned + s := by simp [Slot.transport, hd, hown]
      have hsome : t.reg.ep.transportData ≠ none := hd ▸ Option.some_ne_none _
      rw [closeTransport, bind_ok (isMock_ok hep' hlook), hmock, if_neg Bool.false_ne_true, if_pos hsome, mctpClose]
      rw [hown] at h ⊢
      rw [bind_ok (use_ok (mem_self_add ..)), bind_ok (free_ok h)]
      exact use_ok hep
    | mock m =>
      have hmock : isMockEndpoint t.reg.ep = true := by rw [isMockEndpoint, hd]
      have hown := owned_mock hd
      have hlook : ∀ c ∈ t.transport, c ∈ t.owned + s := by simp [Slot.transport, hd, hown]
      have hsplit : t.owned + s = queueCells t.queue + (bytesAt t.last + ({(t.data, .mock)} + s)) := by
        rw [hown]
        abel
      have hm : (t.data, Kind.mock) ∈ bytesAt t.last + ({(t.data, .mock)} + s) :=
        Multiset.mem_add.mpr (Or.inr (mem_self_add ..))
      rw [closeTransport, bind_ok (isMock_ok hep' hlook), hmock, if_pos rfl, mockClose]
      rw [hsplit] at h ⊢
      rw [bind_ok (freeResponses_ok h hm), bind_ok (use_ok hm), bind_ok (free_bytes h.of_add),
        bind_ok (free_ok h.of_add.of_add)]
      exact use_ok hep

/-! ### An endpoint among others -/

variable {w : World} {us vs : List Slot}

theorem cells_split (hts : w.slots = us ++ t :: vs) :
    w.cells = t.cells + ({ w with slots := us ++ vs } : World).cells := by
  simp only [World.cells, hts, List.map_append, List.map_cons, List.sum_append, List.sum_cons]
  abel

theorem mem_cells {c : Cell} (ht : t ∈ w.slots) (hc : c ∈ t.cells) : c ∈ w.cells := by
  obtain ⟨us, vs, hts⟩ := List.append_of_mem ht
  rw [cells_split hts]
  exact Multiset.mem_add.mpr (Or.inl hc)

theorem nodes_live (w : World) : ∀ c ∈ w.nodes, c ∈ w.cells := by
  intro c hc
  rcases List.mem_cons.mp hc with rfl | hc
  · exact mem_self_add ..
  · obtain ⟨t, ht, rfl⟩ := List.mem_map.mp hc
    exact mem_cells ht (mem_self_add ..)

theorem closeSlot_ok (h : Live.Ok (t.cells + s)) (hid : t.reg.ep.Identified)
    (hnodes : ∀ c ∈ w.nodes, c ∈ ({(t.ep, .endpoint)} : Live) + s) : closeSlot w t (t.cells + s) = .ok ((), s) := by
  have hsplit : t.cells + s = t.owned + ({(t.ep, .endpoint)} + s) := by
    rw [Slot.cells]
    abel
  rw [hsplit] at h ⊢
  rw [closeSlot, bind_ok (closeTransport_ok h (mem_self_add ..) hid), bind_ok (lookAt_ok hnodes)]
  exact free_ok h.of_add

theorem nodes_split (hts : w.slots = us ++ t :: vs) :
    ∀ c ∈ w.nodes, c ∈ ({(t.ep, .endpoint)} : Live) + ({ w with slots := us ++ vs } : World).cells := by
  intro c hc
  have hrest := nodes_live { w with slots := us ++ vs }
  simp only [World.nodes, hts, List.map_append, List.map_cons, List.mem_cons, List.mem_append] at hc hrest
  rw [Multiset.mem_add, Multiset.mem_singleton]
  grind

/-- Closing an endpoint frees what it has, and nothing else. -/
theorem close_ok (h : w.cells.Ok) (hts : w.slots = us ++ t :: vs) (hid : t.reg.ep.Identified) :
    closeSlot w t w.cells = .ok ((), ({ w with slots := us ++ vs } : World).cells) := by
  rw [cells_split hts] at h ⊢
  exact closeSlot_ok h hid (nodes_split hts)

/- The loop of `cxlmi_free_ctx`, with the endpoints `ts` still open. -/
theorem closeAll_ok {ctx : Addr} {probeEnabled : Bool} (ts : List Slot)
    (h : Live.Ok (World.cells ⟨ctx, probeEnabled, ts⟩)) (hid : ∀ t ∈ ts, t.reg.ep.Identified) :
    closeAll ctx probeEnabled ts (World.cells ⟨ctx, probeEnabled, ts⟩) =
      .ok ((), World.cells ⟨ctx, probeEnabled, []⟩) := by
  induction ts with
  | nil => rfl
  | cons t ts ih =>
    have hts : World.slots ⟨ctx, probeEnabled, t :: ts⟩ = [] ++ t :: ts := rfl
    have hclose : closeSlot ⟨ctx, probeEnabled, t :: ts⟩ t (World.cells ⟨ctx, probeEnabled, t :: ts⟩) =
        .ok ((), World.cells ⟨ctx, probeEnabled, ts⟩) := close_ok h hts (hid t List.mem_cons_self)
    rw [closeAll, bind_ok hclose, bind_ok (lookAt_ok (nodes_live _))]
    rw [cells_split hts] at h
    exact ih h.of_add fun u hu => hid u (List.mem_cons_of_mem t hu)

/-- Freeing the context closes what is still open and leaves nothing behind. -/
theorem freeCtx_ok (h : w.cells.Ok) (hid : ∀ t ∈ w.slots, t.reg.ep.Identified) :
    cxlmiFreeCtx w w.cells = .ok ((), 0) := by
  have hctx : Live.Ok ({(w.ctx, .ctx)} + 0) := by
    refine ⟨Multiset.nodup_singleton w.ctx, fun h0 => h.null ?_⟩
    have hz : 0 = w.ctx := Multiset.mem_singleton.mp h0
    exact hz ▸ mem_places (mem_self_add ..)
  rw [cxlmiFreeCtx, bind_ok (lookAt_ok (nodes_live w)), bind_ok (closeAll_ok w.slots h hid)]
  exact free_ok hctx

end LibCxlmi.Heap
