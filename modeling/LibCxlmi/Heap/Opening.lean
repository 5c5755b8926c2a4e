import LibCxlmi.Heap.Closing

/-!
# Opening takes memory or leaves none behind

An open that fails half way gives back what it took. The allocator is taken to return null
or memory that is not in use.
-/

namespace LibCxlmi.Heap
open LibCxlmi.Word LibCxlmi.Cci LibCxlmi.Transport LibCxlmi.Run

/-- Transport data is taken for what it is, and a mock has FM-API. A response of a mock has
a block, and one for its payload unless that is empty. -/
structure Slot.Sound (t : Slot) : Prop where
  identified : t.reg.ep.Identified
  fmapi : ∀ m, t.reg.ep.transportData = some (.mock m) → t.reg.ep.hasFmapi = true
  paired : List.Forall₂ (fun r q => r.payload = [] ↔ q.2 = 0) (responsesOf t.reg.ep) t.queue

structure World.Ok (w : World) : Prop where
  live : w.cells.Ok
  sound : ∀ t ∈ w.slots, t.Sound

/-- The program opens nothing and leaves memory as it was, or opens an endpoint of which
`P` holds at `ep`. -/
def Opens (p : Act (Addr × World)) (w : World) (ep : Addr) (P : Endpoint → Prop) : Prop :=
  p w.cells = .ok ((0, w), w.cells) ∨
    ∃ t : Slot, p w.cells = .ok ((ep, w.add t), (w.add t).cells) ∧ t.ep = ep ∧ ep ∉ w.cells.places ∧ P t.reg.ep ∧
      (w.add t).Ok

variable {w : World} {t : Slot} {a b : Addr} {o : ByteOrder}

theorem cells_add (w : World) (t : Slot) : (w.add t).cells = t.cells + w.cells := by
  have hts : (w.add t).slots = [] ++ t :: w.slots := rfl
  rw [cells_split hts]
  rfl

theorem cells_blank (w : World) (a : Addr) : (w.add (blank a)).cells = {(a, .endpoint)} + w.cells := by
  rw [cells_add]
  rfl

theorem World.Ok.add (hw : w.Ok) (h : Live.Ok (t.cells + w.cells)) (ht : t.Sound) : (w.add t).Ok :=
  ⟨cells_add w t ▸ h, List.forall_mem_cons.mpr ⟨ht, hw.sound⟩⟩

theorem anySlot_ok {s : Live} {test : Slot → Act Bool} {found : Slot → Bool} {ts : List Slot}
    (hep : ∀ t ∈ ts, (t.ep, Kind.endpoint) ∈ s) (htest : ∀ t ∈ ts, test t s = .ok (found t, s)) :
    anySlot test ts s = .ok (ts.any found, s) := by
  induction ts with
  | nil => rfl
  | cons t ts ih =>
    rw [anySlot, bind_ok (use_ok (hep t List.mem_cons_self)), bind_ok (htest t List.mem_cons_self), List.any_cons]
    cases found t with
    | true => rfl
    | false => exact ih (fun u hu => hep u (List.mem_cons_of_mem t hu)) fun u hu => htest u (List.mem_cons_of_mem t hu)

/- What the loops against duplicates look at is there. -/
theorem anySlot_world {test : Slot → Act Bool} {found : Slot → Bool} {look : Slot → List Cell}
    (htest : ∀ t, test t = lookAt (look t) >>= fun _ => pure (found t)) (hlook : ∀ t, ∀ c ∈ look t, c ∈ t.cells) :
    anySlot test w.slots w.cells = .ok (w.slots.any found, w.cells) := by
  refine anySlot_ok (fun t ht => mem_cells ht (mem_self_add ..)) fun t ht => ?_
  rw [htest t, bind_ok (lookAt_ok fun c hc => mem_cells ht (hlook t c hc))]
  rfl

theorem transport_live (t : Slot) : ∀ c ∈ t.transport, c ∈ t.cells := by
  intro c hc
  unfold Slot.transport at hc
  unfold Slot.cells Slot.owned
  split at hc
  · cases hc
  · rw [List.mem_singleton.mp hc]
    simp
  · rw [List.mem_singleton.mp hc]
    simp

theorem name_live (t : Slot) : ∀ c ∈ t.name, c ∈ t.cells := by
  intro c hc
  unfold Slot.name at hc
  split_ifs at hc with h
  · rw [List.mem_singleton.mp hc]
    simp [Slot.cells, Slot.owned, h.1, bytesAt, h.2]
  · cases hc

theorem closeFailed_ok (h : Live.Ok ({(a, .endpoint)} + w.cells)) :
    closeFailed w a ({(a, .endpoint)} + w.cells) = .ok ((0, w), w.cells) := by
  have hts : (w.add (blank a)).slots = [] ++ blank a :: w.slots := rfl
  have hid : (blank a).reg.ep.Identified := identified_of_not_mctp _ fun m hm => by cases hm
  rw [← cells_blank] at h ⊢
  rw [closeFailed, bind_ok (close_ok h hts hid)]
  rfl

theorem blank_nodes (w : World) (a : Addr) : ∀ c ∈ (w.add (blank a)).nodes, c ∈ ({(a, .endpoint)} : Live) + w.cells :=
  cells_blank w a ▸ nodes_live (w.add (blank a))

/- The endpoint is on the list, and there is nothing to it yet. -/
theorem newEndpoint_opens {P : Endpoint → Prop} {test : Slot → Act Bool} {found : Slot → Bool}
    {look : Slot → List Cell} {rest : Addr → Act (Addr × World)} (hw : w.Ok)
    (htest : ∀ t, test t = lookAt (look t) >>= fun _ => pure (found t)) (hlook : ∀ t, ∀ c ∈ look t, c ∈ t.cells)
    (hfresh : w.cells.Fresh a)
    (hrest : Live.Ok ({(a, .endpoint)} + w.cells) → rest a ({(a, .endpoint)} + w.cells) = .ok ((0, w), w.cells) ∨
      ∃ t : Slot, rest a ({(a, .endpoint)} + w.cells) = .ok ((a, w.add t), t.cells + w.cells) ∧ t.ep = a ∧
        P t.reg.ep ∧ Live.Ok (t.cells + w.cells) ∧ t.Sound) : Opens (newEndpoint w test a rest) w a P := by
  have hctx : (w.ctx, Kind.ctx) ∈ w.cells := mem_self_add ..
  unfold Opens
  rw [newEndpoint, bind_ok (use_ok hctx), bind_ok (anySlot_world htest hlook)]
  split_ifs with hdup
  · exact Or.inl rfl
  by_cases h0 : a = 0
  · rw [h0, bind_ok alloc_null]
    exact Or.inl rfl
  have ha := hfresh.resolve_left h0
  rw [bind_ok (alloc_ok h0 ha), if_neg h0, bind_ok (lookAt_ok (blank_nodes w a))]
  rcases hrest (hw.live.alloc h0 ha) with hno | ⟨t, hrun, hep, hP, hok, hsound⟩
  · exact Or.inl hno
  · exact Or.inr ⟨t, cells_add w t ▸ hrun, hep, ha, hP, hw.add hok hsound⟩

theorem openDev_opens (hw : w.Ok) (devname : Bytes) (sys : DevCalls) (hf : w.cells.FreshPair sys.ep sys.devname) :
    Opens (cxlmiOpen w devname sys) w sys.ep (· = ⟨none, sys.fd, w.probeEnabled⟩) := by
  refine newEndpoint_opens hw (fun _ => rfl) name_live hf.1 fun hok => ?_
  by_cases hfd : sys.fd < 0
  · rw [if_pos hfd]
    exact Or.inl (closeFailed_ok hok)
  rw [if_neg hfd]
  by_cases h1 : sys.devname = 0
  · rw [h1, bind_ok alloc_null, if_pos rfl]
    exact Or.inl (closeFailed_ok hok)
  have hname : sys.devname ∉ Live.places ({(sys.ep, .endpoint)} + w.cells) := hf.second.resolve_left h1
  have hcells : (deviceSlot w devname sys).cells + w.cells =
      {(sys.devname, .bytes)} + ({(sys.ep, .endpoint)} + w.cells) := by
    have hown : (deviceSlot w devname sys).owned = {(sys.devname, .bytes)} := if_neg h1
    rw [Slot.cells, hown]
    show {(sys.ep, Kind.endpoint)} + _ + _ = _
    abel
  have hlook : ∀ c ∈ [(sys.ep, Kind.endpoint), (w.ctx, Kind.ctx)],
      c ∈ {(sys.devname, Kind.bytes)} + ({(sys.ep, Kind.endpoint)} + w.cells) := by
    simp [World.cells]
  refine Or.inr ⟨deviceSlot w devname sys, ?_, rfl, rfl, hcells ▸ hok.alloc h1 hname, ?_⟩
  · rw [bind_ok (alloc_ok h1 hname), if_neg h1, bind_ok (lookAt_ok hlook), hcells]
    rfl
  · exact ⟨identified_of_not_mctp _ (fun m hm => by cases hm), (fun m hm => by cases hm), .nil⟩

/- An MCTP endpoint that is opened is taken for one. -/
theorem opening_sound {netid : U 32} {eid : Byte} {sd : ℕ} {probeEnabled : Bool} {env : Env} {sock : ℤ} {l : Life}
    (h : (Opening.mctp netid eid sd probeEnabled env sock).run o = some l) (hn : netid ≠ mockMagic) :
    ∃ m, l.ep.transportData = some (.mctp m) ∧ m.nid ≠ mockMagic := by
  obtain ⟨m, hm, hnid, -⟩ := opening_identity o netid eid sd probeEnabled env sock l h
  exact ⟨m, hm, hnid ▸ hn⟩

theorem openMctp_opens (hw : w.Ok) (netid : U 32) (eid : Byte) (sys : MctpCalls)
    (hf : w.cells.FreshPair sys.ep sys.mctp) (hn : netid ≠ mockMagic) :
    Opens (cxlmiOpenMctp o w netid eid sys) w sys.ep fun e =>
      ((sys.opening netid eid w.probeEnabled).run o).map Life.ep = some e := by
  refine newEndpoint_opens hw (fun _ => rfl) transport_live hf.1 fun hok => ?_
  by_cases h1 : sys.mctp = 0
  · rw [h1, bind_ok alloc_null, if_pos rfl]
    exact Or.inl (closeFailed_ok hok)
  have hmctp : sys.mctp ∉ Live.places ({(sys.ep, .endpoint)} + w.cells) := hf.second.resolve_left h1
  have hok' : Live.Ok ({(sys.mctp, .mctp)} + ({(sys.ep, .endpoint)} + w.cells)) := hok.alloc h1 hmctp
  rw [bind_ok (alloc_ok h1 hmctp), if_neg h1]
  by_cases hsd : sys.sd < 0
  · rw [if_pos hsd, bind_ok (free_ok hok')]
    exact Or.inl (closeFailed_ok hok)
  rw [if_neg hsd]
  have hlook : ∀ c ∈ [(sys.mctp, Kind.mctp), (sys.ep, Kind.endpoint), (w.ctx, Kind.ctx)],
      c ∈ {(sys.mctp, Kind.mctp)} + ({(sys.ep, Kind.endpoint)} + w.cells) := by
    simp [World.cells]
  rw [bind_ok (lookAt_ok hlook)]
  cases hrun : (sys.opening netid eid w.probeEnabled).run o with
  | none =>
    have hmagic := (opening_none_iff o netid eid sys.sd.toNat w.probeEnabled sys.probe sys.fmapiSd).mp hrun
    exact absurd hmagic.1 hn
  | some l =>
    obtain ⟨m, hm, hnid⟩ := opening_sound hrun hn
    have hcells : (mctpSlot sys l).cells + w.cells = {(sys.mctp, .mctp)} + ({(sys.ep, .endpoint)} + w.cells) := by
      have hown : (mctpSlot sys l).owned = {(sys.mctp, .mctp)} := by
        unfold Slot.owned
        rw [show (mctpSlot sys l).reg.ep.transportData = _ from hm]
        rfl
      rw [Slot.cells, hown]
      show {(sys.ep, Kind.endpoint)} + _ + _ = _
      abel
    have hnone : responsesOf l.ep = [] := by rw [responsesOf, hm]
    refine Or.inr ⟨mctpSlot sys l, by rw [hcells]; rfl, rfl, rfl, hcells ▸ hok', ?_, ?_, ?_⟩
    · exact (identified_mctp _ m hm).mpr hnid
    · intro k hk
      cases hk.symm.trans hm
    · exact hnone.symm ▸ List.Forall₂.nil

theorem openMock_opens (hw : w.Ok) (sys : MockCalls) (hf : w.cells.FreshPair sys.ep sys.mock) :
    Opens (cxlmiOpenMock w sys) w sys.ep (· = mockOpened) := by
  unfold Opens
  rw [cxlmiOpenMock]
  by_cases h0 : sys.ep = 0
  · rw [h0, bind_ok alloc_null]
    exact Or.inl rfl
  have hep := hf.1.resolve_left h0
  have hok : Live.Ok ({(sys.ep, .endpoint)} + w.cells) := hw.live.alloc h0 hep
  rw [bind_ok (alloc_ok h0 hep), if_neg h0]
  by_cases h1 : sys.mock = 0
  · rw [h1, bind_ok alloc_null, if_pos rfl, bind_ok (free_ok hok)]
    exact Or.inl rfl
  have hmock : sys.mock ∉ Live.places ({(sys.ep, .endpoint)} + w.cells) := hf.second.resolve_left h1
  have hcells : (w.add (mockSlot sys)).cells = {(sys.mock, .mock)} + ({(sys.ep, .endpoint)} + w.cells) := by
    rw [cells_add]
    show {(sys.ep, Kind.endpoint)} + ({(sys.mock, Kind.mock)} + (0 + 0)) + _ = _
    abel
  rw [bind_ok (alloc_ok h1 hmock), if_neg h1, ← hcells, bind_ok (lookAt_ok (nodes_live _))]
  refine Or.inr ⟨mockSlot sys, rfl, rfl, hep, rfl, hw.add ?_ ?_⟩
  · rw [← cells_add, hcells]
    exact hok.alloc h1 hmock
  · exact ⟨identified_of_not_mctp _ (fun m hm => by cases hm), fun m _ => rfl, .nil⟩

end LibCxlmi.Heap
