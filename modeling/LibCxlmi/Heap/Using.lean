import LibCxlmi.Contract.Identification
import LibCxlmi.Heap.Opening

/-!
# Using an endpoint that is open

Each call is the call of the model without memory, on an endpoint that keeps its kind; it
takes and gives back memory of this endpoint only.
-/

namespace LibCxlmi.Heap
open LibCxlmi.Word LibCxlmi.Cci LibCxlmi.Transport LibCxlmi.Run
open LibCxlmi.Contract (kind)

/-- `f` on an endpoint with `s` in use beside it is the call `g` without memory. -/
def Serves {α : Type} (g : Endpoint → Option (α × Endpoint)) (f : Slot → Act (α × Slot)) (t : Slot) (s : Live) : Prop :=
  ∃ x t', f t (t.cells + s) = .ok ((x, t'), t'.cells + s) ∧ t'.ep = t.ep ∧ Live.Ok (t'.cells + s) ∧ t'.Sound ∧
    g t.reg.ep = some (x, t'.reg.ep)

def enablePlain (sock : ℤ) (e : Endpoint) : Option (Bool × Endpoint) :=
  (endpointEnableFmapi ⟨e, []⟩ sock).map fun l => (l.ep.hasFmapi, l.ep)

def disablePlain (e : Endpoint) : Option (Bool × Endpoint) := (endpointDisableFmapi ⟨e, []⟩).map fun l => (true, l.ep)

def setPlain (set cmd : Byte) (code : U 16) (payload : Option Bytes) (sys : ResponseCalls) (e : Endpoint) :
    Option (ℤ × Endpoint) :=
  (mockSetResponse (decide (sys.resp ≠ 0)) (decide (sys.payload ≠ 0)) e set cmd code payload).map fun r => (r.2, r.1)

def clearPlain (e : Endpoint) : Option (Unit × Endpoint) := (mockClearResponses e).map fun r => (r.2, r.1)

def commandPlain (o : ByteOrder) (c : MockSend) (place : Addr) (e : Endpoint) : Option ((ℤ × Bytes) × Endpoint) :=
  (sendCommand o e c place).map fun r => ((r.rc, r.rsp), r.st)

variable {s : Live} {t : Slot} {e : Endpoint} {k : MockTransport} {o : ByteOrder}

/-! ### What an endpoint has depends on its kind -/

theorem update_cells (h : kind e = kind t.reg.ep) : (t.update e).cells = t.cells := by
  have howned : (t.update e).owned = t.owned := by
    unfold kind at h
    simp only [Slot.owned, Slot.update]
    split at h <;> split at h <;> cases h <;> simp only [*]
  exact congrArg (({(t.ep, .endpoint)} : Live) + ·) howned

theorem kind_mock_iff : kind e = .mock ↔ ∃ k, e.transportData = some (.mock k) := by
  unfold kind
  split
  · rename_i h
    simp [h]
  · rename_i h
    simp [h]
  · rename_i k h
    simp [h]

theorem responsesOf_link (h : kind e ≠ .mock) : responsesOf e = [] := by
  unfold responsesOf
  split
  · rename_i k hk
    exact absurd (kind_mock_iff.mpr ⟨k, hk⟩) h
  · rfl

theorem isMockEndpoint_kind (h : e.Identified) : isMockEndpoint e = true ↔ kind e = .mock := by
  rw [← Contract.transportCode_mock_iff, (Contract.transportCode_eq_kind_iff e).mpr h]

theorem mailbox_link {e e' : Endpoint} (h : e.transportData = none) (h' : e'.transportData = none) :
    kind e' = kind e ∧ kind e' ≠ .mock ∧ e'.Identified := by
  refine ⟨by rw [kind, kind, h, h'], by simp [kind, h'], identified_of_not_mctp _ fun m hm => ?_⟩
  cases h'.symm.trans hm

theorem mctp_link {e e' : Endpoint} {m m' : MctpTransport} (h : e.transportData = some (.mctp m))
    (h' : e'.transportData = some (.mctp m')) (hn : m'.nid ≠ mockMagic) :
    kind e' = kind e ∧ kind e' ≠ .mock ∧ e'.Identified :=
  ⟨by rw [kind, kind, h, h'], by simp [kind, h'], (identified_mctp _ m' h').mpr hn⟩

theorem Slot.Sound.update (ht : t.Sound) (hk : kind e = kind t.reg.ep) (hlink : kind e ≠ .mock) (hid : e.Identified) :
    (t.update e).Sound := by
  refine ⟨hid, fun m hm => absurd (kind_mock_iff.mpr ⟨m, hm⟩) hlink, ?_⟩
  have hpaired := ht.paired
  rw [responsesOf_link (hk ▸ hlink)] at hpaired
  show List.Forall₂ _ (responsesOf e) t.queue
  rw [responsesOf_link hlink]
  exact hpaired

section Kinds

variable {α : Type} {g : Endpoint → Option (α × Endpoint)} {f : Slot → Act (α × Slot)} {x : α}

/- The endpoint is not a mock, and has become `e`. -/
theorem serves_link (h : Live.Ok (t.cells + s)) (ht : t.Sound) (hk : kind e = kind t.reg.ep) (hlink : kind e ≠ .mock)
    (hid : e.Identified) (hf : f t (t.cells + s) = .ok ((x, t.update e), t.cells + s))
    (hg : g t.reg.ep = some (x, e)) : Serves g f t s :=
  ⟨x, t.update e, by rw [update_cells hk]; exact hf, rfl, by rw [update_cells hk]; exact h, ht.update hk hlink hid, hg⟩

end Kinds

theorem endpoint_mem (t : Slot) (s : Live) : (t.ep, Kind.endpoint) ∈ t.cells + s :=
  Multiset.mem_add.mpr (Or.inl (mem_self_add ..))

theorem transport_mem (t : Slot) (s : Live) : ∀ c ∈ t.transport, c ∈ t.cells + s :=
  fun c hc => Multiset.mem_add.mpr (Or.inl (transport_live t c hc))

/-! ### FM-API -/

theorem toggleFmapi_serves {α : Type} {nop : Bool} {x : α} {run : Endpoint → Option Life} {ret : Life → α}
    (h : Live.Ok (t.cells + s)) (ht : t.Sound)
    (hnop : t.reg.ep.hasFmapi = nop → run t.reg.ep = some ⟨t.reg.ep, []⟩ ∧ ret ⟨t.reg.ep, []⟩ = x)
    (hrun : t.reg.ep.hasFmapi ≠ nop → ∃ l, run t.reg.ep = some l ∧ kind l.ep = kind t.reg.ep ∧ kind l.ep ≠ .mock ∧
      l.ep.Identified) :
    Serves (fun e => (run e).map fun l => (ret l, l.ep)) (fun t => toggleFmapi nop t x (run t.reg.ep) ret) t s := by
  by_cases hn : t.reg.ep.hasFmapi = nop
  · obtain ⟨hsame, hret⟩ := hnop hn
    refine ⟨x, t, ?_, rfl, h, ht, ?_⟩
    · show toggleFmapi nop t x (run t.reg.ep) ret _ = _
      rw [toggleFmapi, bind_ok (use_ok (endpoint_mem t s)), if_pos hn]
      rfl
    · exact (congrArg (Option.map _) hsame).trans (congrArg (fun y => some (y, t.reg.ep)) hret)
  · obtain ⟨l, hl, hk, hlink, hid⟩ := hrun hn
    refine serves_link h ht hk hlink hid ?_ (congrArg (Option.map _) hl)
    show toggleFmapi nop t x (run t.reg.ep) ret _ = _
    rw [toggleFmapi, bind_ok (use_ok (endpoint_mem t s)), if_neg hn, hl]
    by_cases htd : t.reg.ep.transportData = none
    · rw [if_neg (not_not.mpr htd)]
      rfl
    · have hdata : (t.data, Kind.mctp) ∈ t.cells + s := by
        refine transport_mem t s _ ?_
        unfold Slot.transport
        split
        · rename_i hnone
          exact absurd hnone htd
        · exact List.mem_singleton_self _
        · rename_i k hmock
          exact absurd (hk.trans (kind_mock_iff.mpr ⟨k, hmock⟩)) hlink
      rw [if_pos htd, bind_ok (use_ok hdata)]
      rfl

theorem enableFmapi_serves (sock : ℤ) (h : Live.Ok (t.cells + s)) (ht : t.Sound) :
    Serves (enablePlain sock) (enableFmapi sock) t s := by
  refine toggleFmapi_serves h ht (fun hn => ⟨if_pos hn, hn⟩) fun hn => ?_
  rw [endpointEnableFmapi, if_neg hn]
  cases htd : t.reg.ep.transportData with
  | none => exact ⟨_, rfl, mailbox_link htd htd⟩
  | some d =>
    cases d with
    | mock k => exact absurd (ht.fmapi k htd) hn
    | mctp m =>
      have hnid : m.nid ≠ mockMagic := (identified_mctp _ m htd).mp ht.identified
      refine ⟨_, rfl, ?_⟩
      unfold Life.fmapiSocket
      split_ifs
      · exact mctp_link htd rfl hnid
      · exact mctp_link htd rfl hnid

/- On a mock, its data would be taken for a socket. -/
theorem disableFmapi_serves (h : Live.Ok (t.cells + s)) (ht : t.Sound) (hlink : kind t.reg.ep ≠ .mock) :
    Serves disablePlain disableFmapi t s := by
  refine toggleFmapi_serves h ht (fun hn => ⟨if_pos hn, rfl⟩) fun hn => ?_
  rw [endpointDisableFmapi, if_neg hn]
  cases htd : t.reg.ep.transportData with
  | none => exact ⟨_, rfl, mailbox_link htd htd⟩
  | some d =>
    cases d with
    | mock k => exact absurd (kind_mock_iff.mpr ⟨k, htd⟩) hlink
    | mctp m => exact ⟨_, rfl, mctp_link htd rfl ((identified_mctp _ m htd).mp ht.identified)⟩

/-! ### The responses of a mock -/

theorem onMock_link {α : Type} {bad : α} {f : MockTransport → α × MockTransport} (h : isMockEndpoint e = false) :
    onMock e bad f = some (e, bad) := by
  unfold onMock
  split
  · rename_i k hk
    rw [isMockEndpoint, hk] at h
    cases h
  · rw [h]
    rfl
  · rfl

theorem onMock_mock {α : Type} {bad : α} {f : MockTransport → α × MockTransport}
    (h : e.transportData = some (.mock k)) :
    onMock e bad f = some ({ e with transportData := some (.mock (f k).2) }, (f k).1) := by
  rw [onMock, h]

theorem mock_same (h : e.transportData = some (.mock k)) : { e with transportData := some (.mock k) } = e := by
  rw [← h]

theorem mock_cells (h : t.reg.ep.transportData = some (.mock k)) :
    t.cells = {(t.ep, .endpoint)} + ({(t.data, .mock)} + (bytesAt t.last + queueCells t.queue)) := by
  rw [Slot.cells, owned_mock h]

/- The mock with other data. -/
def Slot.mocked (t : Slot) (k : MockTransport) (last : Addr) (queue : List (Addr × Addr)) : Slot :=
  { t.update { t.reg.ep with transportData := some (.mock k) } with last := last, queue := queue }

theorem mocked_cells (t : Slot) (k : MockTransport) (last : Addr) (queue : List (Addr × Addr)) :
    (t.mocked k last queue).cells = {(t.ep, .endpoint)} + ({(t.data, .mock)} + (bytesAt last + queueCells queue)) := rfl

theorem Slot.Sound.mocked {last : Addr} {queue : List (Addr × Addr)} {k' : MockTransport} (ht : t.Sound)
    (hk : t.reg.ep.transportData = some (.mock k))
    (hp : List.Forall₂ (fun r q => r.payload = [] ↔ q.2 = 0) k'.responses queue) : (t.mocked k' last queue).Sound :=
  ⟨identified_of_not_mctp _ (fun m hm => by cases hm), fun _ _ => ht.fmapi k hk, hp⟩

theorem mock_nodes_mem (h : t.reg.ep.transportData = some (.mock k)) (s : Live) : ∀ c ∈ t.nodes, c ∈ t.cells + s := by
  intro c hc
  rw [mock_cells h]
  rcases List.mem_cons.mp hc with rfl | hc
  · simp
  · obtain ⟨p, hp, rfl⟩ := List.mem_map.mp hc
    simp [mem_queueCells hp]

theorem clearResponses_serves (h : Live.Ok (t.cells + s)) (ht : t.Sound) : Serves clearPlain clearResponses t s := by
  have hmock := isMock_ok (endpoint_mem t s) (transport_mem t s)
  cases hi : isMockEndpoint t.reg.ep with
  | false =>
    refine ⟨(), t, ?_, rfl, h, ht, congrArg (Option.map _) (onMock_link hi)⟩
    rw [clearResponses, bind_ok hmock, hi]
    rfl
  | true =>
    obtain ⟨k, hk⟩ := kind_mock_iff.mp ((isMockEndpoint_kind ht.identified).mp hi)
    have hsplit : t.cells + s =
        queueCells t.queue + ({(t.ep, .endpoint)} + ({(t.data, .mock)} + bytesAt t.last) + s) := by
      rw [mock_cells hk]
      abel
    have hclear : mockClearResponses t.reg.ep =
        some ({ t.reg.ep with transportData := some (.mock { k with responses := [] }) }, ()) := onMock_mock hk
    have hempty : (t.mocked { k with responses := [] } t.last []).cells + s =
        {(t.ep, .endpoint)} + ({(t.data, .mock)} + bytesAt t.last) + s := by
      rw [mocked_cells]
      exact congrArg (fun c => {(t.ep, Kind.endpoint)} + ({(t.data, Kind.mock)} + c) + s) (add_zero (bytesAt t.last))
    rw [hsplit] at h
    refine ⟨(), t.mocked { k with responses := [] } t.last [], ?_, rfl, hempty ▸ h.of_add, ht.mocked hk .nil,
      congrArg (Option.map _) hclear⟩
    rw [hempty, clearResponses, bind_ok hmock, hi, if_pos rfl, hclear, hsplit, bind_ok (freeResponses_ok h (by simp))]
    rfl

theorem queueCells_append (qs : List (Addr × Addr)) (q : Addr × Addr) :
    queueCells (qs ++ [q]) = queueCells qs + ({(q.1, .response)} + bytesAt q.2) := by
  rw [queueCells, List.map_append, List.sum_append, List.map_singleton, List.sum_singleton]
  rfl

/- The block of the response is there. It is given back when there is no memory for the
payload. -/
theorem storePayload_ok {resp place : Addr} {payload : Bytes} (h : Live.Ok ({(resp, .response)} + s))
    (hp : Live.Fresh ({(resp, .response)} + s) place) :
    (payload ≠ [] ∧ place = 0 ∧ storePayload resp payload place ({(resp, .response)} + s) = .ok (none, s)) ∨
      ∃ p, (payload ≠ [] → place ≠ 0) ∧ (payload = [] ↔ p = 0) ∧
        Live.Ok (bytesAt p + ({(resp, .response)} + s)) ∧
        storePayload resp payload place ({(resp, .response)} + s) =
          .ok (some p, bytesAt p + ({(resp, .response)} + s)) := by
  by_cases hb : payload = []
  · refine Or.inr ⟨0, fun hne => absurd hb hne, iff_of_true hb rfl, ?_, ?_⟩
    · rw [bytesAt, if_pos rfl, zero_add]
      exact h
    · rw [storePayload, if_pos hb, bytesAt, if_pos rfl, zero_add]
      rfl
  by_cases h0 : place = 0
  · refine Or.inl ⟨hb, h0, ?_⟩
    rw [storePayload, if_neg hb, h0, bind_ok alloc_null, if_pos rfl, bind_ok (free_ok h)]
    rfl
  · have hplace := hp.resolve_left h0
    refine Or.inr ⟨place, fun _ => h0, iff_of_false hb h0, ?_, ?_⟩
    · rw [bytesAt, if_neg h0]
      exact h.alloc h0 hplace
    · rw [storePayload, if_neg hb, bind_ok (alloc_ok h0 hplace), if_neg h0, bytesAt, if_neg h0]
      rfl

section Storing

variable {ra pa : Bool} {set cmd : Byte} {code : U 16} {payload : Option Bytes}

def stored (k : MockTransport) (set cmd : Byte) (code : U 16) (payload : Option Bytes) : MockTransport :=
  { k with responses := k.responses ++ [⟨set, cmd, code, payload.getD []⟩] }

theorem mockSetResponse_fails (hk : e.transportData = some (.mock k))
    (hno : ra = false ∨ (payload.getD [] ≠ [] ∧ pa = false)) :
    mockSetResponse ra pa e set cmd code payload = some (e, -1) := by
  rw [mockSetResponse, onMock_mock hk, if_pos hno, mock_same hk]

theorem mockSetResponse_stores (hk : e.transportData = some (.mock k))
    (hyes : ¬(ra = false ∨ (payload.getD [] ≠ [] ∧ pa = false))) :
    mockSetResponse ra pa e set cmd code payload =
      some ({ e with transportData := some (.mock (stored k set cmd code payload)) }, 0) := by
  rw [mockSetResponse, onMock_mock hk, if_neg hyes, stored]

end Storing

theorem setResponse_serves (set cmd : Byte) (code : U 16) (payload : Option Bytes) {sys : ResponseCalls}
    (h : Live.Ok (t.cells + s)) (ht : t.Sound) (hf : Live.FreshPair (t.cells + s) sys.resp sys.payload) :
    Serves (setPlain set cmd code payload sys) (setResponse set cmd code payload sys) t s := by
  have hmock := isMock_ok (endpoint_mem t s) (transport_mem t s)
  cases hi : isMockEndpoint t.reg.ep with
  | false =>
    refine ⟨-1, t, ?_, rfl, h, ht, congrArg (Option.map _) (onMock_link hi)⟩
    rw [setResponse, bind_ok hmock, hi]
    rfl
  | true =>
    obtain ⟨k, hk⟩ := kind_mock_iff.mp ((isMockEndpoint_kind ht.identified).mp hi)
    by_cases h0 : sys.resp = 0
    · refine ⟨-1, t, ?_, rfl, h, ht, congrArg (Option.map _) (mockSetResponse_fails hk (Or.inl (by simp [h0])))⟩
      rw [setResponse, bind_ok hmock, hi, if_pos rfl, h0, bind_ok alloc_null]
      rfl
    have hresp := hf.1.resolve_left h0
    have hok : Live.Ok ({(sys.resp, .response)} + (t.cells + s)) := h.alloc h0 hresp
    rcases storePayload_ok hok hf.second with ⟨hb, hp, hrun⟩ | ⟨p, hp, hnull, hok', hrun⟩
    · refine ⟨-1, t, ?_, rfl, h, ht,
        congrArg (Option.map _) (mockSetResponse_fails hk (Or.inr ⟨hb, by simp [hp]⟩))⟩
      rw [setResponse, bind_ok hmock, hi, if_pos rfl, bind_ok (alloc_ok h0 hresp), if_neg h0, bind_ok hrun]
      rfl
    · -- the response goes to the end of the list
      have hall : ¬(decide (sys.resp ≠ 0) = false ∨ (payload.getD [] ≠ [] ∧ decide (sys.payload ≠ 0) = false)) := by
        simpa [h0] using hp
      have hcells : (t.mocked (stored k set cmd code payload) t.last (t.queue ++ [(sys.resp, p)])).cells + s =
          bytesAt p + ({(sys.resp, .response)} + (t.cells + s)) := by
        rw [mocked_cells, mock_cells hk, queueCells_append]
        abel
      have hlook : ∀ c ∈ (sys.resp, Kind.response) :: t.nodes,
          c ∈ bytesAt p + ({(sys.resp, .response)} + (t.cells + s)) := by
        intro c hc
        rcases List.mem_cons.mp hc with rfl | hc
        · simp
        · exact Multiset.mem_add.mpr (Or.inr (Multiset.mem_add.mpr (Or.inr (mock_nodes_mem hk s c hc))))
      have hpaired : List.Forall₂ (fun r q => r.payload = [] ↔ q.2 = 0)
          (stored k set cmd code payload).responses (t.queue ++ [(sys.resp, p)]) := by
        have hold := ht.paired
        rw [responsesOf, hk] at hold
        exact List.rel_append hold (.cons hnull .nil)
      refine ⟨0, t.mocked _ t.last (t.queue ++ [(sys.resp, p)]), ?_, rfl, hcells ▸ hok', ht.mocked hk hpaired,
        congrArg (Option.map _) (mockSetResponse_stores hk hall)⟩
      rw [hcells, setResponse, bind_ok hmock, hi, if_pos rfl, bind_ok (alloc_ok h0 hresp), if_neg h0, bind_ok hrun]
      dsimp only
      rw [bind_ok (lookAt_ok hlook), mockSetResponse_stores hk (by simp)]
      rfl

/-! ### Commands -/

section Commands

variable {set cmd : Byte} {rs : List MockResponse} {qs : List (Addr × Addr)} {R : MockResponse → Addr × Addr → Prop}

/- The block that is taken is that of the response that is taken. -/
theorem takeAlong_paired (h : List.Forall₂ R rs qs) :
    (mockFindResponse set cmd rs = none ∧ takeAlong set cmd rs qs = none) ∨
      ∃ r rs' q qs', mockFindResponse set cmd rs = some (r, rs') ∧ takeAlong set cmd rs qs = some (q, qs') ∧
        List.Forall₂ R rs' qs' ∧ queueCells qs = {(q.1, .response)} + bytesAt q.2 + queueCells qs' := by
  induction h with
  | nil => exact Or.inl ⟨rfl, rfl⟩
  | @cons r q rs qs hr h ih =>
    rw [mockFindResponse, takeAlong]
    by_cases hm : r.commandSet = set ∧ r.command = cmd
    · rw [if_pos hm, if_pos hm]
      exact Or.inr ⟨r, rs, q, qs, rfl, rfl, h, queueCells_cons q qs⟩
    · rw [if_neg hm, if_neg hm]
      rcases ih with ⟨hnone, htake⟩ | ⟨r', rs', q', qs', hsome, htake, hpair, hcells⟩
      · rw [hnone, htake]
        exact Or.inl ⟨rfl, rfl⟩
      · rw [hsome, htake]
        refine Or.inr ⟨r', r :: rs', q', q :: qs', rfl, rfl, .cons hr hpair, ?_⟩
        rw [queueCells_cons, queueCells_cons, hcells]
        abel

theorem keepPayload_ok (req : Bytes) {place : Addr} (h : s.Ok) (hf : s.Fresh place) :
    ∃ last, keepPayload req place s = .ok (last, bytesAt last + s) ∧ Live.Ok (bytesAt last + s) := by
  have hnone : Live.Ok (bytesAt 0 + s) := by
    rw [bytesAt, if_pos rfl, zero_add]
    exact h
  unfold keepPayload
  split_ifs with hsz
  · by_cases h0 : place = 0
    · refine ⟨0, ?_, hnone⟩
      rw [h0, alloc_null, bytesAt, if_pos rfl, zero_add]
    · have ha := hf.resolve_left h0
      refine ⟨place, ?_, ?_⟩
      · rw [alloc_ok h0 ha, bytesAt, if_neg h0]
      · rw [bytesAt, if_neg h0]
        exact h.alloc h0 ha
  · refine ⟨0, ?_, hnone⟩
    rw [bytesAt, if_pos rfl, zero_add]
    rfl

/- Where the payload of the last command was, there is room again. -/
theorem fresh_again {last place : Addr} (h : Live.Ok (bytesAt last + s))
    (hf : place = last ∨ Live.Fresh (bytesAt last + s) place) : s.Fresh place := by
  by_cases h0 : place = 0
  · exact Or.inl h0
  rcases hf with rfl | hf
  · rw [bytesAt, if_neg h0] at h
    exact Or.inr h.not_mem
  · have hout := hf.resolve_left h0
    rw [places_add, Multiset.mem_add, not_or] at hout
    exact Or.inr hout.2

end Commands

theorem sendMockCmd_responses (o : ByteOrder) (env : Env) (k : MockTransport) (req : Bytes) (rspSz : ℕ) :
    (sendMockCmd o env k req rspSz).st.responses =
      ((mockFindResponse (commandSet req) (command req) k.responses).map Prod.snd).getD k.responses := by
  have hq : (mockRecord env k req).responses = k.responses := rfl
  unfold sendMockCmd
  simp only [hq]
  cases mockFindResponse (commandSet req) (command req) k.responses with
  | none => rfl
  | some p => rfl

theorem answerCommand_ok {req : Bytes} {place : Addr} (h : Live.Ok (t.cells + s)) (ht : t.Sound)
    (hk : t.reg.ep.transportData = some (.mock k)) (hf : place = t.last ∨ Live.Fresh (t.cells + s) place)
    (env : Env) (rspSz : ℕ) :
    ∃ last queue, answerCommand t req place (t.cells + s) =
        .ok ((last, queue), (t.mocked (sendMockCmd o env k req rspSz).st last queue).cells + s) ∧
      Live.Ok ((t.mocked (sendMockCmd o env k req rspSz).st last queue).cells + s) ∧
      List.Forall₂ (fun r q => r.payload = [] ↔ q.2 = 0) (sendMockCmd o env k req rspSz).st.responses queue := by
  have hpaired := ht.paired
  have hrs : responsesOf t.reg.ep = k.responses := by rw [responsesOf, hk]
  have hdata : (t.data, Kind.mock) ∈ t.cells + s := by simp [mock_cells hk]
  have hsplit : t.cells + s =
      bytesAt t.last + ({(t.ep, .endpoint)} + ({(t.data, .mock)} + queueCells t.queue) + s) := by
    rw [mock_cells hk]
    abel
  rw [answerCommand, bind_ok (use_ok hdata), hrs, sendMockCmd_responses]
  rw [hrs] at hpaired
  rw [hsplit] at h hf ⊢
  obtain ⟨last, hkeep, hok⟩ := keepPayload_ok req h.of_add (fresh_again h hf)
  have hlook : ∀ c ∈ t.nodes,
      c ∈ bytesAt last + ({(t.ep, .endpoint)} + ({(t.data, .mock)} + queueCells t.queue) + s) := by
    intro c hc
    rcases List.mem_cons.mp hc with rfl | hc
    · simp
    · obtain ⟨p, hp, rfl⟩ := List.mem_map.mp hc
      simp [mem_queueCells hp]
  rw [bind_ok (free_bytes h), bind_ok hkeep, bind_ok (lookAt_ok hlook)]
  rcases takeAlong_paired hpaired with ⟨hnone, htake⟩ | ⟨r, rs, q, qs, hsome, htake, hpair, hqueue⟩
  · have hcells : (t.mocked (sendMockCmd o env k req rspSz).st last t.queue).cells + s =
        bytesAt last + ({(t.ep, .endpoint)} + ({(t.data, .mock)} + queueCells t.queue) + s) := by
      rw [mocked_cells]
      abel
    rw [htake, hnone]
    exact ⟨last, t.queue, by rw [hcells]; rfl, hcells ▸ hok, hpaired⟩
  · have hcells : bytesAt last + ({(t.ep, .endpoint)} + ({(t.data, .mock)} + queueCells t.queue) + s) =
        bytesAt q.2 + ({(q.1, .response)} + ((t.mocked (sendMockCmd o env k req rspSz).st last qs).cells + s)) := by
      rw [mocked_cells, hqueue]
      abel
    rw [hcells] at hok ⊢
    rw [htake, hsome]
    refine ⟨last, qs, ?_, hok.of_add.of_add, hpair⟩
    dsimp only
    rw [bind_ok (free_bytes hok), bind_ok (free_ok hok.of_add)]
    rfl

theorem command_serves (c : MockSend) {place : Addr} (h : Live.Ok (t.cells + s)) (ht : t.Sound)
    (hf : place = t.last ∨ Live.Fresh (t.cells + s) place) :
    Serves (commandPlain o c place) (commandSlot o c place) t s := by
  have hmock := isMock_ok (endpoint_mem t s) (transport_mem t s)
  obtain ⟨r, hr⟩ := command_defined o (placing c.env place) t.reg.ep c.ti c.set c.cmd c.pl c.rspSz c.rspMin
    ht.identified
  have hsend : sendCommand o t.reg.ep c place = some r := hr
  have hplain : commandPlain o c place t.reg.ep = some ((r.rc, r.rsp), r.st) := congrArg (Option.map _) hsend
  cases hi : isMockEndpoint t.reg.ep with
  | false =>
    have hlink : kind t.reg.ep ≠ .mock := fun hm => by
      rw [(isMockEndpoint_kind ht.identified).mpr hm] at hi
      cases hi
    have hsame : SameLink t.reg.ep r.st := sameLink_trans _ _ _ (armCciRequest_sameLink o t.reg.ep c.set c.cmd c.pl)
      (sendCmdCci_sameLink o _ _ c.ti _ c.rspSz c.rspMin r hr)
    have hkind : kind r.st = kind t.reg.ep ∧ kind r.st ≠ .mock ∧ r.st.Identified := by
      cases htd : t.reg.ep.transportData with
      | none => exact mailbox_link htd (hsame.2.2.1 htd)
      | some d =>
        cases d with
        | mock k => exact absurd (kind_mock_iff.mpr ⟨k, htd⟩) hlink
        | mctp m =>
          obtain ⟨n, hn⟩ := hsame.2.2.2 m htd
          exact mctp_link htd hn ((identified_mctp _ m htd).mp ht.identified)
    refine serves_link h ht hkind.1 hkind.2.1 hkind.2.2 ?_ hplain
    rw [commandSlot, bind_ok hmock, hi, hsend]
    rfl
  | true =>
    obtain ⟨k, hk⟩ := kind_mock_iff.mp ((isMockEndpoint_kind ht.identified).mp hi)
    have harm := armed_mock o t.reg.ep c.set c.cmd c.pl k hk
    rw [harm] at hr
    cases href : refused t.reg.ep c.ti (cciHeader o 0 c.cmd c.set c.pl.length ++ c.pl) with
    | true =>
      rw [sendCmdCci_refused o _ t.reg.ep c.ti _ c.rspSz c.rspMin href] at hr
      obtain rfl := Option.some.inj hr
      have hcells : (t.update t.reg.ep).cells = t.cells := update_cells rfl
      refine ⟨_, t.update t.reg.ep, ?_, rfl, hcells.symm ▸ h, ⟨ht.identified, ht.fmapi, ht.paired⟩, hplain⟩
      rw [hcells, commandSlot, bind_ok hmock, hi, hsend, harm, href]
      rfl
    | false =>
      rw [sendCmdCci_mock o _ t.reg.ep k c.ti _ c.rspSz c.rspMin href hk] at hr
      obtain rfl := Option.some.inj hr
      obtain ⟨last, queue, hrun, hok, hpair⟩ := answerCommand_ok h ht hk hf (placing c.env place) c.rspSz
      refine ⟨_, t.mocked _ last queue, ?_, rfl, hok, ht.mocked hk hpair, hplain⟩
      rw [commandSlot, bind_ok hmock, hi, hsend, harm, href, bind_ok (orWild_some _ _), if_pos ⟨rfl, rfl⟩, bind_ok hrun]
      rfl

end LibCxlmi.Heap
