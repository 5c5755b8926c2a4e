import LibCxlmi.Heap.Using

/-!
# Sessions

A client makes a context, calls the library and frees the context. It keeps to the rules
when it passes null or pointers to endpoints that are open, does not turn off FM-API on a
mock, and opens no MCTP endpoint on the network whose id is the magic number of mocks. Then
nothing goes wrong with the blocks that are kept between calls, whatever the devices and the
system answer, and none of them is left behind.
-/

namespace LibCxlmi.Heap
open LibCxlmi.Word LibCxlmi.Cci LibCxlmi.Transport LibCxlmi.Run
open LibCxlmi.Contract (kind)

inductive Call where
  | openDev (devname : Bytes) (sys : DevCalls)
  | openMctp (netid : U 32) (eid : Byte) (sys : MctpCalls)
  | openMock (sys : MockCalls)
  | close (ep : Addr)
  | enableFmapi (ep : Addr) (sock : ℤ)
  | disableFmapi (ep : Addr)
  | setResponse (ep : Addr) (set cmd : Byte) (code : U 16) (payload : Option Bytes) (sys : ResponseCalls)
  | clearResponses (ep : Addr)
  | command (ep : Addr) (c : MockSend) (place : Addr)

inductive Answer where
  | pointer (ep : Addr)
  | flag (b : Bool)
  | code (rc : ℤ)
  | reply (r : ℤ × Bytes)
  | done (u : Unit)
  deriving DecidableEq, Repr

def answering {α : Type} (f : α → Answer) (p : Act (α × World)) : Act (Answer × World) := do
  let r ← p
  return (f r.1, r.2)

/- No command is sent on null: every function of commands.c looks at its endpoint first. -/
def Call.run (o : ByteOrder) (w : World) : Call → Act (Answer × World)
  | .openDev devname sys => answering .pointer (cxlmiOpen w devname sys)
  | .openMctp netid eid sys => answering .pointer (cxlmiOpenMctp o w netid eid sys)
  | .openMock sys => answering .pointer (cxlmiOpenMock w sys)
  | .close ep => answering .done (cxlmiClose w ep)
  | .enableFmapi ep sock => answering .flag (onEndpoint w ep false (Heap.enableFmapi sock))
  | .disableFmapi ep => answering .flag (onEndpoint w ep false Heap.disableFmapi)
  | .setResponse ep set cmd code payload sys =>
      answering .code (onEndpoint w ep (-1) (Heap.setResponse set cmd code payload sys))
  | .clearResponses ep => answering .done (onEndpoint w ep () Heap.clearResponses)
  | .command ep c place => answering .reply (onOpen w ep (commandSlot o c place))

/-! ### What a call does -/

section Plain

variable (o : ByteOrder)

/-- The endpoint that a call is on. -/
def Call.target : Call → Option Addr
  | .enableFmapi ep _ => some ep
  | .disableFmapi ep => some ep
  | .setResponse ep _ _ _ _ _ => some ep
  | .clearResponses ep => some ep
  | .command ep _ _ => some ep
  | _ => none

/-- The endpoint that a call opens when nothing fails, and its pointer. -/
def Call.opened (probeEnabled : Bool) : Call → Option (Addr × Endpoint)
  | .openDev _ sys => some (sys.ep, ⟨none, sys.fd, probeEnabled⟩)
  | .openMctp netid eid sys => ((sys.opening netid eid probeEnabled).run o).map fun l => (sys.ep, l.ep)
  | .openMock sys => some (sys.ep, mockOpened)
  | _ => none

/-- A call on an endpoint where there is no other, and no memory. -/
def aloneStep (e : Endpoint) : Call → Option (Answer × Endpoint)
  | .enableFmapi _ sock => (enablePlain sock e).map fun r => (.flag r.1, r.2)
  | .disableFmapi _ => (disablePlain e).map fun r => (.flag r.1, r.2)
  | .setResponse _ set cmd code payload sys => (setPlain set cmd code payload sys e).map fun r => (.code r.1, r.2)
  | .clearResponses _ => (clearPlain e).map fun r => (.done r.1, r.2)
  | .command _ c place => (commandPlain o c place e).map fun r => (.reply r.1, r.2)
  | _ => none

/-- What a call does to the endpoints. -/
inductive Does (c : Call) (w : World) : Answer → World → Prop where
  | nothing {a : Answer} : (∀ ep, c.target = some ep → ep = 0) → (∀ ep, a = .pointer ep → ep = 0) → Does c w a w
  | opens {t : Slot} : t.ep ∉ w.cells.places → c.opened o w.probeEnabled = some (t.ep, t.reg.ep) →
      Does c w (.pointer t.ep) (w.add t)
  | uses {us vs : List Slot} {t t' : Slot} {a : Answer} : w.slots = us ++ t :: vs → (∀ u ∈ us, u.ep ≠ t.ep) →
      t'.ep = t.ep → c.target = some t.ep → aloneStep o t.reg.ep c = some (a, t'.reg.ep) →
      (∀ ep, a = .pointer ep → ep = 0) → Does c w a { w with slots := us ++ t' :: vs }
  | closes {us vs : List Slot} {t : Slot} : w.slots = us ++ t :: vs → c = .close t.ep →
      Does c w (.done ()) { w with slots := us ++ vs }

end Plain

/-! ### The rules -/

def World.Known (w : World) (ep : Addr) : Prop := ep = 0 ∨ (w.find ep).isSome = true

def Call.Proper (w : World) : Call → Prop
  | .openDev _ sys => w.cells.FreshPair sys.ep sys.devname
  | .openMctp netid _ sys => w.cells.FreshPair sys.ep sys.mctp ∧ netid ≠ mockMagic
  | .openMock sys => w.cells.FreshPair sys.ep sys.mock
  | .close ep => w.Known ep
  | .enableFmapi ep _ => w.Known ep
  | .disableFmapi ep => w.Known ep ∧ ((w.find ep).all fun t => !isMockEndpoint t.reg.ep) = true
  | .setResponse ep _ _ _ _ sys => w.Known ep ∧ w.cells.FreshPair sys.resp sys.payload
  | .clearResponses ep => w.Known ep
  | .command ep _ place => (w.find ep).isSome = true ∧
      (w.cells.Fresh place ∨ ((w.find ep).all fun t => place == t.last) = true)

/-- What a call that keeps to the rules does, and that nothing goes wrong. -/
def Safe (o : ByteOrder) (c : Call) (w : World) : Prop :=
  ∃ a w', c.run o w w.cells = .ok ((a, w'), w'.cells) ∧ w'.Ok ∧ Does o c w a w'

variable {o : ByteOrder} {c : Call} {w : World} {t : Slot} {ep : Addr}

theorem find_split (h : w.find ep = some t) :
    t.ep = ep ∧ ∃ us vs, w.slots = us ++ t :: vs ∧ ∀ u ∈ us, u.ep ≠ ep := by
  obtain ⟨hep, us, vs, hts, hus⟩ := List.find?_eq_some_iff_append.mp h
  refine ⟨beq_iff_eq.mp hep, us, vs, hts, fun u hu heq => ?_⟩
  have hne := hus u hu
  rw [heq, beq_self_eq_true] at hne
  cases hne

theorem replaceF_split {us vs : List Slot} {t' : Slot} (hep : t.ep = ep) (hus : ∀ u ∈ us, u.ep ≠ ep) :
    ((us ++ t :: vs).replaceF fun u => if u.ep = ep then some t' else none) = us ++ t' :: vs := by
  induction us with
  | nil => rw [List.nil_append, List.replaceF, if_pos hep, List.nil_append]
  | cons u us ih =>
    have hu : u.ep ≠ ep := hus u List.mem_cons_self
    rw [List.cons_append, List.replaceF, if_neg hu, List.cons_append, ih fun v hv => hus v (List.mem_cons_of_mem u hv)]

/- The endpoint is open; the call answers what it does without memory. -/
theorem onOpen_safe {α : Type} {g : Endpoint → Option (α × Endpoint)} {f : Slot → Act (α × Slot)} {ans : α → Answer}
    (hw : w.Ok) (hfind : w.find ep = some t) (hf : ∀ s, w.cells = t.cells + s → Serves g f t s)
    (hc : c.target = some ep) (hg : ∀ e, aloneStep o e c = (g e).map fun r => (ans r.1, r.2))
    (hans : ∀ x a, ans x ≠ .pointer a) (hrun : c.run o w w.cells = answering ans (onOpen w ep f) w.cells) :
    Safe o c w := by
  obtain ⟨hep, us, vs, hts, hus⟩ := find_split hfind
  have hcells := cells_split hts
  obtain ⟨x, t', hx, hep', hok, hsound, hgx⟩ := hf _ hcells
  have hput : w.put ep t' = { w with slots := us ++ t' :: vs } := by
    rw [World.put, hts, replaceF_split hep hus]
  have hts' : (w.put ep t').slots = us ++ t' :: vs := by rw [hput]
  have hcells' : (w.put ep t').cells = t'.cells + ({ w with slots := us ++ vs } : World).cells := cells_split hts'
  have huse : (ep, Kind.endpoint) ∈ w.cells :=
    mem_cells (hts ▸ List.mem_append_right us List.mem_cons_self) (hep ▸ mem_self_add ..)
  have hstep : onOpen w ep f w.cells = .ok ((x, w.put ep t'), (w.put ep t').cells) := by
    rw [onOpen, withSlot, bind_ok (use_ok huse), hfind, bind_ok (orWild_some t _), hcells, bind_ok hx, hcells']
    rfl
  refine ⟨ans x, w.put ep t', ?_, ⟨hcells' ▸ hok, fun u hu => ?_⟩, ?_⟩
  · rw [hrun, answering, bind_ok hstep]
    rfl
  · rw [hts'] at hu
    have hall := hw.sound
    rw [hts] at hall
    grind
  · rw [hput]
    refine .uses hts (hep ▸ hus) hep' (hep ▸ hc) ?_ fun a ha => absurd ha (hans x a)
    rw [hg, hgx]
    rfl

/- A function that returns for null. -/
theorem onEndpoint_safe {α : Type} {g : Endpoint → Option (α × Endpoint)} {f : Slot → Act (α × Slot)} {ans : α → Answer}
    {null : α} (hw : w.Ok) (hep : w.Known ep)
    (hf : ∀ t s, w.find ep = some t → w.cells = t.cells + s → Live.Ok (t.cells + s) → t.Sound → Serves g f t s)
    (hc : c.target = some ep) (hg : ∀ e, aloneStep o e c = (g e).map fun r => (ans r.1, r.2))
    (hans : ∀ x a, ans x ≠ .pointer a)
    (hrun : c.run o w = answering ans (onEndpoint w ep null f)) : Safe o c w := by
  by_cases h0 : ep = 0
  · refine ⟨ans null, w, ?_, hw, .nothing (fun a ha => ?_) fun a ha => absurd ha (hans null a)⟩
    · rw [hrun, answering, onEndpoint, if_pos h0]
      rfl
    · rw [hc] at ha
      exact (Option.some.inj ha).symm.trans h0
  · obtain ⟨t, hfind⟩ := Option.isSome_iff_exists.mp (hep.resolve_left h0)
    refine onOpen_safe hw hfind (fun s hs => ?_) hc hg hans (by rw [hrun, onEndpoint, if_neg h0])
    exact hf t s hfind hs (hs ▸ hw.live) (hw.sound t (List.mem_of_find?_eq_some hfind))

theorem open_safe {p : Act (Addr × World)} {P : Endpoint → Prop} (hw : w.Ok) (h : Opens p w ep P)
    (hc : c.target = none) (hopen : ∀ e, P e → c.opened o w.probeEnabled = some (ep, e))
    (hrun : c.run o w = answering .pointer p) : Safe o c w := by
  rcases h with hno | ⟨t, hyes, hep, hfresh, hP, hok⟩
  · refine ⟨.pointer 0, w, ?_, hw, .nothing (fun a ha => ?_) fun a ha => (Answer.pointer.inj ha).symm⟩
    · rw [hrun, answering, bind_ok hno]
      rfl
    · rw [hc] at ha
      cases ha
  · subst hep
    refine ⟨.pointer t.ep, w.add t, ?_, hok, .opens hfresh (hopen _ hP)⟩
    rw [hrun, answering, bind_ok hyes]
    rfl

theorem close_safe (hw : w.Ok) (hep : w.Known ep) : Safe o (.close ep) w := by
  by_cases h0 : ep = 0
  · refine ⟨.done (), w, ?_, hw, .nothing (fun a ha => by cases ha) fun a ha => by cases ha⟩
    rw [Call.run, answering, cxlmiClose, if_pos h0]
    rfl
  · obtain ⟨t, hfind⟩ := Option.isSome_iff_exists.mp (hep.resolve_left h0)
    obtain ⟨hep, us, vs, hts, hus⟩ := find_split hfind
    have ht := hw.sound t (List.mem_of_find?_eq_some hfind)
    have huse : (ep, Kind.endpoint) ∈ w.cells :=
      mem_cells (List.mem_of_find?_eq_some hfind) (hep ▸ mem_self_add ..)
    have hremove : w.remove ep = { w with slots := us ++ vs } := by
      have hus' : ∀ u ∈ us, ¬(u.ep == ep) = true := fun u hu h => hus u hu (beq_iff_eq.mp h)
      have herase : (t :: vs).eraseP (fun u => u.ep == ep) = vs := List.eraseP_cons_of_pos (beq_iff_eq.mpr hep)
      rw [World.remove, hts, List.eraseP_append_right _ hus', herase]
    have hlive := hw.live
    rw [cells_split hts] at hlive
    have hstep : cxlmiClose w ep w.cells = .ok (((), w.remove ep), (w.remove ep).cells) := by
      rw [cxlmiClose, if_neg h0, withSlot, bind_ok (use_ok huse), hfind, bind_ok (orWild_some t _),
        bind_ok (close_ok hw.live hts ht.identified), hremove]
      rfl
    refine ⟨.done (), w.remove ep, ?_, ?_, ?_⟩
    · rw [Call.run, answering, bind_ok hstep]
      rfl
    · rw [hremove]
      refine ⟨hlive.of_add, fun u hu => hw.sound u ?_⟩
      rw [hts]
      rcases List.mem_append.mp hu with hu | hu
      · exact List.mem_append_left _ hu
      · exact List.mem_append_right us (List.mem_cons_of_mem t hu)
    · rw [hremove]
      exact .closes hts (by rw [hep])

/-- A call that keeps to the rules. -/
theorem call_safe (hw : w.Ok) (h : c.Proper w) : Safe o c w := by
  cases c with
  | openDev devname sys =>
    exact open_safe hw (openDev_opens hw devname sys h) rfl (fun e he => by rw [he]; rfl) rfl
  | openMctp netid eid sys =>
    refine open_safe hw (openMctp_opens hw netid eid sys h.1 h.2) rfl (fun e he => ?_) rfl
    obtain ⟨l, hl, rfl⟩ := Option.map_eq_some_iff.mp he
    rw [Call.opened, hl]
    rfl
  | openMock sys => exact open_safe hw (openMock_opens hw sys h) rfl (fun e he => by rw [he]; rfl) rfl
  | close ep => exact close_safe hw h
  | enableFmapi ep sock =>
    exact onEndpoint_safe hw h (fun t s _ _ hok ht => enableFmapi_serves sock hok ht) rfl (fun _ => rfl)
      (fun _ _ h => by cases h) rfl
  | disableFmapi ep =>
    refine onEndpoint_safe hw h.1 (fun t s hfind _ hok ht => disableFmapi_serves hok ht fun hm => ?_) rfl (fun _ => rfl)
      (fun _ _ h => by cases h) rfl
    have hnot := h.2
    rw [hfind, Option.all_some, (isMockEndpoint_kind ht.identified).mpr hm] at hnot
    cases hnot
  | setResponse ep set cmd code payload sys =>
    exact onEndpoint_safe hw h.1 (fun t s _ hs hok ht => setResponse_serves set cmd code payload hok ht (hs ▸ h.2)) rfl
      (fun _ => rfl) (fun _ _ h => by cases h) rfl
  | clearResponses ep =>
    exact onEndpoint_safe hw h (fun t s _ _ hok ht => clearResponses_serves hok ht) rfl (fun _ => rfl)
      (fun _ _ h => by cases h) rfl
  | command ep c place =>
    obtain ⟨t, hfind⟩ := Option.isSome_iff_exists.mp h.1
    refine onOpen_safe hw hfind (fun s hs => ?_) rfl (fun _ => rfl) (fun _ _ h => by cases h) rfl
    refine command_serves c (hs ▸ hw.live) (hw.sound t (List.mem_of_find?_eq_some hfind)) ?_
    rcases h.2 with hfresh | hlast
    · exact Or.inr (hs ▸ hfresh)
    · rw [hfind] at hlast
      exact Or.inl (beq_iff_eq.mp hlast)

/-! ### Runs -/

def runCalls (o : ByteOrder) : List Call → World → Act (List Answer × World)
  | [], w => return ([], w)
  | c :: cs, w => do
      let r ← c.run o w
      let rs ← runCalls o cs r.2
      return (r.1 :: rs.1, rs.2)

/-- No answers are there without a context. -/
def session (o : ByteOrder) (place : Addr) (probeEnabled : Bool) (cs : List Call) : Act (Option (List Answer)) := do
  match ← cxlmiNewCtx place probeEnabled with
  | none => return none
  | some w =>
      let r ← runCalls o cs w
      cxlmiFreeCtx r.2
      return some r.1

/- `P` holds of what comes next, if anything does. -/
def OnNext (P : World → Prop) : Except Fault ((Answer × World) × Live) → Prop
  | .ok r => P r.1.2
  | .error _ => True

def ProperRun (o : ByteOrder) : List Call → World → Prop
  | [], _ => True
  | c :: cs, w => c.Proper w ∧ OnNext (ProperRun o cs) (c.run o w w.cells)

inductive DoesAll (o : ByteOrder) : List Call → World → List Answer → World → Prop where
  | nil {w : World} : DoesAll o [] w [] w
  | cons {c : Call} {cs : List Call} {w w' w'' : World} {a : Answer} {as : List Answer} :
      Does o c w a w' → DoesAll o cs w' as w'' → DoesAll o (c :: cs) w (a :: as) w''

theorem DoesAll.length {cs : List Call} {as : List Answer} {w' : World} (h : DoesAll o cs w as w') :
    as.length = cs.length := by
  induction h with
  | nil => rfl
  | cons _ _ ih => rw [List.length_cons, List.length_cons, ih]

theorem runCalls_safe {cs : List Call} (hw : w.Ok) (h : ProperRun o cs w) :
    ∃ as w', runCalls o cs w w.cells = .ok ((as, w'), w'.cells) ∧ w'.Ok ∧ DoesAll o cs w as w' := by
  induction cs generalizing w with
  | nil => exact ⟨[], w, rfl, hw, .nil⟩
  | cons c cs ih =>
    obtain ⟨a, w₁, hrun, hw₁, hdoes⟩ := call_safe (o := o) hw h.1
    have hnext := h.2
    rw [hrun] at hnext
    obtain ⟨as, w₂, hrest, hw₂, hall⟩ := ih hw₁ hnext
    refine ⟨a :: as, w₂, ?_, hw₂, .cons hdoes hall⟩
    rw [runCalls, bind_ok hrun, bind_ok hrest]
    rfl

theorem new_ok {place : Addr} (probeEnabled : Bool) (h0 : place ≠ 0) : World.Ok ⟨place, probeEnabled, []⟩ := by
  have hempty : Live.Ok 0 := ⟨Multiset.nodup_zero, Multiset.notMem_zero 0⟩
  have hcells : World.cells ⟨place, probeEnabled, []⟩ = {(place, .ctx)} + 0 := rfl
  exact ⟨hcells ▸ hempty.alloc h0 (Multiset.notMem_zero place), fun t ht => by cases ht⟩

theorem session_does {place : Addr} {probeEnabled : Bool} {cs : List Call}
    (h : ProperRun o cs ⟨place, probeEnabled, []⟩) (h0 : place ≠ 0) :
    ∃ as w, session o place probeEnabled cs 0 = .ok (some as, 0) ∧ DoesAll o cs ⟨place, probeEnabled, []⟩ as w := by
  obtain ⟨as, w, hrun, hw, hdoes⟩ := runCalls_safe (new_ok probeEnabled h0) h
  refine ⟨as, w, ?_, hdoes⟩
  have hnew : cxlmiNewCtx place probeEnabled 0 =
      .ok (some ⟨place, probeEnabled, []⟩, World.cells ⟨place, probeEnabled, []⟩) := by
    have hfree : place ∉ Live.places 0 := Multiset.notMem_zero place
    rw [cxlmiNewCtx, bind_ok (alloc_ok h0 hfree), if_neg h0]
    rfl
  rw [session, bind_ok hnew]
  dsimp only
  rw [bind_ok hrun, bind_ok (freeCtx_ok hw.live fun t ht => (hw.sound t ht).identified)]
  rfl

section Decide

variable (o : ByteOrder)

instance Live.decidableFresh (s : Live) (a : Addr) : Decidable (s.Fresh a) := inferInstanceAs (Decidable (_ ∨ _))

instance Live.decidableFreshPair (s : Live) (a b : Addr) : Decidable (s.FreshPair a b) :=
  inferInstanceAs (Decidable (_ ∧ _ ∧ _))

instance World.decidableKnown (w : World) (ep : Addr) : Decidable (w.Known ep) := inferInstanceAs (Decidable (_ ∨ _))

instance OnNext.decidable (P : World → Prop) [DecidablePred P] :
    ∀ r : Except Fault ((Answer × World) × Live), Decidable (OnNext P r)
  | .ok r => inferInstanceAs (Decidable (P r.1.2))
  | .error _ => isTrue trivial

instance Call.decidableProper (w : World) : ∀ c : Call, Decidable (c.Proper w)
  | .openDev _ _ => inferInstanceAs (Decidable (Live.FreshPair ..))
  | .openMctp _ _ _ => inferInstanceAs (Decidable (Live.FreshPair .. ∧ _))
  | .openMock _ => inferInstanceAs (Decidable (Live.FreshPair ..))
  | .close _ => inferInstanceAs (Decidable (World.Known ..))
  | .enableFmapi _ _ => inferInstanceAs (Decidable (World.Known ..))
  | .disableFmapi _ => inferInstanceAs (Decidable (World.Known .. ∧ _))
  | .setResponse _ _ _ _ _ _ => inferInstanceAs (Decidable (World.Known .. ∧ Live.FreshPair ..))
  | .clearResponses _ => inferInstanceAs (Decidable (World.Known ..))
  | .command _ _ _ => inferInstanceAs (Decidable (_ ∧ (Live.Fresh .. ∨ _)))

instance decidableProperRun : ∀ cs, DecidablePred (ProperRun o cs)
  | [] => fun _ => isTrue trivial
  | c :: cs => fun w =>
      have := decidableProperRun cs
      inferInstanceAs (Decidable (c.Proper w ∧ OnNext _ _))

end Decide

end LibCxlmi.Heap
