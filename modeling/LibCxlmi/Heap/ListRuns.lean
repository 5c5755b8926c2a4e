import LibCxlmi.Heap.ListOps
import Mathlib.Data.Multiset.Bind

/-!
# Programs on lists

A program keeps any number of lists, with a head each, and uses a node on one of them at a
time. Whatever it does with them, the nodes in memory are rings that hold the lists, in a
debug build and in a release build alike; so the checks of a debug build find nothing.
-/

namespace LibCxlmi.Heap

/-- The lists, each with its head. -/
abbrev Lists := Multiset (Addr × List Addr)

def Lists.nodes (L : Lists) : Multiset Addr := L.bind fun l => ((l.1 :: l.2 : List Addr) : Multiset Addr)

inductive ListOp where
  | init (h : Addr)
  | nodeInit (n : Addr)
  | add (h n : Addr)
  | addTail (h n : Addr)
  | del (n : Addr)
  | drain (h : Addr)
  | top (h : Addr)
  | next (h i : Addr)

/-- What the operations are for, and what they return. -/
inductive Lists.Step (places : List Addr) : Lists → ListOp → Addr → Lists → Prop where
  | init {L : Lists} {h : Addr} : h ∈ places → h ∉ L.nodes → Step places L (.init h) 0 ({(h, [])} + L)
  | nodeInit {L : Lists} {n : Addr} : n ∈ places → n ∉ L.nodes → Step places L (.nodeInit n) 0 L
  | add {L : Lists} {h n : Addr} {xs : List Addr} : n ∈ places → n ∉ Lists.nodes ({(h, xs)} + L) →
      Step places ({(h, xs)} + L) (.add h n) 0 ({(h, n :: xs)} + L)
  | addTail {L : Lists} {h n : Addr} {xs : List Addr} : n ∈ places → n ∉ Lists.nodes ({(h, xs)} + L) →
      Step places ({(h, xs)} + L) (.addTail h n) 0 ({(h, xs ++ [n])} + L)
  | del {L : Lists} {h n : Addr} {ys zs : List Addr} :
      Step places ({(h, ys ++ n :: zs)} + L) (.del n) 0 ({(h, ys ++ zs)} + L)
  | drain {L : Lists} {h : Addr} {xs : List Addr} : Step places ({(h, xs)} + L) (.drain h) 0 ({(h, [])} + L)
  | top {L : Lists} {h : Addr} {xs : List Addr} : Step places ({(h, xs)} + L) (.top h) (xs.headD 0) ({(h, xs)} + L)
  | next {L : Lists} {h i : Addr} {ys zs : List Addr} :
      Step places ({(h, ys ++ i :: zs)} + L) (.next h i) (zs.headD 0) ({(h, ys ++ i :: zs)} + L)

inductive Lists.Runs (places : List Addr) : Lists → List ListOp → List Addr → Lists → Prop where
  | nil {L : Lists} : Runs places L [] [] L
  | cons {L L' L'' : Lists} {op : ListOp} {ops : List ListOp} {x : Addr} {xs : List Addr} :
      Step places L op x L' → Runs places L' ops xs L'' → Runs places L (op :: ops) (x :: xs) L''

def ListOp.run (debug : Bool) (m : Nodes Addr) : ListOp → Except Fault (Addr × Nodes Addr)
  | .init h => (listHeadInit m h).map fun m => (0, m)
  | .nodeInit n => (listNodeInit m n).map fun m => (0, m)
  | .add h n => (listAdd debug m h n).map fun m => (0, m)
  | .addTail h n => (listAddTail debug m h n).map fun m => (0, m)
  | .del n => (listDel debug m n).map fun m => (0, m)
  | .drain h => (listDrain debug m h).map fun m => (0, m)
  | .top h => (listTop debug m h).map fun x => (x, m)
  | .next h i => (listNext debug m h i).map fun x => (x, m)

def runOps (debug : Bool) : List ListOp → Nodes Addr → Except Fault (List Addr × Nodes Addr)
  | [], m => .ok ([], m)
  | op :: ops, m => do
      let r ← op.run debug m
      let rs ← runOps debug ops r.2
      return (r.1 :: rs.1, rs.2)

/-! ### Lists in memory -/

/-- Each list is a ring, and no node is on two of them. -/
structure Lists.In (L : Lists) (m : Nodes Addr) : Prop where
  ring : ∀ l ∈ L, m.Ring l.1 l.2
  apart : L.nodes.Nodup

variable {m m' : Nodes Addr} {L : Lists} {h n : Addr} {xs ys zs : List Addr} (debug : Bool)

theorem nodes_add (l : Addr × List Addr) (L : Lists) :
    Lists.nodes ({l} + L) = ((l.1 :: l.2 : List Addr) : Multiset Addr) + L.nodes := by
  rw [Lists.nodes, Multiset.add_bind, Multiset.singleton_bind]
  rfl

theorem Lists.In.head (hm : Lists.In ({(h, xs)} + L) m) : m.Ring h xs :=
  hm.ring (h, xs) (Multiset.mem_add.mpr (Or.inl (Multiset.mem_singleton_self _)))

/- A node that is on none of the lists. -/
theorem Lists.In.beside (hm : L.In m) (hs : m.SameOutside m' [n]) (hn : n ∉ L.nodes) : ∀ l ∈ L, m'.Ring l.1 l.2 := by
  intro l hl
  refine (hm.ring l hl).frame_outside hs fun a ha hmem => hn ?_
  exact Multiset.mem_bind.mpr ⟨l, hl, List.mem_singleton.mp hmem ▸ ha⟩

/- One list has changed and the others are where they were. -/
theorem Lists.In.change (hm : Lists.In ({(h, xs)} + L) m) (hr : m'.Ring h ys) (new : List Addr)
    (hs : m.SameOutside m' (h :: (new ++ xs))) (hnew : ∀ a ∈ new, a ∉ Lists.nodes L) (hys : ∀ a ∈ ys, a ∈ new ++ xs) :
    Lists.In ({(h, ys)} + L) m' := by
  have hapart := hm.apart
  rw [nodes_add, Multiset.nodup_add] at hapart
  obtain ⟨-, hL, hdis⟩ := hapart
  -- the nodes that were written are not on the other lists
  have hout : ∀ a ∈ h :: (new ++ xs), a ∉ L.nodes := by
    intro a ha
    rcases List.mem_cons.mp ha with rfl | ha
    · exact Multiset.disjoint_left.mp hdis List.mem_cons_self
    · rcases List.mem_append.mp ha with ha | ha
      · exact hnew a ha
      · exact Multiset.disjoint_left.mp hdis (List.mem_cons_of_mem h ha)
  constructor
  · intro l hl
    rcases Multiset.mem_add.mp hl with hl | hl
    · rw [Multiset.mem_singleton.mp hl]
      exact hr
    · refine (hm.ring l (Multiset.mem_add.mpr (Or.inr hl))).frame_outside hs fun a ha hmem => hout a hmem ?_
      exact Multiset.mem_bind.mpr ⟨l, hl, ha⟩
  · rw [nodes_add, Multiset.nodup_add]
    refine ⟨Multiset.coe_nodup.mpr hr.nodup, hL, Multiset.disjoint_left.mpr fun {a} ha => hout a ?_⟩
    rcases List.mem_cons.mp ha with rfl | ha
    · exact List.mem_cons_self
    · exact List.mem_cons_of_mem h (hys a ha)

/-! ### The loop -/

theorem headD_mem (h : Addr) (xs : List Addr) : xs.headD h ∈ h :: xs := by
  cases xs with
  | nil => exact List.mem_cons_self
  | cons x xs => exact List.mem_cons_of_mem h List.mem_cons_self

theorem readNext_headD (hr : m.Ring h xs) : readNext m (xs.headD h) = .ok (xs.tail.headD h) := by
  rw [readNext_of_mem (hr.mem_places _ (headD_mem h xs)), hr.next_headD]

/- The entries still to come are `xs`. -/
theorem drainFrom_ring (xs : List Addr) (steps : ℕ) (m : Nodes Addr) (hr : m.Ring h xs) (hsteps : xs.length < steps) :
    ∃ m', drainFrom debug h steps (xs.headD h) (xs.tail.headD h) m = .ok m' ∧ m'.Ring h [] ∧
      m.SameOutside m' (h :: xs) := by
  induction xs generalizing steps m with
  | nil =>
    obtain ⟨steps, rfl⟩ : ∃ k, steps = k + 1 := ⟨steps - 1, by simp only [List.length_nil] at hsteps; omega⟩
    exact ⟨m, if_pos rfl, hr, rfl, fun _ _ => rfl, fun _ _ => rfl⟩
  | cons x xs ih =>
    obtain ⟨steps, rfl⟩ : ∃ k, steps = k + 1 := ⟨steps - 1, by omega⟩
    have hr' : m.Ring h ([] ++ x :: xs) := hr
    have hx : x ≠ h := hr'.ne_head
    obtain ⟨m₁, hdel, hr₁, hs₁⟩ := listDel_ring debug hr'
    obtain ⟨m₂, hrest, hr₂, hs₂⟩ := ih steps m₁ hr₁ (Nat.lt_of_succ_lt_succ hsteps)
    have hsub : ∀ a, a ∉ h :: x :: xs → a ∉ h :: xs := fun a ha hmem => ha (by
      rcases List.mem_cons.mp hmem with rfl | hmem
      · exact List.mem_cons_self
      · exact List.mem_cons_of_mem h (List.mem_cons_of_mem x hmem))
    have hread : readNext m₁ (xs.headD h) = .ok (xs.tail.headD h) := readNext_headD hr₁
    refine ⟨m₂, ?_, hr₂, hs₂.places.trans hs₁.places, ?_, ?_⟩
    · show drainFrom debug h (steps + 1) x (xs.headD h) m = _
      rw [drainFrom, if_neg hx, hdel]
      show (readNext m₁ (xs.headD h) >>= fun n => drainFrom debug h steps (xs.headD h) n m₁) = _
      rw [hread]
      exact hrest
    · intro a ha
      rw [hs₂.next a (hsub a ha), hs₁.next a ha]
    · intro a ha
      rw [hs₂.prev a (hsub a ha), hs₁.prev a ha]

theorem listDrain_ring (hr : m.Ring h xs) :
    ∃ m', listDrain debug m h = .ok m' ∧ m'.Ring h [] ∧ m.SameOutside m' (h :: xs) := by
  obtain ⟨m', hrun, hr', hs⟩ := drainFrom_ring debug xs m.places.length m hr hr.length_lt
  refine ⟨m', ?_, hr', hs⟩
  have hfirst : readNext m h = .ok (xs.headD h) := by
    rw [readNext_of_mem (hr.mem_places h List.mem_cons_self), hr.next_head]
  rw [listDrain, listDebug_ring debug hr, hfirst]
  show (readNext m (xs.headD h) >>= fun n => drainFrom debug h m.places.length (xs.headD h) n m) = _
  rw [readNext_headD hr]
  exact hrun

/-! ### Refinement -/

theorem map_run {α γ : Type} {r : Except Fault α} {x : α} (f : α → γ) (h : r = .ok x) : r.map f = .ok (f x) := by
  rw [h]
  rfl

theorem listStep_refines {op : ListOp} {x : Addr} {L' : Lists} (hm : L.In m) (h : Lists.Step m.places L op x L') :
    ∃ m', op.run debug m = .ok (x, m') ∧ L'.In m' ∧ m'.places = m.places := by
  cases h with
  | @init _ h hplace hout =>
    obtain ⟨m', hrun, hr, hs⟩ := listHeadInit_ring hplace
    refine ⟨m', map_run _ hrun, ⟨?_, ?_⟩, hs.places⟩
    · intro l hl
      rcases Multiset.mem_add.mp hl with hl | hl
      · rw [Multiset.mem_singleton.mp hl]
        exact hr
      · exact hm.beside hs hout l hl
    · rw [nodes_add]
      exact Multiset.nodup_cons.mpr ⟨hout, hm.apart⟩
  | nodeInit hplace hout =>
    -- it is the function for heads, for a node that is on no list
    obtain ⟨m', hrun, -, hs⟩ := listHeadInit_ring hplace
    exact ⟨m', map_run _ hrun, ⟨hm.beside hs hout, hm.apart⟩, hs.places⟩
  | @add L h n xs hplace hout =>
    rw [nodes_add, Multiset.mem_add, not_or] at hout
    obtain ⟨m', hrun, hr, hs⟩ := listAdd_ring debug hm.head hout.1 hplace
    refine ⟨m', map_run _ hrun, hm.change hr [n] hs ?_ fun a ha => ha, hs.places⟩
    exact fun a ha => List.mem_singleton.mp ha ▸ hout.2
  | @addTail L h n xs hplace hout =>
    rw [nodes_add, Multiset.mem_add, not_or] at hout
    obtain ⟨m', hrun, hr, hs⟩ := listAddTail_ring debug hm.head hout.1 hplace
    refine ⟨m', map_run _ hrun, hm.change hr [n] hs ?_ ?_, hs.places⟩
    · exact fun a ha => List.mem_singleton.mp ha ▸ hout.2
    · exact fun a ha => List.mem_append.mpr (List.mem_append.mp ha).symm
  | @del L h n ys zs =>
    obtain ⟨m', hrun, hr, hs⟩ := listDel_ring debug hm.head
    refine ⟨m', map_run _ hrun, hm.change hr [] hs (fun a ha => by cases ha) ?_, hs.places⟩
    intro a ha
    rw [List.nil_append]
    rcases List.mem_append.mp ha with ha | ha
    · exact List.mem_append_left _ ha
    · exact List.mem_append_right ys (List.mem_cons_of_mem n ha)
  | drain =>
    obtain ⟨m', hrun, hr, hs⟩ := listDrain_ring debug hm.head
    exact ⟨m', map_run _ hrun, hm.change hr [] hs (fun a ha => by cases ha) (fun a ha => by cases ha), hs.places⟩
  | top => exact ⟨m, map_run _ (listTop_ring debug hm.head), hm, rfl⟩
  | next => exact ⟨m, map_run _ (listNext_ring debug hm.head), hm, rfl⟩

/-- Lists in memory are what they are for: a program on them returns what it would for
sequences and never faults, whether lists are checked or not. -/
theorem list_programs_refine (debug : Bool) {m : Nodes Addr} {L L' : Lists} {ops : List ListOp} {xs : List Addr}
    (hm : L.In m) (h : Lists.Runs m.places L ops xs L') :
    ∃ m', runOps debug ops m = .ok (xs, m') ∧ L'.In m' := by
  generalize hplaces : m.places = places at h
  induction h generalizing m with
  | nil => exact ⟨m, rfl, hm⟩
  | cons hstep _ ih =>
    obtain ⟨m₁, hrun, hm₁, hp₁⟩ := listStep_refines debug hm (hplaces ▸ hstep)
    obtain ⟨m₂, hrest, hm₂⟩ := ih hm₁ (hp₁.trans hplaces)
    refine ⟨m₂, ?_, hm₂⟩
    rw [runOps, hrun]
    show (runOps debug _ m₁ >>= _) = _
    rw [hrest]
    rfl

/- A node goes from one list to another. -/
theorem list_programs_move : ∃ m', runOps true
    [.init 1, .nodeInit 4, .add 1 4, .add 1 3, .addTail 1 5, .next 1 4, .del 4, .init 2, .addTail 2 4, .top 2, .drain 2]
      ⟨[1, 2, 3, 4, 5], id, id⟩ = .ok ([0, 0, 0, 0, 0, 5, 0, 0, 0, 4, 0], m') ∧
    Lists.In ({(2, [])} + ({(1, [3, 5])} + 0)) m' := by
  have hempty : Lists.In 0 ⟨[1, 2, 3, 4, 5], id, id⟩ :=
    ⟨fun l hl => absurd hl (Multiset.notMem_zero l), Multiset.nodup_zero⟩
  refine list_programs_refine true hempty ?_
  refine .cons (.init (by decide) (by decide)) (.cons (.nodeInit (by decide) (by decide)) ?_)
  refine .cons (.add (by decide) (by decide)) ?_
  refine .cons (.add (by decide) (by decide)) (.cons (.addTail (by decide) (by decide)) ?_)
  refine .cons (@Lists.Step.next _ _ 1 4 [3] [5]) (.cons (@Lists.Step.del _ _ 1 4 [3] [5]) ?_)
  refine .cons (.init (by decide) (by decide)) (.cons (.addTail (by decide) (by decide)) ?_)
  exact .cons .top (.cons .drain .nil)

end LibCxlmi.Heap
