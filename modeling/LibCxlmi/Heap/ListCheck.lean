import LibCxlmi.Heap.CcanList

/-!
# What a check of a list finds (ccan/list/list.c)

`list_check_node` follows `next` and looks whether `prev` leads back, until it is at its
start again. It does so on memory of which nothing is known, where `next` may lead into
a loop that the start is not on.
-/

namespace LibCxlmi.Heap

/-- The check has come from `node` over `ys` to `p`, and all was well. -/
structure Way (m : Nodes Addr) (node : Addr) (ys : List Addr) (p : Addr) : Prop where
  last : ∃ l, node :: ys = l ++ [p]
  edges : (node :: ys).IsChain m.Edge
  nodup : (node :: ys).Nodup
  places : ∀ a ∈ node :: ys, a ∈ m.places

section Check

variable {m : Nodes Addr} {node p n : Addr} {ys zs : List Addr}

theorem Way.start (h : node ∈ m.places) : Way m node [] node :=
  ⟨⟨[], rfl⟩, .singleton node, List.nodup_singleton node, fun _ ha => (List.mem_singleton.mp ha) ▸ h⟩

theorem Way.last_mem (hw : Way m node ys p) : p ∈ m.places := by
  obtain ⟨l, hl⟩ := hw.last
  refine hw.places p ?_
  rw [hl]
  exact List.mem_append_right l (List.mem_singleton_self p)

/- The nodes on the way are all different, so there are no more of them than places. -/
theorem Way.length_lt (hw : Way m node ys p) : ys.length < m.places.length := by
  have hle := (List.subperm_of_subset hw.nodup hw.places).length_le
  rwa [List.length_cons] at hle

/- A node that `p` points at and that points back is met for the first time: whoever came
before it on the way would be `p` itself, which is the last. -/
theorem Way.new (hw : Way m node ys p) (hn : n ≠ node) (hprev : m.prev n = p) : n ∉ node :: ys := by
  obtain ⟨l, hl⟩ := hw.last
  intro hmem
  rcases List.mem_cons.mp hmem with hn' | hmem
  · exact hn hn'
  · obtain ⟨as, bs, hys⟩ := List.append_of_mem hmem
    obtain ⟨cs, q, hq⟩ := Nodes.exists_concat node as
    have hway : node :: ys = cs ++ q :: n :: bs := by
      rw [hys, ← List.cons_append, hq, List.append_assoc, List.singleton_append]
    have hc := hw.edges
    have hnd := hw.nodup
    rw [hway] at hc hnd
    have hqp : q = p := (List.isChain_append_cons_cons.mp hc).2.1.prev.symm.trans hprev
    have hlast : (node :: ys).getLast? = some p := by rw [hl, List.getLast?_concat]
    rw [hway, List.append_cons, List.getLast?_append_cons] at hlast
    rw [List.append_cons] at hnd
    exact (List.nodup_append.mp hnd).2.2 q (by simp) p (List.mem_of_getLast? hlast) hqp

theorem Way.snoc (hw : Way m node ys p) (hnext : m.next p = n) (hn : n ≠ node) (hmem : n ∈ m.places)
    (hprev : m.prev n = p) : Way m node (ys ++ [n]) n := by
  obtain ⟨l, hl⟩ := hw.last
  refine ⟨⟨node :: ys, rfl⟩, ?_, Nodes.nodup_append_singleton hw.nodup (hw.new hn hprev), ?_⟩
  · rw [← List.cons_append, hl, List.append_assoc]
    exact List.isChain_append_cons_cons.mpr
      ⟨hl ▸ hw.edges, ⟨hw.last_mem, hmem, hnext, hprev⟩, .singleton n⟩
  · intro a ha
    rcases List.mem_append.mp (List.cons_append ▸ ha : a ∈ node :: ys ++ [n]) with ha | ha
    · exact hw.places a ha
    · exact (List.mem_singleton.mp ha) ▸ hmem

theorem Way.close (hw : Way m node ys p) (hnext : m.next p = node) (hprev : m.prev node = p) : m.Ring node ys := by
  obtain ⟨l, hl⟩ := hw.last
  refine ⟨?_, hw.nodup⟩
  rw [← List.cons_append, hl, List.append_assoc]
  have hmem := hw.places node List.mem_cons_self
  exact List.isChain_append_cons_cons.mpr ⟨hl ▸ hw.edges, ⟨hw.last_mem, hmem, hnext, hprev⟩, .singleton node⟩

/- `next` leads to one node only, so that of two ways one is the beginning of the other. -/
theorem chain_compare {a : Addr} (hy : (a :: ys).IsChain m.Edge) (hz : (a :: zs).IsChain m.Edge) :
    (∃ ws, zs = ys ++ ws) ∨ ∃ ws, ys = zs ++ ws := by
  induction ys generalizing a zs with
  | nil => exact Or.inl ⟨zs, rfl⟩
  | cons y ys ih =>
    cases zs with
    | nil => exact Or.inr ⟨y :: ys, rfl⟩
    | cons z zs =>
      obtain ⟨hay, hy⟩ := List.isChain_cons_cons.mp hy
      obtain ⟨haz, hz⟩ := List.isChain_cons_cons.mp hz
      obtain rfl : y = z := hay.next.symm.trans haz.next
      rcases ih hy hz with ⟨ws, rfl⟩ | ⟨ws, rfl⟩
      · exact Or.inl ⟨ws, rfl⟩
      · exact Or.inr ⟨ws, rfl⟩

theorem Way.edge_of_longer {q : Addr} (hw : Way m node ys p) (hc : (node :: (ys ++ q :: zs)).IsChain m.Edge) :
    m.Edge p (m.next p) := by
  obtain ⟨l, hl⟩ := hw.last
  rw [← List.cons_append, hl, List.append_assoc, List.singleton_append] at hc
  have he := (List.isChain_append_cons_cons.mp hc).2.1
  exact he.next.symm ▸ he

/- In a ring there is no way but along the ring. -/
theorem Way.edge_of_ring {xs : List Addr} (hw : Way m node ys p) (hr : m.Ring node xs) : m.Edge p (m.next p) := by
  have hn : ∀ ws, ys ≠ xs ++ [node] ++ ws := by
    intro ws he
    exact (List.nodup_cons.mp hw.nodup).1 (by rw [he]; simp)
  have hc := hr.edges
  rcases chain_compare hw.edges hc with ⟨ws, hws⟩ | ⟨ws, hws⟩
  · cases ws with
    | nil => exact absurd (by rw [hws, List.append_nil, List.append_nil]) (hn [])
    | cons q ws =>
      rw [hws] at hc
      exact hw.edge_of_longer hc
  · exact absurd hws (hn ws)

/- Two ways that do not go on are one. -/
theorem Way.stop_unique {p' : Addr} (hw : Way m node ys p) (hw' : Way m node zs p') (hp : ¬m.Edge p (m.next p))
    (hp' : ¬m.Edge p' (m.next p')) : p = p' := by
  have hlast : ys = zs → p = p' := by
    rintro rfl
    obtain ⟨l, hl⟩ := hw.last
    obtain ⟨l', hl'⟩ := hw'.last
    exact List.singleton_inj.mp (List.append_inj_right' (hl.symm.trans hl') rfl)
  rcases chain_compare hw.edges hw'.edges with ⟨ws, rfl⟩ | ⟨ws, rfl⟩
  · cases ws with
    | nil => exact hlast (List.append_nil ys).symm
    | cons q ws => exact absurd (hw.edge_of_longer hw'.edges) hp
  · cases ws with
    | nil => exact hlast (List.append_nil zs)
    | cons q ws => exact absurd (hw'.edge_of_longer hw.edges) hp'

/-- The node that the last one on the way points at does not point back. -/
def Way.Corrupt (m : Nodes Addr) (node : Addr) : Prop :=
  ∃ ys p, Way m node ys p ∧ m.next p ∈ m.places ∧ m.prev (m.next p) ≠ p

/-- The last node on the way points at no node, or there is none to begin with. -/
def Way.Lost (m : Nodes Addr) (node : Addr) : Prop :=
  node ∉ m.places ∨ ∃ ys p, Way m node ys p ∧ m.next p ∉ m.places

theorem checkFrom_cases (steps : ℕ) (hw : Way m node ys p) (hnext : m.next p = n)
    (hsteps : m.places.length ≤ steps + ys.length) :
    (checkFrom m node steps p n = .ok true ∧ ∃ xs, m.Ring node xs) ∨
      (checkFrom m node steps p n = .ok false ∧ Way.Corrupt m node) ∨
      (checkFrom m node steps p n = .error .wild ∧ Way.Lost m node) := by
  subst hnext
  induction steps generalizing ys p with
  | zero =>
    have hlt := hw.length_lt
    omega
  | succ steps ih =>
    rw [checkFrom]
    by_cases hmem : m.next p ∈ m.places
    · by_cases hprev : m.prev (m.next p) = p
      · by_cases hn : m.next p = node
        · rw [if_pos hn, readPrev_of_mem (hn ▸ hmem), ← hn, hprev]
          exact Or.inl ⟨by simp [Except.map], ys, hn ▸ hw.close hn (hn ▸ hprev)⟩
        · have hlen : m.places.length ≤ steps + (ys ++ [m.next p]).length := by
            rw [List.length_append, List.length_singleton]
            omega
          rw [if_neg hn, readPrev_of_mem hmem, readNext_of_mem hmem]
          simpa only [Except.bind, hprev, ne_eq, not_true, if_false] using ih (hw.snoc rfl hn hmem hprev) hlen
      · refine Or.inr (Or.inl ⟨?_, ys, p, hw, hmem, hprev⟩)
        split_ifs with hn
        · rw [readPrev_of_mem (hn ▸ hmem), ← hn]
          simp [Except.map, hprev]
        · rw [readPrev_of_mem hmem]
          simp [Except.bind, hprev]
    · refine Or.inr (Or.inr ⟨?_, Or.inr ⟨ys, p, hw, hmem⟩⟩)
      have hn : m.next p ≠ node := fun h => hmem (h ▸ hw.places node List.mem_cons_self)
      rw [if_neg hn, readPrev, if_neg hmem]
      rfl

theorem listCheckNode_cases (m : Nodes Addr) (node : Addr) :
    (listCheckNode m node = .ok true ∧ ∃ xs, m.Ring node xs) ∨
      (listCheckNode m node = .ok false ∧ Way.Corrupt m node) ∨
      (listCheckNode m node = .error .wild ∧ Way.Lost m node) := by
  unfold listCheckNode
  by_cases hmem : node ∈ m.places
  · rw [readNext_of_mem hmem]
    exact checkFrom_cases m.places.length (Way.start hmem) rfl (Nat.le_refl _)
  · rw [readNext, if_neg hmem]
    exact Or.inr (Or.inr ⟨rfl, Or.inl hmem⟩)

theorem Nodes.Ring.not_corrupt {xs : List Addr} (hr : m.Ring node xs) : ¬Way.Corrupt m node := by
  rintro ⟨ys, p, hw, -, hprev⟩
  exact hprev (hw.edge_of_ring hr).prev

theorem Nodes.Ring.not_lost {xs : List Addr} (hr : m.Ring node xs) : ¬Way.Lost m node := by
  rintro (hmem | ⟨ys, p, hw, hmem⟩)
  · exact hmem (hr.mem_places node List.mem_cons_self)
  · exact hmem (hw.edge_of_ring hr).right

theorem Way.Corrupt.not_lost (hc : Way.Corrupt m node) : ¬Way.Lost m node := by
  obtain ⟨ys, p, hw, hmem, hprev⟩ := hc
  rintro (hstart | ⟨zs, p', hw', hmem'⟩)
  · exact hstart (hw.places node List.mem_cons_self)
  · have hp := hw.stop_unique hw' (fun he => hprev he.prev) (fun he => hmem' he.right)
    exact hmem' (hp ▸ hmem)

theorem listCheckNode_ring {xs : List Addr} (hr : m.Ring node xs) : listCheckNode m node = .ok true := by
  rcases listCheckNode_cases m node with ⟨h, -⟩ | ⟨-, h⟩ | ⟨-, h⟩
  · exact h
  · exact absurd h hr.not_corrupt
  · exact absurd h hr.not_lost

end Check

/-- Whatever is in memory, the check comes to an end. It accepts rings and nothing else,
and refuses lists that lead to a node which does not point back; on others it reads what
is no node. -/
theorem list_check_verdict (m : Nodes Addr) (node : Addr) :
    (listCheckNode m node = .ok true ↔ ∃ xs, m.Ring node xs) ∧
      (listCheckNode m node = .ok false ↔ Way.Corrupt m node) ∧
      (listCheckNode m node = .error .wild ↔ Way.Lost m node) ∧
      (listCheckNode m node = .ok true ∨ listCheckNode m node = .ok false ∨ listCheckNode m node = .error .wild) := by
  rcases listCheckNode_cases m node with ⟨h, xs, hr⟩ | ⟨h, hc⟩ | ⟨h, hl⟩
  · have hx : ∃ xs, m.Ring node xs := ⟨xs, hr⟩
    simp [h, hx, hr.not_corrupt, hr.not_lost]
  · have hr : ¬∃ xs, m.Ring node xs := fun ⟨xs, hr⟩ => hr.not_corrupt hc
    simp [h, hc, hr, hc.not_lost]
  · have hr : ¬∃ xs, m.Ring node xs := fun ⟨xs, hr⟩ => hr.not_lost hl
    have hc : ¬Way.Corrupt m node := fun hc => hc.not_lost hl
    simp [h, hl, hr, hc]

end LibCxlmi.Heap
