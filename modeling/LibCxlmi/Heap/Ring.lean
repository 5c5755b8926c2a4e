import Mathlib.Data.List.Chain
import Mathlib.Data.List.Nodup
import Mathlib.Data.List.Perm.Subperm
import Mathlib.Logic.Function.Basic

/-!
# Rings of nodes

Nodes with a pointer in each direction, at some of the places a pointer may lead to.
In a ring the nodes from a head through a list of others back to the head point at
each other. A pointer that is written changes one edge, so nodes are linked in and out
by rules on the edges at one place, and the rest of the ring is framed.
-/

namespace LibCxlmi.Heap

variable {α : Type}

/-- `places` are those where there is a node; what the pointers are elsewhere means
nothing. -/
structure Nodes (α : Type) where
  places : List α
  next : α → α
  prev : α → α

namespace Nodes

/-- `b` comes after `a`, and both know it. -/
structure Edge (m : Nodes α) (a b : α) : Prop where
  left : a ∈ m.places
  right : b ∈ m.places
  next : m.next a = b
  prev : m.prev b = a

/-- From `h` through `xs` back to `h`, without meeting a node twice. -/
structure Ring (m : Nodes α) (h : α) (xs : List α) : Prop where
  edges : (h :: (xs ++ [h])).IsChain m.Edge
  nodup : (h :: xs).Nodup

/-- Nodes are where they were, and those not in `l` point where they did. -/
structure SameOutside (m m' : Nodes α) (l : List α) : Prop where
  places : m'.places = m.places
  next : ∀ a, a ∉ l → m'.next a = m.next a
  prev : ∀ a, a ∉ l → m'.prev a = m.prev a

/-! ### Frames -/

theorem exists_concat (a : α) (l : List α) : ∃ l' b, a :: l = l' ++ [b] :=
  ⟨_, _, (List.dropLast_concat_getLast (List.cons_ne_nil a l)).symm⟩

theorem exists_cons (l : List α) (a : α) : ∃ b l', l ++ [a] = b :: l' := List.exists_cons_of_ne_nil (by simp)

variable {m m' : Nodes α}

/- Of the last node of a chain only `prev` matters, of the first one only `next`. -/
theorem chain_frame {l : List α} (h : l.IsChain m.Edge) (hplaces : ∀ a ∈ l, a ∈ m.places → a ∈ m'.places)
    (hnext : ∀ a ∈ l.dropLast, m'.next a = m.next a) (hprev : ∀ a ∈ l.tail, m'.prev a = m.prev a) :
    l.IsChain m'.Edge := by
  induction h with
  | nil => exact .nil
  | singleton a => exact .singleton a
  | @cons_cons a b l hab hl ih =>
    have hrest : (b :: l).IsChain m'.Edge := by
      apply ih
      · intro c hc
        exact hplaces c (List.mem_cons_of_mem a hc)
      · intro c hc
        exact hnext c (by rw [List.dropLast_cons_cons]; exact List.mem_cons_of_mem a hc)
      · intro c hc
        exact hprev c (List.mem_of_mem_tail hc)
    refine .cons_cons ⟨?_, ?_, ?_, ?_⟩ hrest
    · exact hplaces a List.mem_cons_self hab.left
    · exact hplaces b (List.mem_cons_of_mem a List.mem_cons_self) hab.right
    · rw [hnext a (by rw [List.dropLast_cons_cons]; exact List.mem_cons_self)]
      exact hab.next
    · rw [hprev b (by rw [List.tail_cons]; exact List.mem_cons_self)]
      exact hab.prev

theorem nodup_append_singleton {l : List α} {a : α} (hl : l.Nodup) (ha : a ∉ l) : (l ++ [a]).Nodup :=
  List.concat_eq_append ▸ List.Nodup.concat ha hl

theorem ring_dropLast (h : α) (xs : List α) : (h :: (xs ++ [h])).dropLast = h :: xs := by
  rw [← List.cons_append, List.dropLast_concat]

theorem Ring.empty {h : α} (hplace : h ∈ m.places) (hnext : m.next h = h) (hprev : m.prev h = h) : m.Ring h [] :=
  ⟨.cons_cons ⟨hplace, hplace, hnext, hprev⟩ (.singleton h), List.nodup_singleton h⟩

theorem mem_around {h a : α} {xs : List α} : a ∈ h :: (xs ++ [h]) ↔ a ∈ h :: xs := by
  simp only [List.mem_cons, List.mem_append, List.not_mem_nil, or_false]
  tauto

theorem Ring.frame {h : α} {xs : List α} (hr : m.Ring h xs)
    (hplaces : ∀ a ∈ h :: xs, a ∈ m.places → a ∈ m'.places)
    (hnext : ∀ a ∈ h :: xs, m'.next a = m.next a) (hprev : ∀ a ∈ h :: xs, m'.prev a = m.prev a) :
    m'.Ring h xs := by
  refine ⟨chain_frame hr.edges (fun a ha => hplaces a (mem_around.mp ha)) ?_ ?_, hr.nodup⟩
  · intro a ha
    rw [ring_dropLast] at ha
    exact hnext a ha
  · intro a ha
    exact hprev a (mem_around.mp (List.mem_of_mem_tail ha))

theorem Ring.frame_outside {h : α} {xs l : List α} (hr : m.Ring h xs) (hs : m.SameOutside m' l)
    (hd : ∀ a ∈ h :: xs, a ∉ l) : m'.Ring h xs := by
  apply hr.frame
  · intro a _ ha
    rw [hs.places]
    exact ha
  · intro a ha
    exact hs.next a (hd a ha)
  · intro a ha
    exact hs.prev a (hd a ha)

theorem chain_edge_out {l : List α} {a b : α} (hc : (l ++ [b]).IsChain m.Edge) (ha : a ∈ l) :
    m.Edge a (m.next a) ∧ m.next a ∈ l ++ [b] := by
  obtain ⟨l₁, l₂, rfl⟩ := List.append_of_mem ha
  obtain ⟨q, l', hq⟩ := exists_cons l₂ b
  rw [List.append_assoc, List.cons_append, hq] at hc ⊢
  have he := (List.isChain_append_cons_cons.mp hc).2.1
  exact ⟨he.next.symm ▸ he, by rw [he.next]; simp⟩

theorem chain_edge_in {l : List α} {a b : α} (hc : (b :: l).IsChain m.Edge) (ha : a ∈ l) :
    m.Edge (m.prev a) a ∧ m.prev a ∈ b :: l := by
  obtain ⟨l₁, l₂, rfl⟩ := List.append_of_mem ha
  obtain ⟨l', q, hq⟩ := exists_concat b l₁
  rw [← List.cons_append, hq, List.append_assoc, List.singleton_append] at hc ⊢
  have he := (List.isChain_append_cons_cons.mp hc).2.1
  exact ⟨he.prev.symm ▸ he, by rw [he.prev]; simp⟩

section Around

variable {h a : α} {xs : List α}

theorem Ring.edge_out (hr : m.Ring h xs) (ha : a ∈ h :: xs) : m.Edge a (m.next a) := (chain_edge_out hr.edges ha).1

theorem Ring.next_mem (hr : m.Ring h xs) (ha : a ∈ h :: xs) : m.next a ∈ h :: xs :=
  mem_around.mp (chain_edge_out hr.edges ha).2

theorem mem_back (ha : a ∈ h :: xs) : a ∈ xs ++ [h] := by
  rcases List.mem_cons.mp ha with rfl | ha
  · exact List.mem_append_right xs (List.mem_singleton_self a)
  · exact List.mem_append_left [h] ha

theorem Ring.edge_in (hr : m.Ring h xs) (ha : a ∈ h :: xs) : m.Edge (m.prev a) a :=
  (chain_edge_in hr.edges (mem_back ha)).1

theorem Ring.prev_mem (hr : m.Ring h xs) (ha : a ∈ h :: xs) : m.prev a ∈ h :: xs :=
  mem_around.mp (chain_edge_in hr.edges (mem_back ha)).2

end Around

theorem Ring.mem_places {h : α} {xs : List α} (hr : m.Ring h xs) (a : α) (ha : a ∈ h :: xs) : a ∈ m.places :=
  (hr.edge_out ha).left

/-! ### Going round -/

theorem Ring.next_head {h : α} {xs : List α} (hr : m.Ring h xs) : m.next h = xs.headD h := by
  cases xs with
  | nil => exact (List.isChain_cons_cons.mp hr.edges).1.next
  | cons x xs => exact (List.isChain_cons_cons.mp hr.edges).1.next

theorem Ring.chain_from {h x : α} {ys zs : List α} (hr : m.Ring h (ys ++ x :: zs)) :
    (x :: (zs ++ [h])).IsChain m.Edge := by
  have hc := hr.edges
  rw [List.append_assoc, List.cons_append, ← List.cons_append] at hc
  exact hc.right_of_append

theorem Ring.next_mid {h x : α} {ys zs : List α} (hr : m.Ring h (ys ++ x :: zs)) : m.next x = zs.headD h := by
  have hc := hr.chain_from
  cases zs with
  | nil => exact (List.isChain_cons_cons.mp hc).1.next
  | cons z zs => exact (List.isChain_cons_cons.mp hc).1.next

/- One step further than the first node, which is the head again if there is none. -/
theorem Ring.next_headD {h : α} {xs : List α} (hr : m.Ring h xs) : m.next (xs.headD h) = xs.tail.headD h := by
  cases xs with
  | nil => exact hr.next_head
  | cons x xs =>
    have hx : m.Ring h ([] ++ x :: xs) := hr
    exact hx.next_mid

theorem Ring.length_lt {h : α} {xs : List α} (hr : m.Ring h xs) : xs.length < m.places.length := by
  have hle := (List.subperm_of_subset hr.nodup hr.mem_places).length_le
  rwa [List.length_cons] at hle

theorem Ring.ne_head {h x : α} {ys zs : List α} (hr : m.Ring h (ys ++ x :: zs)) : x ≠ h := by
  intro he
  exact (List.nodup_cons.mp hr.nodup).1 (he ▸ List.mem_append_right ys List.mem_cons_self)

/-- A ring seen from another of its nodes. -/
theorem Ring.rotate {h n : α} {ys zs : List α} (hr : m.Ring h (ys ++ n :: zs)) : m.Ring n (zs ++ h :: ys) := by
  have hc : (h :: ys ++ n :: (zs ++ [h])).IsChain m.Edge := by
    simpa using hr.edges
  obtain ⟨hleft, hright⟩ := List.isChain_split.mp hc
  refine ⟨?_, ?_⟩
  · have hnew : (n :: zs ++ h :: (ys ++ [n])).IsChain m.Edge := List.isChain_split.mpr ⟨hright, hleft⟩
    simpa using hnew
  · have hperm : (h :: ys ++ n :: zs).Perm (n :: zs ++ h :: ys) := List.perm_append_comm
    exact hperm.nodup_iff.mp hr.nodup

/-! ### Linking in and out -/

/-- In a chain that goes from `l₁` over `p` and `q` to `l₂`, the edge in the middle is the
only one out of `p` and the only one into `q`. -/
structure OnlyEdge (l₁ : List α) (p q : α) (l₂ : List α) : Prop where
  outLeft : p ∉ l₁
  outRight : p ∉ (q :: l₂).dropLast
  inLeft : q ∉ (l₁ ++ [p]).tail
  inRight : q ∉ l₂

section Middle

variable {l₁ l₂ : List α} {p q n : α}

/- The two sides of the edge keep their edges if only `p` forgets its next node and only
`q` the one before it. -/
theorem OnlyEdge.frame_left (ho : OnlyEdge l₁ p q l₂) (hc : (l₁ ++ [p]).IsChain m.Edge)
    (hplaces : m'.places = m.places) (hnext : ∀ a ∈ l₁, a ≠ p → m'.next a = m.next a)
    (hprev : ∀ a ∈ l₁ ++ [p], a ≠ q → m'.prev a = m.prev a) : (l₁ ++ [p]).IsChain m'.Edge := by
  refine chain_frame hc (fun a _ h => hplaces ▸ h) ?_ ?_
  · intro a ha
    rw [List.dropLast_concat] at ha
    exact hnext a ha (fun he => ho.outLeft (he ▸ ha))
  · intro a ha
    exact hprev a (List.mem_of_mem_tail ha) (fun he => ho.inLeft (he ▸ ha))

theorem OnlyEdge.frame_right (ho : OnlyEdge l₁ p q l₂) (hc : (q :: l₂).IsChain m.Edge)
    (hplaces : m'.places = m.places) (hnext : ∀ a ∈ q :: l₂, a ≠ p → m'.next a = m.next a)
    (hprev : ∀ a ∈ l₂, a ≠ q → m'.prev a = m.prev a) : (q :: l₂).IsChain m'.Edge := by
  refine chain_frame hc (fun a _ h => hplaces ▸ h) ?_ ?_
  · intro a ha
    exact hnext a (List.dropLast_subset _ ha) (fun he => ho.outRight (he ▸ ha))
  · intro a ha
    exact hprev a ha (fun he => ho.inRight (he ▸ ha))

end Middle

variable [DecidableEq α]

/-- `n` is put between `p` and `q`. -/
def link (m : Nodes α) (p n q : α) : Nodes α :=
  { m with
    next := Function.update (Function.update m.next n q) p n
    prev := Function.update (Function.update m.prev n p) q n }

/-- What is between `p` and `q` is left out. -/
def bypass (m : Nodes α) (p q : α) : Nodes α :=
  { m with
    next := Function.update m.next p q
    prev := Function.update m.prev q p }

@[simp] theorem link_next (m : Nodes α) (p n q : α) :
    (m.link p n q).next = Function.update (Function.update m.next n q) p n := rfl
@[simp] theorem link_prev (m : Nodes α) (p n q : α) :
    (m.link p n q).prev = Function.update (Function.update m.prev n p) q n := rfl
@[simp] theorem link_places (m : Nodes α) (p n q : α) : (m.link p n q).places = m.places := rfl
@[simp] theorem bypass_next (m : Nodes α) (p q : α) : (m.bypass p q).next = Function.update m.next p q := rfl
@[simp] theorem bypass_prev (m : Nodes α) (p q : α) : (m.bypass p q).prev = Function.update m.prev q p := rfl
@[simp] theorem bypass_places (m : Nodes α) (p q : α) : (m.bypass p q).places = m.places := rfl

section Middle

variable {l₁ l₂ : List α} {p q n : α}

theorem OnlyEdge.chain_link (ho : OnlyEdge l₁ p q l₂) (hc : (l₁ ++ p :: q :: l₂).IsChain m.Edge)
    (hn : n ∉ l₁ ++ p :: q :: l₂) (hplace : n ∈ m.places) :
    (l₁ ++ p :: n :: q :: l₂).IsChain (m.link p n q).Edge := by
  obtain ⟨hleft, hpq, hright⟩ := List.isChain_append_cons_cons.mp hc
  simp only [List.mem_append, List.mem_cons, not_or] at hn
  obtain ⟨hn₁, hnp, hnq, hn₂⟩ := hn
  have hne : ∀ {a : α} {l : List α}, a ∈ l → n ∉ l → a ≠ n := fun ha hl he => hl (he ▸ ha)
  rw [List.isChain_append_cons_cons, List.isChain_cons_cons]
  refine ⟨?_, ⟨hpq.left, hplace, ?_, ?_⟩, ⟨hplace, hpq.right, ?_, ?_⟩, ?_⟩
  · apply ho.frame_left hleft (link_places m p n q)
    · intro a ha hap
      rw [link_next, Function.update_of_ne hap, Function.update_of_ne (hne ha hn₁)]
    · intro a ha haq
      have han : a ≠ n := by
        rcases List.mem_append.mp ha with ha | ha
        · exact hne ha hn₁
        · exact (List.mem_singleton.mp ha) ▸ Ne.symm hnp
      rw [link_prev, Function.update_of_ne haq, Function.update_of_ne han]
  · rw [link_next, Function.update_self]
  · rw [link_prev, Function.update_of_ne hnq, Function.update_self]
  · rw [link_next, Function.update_of_ne hnp, Function.update_self]
  · rw [link_prev, Function.update_self]
  · apply ho.frame_right hright (link_places m p n q)
    · intro a ha hap
      have han : a ≠ n := by
        rcases List.mem_cons.mp ha with rfl | ha
        · exact Ne.symm hnq
        · exact hne ha hn₂
      rw [link_next, Function.update_of_ne hap, Function.update_of_ne han]
    · intro a ha haq
      rw [link_prev, Function.update_of_ne haq, Function.update_of_ne (hne ha hn₂)]

theorem OnlyEdge.chain_bypass (ho : OnlyEdge l₁ p q l₂) (hc : (l₁ ++ p :: n :: q :: l₂).IsChain m.Edge) :
    (l₁ ++ p :: q :: l₂).IsChain (m.bypass p q).Edge := by
  obtain ⟨hleft, hpn, hrest⟩ := List.isChain_append_cons_cons.mp hc
  obtain ⟨hnq, hright⟩ := List.isChain_cons_cons.mp hrest
  rw [List.isChain_append_cons_cons]
  refine ⟨?_, ⟨hpn.left, hnq.right, ?_, ?_⟩, ?_⟩
  · apply ho.frame_left hleft (bypass_places m p q)
    · intro a _ hap
      rw [bypass_next, Function.update_of_ne hap]
    · intro a _ haq
      rw [bypass_prev, Function.update_of_ne haq]
  · rw [bypass_next, Function.update_self]
  · rw [bypass_prev, Function.update_self]
  · apply ho.frame_right hright (bypass_places m p q)
    · intro a _ hap
      rw [bypass_next, Function.update_of_ne hap]
    · intro a _ haq
      rw [bypass_prev, Function.update_of_ne haq]

end Middle

/-! ### Rings -/

variable {h n p q : α} {xs : List α}

theorem link_sameOutside {l : List α} (hp : p ∈ l) (hn : n ∈ l) (hq : q ∈ l) : m.SameOutside (m.link p n q) l := by
  have hne : ∀ {a b : α}, a ∉ l → b ∈ l → a ≠ b := fun ha hb he => ha (he ▸ hb)
  refine ⟨rfl, ?_, ?_⟩
  · intro a ha
    rw [link_next, Function.update_of_ne (hne ha hp), Function.update_of_ne (hne ha hn)]
  · intro a ha
    rw [link_prev, Function.update_of_ne (hne ha hq), Function.update_of_ne (hne ha hn)]

theorem bypass_sameOutside {l : List α} (hp : p ∈ l) (hq : q ∈ l) : m.SameOutside (m.bypass p q) l := by
  have hne : ∀ {a b : α}, a ∉ l → b ∈ l → a ≠ b := fun ha hb he => ha (he ▸ hb)
  refine ⟨rfl, ?_, ?_⟩
  · intro a ha
    rw [bypass_next, Function.update_of_ne (hne ha hp)]
  · intro a ha
    rw [bypass_prev, Function.update_of_ne (hne ha hq)]

/-- A node linked in after the head. -/
theorem Ring.link_front (hr : m.Ring h xs) (hn : n ∉ h :: xs) (hplace : n ∈ m.places) :
    (m.link h n (m.next h)).Ring h (n :: xs) := by
  obtain ⟨q, l, hq⟩ := exists_cons xs h
  have hc : ([] ++ h :: q :: l).IsChain m.Edge := by
    rw [List.nil_append, ← hq]
    exact hr.edges
  have hto : (q :: l).Nodup := by
    rw [← hq]
    exact nodup_append_singleton (List.nodup_cons.mp hr.nodup).2 (List.nodup_cons.mp hr.nodup).1
  have ho : OnlyEdge [] h q l := by
    refine ⟨List.not_mem_nil, ?_, List.not_mem_nil, (List.nodup_cons.mp hto).1⟩
    rw [← hq, List.dropLast_concat]
    exact (List.nodup_cons.mp hr.nodup).1
  have hnl : n ∉ [] ++ h :: q :: l := by
    rw [List.nil_append, ← hq]
    simp only [List.mem_cons, List.mem_append, List.not_mem_nil, or_false, not_or] at hn ⊢
    exact ⟨hn.1, hn.2, hn.1⟩
  have hnext : m.next h = q := (List.isChain_cons_cons.mp hc).1.next
  have hnew := ho.chain_link hc hnl hplace
  rw [List.nil_append, ← hq] at hnew
  rw [hnext]
  refine ⟨hnew, ?_⟩
  simp only [List.nodup_cons, List.mem_cons, not_or] at hn ⊢
  exact ⟨⟨Ne.symm hn.1, (List.nodup_cons.mp hr.nodup).1⟩, hn.2, (List.nodup_cons.mp hr.nodup).2⟩

/-- A node linked in before the head. -/
theorem Ring.link_back (hr : m.Ring h xs) (hn : n ∉ h :: xs) (hplace : n ∈ m.places) :
    (m.link (m.prev h) n h).Ring h (xs ++ [n]) := by
  obtain ⟨l, p, hp⟩ := exists_concat h xs
  have hc : (l ++ p :: h :: []).IsChain m.Edge := by
    rw [← List.singleton_append, ← List.append_assoc, ← hp]
    exact hr.edges
  have hfrom : (l ++ [p]).Nodup := hp ▸ hr.nodup
  have ho : OnlyEdge l p h [] := by
    refine ⟨fun h' => ?_, List.not_mem_nil, ?_, List.not_mem_nil⟩
    · exact (List.nodup_append.mp hfrom).2.2 p h' p (List.mem_singleton_self p) rfl
    · rw [← hp]
      exact (List.nodup_cons.mp hr.nodup).1
  have hnl : n ∉ l ++ p :: h :: [] := by
    rw [← List.singleton_append, ← List.append_assoc, ← hp]
    simp only [List.mem_cons, List.mem_append, List.not_mem_nil, or_false, not_or] at hn ⊢
    exact ⟨hn, hn.1⟩
  have hprev : m.prev h = p := (List.isChain_append_cons_cons.mp hc).2.1.prev
  have hnew := ho.chain_link hc hnl hplace
  rw [hprev]
  refine ⟨?_, ?_⟩
  · rw [← List.singleton_append, ← List.append_assoc, ← hp] at hnew
    simpa using hnew
  · rw [← List.cons_append]
    exact nodup_append_singleton hr.nodup hn

/-- A node of the ring is taken out. -/
theorem Ring.bypass_mid {ys zs : List α} (hr : m.Ring h (ys ++ n :: zs)) :
    (m.bypass (m.prev n) (m.next n)).Ring h (ys ++ zs) := by
  obtain ⟨l, p, hp⟩ := exists_concat h ys
  obtain ⟨q, l', hq⟩ := exists_cons zs h
  have hsplit : h :: (ys ++ n :: zs ++ [h]) = l ++ p :: n :: q :: l' := by
    rw [← hq, List.append_cons l p, ← hp]
    simp
  have hc : (l ++ p :: n :: q :: l').IsChain m.Edge := hsplit ▸ hr.edges
  have hnd : ((h :: ys) ++ n :: zs).Nodup := hr.nodup
  have hleft : (l ++ [p]).Nodup := hp ▸ hnd.of_append_left
  have hdis : ∀ a ∈ h :: ys, a ∉ zs := by
    intro a ha hz
    exact (List.nodup_append.mp hnd).2.2 a ha a (List.mem_cons_of_mem n hz) rfl
  have hzs : zs.Nodup := (List.nodup_cons.mp (List.nodup_append.mp hnd).2.1).2
  have hh : h ∉ zs := hdis h List.mem_cons_self
  have hto : (q :: l').Nodup := hq ▸ nodup_append_singleton hzs hh
  have ho : OnlyEdge l p q l' := by
    refine ⟨fun h' => ?_, ?_, ?_, (List.nodup_cons.mp hto).1⟩
    · exact (List.nodup_append.mp hleft).2.2 p h' p (List.mem_singleton_self p) rfl
    · rw [← hq, List.dropLast_concat]
      exact hdis p (by rw [hp]; simp)
    · rw [← hp, List.tail_cons]
      intro hmem
      have hqz : q ∈ zs ++ [h] := by
        rw [hq]
        exact List.mem_cons_self
      rcases List.mem_append.mp hqz with hqz | hqh
      · exact hdis q (List.mem_cons_of_mem h hmem) hqz
      · rw [List.mem_singleton.mp hqh] at hmem
        exact (List.nodup_cons.mp hnd.of_append_left).1 hmem
  have hpn := (List.isChain_append_cons_cons.mp hc).2.1
  have hnq := (List.isChain_cons_cons.mp (List.isChain_append_cons_cons.mp hc).2.2).1
  have hnew := ho.chain_bypass hc
  rw [hpn.prev, hnq.next]
  refine ⟨?_, ?_⟩
  · rw [← hq, ← List.singleton_append, ← List.append_assoc, ← hp] at hnew
    simpa using hnew
  · refine List.nodup_append.mpr ⟨hnd.of_append_left, hzs, fun a ha b hb he => ?_⟩
    exact hdis a ha (he ▸ hb)

end Nodes

end LibCxlmi.Heap
