import LibCxlmi.Heap.ListCheck

/-!
# Operations on rings (ccan/list/list.h)

On a ring the operations of the list do what they are for, and the checks of a debug
build find nothing. Debug and release builds differ only in the node that was taken off.
-/

namespace LibCxlmi.Heap

variable {m : Nodes Addr} {h n : Addr} {xs ys zs : List Addr} (debug : Bool)

theorem listDebug_ring (hr : m.Ring h xs) : listDebug debug m h = .ok () := by
  unfold listDebug
  split_ifs
  · rw [listCheckNode_ring hr]
    rfl
  · rfl

theorem listHeadInit_ring (hplace : h ∈ m.places) :
    ∃ m', listHeadInit m h = .ok m' ∧ m'.Ring h [] ∧ m.SameOutside m' [h] := by
  refine ⟨⟨m.places, Function.update m.next h h, Function.update m.prev h h⟩, ?_, ?_, rfl, ?_, ?_⟩
  · simp [listHeadInit, writeNext, writePrev, hplace, bind, Except.bind]
  · exact Nodes.Ring.empty hplace (Function.update_self ..) (Function.update_self ..)
  · intro a ha
    exact Function.update_of_ne (List.ne_of_not_mem_cons ha) ..
  · intro a ha
    exact Function.update_of_ne (List.ne_of_not_mem_cons ha) ..

theorem listAdd_ring (hr : m.Ring h xs) (hn : n ∉ h :: xs) (hplace : n ∈ m.places) :
    ∃ m', listAdd debug m h n = .ok m' ∧ m'.Ring h (n :: xs) ∧ m.SameOutside m' (h :: n :: xs) := by
  have he := hr.edge_out List.mem_cons_self
  have hne : h ≠ n := fun he => hn (he ▸ List.mem_cons_self)
  have hring := hr.link_front hn hplace
  refine ⟨m.link h n (m.next h), ?_, hring, Nodes.link_sameOutside ?_ ?_ ?_⟩
  · have hlink : (⟨m.places, Function.update (Function.update m.next n (m.next h)) h n,
        Function.update (Function.update m.prev n h) (m.next h) n⟩ : Nodes Addr) = m.link h n (m.next h) := rfl
    simp [listAdd, listAddAfter, readNext, writeNext, writePrev, he.left, he.right, hplace, bind, Except.bind,
      Function.update_of_ne hne, hlink, listDebug_ring debug hring, pure, Except.pure]
  · simp
  · simp
  · have hmem := hr.next_mem List.mem_cons_self
    simp only [List.mem_cons] at hmem ⊢
    tauto

theorem listAddTail_ring (hr : m.Ring h xs) (hn : n ∉ h :: xs) (hplace : n ∈ m.places) :
    ∃ m', listAddTail debug m h n = .ok m' ∧ m'.Ring h (xs ++ [n]) ∧ m.SameOutside m' (h :: n :: xs) := by
  have he := hr.edge_in List.mem_cons_self
  have hne : h ≠ n := fun he => hn (he ▸ List.mem_cons_self)
  have hring := hr.link_back hn hplace
  refine ⟨m.link (m.prev h) n h, ?_, hring, Nodes.link_sameOutside ?_ ?_ ?_⟩
  · have hlink : (⟨m.places, Function.update (Function.update m.next n h) (m.prev h) n,
        Function.update (Function.update m.prev n (m.prev h)) h n⟩ : Nodes Addr) = m.link (m.prev h) n h := rfl
    simp [listAddTail, listAddBefore, readPrev, writeNext, writePrev, he.left, he.right, hplace, bind, Except.bind,
      Function.update_of_ne hne, hlink, listDebug_ring debug hring, pure, Except.pure]
  · have hmem := hr.prev_mem List.mem_cons_self
    simp only [List.mem_cons] at hmem ⊢
    tauto
  · simp
  · simp

theorem poison_sameOutside (hplace : n ∈ m.places) :
    ∃ m', poison debug m n = .ok m' ∧ m.SameOutside m' [n] := by
  cases debug with
  | false => exact ⟨m, rfl, rfl, fun _ _ => rfl, fun _ _ => rfl⟩
  | true =>
    refine ⟨⟨m.places, Function.update m.next n 0, Function.update m.prev n 0⟩, ?_, rfl, ?_, ?_⟩
    · simp [poison, writeNext, writePrev, hplace, Except.bind]
    · intro a ha
      exact Function.update_of_ne (List.ne_of_not_mem_cons ha) ..
    · intro a ha
      exact Function.update_of_ne (List.ne_of_not_mem_cons ha) ..

theorem listDel_ring (hr : m.Ring h (ys ++ n :: zs)) :
    ∃ m', listDel debug m n = .ok m' ∧ m'.Ring h (ys ++ zs) ∧ m.SameOutside m' (h :: (ys ++ n :: zs)) := by
  have hmem : n ∈ h :: (ys ++ n :: zs) := by simp
  have hin := hr.edge_in hmem
  have hout := hr.edge_out hmem
  have hnew : n ∉ h :: (ys ++ zs) := by
    have hnd := hr.rotate.nodup
    simp only [List.nodup_cons, List.mem_append, List.mem_cons, not_or] at hnd ⊢
    exact ⟨hnd.1.2.1, hnd.1.2.2, hnd.1.1⟩
  -- the node after `n` is another one, so that `n` still knows both when it is linked out
  have hne : n ≠ m.next n := by
    rw [hr.next_mid]
    intro he
    refine hnew (he ▸ ?_)
    cases zs with
    | nil => simp
    | cons z zs => simp
  have hring := hr.bypass_mid
  have hbypass : (⟨m.places, Function.update m.next (m.prev n) (m.next n),
      Function.update m.prev (m.next n) (m.prev n)⟩ : Nodes Addr) = m.bypass (m.prev n) (m.next n) := rfl
  obtain ⟨m', hm', hs'⟩ := poison_sameOutside (m := m.bypass (m.prev n) (m.next n)) debug hin.right
  have hs := Nodes.bypass_sameOutside (m := m) (hr.prev_mem hmem) (hr.next_mem hmem)
  refine ⟨m', ?_, hring.frame_outside hs' ?_, hs'.places.trans hs.places, ?_, ?_⟩
  · simp [listDel, listDebug_ring debug hr.rotate, readNext, readPrev, writeNext, writePrev, hin.left, hin.right,
      hout.right, bind, Except.bind, Function.update_of_ne hne, hbypass, hm']
  · intro a ha hmem
    exact hnew ((List.mem_singleton.mp hmem) ▸ ha)
  · intro a ha
    have han : a ∉ [n] := fun h => ha ((List.mem_singleton.mp h) ▸ hmem)
    rw [hs'.next a han, hs.next a ha]
  · intro a ha
    have han : a ∉ [n] := fun h => ha ((List.mem_singleton.mp h) ▸ hmem)
    rw [hs'.prev a han, hs.prev a ha]

/-! ### Looking -/

theorem listEmpty_ring (hr : m.Ring h xs) : listEmpty debug m h = .ok (xs.isEmpty) := by
  have hnext : (m.next h == h) = xs.isEmpty := by
    rw [hr.next_head]
    cases xs with
    | nil => simp
    | cons x xs =>
      have hne : x ≠ h := fun he => (List.nodup_cons.mp hr.nodup).1 (he ▸ List.mem_cons_self)
      simp [hne]
  simp [listEmpty, listDebug_ring debug hr, readNext_of_mem (hr.mem_places h List.mem_cons_self), hnext, bind,
    Except.bind, pure, Except.pure]

theorem listTop_ring (hr : m.Ring h xs) : listTop debug m h = .ok (xs.headD 0) := by
  unfold listTop
  rw [listEmpty_ring debug hr]
  cases xs with
  | nil => rfl
  | cons x xs =>
    show readNext m h = .ok x
    rw [readNext_of_mem (hr.mem_places h List.mem_cons_self), hr.next_head]
    rfl

theorem listNext_ring (hr : m.Ring h (ys ++ n :: zs)) : listNext debug m h n = .ok (zs.headD 0) := by
  have hn : n ∈ m.places := hr.mem_places n (by simp)
  have hentry : listEntryOrNull h (m.next n) = zs.headD 0 := by
    rw [hr.next_mid, listEntryOrNull]
    cases zs with
    | nil => exact if_pos rfl
    | cons z zs =>
      have hne : z ≠ h := fun he => (List.nodup_cons.mp hr.nodup).1 (he ▸ by simp)
      exact if_neg hne
  simp [listNext, listDebug_ring debug hr, readNext_of_mem hn, hentry, bind, Except.bind, pure, Except.pure]

end LibCxlmi.Heap
