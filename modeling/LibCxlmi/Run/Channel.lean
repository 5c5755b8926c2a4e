import Mathlib.Data.List.Basic

/-!
# Channels that answer in order

Requests are sent on a channel and answered in the order they were sent; the
answers wait in a queue and are read one at a time, oldest first. `Channel`
keeps count of the answers still to be read, so that the next answer read can
be matched with the request it belongs to.
-/

namespace LibCxlmi.Run

variable {α β : Type} (ok : α → β → Prop)

/-- The replies `gs` answer the first requests of `qs`, in order. -/
def InOrder : List α → List β → Prop
  | _, [] => True
  | [], _ :: _ => False
  | q :: qs, g :: gs => ok q g ∧ InOrder qs gs

theorem inOrder_append (qs : List α) (gs hs : List β) :
    InOrder ok qs (gs ++ hs) ↔ InOrder ok qs gs ∧ InOrder ok (qs.drop gs.length) hs := by
  induction gs generalizing qs with
  | nil => simp only [List.nil_append, InOrder, true_and, List.length_nil, List.drop_zero]
  | cons g gs ih =>
    cases qs with
    | nil => simp only [List.cons_append, InOrder, false_and]
    | cons q qs => simp only [List.cons_append, InOrder, ih, List.length_cons, List.drop_succ_cons, and_assoc]

theorem inOrder_extend (qs ps : List α) (gs : List β) (h : InOrder ok qs gs) : InOrder ok (qs ++ ps) gs := by
  induction gs generalizing qs with
  | nil => simp only [InOrder]
  | cons g gs ih =>
    cases qs with
    | nil => exact absurd h id
    | cons q qs => exact ⟨h.1, ih qs h.2⟩

theorem inOrder_length (qs : List α) (gs : List β) (h : InOrder ok qs gs) : gs.length ≤ qs.length := by
  induction gs generalizing qs with
  | nil => exact Nat.zero_le _
  | cons g gs ih =>
    cases qs with
    | nil => exact absurd h id
    | cons q qs => exact Nat.succ_le_succ (ih qs h.2)

instance decidableInOrder [∀ q g, Decidable (ok q g)] : ∀ qs gs, Decidable (InOrder ok qs gs)
  | [], [] => isTrue trivial
  | _ :: _, [] => isTrue trivial
  | [], _ :: _ => isFalse id
  | q :: qs, g :: gs =>
      have := decidableInOrder qs gs
      inferInstanceAs (Decidable (ok q g ∧ InOrder ok qs gs))

/-- After `sent` requests, `arrivals` answers have come, the `unread` last ones
have not been read, and of these the ones in `queue` have come already. -/
structure Channel (sent : List α) (arrivals unread : ℕ) (queue : List β) : Prop where
  unread_le : unread ≤ sent.length
  account : unread + arrivals = sent.length + queue.length
  queued : InOrder ok (sent.drop (sent.length - unread)) queue

variable {ok} {sent : List α} {arrivals unread : ℕ} {queue : List β}

theorem Channel.empty : Channel ok [] 0 0 [] :=
  ⟨Nat.le_refl 0, rfl, trivial⟩

theorem Channel.ask (h : Channel ok sent arrivals unread queue) (q : α) :
    Channel ok (sent ++ [q]) arrivals (unread + 1) queue := by
  obtain ⟨hle, hacc, hq⟩ := h
  refine ⟨?_, ?_, ?_⟩
  · rw [List.length_append, List.length_singleton]
    omega
  · rw [List.length_append, List.length_singleton]
    omega
  · rw [List.length_append, List.length_singleton, Nat.add_sub_add_right,
      List.drop_append_of_le_length (Nat.sub_le _ _)]
    exact inOrder_extend ok _ [q] queue hq

theorem Channel.arrive (h : Channel ok sent arrivals unread queue) (gs : List β)
    (hgs : InOrder ok (sent.drop arrivals) gs) :
    Channel ok sent (arrivals + gs.length) unread (queue ++ gs) := by
  obtain ⟨hle, hacc, hq⟩ := h
  have hreads : sent.length - unread + queue.length = arrivals := by omega
  refine ⟨hle, ?_, ?_⟩
  · rw [List.length_append]
    omega
  · rw [inOrder_append, List.drop_drop, hreads]
    exact ⟨hq, hgs⟩

/-- The answer read next belongs to the oldest request whose answer is unread. -/
theorem Channel.read {g : β} (h : Channel ok sent arrivals unread (g :: queue)) :
    0 < unread ∧ Channel ok sent arrivals (unread - 1) queue ∧
      ∃ q, sent[sent.length - unread]? = some q ∧ ok q g := by
  obtain ⟨hle, hacc, hq⟩ := h
  have hlt : sent.length - unread < sent.length := by
    have hlen := inOrder_length ok _ _ hq
    rw [List.length_drop, List.length_cons] at hlen
    omega
  rw [List.drop_eq_getElem_cons hlt] at hq
  obtain ⟨hg, hrest⟩ := hq
  rw [List.length_cons] at hacc
  have hnext : sent.length - unread + 1 = sent.length - (unread - 1) := by omega
  refine ⟨by omega, ⟨by omega, by omega, ?_⟩, _, List.getElem?_eq_getElem hlt, hg⟩
  rw [← hnext]
  exact hrest

theorem Channel.length_le (h : Channel ok sent arrivals unread queue) : queue.length ≤ unread := by
  have hlen := inOrder_length ok _ _ h.queued
  have hle := h.unread_le
  rw [List.length_drop] at hlen
  omega

end LibCxlmi.Run
