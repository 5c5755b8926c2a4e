import Mathlib.Data.List.Basic

/-!
# Many queues in one list

A list whose entries have keys, added to at the end and served from the front of
those with a given key, behaves as one queue for each key: `channel k` is what
the list holds for `k`.
-/

namespace LibCxlmi.Run

variable {α κ : Type} [DecidableEq κ]

/-- The first entry with the key, and the list without it. -/
def takeFirst (key : α → κ) (k : κ) : List α → Option (α × List α)
  | [] => none
  | x :: xs => if key x = k then some (x, xs) else (takeFirst key k xs).map fun (y, ys) => (y, x :: ys)

def channel (key : α → κ) (k : κ) (xs : List α) : List α := xs.filter fun x => key x = k

theorem channel_cons_self (key : α → κ) (x : α) (xs : List α) :
    channel key (key x) (x :: xs) = x :: channel key (key x) xs :=
  List.filter_cons_of_pos (decide_eq_true rfl)

theorem channel_cons_ne (key : α → κ) (k : κ) (x : α) (xs : List α) (h : key x ≠ k) :
    channel key k (x :: xs) = channel key k xs :=
  List.filter_cons_of_neg (by simp [h])

theorem channel_add_self (key : α → κ) (xs : List α) (x : α) :
    channel key (key x) (xs ++ [x]) = channel key (key x) xs ++ [x] := by
  rw [channel, List.filter_append]
  exact congrArg _ (channel_cons_self key x [])

theorem channel_add_ne (key : α → κ) (k : κ) (xs : List α) (x : α) (h : key x ≠ k) :
    channel key k (xs ++ [x]) = channel key k xs := by
  rw [channel, List.filter_append]
  exact (congrArg _ (channel_cons_ne key k x [] h)).trans (List.append_nil _)

/- What serving a key does to its own queue, and that the others keep theirs. -/
theorem takeFirst_none (key : α → κ) (k : κ) (xs : List α) (h : takeFirst key k xs = none) :
    channel key k xs = [] := by
  induction xs with
  | nil => rfl
  | cons x xs ih =>
    rw [takeFirst] at h
    split_ifs at h with hx
    rw [channel_cons_ne key k x xs hx]
    exact ih (Option.map_eq_none_iff.mp h)

theorem takeFirst_some (key : α → κ) (k : κ) (xs : List α) (y : α) (ys : List α)
    (h : takeFirst key k xs = some (y, ys)) :
    channel key k xs = y :: channel key k ys ∧ ∀ k', k' ≠ k → channel key k' ys = channel key k' xs := by
  induction xs generalizing y ys with
  | nil => cases h
  | cons x xs ih =>
    rw [takeFirst] at h
    split_ifs at h with hx
    · obtain ⟨rfl, rfl⟩ := Prod.mk.inj (Option.some.inj h)
      subst hx
      refine ⟨channel_cons_self key x xs, ?_⟩
      intro k' hk'
      exact (channel_cons_ne key k' x xs hk'.symm).symm
    · obtain ⟨⟨z, zs⟩, hz, heq⟩ := Option.map_eq_some_iff.mp h
      obtain ⟨rfl, rfl⟩ := Prod.mk.inj heq
      obtain ⟨hown, hother⟩ := ih z zs hz
      refine ⟨?_, ?_⟩
      · rw [channel_cons_ne key k x xs hx, channel_cons_ne key k x zs hx]
        exact hown
      · intro k' hk'
        by_cases hxk : key x = k'
        · subst hxk
          rw [channel_cons_self, channel_cons_self, hother (key x) hk']
        · rw [channel_cons_ne key k' x zs hxk, channel_cons_ne key k' x xs hxk]
          exact hother k' hk'

end LibCxlmi.Run
