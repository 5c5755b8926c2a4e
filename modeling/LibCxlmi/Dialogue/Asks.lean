import LibCxlmi.Dialogue.Program

/-!
# What a program may come to

The answers a program gets are taken from a set of their own for each question.
`Ends` is what it may come back with, and `Asks` what it may ask on the way; both
follow the program, without a list of what was said.
-/

namespace LibCxlmi.Dialogue

variable {Q : Type} {A : Q → Type} {α β : Type} (ok : (q : Q) → A q → Prop)

def Program.Ends : Program Q A α → α → Prop
  | .ret a, r => r = a
  | .ask q k, r => ∃ x, ok q x ∧ (k x).Ends r

def Program.Asks : Program Q A α → Q → Prop
  | .ret _, _ => False
  | .ask q k, q' => q' = q ∨ ∃ x, ok q x ∧ (k x).Asks q'

/-- A list of questions whose answers are all in their sets. -/
def Answered (t : History Q A) : Prop := ∀ e ∈ t, ok e.asked e.answer

theorem ends_ret (a r : α) : (pure a : Program Q A α).Ends ok r ↔ r = a := Iff.rfl

theorem asks_ret (a : α) (q : Q) : ¬(pure a : Program Q A α).Asks ok q := id

theorem ends_ask (q : Q) (x : A q) : (ask q : Program Q A (A q)).Ends ok x ↔ ok q x := by
  constructor
  · rintro ⟨y, hy, rfl⟩
    exact hy
  · exact fun hx => ⟨x, hx, rfl⟩

theorem asks_ask (q q' : Q) : (ask q : Program Q A (A q)).Asks ok q' ↔ q' = q := by
  constructor
  · rintro (h | ⟨x, -, h⟩)
    · exact h
    · exact absurd h (asks_ret ok x q')
  · exact Or.inl

theorem ends_bind (p : Program Q A α) (f : α → Program Q A β) (r : β) :
    (p >>= f).Ends ok r ↔ ∃ a, p.Ends ok a ∧ (f a).Ends ok r := by
  induction p with
  | ret a =>
    constructor
    · exact fun h => ⟨a, rfl, h⟩
    · rintro ⟨b, rfl, h⟩
      exact h
  | ask q k ih =>
    constructor
    · rintro ⟨x, hx, h⟩
      obtain ⟨a, ha, hf⟩ := (ih x).mp h
      exact ⟨a, ⟨x, hx, ha⟩, hf⟩
    · rintro ⟨a, ⟨x, hx, ha⟩, hf⟩
      exact ⟨x, hx, (ih x).mpr ⟨a, ha, hf⟩⟩

theorem asks_bind (p : Program Q A α) (f : α → Program Q A β) (q : Q) :
    (p >>= f).Asks ok q ↔ p.Asks ok q ∨ ∃ a, p.Ends ok a ∧ (f a).Asks ok q := by
  induction p with
  | ret a =>
    constructor
    · exact fun h => Or.inr ⟨a, rfl, h⟩
    · rintro (h | ⟨b, rfl, h⟩)
      · exact absurd h (asks_ret ok a q)
      · exact h
  | ask q' k ih =>
    constructor
    · rintro (h | ⟨x, hx, h⟩)
      · exact Or.inl (Or.inl h)
      · obtain h | ⟨a, ha, hf⟩ := (ih x).mp h
        · exact Or.inl (Or.inr ⟨x, hx, h⟩)
        · exact Or.inr ⟨a, ⟨x, hx, ha⟩, hf⟩
    · rintro ((h | ⟨x, hx, h⟩) | ⟨a, ⟨x, hx, ha⟩, hf⟩)
      · exact Or.inl h
      · exact Or.inr ⟨x, hx, (ih x).mpr (Or.inl h)⟩
      · exact Or.inr ⟨x, hx, (ih x).mpr (Or.inr ⟨a, ha, hf⟩)⟩

theorem ends_exists (hok : ∀ q, ∃ x, ok q x) (p : Program Q A α) : ∃ r, p.Ends ok r := by
  induction p with
  | ret a => exact ⟨a, rfl⟩
  | ask q k ih =>
    obtain ⟨x, hx⟩ := hok q
    obtain ⟨r, hr⟩ := ih x
    exact ⟨r, x, hx, hr⟩

theorem ends_iff_runs (p : Program Q A α) (r : α) : p.Ends ok r ↔ ∃ t, p.Runs t r ∧ Answered ok t := by
  induction p with
  | ret a =>
    constructor
    · exact fun h => ⟨[], ⟨rfl, h⟩, List.forall_mem_nil _⟩
    · rintro ⟨t, ⟨-, h⟩, -⟩
      exact h
  | ask q k ih =>
    constructor
    · rintro ⟨x, hx, h⟩
      obtain ⟨t, hrun, ht⟩ := (ih x).mp h
      exact ⟨⟨q, x⟩ :: t, ⟨x, t, rfl, hrun⟩, List.forall_mem_cons.mpr ⟨hx, ht⟩⟩
    · rintro ⟨t, ⟨x, t, rfl, hrun⟩, ht⟩
      obtain ⟨hx, ht⟩ := List.forall_mem_cons.mp ht
      exact ⟨x, hx, (ih x).mpr ⟨t, hrun, ht⟩⟩

/-- Some run with such answers has the question in it, as long as every question has an
answer to go on with. -/
theorem asks_iff_runs (hok : ∀ q, ∃ x, ok q x) (p : Program Q A α) (q : Q) :
    p.Asks ok q ↔ ∃ t r, p.Runs t r ∧ Answered ok t ∧ q ∈ t.map Event.asked := by
  induction p with
  | ret a =>
    refine iff_of_false (asks_ret ok a q) ?_
    rintro ⟨t, r, ⟨rfl, -⟩, -, hmem⟩
    exact List.not_mem_nil hmem
  | ask q' k ih =>
    constructor
    · rintro (rfl | ⟨x, hx, h⟩)
      · obtain ⟨x, hx⟩ := hok q
        obtain ⟨r, hr⟩ := ends_exists ok hok (k x)
        obtain ⟨t, hrun, ht⟩ := (ends_iff_runs ok (k x) r).mp hr
        exact ⟨⟨q, x⟩ :: t, r, ⟨x, t, rfl, hrun⟩, List.forall_mem_cons.mpr ⟨hx, ht⟩, List.mem_cons_self⟩
      · obtain ⟨t, r, hrun, ht, hmem⟩ := (ih x).mp h
        exact ⟨⟨q', x⟩ :: t, r, ⟨x, t, rfl, hrun⟩, List.forall_mem_cons.mpr ⟨hx, ht⟩, List.mem_cons_of_mem q' hmem⟩
    · rintro ⟨t, r, ⟨x, t, rfl, hrun⟩, ht, hmem⟩
      obtain ⟨hx, ht⟩ := List.forall_mem_cons.mp ht
      obtain rfl | hmem := List.mem_cons.mp hmem
      · exact Or.inl rfl
      · exact Or.inr ⟨x, hx, (ih x).mpr ⟨t, r, hrun, ht, hmem⟩⟩

end LibCxlmi.Dialogue
