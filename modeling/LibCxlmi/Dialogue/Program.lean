import Mathlib.Data.List.Basic

/-!
# Programs in dialogue with their surroundings

A program asks questions and goes on with the answers; what answers it, an
operating system or a device, is not part of it. A run is the list of questions
with the answers they met, and every list of answers gives one. A loop without a
bound is `iterate`, cut off after any number of rounds.

`Meets` is the rule of pre- and postconditions. A contract looks at the dialogue
through a state of its own, which every question with its answer moves on: from
the state `x` the program asks only what the contract allows, as long as the
answers keep to what the contract relies on, and ends in the postcondition.
-/

namespace LibCxlmi.Dialogue

inductive Program (Q : Type) (A : Q → Type) (α : Type) where
  | ret (a : α)
  | ask (q : Q) (k : A q → Program Q A α)

structure Event (Q : Type) (A : Q → Type) where
  asked : Q
  answer : A asked

variable {Q : Type} {A : Q → Type} {α β σ : Type}

abbrev History (Q : Type) (A : Q → Type) := List (Event Q A)

def Program.bind : Program Q A α → (α → Program Q A β) → Program Q A β
  | .ret a, f => f a
  | .ask q k, f => .ask q fun x => (k x).bind f

instance : Monad (Program Q A) where
  pure := .ret
  bind := .bind

def ask (q : Q) : Program Q A (A q) := .ask q .ret

/-- One round gives the state for the next one, or the result. -/
def iterate (body : σ → Program Q A (σ ⊕ α)) : ℕ → σ → Program Q A (Option α)
  | 0, _ => .ret none
  | n + 1, s => (body s).bind fun
      | .inl s' => iterate body n s'
      | .inr a => .ret (some a)

/-! ### Runs -/

def Program.Runs : Program Q A α → History Q A → α → Prop
  | .ret a, t, r => t = [] ∧ r = a
  | .ask q k, t, r => ∃ x t', t = ⟨q, x⟩ :: t' ∧ (k x).Runs t' r

theorem runs_bind (p : Program Q A α) (f : α → Program Q A β) (t : History Q A) (r : β) :
    (p >>= f).Runs t r ↔ ∃ t₁ t₂ a, t = t₁ ++ t₂ ∧ p.Runs t₁ a ∧ (f a).Runs t₂ r := by
  induction p generalizing t with
  | ret a =>
    constructor
    · intro h
      exact ⟨[], t, a, rfl, ⟨rfl, rfl⟩, h⟩
    · rintro ⟨t₁, t₂, b, rfl, ⟨rfl, rfl⟩, h⟩
      exact h
  | ask q k ih =>
    constructor
    · rintro ⟨x, t', rfl, h⟩
      obtain ⟨t₁, t₂, a, rfl, h₁, h₂⟩ := (ih x t').mp h
      exact ⟨⟨q, x⟩ :: t₁, t₂, a, rfl, ⟨x, t₁, rfl, h₁⟩, h₂⟩
    · rintro ⟨t₁, t₂, a, rfl, ⟨x, t', rfl, h₁⟩, h₂⟩
      exact ⟨x, t' ++ t₂, rfl, (ih x _).mpr ⟨t', t₂, a, rfl, h₁, h₂⟩⟩

theorem runs_iterate_next (body : σ → Program Q A (σ ⊕ α)) (n : ℕ) (s s' : σ) (t t' : History Q A) (r : Option α)
    (hbody : (body s).Runs t (.inl s')) (hrest : (iterate body n s').Runs t' r) :
    (iterate body (n + 1) s).Runs (t ++ t') r :=
  (runs_bind (body s) _ (t ++ t') r).mpr ⟨t, t', .inl s', rfl, hbody, hrest⟩

theorem runs_iterate_last (body : σ → Program Q A (σ ⊕ α)) (n : ℕ) (s : σ) (t : History Q A) (a : α)
    (hbody : (body s).Runs t (.inr a)) : (iterate body (n + 1) s).Runs t (some a) :=
  (runs_bind (body s) _ t (some a)).mpr ⟨t, [], .inr a, (List.append_nil t).symm, hbody, rfl, rfl⟩

/-- The run against surroundings that answer by what has been said before. -/
def Program.play (env : History Q A → (q : Q) → A q) : Program Q A α → History Q A → History Q A × α
  | .ret a, _ => ([], a)
  | .ask q k, h =>
      let rest := (k (env h q)).play env (h ++ [⟨q, env h q⟩])
      (⟨q, env h q⟩ :: rest.1, rest.2)

theorem play_runs (env : History Q A → (q : Q) → A q) (p : Program Q A α) (h : History Q A) :
    p.Runs (p.play env h).1 (p.play env h).2 := by
  induction p generalizing h with
  | ret a => exact ⟨rfl, rfl⟩
  | ask q k ih => exact ⟨env h q, _, rfl, ih (env h q) _⟩

theorem play_bind (env : History Q A → (q : Q) → A q) (p : Program Q A α) (f : α → Program Q A β) (h : History Q A) :
    (p >>= f).play env h = ((p.play env h).1 ++ ((f (p.play env h).2).play env (h ++ (p.play env h).1)).1,
      ((f (p.play env h).2).play env (h ++ (p.play env h).1)).2) := by
  induction p generalizing h with
  | ret a =>
    change (f a).play env h = ([] ++ ((f a).play env (h ++ [])).1, ((f a).play env (h ++ [])).2)
    rw [List.append_nil, List.nil_append]
  | ask q k ih =>
    have hrest := ih (env h q) (h ++ [⟨q, env h q⟩])
    rw [List.append_assoc] at hrest
    change (⟨q, env h q⟩ :: ((k (env h q) >>= f).play env _).1, ((k (env h q) >>= f).play env _).2) = _
    rw [hrest]
    rfl

theorem play_iterate_next (env : History Q A → (q : Q) → A q) (body : σ → Program Q A (σ ⊕ α)) (n : ℕ) (s s' : σ)
    (h : History Q A) (hbody : ((body s).play env h).2 = .inl s') :
    ((iterate body (n + 1) s).play env h).2 = ((iterate body n s').play env (h ++ ((body s).play env h).1)).2 := by
  change ((body s >>= _).play env h).2 = _
  rw [play_bind, hbody]

theorem play_iterate_last (env : History Q A → (q : Q) → A q) (body : σ → Program Q A (σ ⊕ α)) (n : ℕ) (s : σ) (a : α)
    (h : History Q A) (hbody : ((body s).play env h).2 = .inr a) :
    (iterate body (n + 1) s).play env h = (((body s).play env h).1, some a) := by
  change (body s >>= _).play env h = _
  rw [play_bind, hbody]
  exact congrArg (fun t => (t, some a)) (List.append_nil _)

theorem play_oracle (f : (q : Q) → A q) (p : Program Q A α) (h : History Q A) :
    ∀ e ∈ (p.play (fun _ => f) h).1, e.answer = f e.asked := by
  induction p generalizing h with
  | ret a => exact List.forall_mem_nil _
  | ask q k ih => exact List.forall_mem_cons.mpr ⟨rfl, ih (f q) _⟩

/- Surroundings that do not remember have no say in where a program starts. -/
theorem play_oracle_result (f : (q : Q) → A q) (p : Program Q A α) (h h' : History Q A) :
    (p.play (fun _ => f) h).2 = (p.play (fun _ => f) h').2 := by
  induction p generalizing h h' with
  | ret a => rfl
  | ask q k ih => exact ih (f q) _ _

/-! ### Contracts -/

/-- What the surroundings promise about an answer, and what the program promises
about a question, both by what has been said before as far as `V` keeps it. -/
structure Contract (Q : Type) (A : Q → Type) (V : Type) where
  next : V → Event Q A → V
  rely : V → (q : Q) → A q → Prop
  guarantee : V → Q → Prop

variable {V : Type}

def Program.Meets (c : Contract Q A V) : Program Q A α → (α → V → Prop) → V → Prop
  | .ret a, post, x => post a x
  | .ask q k, post, x => c.guarantee x q ∧ ∀ a, c.rely x q a → (k a).Meets c post (c.next x ⟨q, a⟩)

variable (c : Contract Q A V)

theorem meets_ret (a : α) (post : α → V → Prop) (x : V) (h : post a x) : (pure a : Program Q A α).Meets c post x :=
  h

theorem meets_ask (q : Q) (post : A q → V → Prop) (x : V) (hq : c.guarantee x q)
    (hpost : ∀ a, c.rely x q a → post a (c.next x ⟨q, a⟩)) : (ask q : Program Q A (A q)).Meets c post x :=
  ⟨hq, hpost⟩

theorem meets_mono (p : Program Q A α) (post post' : α → V → Prop) (x : V) (hp : p.Meets c post x)
    (himp : ∀ a y, post a y → post' a y) : p.Meets c post' x := by
  induction p generalizing x with
  | ret a => exact himp a x hp
  | ask q k ih => exact ⟨hp.1, fun a ha => ih a _ (hp.2 a ha)⟩

theorem meets_bind (p : Program Q A α) (f : α → Program Q A β) (post : β → V → Prop) (x : V)
    (hp : p.Meets c (fun a y => (f a).Meets c post y) x) : (p >>= f).Meets c post x := by
  induction p generalizing x with
  | ret a => exact hp
  | ask q k ih => exact ⟨hp.1, fun a ha => ih a _ (hp.2 a ha)⟩

/-- The loop rule: a round that starts in the invariant ends in it again, with the
rounds counted, or in the postcondition of the loop. A loop that is cut off is
still in the invariant. -/
theorem meets_iterate_counted (body : σ → Program Q A (σ ⊕ α)) (inv : ℕ → σ → V → Prop) (post : α → V → Prop)
    (hbody : ∀ i s x, inv i s x → (body s).Meets c (fun
      | .inl s' => inv (i + 1) s'
      | .inr a => post a) x)
    (n i : ℕ) (s : σ) (x : V) (hs : inv i s x) :
    (iterate body n s).Meets c (fun
      | none => fun y => ∃ s', inv (i + n) s' y
      | some a => post a) x := by
  induction n generalizing i s x with
  | zero => exact ⟨s, hs⟩
  | succ n ih =>
    refine meets_bind c (body s) _ _ x (meets_mono c (body s) _ _ x (hbody i s x hs) ?_)
    intro r y hr
    cases r with
    | inl s' =>
      have hrest := ih (i + 1) s' y hr
      rwa [Nat.add_right_comm] at hrest
    | inr a => exact hr

theorem meets_iterate (body : σ → Program Q A (σ ⊕ α)) (inv : σ → V → Prop) (post : α → V → Prop)
    (hbody : ∀ s x, inv s x → (body s).Meets c (fun
      | .inl s' => inv s'
      | .inr a => post a) x)
    (n : ℕ) (s : σ) (x : V) (hs : inv s x) :
    (iterate body n s).Meets c (fun
      | none => fun y => ∃ s', inv s' y
      | some a => post a) x :=
  meets_iterate_counted c body (fun _ => inv) post (fun _ => hbody) n 0 s x hs

/-- The answers of a run keep to what the contract relies on. -/
def Contract.Kept : V → History Q A → Prop
  | _, [] => True
  | x, e :: t => c.rely x e.asked e.answer ∧ Contract.Kept (c.next x e) t

/-- The questions of a run are those the contract allows. -/
def Contract.Asked : V → History Q A → Prop
  | _, [] => True
  | x, e :: t => c.guarantee x e.asked ∧ Contract.Asked (c.next x e) t

theorem kept_of_rely (h : ∀ x q a, c.rely x q a) (x : V) (t : History Q A) : c.Kept x t := by
  induction t generalizing x with
  | nil => trivial
  | cons e t ih => exact ⟨h x e.asked e.answer, ih (c.next x e)⟩

theorem meets_sound (p : Program Q A α) (post : α → V → Prop) (x : V) (t : History Q A) (r : α)
    (hp : p.Meets c post x) (hr : p.Runs t r) (hk : c.Kept x t) : c.Asked x t ∧ post r (t.foldl c.next x) := by
  induction p generalizing x t with
  | ret a =>
    obtain ⟨rfl, rfl⟩ := hr
    exact ⟨trivial, hp⟩
  | ask q k ih =>
    obtain ⟨a, t', rfl, hr⟩ := hr
    obtain ⟨hasked, hpost⟩ := ih a (c.next x ⟨q, a⟩) t' (hp.2 a hk.1) hr hk.2
    exact ⟨⟨hp.1, hasked⟩, hpost⟩

end LibCxlmi.Dialogue
