import Mathlib.Data.List.Basic
import Mathlib.Logic.Function.Basic

/-!
# Runs of a deterministic machine

A machine is a step function from a state and an input to the next state and a
result. `trace` lists what every input of a run met and gave; `Legal` says that
each input was allowed in the state that met it. The rules reduce a statement
about every entry of a trace to one step. A step that may be undefined gives a
run by `List.foldlM`, or by `runM` where results are collected; their rules are
at the end.
-/

namespace LibCxlmi.Run

variable {σ ι ρ : Type}

abbrev Step (σ ι ρ : Type) := σ → ι → σ × ρ

/-- An entry of a trace: the state before the input, the input, the result. -/
structure Entry (σ ι ρ : Type) where
  before : σ
  input : ι
  result : ρ

def trace (step : Step σ ι ρ) : σ → List ι → List (Entry σ ι ρ)
  | _, [] => []
  | s, i :: is => ⟨s, i, (step s i).2⟩ :: trace step (step s i).1 is

def Legal (step : Step σ ι ρ) (ok : σ → ι → Prop) : σ → List ι → Prop
  | _, [] => True
  | s, i :: is => ok s i ∧ Legal step ok (step s i).1 is

theorem trace_invariant (step : Step σ ι ρ) (ok : σ → ι → Prop) (inv : σ → Prop)
    (hstep : ∀ s i, inv s → ok s i → inv (step s i).1) (s : σ) (is : List ι) (h0 : inv s)
    (hl : Legal step ok s is) (e : Entry σ ι ρ) (he : e ∈ trace step s is) :
    inv e.before ∧ ok e.before e.input ∧ e.result = (step e.before e.input).2 := by
  induction is generalizing s with
  | nil => cases he
  | cons i is ih =>
    obtain ⟨hi, hrest⟩ := hl
    rcases List.mem_cons.mp he with rfl | he
    · exact ⟨h0, hi, rfl⟩
    · exact ih (step s i).1 (hstep s i h0 hi) hrest he

/-- The state after some inputs. -/
def after (step : Step σ ι ρ) (s : σ) (is : List ι) : σ := is.foldl (fun s i => (step s i).1) s

theorem mem_trace_after (step : Step σ ι ρ) (s : σ) (is : List ι) (i : ι) (js : List ι) :
    ⟨after step s is, i, (step (after step s is) i).2⟩ ∈ trace step s (is ++ i :: js) := by
  induction is generalizing s with
  | nil => exact List.mem_cons_self
  | cons i' is ih => exact List.mem_cons_of_mem _ (ih (step s i').1)

instance decidableLegal (step : Step σ ι ρ) (ok : σ → ι → Prop) [∀ s i, Decidable (ok s i)] :
    ∀ s is, Decidable (Legal step ok s is)
  | _, [] => isTrue trivial
  | s, i :: is =>
      have := decidableLegal step ok (step s i).1 is
      inferInstanceAs (Decidable (ok s i ∧ Legal step ok (step s i).1 is))

/-! ### Steps that may be undefined -/

theorem foldlM_invariant (step : σ → ι → Option σ) (inv : σ → Prop)
    (hstep : ∀ s i s', inv s → step s i = some s' → inv s') (is : List ι) (s s' : σ) (h : inv s)
    (hr : is.foldlM step s = some s') : inv s' := by
  induction is generalizing s with
  | nil => exact Option.some.inj hr ▸ h
  | cons i is ih =>
    rw [List.foldlM_cons] at hr
    obtain ⟨s₁, h₁, hr⟩ := Option.bind_eq_some_iff.mp hr
    exact ih s₁ (hstep s i s₁ h h₁) hr

theorem foldlM_defined (step : σ → ι → Option σ) (inv : σ → Prop)
    (hstep : ∀ s i, inv s → ∃ s', step s i = some s' ∧ inv s') (is : List ι) (s : σ) (h : inv s) :
    ∃ s', is.foldlM step s = some s' ∧ inv s' := by
  induction is generalizing s with
  | nil => exact ⟨s, rfl, h⟩
  | cons i is ih =>
    obtain ⟨s₁, h₁, hinv⟩ := hstep s i h
    obtain ⟨s', hs', hinv'⟩ := ih s₁ hinv
    refine ⟨s', ?_, hinv'⟩
    rw [List.foldlM_cons, h₁]
    exact hs'

/-- The results of a run whose steps may be undefined. -/
def runM (step : σ → ι → Option (σ × ρ)) : σ → List ι → Option (σ × List ρ)
  | s, [] => some (s, [])
  | s, i :: is => (step s i).bind fun (s', r) => (runM step s' is).map fun (s'', rs) => (s'', r :: rs)

def results (step : Step σ ι ρ) (s : σ) (is : List ι) : List ρ := (trace step s is).map Entry.result

def final (step : Step σ ι ρ) : σ → List ι → σ := List.foldl fun s i => (step s i).1

/-- A step that is defined and refines an abstract step, with the same result,
gives runs that do. -/
theorem runM_refines {τ : Type} (step : σ → ι → Option (σ × ρ)) (spec : Step τ ι ρ) (R : σ → τ → Prop)
    (ok : ι → Prop)
    (hstep : ∀ s t i, R s t → ok i → ∃ s', step s i = some (s', (spec t i).2) ∧ R s' (spec t i).1)
    (is : List ι) (s : σ) (t : τ) (h : R s t) (hok : ∀ i ∈ is, ok i) :
    ∃ s', runM step s is = some (s', results spec t is) ∧ R s' (final spec t is) := by
  induction is generalizing s t with
  | nil => exact ⟨s, rfl, h⟩
  | cons i is ih =>
    obtain ⟨s₁, h₁, hr⟩ := hstep s t i h (hok i (List.mem_cons_self ..))
    obtain ⟨s', hs', hr'⟩ := ih s₁ (spec t i).1 hr fun j hj => hok j (List.mem_cons_of_mem i hj)
    refine ⟨s', ?_, hr'⟩
    rw [runM, h₁, Option.bind_some]
    simp only [hs', Option.map_some]
    rfl

end LibCxlmi.Run
