import LibCxlmi.Dialogue.Program

/-!
# Answers from a lower layer

A program may wait for answers that a lower layer makes out of others.
`handle f` is the program with that layer under it: it asks the same questions,
hears what the lower layer hears, and goes on with what `f` makes of it.

Surroundings may answer out of a state of their own, which every question moves
on. `serve` is the run against them.
-/

namespace LibCxlmi.Dialogue

variable {Q : Type} {A B : Q → Type} {α β σ : Type} (f : (q : Q) → B q → A q)

def Program.handle : Program Q A α → Program Q B α
  | .ret a => .ret a
  | .ask q k => .ask q fun b => (k (f q b)).handle

theorem handle_bind (p : Program Q A α) (g : α → Program Q A β) :
    (p >>= g).handle f = p.handle f >>= fun a => (g a).handle f := by
  induction p with
  | ret a => rfl
  | ask q k ih => exact congrArg (Program.ask q) (funext fun b => ih (f q b))

theorem handle_iterate (body : σ → Program Q A (σ ⊕ α)) (n : ℕ) (s : σ) :
    (iterate body n s).handle f = iterate (fun s => (body s).handle f) n s := by
  induction n generalizing s with
  | zero => rfl
  | succ n ih =>
    change (body s >>= _).handle f = (body s).handle f >>= _
    rw [handle_bind]
    congr 1
    funext r
    cases r with
    | inl s' => exact ih s'
    | inr a => rfl

/-! ### Surroundings with a state -/

section Serve
variable {τ : Type} (step : τ → (q : Q) → A q × τ)

/-- How the program ends, and the state it leaves behind. -/
def Program.serve : Program Q A α → τ → α × τ
  | .ret a, t => (a, t)
  | .ask q k, t => (k (step t q).1).serve (step t q).2

theorem serve_bind (p : Program Q A α) (g : α → Program Q A β) (t : τ) :
    (p >>= g).serve step t = (g (p.serve step t).1).serve step (p.serve step t).2 := by
  induction p generalizing t with
  | ret a => rfl
  | ask q k ih => exact ih (step t q).1 (step t q).2

theorem serve_ask (q : Q) (g : A q → Program Q A α) (t : τ) :
    (ask q >>= g).serve step t = (g (step t q).1).serve step (step t q).2 := rfl

theorem serve_iterate_next (body : σ → Program Q A (σ ⊕ α)) (n : ℕ) (s s' : σ) (t t' : τ)
    (h : (body s).serve step t = (.inl s', t')) :
    (iterate body (n + 1) s).serve step t = (iterate body n s').serve step t' := by
  change (body s >>= _).serve step t = _
  rw [serve_bind, h]

theorem serve_iterate_last (body : σ → Program Q A (σ ⊕ α)) (n : ℕ) (s : σ) (a : α) (t t' : τ)
    (h : (body s).serve step t = (.inr a, t')) : (iterate body (n + 1) s).serve step t = (some a, t') := by
  change (body s >>= _).serve step t = _
  rw [serve_bind, h]
  rfl

end Serve

end LibCxlmi.Dialogue
