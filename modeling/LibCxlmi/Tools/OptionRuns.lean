import Mathlib.Data.List.Perm.Basic
import LibCxlmi.Tools.Args

/-!
# Option lists as runs

Where an option's value can be judged without the options before it, `parseOptions`
is two things one after the other: each pair is read on its own, and what was read
is put into the parameters from left to right.
-/

namespace LibCxlmi.Tools
open LibCxlmi.Word LibCxlmi.Text

/-- Options and their values, as they stand in the argument list. -/
def optionWords (os : List (String × String)) : List String := os.flatMap fun o => [o.1, o.2]

theorem optionWords_injective (os os' : List (String × String)) (h : optionWords os = optionWords os') : os = os' := by
  induction os generalizing os' with
  | nil =>
    cases os' with
    | nil => rfl
    | cons o os' => cases h
  | cons o os ih =>
    cases os' with
    | nil => cases h
    | cons o' os' =>
      obtain ⟨h₁, h⟩ := List.cons.inj h
      obtain ⟨h₂, h⟩ := List.cons.inj h
      rw [ih os' h, Prod.ext h₁ h₂]

section Runs
variable {σ ι : Type} (store : String → String → σ → Option σ) (Reads : String × String → ι → Prop)
  (step : σ → ι → Option σ)

theorem parseOptions_some_iff
    (hstore : ∀ opt v s s', store opt v s = some s' ↔ ∃ x, Reads (opt, v) x ∧ step s x = some s')
    (args : List String) (s s' : σ) :
    parseOptions store args s = some s' ↔
      ∃ os xs, args = optionWords os ∧ List.Forall₂ Reads os xs ∧ xs.foldlM step s = some s' := by
  constructor
  · intro h
    fun_induction parseOptions store args s with
    | case1 s => exact ⟨[], [], rfl, .nil, h⟩
    | case2 x s => cases h
    | case3 opt v rest s hnone => cases h
    | case4 opt v rest s s₁ hsome ih =>
      obtain ⟨os, xs, rfl, hread, hrun⟩ := ih h
      obtain ⟨x, hx, hstep⟩ := (hstore opt v s s₁).mp hsome
      refine ⟨(opt, v) :: os, x :: xs, rfl, .cons hx hread, ?_⟩
      rw [List.foldlM_cons, hstep]
      exact hrun
  · intro h
    obtain ⟨os, xs, rfl, hread, hrun⟩ := h
    induction hread generalizing s with
    | nil => exact hrun
    | @cons o x os xs hx hread ih =>
      rw [List.foldlM_cons] at hrun
      obtain ⟨s₁, hstep, hrun⟩ := Option.bind_eq_some_iff.mp hrun
      have hsome : store o.1 o.2 s = some s₁ := (hstore o.1 o.2 s s₁).mpr ⟨x, hx, hstep⟩
      show parseOptions store (o.1 :: o.2 :: optionWords os) s = some s'
      rw [parseOptions, hsome]
      exact ih s₁ hrun

end Runs

/-! ### Numbers as values -/

/-- The whole text is a C numeral, and this is what `strtoull` makes of it. -/
def WholeNumeral (v : String) (a : ℕ) : Prop := ∃ neg n, numeral v = some (neg, n, []) ∧ a = signedValue neg n

theorem parseU64_eq_some_iff (v : String) (a : ℕ) : parseU64 v = some a ↔ WholeNumeral v a := by
  have hend := strtoulEnd_eq v
  unfold parseU64 WholeNumeral strtoul
  cases hn : numeral v with
  | none =>
    rw [hn] at hend
    rw [hend, if_pos (Or.inr (Or.inl rfl))]
    simp
  | some m =>
    obtain ⟨neg, n, rest⟩ := m
    rw [hn] at hend
    have hempty : v ≠ "" := by
      rintro rfl
      cases hn
    rw [hend]
    cases rest with
    | nil =>
      have hwhole : ¬ (v = "" ∨ [] = v.toList ∨ ([] : List Char) ≠ []) := by
        simp [hempty, eq_comm (a := ([] : List Char))]
      rw [if_neg hwhole]
      simp [eq_comm]
    | cons c rest =>
      rw [if_pos (Or.inr (Or.inr (List.cons_ne_nil c rest)))]
      simp

theorem WholeNumeral.le {v : String} {a : ℕ} (h : WholeNumeral v a) : a ≤ ulongMax := by
  obtain ⟨neg, n, -, rfl⟩ := h
  exact signedValue_le neg n

theorem parseUpTo_eq_some_iff (bound : ℕ) (hb : bound < 2 ^ 32) (v : String) (u : U 32) :
    parseUpTo bound v = some u ↔ u.val ≤ bound ∧ WholeNumeral v u.val := by
  have hval : ∀ n, n ≤ bound → (toU32 n).val = n := fun n hn => Nat.mod_eq_of_lt (lt_of_le_of_lt hn hb)
  rw [parseUpTo, Option.bind_eq_some_iff]
  simp only [parseU64_eq_some_iff]
  constructor
  · rintro ⟨n, hn, h⟩
    split_ifs at h with hbig
    have hle := Nat.le_of_not_lt hbig
    obtain rfl := Option.some.inj h
    rw [hval n hle]
    exact ⟨hle, hn⟩
  · rintro ⟨hle, hn⟩
    refine ⟨u.val, hn, ?_⟩
    rw [if_neg (Nat.not_lt.mpr hle)]
    exact congrArg some (Fin.ext (hval u.val hle))

end LibCxlmi.Tools
