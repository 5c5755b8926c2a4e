import Mathlib.Tactic.Ring

/-!
# Numbers in two parts

A number as a multiple of a base and a rest, each an integer. Where both rests are
below the base the order of the numbers is that of the parts, the high one first, and
a difference takes at most one borrow. Neither has to hold for other rests; the lemmas
say what remains.
-/

namespace LibCxlmi.Word

structure TwoPart where
  hi : ℤ
  lo : ℤ

namespace TwoPart

variable {base : ℤ} {x y : TwoPart}

def value (base : ℤ) (x : TwoPart) : ℤ := x.hi * base + x.lo

def Normal (base : ℤ) (x : TwoPart) : Prop := 0 ≤ x.lo ∧ x.lo < base

/-- The order of the parts. -/
def Before (x y : TwoPart) : Prop := x.hi < y.hi ∨ x.hi = y.hi ∧ x.lo < y.lo

def sub (base : ℤ) (x y : TwoPart) : TwoPart :=
  if x.lo - y.lo < 0 then ⟨x.hi - y.hi - 1, x.lo - y.lo + base⟩ else ⟨x.hi - y.hi, x.lo - y.lo⟩

theorem sub_borrow (h : x.lo - y.lo < 0) : sub base x y = ⟨x.hi - y.hi - 1, x.lo - y.lo + base⟩ := if_pos h

theorem sub_plain (h : ¬ x.lo - y.lo < 0) : sub base x y = ⟨x.hi - y.hi, x.lo - y.lo⟩ := if_neg h

theorem before_iff_of_value_lt (h : x.value base < y.value base) : Before x y ↔ x.hi ≤ y.hi := by
  unfold Before
  constructor
  · intro hxy
    omega
  · intro hle
    by_cases hhi : x.hi = y.hi
    · simp only [value, hhi] at h
      exact Or.inr ⟨hhi, by omega⟩
    · exact Or.inl (by omega)

theorem before_iff_of_value_le (h : y.value base ≤ x.value base) : Before x y ↔ x.hi < y.hi := by
  unfold Before
  constructor
  · intro hxy
    by_cases hhi : x.hi = y.hi
    · simp only [value, hhi] at h
      omega
    · omega
  · exact Or.inl

theorem value_sub : (sub base x y).value base = x.value base - y.value base := by
  by_cases h : x.lo - y.lo < 0
  · rw [sub_borrow h]
    simp only [value]
    ring
  · rw [sub_plain h]
    simp only [value]
    ring

theorem normal_sub_iff (hbase : 0 < base) :
    (sub base x y).Normal base ↔ -base ≤ x.lo - y.lo ∧ x.lo - y.lo < base := by
  by_cases h : x.lo - y.lo < 0
  · rw [sub_borrow h]
    simp only [Normal]
    omega
  · rw [sub_plain h]
    simp only [Normal]
    omega

end TwoPart

end LibCxlmi.Word
