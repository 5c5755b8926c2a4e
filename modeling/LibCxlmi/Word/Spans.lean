import Mathlib.Data.List.Basic

/-!
# Spans of a buffer

A span is where some bytes of a buffer start and how many they are. A loop over
entries at equal distances touches the same fields in each of them; whether it
stays inside the buffer is decided by the last field of the last entry.
-/

namespace LibCxlmi.Word

def Inside (size : ℕ) (spans : List (ℕ × ℕ)) : Prop := ∀ s ∈ spans, s.1 + s.2 ≤ size

instance decidableInside (size : ℕ) (spans : List (ℕ × ℕ)) : Decidable (Inside size spans) :=
  inferInstanceAs (Decidable (∀ s ∈ spans, s.1 + s.2 ≤ size))

theorem inside_nil (size : ℕ) : Inside size [] := List.forall_mem_nil _

theorem inside_append (size : ℕ) (xs ys : List (ℕ × ℕ)) :
    Inside size (xs ++ ys) ↔ Inside size xs ∧ Inside size ys := List.forall_mem_append

theorem Inside.mono (size size' : ℕ) (spans : List (ℕ × ℕ)) (hle : size ≤ size') (h : Inside size spans) :
    Inside size' spans :=
  fun s hs => Nat.le_trans (h s hs) hle

/-- The same spans, seen from `off` bytes earlier. -/
def shifted (off : ℕ) (spans : List (ℕ × ℕ)) : List (ℕ × ℕ) := spans.map fun s => (off + s.1, s.2)

theorem inside_shifted (off size : ℕ) (spans : List (ℕ × ℕ)) :
    Inside (off + size) (shifted off spans) ↔ Inside size spans := by
  constructor
  · intro h s hs
    have hle := h (off + s.1, s.2) (List.mem_map_of_mem hs)
    dsimp only at hle
    omega
  · intro h s hs
    obtain ⟨f, hf, rfl⟩ := List.mem_map.mp hs
    have hle := h f hf
    dsimp only
    omega

/-- The fields of `n` entries that are `stride` bytes apart. -/
def entryFields (base stride : ℕ) (fields : List (ℕ × ℕ)) (n : ℕ) : List (ℕ × ℕ) :=
  (List.range n).flatMap fun i => shifted (base + i * stride) fields

/-- `n` bytes one after the other. -/
def bytesFrom (base n : ℕ) : List (ℕ × ℕ) := entryFields base 1 [(0, 1)] n

section Entries
variable (base stride ext n : ℕ) (fields : List (ℕ × ℕ))

theorem inside_entryFields (size : ℕ) (hfields : Inside ext fields)
    (h : n = 0 ∨ base + (n - 1) * stride + ext ≤ size) : Inside size (entryFields base stride fields n) := by
  intro s hs
  obtain ⟨i, hi, hs⟩ := List.mem_flatMap.mp hs
  obtain ⟨f, hf, rfl⟩ := List.mem_map.mp hs
  have hlt := List.mem_range.mp hi
  have hmul : i * stride ≤ (n - 1) * stride := Nat.mul_le_mul_right stride (by omega)
  have hfield := hfields f hf
  dsimp only
  omega

/-- What the last field of an entry ends at. -/
structure Extent : Prop where
  bound : ∀ f ∈ fields, f.1 + f.2 ≤ ext
  reached : ∃ f ∈ fields, f.1 + f.2 = ext

variable (hext : Extent ext fields)
include hext

theorem inside_entryFields_iff (size : ℕ) :
    Inside size (entryFields base stride fields n) ↔ n = 0 ∨ base + (n - 1) * stride + ext ≤ size := by
  constructor
  · intro h
    rcases Nat.eq_zero_or_pos n with hzero | hpos
    · exact Or.inl hzero
    · obtain ⟨f, hf, hend⟩ := hext.reached
      have hmem : (base + (n - 1) * stride + f.1, f.2) ∈ entryFields base stride fields n :=
        List.mem_flatMap.mpr ⟨n - 1, List.mem_range.mpr (by omega), List.mem_map_of_mem hf⟩
      have hle := h _ hmem
      dsimp only at hle
      exact Or.inr (by omega)
  · intro h
    exact inside_entryFields base stride ext n fields size hext.bound h

/-- A buffer of whole entries has room for them and for no more. -/
theorem inside_entries_iff (hpos : 0 < ext) (hle : ext ≤ stride) (room : ℕ) :
    Inside (base + room * stride) (entryFields base stride fields n) ↔ n ≤ room := by
  rw [inside_entryFields_iff base stride ext n fields hext]
  constructor
  · rintro (rfl | h)
    · exact Nat.zero_le room
    · by_contra hroom
      have hmul : room * stride ≤ (n - 1) * stride := Nat.mul_le_mul_right stride (by omega)
      omega
  · intro h
    rcases Nat.eq_zero_or_pos n with hzero | hn
    · exact Or.inl hzero
    · have hmul : (n - 1 + 1) * stride ≤ room * stride := Nat.mul_le_mul_right stride (by omega)
      rw [Nat.succ_mul] at hmul
      exact Or.inr (by omega)

end Entries

theorem inside_bytesFrom_iff (base n size : ℕ) : Inside size (bytesFrom base n) ↔ n = 0 ∨ base + n ≤ size := by
  have hext : Extent 1 [(0, 1)] := ⟨by decide, (0, 1), by decide, rfl⟩
  rw [bytesFrom, inside_entryFields_iff base 1 1 n _ hext]
  omega

end LibCxlmi.Word
