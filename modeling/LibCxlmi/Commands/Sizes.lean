import LibCxlmi.Commands.Neutral

/-!
# What the byte order leaves alone

Facts that hold of every command: how large its response is on either host, when
the request can be filled, and that a failed exchange is reported.
-/

namespace LibCxlmi.Commands
open LibCxlmi.Word LibCxlmi.Cci LibCxlmi.Transport

variable {α : Type}

theorem plain_sameSizes (c : Command α) (h : Plain c) : SameSizes c := by
  cases c
  case fmapiGetDcRegionExtList i => exact h
  case fmapiDcListTags startIdx tagsCount => exact h
  all_goals exact trivial

theorem payload_big (c : Command α) : c.spec.payload .little = none ↔ c.spec.payload .big = none := by
  by_cases h : Plain c
  · rw [(plain_neutral c h).payload]
  · cases c
    case getSupportedFeatures | memdevGetDcExtentList | fmapiGetDcRegionExtList | fmapiDcListTags =>
      exact iff_of_false (Option.some_ne_none _) (Option.some_ne_none _)
    all_goals exact absurd trivial h

theorem rspMin_big (c : Command α) : c.spec.rspMin .little = c.spec.rspMin .big := by
  by_cases h : Plain c
  · exact (plain_neutral c h).rspMin
  · cases c
    case getSupportedFeatures | memdevGetDcExtentList | fmapiGetDcRegionExtList | fmapiDcListTags => rfl
    all_goals exact absurd trivial h

theorem dcListTags_size_ge (v : ℤ) : 28 ≤ sizeT (12 + 16 + int32 v * 84) := by
  have hb := int32_bounds v
  generalize int32 v = x at hb
  have h : 28 ≤ (12 + 16 + x * 84) % 2 ^ 64 := by
    by_cases hx : 0 ≤ x
    · rw [Int.emod_eq_of_lt (by omega) (by omega)]
      omega
    · rw [← Int.add_emod_right, Int.emod_eq_of_lt (by omega) (by omega)]
      omega
  unfold sizeT
  omega

theorem dcListTags_size_inj (v w : ℕ) (hv : v < 2 ^ 32) (hw : w < 2 ^ 32)
    (h : sizeT (12 + 16 + int32 v * 84) = sizeT (12 + 16 + int32 w * 84)) : v = w := by
  have hbv := int32_bounds v
  have hbw := int32_bounds w
  refine int32_inj v w hv hw ?_
  generalize int32 v = x at hbv h
  generalize int32 w = y at hbw h
  have hxy := sizeT_inj _ _ (by omega) (by omega) h
  omega

theorem swapWord_lt (v : ℕ) : swapWord 4 v < 2 ^ 32 := by
  have h := leVal_lt (leBytes 4 v).reverse
  rwa [List.length_reverse, leBytes_length] at h

theorem rspSz_big_iff (c : Command α) : c.spec.rspSz .little = c.spec.rspSz .big ↔ SameSizes c := by
  by_cases h : Plain c
  · exact iff_of_true (plain_neutral c h).rspSz (plain_sameSizes c h)
  · cases c
    case getSupportedFeatures | memdevGetDcExtentList => exact iff_of_true rfl trivial
    case fmapiGetDcRegionExtList i =>
      refine iff_of_false (fun hs => h ?_) h
      have hs : 12 + 24 + leWord .little i.extentCount * 40 = 12 + 24 + swapWord 4 i.extentCount * 40 := hs
      rw [leWord_little] at hs
      show swapWord 4 i.extentCount = i.extentCount
      omega
    case fmapiDcListTags startIdx tagsCount =>
      refine iff_of_false (fun hs => h ?_) h
      simp only [Command.spec, fmapiDcListTags, leWord_little] at hs
      exact (dcListTags_size_inj _ _ tagsCount.isLt (swapWord_lt _) hs).symm
    all_goals exact absurd trivial h

theorem rspHeap_of_not_sameSizes (c : Command α) (h : ¬SameSizes c) : c.spec.rspHeap = true := by
  cases c
  case fmapiGetDcRegionExtList | fmapiDcListTags => rfl
  all_goals exact absurd trivial h

/-- List Tags looks at the zeroed response of a failed exchange and finds no
tags in it. -/
theorem dcListTags_zeros (o : ByteOrder) (startIdx tagsCount : U 32) :
    ∃ v, (fmapiDcListTags startIdx tagsCount).decode o (zeros ((fmapiDcListTags startIdx tagsCount).rspSz o)) =
      some v := by
  have hsz : 28 ≤ (fmapiDcListTags startIdx tagsCount).rspSz o := by
    simp only [fmapiDcListTags]
    exact dcListTags_size_ge _
  generalize (fmapiDcListTags startIdx tagsCount).rspSz o = sz at hsz
  simp only [fmapiDcListTags, payload_zeros, getLe_zeros]
  have hfit : 16 + 0 * 84 ≤ (zeros (sz - 12)).length ∧ 0 < 2 ^ 31 := by
    rw [zeros_length]
    omega
  rw [records, if_pos hfit]
  exact ⟨_, rfl⟩

theorem finishes (c : Command α) (o : ByteOrder) : c.spec.Finishes o := by
  cases c
  case fmapiDcListTags startIdx tagsCount => exact Or.inr (dcListTags_zeros o startIdx tagsCount)
  all_goals exact Or.inl rfl

theorem unchecked_plain_iff (c : Command α) (h : c.spec.checked = false) : Plain c ↔ SameSizes c := by
  cases c
  case fmapiDcListTags startIdx tagsCount => exact Iff.rfl
  all_goals cases h

theorem plain_of_large (c : Command α) (h : 12 < c.spec.plSz) : Plain c ∧ c.spec.checked = true := by
  cases c
  case getSupportedFeatures => exact absurd h (show ¬12 < 8 by decide)
  case memdevGetDcExtentList => exact absurd h (show ¬12 < 8 by decide)
  case fmapiGetDcRegionExtList => exact absurd h (show ¬12 < 12 by decide)
  case fmapiDcListTags => exact absurd h (show ¬12 < 8 by decide)
  all_goals exact ⟨trivial, rfl⟩

theorem twelve_le_rspMin (c : Command α) : 12 ≤ c.spec.rspMin .little := by
  cases c
  all_goals first | exact Nat.le_refl 12 | exact Nat.le_add_right 12 _

end LibCxlmi.Commands
