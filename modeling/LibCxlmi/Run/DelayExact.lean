import LibCxlmi.Run.Delay

/-!
# When the delay is right (cxlmi.c:145-190)

The next command is due some microseconds after the last response. Carry, comparison
and borrow are each made for parts that are off by less than a second, so the delay is
right below a second and not in general from there on.
-/

namespace LibCxlmi.Run
open LibCxlmi.Word

/-- What the computation needs: no overflow of the seconds; if the time has come, a clock
that shows no earlier second; otherwise nanoseconds of at most 32 bits, a clock that
shows no later second, and a difference of nanoseconds that one borrow makes normal. -/
def DelayExact (last : Timespec) (us : U 32) (now : Timespec) : Prop :=
  last.tvSec.toInt + carry last us < 0x8000000000000000 ∧
    (last.nanoseconds + us.val * 1000 ≤ now.nanoseconds ∧ last.tvSec.toInt + carry last us ≤ now.tvSec.toInt ∨
      now.nanoseconds < last.nanoseconds + us.val * 1000 ∧ us.val * 1000 < 2 ^ 32 ∧
        now.tvSec.toInt ≤ last.tvSec.toInt + carry last us ∧
        last.tvSec.toInt + carry last us - now.tvSec.toInt < 0x8000000000000000 ∧
        -nsecPerSec ≤ last.tvNsec.toInt + us.val * 1000 - carry last us * nsecPerSec - now.tvNsec.toInt ∧
        last.tvNsec.toInt + us.val * 1000 - carry last us * nsecPerSec - now.tvNsec.toInt < nsecPerSec)

instance decidableDelayExact (last : Timespec) (us : U 32) (now : Timespec) : Decidable (DelayExact last us now) :=
  inferInstanceAs (Decidable (_ ∧ (_ ∧ _ ∨ _ ∧ _)))

/-- The time has come. -/
theorem insertDelay_over_iff (last now : Timespec) (us : U 32) (hlast : last.Normalised)
    (h : last.nanoseconds + us.val * 1000 ≤ now.nanoseconds) :
    insertDelay ⟨us, last, true⟩ (some now) = some none ↔
      (nextParts last us).hi < 0x8000000000000000 ∧ (nextParts last us).hi ≤ now.tvSec.toInt := by
  have hmod : u32 (us.val * 1000) ≤ us.val * 1000 := Nat.mod_le _ _
  rw [← nextTime_defined_iff last us hlast]
  cases hnext : nextTime last us with
  | none => simp [insertDelay_undefined hnext]
  | some next =>
    have hparts := (nextTime_eq_some_iff last us next hlast).mp hnext
    have hval : next.parts.value nsecPerSec ≤ now.parts.value nsecPerSec := by
      rw [hparts, nextParts_value]
      show _ ≤ now.nanoseconds
      omega
    have horder := TwoPart.before_iff_of_value_le hval
    rw [← hparts]
    by_cases hbefore : TwoPart.Before now.parts next.parts
    · have hlt := horder.mp hbefore
      rw [insertDelay_sleeps hnext hbefore]
      simp only [Option.map_eq_some_iff, reduceCtorEq, and_false, exists_false, false_iff, not_and, not_le]
      exact fun _ => hlt
    · rw [insertDelay_returns hnext hbefore]
      simp only [true_iff]
      exact ⟨⟨next, rfl⟩, not_lt.mp fun hlt => hbefore (horder.mpr hlt)⟩

/-- What the parts have to be where there is still something to wait for. -/
structure AheadOk (last : Timespec) (us : U 32) (now : Timespec) : Prop where
  carried : (nextParts last us).hi < 0x8000000000000000
  product : u32 (us.val * 1000) = us.val * 1000
  second : now.tvSec.toInt ≤ (nextParts last us).hi
  seconds : (nextParts last us).hi - now.tvSec.toInt < 0x8000000000000000
  low : -nsecPerSec ≤ (nextParts last us).lo - now.tvNsec.toInt
  high : (nextParts last us).lo - now.tvNsec.toInt < nsecPerSec

/-- The sleep up to the time that is due. -/
def SleepsUntil (last : Timespec) (us : U 32) (now : Timespec) : Prop :=
  ∃ d, insertDelay ⟨us, last, true⟩ (some now) = some (some d) ∧ d.Normalised ∧
    d.nanoseconds = last.nanoseconds + us.val * 1000 - now.nanoseconds

section
variable {last now : Timespec} {us : U 32} (hlast : last.Normalised)
  (h : now.nanoseconds < last.nanoseconds + us.val * 1000)
include hlast h

theorem aheadOk_of_sleepsUntil (hsleep : SleepsUntil last us now) : AheadOk last us now := by
  obtain ⟨d, hd, hnormal, hwait⟩ := hsleep
  have hvalue := nextParts_value last us
  cases hnext : nextTime last us with
  | none =>
    rw [insertDelay_undefined hnext] at hd
    cases hd
  | some next =>
    have hcarried := (nextTime_defined_iff last us hlast).mp ⟨next, hnext⟩
    have hparts := (nextTime_eq_some_iff last us next hlast).mp hnext
    by_cases hbefore : TwoPart.Before now.parts next.parts
    · rw [insertDelay_sleeps hnext hbefore, Option.map_eq_some_iff] at hd
      obtain ⟨d', hsub, hd'⟩ := hd
      obtain rfl := Option.some.inj hd'
      obtain ⟨hseconds, hdparts⟩ := timespecSub_inv next now d' hsub
      rw [hparts] at hdparts hbefore
      have hproduct : u32 (us.val * 1000) = us.val * 1000 := by
        rw [Timespec.nanoseconds, hdparts, TwoPart.value_sub, hvalue] at hwait
        simp only [Timespec.nanoseconds] at hwait
        omega
      have hlt : now.parts.value nsecPerSec < (nextParts last us).value nsecPerSec := by
        rw [hvalue, hproduct]
        exact_mod_cast h
      rw [Timespec.Normalised, hdparts, TwoPart.normal_sub_iff (by decide)] at hnormal
      exact ⟨hcarried, hproduct, (TwoPart.before_iff_of_value_lt hlt).mp hbefore, hparts ▸ hseconds, hnormal.1,
        hnormal.2⟩
    · rw [insertDelay_returns hnext hbefore] at hd
      cases Option.some.inj hd

theorem sleepsUntil_of_aheadOk (hok : AheadOk last us now) : SleepsUntil last us now := by
  have hvalue := nextParts_value last us
  obtain ⟨next, hnext⟩ := (nextTime_defined_iff last us hlast).mpr hok.carried
  have hparts := (nextTime_eq_some_iff last us next hlast).mp hnext
  have hlt : now.parts.value nsecPerSec < next.parts.value nsecPerSec := by
    rw [hparts, hvalue, hok.product]
    exact_mod_cast h
  have hsec : now.parts.hi ≤ next.parts.hi := by
    rw [hparts]
    exact hok.second
  have hseconds := hok.seconds
  have hlow := hok.low
  have hhigh := hok.high
  rw [← hparts] at hseconds hlow hhigh
  have hbefore := (TwoPart.before_iff_of_value_lt hlt).mpr hsec
  obtain ⟨d, hsub⟩ := timespecSub_defined next now hlt hseconds hlow hhigh
  have hdparts := (timespecSub_inv next now d hsub).2
  refine ⟨d, by rw [insertDelay_sleeps hnext hbefore, hsub]; rfl, ?_, ?_⟩
  · rw [Timespec.Normalised, hdparts, TwoPart.normal_sub_iff (by decide)]
    exact ⟨hlow, hhigh⟩
  · rw [Timespec.nanoseconds, hdparts, TwoPart.value_sub, hparts, hvalue, hok.product]
    rfl

end

/-! ### When the delay is right -/

theorem u32_eq_self_iff (n : ℕ) : u32 n = n ↔ n < 2 ^ 32 := by
  unfold u32
  exact Nat.mod_eq_iff_lt (by decide)

theorem delayExact_ahead_iff (last now : Timespec) (us : U 32)
    (h : now.nanoseconds < last.nanoseconds + us.val * 1000) : DelayExact last us now ↔ AheadOk last us now := by
  simp only [DelayExact, h, not_le.mpr h, true_and, false_and, false_or]
  constructor
  · rintro ⟨hcarried, hsmall, hsecond, hseconds, hlow, hhigh⟩
    have hproduct := (u32_eq_self_iff _).mpr hsmall
    refine ⟨hcarried, hproduct, hsecond, hseconds, ?_, ?_⟩
    · simpa only [nextParts, hproduct, Nat.cast_mul, Nat.cast_ofNat] using hlow
    · simpa only [nextParts, hproduct, Nat.cast_mul, Nat.cast_ofNat] using hhigh
  · rintro ⟨hcarried, hproduct, hsecond, hseconds, hlow, hhigh⟩
    refine ⟨hcarried, (u32_eq_self_iff _).mp hproduct, hsecond, hseconds, ?_, ?_⟩
    · simpa only [nextParts, hproduct, Nat.cast_mul, Nat.cast_ofNat] using hlow
    · simpa only [nextParts, hproduct, Nat.cast_mul, Nat.cast_ofNat] using hhigh

theorem delay_exact_iff (last now : Timespec) (us : U 32) (hlast : last.Normalised) :
    SleepsFor (remaining last us now) (insertDelay ⟨us, last, true⟩ (some now)) ↔ DelayExact last us now := by
  unfold SleepsFor remaining
  rcases le_or_gt (last.nanoseconds + us.val * 1000) now.nanoseconds with hover | hahead
  · rw [if_pos (by omega), insertDelay_over_iff last now us hlast hover]
    simp only [DelayExact, hover, not_lt.mpr hover, true_and, false_and, or_false, nextParts]
  · have hwait : max 0 (last.nanoseconds + us.val * 1000 - now.nanoseconds) =
        last.nanoseconds + us.val * 1000 - now.nanoseconds := by omega
    rw [if_neg (by omega), hwait, delayExact_ahead_iff last now us hahead]
    exact ⟨aheadOk_of_sleepsUntil hlast hahead, sleepsUntil_of_aheadOk hlast hahead⟩

theorem delay_across_a_second : remaining ⟨10, 999500000⟩ 1000 ⟨10, 999600000⟩ = 900000 ∧
    SleepsFor (remaining ⟨10, 999500000⟩ 1000 ⟨10, 999600000⟩)
      (insertDelay ⟨1000, ⟨10, 999500000⟩, true⟩ (some ⟨10, 999600000⟩)) :=
  ⟨by decide, (delay_exact_iff ⟨10, 999500000⟩ ⟨10, 999600000⟩ 1000 (by decide)).mpr (by decide)⟩

/- Two seconds, right after a response: the difference is one second and 1000000000
nanoseconds, which `nanosleep` refuses. -/
theorem two_seconds_refused : (⟨10, 0⟩ : Timespec).Normalised ∧
    insertDelay ⟨2000000, ⟨10, 0⟩, true⟩ (some ⟨10, 0⟩) = some (some ⟨1, 1000000000⟩) ∧
    ¬ SleepsFor (remaining ⟨10, 0⟩ 2000000 ⟨10, 0⟩) (insertDelay ⟨2000000, ⟨10, 0⟩, true⟩ (some ⟨10, 0⟩)) := by
  have hasked : insertDelay ⟨2000000, ⟨10, 0⟩, true⟩ (some ⟨10, 0⟩) = some (some ⟨1, 1000000000⟩) := by decide
  refine ⟨by decide, hasked, ?_⟩
  unfold SleepsFor
  rw [if_neg (by decide), hasked]
  rintro ⟨d, hd, hnormal, -⟩
  obtain rfl := Option.some.inj (Option.some.inj hd)
  exact absurd hnormal (by decide)

/-- Delays below a second are right if the clock does not go back. -/
theorem delayExact_below_second (last now : Timespec) (us : U 32) (hlast : last.Normalised) (hnow : now.Normalised)
    (horder : last.nanoseconds ≤ now.nanoseconds) (hsec : last.tvSec.toInt + 1 < 0x8000000000000000)
    (hus : us.val < 1000000) : DelayExact last us now := by
  have hsame : u32 (us.val * 1000) = us.val * 1000 := (u32_eq_self_iff _).mpr (by omega)
  obtain ⟨hlow, hhigh⟩ := hlast
  obtain ⟨hlow', hhigh'⟩ := hnow
  simp only [Timespec.nanoseconds, Timespec.parts, TwoPart.value, nsecPerSec] at *
  unfold DelayExact carry
  rw [hsame]
  simp only [Timespec.nanoseconds, Timespec.parts, TwoPart.value, nsecPerSec]
  push_cast
  split_ifs with hc <;> omega

/- At a second it is asked for in nanoseconds only. -/
example : insertDelay ⟨1000000, ⟨10, 0⟩, true⟩ (some ⟨10, 0⟩) = some (some ⟨0, 1000000000⟩) := by decide

end LibCxlmi.Run
