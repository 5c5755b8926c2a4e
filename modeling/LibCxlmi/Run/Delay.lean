import LibCxlmi.Word.Buffer
import LibCxlmi.Word.TwoPart

/-!
# The delay between commands (cxlmi.c:145-190)

A device may want some time between a response and the next request. The delay is
computed on `struct timespec`, with 64-bit `time_t` and `long`: the microseconds are
turned into nanoseconds as `unsigned int`, at most one second is carried over, the
clock is compared part by part, and the difference borrows at most one second. It is only
called for endpoints with the quirk for it, which `endpoint_probe` sets on none so far.
-/

namespace LibCxlmi.Run
open LibCxlmi.Word

structure Timespec where
  tvSec : Int64
  tvNsec : Int64
  deriving DecidableEq, Repr

/-- The result of signed 64-bit arithmetic; an overflow is undefined. -/
def signed (x : ℤ) : Option Int64 :=
  if -0x8000000000000000 ≤ x ∧ x < 0x8000000000000000 then some (Int64.ofInt x) else none

def nsecPerSec : ℤ := 1000 * 1000 * 1000

def timespecCmp (a b : Timespec) (cmp : ℤ → ℤ → Bool) : Bool :=
  if a.tvSec = b.tvSec then cmp a.tvNsec.toInt b.tvNsec.toInt else cmp a.tvSec.toInt b.tvSec.toInt

def timespecSub (a b : Timespec) : Option Timespec := do
  let sec ← signed (a.tvSec.toInt - b.tvSec.toInt)
  let nsec ← signed (a.tvNsec.toInt - b.tvNsec.toInt)
  if nsec.toInt < 0 then
    let sec ← signed (sec.toInt - 1)
    let nsec ← signed (nsec.toInt + nsecPerSec)
    return ⟨sec, nsec⟩
  else
    return ⟨sec, nsec⟩

/-- The members of struct cxlmi_endpoint for the delay. -/
structure Pacing where
  interCommandUs : U 32
  lastRespTime : Timespec
  lastRespTimeValid : Bool
  deriving DecidableEq, Repr

/- The earliest time of the next command. -/
def nextTime (last : Timespec) (us : U 32) : Option Timespec := do
  let nsec ← signed (last.tvNsec.toInt + u32 (us.val * 1000))
  if nsec.toInt > nsecPerSec then
    let nsec ← signed (nsec.toInt - nsecPerSec)
    let sec ← signed (last.tvSec.toInt + 1)
    return ⟨sec, nsec⟩
  else
    return ⟨last.tvSec, nsec⟩

/-- What `nanosleep` is asked for, if it is called; `clock` is what `clock_gettime`
gives, `none` where it fails. -/
def insertDelay (ep : Pacing) (clock : Option Timespec) : Option (Option Timespec) :=
  if ep.lastRespTimeValid = false then some none
  else do
    let next ← nextTime ep.lastRespTime ep.interCommandUs
    match clock with
    | none => return none
    | some now =>
        if timespecCmp now next (fun x y => decide (x ≥ y)) then return none
        else
          let delay ← timespecSub next now
          return some delay

/-! ### Times as numbers -/

def Timespec.parts (t : Timespec) : TwoPart := ⟨t.tvSec.toInt, t.tvNsec.toInt⟩

def Timespec.nanoseconds (t : Timespec) : ℤ := t.parts.value nsecPerSec

def Timespec.Normalised (t : Timespec) : Prop := t.parts.Normal nsecPerSec

instance Timespec.decidableNormalised (t : Timespec) : Decidable t.Normalised :=
  inferInstanceAs (Decidable (_ ∧ _))

/-- The sleep is asked for in normal form, and not at all if there is nothing to wait for. -/
def SleepsFor (wait : ℤ) (r : Option (Option Timespec)) : Prop :=
  if wait = 0 then r = some none else ∃ d, r = some (some d) ∧ d.Normalised ∧ d.nanoseconds = wait

def remaining (last : Timespec) (us : U 32) (now : Timespec) : ℤ :=
  max 0 (last.nanoseconds + us.val * 1000 - now.nanoseconds)

theorem toInt_bounds (v : Int64) : -0x8000000000000000 ≤ v.toInt ∧ v.toInt < 0x8000000000000000 :=
  ⟨v.le_toInt, v.toInt_lt⟩

theorem signed_eq_some_iff (x : ℤ) (v : Int64) : signed x = some v ↔ v.toInt = x := by
  unfold signed
  constructor
  · intro h
    split_ifs at h with hx
    obtain rfl := Option.some.inj h
    exact Int64.toInt_ofInt_of_le hx.1 hx.2
  · rintro rfl
    rw [if_pos (toInt_bounds v), Int64.ofInt_toInt]

theorem signed_fits (x : ℤ) (h : -0x8000000000000000 ≤ x) (h' : x < 0x8000000000000000) :
    ∃ v, signed x = some v ∧ v.toInt = x :=
  ⟨Int64.ofInt x, if_pos ⟨h, h'⟩, Int64.toInt_ofInt_of_le h h'⟩

/-! ### The parts of the computation -/

/-- Whether a second is carried. -/
def carry (last : Timespec) (us : U 32) : ℤ :=
  if last.tvNsec.toInt + u32 (us.val * 1000) > nsecPerSec then 1 else 0

def nextParts (last : Timespec) (us : U 32) : TwoPart :=
  ⟨last.tvSec.toInt + carry last us, last.tvNsec.toInt + u32 (us.val * 1000) - carry last us * nsecPerSec⟩

theorem timespec_ext (s t : Timespec) (h : s.parts = t.parts) : s = t := by
  obtain ⟨hsec, hnsec⟩ := TwoPart.mk.inj h
  cases s
  cases t
  rw [Timespec.mk.injEq]
  exact ⟨Int64.toInt_inj.mp hsec, Int64.toInt_inj.mp hnsec⟩

/-- There is at most the carry to overflow. -/
theorem nextTime_eq_some_iff (last : Timespec) (us : U 32) (next : Timespec) (hlast : last.Normalised) :
    nextTime last us = some next ↔ next.parts = nextParts last us := by
  obtain ⟨hlow, hhigh⟩ := hlast
  have hus : u32 (us.val * 1000) < 2 ^ 32 := Nat.mod_lt _ (by decide)
  simp only [Timespec.parts, nsecPerSec] at hlow hhigh
  obtain ⟨nsec, hsome, hnsec⟩ := signed_fits (last.tvNsec.toInt + u32 (us.val * 1000)) (by omega) (by omega)
  simp only [nextTime, hsome, Option.bind_eq_bind, Option.bind_some, hnsec, nextParts, carry]
  split_ifs with hc
  · obtain ⟨low, hlowSome, hlow⟩ :=
      signed_fits (last.tvNsec.toInt + u32 (us.val * 1000) - nsecPerSec) (by unfold nsecPerSec at hc ⊢; omega)
        (by unfold nsecPerSec; omega)
    simp only [hlowSome, Option.bind_some, Option.bind_eq_some_iff, signed_eq_some_iff, pure, Option.some.injEq]
    constructor
    · rintro ⟨sec, hsec, rfl⟩
      simp only [Timespec.parts, hsec, hlow, one_mul]
    · intro h
      obtain ⟨hsec, hnsec'⟩ := TwoPart.mk.inj h
      refine ⟨next.tvSec, hsec, timespec_ext _ _ ?_⟩
      simp only [Timespec.parts, hlow, hnsec', one_mul]
  · simp only [pure, Option.some.injEq, zero_mul, sub_zero, add_zero, ← hnsec]
    constructor
    · rintro rfl
      rfl
    · intro h
      exact timespec_ext _ _ h.symm

theorem nextParts_lo (last : Timespec) (us : U 32) (hlast : last.Normalised) :
    0 ≤ (nextParts last us).lo ∧ (nextParts last us).lo < 2 ^ 32 := by
  obtain ⟨hlow, hhigh⟩ := hlast
  have hus : u32 (us.val * 1000) < 2 ^ 32 := Nat.mod_lt _ (by decide)
  simp only [Timespec.parts, nsecPerSec] at hlow hhigh
  simp only [nextParts, carry, nsecPerSec]
  split_ifs <;> omega

theorem nextTime_defined_iff (last : Timespec) (us : U 32) (hlast : last.Normalised) :
    (∃ next, nextTime last us = some next) ↔ (nextParts last us).hi < 0x8000000000000000 := by
  simp only [nextTime_eq_some_iff last us _ hlast]
  constructor
  · rintro ⟨next, h⟩
    rw [← h]
    exact (toInt_bounds next.tvSec).2
  · intro hhi
    have hsec := toInt_bounds last.tvSec
    obtain ⟨hlo, hlt⟩ := nextParts_lo last us hlast
    have hcarry : 0 ≤ carry last us := by
      unfold carry
      split_ifs <;> decide
    have hge : -0x8000000000000000 ≤ (nextParts last us).hi := by
      show -0x8000000000000000 ≤ last.tvSec.toInt + carry last us
      omega
    obtain ⟨sec, -, hs⟩ := signed_fits (nextParts last us).hi hge hhi
    obtain ⟨nsec, -, hn⟩ := signed_fits (nextParts last us).lo (by omega) (by omega)
    refine ⟨⟨sec, nsec⟩, ?_⟩
    show TwoPart.mk sec.toInt nsec.toInt = _
    rw [hs, hn]

theorem nextParts_value (last : Timespec) (us : U 32) :
    (nextParts last us).value nsecPerSec = last.nanoseconds + u32 (us.val * 1000) := by
  simp only [nextParts, Timespec.nanoseconds, Timespec.parts, TwoPart.value]
  ring

/-- The macro compares the seconds first. -/
theorem timespecCmp_ge (a b : Timespec) :
    timespecCmp a b (fun x y => decide (x ≥ y)) = true ↔ ¬ TwoPart.Before a.parts b.parts := by
  unfold timespecCmp TwoPart.Before Timespec.parts
  by_cases hsec : a.tvSec = b.tvSec
  · simp [hsec]
  · have hne : a.tvSec.toInt ≠ b.tvSec.toInt := fun h => hsec (Int64.toInt_inj.mp h)
    simp only [if_neg hsec, decide_eq_true_eq, hne, false_and, or_false, ge_iff_le, not_lt]

theorem timespecSub_inv (a b d : Timespec) (h : timespecSub a b = some d) :
    a.tvSec.toInt - b.tvSec.toInt < 0x8000000000000000 ∧ d.parts = TwoPart.sub nsecPerSec a.parts b.parts := by
  simp only [timespecSub, Option.bind_eq_bind, Option.bind_eq_some_iff, signed_eq_some_iff] at h
  obtain ⟨sec, hsec, nsec, hnsec, h⟩ := h
  have hfits := (toInt_bounds sec).2
  rw [hsec] at hfits
  refine ⟨hfits, ?_⟩
  simp only [hnsec, hsec] at h
  by_cases hneg : a.tvNsec.toInt - b.tvNsec.toInt < 0
  · simp only [if_pos hneg, Option.bind_eq_some_iff, signed_eq_some_iff] at h
    obtain ⟨sec', hsec', nsec', hnsec', h⟩ := h
    obtain rfl := Option.some.inj h
    rw [TwoPart.sub_borrow (x := a.parts) (y := b.parts) hneg, Timespec.parts, hsec', hnsec']
    rfl
  · rw [if_neg hneg] at h
    obtain rfl := Option.some.inj h
    rw [TwoPart.sub_plain (x := a.parts) (y := b.parts) hneg, Timespec.parts, hsec, hnsec]
    rfl

theorem timespecSub_defined (a b : Timespec) (hlt : b.nanoseconds < a.nanoseconds)
    (hsec : a.tvSec.toInt - b.tvSec.toInt < 0x8000000000000000)
    (hlow : -nsecPerSec ≤ a.tvNsec.toInt - b.tvNsec.toInt) (hhigh : a.tvNsec.toInt - b.tvNsec.toInt < nsecPerSec) :
    ∃ d, timespecSub a b = some d := by
  simp only [Timespec.nanoseconds, Timespec.parts, TwoPart.value, nsecPerSec] at hlt hlow hhigh
  obtain ⟨sec, hs, hsval⟩ := signed_fits (a.tvSec.toInt - b.tvSec.toInt) (by omega) hsec
  obtain ⟨nsec, hn, hnval⟩ := signed_fits (a.tvNsec.toInt - b.tvNsec.toInt) (by omega) (by omega)
  simp only [timespecSub, hs, hn, Option.bind_eq_bind, Option.bind_some, hsval, hnval]
  split_ifs with hneg
  · obtain ⟨sec', hs', -⟩ := signed_fits (a.tvSec.toInt - b.tvSec.toInt - 1) (by omega) (by omega)
    obtain ⟨nsec', hn', -⟩ := signed_fits (a.tvNsec.toInt - b.tvNsec.toInt + nsecPerSec) (by unfold nsecPerSec; omega)
      (by unfold nsecPerSec; omega)
    rw [hs', hn']
    exact ⟨_, rfl⟩
  · exact ⟨_, rfl⟩

/-! ### What a call does -/

section
variable {last now : Timespec} {us : U 32} {next : Timespec}

theorem insertDelay_undefined (h : nextTime last us = none) : insertDelay ⟨us, last, true⟩ (some now) = none := by
  simp [insertDelay, h]

theorem insertDelay_returns (h : nextTime last us = some next) (hnot : ¬ TwoPart.Before now.parts next.parts) :
    insertDelay ⟨us, last, true⟩ (some now) = some none := by
  simp [insertDelay, h, (timespecCmp_ge now next).mpr hnot]

theorem insertDelay_sleeps (h : nextTime last us = some next) (hbefore : TwoPart.Before now.parts next.parts) :
    insertDelay ⟨us, last, true⟩ (some now) = (timespecSub next now).map some := by
  have hcmp : timespecCmp now next (fun x y => decide (x ≥ y)) = false := by
    rw [← Bool.not_eq_true, timespecCmp_ge, not_not]
    exact hbefore
  simp only [insertDelay, h, Option.bind_eq_bind, Option.bind_some, hcmp, Bool.true_eq_false, Bool.false_eq_true,
    if_false]
  cases timespecSub next now <;> rfl

end

end LibCxlmi.Run
