import LibCxlmi.Run.DelayExact
import LibCxlmi.Transport.Send

/-!
# Commands kept apart (cxlmi.c:162-190, 1136-1142, 1156-1207)

An endpoint with the quirk for a minimal time between commands waits before a command
and notes the time after it. The wait changes nothing about the command itself, and
commands of a run are as far apart as they should be, for times below a second. No
endpoint has the quirk so far: `endpoint_probe` clears all of them.
-/

namespace LibCxlmi.Run
open LibCxlmi.Word LibCxlmi.Cci LibCxlmi.Transport

def recordRespTime (ep : Pacing) (clock : Option Timespec) : Pacing :=
  { ep with lastRespTime := clock.getD ep.lastRespTime, lastRespTimeValid := clock.isSome }

def quirkMinInterCommandTime : ℕ := 1

structure PacedEndpoint where
  ep : Endpoint
  quirks : U 64
  pacing : Pacing

def epHasQuirk (e : PacedEndpoint) (quirk : ℕ) : Bool := e.quirks.val &&& quirk != 0

def pauseBefore (e : PacedEndpoint) (clock : Option Timespec) : Option (Option Timespec) :=
  if epHasQuirk e quirkMinInterCommandTime then insertDelay e.pacing clock else some none

def noteAfter (e : PacedEndpoint) (clock : Option Timespec) : Pacing :=
  if epHasQuirk e quirkMinInterCommandTime then recordRespTime e.pacing clock else e.pacing

/-- `send_cmd_cci` with the wait before the command; `before` and `after` are what the
clock shows then. -/
def sendCmdCciPaced (o : ByteOrder) (env : Env) (e : PacedEndpoint) (before after : Option Timespec)
    (ti : Option TunnelInfo) (req : Bytes) (rspSz rspMin : ℕ) : Option (Option Timespec × Outcome PacedEndpoint) :=
  if refused e.ep ti req then some (none, failOutcome rspSz e)
  else do
    let pause ← pauseBefore e before
    let r ← sendCmdCci o env e.ep ti req rspSz rspMin
    return (pause, r.map fun ep => { e with ep := ep, pacing := noteAfter e after })

section
variable {o : ByteOrder} {env : Env} {e : PacedEndpoint} {before after : Option Timespec} {ti : Option TunnelInfo}
  {req : Bytes} {rspSz rspMin : ℕ} {pause : Option Timespec} {r : Outcome PacedEndpoint}

theorem sendCmdCciPaced_sent (href : refused e.ep ti req = false)
    (h : sendCmdCciPaced o env e before after ti req rspSz rspMin = some (pause, r)) :
    pauseBefore e before = some pause ∧ r.st.quirks = e.quirks ∧ r.st.pacing = noteAfter e after ∧
      sendCmdCci o env e.ep ti req rspSz rspMin = some (r.map (·.ep)) := by
  simp only [sendCmdCciPaced, href, Bool.false_eq_true, if_false, Option.bind_eq_bind, Option.bind_eq_some_iff] at h
  obtain ⟨pause', hpause, r', hr, h⟩ := h
  obtain ⟨rfl, rfl⟩ := Prod.mk.inj (Option.some.inj h)
  exact ⟨hpause, rfl, rfl, hr⟩

/-- The command is the one without the wait. -/
theorem sendCmdCciPaced_outcome
    (h : sendCmdCciPaced o env e before after ti req rspSz rspMin = some (pause, r)) :
    sendCmdCci o env e.ep ti req rspSz rspMin = some (r.map (·.ep)) := by
  cases href : refused e.ep ti req with
  | true =>
    rw [sendCmdCciPaced, if_pos href] at h
    obtain ⟨-, rfl⟩ := Prod.mk.inj (Option.some.inj h)
    exact sendCmdCci_refused o env e.ep ti req rspSz rspMin href
  | false => exact (sendCmdCciPaced_sent href h).2.2.2

end

/-! ### Runs of commands -/

/-- The readings of the clock around a command, and when the request leaves. -/
structure Timing where
  before : Option Timespec
  left : ℤ
  after : Option Timespec

structure PacedCommand where
  env : Env
  ti : Option TunnelInfo
  req : Bytes
  rspSz : ℕ
  rspMin : ℕ
  time : Timing

/-- A clock that gives normal times and does not go back, and sleeps that are not cut
short; `nanosleep` refuses times that are not normal. -/
structure Timing.Honest (p : Pacing) (pause : Option Timespec) (x : Timing) : Prop where
  normal : ∀ now, x.before = some now → now.Normalised
  order : ∀ now, x.before = some now → p.lastRespTimeValid = true → p.lastRespTime.nanoseconds ≤ now.nanoseconds
  leaves : ∀ now, x.before = some now → now.nanoseconds ≤ x.left
  sleeps : ∀ now d, x.before = some now → pause = some d → d.Normalised → now.nanoseconds + d.nanoseconds ≤ x.left
  after : ∀ t, x.after = some t → t.Normalised ∧ t.tvSec.toInt + 1 < 0x8000000000000000

/-- Any commands one after the other, and the times of those that are not refused. -/
inductive PacedRun (o : ByteOrder) : PacedEndpoint → List PacedCommand → List Timing → Prop where
  | done (e : PacedEndpoint) : PacedRun o e [] []
  | refused (e : PacedEndpoint) (c : PacedCommand) (cs : List PacedCommand) (ts : List Timing) :
      Transport.refused e.ep c.ti c.req = true → PacedRun o e cs ts → PacedRun o e (c :: cs) ts
  | sent (e : PacedEndpoint) (c : PacedCommand) (cs : List PacedCommand) (ts : List Timing)
      (pause : Option Timespec) (r : Outcome PacedEndpoint) :
      Transport.refused e.ep c.ti c.req = false →
      sendCmdCciPaced o c.env e c.time.before c.time.after c.ti c.req c.rspSz c.rspMin = some (pause, r) →
      c.time.Honest e.pacing pause → PacedRun o r.st cs ts → PacedRun o e (c :: cs) (c.time :: ts)

/-- The second request leaves no earlier than it may after the response to the first. -/
def Apart (us : U 32) (x y : Timing) : Prop :=
  ∀ t now, x.after = some t → y.before = some now → t.nanoseconds + us.val * 1000 ≤ y.left

/-- The same for the last response that the endpoint knows of. -/
def Due (p : Pacing) (y : Timing) : Prop :=
  ∀ now, p.lastRespTimeValid = true → y.before = some now →
    p.lastRespTime.nanoseconds + p.interCommandUs.val * 1000 ≤ y.left

structure Pacing.Ok (p : Pacing) : Prop where
  last : p.lastRespTimeValid = true → p.lastRespTime.Normalised ∧ p.lastRespTime.tvSec.toInt + 1 < 0x8000000000000000
  short : p.interCommandUs.val < 1000000

theorem Pacing.Ok.recordRespTime {p : Pacing} (h : p.Ok) {pause : Option Timespec} {x : Timing}
    (hx : x.Honest p pause) : (Run.recordRespTime p x.after).Ok := by
  refine ⟨fun hvalid => ?_, h.short⟩
  obtain ⟨t, ht⟩ := Option.isSome_iff_exists.mp hvalid
  simp only [Run.recordRespTime, ht, Option.getD_some]
  exact hx.after t ht

theorem apart_of_due (p : Pacing) (x y : Timing) (h : Due (recordRespTime p x.after) y) :
    Apart p.interCommandUs x y := by
  intro t now ht hnow
  have hdue := h now (by rw [recordRespTime, ht]; rfl) hnow
  simpa only [recordRespTime, ht, Option.getD_some] using hdue

theorem due_of_delay (p : Pacing) (pause : Option Timespec) (x : Timing) (hok : p.Ok)
    (hpause : insertDelay p x.before = some pause) (hx : x.Honest p pause) : Due p x := by
  intro now hvalid hnow
  obtain ⟨us, last, valid⟩ := p
  obtain rfl : valid = true := hvalid
  obtain ⟨hnormal, hsec⟩ := hok.last rfl
  dsimp only at hnormal hsec ⊢
  rcases le_or_gt (last.nanoseconds + us.val * 1000) now.nanoseconds with hover | hahead
  · exact hover.trans (hx.leaves now hnow)
  · have hexact := delayExact_below_second last now us hnormal (hx.normal now hnow) (hx.order now hnow rfl) hsec
      hok.short
    obtain ⟨d, hd, hdn, hwait⟩ :=
      sleepsUntil_of_aheadOk hnormal hahead ((delayExact_ahead_iff last now us hahead).mp hexact)
    rw [hnow, hd] at hpause
    have hleft := hx.sleeps now d hnow (Option.some.inj hpause).symm hdn
    omega

/-- Requests of a run are apart by what the endpoint asks for, if that is below a second. -/
theorem pacedRun_apart (o : ByteOrder) (e : PacedEndpoint) (cs : List PacedCommand) (ts : List Timing)
    (hrun : PacedRun o e cs ts) (hquirk : epHasQuirk e quirkMinInterCommandTime = true) (hok : e.pacing.Ok) :
    (∀ x ∈ ts.head?, Due e.pacing x) ∧ ts.IsChain (Apart e.pacing.interCommandUs) := by
  induction hrun with
  | done e => exact ⟨by simp, List.IsChain.nil⟩
  | refused e c cs ts _ _ ih => exact ih hquirk hok
  | sent e c cs ts pause r href hsend hx _ ih =>
    obtain ⟨hpause, hquirks, hpacing, -⟩ := sendCmdCciPaced_sent href hsend
    rw [pauseBefore, if_pos hquirk] at hpause
    rw [noteAfter, if_pos hquirk] at hpacing
    have hkept : epHasQuirk r.st quirkMinInterCommandTime = true := by
      rw [epHasQuirk, hquirks]
      exact hquirk
    obtain ⟨hfirst, hchain⟩ := ih hkept (hpacing ▸ hok.recordRespTime hx)
    rw [hpacing] at hfirst hchain
    constructor
    · intro x hmem
      obtain rfl := Option.some.inj hmem
      exact due_of_delay e.pacing pause c.time hok hpause hx
    · cases ts with
      | nil => exact List.IsChain.singleton c.time
      | cons y ys =>
        exact List.isChain_cons_cons.mpr ⟨apart_of_due e.pacing c.time y (hfirst y rfl), hchain⟩

/-- An endpoint that asks for half a millisecond, and a command to it. -/
def halfAMillisecond : PacedEndpoint := ⟨⟨some (.mock ⟨[], 0, 0, 0, 0, []⟩), -1, true⟩, 1, ⟨500, ⟨0, 0⟩, false⟩⟩

def pacedIdentify (time : Timing) : PacedCommand := ⟨takesAll, none, cciHeader .little 0 1 0 0, 12, 12, time⟩

/- The second command comes a microsecond after the response to the first and waits. -/
def firstOfTwo : Timing := ⟨some ⟨1, 0⟩, 1000000000, some ⟨1, 1000⟩⟩

def secondOfTwo : Timing := ⟨some ⟨1, 2000⟩, 1000501000, some ⟨1, 600000⟩⟩

theorem firstOfTwo_honest : firstOfTwo.Honest halfAMillisecond.pacing none := by
  refine ⟨?_, ?_, ?_, ?_, ?_⟩
  · rintro now ⟨⟩
    decide
  · rintro now ⟨⟩ h
    cases h
  · rintro now ⟨⟩
    decide
  · rintro now d ⟨⟩ h
    cases h
  · rintro t ⟨⟩
    decide

theorem secondOfTwo_honest :
    secondOfTwo.Honest (recordRespTime halfAMillisecond.pacing firstOfTwo.after) (some ⟨0, 499000⟩) := by
  refine ⟨?_, ?_, ?_, ?_, ?_⟩
  · rintro now ⟨⟩
    decide
  · rintro now ⟨⟩ -
    decide
  · rintro now ⟨⟩
    decide
  · rintro now d ⟨⟩ ⟨⟩ -
    decide
  · rintro t ⟨⟩
    decide

theorem pacedRun_apart_two : [firstOfTwo, secondOfTwo].IsChain (Apart 500) := by
  have hok : halfAMillisecond.pacing.Ok := ⟨fun h => absurd h Bool.false_ne_true, by decide⟩
  refine (pacedRun_apart .little halfAMillisecond [pacedIdentify firstOfTwo, pacedIdentify secondOfTwo] _ ?_ rfl hok).2
  refine .sent _ _ _ _ none _ rfl rfl firstOfTwo_honest ?_
  exact .sent _ _ _ _ (some ⟨0, 499000⟩) _ rfl rfl secondOfTwo_honest (.done _)

end LibCxlmi.Run
