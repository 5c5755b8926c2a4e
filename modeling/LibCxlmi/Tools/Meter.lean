import LibCxlmi.Tools.UnionExchange

/-!
# Time and reports in a union download

A sleep takes at least the time asked for and a command at least a millisecond;
`ClockOk` says that the clock keeps up with that. A response moves on if it is in
another state than the one before, asks for another range, or says that the device
is ready to finish. The meter of a run counts its commands and the responses that
move on, and knows how late it is.
-/

namespace LibCxlmi.Tools
open LibCxlmi.Word LibCxlmi.Dialogue

/-! ### The clock -/

/-- The least time a call takes, in milliseconds. -/
def leastMs : SysCall → ℕ
  | .usleep us => us / 1000
  | .vendor _ _ => 1
  | .transferFw _ => 1
  | _ => 0

/-- The earliest time it can be after a call, once the clock has been read. -/
def nowAfter (now : Option ℕ) : Event SysCall SysCall.Answer → Option ℕ
  | ⟨.clockGettime, some ms⟩ => some ms
  | e => now.map (· + leastMs e.asked)

/-- A reading is not before the earliest time, and not 2^63 milliseconds after it. -/
def ReadingOk (now : Option ℕ) : Event SysCall SysCall.Answer → Prop
  | ⟨.clockGettime, some ms⟩ => ∀ n ∈ now, n ≤ ms ∧ ms < n + 2 ^ 63
  | _ => True

def ClockOk : Option ℕ → Log → Prop
  | _, [] => True
  | now, e :: t => ReadingOk now e ∧ ClockOk (nowAfter now e) t

/-! ### Reports -/

/-- What the device asks for. -/
def FwdownloadOutput.range (rsp : FwdownloadOutput) : U 32 × U 32 × U 32 :=
  (rsp.imageIndex, rsp.nextOffset, rsp.nextLength)

def FwdownloadOutput.needsData (rsp : FwdownloadOutput) : Bool := decide (fwState rsp.state = .needData)

def FwdownloadOutput.isReady (rsp : FwdownloadOutput) : Bool := decide (fwState rsp.state = .readyToFinish)

def changesState (prev rsp : FwdownloadOutput) : Bool := decide (prev.state ≠ rsp.state)

def turnsRange (prev rsp : FwdownloadOutput) : Bool :=
  prev.needsData && rsp.needsData && decide (prev.range ≠ rsp.range)

/-- Whether `rsp` moves on from the response before it. -/
def movesOn : Option FwdownloadOutput → FwdownloadOutput → Bool
  | none, _ => true
  | some prev, rsp => changesState prev rsp || turnsRange prev rsp || rsp.isReady

def movesFrom : Option FwdownloadOutput → List FwdownloadOutput → ℕ
  | _, [] => 0
  | prev, rsp :: rs => (movesOn prev rsp).toNat + movesFrom (some rsp) rs

/-- The responses of the device to the FWDOWNLOAD actions of a run. -/
def responses (o : ByteOrder) (t : Log) : List FwdownloadOutput :=
  (fwExchanges (vendorCalls t)).map fun p => responseOf o p.2

def commandsOf (t : Log) : ℕ := (vendorCalls t).length

/-! ### The meter -/

structure Meter where
  commands : ℕ
  now : Option ℕ
  moves : ℕ
  last : Option FwdownloadOutput

def Meter.report (x : Meter) (rsp : FwdownloadOutput) : Meter :=
  { x with moves := x.moves + (movesOn x.last rsp).toNat, last := some rsp }

def meterAfter (o : ByteOrder) (x : Meter) (e : Event SysCall SysCall.Answer) : Meter :=
  let y := { x with now := nowAfter x.now e }
  match vendorEvent e with
  | none => y
  | some c =>
      match fwExchange c with
      | none => { y with commands := x.commands + 1 }
      | some p => { y with commands := x.commands + 1 }.report (responseOf o p.2)

def meterContract (o : ByteOrder) : Contract SysCall SysCall.Answer Meter where
  next := meterAfter o
  rely x q a := ReadingOk x.now ⟨q, a⟩
  guarantee _ _ := True

theorem meterAfter_now (o : ByteOrder) (x : Meter) (e : Event SysCall SysCall.Answer) :
    (meterAfter o x e).now = nowAfter x.now e := by
  unfold meterAfter
  cases vendorEvent e with
  | none => rfl
  | some c =>
    dsimp only
    cases fwExchange c with
    | none => rfl
    | some p => rfl

theorem meter_kept_iff (o : ByteOrder) (x : Meter) (t : Log) : (meterContract o).Kept x t ↔ ClockOk x.now t := by
  induction t generalizing x with
  | nil => rfl
  | cons e t ih =>
    change _ ∧ _ ↔ _ ∧ _
    rw [← meterAfter_now o x e]
    exact and_congr_right fun _ => ih (meterAfter o x e)

theorem meter_counts (o : ByteOrder) (x : Meter) (t : Log) :
    (t.foldl (meterAfter o) x).commands = x.commands + commandsOf t ∧
      (t.foldl (meterAfter o) x).moves = x.moves + movesFrom x.last (responses o t) := by
  induction t generalizing x with
  | nil => exact ⟨rfl, rfl⟩
  | cons e t ih =>
    obtain ⟨hcommands, hmoves⟩ := ih (meterAfter o x e)
    rw [List.foldl_cons, hcommands, hmoves]
    unfold meterAfter commandsOf responses vendorCalls fwExchanges
    rw [List.filterMap_cons]
    cases vendorEvent e with
    | none => exact ⟨rfl, rfl⟩
    | some c =>
      dsimp only
      rw [List.filterMap_cons, List.length_cons]
      cases fwExchange c with
      | none =>
        refine ⟨?_, rfl⟩
        dsimp only
        omega
      | some p =>
        dsimp only [Meter.report]
        rw [List.map_cons, movesFrom]
        constructor
        · omega
        · rw [Nat.add_assoc]

/-! ### Rules -/

theorem map_add_zero (now : Option ℕ) : now.map (· + 0) = now := by
  cases now <;> rfl

/-- Calls that take no time worth counting. -/
def SysCall.isQuick : SysCall → Bool
  | .clockGettime | .usleep _ | .transferFw _ | .vendor _ _ => false
  | _ => true

theorem meets_quick (o : ByteOrder) (q : SysCall) (hq : q.isQuick = true) (post : q.Answer → Meter → Prop) (x : Meter)
    (hpost : ∀ a, post a x) : (ask q : Tool q.Answer).Meets (meterContract o) post x := by
  refine meets_ask _ q post x trivial fun a _ => ?_
  have hsame : meterAfter o x ⟨q, a⟩ = { x with now := x.now.map (· + 0) } := by
    cases q with
    | clockGettime => cases hq
    | usleep us => cases hq
    | transferFw r => cases hq
    | vendor m n => cases hq
    | _ => rfl
  change post a (meterAfter o x ⟨q, a⟩)
  rw [hsame, map_add_zero]
  exact hpost a

/-- A call that costs nothing and may come out either way. -/
def Costless (o : ByteOrder) (call : Tool Bool) : Prop :=
  ∀ (post : Bool → Meter → Prop) (x : Meter), (∀ b, post b x) → call.Meets (meterContract o) post x

theorem costless_fseekEnd (o : ByteOrder) : Costless o fseekEnd := meets_quick o .fseekEnd rfl

theorem costless_ftell (o : ByteOrder) : Costless o ftell := meets_quick o .ftell rfl

theorem costless_fseekSet (o : ByteOrder) (pos : ℕ) : Costless o (fseekSet pos) := meets_quick o (.fseekSet pos) rfl

theorem costless_fread (o : ByteOrder) (f : File) (pos len : ℕ) : Costless o (f.fread pos len) := by
  intro post x hpost
  exact meets_bind _ _ _ _ x (meets_quick o (.fread pos len) rfl _ x fun b => meets_ret _ _ _ _ (hpost _))

theorem meets_attempt (o : ByteOrder) {α : Type} (call : Tool Bool) (failed next : Tool α) (post : α → Meter → Prop)
    (x : Meter) (hcall : Costless o call) (hfailed : failed.Meets (meterContract o) post x)
    (hnext : next.Meets (meterContract o) post x) : (checked call failed next).Meets (meterContract o) post x := by
  refine meets_bind _ _ _ _ x (hcall _ x fun b => ?_)
  cases b with
  | false => exact hfailed
  | true => exact hnext

theorem meets_clock (o : ByteOrder) (post : Option ℕ → Meter → Prop) (x : Meter) (hnone : post none x)
    (hsome : ∀ ms, (∀ n ∈ x.now, n ≤ ms ∧ ms < n + 2 ^ 63) → post (some ms) { x with now := some ms }) :
    clockGettime.Meets (meterContract o) post x := by
  refine ⟨trivial, fun a ha => ?_⟩
  cases a with
  | none =>
    change post none { x with now := x.now.map (· + 0) }
    rw [map_add_zero]
    exact hnone
  | some ms => exact hsome ms ha

theorem meets_usleep (o : ByteOrder) (us : ℕ) (post : Unit → Meter → Prop) (x : Meter)
    (hpost : post () { x with now := x.now.map (· + us / 1000) }) :
    (usleep us).Meets (meterContract o) post x :=
  ⟨trivial, fun _ _ => hpost⟩

/-- The meter after one whole action. -/
def Meter.acted (x : Meter) (rsp : FwdownloadOutput) : Meter :=
  { x with commands := x.commands + 3, now := x.now.map (· + 3) }.report rsp

/- An unlock that fails is one command; otherwise three commands go out and the response is counted. -/
theorem meets_fwdownloadSend (o : ByteOrder) (a : FwAction) (sp off seq : U 32) (pl : Bytes)
    (post : ℤ × FwdownloadOutput → Meter → Prop) (x : Meter) (hlen : pl.length ≤ 2016)
    (hfail : post (-1, noResponse) { x with commands := x.commands + 1, now := x.now.map (· + 1) })
    (hdone : ∀ rc rsp, post (rc, rsp) (x.acted rsp)) :
    (fwdownloadSend o a sp off seq pl).Meets (meterContract o) post x := by
  rw [fwdownloadSend, if_neg (Nat.not_lt.mpr hlen)]
  refine ⟨trivial, fun u _ => ?_⟩
  change (if u.rc ≠ 0 then _ else _ : Tool _).Meets _ _ _
  split_ifs with hu
  · exact hfail
  · refine ⟨trivial, fun y _ => ⟨trivial, fun z _ => ?_⟩⟩
    have hmeter : (meterAfter o (meterAfter o (meterAfter o x ⟨.vendor (.vu vuunlock) 0, u⟩)
        ⟨.vendor (.vu (fwdownloadRequest a sp off seq pl)) 44, y⟩) ⟨.vendor (.vu vulock) 0, z⟩) =
        x.acted (responseOf o y) := by
      obtain ⟨commands, now, moves, last⟩ := x
      cases now <;> rfl
    change post _ (meterAfter o (meterAfter o (meterAfter o x ⟨.vendor (.vu vuunlock) 0, u⟩)
        ⟨.vendor (.vu (fwdownloadRequest a sp off seq pl)) 44, y⟩) ⟨.vendor (.vu vulock) 0, z⟩)
    rw [hmeter]
    exact hdone _ (responseOf o y)

end LibCxlmi.Tools
