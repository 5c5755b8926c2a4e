import LibCxlmi.Tools.CallSites
import LibCxlmi.Tools.OptionRuns

/-!
# Arguments of a media test (cmd_perform_maintenance.c:34-86, 166-316)

`perform-maintenance mbist` takes options for the whole request and, behind each
`--test-id`, options for one test. Both the mailbox command and the one through the
sideband tunnel read them with `parse_pm_mbist_args`.
-/

namespace LibCxlmi.Tools
open LibCxlmi.Word LibCxlmi.Text

/-! ### Numbers -/

def parseU64Hex (arg : String) : Option (U 64) := parseU64Arg arg

/- The larger number is read and must fit. -/
def parseVal (w : ℕ) (arg : String) : Option (U w) :=
  (parseU64Hex arg).bind fun tmp => if h : tmp.val < 2 ^ w then some ⟨tmp.val, h⟩ else none

def parseU32Val (arg : String) : Option (U 32) := parseVal 32 arg
def parseU16Val (arg : String) : Option (U 16) := parseVal 16 arg
def parseU8Val (arg : String) : Option Byte := parseVal 8 arg

/-! ### The structure they fill -/

structure PmMbistTestEntry where
  testId : U 16
  numIterations : Byte
  flags : U 16
  patternType : U 16
  patternValue : Byte
  prbsSeed : U 32
  errorCountThreshold : U 16
  deriving DecidableEq, Repr

def clearedTest : PmMbistTestEntry := ⟨0, 0, 0, 0, 0, 0, 0⟩

abbrev pmMbistMaxTests : ℕ := 8

/- `num_tests` is a byte that no path lets exceed PM_MBIST_MAX_TESTS. -/
structure PmMbistArgs where
  action : Byte
  offset : U 32
  startAddress : U 64
  length : U 64
  resultsConfig : Byte
  configFlags : Byte
  numTests : Fin (pmMbistMaxTests + 1)
  tests : Fin pmMbistMaxTests → PmMbistTestEntry

/-- The variables of the loop; `curTest` is `none` for -1. -/
structure PmMbistParams where
  out : PmMbistArgs
  hasAction : Bool
  curTest : Option (Fin pmMbistMaxTests)

def pmMbistCleared : PmMbistParams := ⟨⟨0, 0, 0, 0, 0, 0, 0, fun _ => clearedTest⟩, false, none⟩

/-! ### The loop -/

def mbistAction (a : String) : Option Byte :=
  if a = "full" then some 0x00
  else if a = "start" then some 0x01
  else if a = "continue" then some 0x02
  else if a = "end" then some 0x03
  else if a = "abort" then some 0x04
  else none

/-- The index that `--test-id` moves to, if there is room. -/
def nextTest : Option (Fin pmMbistMaxTests) → Option (Fin pmMbistMaxTests)
  | none => some 0
  | some t => if h : t.val + 1 < pmMbistMaxTests then some ⟨t.val + 1, h⟩ else none

def PmMbistParams.setTest (p : PmMbistParams) (t : Fin pmMbistMaxTests) (e : PmMbistTestEntry) : PmMbistParams :=
  { p with out.tests := Function.update p.out.tests t e }

/- An option for one test needs a `--test-id` before it. -/
def testOption {α : Type} (p : PmMbistParams) (value : Option α) (set : PmMbistTestEntry → α → PmMbistTestEntry) :
    Option PmMbistParams :=
  p.curTest.bind fun t => value.map fun n => p.setTest t (set (p.out.tests t) n)

def pmMbistOption (opt v : String) (p : PmMbistParams) : Option PmMbistParams :=
  if opt = "--action" then (mbistAction v).map fun a => { p with out.action := a, hasAction := true }
  else if opt = "--offset" then (parseU32Val v).map fun n => { p with out.offset := n }
  else if opt = "--start-address" then (parseU64Hex v).map fun n => { p with out.startAddress := n }
  else if opt = "--length" then (parseU64Hex v).map fun n => { p with out.length := n }
  else if opt = "--num-tests" then
    (parseU8Val v).bind fun n =>
      if h : n.val < pmMbistMaxTests + 1 then some { p with out.numTests := ⟨n.val, h⟩ } else none
  else if opt = "--results-config" then (parseU8Val v).map fun n => { p with out.resultsConfig := n }
  else if opt = "--config-flags" then (parseU8Val v).map fun n => { p with out.configFlags := n }
  else if opt = "--test-id" then
    (nextTest p.curTest).bind fun t => (parseU16Val v).map fun n =>
      { p.setTest t { p.out.tests t with testId := n, numIterations := 1 } with curTest := some t }
  else if opt = "--iterations" then testOption p (parseU8Val v) fun e n => { e with numIterations := n }
  else if opt = "--test-flags" then testOption p (parseU16Val v) fun e n => { e with flags := n }
  else if opt = "--pattern-type" then testOption p (parseU16Val v) fun e n => { e with patternType := n }
  else if opt = "--pattern-value" then testOption p (parseU8Val v) fun e n => { e with patternValue := n }
  else if opt = "--prbs-seed" then testOption p (parseU32Val v) fun e n => { e with prbsSeed := n }
  else if opt = "--error-threshold" then
    testOption p (parseU16Val v) fun e n => { e with errorCountThreshold := n }
  else none

theorem cur_lt_succ (t : Fin pmMbistMaxTests) : t.val + 1 < pmMbistMaxTests + 1 := Nat.succ_lt_succ t.isLt

/- If tests were given and their number was not, they are counted. -/
def reconcile (p : PmMbistParams) : PmMbistArgs :=
  match p.curTest with
  | none => p.out
  | some t => if p.out.numTests = 0 then { p.out with numTests := ⟨t.val + 1, cur_lt_succ t⟩ } else p.out

def parsePmMbistArgs (args : List String) : Option PmMbistArgs :=
  (parseOptions pmMbistOption args pmMbistCleared).bind fun p => if p.hasAction = true then some (reconcile p) else none

/-! ### One option at a time -/

/-- What an option for one test sets. -/
inductive TestSetting where
  | iterations (n : Byte)
  | flags (n : U 16)
  | patternType (n : U 16)
  | patternValue (n : Byte)
  | prbsSeed (n : U 32)
  | errorThreshold (n : U 16)
  deriving DecidableEq, Repr

def PmMbistTestEntry.set (e : PmMbistTestEntry) : TestSetting → PmMbistTestEntry
  | .iterations n => { e with numIterations := n }
  | .flags n => { e with flags := n }
  | .patternType n => { e with patternType := n }
  | .patternValue n => { e with patternValue := n }
  | .prbsSeed n => { e with prbsSeed := n }
  | .errorThreshold n => { e with errorCountThreshold := n }

inductive MbistArg where
  | action (a : Byte)
  | offset (n : U 32)
  | startAddress (n : U 64)
  | length (n : U 64)
  | numTests (n : Fin (pmMbistMaxTests + 1))
  | resultsConfig (n : Byte)
  | configFlags (n : Byte)
  | testId (n : U 16)
  | setting (x : TestSetting)
  deriving DecidableEq, Repr

/-- An option and its value, read on their own. -/
def mbistArg (o : String × String) : Option MbistArg :=
  if o.1 = "--action" then (mbistAction o.2).map .action
  else if o.1 = "--offset" then (parseU32Val o.2).map .offset
  else if o.1 = "--start-address" then (parseU64Hex o.2).map .startAddress
  else if o.1 = "--length" then (parseU64Hex o.2).map .length
  else if o.1 = "--num-tests" then
    (parseU8Val o.2).bind fun n => if h : n.val < pmMbistMaxTests + 1 then some (.numTests ⟨n.val, h⟩) else none
  else if o.1 = "--results-config" then (parseU8Val o.2).map .resultsConfig
  else if o.1 = "--config-flags" then (parseU8Val o.2).map .configFlags
  else if o.1 = "--test-id" then (parseU16Val o.2).map .testId
  else if o.1 = "--iterations" then (parseU8Val o.2).map fun n => .setting (.iterations n)
  else if o.1 = "--test-flags" then (parseU16Val o.2).map fun n => .setting (.flags n)
  else if o.1 = "--pattern-type" then (parseU16Val o.2).map fun n => .setting (.patternType n)
  else if o.1 = "--pattern-value" then (parseU8Val o.2).map fun n => .setting (.patternValue n)
  else if o.1 = "--prbs-seed" then (parseU32Val o.2).map fun n => .setting (.prbsSeed n)
  else if o.1 = "--error-threshold" then (parseU16Val o.2).map fun n => .setting (.errorThreshold n)
  else none

def mbistStep (p : PmMbistParams) : MbistArg → Option PmMbistParams
  | .action a => some { p with out.action := a, hasAction := true }
  | .offset n => some { p with out.offset := n }
  | .startAddress n => some { p with out.startAddress := n }
  | .length n => some { p with out.length := n }
  | .numTests n => some { p with out.numTests := n }
  | .resultsConfig n => some { p with out.resultsConfig := n }
  | .configFlags n => some { p with out.configFlags := n }
  | .testId n => (nextTest p.curTest).map fun t =>
      { p.setTest t { p.out.tests t with testId := n, numIterations := 1 } with curTest := some t }
  | .setting x => p.curTest.map fun t => p.setTest t ((p.out.tests t).set x)

theorem map_mbistStep {α : Type} (p : PmMbistParams) (r : Option α) (mk : α → MbistArg) (upd : α → PmMbistParams)
    (h : ∀ n, mbistStep p (mk n) = some (upd n)) : (r.map mk).bind (mbistStep p) = r.map upd := by
  cases r with
  | none => rfl
  | some n => exact h n

/- Whether the value or the place of an option is looked at first makes no difference. -/
theorem testOption_eq {α : Type} (p : PmMbistParams) (r : Option α) (mk : α → TestSetting)
    (set : PmMbistTestEntry → α → PmMbistTestEntry) (h : ∀ e n, set e n = e.set (mk n)) :
    testOption p r set = (r.map fun n => MbistArg.setting (mk n)).bind (mbistStep p) := by
  cases r with
  | none =>
    cases hcur : p.curTest with
    | none => simp only [testOption, hcur, Option.bind_none, Option.map_none]
    | some t => simp only [testOption, hcur, Option.bind_some, Option.map_none, Option.bind_none]
  | some n =>
    cases hcur : p.curTest with
    | none =>
      simp only [testOption, hcur, Option.bind_none, Option.map_some, Option.bind_some, mbistStep, Option.map_none]
    | some t => simp only [testOption, hcur, Option.bind_some, Option.map_some, mbistStep, h]

theorem pmMbistOption_eq (opt v : String) (p : PmMbistParams) :
    pmMbistOption opt v p = (mbistArg (opt, v)).bind (mbistStep p) := by
  unfold pmMbistOption mbistArg
  by_cases haction : opt = "--action"
  · simp only [haction, if_true]
    exact (map_mbistStep p (mbistAction v) _ _ fun _ => rfl).symm
  by_cases hoffset : opt = "--offset"
  · simp only [hoffset, String.reduceEq, if_true, if_false]
    exact (map_mbistStep p (parseU32Val v) _ _ fun _ => rfl).symm
  by_cases hstart : opt = "--start-address"
  · simp only [hstart, String.reduceEq, if_true, if_false]
    exact (map_mbistStep p (parseU64Hex v) _ _ fun _ => rfl).symm
  by_cases hlength : opt = "--length"
  · simp only [hlength, String.reduceEq, if_true, if_false]
    exact (map_mbistStep p (parseU64Hex v) _ _ fun _ => rfl).symm
  by_cases hnum : opt = "--num-tests"
  · simp only [hnum, String.reduceEq, if_true, if_false]
    cases parseU8Val v with
    | none => rfl
    | some n =>
      rw [Option.bind_some, Option.bind_some]
      by_cases hn : n.val < pmMbistMaxTests + 1
      · rw [dif_pos hn, dif_pos hn]
        rfl
      · rw [dif_neg hn, dif_neg hn]
        rfl
  by_cases hresults : opt = "--results-config"
  · simp only [hresults, String.reduceEq, if_true, if_false]
    exact (map_mbistStep p (parseU8Val v) _ _ fun _ => rfl).symm
  by_cases hflags : opt = "--config-flags"
  · simp only [hflags, String.reduceEq, if_true, if_false]
    exact (map_mbistStep p (parseU8Val v) _ _ fun _ => rfl).symm
  by_cases htest : opt = "--test-id"
  · simp only [htest, String.reduceEq, if_true, if_false]
    cases parseU16Val v with
    | none => cases nextTest p.curTest <;> rfl
    | some n => cases hnext : nextTest p.curTest <;> simp [mbistStep, hnext]
  by_cases hiterations : opt = "--iterations"
  · simp only [hiterations, String.reduceEq, if_true, if_false]
    exact testOption_eq p (parseU8Val v) .iterations _ fun _ _ => rfl
  by_cases htestFlags : opt = "--test-flags"
  · simp only [htestFlags, String.reduceEq, if_true, if_false]
    exact testOption_eq p (parseU16Val v) .flags _ fun _ _ => rfl
  by_cases htype : opt = "--pattern-type"
  · simp only [htype, String.reduceEq, if_true, if_false]
    exact testOption_eq p (parseU16Val v) .patternType _ fun _ _ => rfl
  by_cases hvalue : opt = "--pattern-value"
  · simp only [hvalue, String.reduceEq, if_true, if_false]
    exact testOption_eq p (parseU8Val v) .patternValue _ fun _ _ => rfl
  by_cases hseed : opt = "--prbs-seed"
  · simp only [hseed, String.reduceEq, if_true, if_false]
    exact testOption_eq p (parseU32Val v) .prbsSeed _ fun _ _ => rfl
  by_cases hthreshold : opt = "--error-threshold"
  · simp only [hthreshold, String.reduceEq, if_true, if_false]
    exact testOption_eq p (parseU16Val v) .errorThreshold _ fun _ _ => rfl
  simp only [haction, hoffset, hstart, hlength, hnum, hresults, hflags, htest, hiterations, htestFlags, htype, hvalue,
    hseed, hthreshold, if_false]
  rfl

/-- The arguments are these options. -/
def MbistReads (args : List String) (xs : List MbistArg) : Prop :=
  ∃ os, args = optionWords os ∧ List.Forall₂ (fun o x => mbistArg o = some x) os xs

theorem parsePmMbistArgs_some_iff (args : List String) (a : PmMbistArgs) :
    parsePmMbistArgs args = some a ↔ ∃ xs p, MbistReads args xs ∧ xs.foldlM mbistStep pmMbistCleared = some p ∧
      p.hasAction = true ∧ a = reconcile p := by
  have hstore : ∀ opt v p q,
      pmMbistOption opt v p = some q ↔ ∃ x, mbistArg (opt, v) = some x ∧ mbistStep p x = some q := by
    intro opt v p q
    rw [pmMbistOption_eq, Option.bind_eq_some_iff]
  have hparse :=
    parseOptions_some_iff pmMbistOption (fun o x => mbistArg o = some x) mbistStep hstore args pmMbistCleared
  simp only [parsePmMbistArgs, Option.bind_eq_some_iff, hparse, MbistReads]
  constructor
  · intro h
    obtain ⟨p, ⟨os, xs, hargs, hread, hrun⟩, ha⟩ := h
    split_ifs at ha with haction
    exact ⟨xs, p, ⟨os, hargs, hread⟩, hrun, haction, (Option.some.inj ha).symm⟩
  · intro h
    obtain ⟨xs, p, ⟨os, hargs, hread⟩, hrun, haction, rfl⟩ := h
    exact ⟨p, ⟨os, xs, hargs, hread, hrun⟩, if_pos haction⟩

theorem MbistReads.unique {args : List String} {xs ys : List MbistArg} (hx : MbistReads args xs)
    (hy : MbistReads args ys) : xs = ys := by
  obtain ⟨os, rfl, hx⟩ := hx
  obtain ⟨os', hos, hy⟩ := hy
  rw [← optionWords_injective os os' hos] at hy
  refine List.right_unique_forall₂' ?_ hx hy
  intro o x y hx hy
  exact Option.some.inj (hx.symm.trans hy)

end LibCxlmi.Tools
