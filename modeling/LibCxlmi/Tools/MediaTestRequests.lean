import LibCxlmi.Tools.MediaTest
import LibCxlmi.Tools.SdbTunnel
import LibCxlmi.Tools.Sent

/-!
# Requests for media tests (cmd_perform_maintenance.c:393-483, cmd_sdb_tunnel.c:5720-5860)

The mailbox command and the tunnel each copy the parsed structure into a request, as
its words lie in memory. How many of the eight tests they copy is `num_tests`, which
can be given apart from the tests.
-/

namespace LibCxlmi.Tools
open LibCxlmi.Word LibCxlmi.Commands LibCxlmi.Dialogue

/-! ### The two builders -/

/-- The words of `cxlmi_media_test_params_entry` with their widths; `vendor_specific` stays 0. -/
def PmMbistTestEntry.fields (e : PmMbistTestEntry) : List (ℕ × ℕ) :=
  [(2, e.testId.val), (1, e.numIterations.val), (2, e.flags.val), (2, e.patternType.val), (1, e.patternValue.val),
   (2, 0), (4, e.prbsSeed.val), (2, e.errorCountThreshold.val)]

def PmMbistTestEntry.bytes (o : ByteOrder) (e : PmMbistTestEntry) : Bytes :=
  (e.fields.flatMap fun f : ℕ × ℕ => storeWord o f.1 f.2) ++ zeros 0x10

/-- The entries that the loop over `num_tests` copies. -/
def PmMbistArgs.entries (a : PmMbistArgs) : List PmMbistTestEntry :=
  List.ofFn fun t : Fin a.numTests.val => a.tests (t.castLE (Nat.le_of_lt_succ a.numTests.isLt))

/- `cxlmi_perform_maintenance_mbist_params`, the common configuration, the entries. -/
def mbistParams (o : ByteOrder) (a : PmMbistArgs) : Bytes :=
  ([a.action] ++ storeWord o 4 a.offset.val ++ [0]) ++
  ([Fin.ofNat 256 a.numTests.val] ++ storeWord o 8 a.startAddress.val ++ storeWord o 8 a.length.val ++
    [a.resultsConfig, a.configFlags] ++ zeros 0xd) ++ a.entries.flatMap (PmMbistTestEntry.bytes o)

/-- What `cmd_pm_mbist` has the library send, if it can allocate it. -/
def cmdPmMbist (o : ByteOrder) (args : List String) : Option (CciCommand Unit) :=
  (parsePmMbistArgs args).map fun a => performMaintenance 0x03 0x00 (mbistParams o a)

def sdbTunnelPmMbist (o : ByteOrder) (portId : Byte) (args : List String) : Tool End :=
  match parsePmMbistArgs args with
  | none => return .returned (-1)
  | some a =>
      let payload : Bytes := [0x03, 0x00] ++ mbistParams o a
      checked (calloc (16 + payload.length)) (return .returned (-1)) <|
      checked (calloc 16) (return .returned (-1)) do
        let (rc, rsp) ← vendorSpecific (.sdb portId 0x00 0x06 2 payload) 16
        let code := innerReturnCode o rsp
        return .returned (if rc ≠ 0 then rc else if code ≠ 0 ∧ code ≠ 1 then (code : ℤ) else 0)

/-! ### The tests asked for -/

/-- The settings up to the next `--test-id`. -/
def settingsFor : List MbistArg → List TestSetting
  | [] => []
  | .testId _ :: _ => []
  | .setting x :: xs => x :: settingsFor xs
  | _ :: xs => settingsFor xs

/-- One test for each `--test-id`, run once unless its own options say otherwise. -/
def askedTests : List MbistArg → List PmMbistTestEntry
  | [] => []
  | .testId n :: xs =>
      (settingsFor xs).foldl PmMbistTestEntry.set { clearedTest with testId := n, numIterations := 1 } :: askedTests xs
  | _ :: xs => askedTests xs

def MbistArg.numTests? : MbistArg → Option (Fin (pmMbistMaxTests + 1))
  | .numTests n => some n
  | _ => none

/-- The last `--num-tests`. -/
def givenNumTests (xs : List MbistArg) : ℕ := ((xs.filterMap MbistArg.numTests?).map Fin.val).getLastD 0

/- The array holds the tests seen so far and is cleared behind them. -/
structure PmMbistParams.Holds (p : PmMbistParams) (l : List PmMbistTestEntry) : Prop where
  count : (p.curTest.map fun t => t.val + 1).getD 0 = l.length
  tests : ∀ i, p.out.tests i = l[i.val]?.getD clearedTest

theorem nextTest_val {cur : Option (Fin pmMbistMaxTests)} {t : Fin pmMbistMaxTests} (h : nextTest cur = some t) :
    t.val = (cur.map fun i => i.val + 1).getD 0 := by
  cases cur with
  | none =>
    obtain rfl := Option.some.inj h
    rfl
  | some i =>
    rw [nextTest] at h
    split_ifs at h with hroom
    obtain rfl := Option.some.inj h
    rfl

theorem getElem?_concat_of_ne {α : Type} (l : List α) (a : α) (i : ℕ) (h : i ≠ l.length) : (l ++ [a])[i]? = l[i]? := by
  rcases Nat.lt_or_gt_of_ne h with hlt | hgt
  · exact List.getElem?_append_left hlt
  · rw [List.getElem?_eq_none (Nat.le_of_lt hgt), List.getElem?_eq_none]
    rw [List.length_append, List.length_singleton]
    exact hgt

section Holds
variable {p q : PmMbistParams} {l : List PmMbistTestEntry} {e : PmMbistTestEntry}

theorem PmMbistParams.Holds.testId (n : U 16) (hp : p.Holds l) (h : mbistStep p (.testId n) = some q) :
    q.Holds (l ++ [{ clearedTest with testId := n, numIterations := 1 }]) := by
  obtain ⟨t, ht, rfl⟩ := Option.map_eq_some_iff.mp h
  have hlast : t.val = l.length := (nextTest_val ht).trans hp.count
  have hclear : p.out.tests t = clearedTest := by
    rw [hp.tests, hlast, List.getElem?_eq_none (Nat.le_refl _)]
    rfl
  constructor
  · rw [List.length_append, ← hlast]
    rfl
  · intro i
    show Function.update p.out.tests t _ i = _
    by_cases hi : i = t
    · rw [hi, Function.update_self, hlast, List.getElem?_concat_length, hclear]
      rfl
    · have hne : i.val ≠ l.length := fun heq => hi (Fin.ext (heq.trans hlast.symm))
      rw [Function.update_of_ne hi, hp.tests, getElem?_concat_of_ne l _ i.val hne]

theorem PmMbistParams.Holds.setting (x : TestSetting) (hp : p.Holds (l ++ [e]))
    (h : mbistStep p (.setting x) = some q) : q.Holds (l ++ [e.set x]) := by
  obtain ⟨t, ht, rfl⟩ := Option.map_eq_some_iff.mp h
  have hcount := hp.count
  have hlast : t.val = l.length := by
    rw [ht, List.length_append, List.length_singleton] at hcount
    exact Nat.succ.inj hcount
  have hcur : p.out.tests t = e := by
    rw [hp.tests, hlast, List.getElem?_concat_length]
    rfl
  constructor
  · rw [List.length_append] at hcount ⊢
    exact hcount
  · intro i
    show Function.update p.out.tests t _ i = _
    by_cases hi : i = t
    · rw [hi, Function.update_self, hlast, List.getElem?_concat_length, hcur]
      rfl
    · have hne : i.val ≠ l.length := fun heq => hi (Fin.ext (heq.trans hlast.symm))
      rw [Function.update_of_ne hi, hp.tests, getElem?_concat_of_ne l _ i.val hne, getElem?_concat_of_ne l _ i.val hne]

theorem mbistStep_setting_first (x : TestSetting) (hp : p.Holds []) : mbistStep p (.setting x) = none := by
  have hcount := hp.count
  cases hcur : p.curTest with
  | none => rw [mbistStep, hcur, Option.map_none]
  | some t =>
    rw [hcur] at hcount
    cases hcount

/-- The last test takes the settings up to the next one. -/
theorem holds_run (xs : List MbistArg) (hp : p.Holds (l ++ [e])) (h : xs.foldlM mbistStep p = some q) :
    q.Holds (l ++ (settingsFor xs).foldl PmMbistTestEntry.set e :: askedTests xs) := by
  induction xs generalizing p l e with
  | nil =>
    obtain rfl := Option.some.inj h
    exact hp
  | cons x xs ih =>
    rw [List.foldlM_cons] at h
    obtain ⟨p₁, hstep, hrun⟩ := Option.bind_eq_some_iff.mp h
    cases x with
    | testId n =>
      have hrest := ih (hp.testId n hstep) hrun
      rw [List.append_assoc] at hrest
      exact hrest
    | setting x => exact ih (hp.setting x hstep) hrun
    | _ =>
      obtain rfl := Option.some.inj hstep
      refine ih ?_ hrun
      exact ⟨hp.count, hp.tests⟩

theorem holds_asked (xs : List MbistArg) (hp : p.Holds []) (h : xs.foldlM mbistStep p = some q) :
    q.Holds (askedTests xs) := by
  induction xs generalizing p with
  | nil =>
    obtain rfl := Option.some.inj h
    exact hp
  | cons x xs ih =>
    rw [List.foldlM_cons] at h
    obtain ⟨p₁, hstep, hrun⟩ := Option.bind_eq_some_iff.mp h
    cases x with
    | testId n => exact holds_run xs (hp.testId n hstep) hrun
    | setting x =>
      rw [mbistStep_setting_first x hp] at hstep
      cases hstep
    | _ =>
      obtain rfl := Option.some.inj hstep
      refine ih ?_ hrun
      exact ⟨hp.count, hp.tests⟩

theorem numTests_run (xs : List MbistArg) (h : xs.foldlM mbistStep p = some q) :
    q.out.numTests.val = ((xs.filterMap MbistArg.numTests?).map Fin.val).getLastD p.out.numTests.val := by
  induction xs generalizing p with
  | nil =>
    obtain rfl := Option.some.inj h
    rfl
  | cons x xs ih =>
    rw [List.foldlM_cons] at h
    obtain ⟨p₁, hstep, hrun⟩ := Option.bind_eq_some_iff.mp h
    have hrest := ih hrun
    cases x with
    | numTests n =>
      obtain rfl := Option.some.inj hstep
      rw [hrest]
      exact (List.getLastD_cons ..).symm
    | testId n =>
      obtain ⟨t, -, rfl⟩ := Option.map_eq_some_iff.mp hstep
      exact hrest
    | setting x =>
      obtain ⟨t, -, rfl⟩ := Option.map_eq_some_iff.mp hstep
      exact hrest
    | _ =>
      obtain rfl := Option.some.inj hstep
      exact hrest

theorem reconcile_tests (p : PmMbistParams) : (reconcile p).tests = p.out.tests := by
  unfold reconcile
  split
  · rfl
  · split_ifs <;> rfl

/-- The number is right if it was left out or is that of the tests. -/
theorem reconcile_numTests_iff (hp : p.Holds l) :
    (reconcile p).numTests.val = l.length ↔ p.out.numTests.val = 0 ∨ p.out.numTests.val = l.length := by
  have hcount := hp.count
  unfold reconcile
  cases hcur : p.curTest with
  | none =>
    rw [hcur] at hcount
    show p.out.numTests.val = l.length ↔ _
    rw [← hcount]
    exact (or_self_iff).symm
  | some t =>
    rw [hcur] at hcount
    dsimp only
    by_cases hzero : p.out.numTests = 0
    · rw [if_pos hzero]
      exact iff_of_true hcount (Or.inl (congrArg Fin.val hzero))
    · rw [if_neg hzero]
      exact (or_iff_right fun h => hzero (Fin.ext h)).symm

theorem entries_of_holds (hp : p.Holds l) (h : (reconcile p).numTests.val = l.length) : (reconcile p).entries = l := by
  apply List.ext_getElem
  · rw [PmMbistArgs.entries, List.length_ofFn, h]
  · intro i hi hl
    simp only [PmMbistArgs.entries, List.getElem_ofFn, reconcile_tests, hp.tests, Fin.val_castLE]
    rw [List.getElem?_eq_getElem hl]
    rfl

end Holds

/-! ### What the requests carry -/

/-- The payload counts these tests and has an entry for each, in order and in the
byte order of the wire, and nothing behind them. -/
structure CarriesTests (pl : Bytes) (tests : List PmMbistTestEntry) : Prop where
  numTests : (byteAt pl 8).val = tests.length
  entries : pl.drop 40 = tests.flatMap (PmMbistTestEntry.bytes .little)

/-- Reading the bytes of each word backwards makes no difference. -/
def PmMbistTestEntry.Symmetric (e : PmMbistTestEntry) : Prop :=
  ∀ f ∈ e.fields, (leBytes f.1 f.2).reverse = leBytes f.1 f.2

theorem bytes_length (o : ByteOrder) (e : PmMbistTestEntry) : (e.bytes o).length = 32 := by
  simp only [PmMbistTestEntry.bytes, PmMbistTestEntry.fields, List.flatMap_cons, List.flatMap_nil, List.length_append,
    storeWord_length, zeros_length, List.length_nil]

theorem bytes_eq_little_iff (o : ByteOrder) (e : PmMbistTestEntry) :
    e.bytes o = e.bytes .little ↔ o = .little ∨ e.Symmetric := by
  cases o with
  | little => exact iff_of_true rfl (Or.inl rfl)
  | big =>
    have hbig : ByteOrder.big ≠ .little := by decide
    have hlen : ∀ f : ℕ × ℕ, (storeWord .big f.1 f.2).length = (storeWord .little f.1 f.2).length := by
      intro f
      rw [storeWord_length, storeWord_length]
    rw [or_iff_right hbig, PmMbistTestEntry.bytes, PmMbistTestEntry.bytes, List.append_left_inj,
      flatMap_eq_iff _ _ _ hlen]
    rfl

theorem entries_eq_little_iff (o : ByteOrder) (l : List PmMbistTestEntry) :
    l.flatMap (PmMbistTestEntry.bytes o) = l.flatMap (PmMbistTestEntry.bytes .little) ↔
      o = .little ∨ ∀ t ∈ l, t.Symmetric := by
  rw [flatMap_eq_iff _ _ _ fun e => (bytes_length o e).trans (bytes_length .little e).symm]
  simp only [bytes_eq_little_iff]
  by_cases ho : o = .little
  · simp only [ho, true_or, implies_true]
  · simp only [ho, false_or]

theorem mbistPayload_drop (o : ByteOrder) (a : PmMbistArgs) :
    (([0x03, 0x00] : Bytes) ++ mbistParams o a).drop 40 = a.entries.flatMap (PmMbistTestEntry.bytes o) := by
  rw [mbistParams, ← List.append_assoc]
  apply List.drop_left'
  simp only [List.length_append, List.length_cons, List.length_nil, storeWord_length, zeros_length]

theorem mbistPayload_numTests (o : ByteOrder) (a : PmMbistArgs) :
    (byteAt (([0x03, 0x00] : Bytes) ++ mbistParams o a) 8).val = a.numTests.val := by
  have hlt : a.numTests.val < 256 := Nat.lt_of_lt_of_le a.numTests.isLt (by decide)
  have hbyte : byteAt (([0x03, 0x00] : Bytes) ++ mbistParams o a) 8 = Fin.ofNat 256 a.numTests.val := by
    cases o <;> rfl
  rw [hbyte]
  exact Nat.mod_eq_of_lt hlt

theorem carriesTests_iff (o : ByteOrder) (p : PmMbistParams) (l : List PmMbistTestEntry) (hp : p.Holds l) :
    CarriesTests ([0x03, 0x00] ++ mbistParams o (reconcile p)) l ↔
      (p.out.numTests.val = 0 ∨ p.out.numTests.val = l.length) ∧ (o = .little ∨ ∀ t ∈ l, t.Symmetric) := by
  have hnum := mbistPayload_numTests o (reconcile p)
  have hdrop := mbistPayload_drop o (reconcile p)
  rw [← reconcile_numTests_iff hp, ← entries_eq_little_iff o l]
  constructor
  · intro h
    have hcount : (reconcile p).numTests.val = l.length := hnum.symm.trans h.numTests
    rw [entries_of_holds hp hcount] at hdrop
    exact ⟨hcount, hdrop.symm.trans h.entries⟩
  · intro h
    rw [entries_of_holds hp h.1] at hdrop
    exact ⟨hnum.trans h.1, hdrop.trans h.2⟩

/-- If the arguments are accepted, both requests carry the tests asked for, in the
same payload. -/
def MediaTestsCarried (o : ByteOrder) (portId : Byte) (args : List String) : Prop :=
  parsePmMbistArgs args ≠ none → ∃ xs pl, MbistReads args xs ∧ CarriesTests pl (askedTests xs) ∧
    (cmdPmMbist o args).bind (fun c => c.payload o) = some pl ∧ (∃ m, Sent (sdbTunnelPmMbist o portId args) m) ∧
    ∀ m, Sent (sdbTunnelPmMbist o portId args) m → Cci.payload ((m.encode o).drop 4) = pl

theorem sent_sdbTunnelPmMbist (o : ByteOrder) (portId : Byte) (args : List String) (a : PmMbistArgs)
    (h : parsePmMbistArgs args = some a) (m : Message) :
    Sent (sdbTunnelPmMbist o portId args) m ↔ m = .sdb portId 0x00 0x06 2 ([0x03, 0x00] ++ mbistParams o a) := by
  have hnone : ∀ r : End, ¬Sent (return r : Tool End) m := fun r => sent_ret r m
  rw [sdbTunnelPmMbist, h]
  dsimp only
  rw [sent_calloc, or_iff_right (hnone _), sent_calloc, or_iff_right (hnone _),
    sent_bind_silent _ _ fun a => sent_ret _, sent_vendorSpecific]

theorem payload_cmdPmMbist (o : ByteOrder) (args : List String) (a : PmMbistArgs) (h : parsePmMbistArgs args = some a) :
    (cmdPmMbist o args).bind (fun c => c.payload o) = some ([0x03, 0x00] ++ mbistParams o a) := by
  rw [cmdPmMbist, h]
  rfl

/-- Both commands send the tests asked for if the number of tests, where it is given,
is theirs, and their words are the same bytes on the host and on the wire. -/
theorem media_tests_carried_iff (o : ByteOrder) (portId : Byte) (args : List String) :
    MediaTestsCarried o portId args ↔ ∀ xs, MbistReads args xs → parsePmMbistArgs args ≠ none →
      (givenNumTests xs = 0 ∨ givenNumTests xs = (askedTests xs).length) ∧
      (o = .little ∨ ∀ t ∈ askedTests xs, t.Symmetric) := by
  by_cases haccepted : parsePmMbistArgs args = none
  · exact iff_of_true (fun h => absurd haccepted h) fun xs _ h => absurd haccepted h
  obtain ⟨a, ha⟩ := Option.ne_none_iff_exists'.mp haccepted
  obtain ⟨xs, p, hread, hrun, -, rfl⟩ := (parsePmMbistArgs_some_iff args a).mp ha
  have hholds : p.Holds (askedTests xs) := holds_asked xs ⟨rfl, fun _ => rfl⟩ hrun
  have hnum : p.out.numTests.val = givenNumTests xs := numTests_run xs hrun
  have hdirect := payload_cmdPmMbist o args (reconcile p) ha
  have hsent := sent_sdbTunnelPmMbist o portId args (reconcile p) ha
  have hcarries := carriesTests_iff o p (askedTests xs) hholds
  rw [hnum] at hcarries
  constructor
  · intro h ys hys _
    obtain ⟨zs, pl, hzs, hpl, hsame, -, -⟩ := h haccepted
    obtain rfl := hread.unique hys
    obtain rfl := hread.unique hzs
    obtain rfl := Option.some.inj (hdirect.symm.trans hsame)
    exact hcarries.mp hpl
  · intro h _
    refine ⟨xs, _, hread, hcarries.mpr (h xs hread haccepted), hdirect, ⟨_, (hsent _).mpr rfl⟩, ?_⟩
    intro m hm
    rw [(hsent m).mp hm]
    exact sdbPacket_payload o portId 0x00 0x06 2 _ (by decide)

/-- Two tests are sent where one was asked for. -/
theorem second_test_not_asked :
    ¬MediaTestsCarried .little 0 ["--action", "full", "--num-tests", "2", "--test-id", "1"] := by
  intro h
  have hread : MbistReads ["--action", "full", "--num-tests", "2", "--test-id", "1"]
      [.action 0, .numTests 2, .testId 1] :=
    ⟨[("--action", "full"), ("--num-tests", "2"), ("--test-id", "1")], rfl,
      .cons (by decide) (.cons (by decide) (.cons (by decide) .nil))⟩
  have hparse := (parsePmMbistArgs_some_iff _ _).mpr ⟨_, _, hread, rfl, rfl, rfl⟩
  obtain ⟨ys, pl, hys, hpl, hdirect, -, -⟩ := h (hparse ▸ Option.some_ne_none _)
  obtain rfl := hread.unique hys
  obtain rfl := Option.some.inj ((payload_cmdPmMbist .little _ _ hparse).symm.trans hdirect)
  have htwo := (mbistPayload_numTests .little _).symm.trans hpl.numTests
  exact absurd htwo (by decide)

end LibCxlmi.Tools
