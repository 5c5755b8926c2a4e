import Mathlib.Data.List.Permutation
import LibCxlmi.Tools.OptionRuns
import LibCxlmi.Tools.VuCommands

/-!
# Options of vu-eccrmwinj (cmd_vu_eccrmwinj.c:163-274)

An error is injected at one place: a device address, an offset in a FRU or a rank, a
row or a codeword of a rank. The options that name the place come in any order, and
whether they name one is decided by checks at each of them and a last one at the end.
-/

namespace LibCxlmi.Tools
open LibCxlmi.Word LibCxlmi.Text

/-! ### What an option says -/

inductive EccPlace where
  | dpa (addr : ℕ)
  | fru (unit : U 32)
  | rank (unit : U 32)
  | off (addr : ℕ)
  | row (n : U 32)
  | codeword (n : U 32)
  deriving DecidableEq, Repr

inductive EccArg where
  | op (n : U 32)
  | place (x : EccPlace)
  deriving DecidableEq, Repr

/-- An option with a valid value. -/
def EccOption (o : String × String) : EccArg → Prop
  | .op n => o.1 = "--op" ∧ parseEccOp o.2 = some n
  | .place (.dpa addr) => o.1 = "--dpa" ∧ WholeNumeral o.2 addr
  | .place (.fru unit) => o.1 = "--fru" ∧ unit.val ≤ 0xFF ∧ WholeNumeral o.2 unit.val
  | .place (.rank unit) => o.1 = "--rank" ∧ unit.val ≤ 0xFF ∧ WholeNumeral o.2 unit.val
  | .place (.off addr) => o.1 = "--off" ∧ WholeNumeral o.2 addr
  | .place (.row n) => o.1 = "--row" ∧ n.val ≤ 0xFFFFFFFF ∧ WholeNumeral o.2 n.val
  | .place (.codeword n) => o.1 = "--codeword" ∧ n.val ≤ 0xFFFFFFFF ∧ WholeNumeral o.2 n.val

def EccArg.op? : EccArg → Option (U 32)
  | .op n => some n
  | .place _ => none

def EccArg.place? : EccArg → Option EccPlace
  | .op _ => none
  | .place x => some x

/-- Where the error goes. -/
inductive EccTarget where
  | dpa (addr : ℕ)
  | fru (unit : U 32) (off : ℕ)
  | rank (unit : U 32) (off : ℕ)
  | row (unit n : U 32)
  | codeword (unit n : U 32)
  deriving DecidableEq, Repr

/-- The options that name a target. -/
def EccTarget.places : EccTarget → List EccPlace
  | .dpa addr => [.dpa addr]
  | .fru unit off => [.fru unit, .off off]
  | .rank unit off => [.rank unit, .off off]
  | .row unit n => [.rank unit, .row n]
  | .codeword unit n => [.rank unit, .codeword n]

/-- The arguments are options with valid values, one of them at least an operation, and
those that name the place do it once each. -/
def EccAsks (args : List String) (op : U 32) (t : EccTarget) : Prop :=
  ∃ os xs, args = optionWords os ∧ List.Forall₂ EccOption os xs ∧
    (xs.filterMap EccArg.op?).getLast? = some op ∧ (xs.filterMap EccArg.place?).Perm t.places

def EccTarget.request (op : U 32) : EccTarget → VuRequest
  | .dpa addr => ⟨0x011b, 0, 0, 0, op, toU32 (alignDown64 addr), toU32 (alignDown64 addr / 2 ^ 32), 0, []⟩
  | .fru unit off =>
      ⟨0x011b, 0, 0, 0, eccGran op 1, toU32 (alignDown64 off), toU32 (alignDown64 off / 2 ^ 32), unit, []⟩
  | .rank unit off =>
      ⟨0x011b, 0, 0, 0, eccGran op 2, toU32 (alignDown64 off), toU32 (alignDown64 off / 2 ^ 32), unit, []⟩
  | .row unit n => ⟨0x011b, 0, 0, 0, eccGran op 3, n, 0, unit, []⟩
  | .codeword unit n => ⟨0x011b, 0, 0, 0, eccGran op 3, n, 0, unit, []⟩

/-! ### The checks at each option -/

def eccPlaceStep (p : VuEccrmwinjParams) : EccPlace → Option VuEccrmwinjParams
  | .dpa addr =>
      if p.mode ≠ .none ∨ p.hasRank ∨ p.hasOff ∨ p.hasSel then none else some { p with mode := .dpa, addr := addr }
  | .fru unit =>
      if p.mode ≠ .none ∨ p.hasRank ∨ p.hasSel then none else some { p with mode := .fru, unit := unit }
  | .rank unit =>
      if p.hasRank ∨ p.mode = .dpa ∨ p.mode = .fru then none else some { p with hasRank := true, unit := unit }
  | .off addr =>
      if p.mode = .dpa ∨ p.hasOff ∨ p.hasSel then none else some { p with hasOff := true, addr := addr }
  | .row n =>
      if p.mode ≠ .none ∨ p.hasOff ∨ p.hasSel then none else some { p with hasSel := true, mode := .row, sel := n }
  | .codeword n =>
      if p.mode ≠ .none ∨ p.hasOff ∨ p.hasSel then none else some { p with hasSel := true, mode := .cw, sel := n }

def eccStep (p : VuEccrmwinjParams) : EccArg → Option VuEccrmwinjParams
  | .op n => some { p with op := some n }
  | .place x => eccPlaceStep p x

/-- The value of an option on its own. -/
def eccArg (o : String × String) : Option EccArg :=
  if o.1 = "--op" then (parseEccOp o.2).map .op
  else if o.1 = "--dpa" then (parseU64 o.2).map fun n => .place (.dpa n)
  else if o.1 = "--fru" then (parseUpTo 0xFF o.2).map fun n => .place (.fru n)
  else if o.1 = "--rank" then (parseUpTo 0xFF o.2).map fun n => .place (.rank n)
  else if o.1 = "--off" then (parseU64 o.2).map fun n => .place (.off n)
  else if o.1 = "--row" then (parseUpTo 0xFFFFFFFF o.2).map fun n => .place (.row n)
  else if o.1 = "--codeword" then (parseUpTo 0xFFFFFFFF o.2).map fun n => .place (.codeword n)
  else none

theorem eccOption_of_eccArg (o : String × String) (x : EccArg) (h : eccArg o = some x) : EccOption o x := by
  have hff := fun u => (parseUpTo_eq_some_iff 0xFF (by decide) o.2 u).mp
  have hffffffff := fun u => (parseUpTo_eq_some_iff 0xFFFFFFFF (by decide) o.2 u).mp
  unfold eccArg at h
  split_ifs at h with hop hdpa hfru hrank hoff hrow hcodeword
  all_goals obtain ⟨n, hn, rfl⟩ := Option.map_eq_some_iff.mp h
  · exact ⟨hop, hn⟩
  · exact ⟨hdpa, (parseU64_eq_some_iff o.2 n).mp hn⟩
  · exact ⟨hfru, hff n hn⟩
  · exact ⟨hrank, hff n hn⟩
  · exact ⟨hoff, (parseU64_eq_some_iff o.2 n).mp hn⟩
  · exact ⟨hrow, hffffffff n hn⟩
  · exact ⟨hcodeword, hffffffff n hn⟩

theorem eccArg_of_eccOption (o : String × String) (x : EccArg) (h : EccOption o x) : eccArg o = some x := by
  have hff := fun u => (parseUpTo_eq_some_iff 0xFF (by decide) o.2 u).mpr
  have hffffffff := fun u => (parseUpTo_eq_some_iff 0xFFFFFFFF (by decide) o.2 u).mpr
  have hu64 := fun n => (parseU64_eq_some_iff o.2 n).mpr
  unfold eccArg
  cases x with
  | op n => rw [if_pos h.1, h.2, Option.map_some]
  | place x =>
    cases x with
    | dpa n => simp only [h.1, String.reduceEq, if_true, if_false, hu64 n h.2, Option.map_some]
    | fru n => simp only [h.1, String.reduceEq, if_true, if_false, hff n h.2, Option.map_some]
    | rank n => simp only [h.1, String.reduceEq, if_true, if_false, hff n h.2, Option.map_some]
    | off n => simp only [h.1, String.reduceEq, if_true, if_false, hu64 n h.2, Option.map_some]
    | row n => simp only [h.1, String.reduceEq, if_true, if_false, hffffffff n h.2, Option.map_some]
    | codeword n => simp only [h.1, String.reduceEq, if_true, if_false, hffffffff n h.2, Option.map_some]

theorem eccArg_eq_some_iff (o : String × String) (x : EccArg) : eccArg o = some x ↔ EccOption o x :=
  ⟨eccOption_of_eccArg o x, eccArg_of_eccOption o x⟩

/- An option is refused for its conflicts or for its value, whichever is looked at first. -/
theorem bind_eccStep {β : Type} (p : VuEccrmwinjParams) (r : Option β) (mk : β → EccArg) (c : Prop) [Decidable c]
    (upd : β → VuEccrmwinjParams) (hstep : ∀ n, eccStep p (mk n) = if c then none else some (upd n)) :
    (r.map mk).bind (eccStep p) = if c then none else r.map upd := by
  cases r with
  | none => simp
  | some n => exact hstep n

theorem vuEccrmwinjOption_eq (opt v : String) (p : VuEccrmwinjParams) :
    vuEccrmwinjOption opt v p = (eccArg (opt, v)).bind (eccStep p) := by
  unfold vuEccrmwinjOption eccArg
  by_cases hop : opt = "--op"
  · simp only [hop, if_true]
    cases parseEccOp v <;> rfl
  by_cases hdpa : opt = "--dpa"
  · simp only [hdpa, String.reduceEq, if_true, if_false]
    exact (bind_eccStep p (parseU64 v) (fun n => .place (.dpa n)) _ _ fun _ => rfl).symm
  by_cases hfru : opt = "--fru"
  · simp only [hfru, String.reduceEq, if_true, if_false]
    exact (bind_eccStep p (parseUpTo 0xFF v) (fun n => .place (.fru n)) _ _ fun _ => rfl).symm
  by_cases hrank : opt = "--rank"
  · simp only [hrank, String.reduceEq, if_true, if_false]
    exact (bind_eccStep p (parseUpTo 0xFF v) (fun n => .place (.rank n)) _ _ fun _ => rfl).symm
  by_cases hoff : opt = "--off"
  · simp only [hoff, String.reduceEq, if_true, if_false]
    exact (bind_eccStep p (parseU64 v) (fun n => .place (.off n)) _ _ fun _ => rfl).symm
  by_cases hrow : opt = "--row"
  · simp only [hrow, String.reduceEq, if_true, if_false, true_or]
    exact (bind_eccStep p (parseUpTo 0xFFFFFFFF v) (fun n => .place (.row n)) _ _ fun _ => rfl).symm
  by_cases hcodeword : opt = "--codeword"
  · simp only [hcodeword, String.reduceEq, if_true, if_false, or_true]
    exact (bind_eccStep p (parseUpTo 0xFFFFFFFF v) (fun n => .place (.codeword n)) _ _ fun _ => rfl).symm
  simp only [hop, hdpa, hfru, hrank, hoff, hrow, hcodeword, or_self, if_false]
  rfl

/-! ### All the options -/

abbrev eccStart : VuEccrmwinjParams := ⟨none, 0, 0, 0, false, false, false, .none⟩

/- The checks do not look at the operation. -/
theorem eccPlaceStep_op (p : VuEccrmwinjParams) (op : Option (U 32)) (x : EccPlace) :
    eccPlaceStep { p with op := op } x = (eccPlaceStep p x).map fun q => { q with op := op } := by
  cases x <;> simp only [eccPlaceStep] <;> split_ifs <;> rfl

theorem foldlM_eccPlaceStep_op (p : VuEccrmwinjParams) (op : Option (U 32)) (ys : List EccPlace) :
    ys.foldlM eccPlaceStep { p with op := op } = (ys.foldlM eccPlaceStep p).map fun q => { q with op := op } := by
  induction ys generalizing p with
  | nil => rfl
  | cons y ys ih =>
    rw [List.foldlM_cons, List.foldlM_cons, eccPlaceStep_op]
    cases eccPlaceStep p y with
    | none => rfl
    | some q => exact ih q

/-- Operations do nothing but replace each other. -/
theorem foldlM_eccStep (p : VuEccrmwinjParams) (xs : List EccArg) :
    xs.foldlM eccStep p = ((xs.filterMap EccArg.place?).foldlM eccPlaceStep p).map fun q =>
      { q with op := (xs.filterMap EccArg.op?).getLast?.or p.op } := by
  induction xs generalizing p with
  | nil => rfl
  | cons x xs ih =>
    cases x with
    | op n =>
      have hlast : ((n :: xs.filterMap EccArg.op?).getLast?).or p.op =
          (xs.filterMap EccArg.op?).getLast?.or (some n) := by
        rw [List.getLast?_cons]
        cases (xs.filterMap EccArg.op?).getLast? <;> rfl
      show xs.foldlM eccStep { p with op := some n } = ((xs.filterMap EccArg.place?).foldlM eccPlaceStep p).map fun q =>
        { q with op := (n :: xs.filterMap EccArg.op?).getLast?.or p.op }
      rw [ih, foldlM_eccPlaceStep_op, Option.map_map, hlast]
      rfl
    | place x =>
      show (eccPlaceStep p x).bind (fun q => xs.foldlM eccStep q) =
        ((eccPlaceStep p x).bind fun q => (xs.filterMap EccArg.place?).foldlM eccPlaceStep q).map fun q =>
          { q with op := (xs.filterMap EccArg.op?).getLast?.or p.op }
      cases hx : eccPlaceStep p x with
      | none => rfl
      | some q =>
        have hop : q.op = p.op := by
          have h := eccPlaceStep_op p p.op x
          rw [show { p with op := p.op } = p from rfl, hx] at h
          have hq : q = { q with op := p.op } := Option.some.inj h
          exact (congrArg VuEccrmwinjParams.op hq).trans rfl
        rw [Option.bind_some, Option.bind_some, ih, hop]

/-- The target that options name, in either order. -/
def eccTarget : List EccPlace → Option EccTarget
  | [.dpa addr] => some (.dpa addr)
  | [.fru unit, .off off] => some (.fru unit off)
  | [.off off, .fru unit] => some (.fru unit off)
  | [.rank unit, .off off] => some (.rank unit off)
  | [.off off, .rank unit] => some (.rank unit off)
  | [.rank unit, .row n] => some (.row unit n)
  | [.row n, .rank unit] => some (.row unit n)
  | [.rank unit, .codeword n] => some (.codeword unit n)
  | [.codeword n, .rank unit] => some (.codeword unit n)
  | _ => none

theorem eccTarget_eq_some_iff (ys : List EccPlace) (t : EccTarget) : eccTarget ys = some t ↔ ys.Perm t.places := by
  constructor
  · intro h
    fun_cases eccTarget ys
    case case10 => simp_all [eccTarget]
    all_goals
      obtain rfl := Option.some.inj h
    all_goals first
      | exact List.Perm.refl _
      | exact List.Perm.swap _ _ _
  · intro h
    cases t with
    | dpa addr => rw [h.eq_singleton]; rfl
    | fru unit off => rcases List.pair_perm.mp h.symm with rfl | rfl <;> rfl
    | rank unit off => rcases List.pair_perm.mp h.symm with rfl | rfl <;> rfl
    | row unit n => rcases List.pair_perm.mp h.symm with rfl | rfl <;> rfl
    | codeword unit n => rcases List.pair_perm.mp h.symm with rfl | rfl <;> rfl

/- Whatever two options were let through, there is no third. -/
theorem eccPlaceStep_third (x y z : EccPlace) : [x, y, z].foldlM eccPlaceStep eccStart = none := by
  cases x <;> cases y <;> first | rfl | (cases z <;> rfl)

/-- The checks at the options and the one at the end let through what names a target,
with the request for it. -/
theorem eccRequest_foldlM (op : U 32) (ys : List EccPlace) :
    ((ys.foldlM eccPlaceStep eccStart).bind fun q => eccRequest { q with op := some op } op) =
      (eccTarget ys).map (EccTarget.request op) := by
  match ys with
  | [] => rfl
  | [x] => cases x <;> rfl
  | [x, y] => cases x <;> cases y <;> rfl
  | x :: y :: z :: ys =>
    have hthird : (x :: y :: z :: ys).foldlM eccPlaceStep eccStart = none := by
      rw [show x :: y :: z :: ys = [x, y, z] ++ ys from rfl, List.foldlM_append, eccPlaceStep_third]
      rfl
    have hnone : eccTarget (x :: y :: z :: ys) = none := by cases x <;> cases y <;> rfl
    rw [hthird, hnone]
    rfl

theorem parseVuEccrmwinj_eq_some_iff (args : List String) (r : VuRequest) :
    parseVuEccrmwinj args = some r ↔ ∃ op t, EccAsks args op t ∧ r = t.request op := by
  have hstore : ∀ opt v p q, vuEccrmwinjOption opt v p = some q ↔ ∃ x, EccOption (opt, v) x ∧ eccStep p x = some q := by
    intro opt v p q
    rw [vuEccrmwinjOption_eq, Option.bind_eq_some_iff]
    simp only [eccArg_eq_some_iff]
  have hparse := parseOptions_some_iff vuEccrmwinjOption EccOption eccStep hstore args eccStart
  simp only [parseVuEccrmwinj, Option.bind_eq_some_iff, hparse, EccAsks]
  constructor
  · rintro ⟨p, ⟨os, xs, hargs, hread, hrun⟩, op, hop, hreq⟩
    rw [foldlM_eccStep, Option.map_eq_some_iff] at hrun
    obtain ⟨q, hq, rfl⟩ := hrun
    have hlast : (xs.filterMap EccArg.op?).getLast? = some op := by simpa using hop
    rw [show ({ q with op := (xs.filterMap EccArg.op?).getLast?.or eccStart.op } : VuEccrmwinjParams) =
      { q with op := some op } by rw [hlast]; rfl] at hreq
    have htarget := eccRequest_foldlM op (xs.filterMap EccArg.place?)
    rw [hq, Option.bind_some, hreq] at htarget
    obtain ⟨t, ht, hr⟩ := Option.map_eq_some_iff.mp htarget.symm
    exact ⟨op, t, ⟨os, xs, hargs, hread, hlast, (eccTarget_eq_some_iff _ t).mp ht⟩, hr.symm⟩
  · rintro ⟨op, t, ⟨os, xs, hargs, hread, hlast, hperm⟩, rfl⟩
    have htarget := eccRequest_foldlM op (xs.filterMap EccArg.place?)
    rw [(eccTarget_eq_some_iff _ t).mpr hperm, Option.map_some] at htarget
    obtain ⟨q, hq, hreq⟩ := Option.bind_eq_some_iff.mp htarget
    refine ⟨{ q with op := some op }, ⟨os, xs, hargs, hread, ?_⟩, op, rfl, hreq⟩
    rw [foldlM_eccStep, hq, hlast]
    rfl

end LibCxlmi.Tools
