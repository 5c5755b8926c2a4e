import LibCxlmi.Tools.EccOptions
import LibCxlmi.Tools.Sent

/-!
# Requests of vu-eccrmwinj (cmd_vu_eccrmwinj.c:163-274)

Whether the injection is sent does not depend on the order of the options, and the
four arguments of the request tell the operation and the place apart from any other.
-/

namespace LibCxlmi.Tools
open LibCxlmi.Word LibCxlmi.Text LibCxlmi.Dialogue

/-! ### Order -/

/-- The operation that counts. -/
def lastOp (os : List (String × String)) : Option (String × String) := (os.filter fun o => o.1 = "--op").getLast?

theorem ops_of_options {os : List (String × String)} {xs : List EccArg} (h : List.Forall₂ EccOption os xs) :
    (os.filter fun o => o.1 = "--op").map (fun o => parseEccOp o.2) = (xs.filterMap EccArg.op?).map some := by
  induction h with
  | nil => rfl
  | @cons o x os xs hx hrest ih =>
    cases x with
    | op n =>
      obtain ⟨hname, hval⟩ := hx
      simp [hname, hval, EccArg.op?, ih]
    | place x =>
      have hname : ¬ o.1 = "--op" := by
        intro hop
        cases x <;> simp [EccOption, hop] at hx
      simp [List.filterMap_cons, hname, EccArg.op?, ih]

theorem lastOp_of_options {os : List (String × String)} {xs : List EccArg} (h : List.Forall₂ EccOption os xs) :
    (xs.filterMap EccArg.op?).getLast? = (lastOp os).bind fun o => parseEccOp o.2 := by
  have hops := congrArg List.getLast? (ops_of_options h)
  rw [List.getLast?_map, List.getLast?_map] at hops
  unfold lastOp
  cases hos : (os.filter fun o => o.1 = "--op").getLast? with
  | none =>
    rw [hos] at hops
    exact Option.map_eq_none_iff.mp hops.symm
  | some o =>
    rw [hos] at hops
    obtain ⟨n, hn, hval⟩ := Option.map_eq_some_iff.mp hops.symm
    rw [hn, Option.bind_some, hval]

theorem EccAsks.reorder {os os' : List (String × String)} {op : U 32} {t : EccTarget} (hperm : os.Perm os')
    (hlast : lastOp os = lastOp os') (h : EccAsks (optionWords os) op t) : EccAsks (optionWords os') op t := by
  obtain ⟨os₁, xs, hargs, hread, hop, hplaces⟩ := h
  obtain rfl := optionWords_injective os os₁ hargs
  obtain ⟨xs', hread', hxs⟩ := List.perm_comp_forall₂ hperm.symm hread
  refine ⟨os', xs', rfl, hread', ?_, (hxs.filterMap EccArg.place?).trans hplaces⟩
  rw [lastOp_of_options hread', ← hlast, ← lastOp_of_options hread, hop]

theorem parseVuEccrmwinj_reorder (os os' : List (String × String)) (hperm : os.Perm os')
    (hlast : lastOp os = lastOp os') : parseVuEccrmwinj (optionWords os) = parseVuEccrmwinj (optionWords os') := by
  refine Option.ext fun r => ?_
  rw [parseVuEccrmwinj_eq_some_iff, parseVuEccrmwinj_eq_some_iff]
  constructor
  · rintro ⟨op, t, h, hr⟩
    exact ⟨op, t, h.reorder hperm hlast, hr⟩
  · rintro ⟨op, t, h, hr⟩
    exact ⟨op, t, h.reorder hperm.symm hlast.symm, hr⟩

/-! ### What the device can tell from the request -/

/-- A row and a codeword are told apart by the device's own mode. -/
inductive EccSite where
  | dpa (addr : ℕ)
  | fru (unit : U 32) (addr : ℕ)
  | rank (unit : U 32) (addr : ℕ)
  | dram (unit n : U 32)
  deriving DecidableEq, Repr

def EccTarget.site : EccTarget → EccSite
  | .dpa addr => .dpa (alignDown64 addr)
  | .fru unit off => .fru unit (alignDown64 off)
  | .rank unit off => .rank unit (alignDown64 off)
  | .row unit n => .dram unit n
  | .codeword unit n => .dram unit n

/-- The operation and the place, from the four arguments. -/
def readEccArgs (r : VuRequest) : ℕ × EccSite :=
  let addr := r.arg2.val + 2 ^ 32 * r.arg3.val
  let gran := r.arg1.val / 256 % 8
  (r.arg1.val % 4,
    if r.arg1.val / 16 % 2 = 0 then .dpa addr
    else if gran = 1 then .fru r.arg4 addr
    else if gran = 2 then .rank r.arg4 addr
    else .dram r.arg4 r.arg2)

theorem eccGran_bits : ∀ op < 4, ∀ gran < 4, (eccGran (toU32 op) (toU32 gran)).val % 4 = op ∧
    (eccGran (toU32 op) (toU32 gran)).val / 16 % 2 = 1 ∧ (eccGran (toU32 op) (toU32 gran)).val / 256 % 8 = gran := by
  decide

theorem readEccArgs_gran (op : U 32) (hop : op.val < 4) (gran : ℕ) (hgran : gran < 4) (arg2 arg3 arg4 : U 32) :
    readEccArgs ⟨0x011b, 0, 0, 0, eccGran op (toU32 gran), arg2, arg3, arg4, []⟩ =
      (op.val,
        if gran = 1 then .fru arg4 (arg2.val + 2 ^ 32 * arg3.val)
        else if gran = 2 then .rank arg4 (arg2.val + 2 ^ 32 * arg3.val)
        else .dram arg4 arg2) := by
  have hword : toU32 op.val = op := Fin.ext (Nat.mod_eq_of_lt op.isLt)
  obtain ⟨hval, hbit, hg⟩ := eccGran_bits op.val hop gran hgran
  rw [hword] at hval hbit hg
  simp only [readEccArgs, hval, hbit, hg, Nat.one_ne_zero, if_false]

theorem join_halves (a : ℕ) (h : a ≤ ulongMax) :
    (toU32 (alignDown64 a)).val + 2 ^ 32 * (toU32 (alignDown64 a / 2 ^ 32)).val = alignDown64 a := by
  have hle : alignDown64 a ≤ a := Nat.div_mul_le_self a 64
  have hlt : alignDown64 a < 2 ^ 32 * 2 ^ 32 := lt_of_le_of_lt (hle.trans h) (by decide)
  have hhigh : (toU32 (alignDown64 a / 2 ^ 32)).val = alignDown64 a / 2 ^ 32 :=
    Nat.mod_eq_of_lt (Nat.div_lt_of_lt_mul hlt)
  rw [hhigh]
  exact Nat.mod_add_div (alignDown64 a) (2 ^ 32)

theorem parseEccOp_lt (v : String) (op : U 32) (h : parseEccOp v = some op) : op.val < 4 := by
  unfold parseEccOp at h
  split_ifs at h <;> (obtain rfl := Option.some.inj h; decide)

/- Values that options can have. -/
def EccArg.InRange : EccArg → Prop
  | .op n => n.val < 4
  | .place (.dpa addr) => addr ≤ ulongMax
  | .place (.off addr) => addr ≤ ulongMax
  | .place _ => True

theorem EccOption.inRange {o : String × String} {x : EccArg} (h : EccOption o x) : x.InRange := by
  cases x with
  | op n => exact parseEccOp_lt o.2 n h.2
  | place x =>
    cases x with
    | dpa addr => exact h.2.le
    | off addr => exact h.2.le
    | _ => trivial

theorem options_inRange {os : List (String × String)} {xs : List EccArg} (h : List.Forall₂ EccOption os xs) :
    ∀ x ∈ xs, x.InRange := by
  induction h with
  | nil => simp
  | cons hx hrest ih =>
    intro x hmem
    rcases List.mem_cons.mp hmem with rfl | hmem
    · exact hx.inRange
    · exact ih x hmem

theorem mem_of_places {xs : List EccArg} {x : EccPlace} {ys : List EccPlace}
    (h : (xs.filterMap EccArg.place?).Perm ys) (hx : x ∈ ys) : EccArg.place x ∈ xs := by
  obtain ⟨y, hy, hplace⟩ := List.mem_filterMap.mp (h.mem_iff.mpr hx)
  cases y with
  | op n => cases hplace
  | place z =>
    obtain rfl := Option.some.inj hplace
    exact hy

theorem EccAsks.op_lt {args : List String} {op : U 32} {t : EccTarget} (h : EccAsks args op t) : op.val < 4 := by
  obtain ⟨os, xs, -, hread, hlast, -⟩ := h
  obtain ⟨x, hx, hop⟩ := List.mem_filterMap.mp (List.mem_of_getLast? hlast)
  cases x with
  | op n =>
    obtain rfl := Option.some.inj hop
    exact options_inRange hread _ hx
  | place x => cases hop

theorem EccAsks.readEccArgs_request {args : List String} {op : U 32} {t : EccTarget} (h : EccAsks args op t) :
    readEccArgs (t.request op) = (op.val, t.site) := by
  have hlt := h.op_lt
  obtain ⟨os, xs, -, hread, -, hplaces⟩ := h
  have hrange : ∀ x ∈ t.places, (EccArg.place x).InRange := by
    intro x hx
    exact options_inRange hread _ (mem_of_places hplaces hx)
  cases t with
  | dpa addr =>
    have haddr : addr ≤ ulongMax := hrange (.dpa addr) (by simp [EccTarget.places])
    have hbit : op.val / 16 % 2 = 0 := by omega
    simp only [readEccArgs, EccTarget.request, EccTarget.site, join_halves addr haddr, hbit, if_true,
      Nat.mod_eq_of_lt hlt]
  | fru unit off =>
    have haddr : off ≤ ulongMax := hrange (.off off) (by simp [EccTarget.places])
    have hread := readEccArgs_gran op hlt 1 (by decide) (toU32 (alignDown64 off))
      (toU32 (alignDown64 off / 2 ^ 32)) unit
    rw [join_halves off haddr] at hread
    exact hread
  | rank unit off =>
    have haddr : off ≤ ulongMax := hrange (.off off) (by simp [EccTarget.places])
    have hread := readEccArgs_gran op hlt 2 (by decide) (toU32 (alignDown64 off))
      (toU32 (alignDown64 off / 2 ^ 32)) unit
    rw [join_halves off haddr] at hread
    exact hread
  | row unit n => exact readEccArgs_gran op hlt 3 (by decide) n 0 unit
  | codeword unit n => exact readEccArgs_gran op hlt 3 (by decide) n 0 unit

/-! ### What is sent -/

/-- One request is sent between the unlock and the lock, unless the unlock fails. -/
theorem sendOnce_calls (o : ByteOrder) (r : VuRequest) (n : ℕ) (t : Log) (e : End)
    (h : (sendOnce o .direct r n).Runs t e) :
    (vendorCalls t).map Prod.fst = [.vu vuunlock] ∧ e ≠ .returned 0 ∨
      (vendorCalls t).map Prod.fst = [.vu vuunlock, .vu r, .vu vulock] := by
  obtain ⟨x, t, rfl, h⟩ := h
  change (ite (x.rc ≠ 0) _ _ : Tool End).Runs t e at h
  by_cases hrc : x.rc ≠ 0
  · rw [if_pos hrc] at h
    obtain ⟨rfl, rfl⟩ := h
    refine Or.inl ⟨rfl, ?_⟩
    intro hzero
    exact hrc (End.returned.inj hzero)
  · rw [if_neg hrc] at h
    obtain ⟨y, t, rfl, z, t, rfl, rfl, -⟩ := h
    exact Or.inr rfl

theorem sent_sendOnce (o : ByteOrder) (r : VuRequest) (n : ℕ) (m : Message) :
    Sent (sendOnce o .direct r n) m ↔ m = .vu vuunlock ∨ m = .vu r ∨ m = .vu vulock := by
  constructor
  · rintro ⟨t, e, hrun, hm⟩
    rcases sendOnce_calls o r n t e hrun with ⟨hcalls, -⟩ | hcalls
    · rw [hcalls] at hm
      exact Or.inl (List.mem_singleton.mp hm)
    · rw [hcalls] at hm
      simpa using hm
  · intro hm
    let ok : VendorReply := ⟨0, []⟩
    refine ⟨[⟨.vendor (.vu vuunlock) 0, ok⟩, ⟨.vendor (.vu r) n, ok⟩, ⟨.vendor (.vu vulock) 0, ok⟩], .returned 0,
      ⟨ok, _, rfl, ok, _, rfl, ok, _, rfl, rfl, rfl⟩, ?_⟩
    show m ∈ [.vu vuunlock, .vu r, .vu vulock]
    simpa using hm

/-- The injection is sent for the arguments that name an operation and one target;
their order does not matter, and the request tells what they name. -/
theorem ecc_injection_arguments (o : ByteOrder) :
    (∀ args r, r.vuCmdId = 0x011b →
      (Sent (cmdVuEccrmwinj o args) (.vu r) ↔ ∃ op t, EccAsks args op t ∧ r = t.request op)) ∧
    (∀ args h, (cmdVuEccrmwinj o args).Runs h (.returned 0) →
      ∃ op t, EccAsks args op t ∧ .vu (t.request op) ∈ (vendorCalls h).map Prod.fst) ∧
    (∀ os os', os.Perm os' → lastOp os = lastOp os' →
      cmdVuEccrmwinj o (optionWords os) = cmdVuEccrmwinj o (optionWords os')) ∧
    ∀ args op t, EccAsks args op t → readEccArgs (t.request op) = (op.val, t.site) := by
  refine ⟨?_, ?_, ?_, fun args op t h => h.readEccArgs_request⟩
  · intro args r hid
    rw [← parseVuEccrmwinj_eq_some_iff, cmdVuEccrmwinj, cmdVuOnce]
    cases parseVuEccrmwinj args with
    | none => simp [sent_ret]
    | some r' =>
      rw [sent_sendOnce]
      constructor
      · rintro (h | h | h)
        · rw [Message.vu.inj h] at hid
          exact absurd hid (by decide)
        · rw [Message.vu.inj h]
        · rw [Message.vu.inj h] at hid
          exact absurd hid (by decide)
      · intro h
        rw [Option.some.inj h]
        exact Or.inr (Or.inl rfl)
  · intro args h hrun
    rw [cmdVuEccrmwinj, cmdVuOnce] at hrun
    cases hparse : parseVuEccrmwinj args with
    | none =>
      rw [hparse] at hrun
      obtain ⟨-, hrc⟩ := hrun
      cases hrc
    | some r =>
      rw [hparse] at hrun
      obtain ⟨op, t, hasks, rfl⟩ := (parseVuEccrmwinj_eq_some_iff args r).mp hparse
      refine ⟨op, t, hasks, ?_⟩
      rcases sendOnce_calls o _ 0 h _ hrun with ⟨-, hbad⟩ | hcalls
      · exact absurd rfl hbad
      · rw [hcalls]
        simp
  · intro os os' hperm hlast
    rw [cmdVuEccrmwinj, cmdVuOnce, cmdVuOnce, parseVuEccrmwinj_reorder os os' hperm hlast]

end LibCxlmi.Tools
