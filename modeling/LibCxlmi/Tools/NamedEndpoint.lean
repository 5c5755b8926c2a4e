import LibCxlmi.Text.Strtoul
import LibCxlmi.Word.Memory

/-!
# The endpoint that mctp-cci opens (tools/mctp-cci/main.c:61-116, util.c:101-109)

main keeps the network and the endpoint id in two `unsigned int`s and has 64-bit
numbers stored through their addresses. So a store runs over the four bytes behind
its variable, and only the lower half of a number is compared with 255.
-/

namespace LibCxlmi.Tools
open LibCxlmi.Word LibCxlmi.Text

/-- Where the compiler puts the two variables. -/
structure EndpointVars where
  net : ℕ
  eid : ℕ
  apart : net + 4 ≤ eid ∨ eid + 4 ≤ net

/- The number is stored before it is judged. The host is little-endian. -/
def parseHexU64 (m : Ram) (out : ℕ) (str : String) : Bool × Ram :=
  if str = "" then (false, m)
  else (decide (outOfRange str = false ∧ (strtoulEnd str).2 = []), m.store out 8 (strtoul str))

def tops : List String :=
  ["info", "events", "fw", "ts", "logs", "features", "identify", "partition", "health", "poison", "sanitize", "pmem",
   "security", "qos", "dcd", "switch", "mld", "dcd-mgmt", "vendor"]

/-- The network and the endpoint id that main hands to `cxlmi_open_mctp`, if it comes
that far and gets its context. -/
def openedEndpoint (p : EndpointVars) (m : Ram) : List String → Option (ℕ × ℕ)
  | nid :: eid :: top :: args =>
      if nid = "-h" ∨ nid = "--help" then none
      else
        let r := parseHexU64 m p.net nid
        if r.1 = false ∨ 0xff < r.2.load p.net 4 then none
        else
          let r := parseHexU64 r.2 p.eid eid
          if r.1 = false ∨ 0xff < r.2.load p.eid 4 then none
          else if top ∉ tops then none
          else if args.head? = some "--help" then none
          else some (r.2.load p.net 4, r.2.load p.eid 4 % 256)
  | _ => none

/-! ### Numbers -/

/-- The integer that a text denotes as a C numeral. -/
def NumberText (s : String) (z : ℤ) : Prop :=
  ∃ neg n, numeral s = some (neg, n, []) ∧ z = if neg = true then -(n : ℤ) else (n : ℤ)

/-- A numeral below 2^64 of which the lower half of the 64-bit value is at most 255. -/
def LowHalfByte (s : String) : Prop :=
  ∃ neg n, numeral s = some (neg, n, []) ∧ n ≤ ulongMax ∧ signedValue neg n % 2 ^ 32 ≤ 0xff

theorem NumberText.unique {s : String} {z w : ℤ} (hz : NumberText s z) (hw : NumberText s w) : z = w := by
  obtain ⟨neg, n, hn, rfl⟩ := hz
  obtain ⟨neg', n', hn', rfl⟩ := hw
  obtain ⟨rfl, hpair⟩ := Prod.mk.inj (Option.some.inj (hn.symm.trans hn'))
  obtain ⟨rfl, -⟩ := Prod.mk.inj hpair
  rfl

/- A minus leaves only zero at or above zero. -/
theorem strtoul_numberText (s : String) (k : ℕ) (h : NumberText s k) (hk : k ≤ ulongMax) : strtoul s = k := by
  obtain ⟨neg, n, hn, hval⟩ := h
  rw [strtoul_of_numeral s neg n [] hn, signedValue]
  cases neg with
  | false =>
    have hnk : n = k := by simpa [eq_comm] using hval
    rw [hnk, if_neg (Nat.not_lt.mpr hk), if_neg Bool.false_ne_true]
  | true =>
    rw [if_pos rfl] at hval
    have hzero : n = 0 ∧ k = 0 := by omega
    rw [hzero.1, hzero.2]
    rfl

theorem lowHalfByte_iff (s : String) :
    LowHalfByte s ↔ (s ≠ "" ∧ outOfRange s = false ∧ (strtoulEnd s).2 = []) ∧ strtoul s % 2 ^ 32 ≤ 0xff := by
  have hend := strtoulEnd_eq s
  unfold LowHalfByte outOfRange strtoul
  cases hs : numeral s with
  | none =>
    rw [hs] at hend
    refine iff_of_false (fun ⟨neg, n, h, _⟩ => Option.some_ne_none _ h.symm) ?_
    intro h
    rw [hend] at h
    exact h.1.1 (String.toList_eq_nil_iff.mp h.1.2.2)
  | some d =>
    obtain ⟨neg, n, rest⟩ := d
    rw [hs] at hend
    have hne : s ≠ "" := by
      intro hempty
      rw [hempty] at hs
      cases hs
    rw [hend]
    constructor
    · intro h
      obtain ⟨neg', n', heq, hle, hlow⟩ := h
      cases heq
      exact ⟨⟨hne, decide_eq_false (Nat.not_lt.mpr hle), rfl⟩, hlow⟩
    · intro h
      obtain ⟨⟨-, hrange, hrest⟩, hlow⟩ := h
      obtain rfl : rest = [] := hrest
      exact ⟨neg, n, rfl, Nat.not_lt.mp (of_decide_eq_false hrange), hlow⟩

/-! ### What main goes on with -/

/-- The rest of the arguments does not keep main from opening the endpoint. -/
def GoesOn (top : String) (args : List String) : Prop := top ∈ tops ∧ args.head? ≠ some "--help"

/-- The network is in reach of the second store. -/
def EndpointVars.Behind (p : EndpointVars) : Prop := p.eid + 4 ≤ p.net ∧ p.net < p.eid + 8

section Stores
variable (p : EndpointVars) (m : Ram)

theorem parseHexU64_stored (out : ℕ) (s : String) (hs : s ≠ "") :
    (parseHexU64 m out s).2.load out 4 = strtoul s % 2 ^ 32 := by
  rw [parseHexU64, if_neg hs]
  exact Ram.load_store_self m out 8 (strtoul s) 4 (by decide)

theorem parseHexU64_taken (out : ℕ) (s : String) :
    ¬((parseHexU64 m out s).1 = false ∨ 0xff < (parseHexU64 m out s).2.load out 4) ↔ LowHalfByte s := by
  by_cases hs : s = ""
  · subst hs
    refine iff_of_false (fun h => h (Or.inl rfl)) ?_
    rw [lowHalfByte_iff]
    exact fun h => h.1.1 rfl
  · rw [parseHexU64_stored m out s hs, parseHexU64, if_neg hs, lowHalfByte_iff, not_or, Nat.not_lt,
      Bool.not_eq_false, decide_eq_true_iff, and_iff_right hs]

/-- The two stores, one after the other. -/
def EndpointVars.after (nid eid : String) : Ram := (m.store p.net 8 (strtoul nid)).store p.eid 8 (strtoul eid)

theorem openedEndpoint_eq_some_iff (argv : List String) (r : ℕ × ℕ) :
    openedEndpoint p m argv = some r ↔ ∃ nid eid top args, argv = nid :: eid :: top :: args ∧ GoesOn top args ∧
      LowHalfByte nid ∧ LowHalfByte eid ∧ r = ((p.after m nid eid).load p.net 4, strtoul eid % 2 ^ 32) := by
  have hstored : ∀ m s, LowHalfByte s → ∀ out, (parseHexU64 m out s).2 = m.store out 8 (strtoul s) := by
    intro m s hs out
    rw [parseHexU64, if_neg ((lowHalfByte_iff s).mp hs).1.1]
  have hhelp : ∀ s, LowHalfByte s → ¬(s = "-h" ∨ s = "--help") := by
    intro s hs hname
    obtain ⟨neg, n, hn, -⟩ := hs
    rcases hname with rfl | rfl
    · cases hn
    · cases hn
  constructor
  · intro h
    match argv with
    | [] => cases h
    | [_] => cases h
    | [_, _] => cases h
    | nid :: eid :: top :: args =>
      rw [openedEndpoint] at h
      dsimp only at h
      split_ifs at h with hname hnid heid htop hargs
      rw [parseHexU64_taken] at hnid heid
      rw [parseHexU64_stored _ _ _ ((lowHalfByte_iff eid).mp heid).1.1, hstored _ eid heid, hstored _ nid hnid] at h
      refine ⟨nid, eid, top, args, rfl, ⟨htop, hargs⟩, hnid, heid, ?_⟩
      have hlow := ((lowHalfByte_iff eid).mp heid).2
      rw [← Option.some.inj h, Nat.mod_eq_of_lt (Nat.lt_of_le_of_lt hlow (by decide))]
      rfl
  · intro h
    obtain ⟨nid, eid, top, args, rfl, hon, hnid, heid, rfl⟩ := h
    have hlow := ((lowHalfByte_iff eid).mp heid).2
    rw [openedEndpoint]
    dsimp only
    rw [if_neg (hhelp nid hnid), if_neg ((parseHexU64_taken _ _ nid).mpr hnid),
      if_neg ((parseHexU64_taken _ _ eid).mpr heid), if_neg (not_not.mpr hon.1), if_neg hon.2,
      parseHexU64_stored _ _ _ ((lowHalfByte_iff eid).mp heid).1.1, hstored _ eid heid, hstored _ nid hnid,
      Nat.mod_eq_of_lt (Nat.lt_of_le_of_lt hlow (by decide))]
    rfl

/- The number of the network is left alone, or lost if it is in reach. -/
theorem load_after_apart (nid eid : String) (h : ¬p.Behind) :
    (p.after m nid eid).load p.net 4 = strtoul nid % 2 ^ 32 := by
  have hapart : p.net + 4 ≤ p.eid ∨ p.eid + 8 ≤ p.net := by
    have hor := p.apart
    unfold EndpointVars.Behind at h
    omega
  rw [EndpointVars.after, Ram.load_store_apart _ _ _ _ _ _ hapart]
  exact Ram.load_store_self m p.net 8 (strtoul nid) 4 (by decide)

theorem load_after_behind (nid eid : String) (h : p.Behind) (hnid : strtoul nid % 2 ^ 32 ≤ 0xff)
    (heid : strtoul eid ≤ 0xff) : (p.after m nid eid).load p.net 4 = 0 := by
  have hpow : 256 ^ 4 ≤ 256 ^ (p.net - p.eid) := Nat.pow_le_pow_right (by decide) (by have hb := h.1; omega)
  apply Ram.load_store_first
  · rw [Ram.load_store_self m p.net 8 (strtoul nid) 4 (by decide)]
    exact Nat.lt_of_le_of_lt hnid (by decide)
  · exact ⟨Nat.le_trans (Nat.le_add_right _ 4) h.1, h.2⟩
  · exact Nat.lt_of_lt_of_le (Nat.lt_of_le_of_lt heid (by decide)) hpow

end Stores

/-! ### The endpoint that was named -/

/-- If main opens an endpoint, its numbers are those that the two arguments denote. -/
def EndpointNamed (p : EndpointVars) (m : Ram) (argv : List String) : Prop :=
  ∀ net eid, openedEndpoint p m argv = some (net, eid) → ∃ s s' args, argv = s :: s' :: args ∧
    NumberText s net ∧ NumberText s' eid ∧ net ≤ 0xff ∧ eid ≤ 0xff

/-- The endpoint is the one that was named if numbers are rejected for what they are,
not for their lower half, and the network is out of reach of the second store. -/
theorem endpoint_named_iff (p : EndpointVars) (m : Ram) (argv : List String) :
    EndpointNamed p m argv ↔ ∀ nid eid top args, argv = nid :: eid :: top :: args → GoesOn top args →
      LowHalfByte nid → LowHalfByte eid →
      (∃ n : ℕ, NumberText nid n ∧ n ≤ 0xff ∧ (p.Behind → n = 0)) ∧ ∃ n : ℕ, NumberText eid n ∧ n ≤ 0xff := by
  constructor
  · intro h nid eid top args hargv hon hnid heid
    obtain ⟨s, s', args', hargv', hs, hs', hnet, hle⟩ := h _ _ ((openedEndpoint_eq_some_iff p m argv _).mpr
      ⟨nid, eid, top, args, hargv, hon, hnid, heid, rfl⟩)
    obtain ⟨rfl, htail⟩ := List.cons.inj (hargv.symm.trans hargv')
    obtain ⟨rfl, -⟩ := List.cons.inj htail
    refine ⟨⟨_, hs, hnet, ?_⟩, _, hs', hle⟩
    intro hbehind
    have heid : strtoul eid ≤ 0xff := by
      rw [strtoul_numberText eid _ hs' (Nat.le_trans hle (by decide))]
      exact hle
    exact load_after_behind p m nid eid hbehind ((lowHalfByte_iff nid).mp hnid).2 heid
  · intro h net eid hopen
    obtain ⟨s, s', top, args, rfl, hon, hnid, heid, hr⟩ := (openedEndpoint_eq_some_iff p m _ _).mp hopen
    obtain ⟨⟨n, hn, hnle, hbehind⟩, k, hk, hkle⟩ := h s s' top args rfl hon hnid heid
    have hnval := strtoul_numberText s n hn (Nat.le_trans hnle (by decide))
    have hkval := strtoul_numberText s' k hk (Nat.le_trans hkle (by decide))
    obtain ⟨rfl, rfl⟩ := Prod.mk.inj hr
    have hkmod : strtoul s' % 2 ^ 32 = k := by
      rw [hkval]
      exact Nat.mod_eq_of_lt (Nat.lt_of_le_of_lt hkle (by decide))
    have hnet : (p.after m s s').load p.net 4 = n := by
      by_cases hb : p.Behind
      · rw [load_after_behind p m s s' hb ((lowHalfByte_iff s).mp hnid).2 (hkval ▸ hkle), hbehind hb]
      · rw [load_after_apart p m s s' hb, hnval]
        exact Nat.mod_eq_of_lt (Nat.lt_of_le_of_lt hnle (by decide))
    rw [hkmod, hnet]
    exact ⟨s, s', _, rfl, hn, hk, hnle, hkle⟩

/-- With the network right behind the endpoint id, network 0 is opened for network 1. -/
theorem network_overwritten : ¬EndpointNamed ⟨4, 0, Or.inr (Nat.le_refl 4)⟩ (fun _ => 0) ["1", "8", "info"] := by
  intro h
  obtain ⟨s, s', args, hargv, hs, -⟩ := h 0 8 (by decide)
  obtain ⟨rfl, -⟩ := List.cons.inj hargv
  have hone : NumberText "1" 1 := ⟨false, 1, by decide, rfl⟩
  exact absurd (hs.unique hone) (by decide)

end LibCxlmi.Tools
