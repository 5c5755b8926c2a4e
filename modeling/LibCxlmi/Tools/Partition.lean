import LibCxlmi.Commands.Table
import LibCxlmi.Tools.Args

/-!
# Setting the partition (mctp-cci/cmd_partition.c, util.c, mbcci-sfx/cmd_partition.c)

Set Partition Info carries the volatile capacity in units of 256 MiB, and the
library sends what it is given. mctp-cci takes a size with a unit and passes on the
number of bytes; mbcci-sfx takes MiB and divides. Neither looks at `errno` or the
sign, and mbcci-sfx not at what follows the number.
-/

namespace LibCxlmi.Tools
open LibCxlmi.Word LibCxlmi.Text LibCxlmi.Commands

structure SetPartitionReq where
  volatileCapacity : U 64
  flags : Byte
  deriving DecidableEq, Repr

/-! ### mctp-cci partition set -/

def unitOf (c : Char) : Option ℕ :=
  if c = 'k' ∨ c = 'K' then some 1024
  else if c = 'm' ∨ c = 'M' then some (1024 * 1024)
  else if c = 'g' ∨ c = 'G' then some (1024 * 1024 * 1024)
  else none

/- The product is taken modulo 2^64. -/
def parseSizeWithUnit (str : String) : Option (U 64) :=
  if str = "" ∨ (strtoulEnd str).2 = str.toList then none
  else
    match (strtoulEnd str).2 with
    | [] => some (toU64 (strtoulEnd str).1)
    | [c] => (unitOf c).map fun u => toU64 ((strtoulEnd str).1 * u)
    | _ => none

/- Other arguments are skipped. -/
def doSetPartitionArgs : List String → SetPartitionReq → Option SetPartitionReq
  | opt :: v :: rest, req =>
      if opt = "--next-volatile" then
        match parseSizeWithUnit v with
        | none => none
        | some size => doSetPartitionArgs rest { req with volatileCapacity := size }
      else if opt = "--flags" then doSetPartitionArgs rest { req with flags := Fin.ofNat 256 (strtoul v) }
      else doSetPartitionArgs (v :: rest) req
  | _, req => some req

def doSetPartition (args : List String) : Option SetPartitionReq := doSetPartitionArgs args ⟨0, 0⟩

/-! ### mbcci-sfx set-partition -/

def capUnitMib : ℕ := 256

structure SetPartitionParams where
  volatileCapacity : Option (U 64)
  flags : Byte
  deriving DecidableEq, Repr

def setPartitionOptions : List String → SetPartitionParams → Option SetPartitionParams
  | [], p => some p
  | [opt], p => if opt = "--bp-dirty-shutdown" then some { p with flags := p.flags ||| 1 } else none
  | opt :: v :: rest, p =>
      if opt = "--next-volatile" then
        if strtoul v % capUnitMib ≠ 0 then none
        else setPartitionOptions rest { p with volatileCapacity := some (toU64 (strtoul v / capUnitMib)) }
      else if opt = "--flags" then
        if 255 < strtoul v then none else setPartitionOptions rest { p with flags := Fin.ofNat 256 (strtoul v) }
      else if opt = "--bp-dirty-shutdown" then setPartitionOptions (v :: rest) { p with flags := p.flags ||| 1 }
      else none

def parseSetPartitionReq (args : List String) : Option SetPartitionReq :=
  (setPartitionOptions args ⟨none, 0⟩).bind fun p => p.volatileCapacity.map fun capacity => ⟨capacity, p.flags⟩

/-! ### Sizes -/

inductive PartitionTool where
  | mctpCci
  | mbcciSfx
  deriving DecidableEq, Repr

def PartitionTool.request : PartitionTool → List String → Option SetPartitionReq
  | .mctpCci => doSetPartition
  | .mbcciSfx => parseSetPartitionReq

/-- The argument of the last `--next-volatile`. -/
def nextVolatile : List String → Option String → Option String
  | opt :: v :: rest, size =>
      if opt = "--next-volatile" then nextVolatile rest (some v)
      else if opt = "--flags" then nextVolatile rest size
      else nextVolatile (v :: rest) size
  | _, size => size

/-- The sign, the number and the bytes of its unit, of a size that denotes one. -/
def PartitionTool.parts : PartitionTool → String → Option (Bool × ℕ × ℕ)
  | .mctpCci, size =>
      match numeral size with
      | some (neg, n, []) => some (neg, n, 1)
      | some (neg, n, [c]) => (unitOf c).map fun u => (neg, n, u)
      | _ => none
  | .mbcciSfx, size =>
      match numeral size with
      | some (neg, n, []) => some (neg, n, 1024 * 1024)
      | _ => none

def signedBytes (p : Bool × ℕ × ℕ) : ℤ := if p.1 = true then -(p.2.1 * p.2.2 : ℕ) else (p.2.1 * p.2.2 : ℕ)

theorem signedBytes_neg (n u : ℕ) : signedBytes (true, n, u) = -((n * u : ℕ) : ℤ) := rfl

theorem signedBytes_pos (n u : ℕ) : signedBytes (false, n, u) = ((n * u : ℕ) : ℤ) := rfl

/-- The number of bytes that a size denotes. -/
def PartitionTool.bytes (t : PartitionTool) (size : String) : Option ℤ := (t.parts size).map signedBytes

/-- The number of bytes is the number of units for none but 0 and, since a number of 2^64
and above is converted to 2^64 - 1, for one such number with each unit up to MiB. -/
def PartitionTool.Exact : PartitionTool → Bool × ℕ × ℕ → Prop
  | .mctpCci, (neg, n, u) => n = 0 ∨ neg = false ∧ 2 ^ 64 ≤ n ∧ n * u = (2 ^ 64 - u) * 2 ^ 28
  | .mbcciSfx, (neg, n, _) => neg = true → n = 0

/-- The accepted sizes that are sent as what they denote. -/
def PartitionTool.SentAsMeant (t : PartitionTool) (size : String) : Prop := ∃ p, t.parts size = some p ∧ t.Exact p

/-- A multiple of 256 MiB that the field can hold. -/
def PartitionTool.Fits (t : PartitionTool) (size : String) : Prop :=
  ∃ k : U 64, t.bytes size = some ((k.val * 2 ^ 28 : ℕ) : ℤ)

theorem PartitionTool.bytes_iff (t : PartitionTool) (size : String) (p : Bool × ℕ × ℕ) (b : ℤ)
    (hparts : t.parts size = some p) (hexact : b = signedBytes p ↔ t.Exact p) :
    t.bytes size = some b ↔ t.SentAsMeant size := by
  rw [PartitionTool.bytes, hparts]
  constructor
  · intro hbytes
    exact ⟨p, hparts, hexact.mp (Option.some.inj hbytes).symm⟩
  · rintro ⟨p', hparts', hmeant⟩
    rw [hparts] at hparts'
    cases hparts'
    exact congrArg some (hexact.mpr hmeant).symm

theorem PartitionTool.bytes_iff_none (t : PartitionTool) (size : String) (b : ℤ) (hparts : t.parts size = none) :
    t.bytes size = some b ↔ t.SentAsMeant size := by
  rw [PartitionTool.bytes, hparts]
  constructor
  · intro hbytes
    cases hbytes
  · rintro ⟨p, hsome, -⟩
    rw [hparts] at hsome
    cases hsome

/-! ### What is sent -/

/-- Of the capacities, the one of the last size is left. -/
theorem doSetPartition_size (args : List String) (req req' : SetPartitionReq) (last : Option String) (size : String)
    (h : doSetPartitionArgs args req = some req') (hsize : nextVolatile args last = some size)
    (hlast : ∀ v, last = some v → parseSizeWithUnit v = some req.volatileCapacity) :
    parseSizeWithUnit size = some req'.volatileCapacity := by
  fun_induction doSetPartitionArgs args req generalizing last with
  | case1 v rest req hbad => cases h
  | case2 v rest req capacity hgood ih =>
    rw [nextVolatile, if_pos rfl] at hsize
    exact ih (some v) h hsize fun w hw => Option.some.inj hw ▸ hgood
  | case3 v rest req hne ih =>
    rw [nextVolatile, if_neg hne, if_pos rfl] at hsize
    exact ih last h hsize hlast
  | case4 opt v rest req hsz hfl ih =>
    rw [nextVolatile, if_neg hsz, if_neg hfl] at hsize
    exact ih last h hsize hlast
  | case5 req args hshort =>
    unfold nextVolatile at hsize
    split at hsize
    · exact absurd rfl (hshort _ _ _)
    · exact Option.some.inj h ▸ hlast size hsize

theorem setPartitionOptions_size (args : List String) (p p' : SetPartitionParams) (last : Option String) (size : String)
    (h : setPartitionOptions args p = some p') (hsize : nextVolatile args last = some size)
    (hlast : ∀ v, last = some v →
      strtoul v % capUnitMib = 0 ∧ p.volatileCapacity = some (toU64 (strtoul v / capUnitMib))) :
    strtoul size % capUnitMib = 0 ∧ p'.volatileCapacity = some (toU64 (strtoul size / capUnitMib)) := by
  fun_induction setPartitionOptions args p generalizing last with
  | case1 p => exact Option.some.inj h ▸ hlast size hsize
  | case2 p => exact Option.some.inj h ▸ hlast size hsize
  | case3 opt p hne => cases h
  | case4 v rest p hbad => cases h
  | case5 v rest p hgood ih =>
    rw [nextVolatile, if_pos rfl] at hsize
    exact ih (some v) h hsize fun w hw => Option.some.inj hw ▸ ⟨Decidable.not_not.mp hgood, rfl⟩
  | case6 v rest p hbad hne => cases h
  | case7 v rest p hgood hne ih =>
    rw [nextVolatile, if_neg hne, if_pos rfl] at hsize
    exact ih last h hsize hlast
  | case8 v rest p hsz hfl ih =>
    rw [nextVolatile, if_neg hsz, if_neg hfl] at hsize
    exact ih last h hsize hlast
  | case9 opt v rest p hsz hfl hbp => cases h

/-- The bytes of a unit. -/
def sizeUnits : List ℕ := [1, 1024, 1048576, 1073741824]

theorem unitOf_mem (c : Char) (u : ℕ) (h : unitOf c = some u) : u ∈ sizeUnits := by
  unfold unitOf at h
  split_ifs at h
  · exact Option.some.inj h ▸ (by decide : 1024 ∈ sizeUnits)
  · exact Option.some.inj h ▸ (by decide : 1024 * 1024 ∈ sizeUnits)
  · exact Option.some.inj h ▸ (by decide : 1024 * 1024 * 1024 ∈ sizeUnits)

/- A number and what is left of it modulo 2^64 differ by a multiple of 2^64, and
2^28 - 1 has no factor in common with it. -/
theorem scaled_mod_iff (b : ℕ) : b % 2 ^ 64 * 2 ^ 28 = b ↔ b = 0 := by
  constructor
  · intro h
    have hsplit : 2 ^ 64 * (b / 2 ^ 64) + b % 2 ^ 64 = b := Nat.div_add_mod b (2 ^ 64)
    have hscaled : (2 ^ 28 - 1) * (b % 2 ^ 64) = 2 ^ 64 * (b / 2 ^ 64) := by omega
    have hcoprime : Nat.Coprime (2 ^ 64) (2 ^ 28 - 1) := by decide
    have hdvd : 2 ^ 64 ∣ b % 2 ^ 64 := hcoprime.dvd_of_dvd_mul_left ⟨b / 2 ^ 64, hscaled⟩
    have hzero : b % 2 ^ 64 = 0 := Nat.eq_zero_of_dvd_of_lt hdvd (Nat.mod_lt b (by norm_num))
    rw [hzero, Nat.zero_mul] at h
    exact h.symm
  · rintro rfl
    rfl

theorem largest_scaled : ∀ u ∈ sizeUnits, ulongMax * u % 2 ^ 64 = 2 ^ 64 - u := by decide

theorem sizeUnits_ne_zero : ∀ u ∈ sizeUnits, u ≠ 0 := by decide

theorem bytes_sent_iff (neg : Bool) (n u : ℕ) (hu : u ∈ sizeUnits) :
    (((signedValue neg n * u % 2 ^ 64 * 2 ^ 28 : ℕ) : ℤ) = signedBytes (neg, n, u)) ↔
      (n = 0 ∨ neg = false ∧ 2 ^ 64 ≤ n ∧ n * u = (2 ^ 64 - u) * 2 ^ 28) := by
  have hupos := sizeUnits_ne_zero u hu
  have hmax : ulongMax = 2 ^ 64 - 1 := rfl
  cases neg with
  | true =>
    rw [signedBytes_neg]
    constructor
    · intro h
      have hzero : n * u = 0 := by omega
      exact .inl ((Nat.mul_eq_zero.mp hzero).resolve_right hupos)
    · rintro (rfl | ⟨hfalse, -, -⟩)
      · rw [Nat.zero_mul]
        simp [signedValue]
      · cases hfalse
  | false =>
    rw [signedBytes_pos, Nat.cast_inj]
    by_cases hbig : ulongMax < n
    · have hvalue : signedValue false n = ulongMax := if_pos hbig
      rw [hvalue, largest_scaled u hu]
      constructor
      · intro h
        exact .inr ⟨rfl, by omega, h.symm⟩
      · rintro (rfl | ⟨-, -, h⟩)
        · cases hbig
        · exact h.symm
    · have hvalue : signedValue false n = n := if_neg hbig
      rw [hvalue, scaled_mod_iff]
      constructor
      · intro h
        exact .inl ((Nat.mul_eq_zero.mp h).resolve_right hupos)
      · rintro (rfl | ⟨-, hge, -⟩)
        · exact Nat.zero_mul u
        · omega

theorem parseSizeWithUnit_parts (size : String) (capacity : U 64) (h : parseSizeWithUnit size = some capacity) :
    ∃ neg n u, PartitionTool.mctpCci.parts size = some (neg, n, u) ∧
      u ∈ sizeUnits ∧ capacity.val = signedValue neg n * u % 2 ^ 64 := by
  unfold parseSizeWithUnit at h
  split at h
  · cases h
  · rename_i hnumber
    rw [strtoulEnd_eq] at h hnumber
    cases hn : numeral size with
    | none =>
      rw [hn] at hnumber
      exact absurd (.inr rfl) hnumber
    | some m =>
      obtain ⟨neg, n, rest⟩ := m
      rw [hn] at h
      cases rest with
      | nil =>
        refine ⟨neg, n, 1, ?_, by decide, ?_⟩
        · rw [PartitionTool.parts, hn]
        · rw [← Option.some.inj h, Nat.mul_one]
          rfl
      | cons c more =>
        cases more with
        | nil =>
          obtain ⟨u, hu, hcapacity⟩ := Option.map_eq_some_iff.mp h
          refine ⟨neg, n, u, ?_, unitOf_mem c u hu, ?_⟩
          · rw [PartitionTool.parts, hn]
            exact congrArg (Option.map _) hu
          · rw [← hcapacity]
            rfl
        | cons c' more => cases h

theorem mctp_size_iff (size : String) (capacity : U 64) (h : parseSizeWithUnit size = some capacity) :
    PartitionTool.mctpCci.bytes size = some ((capacity.val * 2 ^ 28 : ℕ) : ℤ) ↔
      PartitionTool.mctpCci.SentAsMeant size := by
  obtain ⟨neg, n, u, hparts, hu, hcapacity⟩ := parseSizeWithUnit_parts size capacity h
  rw [hcapacity]
  exact PartitionTool.bytes_iff .mctpCci size (neg, n, u) _ hparts (bytes_sent_iff neg n u hu)

/- 2^64 - 1 is not a multiple of 256, so a number out of range is rejected. -/
theorem mib_sent_iff (neg : Bool) (n : ℕ) (h : signedValue neg n % capUnitMib = 0) :
    ((signedValue neg n / capUnitMib * 2 ^ 28 : ℕ) : ℤ) = signedBytes (neg, n, 1024 * 1024) ↔
      (neg = true → n = 0) := by
  by_cases hbig : ulongMax < n
  · have hvalue : signedValue neg n = ulongMax := if_pos hbig
    rw [hvalue] at h
    exact absurd h (by decide)
  · cases neg with
    | true =>
      rw [signedBytes_neg]
      constructor
      · intro hsent _
        have hzero : n * (1024 * 1024) = 0 := by omega
        exact (Nat.mul_eq_zero.mp hzero).resolve_right (by decide)
      · intro hzero
        rw [hzero rfl]
        rfl
    | false =>
      have hvalue : signedValue false n = n := if_neg hbig
      rw [hvalue] at h
      rw [hvalue, signedBytes_pos, Nat.cast_inj]
      constructor
      · intro _ hfalse
        cases hfalse
      · intro _
        obtain ⟨k, rfl⟩ : capUnitMib ∣ n := Nat.dvd_of_mod_eq_zero h
        have hunit : 2 ^ 28 = capUnitMib * (1024 * 1024) := by decide
        rw [Nat.mul_div_cancel_left k (by decide), Nat.mul_right_comm, ← hunit, Nat.mul_comm]

theorem mbcci_size_iff (size : String) (h : strtoul size % capUnitMib = 0) :
    PartitionTool.mbcciSfx.bytes size = some ((strtoul size / capUnitMib * 2 ^ 28 : ℕ) : ℤ) ↔
      PartitionTool.mbcciSfx.SentAsMeant size := by
  cases hn : numeral size with
  | none => exact PartitionTool.bytes_iff_none .mbcciSfx size _ (by rw [PartitionTool.parts, hn])
  | some m =>
    obtain ⟨neg, n, rest⟩ := m
    cases rest with
    | cons c more => exact PartitionTool.bytes_iff_none .mbcciSfx size _ (by rw [PartitionTool.parts, hn])
    | nil =>
      have hvalue := strtoul_of_numeral size neg n [] hn
      have hparts : PartitionTool.mbcciSfx.parts size = some (neg, n, 1024 * 1024) := by rw [PartitionTool.parts, hn]
      rw [hvalue] at h
      rw [hvalue]
      exact PartitionTool.bytes_iff .mbcciSfx size _ _ hparts (mib_sent_iff neg n h)

theorem toU64_units (size : String) : (toU64 (strtoul size / capUnitMib)).val = strtoul size / capUnitMib := by
  have hle : strtoul size ≤ ulongMax := strtoul_le size
  exact Nat.mod_eq_of_lt (lt_of_le_of_lt (Nat.div_le_self _ _) (lt_of_le_of_lt hle (by decide)))

theorem setPartitionInfo_wire (o : ByteOrder) (req : SetPartitionReq) (pl : Bytes)
    (h : (memdevSetPartitionInfo req.volatileCapacity req.flags).payload o = some pl) :
    leVal (slice pl 0 8) = req.volatileCapacity.val := by
  have hpl : putLe o 8 req.volatileCapacity ++ [req.flags] = pl := Option.some.inj h
  rw [← hpl, slice_append _ _ _ _ (by rw [putLe_length]), slice_self _ _ (putLe_length o 8 _), putLe_eq,
    leVal_leBytes_of_lt 8 _ req.volatileCapacity.isLt]

theorem PartitionTool.request_size_iff (t : PartitionTool) (args : List String) (size : String) (req : SetPartitionReq)
    (hsize : nextVolatile args none = some size) (hreq : t.request args = some req) :
    t.bytes size = some ((req.volatileCapacity.val * 2 ^ 28 : ℕ) : ℤ) ↔ t.SentAsMeant size := by
  cases t with
  | mctpCci =>
    exact mctp_size_iff size _ (doSetPartition_size args ⟨0, 0⟩ req none size hreq hsize fun v hv => nomatch hv)
  | mbcciSfx =>
    obtain ⟨p, hp, hmap⟩ := Option.bind_eq_some_iff.mp hreq
    obtain ⟨capacity, hcapacity, hfields⟩ := Option.map_eq_some_iff.mp hmap
    obtain ⟨hmultiple, hlast⟩ := setPartitionOptions_size args ⟨none, 0⟩ p none size hp hsize fun v hv => nomatch hv
    have hunits : req.volatileCapacity = toU64 (strtoul size / capUnitMib) := by
      rw [← hfields]
      exact Option.some.inj (hcapacity.symm.trans hlast)
    rw [hunits, toU64_units]
    exact mbcci_size_iff size hmultiple

theorem partition_size_iff (t : PartitionTool) (o : ByteOrder) (args : List String) (size : String)
    (req : SetPartitionReq) (pl : Bytes) (hsize : nextVolatile args none = some size)
    (hreq : t.request args = some req)
    (hpl : (memdevSetPartitionInfo req.volatileCapacity req.flags).payload o = some pl) :
    (t.bytes size = some ((leVal (slice pl 0 8) * 2 ^ 28 : ℕ) : ℤ) ∧ t.Fits size) ↔ t.SentAsMeant size := by
  have hiff := t.request_size_iff args size req hsize hreq
  rw [setPartitionInfo_wire o req pl hpl]
  constructor
  · rintro ⟨hbytes, -⟩
    exact hiff.mp hbytes
  · intro hmeant
    exact ⟨hiff.mpr hmeant, req.volatileCapacity, hiff.mpr hmeant⟩

theorem twoUnits_sent : PartitionTool.mbcciSfx.bytes "512" = some (2 ^ 29) ∧
    (PartitionTool.mbcciSfx.bytes "512" =
        some ((leVal (slice (leBytes 8 2 ++ [0]) 0 8) * 2 ^ 28 : ℕ) : ℤ) ∧ PartitionTool.mbcciSfx.Fits "512") :=
  ⟨by decide, (partition_size_iff .mbcciSfx .little ["--next-volatile", "512"] "512" ⟨2, 0⟩ _ (by decide) (by decide)
    (by decide)).mpr ⟨(false, 512, 1024 * 1024), by decide, fun h => nomatch h⟩⟩

/- The size 256M is sent as 2^28 units of 256 MiB and the size 1 as one; -256 MiB is sent
as 2^56 - 1 of them. -/
theorem bytes_sent_for_units : PartitionTool.mctpCci.request ["--next-volatile", "256M"] = some ⟨268435456, 0⟩ ∧
    PartitionTool.mctpCci.bytes "256M" = some (2 ^ 28) ∧
    PartitionTool.mctpCci.request ["--next-volatile", "1"] = some ⟨1, 0⟩ ∧
    PartitionTool.mctpCci.bytes "1" = some 1 ∧
    PartitionTool.mbcciSfx.request ["--next-volatile", "-256"] = some ⟨72057594037927935, 0⟩ ∧
    PartitionTool.mbcciSfx.bytes "-256" = some (-(2 ^ 28)) ∧
    (memdevSetPartitionInfo 268435456 0).payload .little = some (leBytes 8 (2 ^ 28) ++ [0]) := by
  decide

end LibCxlmi.Tools
