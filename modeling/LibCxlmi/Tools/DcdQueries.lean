import LibCxlmi.Commands.FmapiDcd
import LibCxlmi.Contract.Decoders
import LibCxlmi.Tools.Args
import LibCxlmi.Tools.Calls

/-!
# Dynamic capacity queries on both paths (cmd_sdb_tunnel.c:6058-6272, commands.c:3304-3421)

fm-dcd-get-info and fm-dcd-get-region-config lay the library's structures over the
inner reply and print the members as they are. The library multiplies capacities by
256 MB, and looks for the counters right behind the regions that were returned.
-/

namespace LibCxlmi.Tools
open LibCxlmi.Word LibCxlmi.Text LibCxlmi.Commands LibCxlmi.Dialogue

inductive DcdQuery : Type → Type
  | getInfo : DcdQuery GetDcdInfoRsp
  | getRegionConfig : DcdQuery GetHostDcRegionConfigRsp

variable {α : Type}

/-! ### What is printed -/

def dcdPrintInfo (o : ByteOrder) (pl : Bytes) : GetDcdInfoRsp :=
  ⟨byteAt pl 0, byteAt pl 1, getLe o 2 pl 4, getLe o 2 pl 8, byteAt pl 10, getLe o 8 pl 12,
    (List.range 8).map fun i => getLe o 8 pl (20 + 8 * i)⟩

def dcdPrintRegion (o : ByteOrder) (r : Bytes) : HostDcRegion :=
  ⟨getLe o 8 r 0, getLe o 8 r 8, getLe o 8 r 16, getLe o 8 r 24, byteAt r 32, byteAt r 36⟩

/- `region_configs` has eight elements, and the counters are the members behind it. -/
def dcdPrintRegionConfigs (o : ByteOrder) (pl : Bytes) : GetHostDcRegionConfigRsp :=
  ⟨getLe o 2 pl 0, byteAt pl 2, byteAt pl 3,
    (List.range (min (byteAt pl 3).val 8)).map fun i => dcdPrintRegion o (slice pl (4 + i * 40) 40),
    dcCounters o (slice pl 324 16)⟩

def DcdQuery.printed (o : ByteOrder) : DcdQuery α → Bytes → α
  | .getInfo => dcdPrintInfo o
  | .getRegionConfig => dcdPrintRegionConfigs o

def DcdQuery.rspSz : DcdQuery α → ℕ
  | .getInfo => 84
  | .getRegionConfig => 340

/-! ### The subcommands -/

def sdbDcdParseU64 (s : String) : Option ℕ :=
  if (strtoulEnd s).2 = s.toList ∨ (strtoulEnd s).2 ≠ [] then none else some (strtoul s)

structure DcdQueryArgs where
  port : Byte
  hostId : U 16
  regionCnt : Byte
  startRegionId : Byte
  deriving DecidableEq, Repr

def dcdGetInfoOption (opt v : String) (a : DcdQueryArgs) : Option DcdQueryArgs :=
  if opt = "--port" then (parsePortId v).map fun id => { a with port := id } else none

def dcdGetRegionConfigOption (opt v : String) (a : DcdQueryArgs) : Option DcdQueryArgs :=
  if opt = "--port" then (parsePortId v).map fun id => { a with port := id }
  else if opt = "--host-id" then (sdbDcdParseU64 v).map fun n => { a with hostId := Fin.ofNat (2 ^ 16) n }
  else if opt = "--region-cnt" then (sdbDcdParseU64 v).map fun n => { a with regionCnt := Fin.ofNat 256 n }
  else if opt = "--start-region-id" then (sdbDcdParseU64 v).map fun n => { a with startRegionId := Fin.ofNat 256 n }
  else none

def DcdQuery.option : DcdQuery α → String → String → DcdQueryArgs → Option DcdQueryArgs
  | .getInfo => dcdGetInfoOption
  | .getRegionConfig => dcdGetRegionConfigOption

/- A request without a payload leaves `pl_length` zero. -/
def DcdQuery.message (o : ByteOrder) (a : DcdQueryArgs) : DcdQuery α → Message
  | .getInfo => .sdb a.port 0x00 0x56 0 []
  | .getRegionConfig => .sdb a.port 0x01 0x56 2 (putLe o 2 a.hostId ++ [a.regionCnt, a.startRegionId])

/-- The return value, and what was printed. -/
def DcdQuery.subcommand (o : ByteOrder) (k : DcdQuery α) (args : List String) : Tool (ℤ × Option α) :=
  match parseOptions k.option args ⟨0, 0, 8, 0⟩ with
  | none => return (-1, none)
  | some a => do
    let (rc, rsp) ← vendorSpecific (k.message o a) (16 + k.rspSz)
    if rc ≠ 0 then return (rc, none)
    else if innerReturnCode o rsp ≠ 0 then return ((innerReturnCode o rsp : ℤ), none)
    else return (0, some (k.printed o (Cci.payload (rsp.drop 4))))

def DcdQuery.library (a : DcdQueryArgs) : DcdQuery α → CciCommand α
  | .getInfo => fmapiGetDcdInfo
  | .getRegionConfig => fmapiGetDcRegConfig a.hostId a.regionCnt a.startRegionId

/-! ### Printed and decoded values -/

/- The two differ by a multiple of 2^28 - 1, which is odd. -/
theorem scaled_eq_self_iff (v : ℕ) (h : v < 2 ^ 64) : scaled v = v ↔ v = 0 := by
  unfold scaled
  constructor
  · intro hv
    have hdvd : 2 ^ 64 ∣ v * (256 * 1024 * 1024) - v * (256 * 1024 * 1024) % 2 ^ 64 := Nat.dvd_sub_mod _
    rw [hv, ← Nat.mul_sub_one] at hdvd
    have hcoprime : Nat.Coprime (2 ^ 64) (256 * 1024 * 1024 - 1) := by decide
    exact Nat.eq_zero_of_dvd_of_lt (hcoprime.dvd_of_dvd_mul_right hdvd) h
  · rintro rfl
    rfl

theorem leVal_inj (a b : Bytes) (hlen : a.length = b.length) (h : leVal a = leVal b) : a = b := by
  rw [← leBytes_leVal a, ← leBytes_leVal b, hlen, h]

theorem getLe_lt (o : ByteOrder) (m : Bytes) (i : ℕ) : getLe o 8 m i < 2 ^ 64 := by
  have hlt := leVal_lt (slice m i 8)
  rw [slice_length] at hlt
  rw [getLe_eq]
  exact hlt

theorem info_alike_iff (o : ByteOrder) (m : Bytes) :
    fmapiGetDcdInfo.decode o m = some (dcdPrintInfo o (Cci.payload m)) ↔ getLe o 8 (Cci.payload m) 12 = 0 := by
  have hscaled := scaled_eq_self_iff _ (getLe_lt o (Cci.payload m) 12)
  constructor
  · intro h
    exact hscaled.mp (congrArg GetDcdInfoRsp.totalDynamicCapacity (Option.some.inj h))
  · intro h
    unfold dcdPrintInfo
    rw [← hscaled.mpr h]
    rfl

theorem region_alike_iff (o : ByteOrder) (r : Bytes) : hostDcRegion o r = dcdPrintRegion o r ↔ getLe o 8 r 8 = 0 := by
  have hscaled := scaled_eq_self_iff _ (getLe_lt o r 8)
  constructor
  · intro h
    exact hscaled.mp (congrArg HostDcRegion.decodeLen h)
  · intro h
    unfold hostDcRegion dcdPrintRegion
    rw [hscaled.mpr h]

theorem counters_alike_iff (o : ByteOrder) (r r' : Bytes) (hr : r.length = 16) (hr' : r'.length = 16) :
    dcCounters o r = dcCounters o r' ↔ r = r' := by
  constructor
  · intro h
    obtain ⟨h₀, h₄, h₈, h₁₂⟩ := DcCounters.mk.inj h
    have hword : ∀ i, getLe o 4 r i = getLe o 4 r' i → slice r i 4 = slice r' i 4 := by
      intro i hi
      rw [getLe_eq, getLe_eq] at hi
      exact leVal_inj _ _ (by rw [slice_length, slice_length]) hi
    have hcut : ∀ m : Bytes, m.length = 16 →
        m = slice m 0 4 ++ slice m 4 4 ++ slice m 8 4 ++ slice m 12 4 := by
      intro m hm
      rw [← slice_add m 0 4 4, ← slice_add m 0 8 4, ← slice_add m 0 12 4, slice_self m 16 hm]
    rw [hcut r hr, hcut r' hr', hword 0 h₀, hword 4 h₄, hword 8 h₈, hword 12 h₁₂]
  · rintro rfl
    rfl

/-- The regions fit, no decode length is scaled, and the library finds its counters in
the bytes of the members. -/
structure RegionsAlike (o : ByteOrder) (pl : Bytes) : Prop where
  returned : (byteAt pl 3).val ≤ 8
  unscaled : ∀ i < (byteAt pl 3).val, getLe o 8 pl (4 + i * 40 + 8) = 0
  counters : slice pl (4 + (byteAt pl 3).val * 40) 16 = slice pl 324 16

theorem regionsAndCounters_beyond {ρ : Type} (o : ByteOrder) (pl : Bytes) (off n : ℕ) (f : Bytes → ρ)
    (h : pl.length < off + n * 40 + 16) : regionsAndCounters o pl off n f = none := by
  unfold regionsAndCounters copyOut
  rw [if_neg (Nat.not_le.mpr h)]
  exact Option.bind_fun_none _

/-- Members that the library copies as they are do not tell the two apart. -/
theorem regionConfigs_inj (hostId : ℕ) (num ret : Byte) (rs rs' : List HostDcRegion) (cs cs' : DcCounters) :
    GetHostDcRegionConfigRsp.mk hostId num ret rs cs = ⟨hostId, num, ret, rs', cs'⟩ ↔ rs = rs' ∧ cs = cs' := by
  simp only [GetHostDcRegionConfigRsp.mk.injEq, true_and]

theorem regions_alike_iff (o : ByteOrder) (a : DcdQueryArgs) (m : Bytes) (h : (Cci.payload m).length = 340) :
    (fmapiGetDcRegConfig a.hostId a.regionCnt a.startRegionId).decode o m =
      some (dcdPrintRegionConfigs o (Cci.payload m)) ↔ RegionsAlike o (Cci.payload m) := by
  change (regionsAndCounters o (Cci.payload m) 4 (byteAt (Cci.payload m) 3).val (hostDcRegion o)).map _ = _ ↔ _
  generalize Cci.payload m = pl at h ⊢
  by_cases hn : (byteAt pl 3).val ≤ 8
  · rw [Contract.regionsAndCounters_of_le o pl 4 _ _ (by omega) (by omega), Option.map_some, Option.some_inj,
      dcdPrintRegionConfigs, Nat.min_eq_left hn, regionConfigs_inj, List.map_inj_left,
      counters_alike_iff o _ _ (slice_length _ _ _) (slice_length _ _ _)]
    have hregion : ∀ i, hostDcRegion o (slice pl (4 + i * 40) 40) = dcdPrintRegion o (slice pl (4 + i * 40) 40) ↔
        getLe o 8 pl (4 + i * 40 + 8) = 0 := by
      intro i
      rw [region_alike_iff, getLe_eq, getLe_eq, slice_slice pl (4 + i * 40) 40 8 8 (by decide)]
    constructor
    · rintro ⟨hrs, hcs⟩
      exact ⟨hn, fun i hi => (hregion i).mp (hrs i (List.mem_range.mpr hi)), hcs⟩
    · intro halike
      exact ⟨fun i hi => (hregion i).mpr (halike.unscaled i (List.mem_range.mp hi)), halike.counters⟩
  · rw [regionsAndCounters_beyond o pl 4 _ _ (by omega)]
    exact iff_of_false nofun fun halike => hn halike.returned

def DcdQuery.Alike (o : ByteOrder) : DcdQuery α → Bytes → Prop
  | .getInfo, pl => getLe o 8 pl 12 = 0
  | .getRegionConfig, pl => RegionsAlike o pl

theorem alike_iff (k : DcdQuery α) (o : ByteOrder) (a : DcdQueryArgs) (m : Bytes) (h : m.length = 12 + k.rspSz) :
    (k.library a).decode o m = some (k.printed o (Cci.payload m)) ↔ k.Alike o (Cci.payload m) := by
  cases k with
  | getInfo => exact info_alike_iff o m
  | getRegionConfig =>
    refine regions_alike_iff o a m ?_
    rw [Cci.payload, List.length_drop, h]
    rfl

/-! ### Runs -/

/-- A run that prints has sent one request and prints from its reply. -/
structure DcdQuery.PrintedFrom (k : DcdQuery α) (o : ByteOrder) (v : α) (x : VendorReply) : Prop where
  outer : x.rc = 0
  inner : innerReturnCode o (x.buffer (16 + k.rspSz)) = 0
  value : v = k.printed o (Cci.payload ((x.buffer (16 + k.rspSz)).drop 4))

theorem keeps_dcdQuery (k : DcdQuery α) (o : ByteOrder) (args : List String) :
    Keeps anyContract (k.subcommand o args)
      (fun r ys => ∀ v, r.2 = some v → ∃ a x, ys = [(k.message o a, x)] ∧ k.PrintedFrom o v x) [] := by
  unfold DcdQuery.subcommand
  cases parseOptions k.option args ⟨0, 0, 8, 0⟩ with
  | none => exact keeps_ret anyContract _ _ [] nofun
  | some a =>
    refine keeps_bind anyContract _ _ _ [] (keeps_vendorSpecific anyContract _ _ _ [] trivial fun x _ => ?_)
    dsimp only
    split_ifs with hrc hinner
    · exact keeps_ret anyContract _ _ _ nofun
    · exact keeps_ret anyContract _ _ _ nofun
    · refine keeps_ret anyContract _ _ _ fun v hv => ⟨a, x, rfl, not_not.mp hrc, not_not.mp hinner, ?_⟩
      exact (Option.some.inj hv).symm

/-- What is printed is what the library decodes the same reply to exactly if the
capacities in it are zero and, of a region configuration, the counters behind the
returned regions are those at the end of the structure. -/
theorem dcd_queries_alike_iff (k : DcdQuery α) (o : ByteOrder) :
    (∀ args t rc v, (k.subcommand o args).Runs t (rc, some v) →
      ∃ a x, vendorCalls t = [(k.message o a, x)] ∧ k.PrintedFrom o v x) ∧
    ∀ (a : DcdQueryArgs) (m : Bytes), m.length = 12 + k.rspSz →
      ((k.library a).decode o m = some (k.printed o (Cci.payload m)) ↔ k.Alike o (Cci.payload m)) := by
  refine ⟨fun args t rc v hrun => ?_, fun a m h => alike_iff k o a m h⟩
  exact keeps_any _ _ t _ (keeps_dcdQuery k o args) hrun v rfl

/- 256 MB in all; and one region, with the counters right behind it. -/
def oneUnitReply : Bytes := zeros 24 ++ [1] ++ zeros 71
def oneRegionReply : Bytes := zeros 15 ++ [1] ++ zeros 40 ++ [7] ++ zeros 295

theorem short_replies_differ :
    (∃ t, (DcdQuery.getInfo.subcommand .little []).Runs t (0, some (dcdPrintInfo .little (Cci.payload oneUnitReply)))) ∧
      (dcdPrintInfo .little (Cci.payload oneUnitReply)).totalDynamicCapacity = 1 ∧
      (fmapiGetDcdInfo.decode .little oneUnitReply).map GetDcdInfoRsp.totalDynamicCapacity = some 268435456 ∧
      (∃ t, (DcdQuery.getRegionConfig.subcommand .little []).Runs t
        (0, some (dcdPrintRegionConfigs .little (Cci.payload oneRegionReply)))) ∧
      (dcdPrintRegionConfigs .little (Cci.payload oneRegionReply)).counters = ⟨0, 0, 0, 0⟩ ∧
      ((fmapiGetDcRegConfig 0 8 0).decode .little oneRegionReply).map GetHostDcRegionConfigRsp.counters =
        some ⟨7, 0, 0, 0⟩ := by
  refine ⟨⟨[⟨.vendor (.sdb 0 0x00 0x56 0 []) 100, ⟨0, zeros 4 ++ oneUnitReply⟩⟩], _, [], rfl, rfl, ?_⟩, ?_, ?_,
    ⟨[⟨.vendor (.sdb 0 0x01 0x56 2 [0, 0, 8, 0]) 356, ⟨0, zeros 4 ++ oneRegionReply⟩⟩], _, [], rfl, rfl, ?_⟩, ?_, ?_⟩
  all_goals decide +kernel

end LibCxlmi.Tools
