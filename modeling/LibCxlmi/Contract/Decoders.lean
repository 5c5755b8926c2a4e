import LibCxlmi.Commands.Wire

/-!
# The decoders of responses

For each response that is decoded member by member: how many bytes the counts in
the payload call for (`wireSize`), and that the decoded structure has the values
of the wire members, record by record.
-/

namespace LibCxlmi.Contract
open LibCxlmi.Word LibCxlmi.Cci LibCxlmi.Transport LibCxlmi.Commands Member

variable {α β : Type}

def members : Command α → α → List Member
  | .memdevIdentify, v => v.members
  | .getEventRecords _, v => v.members
  | .getSupportedFeatures _ _, v => v.members
  | .getPoisonList _ _, v => v.members
  | .memdevGetScanMediaResults, v => v.members
  | .memdevGetDcConfig _ _, v => v.members
  | .fmapiGetDcRegConfig _ _ _, v => v.members
  | .memdevGetDcExtentList _ _, v => v.members
  | .fmapiGetDcRegionExtList _, v => v.members
  | .fmapiDcListTags _ _, v => v.members
  | .fmapiGetLdAllocations _ _, v => v.members
  | .fmapiGetPhysPortState _, v => v.members
  | _, _ => []

def wireSize : Command α → Bytes → Option ℕ
  | .memdevIdentify, _ => some 0x45
  | .getEventRecords _, pl => some (32 + leVal (slice pl 20 2) * 128)
  | .getSupportedFeatures _ _, pl => some (8 + leVal (slice pl 0 2) * 48)
  | .getPoisonList _ _, pl => some (32 + leVal (slice pl 10 2) * 16)
  | .memdevGetScanMediaResults, pl => some (32 + leVal (slice pl 18 2) * 16)
  | .memdevGetDcConfig _ _, pl => some (8 + byteAt pl 1 * 40 + 16)
  | .fmapiGetDcRegConfig _ _ _, pl => some (4 + byteAt pl 3 * 40 + 16)
  | .memdevGetDcExtentList _ _, pl => some (16 + leVal (slice pl 0 4) * 40)
  | .fmapiGetDcRegionExtList _, pl => some (24 + leVal (slice pl 8 4) * 40)
  | .fmapiDcListTags _ _, pl => some (16 + leVal (slice pl 8 4) * 84)
  | .fmapiGetLdAllocations _ _, pl => some (4 + byteAt pl 3 * 16)
  | .fmapiGetPhysPortState _, pl => some (4 + byteAt pl 0 * 16)
  | _, _ => none

/- Where a decoder loses something: the count of features goes through a 32-bit
conversion, the flags of a region are not copied, and the extents and tags that
are only limited by the caller's count are counted with an `int`. -/
def Carried (o : ByteOrder) : Command α → Bytes → Prop
  | .getSupportedFeatures _ _, pl => o = .little ∨ leVal (slice pl 0 2) = 0
  | .memdevGetDcConfig _ _, pl => ∀ k < (byteAt pl 1).val, byteAt pl (8 + k * 40 + 36) = 0
  | .fmapiGetDcRegionExtList _, pl => leVal (slice pl 8 4) < 2 ^ 31
  | .fmapiDcListTags _ _, pl => leVal (slice pl 8 4) < 2 ^ 31
  | _, _ => True

/-! ### Arrays of records -/

theorem records_of_le (p : Bytes) (off sz n : ℕ) (dec : Bytes → β) (h : off + n * sz ≤ p.length) (hn : n < 2 ^ 31) :
    records p off sz n dec = some ((List.range n).map fun i => dec (slice p (off + i * sz) sz)) :=
  if_pos ⟨h, hn⟩

theorem records_of_ge (p : Bytes) (off sz n : ℕ) (dec : Bytes → β) (hn : ¬n < 2 ^ 31) :
    records p off sz n dec = none :=
  if_neg fun h => hn h.2

/-- A fixed part of `off` bytes and `n` records of `sz` bytes behind it. -/
theorem laidOut_list (hdr : List Member) (f : β → List Member) (dec : Bytes → β) (p : Bytes) (off sz n : ℕ)
    (hoff : extent hdr = off) (hsz : ∀ x, extent (f x) = sz) :
    extent (hdr ++ ((List.range n).map fun k => dec (slice p (off + k * sz) sz)).flatMap f) = off + n * sz ∧
      (LaidOut (hdr ++ ((List.range n).map fun k => dec (slice p (off + k * sz) sz)).flatMap f) p 0 ↔
        LaidOut hdr p 0 ∧ ∀ k < n, LaidOut (f (dec (slice p (off + k * sz) sz))) (slice p (off + k * sz) sz) 0) := by
  constructor
  · rw [extent_append, hoff, extent_flatMap _ f sz hsz, List.length_map, List.length_range]
  · rw [laidOut_append, hoff, Nat.zero_add, laidOut_records f dec p off sz n hsz]

/- What the decoder of a response makes of a buffer whose counts call for `n` bytes. -/
def Decodes (c : Command α) (o : ByteOrder) (rsp : Bytes) (n : ℕ) : Prop :=
  (∃ v, c.spec.decode o rsp = some v ∧ extent (members c v) = n ∧ LaidOut (members c v) (payload rsp) 0) ↔
    Carried o c (payload rsp)

theorem decodes_value (c : Command α) (o : ByteOrder) (rsp : Bytes) (n : ℕ) (v : α)
    (hv : c.spec.decode o rsp = some v)
    (h : extent (members c v) = n ∧ LaidOut (members c v) (payload rsp) 0 ↔ Carried o c (payload rsp)) :
    Decodes c o rsp n := by
  rw [Decodes, hv, ← h]
  simp only [Option.some.injEq, exists_eq_left']

theorem decodes_none (c : Command α) (o : ByteOrder) (rsp : Bytes) (n : ℕ) (hv : c.spec.decode o rsp = none)
    (h : ¬Carried o c (payload rsp)) : Decodes c o rsp n := by
  refine iff_of_false ?_ h
  rintro ⟨v, hsome, -⟩
  rw [hv] at hsome
  cases hsome

theorem decodes_list (c : Command α) (o : ByteOrder) (rsp : Bytes) (v : α) (hdr : List Member) (f : β → List Member)
    (dec : Bytes → β) (off sz n : ℕ) (hv : c.spec.decode o rsp = some v)
    (hmem : members c v = hdr ++ ((List.range n).map fun k => dec (slice (payload rsp) (off + k * sz) sz)).flatMap f)
    (hoff : extent hdr = off) (hsz : ∀ x, extent (f x) = sz) (hhdr : LaidOut hdr (payload rsp) 0)
    (hdec : ∀ r, LaidOut (f (dec r)) r 0) (hcarried : Carried o c (payload rsp)) :
    Decodes c o rsp (off + n * sz) := by
  obtain ⟨hext, hlaid⟩ := laidOut_list hdr f dec (payload rsp) off sz n hoff hsz
  refine decodes_value c o rsp _ v hv (iff_of_true ⟨?_, ?_⟩ hcarried)
  · rw [hmem, hext]
  · rw [hmem, hlaid]
    exact ⟨hhdr, fun _ _ => hdec _⟩

section Decoders

variable (o : ByteOrder) (rsp : Bytes)

theorem decodes_identify : Decodes .memdevIdentify o rsp 0x45 := by
  refine decodes_value _ o rsp _ _ rfl (iff_of_true ⟨MemdevIdentifyRsp.members_extent _, ?_⟩ trivial)
  simp only [members, MemdevIdentifyRsp.members, LaidOut, le, raw, byte, getLe_eq, slice_one, Nat.reduceAdd, and_self]

theorem decodes_eventRecords (l : Byte) (h : 32 + leVal (slice (payload rsp) 20 2) * 128 ≤ (payload rsp).length) :
    Decodes (.getEventRecords l) o rsp (32 + leVal (slice (payload rsp) 20 2) * 128) := by
  have hcnt := tunnelLength_lt (payload rsp) 20
  have hrec := records_of_le (payload rsp) 32 128 _ (eventRecord o) h (by omega)
  apply decodes_list _ o rsp _ _ EventRecord.members (eventRecord o) 32 128 _
  case hv =>
    simp only [Command.spec, getEventRecords, request, getLe_eq, hrec]
    rfl
  case hmem => rfl
  case hhdr => simp only [LaidOut, le, byte, ignored, slice_one, Nat.reduceAdd, and_self]
  case hdec => exact eventRecord_laidOut o
  case hsz => exact EventRecord.members_extent
  case hcarried => trivial
  all_goals rfl

theorem clampCount_of_le (count : ℕ) (h : 32 + count * 16 ≤ plLength rsp) (hmax : plLength rsp ≤ 2048) :
    clampCount count rsp 32 16 maxPoisonRecords = count := by
  have hin : count ≤ recordsInRsp rsp 32 16 ∧ recordsInRsp rsp 32 16 ≤ 126 := by
    unfold recordsInRsp
    split_ifs with hgt
    · omega
    · omega
  have hcap : maxPoisonRecords = 126 := rfl
  rw [clampCount, hcap, Nat.mod_eq_of_lt (by omega)]
  omega

theorem decodes_poisonList (a l : U 64) (h : 32 + leVal (slice (payload rsp) 10 2) * 16 ≤ (payload rsp).length)
    (hclamp : clampCount (leVal (slice (payload rsp) 10 2)) rsp 32 16 maxPoisonRecords =
      leVal (slice (payload rsp) 10 2)) :
    Decodes (.getPoisonList a l) o rsp (32 + leVal (slice (payload rsp) 10 2) * 16) := by
  have hcnt := tunnelLength_lt (payload rsp) 10
  have hrec := records_of_le (payload rsp) 32 16 _ (mediaErrRecord o) h (by omega)
  apply decodes_list _ o rsp _ _ MediaErrRecord.members (mediaErrRecord o) 32 16 _
  case hv =>
    simp only [Command.spec, getPoisonList, getLe_eq, hclamp, hrec]
    rfl
  case hmem => rfl
  case hhdr => simp only [LaidOut, le, byte, ignored, slice_one, Nat.reduceAdd, and_self]
  case hdec => exact mediaErrRecord_laidOut o
  case hsz => exact fun _ => rfl
  case hcarried => trivial
  all_goals rfl

theorem decodes_scanMediaResults (h : 32 + leVal (slice (payload rsp) 18 2) * 16 ≤ (payload rsp).length)
    (hclamp : clampCount (leVal (slice (payload rsp) 18 2)) rsp 32 16 maxPoisonRecords =
      leVal (slice (payload rsp) 18 2)) :
    Decodes .memdevGetScanMediaResults o rsp (32 + leVal (slice (payload rsp) 18 2) * 16) := by
  have hcnt := tunnelLength_lt (payload rsp) 18
  have hrec := records_of_le (payload rsp) 32 16 _ (mediaErrRecord o) h (by omega)
  apply decodes_list _ o rsp _ _ MediaErrRecord.members (mediaErrRecord o) 32 16 _
  case hv =>
    simp only [Command.spec, memdevGetScanMediaResults, getLe_eq, hclamp, hrec]
    rfl
  case hmem => rfl
  case hhdr => simp only [LaidOut, le, byte, ignored, slice_one, Nat.reduceAdd, and_self]
  case hdec => exact mediaErrRecord_laidOut o
  case hsz => exact fun _ => rfl
  case hcarried => trivial
  all_goals rfl

theorem decodes_dcExtentList (n s : U 32) (hcnt : leVal (slice (payload rsp) 0 4) < 2 ^ 31)
    (h : 16 + leVal (slice (payload rsp) 0 4) * 40 ≤ (payload rsp).length) :
    Decodes (.memdevGetDcExtentList n s) o rsp (16 + leVal (slice (payload rsp) 0 4) * 40) := by
  have hrec := records_of_le (payload rsp) 16 40 _ (dcExtent o) h hcnt
  apply decodes_list _ o rsp _ _ DcExtent.members (dcExtent o) 16 40 _
  case hv =>
    simp only [Command.spec, memdevGetDcExtentList, request, getLe_eq, hrec]
    rfl
  case hmem => rfl
  case hhdr => simp only [LaidOut, le, ignored, Nat.reduceAdd, and_self]
  case hdec => exact dcExtent_laidOut o
  case hsz => exact fun _ => rfl
  case hcarried => trivial
  all_goals rfl

theorem decodes_dcRegionExtList (i : GetDcRegionExtListReq)
    (h : 24 + leVal (slice (payload rsp) 8 4) * 40 ≤ (payload rsp).length) :
    Decodes (.fmapiGetDcRegionExtList i) o rsp (24 + leVal (slice (payload rsp) 8 4) * 40) := by
  by_cases hcnt : leVal (slice (payload rsp) 8 4) < 2 ^ 31
  case neg =>
    refine decodes_none _ o rsp _ ?_ hcnt
    simp only [Command.spec, fmapiGetDcRegionExtList, getLe_eq, records_of_ge _ _ _ _ _ hcnt, Option.map_none]
  have hrec := records_of_le (payload rsp) 24 40 _ (dcExtent o) h hcnt
  apply decodes_list _ o rsp _ _ DcExtent.members (dcExtent o) 24 40 _
  case hv =>
    simp only [Command.spec, fmapiGetDcRegionExtList, getLe_eq, hrec]
    rfl
  case hmem => rfl
  case hhdr => simp only [LaidOut, le, ignored, Nat.reduceAdd, and_self]
  case hdec => exact dcExtent_laidOut o
  case hsz => exact fun _ => rfl
  case hcarried => exact hcnt
  all_goals rfl

theorem decodes_dcListTags (s n : U 32)
    (h : 16 + leVal (slice (payload rsp) 8 4) * 84 ≤ (payload rsp).length) :
    Decodes (.fmapiDcListTags s n) o rsp (16 + leVal (slice (payload rsp) 8 4) * 84) := by
  by_cases hcnt : leVal (slice (payload rsp) 8 4) < 2 ^ 31
  case neg =>
    refine decodes_none _ o rsp _ ?_ hcnt
    simp only [Command.spec, fmapiDcListTags, getLe_eq, records_of_ge _ _ _ _ _ hcnt, Option.map_none]
  have hrec := records_of_le (payload rsp) 16 84 _ tagInfo h hcnt
  apply decodes_list _ o rsp _ _ TagInfo.members tagInfo 16 84 _
  case hv =>
    simp only [Command.spec, fmapiDcListTags, getLe_eq, hrec]
    rfl
  case hmem => rfl
  case hhdr => simp only [LaidOut, le, byte, ignored, slice_one, Nat.reduceAdd, and_self]
  case hdec => exact tagInfo_laidOut
  case hsz => exact fun _ => rfl
  case hcarried => exact hcnt
  all_goals rfl

theorem decodes_ldAllocations (s n : Byte) (h : 4 + (byteAt (payload rsp) 3).val * 16 ≤ (payload rsp).length) :
    Decodes (.fmapiGetLdAllocations s n) o rsp (4 + byteAt (payload rsp) 3 * 16) := by
  have hrec := records_of_le (payload rsp) 4 16 _ (ldAllocation o) h (by omega)
  apply decodes_list _ o rsp _ _ LdAllocation.members (ldAllocation o) 4 16 _
  case hv =>
    simp only [Command.spec, fmapiGetLdAllocations, request, hrec]
    rfl
  case hmem => rfl
  case hhdr => simp only [LaidOut, byte, slice_one, Nat.reduceAdd, and_self]
  case hdec => exact ldAllocation_laidOut o
  case hsz => exact fun _ => rfl
  case hcarried => trivial
  all_goals rfl

theorem decodes_physPortState (i : GetPhysPortStateReq)
    (h : 4 + (byteAt (payload rsp) 0).val * 16 ≤ (payload rsp).length) :
    Decodes (.fmapiGetPhysPortState i) o rsp (4 + byteAt (payload rsp) 0 * 16) := by
  have hrec := records_of_le (payload rsp) 4 16 _ (portState o) h (by omega)
  apply decodes_list _ o rsp _ _ PortState.members (portState o) 4 16 _
  case hv =>
    simp only [Command.spec, fmapiGetPhysPortState, request, hrec]
    rfl
  case hmem => rfl
  case hhdr => simp only [LaidOut, byte, ignored, slice_one, Nat.reduceAdd, and_self]
  case hdec => exact portState_laidOut o
  case hsz => exact PortState.members_extent
  case hcarried => trivial
  all_goals rfl

theorem decodes_supportedFeatures (count : U 32) (s : U 16)
    (h : 8 + leVal (slice (payload rsp) 0 2) * 48 ≤ (payload rsp).length) :
    Decodes (.getSupportedFeatures count s) o rsp (8 + leVal (slice (payload rsp) 0 2) * 48) := by
  have hcnt := tunnelLength_lt (payload rsp) 0
  have hgood : numSupportedFeatureEntries o (payload rsp) = leVal (slice (payload rsp) 0 2) →
      (o = .little ∨ leVal (slice (payload rsp) 0 2) = 0) →
      Decodes (.getSupportedFeatures count s) o rsp (8 + leVal (slice (payload rsp) 0 2) * 48) := by
    intro hnum hcarried
    have hrec := records_of_le (payload rsp) 8 48 _ (supportedFeatureEntry o) h (by omega)
    apply decodes_list _ o rsp _ _ SupportedFeatureEntry.members (supportedFeatureEntry o) 8 48 _
    case hv =>
      simp only [Command.spec, getSupportedFeatures, request, getLe_eq, hnum, hrec]
      rfl
    case hmem => rfl
    case hhdr => simp only [LaidOut, le, ignored, Nat.reduceAdd, and_self]
    case hdec => exact supportedFeatureEntry_laidOut o
    case hsz => exact fun _ => rfl
    case hcarried => exact hcarried
    all_goals rfl
  cases o with
  | little => exact hgood (numSupportedFeatureEntries_little _) (Or.inl rfl)
  | big =>
    have hnum := numSupportedFeatureEntries_big (payload rsp)
    by_cases hz : leVal (slice (payload rsp) 0 2) = 0
    · exact hgood (hnum.trans hz.symm) (Or.inr hz)
    · -- no entry is decoded, and the count is lost
      have hrec := records_of_le (payload rsp) 8 48 0 (supportedFeatureEntry .big) (by omega) (by decide)
      refine decodes_value _ .big rsp _ ⟨0, getLe .big 2 (payload rsp) 2, []⟩ ?_
        (iff_of_false (fun hl => hz hl.2.1) ?_)
      · simp only [Command.spec, getSupportedFeatures, request, hnum, hrec]
        rfl
      · rintro (hc | hc)
        · cases hc
        · exact hz hc

/-! ### Regions with counters behind them -/

theorem dcCounters_laidOut (p : Bytes) (i : ℕ) : LaidOut (dcCounters o (slice p i 16)).members p i := by
  refine (laidOut_slice (dcCounters o (slice p i 16)).members p i 16 (Nat.le_refl 16)).mp ?_
  simp only [DcCounters.members, dcCounters, LaidOut, le, getLe_eq, Nat.reduceAdd, and_self]

theorem regionsAndCounters_of_le (p : Bytes) (off n : ℕ) (f : Bytes → β) (h : off + n * 40 + 16 ≤ p.length)
    (hn : n < 2 ^ 31) :
    regionsAndCounters o p off n f = some ((List.range n).map fun k => f (slice p (off + k * 40) 40),
      dcCounters o (slice p (off + n * 40) 16)) := by
  unfold regionsAndCounters copyOut
  rw [records_of_le p off 40 n f (by omega) hn, Option.bind_some, if_pos h]
  rfl

theorem laidOut_regions (hdr : List Member) (f : β → List Member) (dec : Bytes → β) (p : Bytes) (off n : ℕ)
    (hoff : extent hdr = off) (hsz : ∀ x, extent (f x) = 40) (hhdr : LaidOut hdr p 0) :
    extent (hdr ++ ((List.range n).map fun k => dec (slice p (off + k * 40) 40)).flatMap f ++
        (dcCounters o (slice p (off + n * 40) 16)).members) = off + n * 40 + 16 ∧
      (LaidOut (hdr ++ ((List.range n).map fun k => dec (slice p (off + k * 40) 40)).flatMap f ++
          (dcCounters o (slice p (off + n * 40) 16)).members) p 0 ↔
        ∀ k < n, LaidOut (f (dec (slice p (off + k * 40) 40))) (slice p (off + k * 40) 40) 0) := by
  obtain ⟨hext, hlaid⟩ := laidOut_list hdr f dec p off 40 n hoff hsz
  have hcnt := dcCounters_laidOut o p (off + n * 40)
  constructor
  · rw [extent_append, hext]
    rfl
  · rw [laidOut_append, hext, Nat.zero_add, hlaid]
    exact ⟨fun h => h.1.2, fun h => ⟨⟨hhdr, h⟩, hcnt⟩⟩

theorem decodes_dcConfig (n s : Byte) (h : 8 + (byteAt (payload rsp) 1).val * 40 + 16 ≤ (payload rsp).length) :
    Decodes (.memdevGetDcConfig n s) o rsp (8 + (byteAt (payload rsp) 1).val * 40 + 16) := by
  have hrec := regionsAndCounters_of_le o (payload rsp) 8 _ (dcRegion o) h (by omega)
  have hhdr : LaidOut [byte (byteAt (payload rsp) 0), byte (byteAt (payload rsp) 1), ignored 6] (payload rsp) 0 := by
    simp only [LaidOut, byte, ignored, slice_one, Nat.reduceAdd, and_self]
  obtain ⟨hext, hlaid⟩ := laidOut_regions o _ DcRegion.members (dcRegion o) (payload rsp) 8
    (byteAt (payload rsp) 1).val rfl (fun _ => rfl) hhdr
  refine decodes_value _ o rsp _ ⟨byteAt (payload rsp) 0, byteAt (payload rsp) 1,
    (List.range (byteAt (payload rsp) 1).val).map fun k => dcRegion o (slice (payload rsp) (8 + k * 40) 40),
    dcCounters o (slice (payload rsp) (8 + (byteAt (payload rsp) 1).val * 40) 16)⟩ ?_ ?_
  · simp only [Command.spec, memdevGetDcConfig, request, hrec]
    rfl
  · simp only [members, GetDcConfigRsp.members, hext, true_and, hlaid, dcRegion_laidOut, Carried]
    refine forall₂_congr fun k _ => ?_
    rw [byteAt_slice _ _ 40 36 (by decide)]

theorem decodes_dcRegConfig (i : U 16) (n s : Byte)
    (h : 4 + (byteAt (payload rsp) 3).val * 40 + 16 ≤ (payload rsp).length) :
    Decodes (.fmapiGetDcRegConfig i n s) o rsp (4 + (byteAt (payload rsp) 3).val * 40 + 16) := by
  have hrec := regionsAndCounters_of_le o (payload rsp) 4 _ (hostDcRegion o) h (by omega)
  have hhdr : LaidOut [le 2 (leVal (slice (payload rsp) 0 2)), byte (byteAt (payload rsp) 2),
      byte (byteAt (payload rsp) 3)] (payload rsp) 0 := by
    simp only [LaidOut, le, byte, slice_one, Nat.reduceAdd, and_self]
  obtain ⟨hext, hlaid⟩ := laidOut_regions o _ HostDcRegion.members (hostDcRegion o) (payload rsp) 4
    (byteAt (payload rsp) 3).val rfl (fun _ => rfl) hhdr
  refine decodes_value _ o rsp _ ⟨leVal (slice (payload rsp) 0 2), byteAt (payload rsp) 2, byteAt (payload rsp) 3,
    (List.range (byteAt (payload rsp) 3).val).map fun k => hostDcRegion o (slice (payload rsp) (4 + k * 40) 40),
    dcCounters o (slice (payload rsp) (4 + (byteAt (payload rsp) 3).val * 40) 16)⟩ ?_ ?_
  · simp only [Command.spec, fmapiGetDcRegConfig, request, hrec, getLe_eq]
    rfl
  · simp only [members, GetHostDcRegionConfigRsp.members, hext, true_and, hlaid]
    exact iff_of_true (fun k _ => hostDcRegion_laidOut o _) trivial

end Decoders

end LibCxlmi.Contract
