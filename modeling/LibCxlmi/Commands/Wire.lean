import LibCxlmi.Commands.Table
import LibCxlmi.Word.Layout

/-!
# Response structures on the wire (api-types.h)

The members of the packed response structures in their order, with the values a
decoded structure has for them. Reserved members may hold anything. A record of
an array is laid out by the decoder's own reading of it, apart from the `flags`
of a region, which Get DC Configuration does not copy.
-/

namespace LibCxlmi.Commands
open LibCxlmi.Word LibCxlmi.Cci Member

/-- A capacity that the decoder scales to bytes. -/
def scaledLe (n v : ℕ) : Member := ⟨n, fun b => scaled (leVal b) = v⟩

/-! ### Records -/

def EventRecord.members (v : EventRecord) : List Member :=
  [raw 0x10 v.uuid, byte v.length, raw 3 v.flags, le 2 v.handle, le 2 v.relatedHandle, le 8 v.timestamp,
    byte v.maintOpClass, byte v.maintOpSubclass, le 2 v.ldId, byte v.headId, ignored 0xb, raw 0x50 v.data]

def SupportedFeatureEntry.members (v : SupportedFeatureEntry) : List Member :=
  [raw 0x10 v.featureId, le 2 v.featureIndex, le 2 v.getFeatureSize, le 2 v.setFeatureSize, le 4 v.attributeFlags,
    byte v.getFeatureVersion, byte v.setFeatureVersion, le 2 v.setFeatureEffects, ignored 0x12]

def MediaErrRecord.members (v : MediaErrRecord) : List Member :=
  [le 8 v.mediaErrAddr, le 4 v.mediaErrLen, ignored 4]

def DcExtent.members (v : DcExtent) : List Member :=
  [le 8 v.startDpa, le 8 v.len, raw 0x10 v.tag, le 2 v.sharedSeq, ignored 6]

def DcRegion.members (v : DcRegion) : List Member :=
  [le 8 v.base, scaledLe 8 v.decodeLen, le 8 v.regionLen, le 8 v.blockSize, le 4 v.dsmadhandle, byte v.flags, ignored 3]

def HostDcRegion.members (v : HostDcRegion) : List Member :=
  [le 8 v.base, scaledLe 8 v.decodeLen, le 8 v.regionLen, le 8 v.blockSize, byte v.flags, ignored 3,
    byte v.sanitizeOnRelease, ignored 3]

def DcCounters.members (v : DcCounters) : List Member :=
  [le 4 v.numExtentsSupported, le 4 v.numExtentsAvailable, le 4 v.numTagsSupported, le 4 v.numTagsAvailable]

def TagInfo.members (v : TagInfo) : List Member :=
  [raw 0x10 v.tag, byte v.flags, ignored 3, raw 0x20 v.refBitmap, raw 0x20 v.pendingRefBitmap]

def LdAllocation.members (v : LdAllocation) : List Member :=
  [le 8 v.range1AllocationMult, le 8 v.range2AllocationMult]

def PortState.members (v : PortState) : List Member :=
  [byte v.portId, byte v.configState, byte v.connDevCxlVer, ignored 1, byte v.connDevType, byte v.portCxlVerBitmask,
    byte v.maxLinkWidth, byte v.negotiatedLinkWidth, byte v.supportedLinkSpeedsVector, byte v.maxLinkSpeed,
    byte v.currentLinkSpeed, byte v.ltssmState, byte v.firstLaneNum, le 2 v.linkState, byte v.supportedLdCount]

/- `rfl` is slow on a structure of more than ten members. -/
theorem EventRecord.members_extent (v : EventRecord) : extent v.members = 128 := by
  simp only [EventRecord.members, extent_cons, extent_nil, le, raw, byte, ignored]

theorem PortState.members_extent (v : PortState) : extent v.members = 16 := by
  simp only [PortState.members, extent_cons, extent_nil, le, byte, ignored]

section Read

variable (o : ByteOrder) (r : Bytes)

theorem eventRecord_laidOut : LaidOut (eventRecord o r).members r 0 := by
  simp only [EventRecord.members, eventRecord, LaidOut, le, raw, byte, ignored, getLe_eq, slice_one, Nat.reduceAdd,
    and_self]

theorem supportedFeatureEntry_laidOut : LaidOut (supportedFeatureEntry o r).members r 0 := by
  simp only [SupportedFeatureEntry.members, supportedFeatureEntry, LaidOut, le, raw, byte, ignored, getLe_eq,
    slice_one, Nat.reduceAdd, and_self]

theorem mediaErrRecord_laidOut : LaidOut (mediaErrRecord o r).members r 0 := by
  simp only [MediaErrRecord.members, mediaErrRecord, LaidOut, le, ignored, getLe_eq, Nat.reduceAdd, and_self]

theorem dcExtent_laidOut : LaidOut (dcExtent o r).members r 0 := by
  simp only [DcExtent.members, dcExtent, LaidOut, le, raw, ignored, getLe_eq, Nat.reduceAdd, and_self]

/- The one record whose decoder leaves a member out. -/
theorem dcRegion_laidOut : LaidOut (dcRegion o r).members r 0 ↔ byteAt r 36 = 0 := by
  simp only [DcRegion.members, dcRegion, LaidOut, le, scaledLe, byte, ignored, getLe_eq, slice_one, Nat.reduceAdd,
    true_and, and_true, List.cons.injEq]

theorem hostDcRegion_laidOut : LaidOut (hostDcRegion o r).members r 0 := by
  simp only [HostDcRegion.members, hostDcRegion, LaidOut, le, scaledLe, byte, ignored, getLe_eq, slice_one,
    Nat.reduceAdd, and_self]

theorem tagInfo_laidOut : LaidOut (tagInfo r).members r 0 := by
  simp only [TagInfo.members, tagInfo, LaidOut, raw, byte, ignored, slice_one, Nat.reduceAdd, and_self]

theorem ldAllocation_laidOut : LaidOut (ldAllocation o r).members r 0 := by
  simp only [LdAllocation.members, ldAllocation, LaidOut, le, getLe_eq, Nat.reduceAdd, and_self]

theorem portState_laidOut : LaidOut (portState o r).members r 0 := by
  simp only [PortState.members, portState, LaidOut, le, byte, ignored, getLe_eq, slice_one, Nat.reduceAdd, and_self]

end Read

/-! ### Whole responses -/

def MemdevIdentifyRsp.members (v : MemdevIdentifyRsp) : List Member :=
  [raw 0x10 v.fwRevision, le 8 v.totalCapacity, le 8 v.volatileCapacity, le 8 v.persistentCapacity,
    le 8 v.partitionAlign, le 2 v.infoEventLogSize, le 2 v.warningEventLogSize, le 2 v.failureEventLogSize,
    le 2 v.fatalEventLogSize, le 4 v.lsaSize, raw 3 v.poisonListMaxMer, le 2 v.injectPoisonLimit, byte v.poisonCaps,
    byte v.qosTelemetryCaps, le 2 v.dcEventLogSize]

theorem MemdevIdentifyRsp.members_extent (v : MemdevIdentifyRsp) : extent v.members = 0x45 := by
  simp only [MemdevIdentifyRsp.members, extent_cons, extent_nil, le, raw, byte]

def GetEventRecordsRsp.members (v : GetEventRecordsRsp) : List Member :=
  [byte v.flags, ignored 1, le 2 v.overflowErrCount, le 8 v.firstOverflowTimestamp, le 8 v.lastOverflowTimestamp,
    le 2 v.recordCount, ignored 0xa] ++ v.records.flatMap EventRecord.members

def GetSupportedFeaturesRsp.members (v : GetSupportedFeaturesRsp) : List Member :=
  [le 2 v.numSupportedFeatureEntries, le 2 v.deviceSupportedFeatures, ignored 4] ++
    v.supportedFeatureEntries.flatMap SupportedFeatureEntry.members

def PoisonList.members (v : PoisonList) : List Member :=
  [byte v.poisonListFlags, ignored 1, le 8 v.overflowTimestamp, le 2 v.moreErrMediaRecordCnt, ignored 0x14] ++
    v.records.flatMap MediaErrRecord.members

def ScanMediaResults.members (v : ScanMediaResults) : List Member :=
  [le 8 v.scanMediaRestartPhysaddr, le 8 v.scanMediaRestartPhysaddrLength, byte v.scanMediaFlags, ignored 1,
    le 2 v.mediaErrorCount, ignored 12] ++ v.record.flatMap MediaErrRecord.members

def GetDcConfigRsp.members (v : GetDcConfigRsp) : List Member :=
  [byte v.numRegions, byte v.regionsReturned, ignored 6] ++ v.regionConfigs.flatMap DcRegion.members ++
    v.counters.members

def GetHostDcRegionConfigRsp.members (v : GetHostDcRegionConfigRsp) : List Member :=
  [le 2 v.hostId, byte v.numRegions, byte v.regionsReturned] ++ v.regionConfigs.flatMap HostDcRegion.members ++
    v.counters.members

def GetDcExtentListRsp.members (v : GetDcExtentListRsp) : List Member :=
  [le 4 v.numExtentsReturned, le 4 v.totalNumExtents, le 4 v.generationNum, ignored 4] ++
    v.extents.flatMap DcExtent.members

def GetDcRegionExtListRsp.members (v : GetDcRegionExtListRsp) : List Member :=
  [le 2 v.hostId, ignored 2, le 4 v.startExtIndex, le 4 v.extentsReturned, le 4 v.totalExtents,
    le 4 v.listGenerationNum, ignored 4] ++ v.extents.flatMap DcExtent.members

def DcListTagsRsp.members (v : DcListTagsRsp) : List Member :=
  [le 4 v.generationNum, le 4 v.totalNumTags, le 4 v.numTagsReturned, byte v.validityBitmap, ignored 3] ++
    v.tagsList.flatMap TagInfo.members

def GetLdAllocationsRsp.members (v : GetLdAllocationsRsp) : List Member :=
  [byte v.numberLd, byte v.memoryGranularity, byte v.startLdId, byte v.ldAllocationListLen] ++
    v.ldAllocationList.flatMap LdAllocation.members

def GetPhysPortStateRsp.members (v : GetPhysPortStateRsp) : List Member :=
  [byte v.numPorts, ignored 3] ++ v.ports.flatMap PortState.members

end LibCxlmi.Commands
