import LibCxlmi.Commands.Table
import LibCxlmi.Word.Parse

/-!
# Requests as a device reads them

Parsers of the requests that carry a list or data, after the layouts of
api-types.h. They read little-endian words, want every reserved byte to be
zero, and as many elements as the count says and no more. None of them knows
how the library builds a request.
-/

namespace LibCxlmi.Commands
open LibCxlmi.Word LibCxlmi.Cci Parser

/-! ### Elements -/

def DpaRange.parse : Parser DpaRange := do
  let startingDpa ← word 8 64
  let length ← word 8 64
  return ⟨startingDpa, length⟩

def UpdatedExtent.parse : Parser UpdatedExtent := do
  let startDpa ← word 8 64
  let len ← word 8 64
  reserved 8
  return ⟨startDpa, len⟩

def RequestedExtent.parse : Parser RequestedExtent := do
  let startDpa ← word 8 64
  let len ← word 8 64
  let tag ← raw 0x10
  let sharedSeq ← word 2 16
  reserved 6
  return ⟨startDpa, len, tag, sharedSeq⟩

def LdAllocationReq.parse : Parser LdAllocationReq := do
  let range1AllocationMult ← word 8 64
  let range2AllocationMult ← word 8 64
  return ⟨range1AllocationMult, range2AllocationMult⟩

/-! ### Requests -/

def ClearEventRecordsReq.parse : Parser ClearEventRecordsReq := do
  let eventLog ← byte
  let clearFlags ← byte
  let nrRecs ← byte
  reserved 3
  let handles ← many (word 2 16) nrRecs.val
  return ⟨eventLog, clearFlags, handles.val, handles.property.trans_lt nrRecs.isLt⟩

def TransferFwReq.parse : Parser TransferFwReq := do
  let action ← byte
  let slot ← byte
  reserved 2
  let offset ← word 4 32
  reserved 0x78
  let data ← rest
  return ⟨action, slot, offset, data⟩

def SetFeatureReq.parse : Parser SetFeatureReq := do
  let featureId ← raw 0x10
  let setFeatureFlags ← word 4 32
  let offset ← word 2 16
  let version ← byte
  reserved 9
  let featureData ← rest
  return ⟨featureId, setFeatureFlags, offset, version, featureData⟩

def parseSetLsa : Parser (U 32 × Bytes) := do
  let offset ← word 4 32
  reserved 4
  let data ← rest
  return (offset, data)

def MediaOperationsSanitizeReq.parse : Parser MediaOperationsSanitizeReq := do
  let mediaOperationClass ← byte
  let mediaOperationSubclass ← byte
  reserved 2
  let dpaRangeCount ← word 4 32
  let dpaRangeList ← many DpaRange.parse dpaRangeCount.val
  return ⟨mediaOperationClass, mediaOperationSubclass, dpaRangeList.val,
    dpaRangeList.property.trans_lt dpaRangeCount.isLt⟩

def UpdatedExtentListReq.parse : Parser UpdatedExtentListReq := do
  let updatedExtentListSize ← word 4 32
  let flags ← byte
  reserved 3
  let extents ← many UpdatedExtent.parse updatedExtentListSize.val
  return ⟨flags, extents.val, extents.property.trans_lt updatedExtentListSize.isLt⟩

/- The two bytes behind the host id are the caller's. -/
def InitiateDcReq.parse {β : Type} (two : Parser β) : Parser (β × InitiateDcReq) := do
  let hostId ← word 2 16
  let b ← two
  let length ← word 8 64
  let tag ← raw 0x10
  let extCount ← word 4 32
  let extents ← many RequestedExtent.parse extCount.val
  return (b, ⟨hostId, length, tag, extents.val, extents.property.trans_lt extCount.isLt⟩)

def parseInitiateDcAdd : Parser ((Byte × Byte) × InitiateDcReq) :=
  InitiateDcReq.parse do
    let selectionPolicy ← byte
    let regionNum ← byte
    return (selectionPolicy, regionNum)

def parseInitiateDcRelease : Parser (Byte × InitiateDcReq) :=
  InitiateDcReq.parse do
    let flags ← byte
    reserved 1
    return flags

def SetLdAllocationsReq.parse : Parser SetLdAllocationsReq := do
  let numberLd ← byte
  let startLdId ← byte
  reserved 2
  let ldAllocationList ← many LdAllocationReq.parse numberLd.val
  return ⟨startLdId, ldAllocationList.val, ldAllocationList.property.trans_lt numberLd.isLt⟩

def SetQosFractionsReq.parse : Parser SetQosFractionsReq := do
  let numberLd ← byte
  let startLdId ← byte
  let fractions ← many byte numberLd.val
  return ⟨startLdId, fractions.val, fractions.property.trans_lt numberLd.isLt⟩

def GetVcsInfoReq.parse : Parser GetVcsInfoReq := do
  let startVppb ← byte
  let vppbListLimit ← byte
  let numVcs ← byte
  let vcsIdList ← many byte numVcs.val
  return ⟨startVppb, vppbListLimit, vcsIdList.val, vcsIdList.property.trans_lt numVcs.isLt⟩

def GetPhysPortStateReq.parse : Parser GetPhysPortStateReq := do
  let numPorts ← byte
  let ports ← many byte numPorts.val
  return ⟨ports.val, ports.property.trans_lt numPorts.isLt⟩

/-! ### Messages -/

def decodePayload (set cmd : Byte) (pl : Bytes) : Option (Σ α, Command α) :=
  match set.val, cmd.val with
  | 0x01, 0x1 => (ClearEventRecordsReq.parse.parseAll pl).map fun i => ⟨_, .clearEventRecords i⟩
  | 0x02, 0x1 => (TransferFwReq.parse.parseAll pl).map fun i => ⟨_, .transferFw i⟩
  | 0x05, 0x2 => (SetFeatureReq.parse.parseAll pl).map fun i => ⟨_, .setFeature i⟩
  | 0x41, 0x3 => (parseSetLsa.parseAll pl).map fun i => ⟨_, .memdevSetLsa i.1 i.2⟩
  | 0x44, 0x2 => (MediaOperationsSanitizeReq.parse.parseAll pl).map fun i => ⟨_, .memdevMediaOperationsSanitize i⟩
  | 0x48, 0x2 => (UpdatedExtentListReq.parse.parseAll pl).map fun i => ⟨_, .memdevAddDcResponse i⟩
  | 0x48, 0x3 => (UpdatedExtentListReq.parse.parseAll pl).map fun i => ⟨_, .memdevReleaseDc i⟩
  | 0x51, 0x1 => (GetPhysPortStateReq.parse.parseAll pl).map fun i => ⟨_, .fmapiGetPhysPortState i⟩
  | 0x52, 0x0 => (GetVcsInfoReq.parse.parseAll pl).map fun i => ⟨_, .fmapiGetVcsInfo i⟩
  | 0x54, 0x2 => (SetLdAllocationsReq.parse.parseAll pl).map fun i => ⟨_, .fmapiSetLdAllocations i⟩
  | 0x54, 0x7 => (SetQosFractionsReq.parse.parseAll pl).map fun i => ⟨_, .fmapiSetQosAllocatedBw i⟩
  | 0x54, 0x9 => (SetQosFractionsReq.parse.parseAll pl).map fun i => ⟨_, .fmapiSetQosBwLimit i⟩
  | 0x56, 0x4 => (parseInitiateDcAdd.parseAll pl).map fun i => ⟨_, .fmapiInitiateDcAdd i.1.1 i.1.2 i.2⟩
  | 0x56, 0x5 => (parseInitiateDcRelease.parseAll pl).map fun i => ⟨_, .fmapiInitiateDcRelease i.1 i.2⟩
  | _, _ => none

/-- A request: the category, the reserved byte of the header, and a payload of
the size the header gives. -/
def decodeRequest (m : Bytes) : Option (Σ α, Command α) :=
  if category m = categoryReq ∧ byteAt m 2 = 0 ∧ m.length = 12 + plLength m then
    decodePayload (commandSet m) (command m) (payload m)
  else none

end LibCxlmi.Commands
