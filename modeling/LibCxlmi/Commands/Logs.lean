import LibCxlmi.Commands.Call

/-!
# Logs, features, maintenance and vendor commands (commands.c:592-1072, 3751-3795)

Command sets 04h to 06h and the vendor range.
-/

namespace LibCxlmi.Commands
open LibCxlmi.Word LibCxlmi.Cci

/-! ### Logs -/

structure SupportedLogEntry where
  uuid : Bytes
  logSize : ℕ
  deriving DecidableEq, Repr

def supportedLogEntry (o : ByteOrder) (r : Bytes) : SupportedLogEntry := ⟨slice r 0 16, getLe o 4 r 16⟩

def maxSupportedLogs : ℕ := 16

structure GetSupportedLogsRsp where
  numSupportedLogEntries : ℕ
  entries : List SupportedLogEntry
  deriving DecidableEq, Repr

def getSupportedLogs : CciCommand GetSupportedLogsRsp :=
  { order 0x04 0x0 with
    rspHeap := true
    rspSz := fun _ => 12 + (8 + maxSupportedLogs * 20)
    rspMin := fun _ => 12 + 8
    decode := fun o rsp =>
      let pl := payload rsp
      let n := min (getLe o 2 pl 0) maxSupportedLogs
      (records pl 8 20 n (supportedLogEntry o)).map fun es => ⟨n, es⟩ }

structure GetLogReq where
  uuid : Vec 0x10
  offset : U 32
  length : U 32

def getLogPayload (i : GetLogReq) (o : ByteOrder) : Bytes :=
  i.uuid ++ putLe o 4 i.offset ++ putLe o 4 i.length

theorem getLogPayload_length (i : GetLogReq) (o : ByteOrder) : (getLogPayload i o).length = 24 := by
  simp only [getLogPayload, List.length_append, vec_length, putLe_length]

def getLog (i : GetLogReq) : CciCommand Bytes :=
  request 0x04 0x1 24 (getLogPayload i) (getLogPayload_length i) i.length i.length fun _ pl =>
    copyOut pl 0 i.length

structure CelEntry where
  opcode : ℕ
  commandEffect : ℕ
  deriving DecidableEq, Repr

/- The caller's first entry is cleared also when there are none. -/
def getLogCel (i : GetLogReq) : CciCommand (List CelEntry) :=
  request 0x04 0x1 24 (getLogPayload i) (getLogPayload_length i) i.length i.length fun o pl =>
    (records pl 0 4 (i.length / 4) fun r => CelEntry.mk (getLe o 2 r 0) (getLe o 2 r 2)).map fun es =>
      if es = [] then [⟨0, 0⟩] else es

def getLogCapabilities (uuid : Vec 0x10) : CciCommand ℕ :=
  request 0x04 0x2 16 (fun _ => uuid) (vec16_length uuid) 4 4 fun o pl => some (getLe o 4 pl 0)

def clearLog (uuid : Vec 0x10) : CciCommand Unit :=
  instruct 0x04 0x3 16 (fun _ => uuid) (vec16_length uuid)

def populateLog (uuid : Vec 0x10) : CciCommand Unit :=
  instruct 0x04 0x4 16 (fun _ => uuid) (vec16_length uuid)

structure GetSupportedLogsSublistRsp where
  numSupportedLogEntries : ℕ
  totalNumSupportedLogEntries : ℕ
  startLogEntryIndex : Byte
  entries : List SupportedLogEntry
  deriving DecidableEq, Repr

def getSupportedLogsSublist (maxEntries startIndex : Byte) : CciCommand GetSupportedLogsSublistRsp :=
  request 0x04 0x5 2 (fun _ => [maxEntries, startIndex]) (twoBytes_length maxEntries startIndex)
    (8 + maxSupportedLogs * 20) (8 + maxSupportedLogs * 20) fun o pl =>
      let n := min (byteAt pl 0).val maxSupportedLogs
      (records pl 8 20 n (supportedLogEntry o)).map fun es => ⟨n, getLe o 2 pl 2, byteAt pl 4, es⟩

/-! ### Features -/

structure SupportedFeatureEntry where
  featureId : Bytes
  featureIndex : ℕ
  getFeatureSize : ℕ
  setFeatureSize : ℕ
  attributeFlags : ℕ
  getFeatureVersion : Byte
  setFeatureVersion : Byte
  setFeatureEffects : ℕ
  deriving DecidableEq, Repr

def supportedFeatureEntry (o : ByteOrder) (r : Bytes) : SupportedFeatureEntry :=
  ⟨slice r 0 16, getLe o 2 r 16, getLe o 2 r 18, getLe o 2 r 20, getLe o 4 r 22, byteAt r 26, byteAt r 27,
    getLe o 2 r 28⟩

structure GetSupportedFeaturesRsp where
  numSupportedFeatureEntries : ℕ
  deviceSupportedFeatures : ℕ
  supportedFeatureEntries : List SupportedFeatureEntry
  deriving DecidableEq, Repr

/- The 16-bit count goes through the 32-bit conversion and back into 16 bits. -/
def numSupportedFeatureEntries (o : ByteOrder) (pl : Bytes) : ℕ :=
  leToCpu o 4 (loadWord o (slice pl 0 2)) % 2 ^ 16

theorem numSupportedFeatureEntries_little (pl : Bytes) :
    numSupportedFeatureEntries .little pl = leVal (slice pl 0 2) := by
  have h : leVal (slice pl 0 2) < 256 ^ 2 := by
    have hl := leVal_lt (slice pl 0 2)
    rwa [slice_length] at hl
  simp only [numSupportedFeatureEntries, leToCpu, cpuToLe, loadWord]
  omega

/- The swap of four bytes moves the two of the count to the upper half. -/
theorem numSupportedFeatureEntries_big (pl : Bytes) : numSupportedFeatureEntries .big pl = 0 := by
  have h : leVal (slice pl 0 2).reverse < 256 ^ 2 := by
    have hl := leVal_lt (slice pl 0 2).reverse
    rwa [List.length_reverse, slice_length] at hl
  simp only [numSupportedFeatureEntries, leToCpu, cpuToLe, loadWord, swapWord]
  generalize leVal (slice pl 0 2).reverse = x at h
  have hx : x / 256 / 256 = 0 := by omega
  simp only [leBytes, List.reverse_cons, List.reverse_nil, List.nil_append, List.cons_append, leVal_cons, leVal_nil,
    hx]
  omega

def getSupportedFeatures (count : U 32) (startingFeatureIndex : U 16) : CciCommand GetSupportedFeaturesRsp :=
  request 0x05 0x0 8 (fun o => putLe o 4 count ++ putLe o 2 startingFeatureIndex ++ zeros 2)
    (fun o => by simp only [List.length_append, putLe_length, zeros_length]) 8 (8 + count) fun o pl =>
      let n := numSupportedFeatureEntries o pl
      (records pl 8 48 n (supportedFeatureEntry o)).map fun es => ⟨n, getLe o 2 pl 2, es⟩

structure GetFeatureReq where
  featureId : Vec 0x10
  offset : U 16
  count : U 16
  selection : Byte

def mailboxMaxPayloadSize : ℕ := 2048

def getFeature (i : GetFeatureReq) : CciCommand Bytes :=
  request 0x05 0x1 21 (fun o => i.featureId ++ putLe o 2 i.offset ++ putLe o 2 i.count ++ [i.selection])
    (fun o => by simp only [List.length_append, vec_length, putLe_length, List.length_singleton])
    0 mailboxMaxPayloadSize fun _ pl => copyOut pl 0 i.count

structure SetFeatureReq where
  featureId : Vec 0x10
  setFeatureFlags : U 32
  offset : U 16
  version : Byte
  featureData : Bytes

def setFeature (i : SetFeatureReq) : CciCommand Unit :=
  { instruct 0x05 0x2 (32 + i.featureData.length)
      (fun o => i.featureId ++ putLe o 4 i.setFeatureFlags ++ putLe o 2 i.offset ++ [i.version] ++ zeros 9 ++
        i.featureData)
      fun o => by simp only [List.length_append, vec_length, putLe_length, List.length_singleton, zeros_length]
    with rspHeap := true }

/-! ### Maintenance and vendor commands -/

def performMaintenance (maintOpClass maintOpSubclass : Byte) (params : Bytes) : CciCommand Unit :=
  instruct 0x06 0x0 (2 + params.length) (fun _ => [maintOpClass, maintOpSubclass] ++ params)
    fun _ => by rw [List.length_append]; rfl

/- `inData` has `in_size` bytes; behind a null pointer only their number counts. -/
structure VendorSpecificReq where
  opcode : U 16
  inPtr : Bool
  inData : Bytes
  retPtr : Bool
  retSize : ℕ

def vendorSpecific (i : VendorSpecificReq) : CciCommand (Option Bytes) where
  admitted := decide (0xC000 ≤ i.opcode.val) && (i.inPtr == !i.inData.isEmpty) && (i.retPtr == (i.retSize != 0))
  set := ⟨i.opcode.val / 256, by omega⟩
  cmd := ⟨i.opcode.val % 256, by omega⟩
  reqHeap := true
  plSz := if i.inPtr then i.inData.length else 0
  payload _ := some (if i.inPtr then i.inData else [])
  supported := true
  rspHeap := true
  rspSz _ := 12 + if i.retPtr then i.retSize else 0
  rspMin _ := 12 + if i.retPtr then i.retSize else 0
  checked := true
  decode _ rsp := if i.retPtr then (copyOut (payload rsp) 0 i.retSize).map some else some none
  framed _ _ h := by
    rw [← Option.some.inj h]
    cases i.inPtr with
    | false => rfl
    | true => rfl

end LibCxlmi.Commands
