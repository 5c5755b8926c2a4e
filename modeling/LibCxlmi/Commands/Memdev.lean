import LibCxlmi.Commands.Call

/-!
# Memory devices (commands.c:1074-1645)

Command sets 40h to 43h: identify, partitions and label storage, health, media
and poison.
-/

namespace LibCxlmi.Commands
open LibCxlmi.Word LibCxlmi.Cci

/-! ### Identify, partitions, label storage -/

structure MemdevIdentifyRsp where
  fwRevision : Bytes
  totalCapacity : ℕ
  volatileCapacity : ℕ
  persistentCapacity : ℕ
  partitionAlign : ℕ
  infoEventLogSize : ℕ
  warningEventLogSize : ℕ
  failureEventLogSize : ℕ
  fatalEventLogSize : ℕ
  lsaSize : ℕ
  poisonListMaxMer : Bytes
  injectPoisonLimit : ℕ
  poisonCaps : Byte
  qosTelemetryCaps : Byte
  dcEventLogSize : ℕ
  deriving DecidableEq, Repr

def memdevIdentify : CciCommand MemdevIdentifyRsp :=
  query 0x40 0x0 0x45 fun o pl =>
    ⟨slice pl 0 16, getLe o 8 pl 16, getLe o 8 pl 24, getLe o 8 pl 32, getLe o 8 pl 40, getLe o 2 pl 48,
      getLe o 2 pl 50, getLe o 2 pl 52, getLe o 2 pl 54, getLe o 4 pl 56, slice pl 60 3, getLe o 2 pl 63,
      byteAt pl 65, byteAt pl 66, getLe o 2 pl 67⟩

structure PartitionInfo where
  activeVmem : ℕ
  activePmem : ℕ
  nextVmem : ℕ
  nextPmem : ℕ
  deriving DecidableEq, Repr

def memdevGetPartitionInfo : CciCommand PartitionInfo :=
  query 0x41 0x0 32 fun o pl => ⟨getLe o 8 pl 0, getLe o 8 pl 8, getLe o 8 pl 16, getLe o 8 pl 24⟩

def memdevSetPartitionInfo (volatileCapacity : U 64) (flags : Byte) : CciCommand Unit :=
  instruct 0x41 0x1 9 (fun o => putLe o 8 volatileCapacity ++ [flags])
    fun o => by rw [List.length_append, putLe_length]; rfl

def memdevGetLsa (offset length : U 32) : CciCommand Bytes :=
  request 0x41 0x2 8 (fun o => putLe o 4 offset ++ putLe o 4 length)
    (twoWords32_length offset length) length length fun _ pl =>
      copyOut pl 0 length

def memdevSetLsa (offset : U 32) (data : Bytes) : CciCommand Unit :=
  instruct 0x41 0x3 (8 + data.length) (fun o => putLe o 4 offset ++ zeros 4 ++ data)
    fun o => by rw [List.length_append, List.length_append, putLe_length, zeros_length]

/-! ### Health -/

structure HealthInfo where
  healthStatus : Byte
  mediaStatus : Byte
  additionalStatus : Byte
  lifeUsed : Byte
  deviceTemperature : ℕ
  dirtyShutdownCount : ℕ
  correctedVolatileErrorCount : ℕ
  correctedPersistentErrorCount : ℕ
  deriving DecidableEq, Repr

def memdevGetHealthInfo : CciCommand HealthInfo :=
  query 0x42 0x0 18 fun o pl =>
    ⟨byteAt pl 0, byteAt pl 1, byteAt pl 2, byteAt pl 3, getLe o 2 pl 4, getLe o 4 pl 6, getLe o 4 pl 10,
      getLe o 4 pl 14⟩

structure AlertConfig where
  validAlerts : Byte
  programmableAlerts : Byte
  lifeUsedCriticalAlertThreshold : Byte
  lifeUsedProgrammableWarningThreshold : Byte
  deviceOverTemperatureCriticalAlertThreshold : ℕ
  deviceUnderTemperatureCriticalAlertThreshold : ℕ
  deviceOverTemperatureProgrammableWarningThreshold : ℕ
  deviceUnderTemperatureProgrammableWarningThreshold : ℕ
  correctedVolatileMemErrorProgrammableWarningThreshold : ℕ
  correctedPersistentMemErrorProgrammableWarningThreshold : ℕ
  deriving DecidableEq, Repr

def memdevGetAlertConfig : CciCommand AlertConfig :=
  query 0x42 0x1 16 fun o pl =>
    ⟨byteAt pl 0, byteAt pl 1, byteAt pl 2, byteAt pl 3, getLe o 2 pl 4, getLe o 2 pl 6, getLe o 2 pl 8,
      getLe o 2 pl 10, getLe o 2 pl 12, getLe o 2 pl 14⟩

structure SetAlertConfigReq where
  validAlertActions : Byte
  enableAlertActions : Byte
  lifeUsedProgrammableWarningThreshold : Byte
  deviceOverTemperatureProgrammableWarningThreshold : U 16
  deviceUnderTemperatureProgrammableWarningThreshold : U 16
  correctedVolatileMemErrorProgrammableWarningThreshold : U 16
  correctedPersistentMemErrorProgrammableWarningThreshold : U 16

def memdevSetAlertConfig (i : SetAlertConfigReq) : CciCommand Unit :=
  instruct 0x42 0x2 12
    (fun o => [i.validAlertActions, i.enableAlertActions, i.lifeUsedProgrammableWarningThreshold, 0] ++
      putLe o 2 i.deviceOverTemperatureProgrammableWarningThreshold ++
      putLe o 2 i.deviceUnderTemperatureProgrammableWarningThreshold ++
      putLe o 2 i.correctedVolatileMemErrorProgrammableWarningThreshold ++
      putLe o 2 i.correctedPersistentMemErrorProgrammableWarningThreshold)
    fun o => by simp only [List.length_append, putLe_length, List.length_cons, List.length_nil]

def memdevGetShutdownState : CciCommand Byte := query 0x42 0x3 1 fun _ pl => byteAt pl 0

def memdevSetShutdownState (state : Byte) : CciCommand Unit :=
  instruct 0x42 0x4 1 (fun _ => [state]) (oneByte_length state)

/-! ### Media and poison -/

/-- Whole records of `sz` bytes behind a fixed part of `hdr` bytes, by the
`pl_length` of the response. -/
def recordsInRsp (rsp : Bytes) (hdr sz : ℕ) : ℕ :=
  if hdr < plLength rsp then (plLength rsp - hdr) / sz else 0

/- The counts are compared as 16-bit values. -/
def clampCount (count : ℕ) (rsp : Bytes) (hdr sz cap : ℕ) : ℕ :=
  min (min count (recordsInRsp rsp hdr sz % 2 ^ 16)) cap

structure MediaErrRecord where
  mediaErrAddr : ℕ
  mediaErrLen : ℕ
  deriving DecidableEq, Repr

def mediaErrRecord (o : ByteOrder) (r : Bytes) : MediaErrRecord := ⟨getLe o 8 r 0, getLe o 4 r 8⟩

/-- MAX_POISON_RECORDS and MAX_SCAN_MEDIA_RECORDS. -/
def maxPoisonRecords : ℕ := (2048 - 32) / 16

structure PoisonList where
  poisonListFlags : Byte
  overflowTimestamp : ℕ
  moreErrMediaRecordCnt : ℕ
  records : List MediaErrRecord
  deriving DecidableEq, Repr

def getPoisonList (phyAddr phyAddrLen : U 64) : CciCommand PoisonList :=
  { instruct 0x43 0x0 16 (fun o => putLe o 8 phyAddr ++ putLe o 8 phyAddrLen)
      (fun o => by rw [List.length_append, putLe_length, putLe_length]) with
    rspHeap := true
    rspSz := fun _ => 12 + (32 + maxPoisonRecords * 16)
    rspMin := fun _ => 12 + 32
    decode := fun o rsp =>
      let pl := payload rsp
      let n := clampCount (getLe o 2 pl 10) rsp 32 16 maxPoisonRecords
      (records pl 32 16 n (mediaErrRecord o)).map fun rs => PoisonList.mk (byteAt pl 0) (getLe o 8 pl 2) n rs }

def memdevInjectPoison (phyAddr : U 64) : CciCommand Unit :=
  instruct 0x43 0x1 8 (fun o => putLe o 8 phyAddr) (word64_length phyAddr)

def memdevClearPoison (phyAddr : U 64) (writeData : Vec 64) : CciCommand Unit :=
  instruct 0x43 0x2 72 (fun o => putLe o 8 phyAddr ++ writeData)
    fun o => by rw [List.length_append, putLe_length, vec_length]

def memdevGetScanMediaCapabilities (startPhysaddr physaddrLength : U 64) : CciCommand ℕ :=
  request 0x43 0x3 16 (fun o => putLe o 8 startPhysaddr ++ putLe o 8 physaddrLength)
    (fun o => by rw [List.length_append, putLe_length, putLe_length]) 4 4 fun o pl => some (getLe o 4 pl 0)

def memdevScanMedia (physaddr physaddrLength : U 64) (flags : Byte) : CciCommand Unit :=
  instruct 0x43 0x4 17 (fun o => putLe o 8 physaddr ++ putLe o 8 physaddrLength ++ [flags])
    fun o => by simp only [List.length_append, putLe_length, List.length_singleton]

structure ScanMediaResults where
  scanMediaRestartPhysaddr : ℕ
  scanMediaRestartPhysaddrLength : ℕ
  scanMediaFlags : Byte
  mediaErrorCount : ℕ
  record : List MediaErrRecord
  deriving DecidableEq, Repr

def memdevGetScanMediaResults : CciCommand ScanMediaResults :=
  { order 0x43 0x5 with
    rspHeap := true
    rspSz := fun _ => 12 + (32 + maxPoisonRecords * 16)
    rspMin := fun _ => 12 + 32
    decode := fun o rsp =>
      let pl := payload rsp
      let n := clampCount (getLe o 2 pl 18) rsp 32 16 maxPoisonRecords
      (records pl 32 16 n (mediaErrRecord o)).map fun rs =>
        ⟨getLe o 8 pl 0, getLe o 8 pl 8, byteAt pl 16, n, rs⟩ }

end LibCxlmi.Commands
