import LibCxlmi.Commands.Call

/-!
# Information, events, firmware and time (commands.c:45-590)

Command sets 00h to 03h. The offsets are those of the packed structures of
api-types.h (without SUPPORT_CXL_2_0).
-/

namespace LibCxlmi.Commands
open LibCxlmi.Word LibCxlmi.Cci

/-! ### Information and status -/

structure IdentifyRsp where
  vendorId : ℕ
  deviceId : ℕ
  subsysVendorId : ℕ
  subsysId : ℕ
  serialNum : ℕ
  maxMsgSize : Byte
  componentType : Byte
  deriving DecidableEq, Repr

def identify : CciCommand IdentifyRsp :=
  query 0x00 0x1 18 fun o pl =>
    ⟨getLe o 2 pl 0, getLe o 2 pl 2, getLe o 2 pl 4, getLe o 2 pl 6, getLe o 8 pl 8, byteAt pl 16, byteAt pl 17⟩

structure BgOpStatusRsp where
  status : Byte
  opcode : ℕ
  returncode : ℕ
  vendorExtStatus : ℕ
  deriving DecidableEq, Repr

def bgOpStatus : CciCommand BgOpStatusRsp :=
  query 0x00 0x2 8 fun o pl => ⟨byteAt pl 0, getLe o 2 pl 2, getLe o 2 pl 4, getLe o 2 pl 6⟩

def getResponseMsgLimit : CciCommand Byte := query 0x00 0x3 1 fun _ pl => byteAt pl 0

def setResponseMsgLimit (limit : Byte) : CciCommand Byte :=
  request 0x00 0x4 1 (fun _ => [limit]) (oneByte_length limit) 1 1 fun _ pl => some (byteAt pl 0)

def requestBgOpAbort : CciCommand Unit := order 0x00 0x5

/-! ### Events -/

structure EventRecord where
  uuid : Bytes
  length : Byte
  flags : Bytes
  handle : ℕ
  relatedHandle : ℕ
  timestamp : ℕ
  maintOpClass : Byte
  maintOpSubclass : Byte
  ldId : ℕ
  headId : Byte
  data : Bytes
  deriving DecidableEq, Repr

def eventRecord (o : ByteOrder) (r : Bytes) : EventRecord :=
  ⟨slice r 0 16, byteAt r 16, slice r 17 3, getLe o 2 r 20, getLe o 2 r 22, getLe o 8 r 24, byteAt r 32,
    byteAt r 33, getLe o 2 r 34, byteAt r 36, slice r 48 80⟩

structure GetEventRecordsRsp where
  flags : Byte
  overflowErrCount : ℕ
  firstOverflowTimestamp : ℕ
  lastOverflowTimestamp : ℕ
  recordCount : ℕ
  records : List EventRecord
  deriving DecidableEq, Repr

/-- CXLMI_MAX_SUPPORTED_EVENT_RECORDS, the room for records in the response. -/
def maxSupportedEventRecords : ℕ := 20

/- The loop runs to the device's count, which nothing bounds. -/
def getEventRecords (eventLog : Byte) : CciCommand GetEventRecordsRsp :=
  request 0x01 0x0 1 (fun _ => [eventLog]) (oneByte_length eventLog) 32
      (32 + maxSupportedEventRecords * 128) fun o pl =>
    let recordCount := getLe o 2 pl 20
    (records pl 32 128 recordCount (eventRecord o)).map fun rs =>
      ⟨byteAt pl 0, getLe o 2 pl 2, getLe o 8 pl 4, getLe o 8 pl 12, recordCount, rs⟩

structure ClearEventRecordsReq where
  eventLog : Byte
  clearFlags : Byte
  handles : List (U 16)
  nrRecs : handles.length < 256

def clearEventRecords (i : ClearEventRecordsReq) : CciCommand Unit :=
  instruct 0x01 0x1 (6 + i.handles.length * 2)
    (fun o => [i.eventLog, i.clearFlags, ⟨i.handles.length, i.nrRecs⟩] ++ zeros 3 ++
      i.handles.flatMap fun h : U 16 => putLe o 2 h)
    fun o => by
      rw [List.length_append, flatMap_length _ _ 2 fun h : U 16 => putLe_length o 2 h]
      rfl

structure EventInterruptPolicy where
  informationalSettings : Byte
  warningSettings : Byte
  failureSettings : Byte
  fatalSettings : Byte
  dcdSettings : Byte
  deriving DecidableEq, Repr

def getEventInterruptPolicy : CciCommand EventInterruptPolicy :=
  query 0x01 0x2 5 fun _ pl => ⟨byteAt pl 0, byteAt pl 1, byteAt pl 2, byteAt pl 3, byteAt pl 4⟩

def setEventInterruptPolicy (i : EventInterruptPolicy) : CciCommand Unit :=
  instruct 0x01 0x3 5
    (fun _ => [i.informationalSettings, i.warningSettings, i.failureSettings, i.fatalSettings, i.dcdSettings])
    fun _ => rfl

def getMctpEventInterruptPolicy : CciCommand ℕ := query 0x01 0x4 2 fun o pl => getLe o 2 pl 0

def setMctpEventInterruptPolicy (eventInterruptSettings : U 16) : CciCommand Unit :=
  instruct 0x01 0x5 2 (fun o => putLe o 2 eventInterruptSettings) fun o => putLe_length o 2 _

def eventNotification (event : U 16) : CciCommand Unit :=
  instruct 0x01 0x6 2 (fun o => putLe o 2 event) fun o => putLe_length o 2 _

/-! ### Firmware update -/

structure GetFwInfoRsp where
  slotsSupported : Byte
  slotInfo : Byte
  caps : Byte
  fwRev1 : Bytes
  fwRev2 : Bytes
  fwRev3 : Bytes
  fwRev4 : Bytes
  deriving DecidableEq, Repr

def getFwInfo : CciCommand GetFwInfoRsp :=
  query 0x02 0x0 0x50 fun _ pl =>
    ⟨byteAt pl 0, byteAt pl 1, byteAt pl 2, slice pl 16 16, slice pl 32 16, slice pl 48 16, slice pl 64 16⟩

structure TransferFwReq where
  action : Byte
  slot : Byte
  offset : U 32
  data : Bytes

def transferFw (i : TransferFwReq) : CciCommand Unit :=
  instruct 0x02 0x1 (128 + i.data.length)
    (fun o => [i.action, i.slot] ++ zeros 2 ++ putLe o 4 i.offset ++ zeros 0x78 ++ i.data)
    fun o => by simp only [List.length_append, putLe_length, zeros_length, List.length_cons, List.length_nil]

def activateFw (action slot : Byte) : CciCommand Unit :=
  instruct 0x02 0x2 2 (fun _ => [action, slot]) (twoBytes_length action slot)

/-! ### Timestamp -/

def getTimestamp : CciCommand ℕ := query 0x03 0x0 8 fun o pl => getLe o 8 pl 0

def setTimestamp (timestamp : U 64) : CciCommand Unit :=
  instruct 0x03 0x1 8 (fun o => putLe o 8 timestamp) (word64_length timestamp)

end LibCxlmi.Commands
