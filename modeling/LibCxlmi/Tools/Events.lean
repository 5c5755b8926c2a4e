import LibCxlmi.Tools.Mailbox
import LibCxlmi.Tools.SdbTunnel

/-!
# Listing event records (cmd_events.c:52-156, cmd_sdb_tunnel.c:2130-2282)

get-event-records asks the library for the records of a log, sdb-tunnel
get-event-records sends the command through the sideband tunnel and reads the
reply itself. Both print the records of the reply and ask again while it says that
there are more events. The questions are the allocation, the ioctls and the printing
of a record; the lines around a record are left out.
-/

namespace LibCxlmi.Tools
open LibCxlmi.Word LibCxlmi.Transport LibCxlmi.Commands LibCxlmi.Dialogue

inductive EventCall where
  | calloc (n : ℕ)
  | getEventRecords (eventLog : Byte)
  | vendor (m : Message) (retSize : ℕ)
  | print (r : EventRecord)

/-- A command is answered by how its ioctl ended. -/
abbrev EventCall.Answer : EventCall → Type
  | .calloc _ => Bool
  | .getEventRecords _ | .vendor _ _ => IoctlResult
  | .print _ => Unit

abbrev EventTool := Program EventCall EventCall.Answer

def printRecords : List EventRecord → EventTool Unit
  | [] => return ()
  | r :: rs => do
      ask (EventCall.print r)
      printRecords rs

/-- MORE_EVENTS. -/
def moreEvents (flags : Byte) : Bool := flags.val.testBit 1

/-- The loop of both functions, cut off after `rounds` rounds. -/
def eventLoop (round : EventTool (Unit ⊕ End)) (rounds : ℕ) : EventTool End := do
  let e ← iterate (fun _ => round) rounds ()
  return e.getD .running

/- Both reserve a buffer first. -/
def withBuffer (n : ℕ) (loop : EventTool End) : EventTool End := do
  let ok ← (ask (EventCall.calloc n) : EventTool Bool)
  if ok = true then loop else return .returned (-1)

/-! ### get-event-records -/

/-- MAX_EVENT_RECORDS, the room for records in the caller's structure. -/
def maxEventRecords : ℕ := 64

/- A mailbox endpoint has no state of its own. The library fills in the structure
exactly when it returns 0. -/
def getEventRecordsRound (o : ByteOrder) (ep : Endpoint) (eventLog : Byte) : EventTool (Unit ⊕ End) := do
  let x ← (ask (EventCall.getEventRecords eventLog) : EventTool IoctlResult)
  match (getEventRecords eventLog).run o (mailboxEnv x) ep none with
  | none => return .inr .undefined
  | some r =>
      match r.value with
      | none => return .inr (.returned r.rc)
      | some rsp => do
          printRecords (rsp.records.take (min rsp.recordCount maxEventRecords))
          return if moreEvents rsp.flags = true then .inl () else .inr (.returned 0)

def parseEventLog (name : String) : Option Byte := parseEventLogLocal name

def eventLogOption (opt v : String) (_ : Option String) : Option (Option String) :=
  if opt = "--log" then some (some v) else none

/-- The log named by the arguments. -/
def getEventRecordsLog (args : List String) : Option Byte :=
  (parseOptions eventLogOption args none).bind fun name => name.bind parseEventLog

def cmdGetEventRecords (o : ByteOrder) (ep : Endpoint) (rounds : ℕ) (args : List String) : EventTool End :=
  match getEventRecordsLog args with
  | none => return .returned (-1)
  | some eventLog =>
      withBuffer (32 + maxEventRecords * 128) (eventLoop (getEventRecordsRound o ep eventLog) rounds)

/-! ### sdb-tunnel get-event-records -/

def sdbMaxEventRecords : ℕ := 20

/-- A record as it lies in memory, read without conversion. -/
def hostEventRecord (o : ByteOrder) (r : Bytes) : EventRecord :=
  ⟨slice r 0 16, byteAt r 16, slice r 17 3, loadWord o (slice r 20 2), loadWord o (slice r 22 2),
    loadWord o (slice r 24 8), byteAt r 32, byteAt r 33, loadWord o (slice r 34 2), byteAt r 36, slice r 48 80⟩

def sdbEventMessage (port eventLog : Byte) : Message := .sdb port 0x00 0x01 1 [eventLog]

/- The payload of the inner reply starts at 16, behind the two headers. -/
def sdbGetEventRecordsRound (o : ByteOrder) (ep : Endpoint) (port eventLog : Byte) : EventTool (Unit ⊕ End) := do
  let size := 16 + 32 + sdbMaxEventRecords * 128
  let x ← (ask (EventCall.vendor (sdbEventMessage port eventLog) size) : EventTool IoctlResult)
  let a := libraryReply o ep (sdbEventMessage port eventLog) size x
  let rsp := fillBuf size (a.data.take size)
  if a.rc ≠ 0 then return .inr (.returned a.rc)
  else if innerReturnCode o rsp ≠ 0 then return .inr (.returned (innerReturnCode o rsp))
  else do
    let count := min (loadWord o (slice rsp 36 2)) sdbMaxEventRecords
    printRecords ((List.range count).map fun k => hostEventRecord o (slice rsp (48 + k * 128) 128))
    return if moreEvents (byteAt rsp 16) = true then .inl () else .inr (.returned 0)

def sdbEventOption (opt v : String) (p : Byte × Option String) : Option (Byte × Option String) :=
  if opt = "--port" then (parsePortId v).map fun port => (port, p.2)
  else if opt = "--log" then some (p.1, some v)
  else none

/-- The port and the log. -/
def sdbEventArgs (args : List String) : Option (Byte × Byte) :=
  (parseOptions sdbEventOption args (0, none)).bind fun p =>
    (p.2.bind parseEventLogLocal).map fun eventLog => (p.1, eventLog)

def sdbTunnelGetEventRecords (o : ByteOrder) (ep : Endpoint) (rounds : ℕ) (args : List String) : EventTool End :=
  match sdbEventArgs args with
  | none => return .returned (-1)
  | some (port, eventLog) =>
      withBuffer (16 + 32 + sdbMaxEventRecords * 128) (eventLoop (sdbGetEventRecordsRound o ep port eventLog) rounds)

/-! ### The device -/

/-- A device with a list of records for each log, the oldest first. `room` records fit
into a reply; the other members are what it says besides. Neither function sends Clear
Event Records, so that the logs stay. -/
structure EventDevice where
  logs : Byte → List (Vec 128)
  room : ℕ
  overflow : Bool
  overflowInfo : Vec 18
  headers : Vec 12
  extStatus : Vec 2

def EventDevice.flags (d : EventDevice) (eventLog : Byte) : Byte :=
  match d.overflow, decide (d.room < (d.logs eventLog).length) with
  | false, false => 0
  | true, false => 1
  | false, true => 2
  | true, true => 3

def EventDevice.sends (d : EventDevice) (eventLog : Byte) : List (Vec 128) := (d.logs eventLog).take d.room

def EventDevice.reply (d : EventDevice) (eventLog : Byte) : Bytes :=
  ([d.flags eventLog, 0] ++ d.overflowInfo.val ++ leBytes 2 (d.sends eventLog).length ++ zeros 10) ++
    (d.sends eventLog).flatMap Subtype.val

def EventDevice.sdbReply (d : EventDevice) (eventLog : Byte) : Bytes :=
  (d.headers.val ++ [0, 0] ++ d.extStatus.val) ++ d.reply eventLog

def EventDevice.answer (d : EventDevice) : (q : EventCall) → q.Answer
  | .calloc _ => true
  | .getEventRecords eventLog => .done 0 (d.reply eventLog)
  | .vendor (.sdb _ 0x00 0x01 _ [eventLog]) _ => .done 0 (d.sdbReply eventLog)
  | .vendor _ _ => .error
  | .print _ => ()

end LibCxlmi.Tools
