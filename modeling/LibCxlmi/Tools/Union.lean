import LibCxlmi.Tools.Args

/-!
# Union download (cmd_vu_dlunion.c)

BEGIN opens a session, then the device says in each response what it wants
next: data of the image, to be asked again later, or FINISH. Every action has
its own unlock and lock. The two loops without a bound are cut off after
`rounds` rounds. What is only printed (`last_state`, `last_image`) is left out.
-/

namespace LibCxlmi.Tools
open LibCxlmi.Word LibCxlmi.Dialogue

inductive FwAction where
  | begin
  | data
  | query
  | finish
  | abort
  | beginSocRt
  deriving DecidableEq, Repr

def FwAction.code : FwAction → U 32
  | .begin => 0
  | .data => 1
  | .query => 2
  | .finish => 3
  | .abort => 4
  | .beginSocRt => 5

theorem FwAction.code_injective : Function.Injective FwAction.code := by
  intro a b
  cases a <;> cases b <;> decide

def FwAction.isBegin : FwAction → Bool
  | .begin | .beginSocRt => true
  | _ => false

inductive FwState where
  | idle
  | needData
  | preparing
  | writing
  | readyToFinish
  | complete
  | failed
  | aborting
  | aborted
  | unknown
  deriving DecidableEq, Repr

def fwState (w : U 32) : FwState :=
  match w.val with
  | 0 => .idle
  | 1 => .needData
  | 2 => .preparing
  | 3 => .writing
  | 4 => .readyToFinish
  | 5 => .complete
  | 6 => .failed
  | 7 => .aborting
  | 8 => .aborted
  | _ => .unknown

def FwState.isBusy : FwState → Bool
  | .preparing | .writing | .aborting => true
  | _ => false

def FwState.isTerminal : FwState → Bool
  | .complete | .failed | .aborted => true
  | _ => false

structure FwdownloadOutput where
  version : U 32
  sessionId : U 32
  state : U 32
  result : U 32
  acceptedSequence : U 32
  imageIndex : U 32
  nextOffset : U 32
  nextLength : U 32
  receivedBytes : U 32
  totalBytes : U 32
  retryAfterMs : U 32
  deriving DecidableEq, Repr

def hostWord (o : ByteOrder) (b : Bytes) (i : ℕ) : U 32 := toU32 (loadWord o (slice b i 4))

def FwdownloadOutput.read (o : ByteOrder) (b : Bytes) : FwdownloadOutput :=
  ⟨hostWord o b 0, hostWord o b 4, hostWord o b 8, hostWord o b 12, hostWord o b 16, hostWord o b 20,
    hostWord o b 24, hostWord o b 28, hostWord o b 32, hostWord o b 36, hostWord o b 40⟩

def noResponse : FwdownloadOutput := ⟨0, 0, 0, 0, 0, 0, 0, 0, 0, 0, 0⟩

/-! ### One action -/

def fwdownloadRequest (a : FwAction) (sessionOrPartition packageOffset sequence : U 32) (payload : Bytes) :
    VuRequest :=
  ⟨0x0241, 0, toU32 payload.length, 44, a.code, sessionOrPartition, packageOffset, sequence, payload⟩

/-- What `fwdownload_send` returns for the results of the command and the lock. -/
def sendResult (a : FwAction) (sessionOrPartition : U 32) (rc lockRc : ℤ) (rsp : FwdownloadOutput) : ℤ :=
  if rc ≠ 0 then -1
  else if lockRc ≠ 0 then -1
  else if rsp.version ≠ 1 then -1
  else if a.isBegin = false ∧ rsp.sessionId ≠ sessionOrPartition then -1
  else if rsp.result ≠ 0 then int32 rsp.result.val
  else 0

def fwdownloadSend (o : ByteOrder) (a : FwAction) (sessionOrPartition packageOffset sequence : U 32)
    (payload : Bytes) : Tool (ℤ × FwdownloadOutput) :=
  if 2016 < payload.length then return (-1, noResponse)
  else do
    let rc ← vuMbUnlock o
    if rc ≠ 0 then return (-1, noResponse)
    else do
      let out ← vendorSpecific (.vu (fwdownloadRequest a sessionOrPartition packageOffset sequence payload)) 44
      let lockRc ← vuMbLock o
      let rsp := FwdownloadOutput.read o out.2
      return (sendResult a sessionOrPartition out.1 lockRc rsp, rsp)

/-! ### Opening the session -/

def beginAction : UnionImage → FwAction
  | .socRtBl2 => .beginSocRt
  | .union => .begin

def beginPartition : UnionImage → Option UnionPartition → U 32
  | .union, some .a => 1
  | .union, some .b => 2
  | _, _ => 0

/-- The size as the protocol has it. -/
def size32 (f : File) : U 32 := toU32 f.size

/-- Where the function jumps to `out` from: the return code, whether the session
is to be aborted, and the state in the last response. -/
structure UnionExit where
  rc : ℤ
  abortNeeded : Bool
  state : U 32

/- Times are 64 bits wide, and so are their differences. -/
def nowMs (ms : ℕ) : U 64 := Fin.ofNat (2 ^ 64) ms

/-- One try; a device that is busy is given up on after 35 seconds. -/
def beginRound (o : ByteOrder) (f : File) (image : UnionImage) (partition : Option UnionPartition)
    (start : U 64) : Tool (Unit ⊕ (FwdownloadOutput ⊕ UnionExit)) := do
  let (rc, rsp) ← fwdownloadSend o (beginAction image) (beginPartition image partition) (size32 f) 2016 []
  let failed : Tool (Unit ⊕ (FwdownloadOutput ⊕ UnionExit)) := return .inr (.inr ⟨-1, false, rsp.state⟩)
  if rc = 0 then return .inr (.inl rsp)
  else if rc ≠ 2 then failed
  else do
    let now ← clockGettime
    match now with
    | none => failed
    | some ms =>
        if 35000 ≤ (nowMs ms - start).val then failed
        else do
          usleep 1000000
          return .inl ()

/-! ### The session -/

/-- `busyState` is UINT32_MAX when the last response was not a busy one;
`lastData` is the image, offset and length of the last data sent. -/
structure Session where
  rsp : FwdownloadOutput
  busyState : U 32
  busySinceMs : U 64
  lastData : Option (U 32 × U 32 × U 32)

def uint32Max : U 32 := 0xFFFFFFFF

/-- The checks on the range the device asks for. -/
def rangeOk (f : File) (offset length : U 32) : Bool :=
  decide (length ≠ 0) && decide (length.val ≤ 2016) && decide (offset.val ≤ (size32 f).val) &&
    decide (length.val ≤ (size32 f).val - offset.val)

def retryMs (rsp : FwdownloadOutput) : ℕ :=
  if rsp.retryAfterMs = 0 then 10 else min rsp.retryAfterMs.val 1000

def failWith (rsp : FwdownloadOutput) : Tool (Session ⊕ UnionExit) := return .inr ⟨-1, true, rsp.state⟩

/- A failed action ends the session with the response it left. -/
def sendAction (o : ByteOrder) (a : FwAction) (sessionId offset sequence : U 32) (payload : Bytes)
    (next : FwdownloadOutput → Tool (Session ⊕ UnionExit)) : Tool (Session ⊕ UnionExit) := do
  let (rc, rsp) ← fwdownloadSend o a sessionId offset sequence payload
  if rc ≠ 0 then failWith rsp else next rsp

def sendData (o : ByteOrder) (f : File) (sessionId : U 32) (s : Session) : Tool (Session ⊕ UnionExit) :=
  let sequence := s.rsp.acceptedSequence + 1
  let range := (s.rsp.imageIndex, s.rsp.nextOffset, s.rsp.nextLength)
  if s.lastData = some range then failWith s.rsp
  else if rangeOk f s.rsp.nextOffset s.rsp.nextLength = false then failWith s.rsp
  else
    checked (fseekSet s.rsp.nextOffset.val) (failWith s.rsp) <|
    checked (f.fread s.rsp.nextOffset.val s.rsp.nextLength.val) (failWith s.rsp) <|
    sendAction o .data sessionId s.rsp.nextOffset sequence (f.read s.rsp.nextOffset.val s.rsp.nextLength.val)
      fun rsp =>
        if rsp.acceptedSequence ≠ sequence then failWith rsp
        else return .inl ⟨rsp, uint32Max, 0, some range⟩

def sendQuery (o : ByteOrder) (sessionId : U 32) (s : Session) : Tool (Session ⊕ UnionExit) := do
  usleep (retryMs s.rsp * 1000)
  sendAction o .query sessionId 0 0 [] fun rsp => return .inl { s with rsp := rsp }

/-- A busy device is asked again later, for 300 seconds in one state. -/
def waitBusy (o : ByteOrder) (sessionId : U 32) (s : Session) : Tool (Session ⊕ UnionExit) := do
  let now ← clockGettime
  match now with
  | none => failWith s.rsp
  | some ms =>
      if s.busyState ≠ s.rsp.state then
        sendQuery o sessionId { s with busyState := s.rsp.state, busySinceMs := nowMs ms }
      else if 300000 ≤ (nowMs ms - s.busySinceMs).val then failWith s.rsp
      else sendQuery o sessionId s

def sendFinish (o : ByteOrder) (sessionId : U 32) (s : Session) : Tool (Session ⊕ UnionExit) :=
  sendAction o .finish sessionId 0 0 [] fun rsp => return .inl ⟨rsp, uint32Max, 0, s.lastData⟩

def unionRound (o : ByteOrder) (f : File) (sessionId : U 32) (s : Session) : Tool (Session ⊕ UnionExit) :=
  if s.rsp.totalBytes ≠ size32 f ∨ s.rsp.totalBytes < s.rsp.receivedBytes then failWith s.rsp
  else
    match fwState s.rsp.state with
    | .preparing | .writing | .aborting => waitBusy o sessionId s
    | .needData => sendData o f sessionId s
    | .readyToFinish => sendFinish o sessionId s
    | .complete => return .inr ⟨0, false, s.rsp.state⟩
    | .failed | .aborted => return .inr ⟨-1, false, s.rsp.state⟩
    | .idle | .unknown => failWith s.rsp

/-! ### The function -/

/-- From `out` on. -/
def unionOut (o : ByteOrder) (sessionId : U 32) (e : UnionExit) : Tool End :=
  if e.abortNeeded = true ∧ (fwState e.state).isTerminal = false ∧ sessionId ≠ 0 then do
    let _ ← fwdownloadSend o .abort sessionId 0 0 []
    return .returned e.rc
  else return .returned e.rc

def unionSession (o : ByteOrder) (f : File) (rounds : ℕ) (rsp : FwdownloadOutput) : Tool End :=
  if rsp.sessionId = 0 ∨ fwState rsp.state ≠ .needData ∨ rsp.totalBytes ≠ size32 f then
    unionOut o 0 ⟨-1, false, rsp.state⟩
  else do
    let e ← iterate (unionRound o f rsp.sessionId) rounds ⟨rsp, uint32Max, 0, none⟩
    match e with
    | none => return .running
    | some e => unionOut o rsp.sessionId e

def unionDownload (o : ByteOrder) (f : File) (image : UnionImage) (partition : Option UnionPartition)
    (rounds : ℕ) : Tool End :=
  checked fseekEnd (return .returned (-1)) <|
  checked ftell (return .returned (-1)) <|
  if f.size < 116 then return .returned (-1)
  else checked (fseekSet 0) (return .returned (-1)) do
    let start ← clockGettime
    match start with
    | none => return .returned (-1)
    | some ms => do
        let begun ← iterate (fun _ => beginRound o f image partition (nowMs ms)) rounds ()
        match begun with
        | none => return .running
        | some (.inl rsp) => unionSession o f rounds rsp
        | some (.inr e) => unionOut o 0 e

/-- The file, the image and the partition are what `parse_vu_dlunion_req` stores. -/
def vuDlunionDownload (o : ByteOrder) (disk : Disk) (params : String × UnionImage × Option UnionPartition)
    (rounds : ℕ) : Tool End :=
  match disk params.1 with
  | none => return .returned (-1)
  | some f => unionDownload o f params.2.1 params.2.2 rounds

def cmdVuDlunion (o : ByteOrder) (disk : Disk) (rounds : ℕ) (args : List String) : Tool End :=
  match parseVuDlunionReq args with
  | none => return .returned (-1)
  | some params => vuDlunionDownload o disk params rounds

end LibCxlmi.Tools
