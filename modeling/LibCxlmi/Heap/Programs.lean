import LibCxlmi.Heap.Live
import LibCxlmi.Run.MockQueue

/-!
# The library and its memory

The functions of cxlmi.c (114-143, 192-207, 249-346, 1144-1208, 1264-1353, 1632-1675) and
mock.c on the blocks they keep between calls, in the order of the source: the context, the
endpoints with their names and transports, the responses of a mock and their payloads. What
an endpoint is and answers is left to the model without memory (LibCxlmi.Run); its blocks
are kept beside it. What the allocator and the system give are arguments. A command is
`send_cmd_cci`: the buffers that the functions of commands.c and the tunnels allocate for one
call, and what is decoded from them, are left out here.

A function of a list looks at nodes on it; a debug build looks at all of them, and so do
the programs here.
-/

namespace LibCxlmi.Heap
open LibCxlmi.Word LibCxlmi.Cci LibCxlmi.Transport LibCxlmi.Run

/-! ### What is in memory -/

/-- An endpoint with its blocks. `queue` are the responses of a mock with their payloads.
A pointer the endpoint has no use for is not looked at. -/
structure Slot where
  ep : Addr
  devname : Addr
  data : Addr
  last : Addr
  queue : List (Addr × Addr)
  reg : Registered

def queueCells (queue : List (Addr × Addr)) : Live := (queue.map fun q => {(q.1, .response)} + bytesAt q.2).sum

def Slot.owned (t : Slot) : Live :=
  match t.reg.ep.transportData with
  | none => bytesAt t.devname
  | some (.mctp _) => {(t.data, .mctp)}
  | some (.mock _) => {(t.data, .mock)} + (bytesAt t.last + queueCells t.queue)

def Slot.cells (t : Slot) : Live := {(t.ep, .endpoint)} + t.owned

structure World where
  ctx : Addr
  probeEnabled : Bool
  slots : List Slot

def World.cells (w : World) : Live := {(w.ctx, .ctx)} + (w.slots.map Slot.cells).sum

def World.add (w : World) (t : Slot) : World := { w with slots := t :: w.slots }

def World.find (w : World) (ep : Addr) : Option Slot := w.slots.find? fun t => t.ep == ep

def World.put (w : World) (ep : Addr) (t : Slot) : World :=
  { w with slots := w.slots.replaceF fun u => if u.ep = ep then some t else none }

def World.remove (w : World) (ep : Addr) : World := { w with slots := w.slots.eraseP fun t => t.ep == ep }

/- The nodes of the list of endpoints, and of the list of responses. -/
def World.nodes (w : World) : List Cell := (w.ctx, .ctx) :: w.slots.map fun t => (t.ep, .endpoint)

def Slot.nodes (t : Slot) : List Cell := (t.data, .mock) :: t.queue.map fun q => (q.1, .response)

/- The block behind `transport_data`, if there is one. -/
def Slot.transport (t : Slot) : List Cell :=
  match t.reg.ep.transportData with
  | none => []
  | some (.mctp _) => [(t.data, .mctp)]
  | some (.mock _) => [(t.data, .mock)]

theorem update_named (r : Registered) (e : Endpoint)
    (h : (if e.transportData = none then r.devname else none) ≠ none) : e.transportData = none := by
  by_contra hne
  exact h (if_neg hne)

/-- The endpoint has become `e`. -/
def Slot.update (t : Slot) (e : Endpoint) : Slot :=
  { t with reg := ⟨if e.transportData = none then t.reg.devname else none, e, update_named t.reg e⟩ }

/-! ### Closing -/

def isMock (t : Slot) : Act Bool := do
  use .endpoint t.ep
  lookAt t.transport
  return isMockEndpoint t.reg.ep

/- The loop of `cxlmi_mock_clear_responses`. -/
def drain (mock : Addr) : List (Addr × Addr) → Act Unit
  | [] => return
  | q :: qs => do
      lookAt ((mock, .mock) :: (q :: qs).map fun q => (q.1, .response))
      free q.2
      free q.1
      drain mock qs

def freeResponses (t : Slot) : Act Unit := do
  lookAt t.nodes
  drain t.data t.queue

def mockClose (t : Slot) : Act Unit := do
  freeResponses t
  use .mock t.data
  free t.last
  free t.data
  use .endpoint t.ep

def mctpClose (t : Slot) : Act Unit := do
  use .mctp t.data
  free t.data
  use .endpoint t.ep

def closeTransport (t : Slot) : Act Unit := do
  if ← isMock t then mockClose t
  else if t.reg.ep.transportData ≠ none then mctpClose t
  else free t.devname

def closeSlot (w : World) (t : Slot) : Act Unit := do
  closeTransport t
  lookAt w.nodes
  free t.ep

/-- A pointer that is not to an endpoint cannot be used as one. -/
def withSlot {α : Type} (w : World) (ep : Addr) (f : Slot → Act (α × World)) : Act (α × World) := do
  use .endpoint ep
  let t ← orWild (w.find ep)
  f t

def cxlmiClose (w : World) (ep : Addr) : Act (Unit × World) :=
  if ep = 0 then return ((), w)
  else withSlot w ep fun t => do
    closeSlot w t
    return ((), w.remove ep)

/-! ### Contexts -/

def cxlmiNewCtx (place : Addr) (probeEnabled : Bool) : Act (Option World) := do
  let ctx ← alloc .ctx place
  return if ctx = 0 then none else some ⟨ctx, probeEnabled, []⟩

/- The loop of `cxlmi_free_ctx`. -/
def closeAll (ctx : Addr) (probeEnabled : Bool) : List Slot → Act Unit
  | [] => return
  | t :: ts => do
      closeSlot ⟨ctx, probeEnabled, t :: ts⟩ t
      lookAt (World.nodes ⟨ctx, probeEnabled, ts⟩)
      closeAll ctx probeEnabled ts

def cxlmiFreeCtx (w : World) : Act Unit := do
  lookAt w.nodes
  closeAll w.ctx w.probeEnabled w.slots
  free w.ctx

/-! ### Opening -/

/- The loops against duplicates. -/
def anySlot (test : Slot → Act Bool) : List Slot → Act Bool
  | [] => return false
  | t :: ts => do
      use .endpoint t.ep
      if ← test t then return true
      anySlot test ts

theorem blank_named : (none : Option Bytes) ≠ none → (none : Option TransportData) = none := fun _ => rfl

theorem mctp_nameless (l : Life) : (none : Option Bytes) ≠ none → l.ep.transportData = none := fun h => absurd rfl h

theorem mock_nameless : (none : Option Bytes) ≠ none → mockOpened.transportData = none := fun h => absurd rfl h

theorem mailbox_named (devname : Bytes) : some devname ≠ none → (none : Option TransportData) = none := fun _ => rfl

/-- An endpoint as `init_endpoint` makes it. -/
def blank (ep : Addr) : Slot := ⟨ep, 0, 0, 0, [], ⟨none, ⟨none, -1, false⟩, blank_named⟩⟩

def closeFailed (w : World) (ep : Addr) : Act (Addr × World) := do
  closeSlot (w.add (blank ep)) (blank ep)
  return (0, w)

/- The loop against duplicates and `init_endpoint`, in front of what opens the endpoint. -/
def newEndpoint (w : World) (test : Slot → Act Bool) (place : Addr) (rest : Addr → Act (Addr × World)) :
    Act (Addr × World) := do
  use .ctx w.ctx
  if ← anySlot test w.slots then return (0, w)
  let ep ← alloc .endpoint place
  if ep = 0 then return (0, w)
  lookAt (w.add (blank ep)).nodes
  rest ep

/-- What `calloc`, `open` and `strdup` give `cxlmi_open`. -/
structure DevCalls where
  ep : Addr
  fd : ℤ
  devname : Addr

def Slot.name (t : Slot) : List Cell :=
  if t.reg.ep.transportData = none ∧ t.devname ≠ 0 then [(t.devname, .bytes)] else []

def hasDevname (devname : Bytes) (t : Slot) : Act Bool := do
  lookAt t.name
  return t.reg.devname == some devname

def deviceSlot (w : World) (devname : Bytes) (sys : DevCalls) : Slot :=
  ⟨sys.ep, sys.devname, 0, 0, [], ⟨some devname, ⟨none, sys.fd, w.probeEnabled⟩, mailbox_named devname⟩⟩

def cxlmiOpen (w : World) (devname : Bytes) (sys : DevCalls) : Act (Addr × World) :=
  newEndpoint w (hasDevname devname) sys.ep fun ep =>
    if sys.fd < 0 then closeFailed w ep
    else do
      let name ← alloc .bytes sys.devname
      if name = 0 then closeFailed w ep
      else
        lookAt [(ep, .endpoint), (w.ctx, .ctx)]
        return (ep, w.add (deviceSlot w devname sys))

structure MctpCalls where
  ep : Addr
  mctp : Addr
  sd : ℤ
  probe : Env
  fmapiSd : ℤ

def hasMctpId (netid : U 32) (eid : Byte) (t : Slot) : Act Bool := do
  lookAt t.transport
  return scannedId t.reg.ep == some (netid, eid)

/-- The open without memory, up to and with the probe. -/
def MctpCalls.opening (sys : MctpCalls) (netid : U 32) (eid : Byte) (probeEnabled : Bool) : Opening :=
  .mctp netid eid sys.sd.toNat probeEnabled sys.probe sys.fmapiSd

def mctpSlot (sys : MctpCalls) (l : Life) : Slot :=
  ⟨sys.ep, 0, sys.mctp, 0, [], ⟨none, l.ep, mctp_nameless l⟩⟩

def cxlmiOpenMctp (o : ByteOrder) (w : World) (netid : U 32) (eid : Byte) (sys : MctpCalls) : Act (Addr × World) :=
  newEndpoint w (hasMctpId netid eid) sys.ep fun ep => do
    let mctp ← alloc .mctp sys.mctp
    if mctp = 0 then closeFailed w ep
    else if sys.sd < 0 then
      free mctp
      closeFailed w ep
    else
      lookAt [(mctp, .mctp), (ep, .endpoint), (w.ctx, .ctx)]
      let l ← orWild ((sys.opening netid eid w.probeEnabled).run o)
      return (ep, w.add (mctpSlot sys l))

structure MockCalls where
  ep : Addr
  mock : Addr

def mockSlot (sys : MockCalls) : Slot :=
  ⟨sys.ep, 0, sys.mock, 0, [], ⟨none, mockOpened, mock_nameless⟩⟩

def cxlmiOpenMock (w : World) (sys : MockCalls) : Act (Addr × World) := do
  let ep ← alloc .endpoint sys.ep
  if ep = 0 then return (0, w)
  let mock ← alloc .mock sys.mock
  if mock = 0 then
    free ep
    return (0, w)
  else
    lookAt (w.add (mockSlot sys)).nodes
    return (ep, w.add (mockSlot sys))

/-! ### Using an endpoint -/

/- A call on the endpoint `ep` that leaves it open. -/
def onOpen {α : Type} (w : World) (ep : Addr) (f : Slot → Act (α × Slot)) : Act (α × World) :=
  withSlot w ep fun t => do
    let r ← f t
    return (r.1, w.put ep r.2)

def onEndpoint {α : Type} (w : World) (ep : Addr) (null : α) (f : Slot → Act (α × Slot)) : Act (α × World) :=
  if ep = 0 then return (null, w) else onOpen w ep f

/- The transport data of any endpoint is taken for that of MCTP. -/
def toggleFmapi {α : Type} (nop : Bool) (t : Slot) (x : α) (run : Option Life) (ret : Life → α) : Act (α × Slot) := do
  use .endpoint t.ep
  if t.reg.ep.hasFmapi = nop then return (x, t)
  if t.reg.ep.transportData ≠ none then use .mctp t.data
  let l ← orWild run
  return (ret l, t.update l.ep)

def enableFmapi (sock : ℤ) (t : Slot) : Act (Bool × Slot) :=
  toggleFmapi true t true (endpointEnableFmapi ⟨t.reg.ep, []⟩ sock) fun l => l.ep.hasFmapi

def disableFmapi (t : Slot) : Act (Bool × Slot) :=
  toggleFmapi false t true (endpointDisableFmapi ⟨t.reg.ep, []⟩) fun _ => true

/-- What the two allocations of `cxlmi_mock_set_response` give. -/
structure ResponseCalls where
  resp : Addr
  payload : Addr

/- A payload of no bytes is none; without memory for it the response is given up. -/
def storePayload (resp : Addr) (payload : Bytes) (place : Addr) : Act (Option Addr) :=
  if payload = [] then return some 0
  else do
    let p ← alloc .bytes place
    if p = 0 then
      free resp
      return none
    else return some p

def setResponse (set cmd : Byte) (code : U 16) (payload : Option Bytes) (sys : ResponseCalls) (t : Slot) :
    Act (ℤ × Slot) := do
  if ← isMock t then
    let resp ← alloc .response sys.resp
    if resp = 0 then return (-1, t)
    match ← storePayload resp (payload.getD []) sys.payload with
    | none => return (-1, t)
    | some p =>
        lookAt ((resp, .response) :: t.nodes)
        let r ← orWild (mockSetResponse true true t.reg.ep set cmd code payload)
        return (r.2, { t.update r.1 with queue := t.queue ++ [(resp, p)] })
  else return (-1, t)

def clearResponses (t : Slot) : Act (Unit × Slot) := do
  if ← isMock t then
    freeResponses t
    let r ← orWild (mockClearResponses t.reg.ep)
    return ((), { t.update r.1 with queue := [] })
  else return ((), t)

/-- The blocks of the response that answers the command, and those of the others. -/
def takeAlong {γ : Type} (set cmd : Byte) : List MockResponse → List γ → Option (γ × List γ)
  | r :: rs, q :: qs =>
      if r.commandSet = set ∧ r.command = cmd then some (q, qs)
      else (takeAlong set cmd rs qs).map fun p => (p.1, q :: p.2)
  | _, _ => none

def responsesOf (e : Endpoint) : List MockResponse :=
  match e.transportData with
  | some (.mock k) => k.responses
  | _ => []

def keepPayload (req : Bytes) (place : Addr) : Act Addr := if 0 < plLength req then alloc .bytes place else return 0

/- The memory of a mock that gets a command: where the payload is kept, and the responses
that are left. -/
def answerCommand (t : Slot) (req : Bytes) (place : Addr) : Act (Addr × List (Addr × Addr)) := do
  use .mock t.data
  free t.last
  let last ← keepPayload req place
  lookAt t.nodes
  match takeAlong (commandSet req) (command req) (responsesOf t.reg.ep) t.queue with
  | none => return (last, t.queue)
  | some (q, rest) =>
      free q.2
      free q.1
      return (last, rest)

/- Whether there is memory for the payload is what `place` says. -/
def placing (env : Env) (place : Addr) : Env :=
  { env with alloc := fun site n => if site = .mockPayload then decide (place ≠ 0) else env.alloc site n }

def sendCommand (o : ByteOrder) (ep : Endpoint) (c : MockSend) (place : Addr) : Option (Outcome Endpoint) :=
  let armed := armCciRequest o ep c.set c.cmd c.pl
  sendCmdCci o (placing c.env place) armed.2 c.ti armed.1 c.rspSz c.rspMin

def commandSlot (o : ByteOrder) (c : MockSend) (place : Addr) (t : Slot) : Act ((ℤ × Bytes) × Slot) := do
  let mock ← isMock t
  let req := (armCciRequest o t.reg.ep c.set c.cmd c.pl).1
  let r ← orWild (sendCommand o t.reg.ep c place)
  if mock ∧ refused t.reg.ep c.ti req = false then
    let m ← answerCommand t req place
    return ((r.rc, r.rsp), { t.update r.st with last := m.1, queue := m.2 })
  else return ((r.rc, r.rsp), t.update r.st)

end LibCxlmi.Heap
