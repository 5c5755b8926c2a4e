import LibCxlmi.Cci.Tunnel

/-!
# Endpoints and the system calls under them

The endpoint of private.h with its three kinds of transport data, and the
operating system and device as seen by one command (`Env`): which allocations
succeed, what `sendto`, `poll`, `recvfrom` and `ioctl` answer. A transport
function returns an `Outcome`: the code, the caller's response buffer, what
left the host, and the new state.
-/

namespace LibCxlmi.Transport
open LibCxlmi.Word LibCxlmi.Cci

/-- struct sockaddr_mctp, the members the library sets. -/
structure SockaddrMctp where
  family : ℕ
  network : U 32
  eid : Byte
  type : Byte
  tag : Byte
  deriving DecidableEq, Repr

def mctpTypeCxlFmapi : Byte := 0x7
def mctpTypeCxlCci : Byte := 0x8

def sockaddrMctp (nid : U 32) (eid type : Byte) : SockaddrMctp := ⟨45, nid, eid, type, 0x08⟩
def sockaddrZero : SockaddrMctp := ⟨0, 0, 0, 0, 0⟩

/-- struct cxlmi_transport_mctp. `tag` is the untruncated counter; a header
carries its low byte. -/
structure MctpTransport where
  nid : U 32
  eid : Byte
  sd : ℤ
  fmapiSd : ℤ
  addr : SockaddrMctp
  fmapiAddr : SockaddrMctp
  tag : ℕ
  deriving DecidableEq, Repr

structure MockResponse where
  commandSet : Byte
  command : Byte
  returnCode : U 16
  payload : Bytes
  deriving DecidableEq, Repr

/-- struct cxlmi_transport_mock, without its magic word. -/
structure MockTransport where
  responses : List MockResponse
  commandsSent : ℕ
  responsesReturned : ℕ
  lastCommandSet : Byte
  lastCommand : Byte
  lastPayload : Bytes
  deriving DecidableEq, Repr

inductive TransportData where
  | mctp (m : MctpTransport)
  | mock (k : MockTransport)
  deriving DecidableEq, Repr

/-- struct cxlmi_endpoint; a null `transport_data` is a mailbox endpoint. -/
structure Endpoint where
  transportData : Option TransportData
  fd : ℤ
  hasFmapi : Bool
  deriving DecidableEq, Repr

def mockMagic : U 32 := 0x4D4F434B

/-- `cxlmi_is_mock_endpoint` compares the first word of the transport data with
the magic number, and the first word of MCTP data is the network id. -/
def isMockEndpoint (ep : Endpoint) : Bool :=
  match ep.transportData with
  | none => false
  | some (.mock _) => true
  | some (.mctp m) => m.nid == mockMagic

/-- Transport data is taken for what it was created as. -/
def Endpoint.Identified (ep : Endpoint) : Prop :=
  ∀ m, ep.transportData = some (.mctp m) → m.nid ≠ mockMagic

instance (ep : Endpoint) : Decidable ep.Identified :=
  match h : ep.transportData with
  | some (.mctp m) => decidable_of_iff (m.nid ≠ mockMagic) (by simp [Endpoint.Identified, h])
  | some (.mock _) => isTrue (by simp [Endpoint.Identified, h])
  | none => isTrue (by simp [Endpoint.Identified, h])

theorem identified_of_not_mctp (ep : Endpoint) (h : ∀ m, ep.transportData ≠ some (.mctp m)) :
    ep.Identified :=
  fun m hm => absurd hm (h m)

theorem identified_mctp (ep : Endpoint) (m : MctpTransport) (h : ep.transportData = some (.mctp m)) :
    ep.Identified ↔ m.nid ≠ mockMagic := by
  constructor
  · intro hid
    exact hid m h
  · intro hn m' hm'
    obtain rfl := TransportData.mctp.inj (Option.some.inj (h.symm.trans hm'))
    exact hn

/-! ### System calls -/

/-- Places of the library that allocate while a command runs. -/
inductive AllocSite where
  | request
  | response
  | tunnelReq
  | outerReq
  | tunnelRsp
  | mockPayload
  deriving DecidableEq, Repr

inductive PollEnd where
  | ready
  | timedOut
  | failed
  deriving DecidableEq, Repr

inductive RecvResult where
  | error
  | datagram (d : Bytes)
  deriving DecidableEq, Repr

/-- The kernel hands back the device's 16-bit return code and the bytes the
device returned. -/
inductive IoctlResult where
  | error
  | done (retval : U 16) (out : Bytes)
  deriving DecidableEq, Repr

structure Env where
  alloc : AllocSite → ℕ → Bool
  sendOk : Bool
  interrupts : ℕ
  poll : PollEnd
  recv : RecvResult
  ioctl : IoctlResult

inductive Tx where
  | mctp (sd : ℤ) (addr : SockaddrMctp) (msg : Bytes)
  | mailbox (fd : ℤ) (opcode : ℕ) (payload : Bytes)
  deriving DecidableEq, Repr

/- `taken` is the descriptor a datagram was taken from, if one was. -/
structure Outcome (σ : Type) where
  rc : ℤ
  rsp : Bytes
  sent : List Tx
  taken : Option ℤ
  st : σ

def Outcome.map {σ τ : Type} (f : σ → τ) (r : Outcome σ) : Outcome τ :=
  ⟨r.rc, r.rsp, r.sent, r.taken, f r.st⟩

/-- `poll` in a loop that starts over after EINTR. -/
def waitReply : ℕ → PollEnd → Bool
  | 0, .ready => true
  | 0, _ => false
  | n + 1, e => waitReply n e

theorem waitReply_eq (n : ℕ) (e : PollEnd) : waitReply n e = decide (e = .ready) := by
  induction n with
  | zero => cases e <;> rfl
  | succ n ih => exact ih

/- Linux caps one transfer at MAX_RW_COUNT, so the counts that `sendto` and
`recvfrom` return always fit the `int` the library keeps them in. -/
def maxRwCount : ℕ := 0x7ffff000

def transferred (msg : Bytes) : Bytes := msg.take maxRwCount

def received (bufSz : ℕ) (d : Bytes) : Bytes := d.take (min bufSz maxRwCount)

theorem received_length_le (bufSz : ℕ) (d : Bytes) : (received bufSz d).length ≤ bufSz := by
  unfold received
  rw [List.length_take]
  omega

theorem received_length_lt (bufSz : ℕ) (d : Bytes) : (received bufSz d).length < 2 ^ 31 := by
  unfold received maxRwCount
  rw [List.length_take]
  omega

theorem received_of_le (bufSz : ℕ) (d : Bytes) (hb : d.length ≤ bufSz) (hm : d.length ≤ maxRwCount) :
    received bufSz d = d :=
  List.take_of_length_le (Nat.le_min.mpr ⟨hb, hm⟩)

/-- The zeroed receive buffer and the value of `recvfrom`. -/
def recvfrom (env : Env) (bufSz : ℕ) : Bytes × ℤ :=
  match env.recv with
  | .error => (zeros bufSz, -1)
  | .datagram d => (fillBuf bufSz (received bufSz d), (received bufSz d).length)

def takenFrom (env : Env) (sd : ℤ) : Option ℤ :=
  match env.recv with
  | .error => none
  | .datagram _ => some sd

/-- One request on a socket. `counted` callers compare the count `sendto`
returns with the size of the message. -/
inductive Exchange where
  | notSent
  | noReply
  | reply (buf : Bytes) (len : ℤ)
  deriving DecidableEq, Repr

def mctpExchange (env : Env) (sd : ℤ) (msg : Bytes) (bufSz : ℕ) (counted : Bool) : Exchange :=
  if sd < 0 ∨ env.sendOk = false then .notSent
  else if counted = true ∧ (transferred msg).length ≠ msg.length then .noReply
  else if waitReply env.interrupts env.poll then .reply (recvfrom env bufSz).1 (recvfrom env bufSz).2
  else .noReply

end LibCxlmi.Transport
