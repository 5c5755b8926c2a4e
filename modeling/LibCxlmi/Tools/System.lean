import LibCxlmi.Dialogue.Program
import LibCxlmi.Commands.General
import LibCxlmi.Commands.Logs

/-!
# What the tools ask for (tools/mbcci-sfx)

A subcommand of mbcci-sfx is a program in dialogue with the C library, the
operating system and the device. The questions are the calls whose outcome it
does not decide: reads, allocations, the clock, and the commands it sends.

A vendor command is the structure the tool fills in. `Message.encode` is what
that structure is in memory.
-/

namespace LibCxlmi.Tools
open LibCxlmi.Word LibCxlmi.Commands LibCxlmi.Dialogue

/-! ### Vendor requests -/

/-- A VU request: eight words, of which the last four are the command's own, and
what follows them (docs/vu_handler_def.h). -/
structure VuRequest where
  vuCmdId : U 32
  status : U 32
  inSz : U 32
  outSz : U 32
  arg1 : U 32
  arg2 : U 32
  arg3 : U 32
  arg4 : U 32
  payload : Bytes
  deriving DecidableEq, Repr

def VuRequest.words (r : VuRequest) : List (U 32) :=
  [r.vuCmdId, r.status, r.inSz, r.outSz, r.arg1, r.arg2, r.arg3, r.arg4]

/- The tool copies the structure as it lies in memory. -/
def VuRequest.encode (o : ByteOrder) (r : VuRequest) : Bytes :=
  (r.words.flatMap fun w : U 32 => storeWord o 4 w.val) ++ r.payload

def vuunlock : VuRequest := ⟨0x0, 0, 0, 0, 0, 0, 0, 0, []⟩
def vulock : VuRequest := ⟨0x1, 0, 0, 0, 0, 0, 0, 0, []⟩

def opcodeVu : U 16 := 0xCC53
def sdbTunnelOpcode : U 16 := 0xCCCC

/-- What goes out as a vendor-specific command: a VU request as it is, one inside
the sideband tunnel, or another CCI request inside it, of whose `pl_length`
`lenBytes` bytes are filled in. -/
inductive Message where
  | vu (r : VuRequest)
  | sdbVu (port : Byte) (r : VuRequest)
  | sdb (port cmd set : Byte) (lenBytes : ℕ) (payload : Bytes)
  deriving DecidableEq, Repr

/- `sdb_tunnel_req_hdr` and the inner `cxlmi_cci_msg`. -/
def sdbPacket (o : ByteOrder) (port cmd set : Byte) (lenBytes : ℕ) (payload : Bytes) : Bytes :=
  [port, 0] ++ storeWord o 2 (12 + payload.length) ++
    ([0, 0, 0, cmd, set] ++ fillBuf 3 (leBytes lenBytes payload.length) ++ zeros 4 ++ payload)

def Message.opcode : Message → U 16
  | .vu _ => opcodeVu
  | .sdbVu _ _ => sdbTunnelOpcode
  | .sdb _ _ _ _ _ => sdbTunnelOpcode

def Message.encode (o : ByteOrder) : Message → Bytes
  | .vu r => r.encode o
  | .sdbVu port r => sdbPacket o port 0x53 0xCC 2 (r.encode o)
  | .sdb port cmd set lenBytes payload => sdbPacket o port cmd set lenBytes payload

/-- The arguments of `cxlmi_cmd_vendor_specific`, with room for `retSize` bytes. -/
def Message.req (o : ByteOrder) (m : Message) (retSize : ℕ) : VendorSpecificReq :=
  ⟨m.opcode, true, m.encode o, retSize != 0, retSize⟩

/-! ### Questions -/

/-- A file on disk, as long as `ftell` can say. -/
structure File where
  size : ℕ
  data : ℕ → Byte
  size_lt : size < 2 ^ 63

def File.read (f : File) (pos len : ℕ) : Bytes := (List.range len).map fun i => f.data (pos + i)

@[simp] theorem File.read_length (f : File) (pos len : ℕ) : (f.read pos len).length = len := by
  rw [File.read, List.length_map, List.length_range]

theorem File.read_add (f : File) (pos a b : ℕ) : f.read pos (a + b) = f.read pos a ++ f.read (pos + a) b := by
  simp only [File.read, List.range_add, List.map_append, List.map_map]
  congr 1
  apply List.map_congr_left
  intro i _
  simp only [Function.comp_apply, Nat.add_assoc]

/-- What `fopen` finds for reading. -/
abbrev Disk := String → Option File

/-- The result of a vendor-specific command, and the payload of the device's reply. -/
structure VendorReply where
  rc : ℤ
  data : Bytes
  deriving DecidableEq, Repr

inductive SysCall where
  | fseekEnd
  | ftell
  | fseekSet (off : ℕ)
  | fread (pos len : ℕ)
  | fopenWrite (path : String)
  | fwrite (d : Bytes)
  | calloc (n : ℕ)
  | clockGettime
  | usleep (us : ℕ)
  | transferFw (r : TransferFwReq)
  | vendor (m : Message) (retSize : ℕ)

/-- Most calls succeed or fail. The clock gives milliseconds, or fails. -/
abbrev SysCall.Answer : SysCall → Type
  | .fseekEnd | .ftell | .fseekSet _ | .fread _ _ | .fopenWrite _ | .fwrite _ | .calloc _ => Bool
  | .clockGettime => Option ℕ
  | .usleep _ => Unit
  | .transferFw _ => ℤ
  | .vendor _ _ => VendorReply

abbrev Tool := Program SysCall SysCall.Answer
abbrev Log := History SysCall SysCall.Answer

/-- How a function ends: with a return value, in undefined behaviour, or not
within the rounds that were looked at. -/
inductive End where
  | returned (rc : ℤ)
  | undefined
  | running
  deriving DecidableEq, Repr

def fseekEnd : Tool Bool := ask SysCall.fseekEnd
def ftell : Tool Bool := ask SysCall.ftell
def fseekSet (off : ℕ) : Tool Bool := ask (SysCall.fseekSet off)
def fopenWrite (path : String) : Tool Bool := ask (SysCall.fopenWrite path)
def fwrite (d : Bytes) : Tool Bool := ask (SysCall.fwrite d)
def calloc (n : ℕ) : Tool Bool := ask (SysCall.calloc n)
def clockGettime : Tool (Option ℕ) := ask SysCall.clockGettime
def usleep (us : ℕ) : Tool Unit := ask (SysCall.usleep us)
def transferFw (r : TransferFwReq) : Tool ℤ := ask (SysCall.transferFw r)
def vendorCall (m : Message) (retSize : ℕ) : Tool VendorReply := ask (SysCall.vendor m retSize)

/-- A call whose failure the caller checks for. -/
def checked {α : Type} (call : Tool Bool) (failed next : Tool α) : Tool α := do
  let ok ← call
  if ok = true then next else failed

/- `fread` of whole bytes; at the end of the file it comes back short. -/
def File.fread (f : File) (pos len : ℕ) : Tool Bool := do
  let ok ← (ask (SysCall.fread pos len) : Tool Bool)
  return ok && decide (pos + len ≤ f.size)

/- Every caller has zeroed the buffer, which is left alone after a failure. -/
def vendorSpecific (m : Message) (retSize : ℕ) : Tool (ℤ × Bytes) := do
  let a ← vendorCall m retSize
  return (a.rc, if a.rc = 0 then fillBuf retSize (a.data.take retSize) else zeros retSize)

/-! ### Where a VU request goes -/

inductive Via where
  | direct
  | sdb (port : Byte)
  deriving DecidableEq, Repr

def Via.message : Via → VuRequest → Message
  | .direct, r => .vu r
  | .sdb port, r => .sdbVu port r

def innerReturnCode (o : ByteOrder) (rsp : Bytes) : ℕ := Cci.returnCode o (rsp.drop 4)

/-- `sdb_vu_tunnel_exchange`: the reply's payload follows the tunnel header and
the inner CCI header. -/
def sdbVuTunnelExchange (o : ByteOrder) (port : Byte) (r : VuRequest) (vuRspSz : ℕ) : Tool (ℤ × Bytes) :=
  checked (calloc (16 + (r.encode o).length)) (return (-1, zeros vuRspSz)) <|
  checked (calloc (16 + vuRspSz)) (return (-1, zeros vuRspSz)) do
    let (rc, rsp) ← vendorSpecific (.sdbVu port r) (16 + vuRspSz)
    if rc ≠ 0 then return (rc, zeros vuRspSz)
    else if innerReturnCode o rsp ≠ 0 then return ((innerReturnCode o rsp : ℤ), zeros vuRspSz)
    else return (0, rsp.drop 16)

def Via.exchange (o : ByteOrder) : Via → VuRequest → ℕ → Tool (ℤ × Bytes)
  | .direct, r, n => vendorSpecific (.vu r) n
  | .sdb port, r, n => sdbVuTunnelExchange o port r n

def Via.send (o : ByteOrder) (v : Via) (r : VuRequest) : Tool ℤ := do
  let (rc, _) ← v.exchange o r 0
  return rc

def vuMbUnlock (o : ByteOrder) : Tool ℤ := Via.direct.send o vuunlock
def vuMbLock (o : ByteOrder) : Tool ℤ := Via.direct.send o vulock
def sdbVuTunnelUnlock (o : ByteOrder) (port : Byte) : Tool ℤ := (Via.sdb port).send o vuunlock
def sdbVuTunnelLock (o : ByteOrder) (port : Byte) : Tool ℤ := (Via.sdb port).send o vulock

def Via.unlock (o : ByteOrder) : Via → Tool ℤ
  | .direct => vuMbUnlock o
  | .sdb port => sdbVuTunnelUnlock o port

def Via.lock (o : ByteOrder) : Via → Tool ℤ
  | .direct => vuMbLock o
  | .sdb port => sdbVuTunnelLock o port

theorem Via.unlock_eq (o : ByteOrder) (v : Via) : v.unlock o = v.send o vuunlock := by
  cases v with
  | direct => rfl
  | sdb port => rfl

theorem Via.lock_eq (o : ByteOrder) (v : Via) : v.lock o = v.send o vulock := by
  cases v with
  | direct => rfl
  | sdb port => rfl

/-- Unlock, the command proper, lock; the lock's result counts if nothing failed before. -/
def vuWindow (o : ByteOrder) (v : Via) (body : Tool End) : Tool End := do
  let rc ← v.unlock o
  if rc ≠ 0 then return .returned rc
  else do
    let e ← body
    match e with
    | .returned rc => do
        let lockRc ← v.lock o
        return .returned (if rc = 0 then lockRc else rc)
    | .undefined => return .undefined
    | .running => return .running

end LibCxlmi.Tools
