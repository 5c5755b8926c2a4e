import LibCxlmi.Tools.Dlcfg
import LibCxlmi.Tools.Union

/-!
# The VU subcommands (cmd_vu_*.c and cmd_sdb_tunnel.c)

All of them unlock the VU mailbox, send requests and lock it again, to the
device itself or through the sideband tunnel. Most send a single request.
-/

namespace LibCxlmi.Tools
open LibCxlmi.Word LibCxlmi.Dialogue

/-! ### Reading the configuration (cmd_vu_getdevcfg.c) -/

def getcfgRequest (offset : U 32) : VuRequest := ⟨0x08, 0, 32, 520, offset, 512, 0, 0, []⟩

/-- One piece of the configuration, from `offset` on. -/
def getcfgRound (o : ByteOrder) (v : Via) (offset : U 32) : Tool (U 32 ⊕ ℤ) := do
  let (rc, out) ← v.exchange o (getcfgRequest offset) 520
  let more := hostWord o out 0
  let respLen := hostWord o out 4
  let next : U 32 ⊕ ℤ := if more ≠ 0 then .inl (offset + respLen) else .inr 0
  if rc ≠ 0 then return .inr rc
  else if 512 < respLen.val then return .inr (-1)
  else if respLen = 0 then return next
  else checked (fwrite (slice out 8 respLen.val)) (return .inr (-1)) (return next)

def vuGetdevcfgFetch (o : ByteOrder) (v : Via) (outputFile : String) (rounds : ℕ) : Tool End :=
  checked (fopenWrite outputFile) (return .returned (-1)) do
    let rc ← iterate (getcfgRound o v) rounds 0
    match rc with
    | none => return .running
    | some rc => return .returned rc

def cmdVuGetdevcfg (o : ByteOrder) (rounds : ℕ) (args : List String) : Tool End :=
  match parseVuGetdevcfgReq args with
  | none => return .returned (-1)
  | some file => vuWindow o .direct (vuGetdevcfgFetch o .direct file rounds)

def sdbTunnelVuGetdevcfg (o : ByteOrder) (rounds : ℕ) (args : List String) : Tool End :=
  match (sdbArgs args).bind fun a => (parseVuGetdevcfgReq a.2).map fun file => (a.1, file) with
  | none => return .returned (-1)
  | some (port, file) => vuWindow o (.sdb port) (vuGetdevcfgFetch o (.sdb port) file rounds)

/-! ### Single requests -/

/-- Unlock, one request with room for `retSz` bytes, lock. -/
def sendOnce (o : ByteOrder) (v : Via) (r : VuRequest) (retSz : ℕ) : Tool End :=
  vuWindow o v do
    let (rc, _) ← v.exchange o r retSz
    return .returned rc

def ptupdateRequest (pt : Bytes) : VuRequest := ⟨0x0242, 0, toU32 pt.length, 0, 0, 0, 0, 0, pt⟩

/-- The partition table is read before anything is sent (cmd_vu_dlpt.c). -/
def cmdVuDlpt (o : ByteOrder) (disk : Disk) (args : List String) : Tool End :=
  match (parseVuDlptReq args).bind disk with
  | none => return .returned (-1)
  | some f =>
      checked fseekEnd (return .returned (-1)) <|
      checked ftell (return .returned (-1)) <|
      if f.size ≠ 256 then return .returned (-1)
      else
        checked (fseekSet 0) (return .returned (-1)) <|
        checked (f.fread 0 256) (return .returned (-1)) <|
        sendOnce o .direct (ptupdateRequest (f.read 0 256)) 0

def cmdVuOnce (o : ByteOrder) (parse : List String → Option VuRequest) (retSz : ℕ) (args : List String) : Tool End :=
  match parse args with
  | none => return .returned (-1)
  | some r => sendOnce o .direct r retSz

def sdbTunnelVuOnce (o : ByteOrder) (parse : List String → Option VuRequest) (args : List String) : Tool End :=
  match (sdbArgs args).bind fun a => (parse a.2).map fun r => (a.1, r) with
  | none => return .returned (-1)
  | some (port, r) => sendOnce o (.sdb port) r 0

def ddrfreqRequest (args : List String) : Option VuRequest := (parseVuDdrfreqReq args).map vuDdrfreqPack

def cmdVuEvtadd (o : ByteOrder) : List String → Tool End := cmdVuOnce o parseVuEvtadd 0
def cmdVuEccrmwinj (o : ByteOrder) : List String → Tool End := cmdVuOnce o parseVuEccrmwinj 0
def cmdVuDdrdparw (o : ByteOrder) : List String → Tool End := cmdVuOnce o parseVuDdrdparw 64
def cmdVuDdrdbt (o : ByteOrder) : List String → Tool End := cmdVuOnce o parseVuDdrdbt 0
def cmdVuDimminfo (o : ByteOrder) : List String → Tool End := cmdVuOnce o parseVuDimminfo 100
def cmdVuDdrfreq (o : ByteOrder) : List String → Tool End := cmdVuOnce o ddrfreqRequest 0
def cmdVuPciespeed (o : ByteOrder) : List String → Tool End := cmdVuOnce o parseVuPciespeedReq 0
def sdbTunnelVuDdrfreq (o : ByteOrder) : List String → Tool End := sdbTunnelVuOnce o ddrfreqRequest
def sdbTunnelVuPciespeed (o : ByteOrder) : List String → Tool End := sdbTunnelVuOnce o parseVuPciespeedReq

/-! ### All of them -/

inductive VuCommand where
  | evtadd
  | eccrmwinj
  | ddrdparw
  | ddrdbt
  | dimminfo
  | dlcfg
  | getdevcfg
  | ddrfreq
  | pciespeed
  | dlunion
  | dlpt
  | sdbDlcfg
  | sdbGetdevcfg
  | sdbDdrfreq
  | sdbPciespeed
  deriving DecidableEq, Repr

/-- The entry of `subcmds`, or of the commands of sdb-tunnel; loops without a bound are
cut off after `rounds` rounds. -/
def VuCommand.run (o : ByteOrder) (disk : Disk) (rounds : ℕ) : VuCommand → List String → Tool End
  | .evtadd => cmdVuEvtadd o
  | .eccrmwinj => cmdVuEccrmwinj o
  | .ddrdparw => cmdVuDdrdparw o
  | .ddrdbt => cmdVuDdrdbt o
  | .dimminfo => cmdVuDimminfo o
  | .dlcfg => cmdVuDlcfg o disk
  | .getdevcfg => cmdVuGetdevcfg o rounds
  | .ddrfreq => cmdVuDdrfreq o
  | .pciespeed => cmdVuPciespeed o
  | .dlunion => cmdVuDlunion o disk rounds
  | .dlpt => cmdVuDlpt o disk
  | .sdbDlcfg => sdbTunnelVuDlcfg o disk
  | .sdbGetdevcfg => sdbTunnelVuGetdevcfg o rounds
  | .sdbDdrfreq => sdbTunnelVuDdrfreq o
  | .sdbPciespeed => sdbTunnelVuPciespeed o

end LibCxlmi.Tools
