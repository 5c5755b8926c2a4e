import LibCxlmi.Tools.TransferFw
import LibCxlmi.Tools.VuCommands

/-!
# Commands through the sideband tunnel (cmd_sdb_tunnel.c)

transfer-fw, clear-event-records and set-feature put a CCI request into a vendor
command. What they report is the vendor command's own result or, if that is 0,
the return code of the inner reply.

set-feature is modelled from its parsed arguments on, and a payload file by the
bytes that `fgetc` delivers before `EOF`.
-/

namespace LibCxlmi.Tools
open LibCxlmi.Word LibCxlmi.Text LibCxlmi.Commands LibCxlmi.Dialogue

/-- A command whose reply carries nothing but its header. -/
def sdbTunnelSend (o : ByteOrder) (m : Message) : Tool ℤ := do
  let (rc, rsp) ← vendorSpecific m 16
  return if rc ≠ 0 then rc else (innerReturnCode o rsp : ℤ)

/-! ### transfer-fw -/

def sdbXferFwPayload (o : ByteOrder) (r : TransferFwReq) : Bytes :=
  [r.action, r.slot] ++ zeros 2 ++ putLe o 4 r.offset ++ zeros 120 ++ r.data

def sdbXferFwSend (o : ByteOrder) (port : Byte) (r : TransferFwReq) : Tool ℤ :=
  checked (calloc (16 + (sdbXferFwPayload o r).length)) (return -1) <|
  sdbTunnelSend o (.sdb port 0x01 0x02 2 (sdbXferFwPayload o r))

def sdbTunnelTransferFw (o : ByteOrder) (disk : Disk) (args : List String) : Tool End :=
  match (sdbArgs args).bind fun a => (parseTransferFwReq a.2).map fun params => (a.1, params) with
  | none => return .returned (-1)
  | some (port, params) => transferFwFile disk params (sdbXferFwSend o port)

/-! ### clear-event-records -/

structure ClearEventArgs where
  port : Byte
  log : Option String
  all : Bool
  handles : List (U 16)
  deriving DecidableEq, Repr

/- There is room for 20 handles. -/
def clearEventOptions : List String → ClearEventArgs → Option ClearEventArgs
  | [], a => some a
  | [x], a => if x = "--all" then some { a with all := true } else none
  | x :: v :: rest, a =>
      if x = "--port" then (parsePortId v).bind fun id => clearEventOptions rest { a with port := id }
      else if x = "--log" then clearEventOptions rest { a with log := some v }
      else if x = "--all" then clearEventOptions (v :: rest) { a with all := true }
      else if x = "--handle" then
        if 20 ≤ a.handles.length then none
        else clearEventOptions rest { a with handles := a.handles ++ [Fin.ofNat (2 ^ 16) (strtoul v)] }
      else none

def parseEventLogLocal (name : String) : Option Byte :=
  ([("info", 0), ("warn", 1), ("failure", 2), ("fatal", 3), ("dcd", 4)].find? fun e => e.1 = name).map Prod.snd

/- The handles are copied as they lie in memory. With `--all` their place is
left zeroed, and stays part of the payload. -/
def clearEventPayload (o : ByteOrder) (log : Byte) (a : ClearEventArgs) : Bytes :=
  if a.all = true then [log, 0x1, 0] ++ zeros 3 ++ zeros (2 * a.handles.length)
  else [log, 0, Fin.ofNat 256 a.handles.length] ++ zeros 3 ++ a.handles.flatMap fun h : U 16 => storeWord o 2 h.val

def sdbTunnelClearEventRecords (o : ByteOrder) (args : List String) : Tool End :=
  match (clearEventOptions args ⟨0, none, false, []⟩).bind fun a =>
      (a.log.bind parseEventLogLocal).map fun log => (a.port, clearEventPayload o log a) with
  | none => return .returned (-1)
  | some (port, payload) =>
      checked (calloc (16 + payload.length)) (return .returned (-1)) do
        let rc ← sdbTunnelSend o (.sdb port 0x01 0x01 2 payload)
        return .returned rc

/-! ### Features with a known size (cmd_features.c:22-62, 463-502) -/

inductive FeatureKind where
  | unknown
  | sppr
  | hppr
  | partialScrub
  | ddr5Ecs
  | cvme
  | addressPolicy
  | ras
  | cmcRefresh
  | dualPort
  deriving DecidableEq, Repr

def knownFeatures : List (Bytes × FeatureKind) :=
  [([0x89, 0x2b, 0xa4, 0x75, 0xfa, 0xd8, 0x47, 0x4e, 0x9d, 0x3e, 0x69, 0x2c, 0x91, 0x75, 0x68, 0xbb], .sppr),
   ([0x80, 0xea, 0x45, 0x21, 0x78, 0x6f, 0x41, 0x27, 0xaf, 0xb1, 0xec, 0x74, 0x59, 0xfb, 0x0e, 0x24], .hppr),
   ([0x96, 0xda, 0xd7, 0xd6, 0xfd, 0xe8, 0x48, 0x2b, 0xa7, 0x33, 0x75, 0x77, 0x4e, 0x06, 0xdb, 0x8a], .partialScrub),
   ([0xe5, 0xb1, 0x3f, 0x22, 0x23, 0x28, 0x4a, 0x14, 0xb8, 0xba, 0xb9, 0x69, 0x1e, 0x89, 0x33, 0x86], .ddr5Ecs),
   ([0x14, 0x78, 0xad, 0x9d, 0xce, 0x00, 0x47, 0x33, 0x9d, 0xb8, 0xf3, 0x92, 0xa4, 0xc2, 0xd0, 0xcc], .cvme),
   ([0xf1, 0x82, 0xcc, 0xf8, 0x72, 0xbd, 0x11, 0xee, 0xb9, 0x62, 0x02, 0x42, 0xac, 0x12, 0x00, 0x02], .addressPolicy),
   ([0x51, 0x74, 0xe5, 0x99, 0x14, 0x30, 0x43, 0x3e, 0xaf, 0x4b, 0x57, 0x72, 0xba, 0xe6, 0xcc, 0x91], .ras),
   ([0xb4, 0x48, 0x97, 0xaf, 0xbd, 0xdb, 0x4e, 0x9b, 0x9d, 0x74, 0xdb, 0xab, 0x49, 0x06, 0x2f, 0x7b], .cmcRefresh),
   ([0xb0, 0x07, 0x26, 0xe4, 0xde, 0x86, 0x42, 0x05, 0xb2, 0x7f, 0xb0, 0xbb, 0x68, 0x25, 0x66, 0x0d], .dualPort)]

def mbcciFeatureKind (uuid : Bytes) : FeatureKind :=
  ((knownFeatures.find? fun e => e.1 = uuid).map Prod.snd).getD .unknown

def lookupSetFeatureSizeDoc (featureId : Bytes) : ℕ :=
  match mbcciFeatureKind featureId with
  | .sppr => 3
  | .hppr => 12
  | .partialScrub => 2
  | .ddr5Ecs => 0
  | .cvme => 32
  | .addressPolicy => 2
  | .ras => 12
  | .cmcRefresh => 2
  | .dualPort => 33
  | .unknown => 0

def lookupSetFeatureVersionDoc (featureId : Bytes) : Byte :=
  match mbcciFeatureKind featureId with
  | .sppr | .hppr => 3
  | .partialScrub | .ddr5Ecs | .cvme => 1
  | _ => 0

/-! ### The device's feature table -/

/-- 16 entries of 48 bytes are asked for. -/
def featureDefaultCount : ℕ := 768

/- The parser writes as many entries as the device says, whatever there is room for. -/
def sdbParseSupportedFeaturesRsp (o : ByteOrder) (wire : Bytes) : Option GetSupportedFeaturesRsp :=
  let n := getLe o 2 wire 0
  (records wire 8 48 n (supportedFeatureEntry o)).map fun es => ⟨n, getLe o 2 wire 2, es⟩

def lookupSetFeature {α : Type} (field : SupportedFeatureEntry → α) (absent : α) (sfrsp : GetSupportedFeaturesRsp)
    (featureId : Bytes) : α :=
  ((sfrsp.supportedFeatureEntries.find? fun e => e.featureId = featureId).map field).getD absent

def lookupSetFeatureSize : GetSupportedFeaturesRsp → Bytes → ℕ := lookupSetFeature (·.setFeatureSize) 0
def lookupSetFeatureVersion : GetSupportedFeaturesRsp → Bytes → Byte := lookupSetFeature (·.setFeatureVersion) 0

/-- The table, or how the caller ends without one. -/
def sdbTunnelFetchSupportedFeatures (o : ByteOrder) (port : Byte) : Tool (End ⊕ GetSupportedFeaturesRsp) :=
  checked (calloc (16 + 8 + featureDefaultCount)) (return .inl (.returned (-1))) do
    let (rc, rsp) ← vendorSpecific
      (.sdb port 0x00 0x05 3 (putLe o 4 featureDefaultCount ++ putLe o 2 0 ++ zeros 2)) (16 + 8 + featureDefaultCount)
    if rc ≠ 0 then return .inl (.returned rc)
    else if innerReturnCode o rsp ≠ 0 then return .inl (.returned (innerReturnCode o rsp))
    else
      match sdbParseSupportedFeaturesRsp o (rsp.drop 16) with
      | none => return .inl .undefined
      | some sfrsp => return .inr sfrsp

/-! ### Hexadecimal payload files (cmd_features.c:120-160) -/

def hexVal (c : Byte) : Option ℕ :=
  let d := digitVal (Char.ofNat c.val)
  if d < 16 then some d else none

/-- The return code, and the bytes that were stored before. -/
structure HexRead where
  rc : ℤ
  buf : Bytes
  deriving DecidableEq, Repr

/-- `hi` is the digit that waits for its second half. -/
def readHexLoop (maxLen : ℕ) : Bytes → Option ℕ → Bytes → HexRead
  | [], none, buf => ⟨0, buf⟩
  | [], some _, buf => ⟨-2, buf⟩
  | c :: s, hi, buf =>
      if isSpace (Char.ofNat c.val) = true then readHexLoop maxLen s hi buf
      else
        match hexVal c, hi with
        | none, _ => ⟨-2, buf⟩
        | some d, none => readHexLoop maxLen s (some d) buf
        | some d, some h =>
            if maxLen ≤ buf.length then ⟨-3, buf⟩
            else readHexLoop maxLen s none (buf ++ [Fin.ofNat 256 (16 * h + d)])

def readHexText (maxLen : ℕ) (text : Bytes) : HexRead := readHexLoop maxLen text none []

def HexRead.accepted (r : HexRead) : Option Bytes := if r.rc = 0 then some r.buf else none

/-- What the callers make of it: whatever the code, they refuse. -/
def readHexPayloadFile (disk : Disk) (path : String) (maxLen : ℕ) : Option Bytes :=
  (disk path).bind fun f => (readHexText maxLen (f.read 0 f.size)).accepted

/-! ### set-feature -/

structure SetFeatureParams where
  featureId : Vec 16
  inputFile : String
  offset : U 16
  setFeatureFlags : U 32
  version : Option Byte

def setFeaturePayload (o : ByteOrder) (p : SetFeatureParams) (version : Byte) (data : Bytes) : Bytes :=
  p.featureId.val ++ putLe o 4 p.setFeatureFlags ++ putLe o 2 p.offset ++ [version] ++ zeros 9 ++ data

def SetFeatureParams.needSf (p : SetFeatureParams) : Bool :=
  lookupSetFeatureSizeDoc p.featureId.val == 0 ||
    (p.version.isNone && lookupSetFeatureVersionDoc p.featureId.val == 0)

def SetFeatureParams.expectedSize (p : SetFeatureParams) (sfrsp : Option GetSupportedFeaturesRsp) : ℕ :=
  let size := lookupSetFeatureSizeDoc p.featureId.val
  if size ≠ 0 then size
  else
    match sfrsp with
    | none => 0
    | some t => lookupSetFeatureSize t p.featureId.val

/- The device's version comes before the documented one; 0 is none. -/
def SetFeatureParams.versionToSet (p : SetFeatureParams) (sfrsp : Option GetSupportedFeaturesRsp) : Option Byte :=
  match p.version with
  | some v => some v
  | none =>
      let found : Byte :=
        match sfrsp with
        | none => 0
        | some t => lookupSetFeatureVersion t p.featureId.val
      let version := if found ≠ 0 then found else lookupSetFeatureVersionDoc p.featureId.val
      if version = 0 then none else some version

/-- What is sent, or `none` for a refusal. -/
def SetFeatureParams.request (o : ByteOrder) (disk : Disk) (p : SetFeatureParams)
    (sfrsp : Option GetSupportedFeaturesRsp) : Option Bytes :=
  if p.expectedSize sfrsp = 0 then none
  else
    (readHexPayloadFile disk p.inputFile mailboxMaxPayloadSize).bind fun data =>
      if data.length ≠ p.expectedSize sfrsp then none
      else (p.versionToSet sfrsp).map fun version => setFeaturePayload o p version data

/-- The device's table is only asked for when the documents do not say enough. -/
def SetFeatureParams.table (o : ByteOrder) (port : Byte) (p : SetFeatureParams) :
    Tool (End ⊕ Option GetSupportedFeaturesRsp) :=
  if p.needSf = true then
    checked (calloc (8 + featureDefaultCount)) (return .inl (.returned (-1))) do
      let r ← sdbTunnelFetchSupportedFeatures o port
      match r with
      | .inl e => return .inl e
      | .inr sfrsp => return .inr (some sfrsp)
  else return .inr none

def sdbTunnelSetFeature (o : ByteOrder) (disk : Disk) (port : Byte) (p : SetFeatureParams) : Tool End := do
  let r ← p.table o port
  match r with
  | .inl e => return e
  | .inr sfrsp =>
      match p.request o disk sfrsp with
      | none => return .returned (-1)
      | some payload =>
          checked (calloc (16 + payload.length)) (return .returned (-1)) do
            let rc ← sdbTunnelSend o (.sdb port 0x02 0x05 3 payload)
            return .returned rc

/-! ### The subcommands that report the inner return code -/

inductive SdbCommand where
  | transferFw (args : List String)
  | vuDlcfg (args : List String)
  | vuGetdevcfg (args : List String)
  | vuDdrfreq (args : List String)
  | vuPciespeed (args : List String)
  | clearEventRecords (args : List String)
  | setFeature (port : Byte) (params : SetFeatureParams)

inductive SdbKind where
  | transferFw
  | vuDlcfg
  | vuGetdevcfg
  | vuDdrfreq
  | vuPciespeed
  | clearEventRecords
  | setFeature
  deriving DecidableEq, Repr

def SdbCommand.kind : SdbCommand → SdbKind
  | .transferFw _ => .transferFw
  | .vuDlcfg _ => .vuDlcfg
  | .vuGetdevcfg _ => .vuGetdevcfg
  | .vuDdrfreq _ => .vuDdrfreq
  | .vuPciespeed _ => .vuPciespeed
  | .clearEventRecords _ => .clearEventRecords
  | .setFeature _ _ => .setFeature

def SdbCommand.run (o : ByteOrder) (disk : Disk) (rounds : ℕ) : SdbCommand → Tool End
  | .transferFw args => sdbTunnelTransferFw o disk args
  | .vuDlcfg args => sdbTunnelVuDlcfg o disk args
  | .vuGetdevcfg args => sdbTunnelVuGetdevcfg o rounds args
  | .vuDdrfreq args => sdbTunnelVuDdrfreq o args
  | .vuPciespeed args => sdbTunnelVuPciespeed o args
  | .clearEventRecords args => sdbTunnelClearEventRecords o args
  | .setFeature port params => sdbTunnelSetFeature o disk port params

end LibCxlmi.Tools
