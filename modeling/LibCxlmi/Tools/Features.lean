import LibCxlmi.Tools.SdbTunnel

/-!
# set-feature over the mailbox (cmd_features.c:405-445, 504-564, 640-789, cmd_logs.c:412-443)

The direct command makes its questions through the library: Get Supported Features,
once for the size and once for the version where the documents do not say them, and
Set Feature itself. The tunnel's subcommand reads the same arguments after it has
taken the `--port` options out.
-/

namespace LibCxlmi.Tools
open LibCxlmi.Word LibCxlmi.Text LibCxlmi.Commands LibCxlmi.Dialogue

/-! ### Arguments -/

theorem vec_cons_length {n : ℕ} (b : Byte) (v : Vec n) : (b :: v.val).length = n + 1 :=
  congrArg (· + 1) v.property

section Uuid
/- What `sscanf` makes of `%02x`. -/
variable (scan : List Char → Option Byte)

def scanBytes : (n : ℕ) → List Char → Option (Vec n)
  | 0, _ => some ⟨[], rfl⟩
  | n + 1, hex => (scan hex).bind fun b => (scanBytes n (hex.drop 2)).map fun v => ⟨b :: v.val, vec_cons_length b v⟩

/- What stands behind the 32nd digit is not looked at. -/
def parseLogUuid (str : String) : Option (Vec 16) :=
  let hex := (str.toList.filter fun c => c ≠ '-').take 32
  if hex.length ≠ 32 then none else scanBytes scan 16 hex

structure SetFeatureArgs where
  featureId : Vec 16
  inputFile : Option String
  offset : U 16
  setFeatureFlags : U 32
  version : Option Byte

def noSetFeatureArgs : SetFeatureArgs := ⟨⟨zeros 16, zeros_length 16⟩, none, 0, 0, none⟩

/-- A whole number below `n`; the empty text is 0. -/
def boundedArg (n : ℕ) [NeZero n] (v : String) : Option (Fin n) :=
  if (strtoulEnd v).2 ≠ [] ∨ n ≤ strtoul v then none else some (Fin.ofNat n (strtoul v))

def setFeatureOption (opt v : String) (a : SetFeatureArgs) : Option SetFeatureArgs :=
  if opt = "--feature-id" then (parseLogUuid scan v).map fun id => { a with featureId := id }
  else if opt = "--input" then some { a with inputFile := some v }
  else if opt = "--offset" then (boundedArg (2 ^ 16) v).map fun n => { a with offset := n }
  else if opt = "--flags" then (boundedArg (2 ^ 32) v).map fun n => { a with setFeatureFlags := n }
  else if opt = "--version" then (boundedArg 256 v).map fun n => { a with version := some n }
  else none

def parseSetFeatureReq (args : List String) : Option SetFeatureParams :=
  (parseOptions (setFeatureOption scan) args noSetFeatureArgs).bind fun a =>
    if a.featureId.val = zeros 16 then none
    else a.inputFile.map fun path => ⟨a.featureId, path, a.offset, a.setFeatureFlags, a.version⟩

end Uuid

/-! ### The direct command -/

/-- `cxlmi_cmd_get_supported_features` comes back with the message in the library's
reply buffer, which it decodes if its own result is 0. -/
inductive FeatureCall where
  | calloc (n : ℕ)
  | getSupportedFeatures (count : U 32) (startingFeatureIndex : U 16)
  | setFeature (req : SetFeatureReq)

abbrev FeatureCall.Answer : FeatureCall → Type
  | .calloc _ => Bool
  | .getSupportedFeatures _ _ => VendorReply
  | .setFeature _ => ℤ

abbrev FeatureTool := Program FeatureCall FeatureCall.Answer

/- A null pointer is `.inr none`. -/
def fetchSupportedFeatures (o : ByteOrder) : FeatureTool (End ⊕ Option GetSupportedFeaturesRsp) := do
  let ok ← (ask (FeatureCall.calloc (8 + featureDefaultCount)) : FeatureTool Bool)
  if ok = false then return .inr none
  else do
    let x ← (ask (FeatureCall.getSupportedFeatures 768 0) : FeatureTool VendorReply)
    if x.rc ≠ 0 then return .inr none
    else
      match (getSupportedFeatures 768 0).decode o x.data with
      | none => return .inl .undefined
      | some rsp => return .inr (some rsp)

section Lookup
variable {α : Type} (o : ByteOrder) (lookup : GetSupportedFeaturesRsp → Bytes → α) (absent : α) (featureId : Bytes)

def mailboxLookup : FeatureTool (End ⊕ α) := do
  let r ← fetchSupportedFeatures o
  match r with
  | .inl e => return .inl e
  | .inr none => return .inr absent
  | .inr (some sfrsp) => return .inr (lookup sfrsp featureId)

/-- The documents come before the device. -/
def resolveSetFeature [DecidableEq α] (doc : Bytes → α) : FeatureTool (End ⊕ α) :=
  if doc featureId ≠ absent then return .inr (doc featureId) else mailboxLookup o lookup absent featureId

end Lookup

def resolveSetFeatureCount (o : ByteOrder) (featureId : Bytes) : FeatureTool (End ⊕ ℕ) :=
  resolveSetFeature o lookupSetFeatureSize 0 featureId lookupSetFeatureSizeDoc

def resolveSetFeatureVersion (o : ByteOrder) (featureId : Bytes) : FeatureTool (End ⊕ Byte) :=
  resolveSetFeature o lookupSetFeatureVersion 0 featureId lookupSetFeatureVersionDoc

/-- A version of 0 is refused, unless it was asked for. -/
def SetFeatureParams.directVersion (o : ByteOrder) (p : SetFeatureParams) : FeatureTool (End ⊕ Option Byte) :=
  match p.version with
  | some v => return .inr (some v)
  | none => do
    let r ← resolveSetFeatureVersion o p.featureId.val
    match r with
    | .inl e => return .inl e
    | .inr v => return .inr (if v = 0 then none else some v)

def SetFeatureParams.setReq (p : SetFeatureParams) (version : Byte) (data : Bytes) : SetFeatureReq :=
  ⟨p.featureId, p.setFeatureFlags, p.offset, version, data⟩

def SetFeatureParams.directSend (o : ByteOrder) (p : SetFeatureParams) (data : Bytes) : FeatureTool End := do
  let r ← p.directVersion o
  match r with
  | .inl e => return e
  | .inr none => return .returned (-1)
  | .inr (some version) => do
    let ok ← (ask (FeatureCall.calloc (32 + data.length)) : FeatureTool Bool)
    if ok = false then return .returned (-1)
    else do
      let rc ← (ask (FeatureCall.setFeature (p.setReq version data)) : FeatureTool ℤ)
      return .returned rc

/-- The payload file, if it holds as many bytes as are expected. -/
def SetFeatureParams.payload (disk : Disk) (p : SetFeatureParams) (expectedSize : ℕ) : Option Bytes :=
  if expectedSize = 0 then none
  else (readHexPayloadFile disk p.inputFile mailboxMaxPayloadSize).filter fun data => data.length = expectedSize

def SetFeatureParams.directWith (o : ByteOrder) (disk : Disk) (p : SetFeatureParams) (expectedSize : ℕ) :
    FeatureTool End :=
  match p.payload disk expectedSize with
  | none => return .returned (-1)
  | some data => p.directSend o data

def cmdSetFeature (o : ByteOrder) (disk : Disk) (scan : List Char → Option Byte) (args : List String) :
    FeatureTool End :=
  match parseSetFeatureReq scan args with
  | none => return .returned (-1)
  | some p => do
    let r ← resolveSetFeatureCount o p.featureId.val
    match r with
    | .inl e => return e
    | .inr expectedSize => p.directWith o disk expectedSize

/-! ### The tunnel's arguments -/

def sdbTunnelSetFeatureArgs (o : ByteOrder) (disk : Disk) (scan : List Char → Option Byte) (args : List String) :
    Tool End :=
  match (sdbArgs args).bind fun a => (parseSetFeatureReq scan a.2).map fun p => (a.1, p) with
  | none => return .returned (-1)
  | some (port, p) => sdbTunnelSetFeature o disk port p

/-- The arguments without the `--port` options. -/
def portless : List String → List String
  | [] => []
  | [x] => [x]
  | x :: v :: rest => if x = "--port" then portless rest else x :: portless (v :: rest)

theorem splitPort_portless (args : List String) (port : Byte) (kept : List String) (r : Byte × List String)
    (h : splitPort args port kept = some r) : r.2 = kept ++ portless args := by
  fun_induction splitPort args port kept with
  | case1 port kept =>
    rw [← Option.some.inj h]
    exact (List.append_nil kept).symm
  | case2 x port kept hfull => cases h
  | case3 x port kept hroom =>
    rw [← Option.some.inj h]
    rfl
  | case4 v rest port kept ih =>
    obtain ⟨id, -, hrest⟩ := Option.bind_eq_some_iff.mp h
    exact ih id hrest
  | case5 x v rest port kept hport hfull => cases h
  | case6 x v rest port kept hport hroom ih =>
    rw [ih h, portless, if_neg hport, List.append_assoc]
    rfl

theorem sdbArgs_portless (args : List String) (r : Byte × List String) (h : sdbArgs args = some r) :
    r.2 = portless args :=
  splitPort_portless args 0 [] r h

end LibCxlmi.Tools
