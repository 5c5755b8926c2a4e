import LibCxlmi.Tools.DcdQueries
import LibCxlmi.Tools.Features
import LibCxlmi.Tools.LdAllocations
import LibCxlmi.Word.Spans

/-!
# Lists through the sideband tunnel

Seven subcommands of cmd_sdb_tunnel.c ask for a list, or get one back: features
(4752-4898), LD allocations (3391-3750), QoS bandwidth (4018-4300), extents
(6374-6501) and tags (6964-7080) of dynamic capacity. Their buffers are as long as
the request says, and they go through the reply by the counts in it. What is kept
of a run here is which bytes of the buffers it touches.
-/

namespace LibCxlmi.Tools
open LibCxlmi.Word LibCxlmi.Text LibCxlmi.Commands LibCxlmi.Dialogue

inductive ListCommand where
  | getSupportedFeat
  | fmGetLdAlloc
  | fmSetLdAlloc
  | fmGetQosAllocBw
  | fmSetQosAllocBw
  | fmDcdGetExtList
  | fmDcdListTags
  deriving DecidableEq, Repr

/-! ### Arguments -/

def getSupportedFeaturesOption (opt v : String) (q : U 32 × U 16) : Option (U 32 × U 16) :=
  if opt = "--count" then (boundedArg (2 ^ 32) v).map fun n => (n, q.2)
  else if opt = "--start-index" then (boundedArg (2 ^ 16) v).map fun n => (q.1, n)
  else none

def parseGetSupportedFeaturesReq (args : List String) : Option (U 32 × U 16) :=
  parseOptions getSupportedFeaturesOption args (Fin.ofNat (2 ^ 32) featureDefaultCount, 0)

/-- A byte of at least `low`; what follows the number is not looked at. -/
def byteArg (low : ℕ) (v : String) : Option Byte :=
  if strtoul v < low ∨ 255 < strtoul v then none else some (Fin.ofNat 256 (strtoul v))

structure LdListArgs where
  startLdId : Byte
  limit : Byte
  rawDump : Option String
  deriving DecidableEq, Repr

def ldListOption (limit opt v : String) (a : LdListArgs) : Option LdListArgs :=
  if opt = "--start-ld-id" then (byteArg 0 v).map fun n => { a with startLdId := n }
  else if opt = limit then (byteArg 1 v).map fun n => { a with limit := n }
  else if opt = "--raw-dump" then some { a with rawDump := some v }
  else none

def parseFmGetLdAllocReq (args : List String) : Option LdListArgs :=
  parseOptions (ldListOption "--limit") args ⟨0, 16, none⟩

def parseFmGetQosLdReq (args : List String) : Option LdListArgs :=
  parseOptions (ldListOption "--number-ld") args ⟨0, 16, none⟩

def ldSetOption (opt v : String) (a : Option String × FmSetLdAllocParams) :
    Option (Option String × FmSetLdAllocParams) :=
  if opt = "--input" then some (some v, a.2)
  else if opt = "--number-ld" then (byteArg 1 v).map fun n => (a.1, { a.2 with numberLd := some n })
  else if opt = "--start-ld-id" then (byteArg 0 v).map fun n => (a.1, { a.2 with startLdId := some n })
  else none

def parseLdSetReq (args : List String) : Option (String × FmSetLdAllocParams) :=
  (parseOptions ldSetOption args (none, noOverrides)).bind fun a => a.1.map fun path => (path, a.2)

def parseFmSetLdAllocReq : List String → Option (String × FmSetLdAllocParams) := parseLdSetReq
def parseFmSetQosLdReq : List String → Option (String × FmSetLdAllocParams) := parseLdSetReq

def fmQosLdPayloadSize (numberLd : Byte) : ℕ := 2 + numberLd.val

def fmQosLdApplySetOverrides (params : FmSetLdAllocParams) (payload : Bytes) : Option (Bytes × Byte) :=
  let numberLd := params.numberLd.getD (byteAt payload 0)
  if payload.length < 2 ∨ 255 < payload.length - 2 ∨ fmQosLdPayloadSize numberLd ≠ payload.length then none
  else some ([numberLd, params.startLdId.getD (byteAt payload 1)] ++ payload.drop 2, numberLd)

structure DcdListArgs where
  port : Byte
  hostId : U 16
  count : U 32
  start : U 32
  deriving DecidableEq, Repr

def dcdGetExtListOption (opt v : String) (a : DcdListArgs) : Option DcdListArgs :=
  if opt = "--port" then (parsePortId v).map fun id => { a with port := id }
  else if opt = "--host-id" then (sdbDcdParseU64 v).map fun n => { a with hostId := Fin.ofNat (2 ^ 16) n }
  else if opt = "--extent-count" then (sdbDcdParseU64 v).map fun n => { a with count := toU32 n }
  else if opt = "--start-ext-index" then (sdbDcdParseU64 v).map fun n => { a with start := toU32 n }
  else none

def dcdListTagsOption (opt v : String) (a : DcdListArgs) : Option DcdListArgs :=
  if opt = "--port" then (parsePortId v).map fun id => { a with port := id }
  else if opt = "--start-idx" then (sdbDcdParseU64 v).map fun n => { a with start := toU32 n }
  else if opt = "--tags-count" then (sdbDcdParseU64 v).map fun n => { a with count := toU32 n }
  else none

/-! ### Requests -/

/-- What is sent, the number of entries (for features: of bytes) that the buffers have
room for, and whether the reply is to be dumped. -/
structure ListRequest where
  message : Message
  room : ℕ
  rawDump : Bool

section Requests
variable (o : ByteOrder) (disk : Disk) (args : List String)

def getSupportedFeatRequest : Option ListRequest :=
  (sdbArgs args).bind fun a => (parseGetSupportedFeaturesReq a.2).map fun q =>
    ⟨.sdb a.1 0x00 0x05 3 (putLe o 4 q.1 ++ putLe o 2 q.2 ++ zeros 2), q.1.val, false⟩

def fmGetLdAllocRequest : Option ListRequest :=
  (sdbArgs args).bind fun a => (parseFmGetLdAllocReq a.2).map fun q =>
    ⟨.sdb a.1 0x01 0x54 2 [q.startLdId, q.limit], q.limit.val, q.rawDump.isSome⟩

/- The normaliser never copies beyond its buffer (`normalize_in_buffer`); what is left
besides a payload is a refusal. -/
def fmSetLdAllocRequest : Option ListRequest :=
  (sdbArgs args).bind fun a => (parseFmSetLdAllocReq a.2).bind fun q =>
    (readHexPayloadFile disk q.1 ldAllocBufSz).bind fun data =>
      if data.length < 4 ∨ (data.length - 4) % 16 ≠ 0 then none
      else
        match fmLdAllocNormalizeSetPayload q.2 data with
        | .accepted payload numberLd =>
            if fmSetLdAllocPayloadSize numberLd ≠ data.length then none
            else some ⟨.sdb a.1 0x02 0x54 3 payload, numberLd.val, false⟩
        | _ => none

def fmGetQosAllocBwRequest : Option ListRequest :=
  (sdbArgs args).bind fun a => (parseFmGetQosLdReq a.2).map fun q =>
    ⟨.sdb a.1 0x06 0x54 2 [q.limit, q.startLdId], q.limit.val, q.rawDump.isSome⟩

def fmSetQosAllocBwRequest : Option ListRequest :=
  (sdbArgs args).bind fun a => (parseFmSetQosLdReq a.2).bind fun q =>
    (readHexPayloadFile disk q.1 (2 + 255)).bind fun data =>
      (fmQosLdApplySetOverrides q.2 data).map fun r => ⟨.sdb a.1 0x07 0x54 3 r.1, r.2.val, false⟩

def fmDcdGetExtListRequest : Option ListRequest :=
  (parseOptions dcdGetExtListOption args ⟨0, 0, 16, 0⟩).map fun a =>
    ⟨.sdb a.port 0x03 0x56 2 (putLe o 2 a.hostId ++ zeros 2 ++ putLe o 4 a.count ++ putLe o 4 a.start), a.count.val,
      false⟩

def fmDcdListTagsRequest : Option ListRequest :=
  (parseOptions dcdListTagsOption args ⟨0, 0, 16, 0⟩).map fun a =>
    ⟨.sdb a.port 0x08 0x56 2 (putLe o 4 a.start ++ putLe o 4 a.count), a.count.val, false⟩

end Requests

def ListCommand.request (o : ByteOrder) (disk : Disk) (args : List String) : ListCommand → Option ListRequest
  | .getSupportedFeat => getSupportedFeatRequest o args
  | .fmGetLdAlloc => fmGetLdAllocRequest args
  | .fmSetLdAlloc => fmSetLdAllocRequest disk args
  | .fmGetQosAllocBw => fmGetQosAllocBwRequest args
  | .fmSetQosAllocBw => fmSetQosAllocBwRequest disk args
  | .fmDcdGetExtList => fmDcdGetExtListRequest o args
  | .fmDcdListTags => fmDcdListTagsRequest o args

/-! ### Layouts -/

/-- The members before the list, as they are read. -/
def ListCommand.head : ListCommand → List (ℕ × ℕ)
  | .getSupportedFeat => [(0, 2), (2, 2)]
  | .fmGetLdAlloc => [(0, 1), (1, 1), (2, 1), (3, 1)]
  | .fmSetLdAlloc | .fmGetQosAllocBw | .fmSetQosAllocBw => [(0, 1), (1, 1)]
  | .fmDcdGetExtList => [(8, 4), (0, 2), (4, 4), (12, 4), (16, 4)]
  | .fmDcdListTags => [(8, 4), (0, 4), (4, 4), (12, 1)]

def ListCommand.base : ListCommand → ℕ
  | .getSupportedFeat => 8
  | .fmGetLdAlloc | .fmSetLdAlloc => 4
  | .fmGetQosAllocBw | .fmSetQosAllocBw => 2
  | .fmDcdGetExtList => 24
  | .fmDcdListTags => 16

def ListCommand.entrySz : ListCommand → ℕ
  | .getSupportedFeat => 48
  | .fmGetLdAlloc | .fmSetLdAlloc => 16
  | .fmGetQosAllocBw | .fmSetQosAllocBw => 1
  | .fmDcdGetExtList => 40
  | .fmDcdListTags => 84

/-- The members of an entry but for what is reserved or not printed. -/
def ListCommand.fields : ListCommand → List (ℕ × ℕ)
  | .getSupportedFeat => [(0, 16), (16, 2), (18, 2), (20, 2), (22, 4), (26, 1), (27, 1), (28, 2)]
  | .fmGetLdAlloc | .fmSetLdAlloc => [(0, 8), (8, 8)]
  | .fmGetQosAllocBw | .fmSetQosAllocBw => [(0, 1)]
  | .fmDcdGetExtList => [(0, 8), (8, 8), (16, 16), (32, 2)]
  | .fmDcdListTags => [(0, 16), (16, 1)]

/-- The size of a reply's payload, and of the host copy. -/
def ListCommand.payloadSz (k : ListCommand) (room : ℕ) : ℕ :=
  match k with
  | .getSupportedFeat => k.base + room
  | _ => k.base + room * k.entrySz

/-- The count that the device reports. -/
def ListCommand.count (o : ByteOrder) (rsp : Bytes) : ListCommand → ℕ
  | .getSupportedFeat => getLe o 2 (rsp.drop 16) 0
  | .fmGetLdAlloc => (byteAt (rsp.drop 16) 3).val
  | .fmSetLdAlloc | .fmGetQosAllocBw | .fmSetQosAllocBw => (byteAt (rsp.drop 16) 0).val
  | .fmDcdGetExtList | .fmDcdListTags => getLe o 4 (rsp.drop 16) 8

/-! ### Decoding, printing and dumping -/

/-- Spans of the reply buffer, of the host copy and of the buffer for a raw dump. -/
structure Touched where
  reply : List (ℕ × ℕ)
  host : List (ℕ × ℕ)
  dump : List (ℕ × ℕ)
  deriving DecidableEq, Repr

def untouched : Touched := ⟨[], [], []⟩

def Touched.join (a b : Touched) : Touched := ⟨a.reply ++ b.reply, a.host ++ b.host, a.dump ++ b.dump⟩

section Decode
variable (k : ListCommand)

def ListCommand.entries (n : ℕ) : List (ℕ × ℕ) := entryFields k.base k.entrySz k.fields n

/- fm-set-ld-alloc copies as many entries as it has sent. -/
def ListCommand.copied (room count : ℕ) : ℕ :=
  match k with
  | .fmSetLdAlloc => room
  | _ => count

/-- The host copy is cleared where the parser does that, filled and printed. -/
def ListCommand.hostTouched (room count : ℕ) : List (ℕ × ℕ) :=
  match k with
  | .getSupportedFeat => [(0, k.payloadSz room)] ++ (k.head ++ k.entries count) ++ (k.head ++ k.entries count)
  | .fmDcdGetExtList | .fmDcdListTags => []
  | _ => (k.head ++ k.entries (k.copied room count)) ++ (k.head ++ k.entries count)

def ListCommand.decoded (room count : ℕ) : Touched :=
  ⟨shifted 16 (k.head ++ k.entries (k.copied room count)), k.hostTouched room count, []⟩

/-- The three bytes of `pl_length` behind the tunnel's header. -/
def plLengthSpans : List (ℕ × ℕ) := [(9, 1), (10, 1), (11, 1)]

/- Without a length fm-get-ld-alloc builds the response again from the host copy, and
otherwise copies it to a buffer; fm-get-qos-alloc-bw writes it to the file as it is
in the reply. The file is read from up to the byte that it does not take, `sink`. -/
def ListCommand.dumped (rsp : Bytes) (count sink : ℕ) : Touched :=
  let plLen := Cci.plLength (rsp.drop 4)
  match k with
  | .fmGetLdAlloc =>
      if plLen = 0 then
        if count = 0 ∨ ldAllocBufSz < k.payloadSz count then ⟨plLengthSpans, [(3, 1)], []⟩
        else ⟨plLengthSpans, [(3, 1)] ++ (k.head ++ k.entries count),
          (k.head ++ k.entries count) ++ bytesFrom 0 (min (k.payloadSz count) sink)⟩
      else if ldAllocBufSz < plLen then ⟨plLengthSpans, [], []⟩
      else ⟨plLengthSpans ++ bytesFrom 16 plLen, [], bytesFrom 0 plLen ++ bytesFrom 0 (min plLen sink)⟩
  | .fmGetQosAllocBw =>
      if plLen = 0 then ⟨plLengthSpans ++ bytesFrom 16 (min (2 + count) sink), [(0, 1)], []⟩
      else ⟨plLengthSpans ++ bytesFrom 16 (min plLen sink), [], []⟩
  | _ => untouched

/-- What is touched after the vendor command has succeeded. -/
def ListCommand.touched (o : ByteOrder) (r : ListRequest) (rsp : Bytes) (sink : ℕ) : Touched :=
  let returnCode : Touched := ⟨[(12, 2)], [], []⟩
  if innerReturnCode o rsp ≠ 0 then returnCode
  else
    let decoded := returnCode.join (k.decoded r.room (k.count o rsp))
    if r.rawDump = true then decoded.join (k.dumped rsp (k.count o rsp) sink) else decoded

/-- Whether there is memory for everything; all but get-supported-feat look at the
pointers after the last allocation. -/
def ListCommand.allocate (r : ListRequest) : Tool Bool :=
  match k with
  | .getSupportedFeat =>
      checked (calloc (k.payloadSz r.room)) (return false) (calloc (16 + k.payloadSz r.room))
  | .fmGetLdAlloc | .fmGetQosAllocBw => do
      let rspBuf ← calloc (16 + k.payloadSz r.room)
      let hostBuf ← calloc (k.payloadSz r.room)
      return rspBuf && hostBuf
  | .fmSetLdAlloc | .fmSetQosAllocBw => do
      let reqBuf ← calloc (16 + k.payloadSz r.room)
      let rspBuf ← calloc (16 + k.payloadSz r.room)
      let hostBuf ← calloc (k.payloadSz r.room)
      return reqBuf && rspBuf && hostBuf
  | .fmDcdGetExtList | .fmDcdListTags => calloc (16 + k.payloadSz r.room)

def ListCommand.subcommand (o : ByteOrder) (disk : Disk) (sink : ℕ) (args : List String) : Tool Touched :=
  match k.request o disk args with
  | none => return untouched
  | some r => do
    let ok ← k.allocate r
    if ok = false then return untouched
    else do
      let (rc, rsp) ← vendorSpecific r.message (16 + k.payloadSz r.room)
      return if rc ≠ 0 then untouched else k.touched o r rsp sink

end Decode

end LibCxlmi.Tools
