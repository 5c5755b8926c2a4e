import LibCxlmi.Contract.Decoders
import LibCxlmi.Tools.Calls
import LibCxlmi.Tools.CallSites
import Mathlib.Data.List.Forall2

/-!
# Poison and scan media lists through the sideband tunnel (cmd_sdb_tunnel.c:2675-2841, 3165-3302)

get-poison-list and get-scan-media-results ask for a list and print what they get,
until the device says that there is no more of it, at most 64 times. They cut the
record count by the inner `pl_length` with an arithmetic of their own, beside the one
of the library. Whatever the device answers, they print what the library would have
decoded.
-/

namespace LibCxlmi.Tools
open LibCxlmi.Word LibCxlmi.Transport LibCxlmi.Commands LibCxlmi.Dialogue

inductive MediaList : Type → Type
  | poisonList : MediaList PoisonList
  | scanMediaResults : MediaList ScanMediaResults

variable {α β : Type}

/- SDB_POISON_MAX_RECORDS and SDB_SCAN_MEDIA_MAX_RECORDS. -/
def sdbMediaMaxRecords : ℕ := (2048 - 0x20) / 16
def sdbMediaMaxIterations : ℕ := 64
def mediaRspPayloadSz : ℕ := 32 + sdbMediaMaxRecords * 16

/-! ### A reply -/

/- The count is a `uint16_t`, the length that is left a `size_t`. -/
def sdbRecordCount (count payloadLen : ℕ) : ℕ :=
  let inReply := (payloadLen - 32) / 16
  let recordCount := if inReply < count then inReply % 2 ^ 16 else count
  if sdbMediaMaxRecords < recordCount then sdbMediaMaxRecords else recordCount

/-- What a message is decoded to for printing. -/
def MediaList.hostRsp (o : ByteOrder) : MediaList α → Bytes → Option α
  | .poisonList, m =>
      let pl := Cci.payload m
      let n := sdbRecordCount (getLe o 2 pl 10) (Cci.plLength m)
      (records pl 32 16 n (mediaErrRecord o)).map fun rs => ⟨byteAt pl 0, getLe o 8 pl 2, n, rs⟩
  | .scanMediaResults, m =>
      let pl := Cci.payload m
      let n := sdbRecordCount (getLe o 2 pl 18) (Cci.plLength m)
      (records pl 32 16 n (mediaErrRecord o)).map fun rs => ⟨getLe o 8 pl 0, getLe o 8 pl 8, byteAt pl 16, n, rs⟩

def MediaList.flags : MediaList α → α → Byte
  | .poisonList, v => v.poisonListFlags
  | .scanMediaResults, v => v.scanMediaFlags

def MediaList.count : MediaList α → α → ℕ
  | .poisonList, v => v.moreErrMediaRecordCnt
  | .scanMediaResults, v => v.mediaErrorCount

def MediaList.flagsAt : MediaList α → ℕ
  | .poisonList => 0
  | .scanMediaResults => 16

/-! ### The loop -/

inductive PageCall (α : Type) where
  | calloc (n : ℕ)
  | command (set cmd : Byte) (payload : Bytes)
  | vendor (m : Message) (retSize : ℕ)
  | print (v : α)

/-- A command of the library is answered by how its ioctl ended. -/
abbrev PageCall.Answer : PageCall α → Type
  | .calloc _ => Bool
  | .command _ _ _ => IoctlResult
  | .vendor _ _ => VendorReply
  | .print _ => Unit

abbrev PageTool (α : Type) := Program (PageCall α) PageCall.Answer

def pageAlloc (n : ℕ) : PageTool α Bool := ask (PageCall.calloc n)

/- The loop is left at its bound only with MORE still set. -/
def pageLoop (bound : ℕ) (round : ℕ → PageTool α (ℕ ⊕ End)) : PageTool α End := do
  let e ← iterate round bound 0
  return e.getD (.returned (-1))

/- A list that has been decoded is printed, and its flag looked at. -/
def pageShown (k : MediaList α) (iter : ℕ) (v : α) : PageTool α (ℕ ⊕ End) := do
  ask (PageCall.print v)
  return if (k.flags v).val.testBit 0 = true then .inl (iter + 1) else .inr (.returned 0)

/- Without a length the three bytes of `pl_length` stay zero. -/
def MediaList.message (port : Byte) (payload : Bytes) : MediaList α → Message
  | .poisonList => .sdb port 0x00 0x43 2 payload
  | .scanMediaResults => .sdb port 0x05 0x43 0 payload

/-- The inner message in the response buffer. -/
def innerRsp (x : VendorReply) : Bytes := (x.buffer (16 + mediaRspPayloadSz)).drop 4

/-- What follows from the vendor command's result: the next round, or the end. -/
def mediaStep (o : ByteOrder) (k : MediaList α) (iter : ℕ) (x : VendorReply) : PageTool α (ℕ ⊕ End) :=
  let returnCode := Cci.returnCode o (innerRsp x)
  let payloadLen := Cci.plLength (innerRsp x)
  if x.rc ≠ 0 then return .inr (.returned x.rc)
  else if returnCode ≠ 0 then return .inr (.returned returnCode)
  else if payloadLen < 32 ∨ mediaRspPayloadSz < payloadLen then return .inr (.returned (-1))
  else
    match k.hostRsp o (innerRsp x) with
    | none => return .inr .undefined
    | some host => pageShown k iter host

def mediaRound (o : ByteOrder) (k : MediaList α) (port : Byte) (payload : ℕ → Bytes) (iter : ℕ) :
    PageTool α (ℕ ⊕ End) :=
  ask (PageCall.vendor (k.message port (payload iter)) (16 + mediaRspPayloadSz)) >>= mediaStep o k iter

/-- Both buffers are allocated before either is looked at. -/
def mediaListing (o : ByteOrder) (k : MediaList α) (port : Byte) (payload : ℕ → Bytes) : PageTool α End := do
  let rspBuf ← pageAlloc (16 + mediaRspPayloadSz)
  let hostRsp ← pageAlloc mediaRspPayloadSz
  if (rspBuf && hostRsp) = false then return .returned (-1)
  else pageLoop sdbMediaMaxIterations (mediaRound o k port payload)

/-! ### The subcommands -/

def sdbSplitPoisonArgs : List String → Byte → List String → Option (Byte × List String)
  | [], port, kept => some (port, kept)
  | [x], port, kept => some (port, kept ++ [x])
  | x :: v :: rest, port, kept =>
      if x = "--port" then (parsePortId v).bind fun id => sdbSplitPoisonArgs rest id kept
      else sdbSplitPoisonArgs (v :: rest) port (kept ++ [x])

/- Only the first request asks for a restart, in the lowest bit of the address. -/
def poisonListPayload (o : ByteOrder) (req : U 64 × U 64 × Bool) (iter : ℕ) : Bytes :=
  let restart := if iter = 0 ∧ req.2.2 = true then 1 else 0
  putLe o 8 (req.1.val / 2 * 2 + restart) ++ putLe o 8 req.2.1

def sdbPoisonArgs (args : List String) : Option (Byte × U 64 × U 64 × Bool) :=
  (sdbSplitPoisonArgs args 0 []).bind fun a => (parseGetPoisonListReq a.2).map fun req => (a.1, req)

def sdbTunnelGetPoisonList (o : ByteOrder) (args : List String) : PageTool PoisonList End := do
  let poisonArgv ← pageAlloc (8 * max args.length 1)
  if poisonArgv = false then return .returned (-1)
  else
    match sdbPoisonArgs args with
    | none => return .returned (-1)
    | some (port, req) => mediaListing o .poisonList port (poisonListPayload o req)

def sdbPortOption (opt v : String) (_ : Byte) : Option Byte := if opt = "--port" then parsePortId v else none

def sdbTunnelGetScanMediaResults (o : ByteOrder) (args : List String) : PageTool ScanMediaResults End :=
  match parseOptions sdbPortOption args 0 with
  | none => return .returned (-1)
  | some port => mediaListing o .scanMediaResults port fun _ => []

def MediaList.subcommand (o : ByteOrder) (args : List String) : MediaList α → PageTool α End
  | .poisonList => sdbTunnelGetPoisonList o args
  | .scanMediaResults => sdbTunnelGetScanMediaResults o args

/-- The port and the payloads that accepted arguments stand for. -/
def MediaList.asked (o : ByteOrder) (args : List String) : MediaList α → Option (Byte × (ℕ → Bytes))
  | .poisonList => (sdbPoisonArgs args).map fun a => (a.1, poisonListPayload o a.2)
  | .scanMediaResults => (parseOptions sdbPortOption args 0).map fun port => (port, fun _ => [])

/-! ### The library's decoders -/

def MediaList.library (phyAddr phyAddrLen : U 64) : MediaList α → CciCommand α
  | .poisonList => getPoisonList phyAddr phyAddrLen
  | .scanMediaResults => memdevGetScanMediaResults

/-- The two ways to cut the count agree on every length that a list header fits in. -/
theorem sdbRecordCount_eq (count : ℕ) (m : Bytes) (h : 32 ≤ Cci.plLength m) :
    sdbRecordCount count (Cci.plLength m) = clampCount count m 32 16 maxPoisonRecords := by
  have hpl : Cci.plLength m < 2 ^ 20 := by
    rw [Cci.plLength_eq]
    omega
  have hin : recordsInRsp m 32 16 = (Cci.plLength m - 32) / 16 := by
    unfold recordsInRsp
    split
    · rfl
    · omega
  have hmod : (Cci.plLength m - 32) / 16 % 2 ^ 16 = (Cci.plLength m - 32) / 16 := Nat.mod_eq_of_lt (by omega)
  have hmax : sdbMediaMaxRecords = maxPoisonRecords := rfl
  unfold sdbRecordCount clampCount
  rw [hin, hmod, hmax]
  dsimp only
  split_ifs with h₁ h₂ h₂
  · omega
  · omega
  · omega
  · omega

theorem sdbRecordCount_fits (count payloadLen : ℕ) (h : 32 ≤ payloadLen) :
    32 + sdbRecordCount count payloadLen * 16 ≤ payloadLen ∧ sdbRecordCount count payloadLen ≤ sdbMediaMaxRecords := by
  have hmod : (payloadLen - 32) / 16 % 2 ^ 16 ≤ (payloadLen - 32) / 16 := Nat.mod_le _ _
  unfold sdbRecordCount
  dsimp only
  split_ifs with h₁ h₂ h₂
  · omega
  · omega
  · omega
  · omega

/-- A message of an accepted length is decoded, as the library does it, from what lies
within its length. -/
structure MediaList.DecodesAlike (k : MediaList α) (o : ByteOrder) (phyAddr phyAddrLen : U 64) (m : Bytes) (v : α) :
    Prop where
  tunnel : k.hostRsp o m = some v
  library : (k.library phyAddr phyAddrLen).decode o m = some v
  inside : 32 + k.count v * 16 ≤ Cci.plLength m
  room : k.count v ≤ sdbMediaMaxRecords

/-- The first `n` records of a list behind its header. -/
def mediaRecords (o : ByteOrder) (pl : Bytes) (n : ℕ) : List MediaErrRecord :=
  (List.range n).map fun i => mediaErrRecord o (slice pl (32 + i * 16) 16)

theorem records_in_reply (o : ByteOrder) (m : Bytes) (hlen : m.length = 12 + mediaRspPayloadSz)
    (hlow : 32 ≤ Cci.plLength m) (hhigh : Cci.plLength m ≤ mediaRspPayloadSz) (count : ℕ) :
    records (Cci.payload m) 32 16 (sdbRecordCount count (Cci.plLength m)) (mediaErrRecord o) =
      some (mediaRecords o (Cci.payload m) (sdbRecordCount count (Cci.plLength m))) := by
  have hpl : (Cci.payload m).length = mediaRspPayloadSz := by
    rw [Cci.payload, List.length_drop, hlen, Nat.add_sub_cancel_left]
  obtain ⟨hin, hmax⟩ := sdbRecordCount_fits count (Cci.plLength m) hlow
  have hcap : sdbMediaMaxRecords < 2 ^ 31 := by decide
  exact Contract.records_of_le _ 32 16 _ _ (by omega) (by omega)

theorem decodes_alike (k : MediaList α) (o : ByteOrder) (phyAddr phyAddrLen : U 64) (m : Bytes)
    (hlen : m.length = 12 + mediaRspPayloadSz) (hlow : 32 ≤ Cci.plLength m)
    (hhigh : Cci.plLength m ≤ mediaRspPayloadSz) : ∃ v, k.DecodesAlike o phyAddr phyAddrLen m v := by
  have hrecords := records_in_reply o m hlen hlow hhigh
  have hcount := fun count => sdbRecordCount_eq count m hlow
  cases k with
  | poisonList =>
    obtain ⟨hin, hmax⟩ := sdbRecordCount_fits (getLe o 2 (Cci.payload m) 10) (Cci.plLength m) hlow
    refine ⟨⟨byteAt (Cci.payload m) 0, getLe o 8 (Cci.payload m) 2,
      sdbRecordCount (getLe o 2 (Cci.payload m) 10) (Cci.plLength m),
      mediaRecords o (Cci.payload m) (sdbRecordCount (getLe o 2 (Cci.payload m) 10) (Cci.plLength m))⟩,
      ?_, ?_, hin, hmax⟩
    · simp only [MediaList.hostRsp, hrecords, Option.map_some]
    · simp only [MediaList.library, getPoisonList, ← hcount, hrecords, Option.map_some]
  | scanMediaResults =>
    obtain ⟨hin, hmax⟩ := sdbRecordCount_fits (getLe o 2 (Cci.payload m) 18) (Cci.plLength m) hlow
    refine ⟨⟨getLe o 8 (Cci.payload m) 0, getLe o 8 (Cci.payload m) 8, byteAt (Cci.payload m) 16,
      sdbRecordCount (getLe o 2 (Cci.payload m) 18) (Cci.plLength m),
      mediaRecords o (Cci.payload m) (sdbRecordCount (getLe o 2 (Cci.payload m) 18) (Cci.plLength m))⟩,
      ?_, ?_, hin, hmax⟩
    · simp only [MediaList.hostRsp, hrecords, Option.map_some]
    · simp only [MediaList.library, memdevGetScanMediaResults, ← hcount, hrecords, Option.map_some]

theorem innerRsp_length (x : VendorReply) : (innerRsp x).length = 12 + mediaRspPayloadSz := by
  rw [innerRsp, List.length_drop, x.buffer_length]
  omega

theorem MediaList.flags_hostRsp (k : MediaList α) (o : ByteOrder) (m : Bytes) (v : α) (h : k.hostRsp o m = some v) :
    k.flags v = byteAt (Cci.payload m) k.flagsAt := by
  cases k with
  | poisonList =>
    obtain ⟨rs, -, rfl⟩ := Option.map_eq_some_iff.mp h
    rfl
  | scanMediaResults =>
    obtain ⟨rs, -, rfl⟩ := Option.map_eq_some_iff.mp h
    rfl

/-! ### Runs -/

/-- A successful reply, of a length that is taken. -/
def accepted (o : ByteOrder) (x : VendorReply) : Bool :=
  decide (x.rc = 0 ∧ Cci.returnCode o (innerRsp x) = 0 ∧
    32 ≤ Cci.plLength (innerRsp x) ∧ Cci.plLength (innerRsp x) ≤ mediaRspPayloadSz)

def MediaList.moreSet (k : MediaList α) (x : VendorReply) : Bool :=
  (byteAt (Cci.payload (innerRsp x)) k.flagsAt).val.testBit 0

/-- A reply after which there is another request. -/
def MediaList.GoesOn (k : MediaList α) (o : ByteOrder) (x : VendorReply) : Prop :=
  accepted o x = true ∧ k.moreSet x = true

/-- A successful reply in which MORE is clear. -/
def MediaList.NoMore (k : MediaList α) (o : ByteOrder) (x : VendorReply) : Prop :=
  accepted o x = true ∧ k.moreSet x = false

theorem MediaList.GoesOn.not_noMore {k : MediaList α} {o : ByteOrder} {x : VendorReply} (h : k.GoesOn o x) :
    ¬k.NoMore o x :=
  fun hno => Bool.noConfusion (hno.2.symm.trans h.2)

/-- What a run has asked and printed, and whether it got all the memory it wanted. -/
structure Seen (α : Type) where
  calls : Calls
  shown : List α
  memory : Bool

def Seen.next (s : Seen α) : Event (PageCall α) PageCall.Answer → Seen α
  | ⟨.calloc _, b⟩ => { s with memory := s.memory && b }
  | ⟨.command _ _ _, _⟩ => s
  | ⟨.vendor m _, x⟩ => { s with calls := s.calls ++ [(m, x)] }
  | ⟨.print v, _⟩ => { s with shown := s.shown ++ [v] }

def seen (t : History (PageCall α) PageCall.Answer) : Seen α := t.foldl Seen.next ⟨[], [], true⟩

section Runs
variable (o : ByteOrder) (k : MediaList α) (phyAddr phyAddrLen : U 64)

/-- The lists that are printed are, one for one, those the library decodes the accepted
replies to. -/
def MediaList.PrintsDecoded (s : Seen α) : Prop :=
  List.Forall₂ (fun c v => k.DecodesAlike o phyAddr phyAddrLen (innerRsp c.2) v)
    (s.calls.filter fun c => accepted o c.2) s.shown

def MediaList.Requests (port : Byte) (payload : ℕ → Bytes) (s : Seen α) : Prop :=
  s.calls.map Prod.fst = (List.range s.calls.length).map fun i => k.message port (payload i)

/-- A listing that has ended: before the last request all was well and MORE was set. -/
structure MediaList.Listed (args : List String) (s : Seen α) (e : End) : Prop where
  printed : k.PrintsDecoded o phyAddr phyAddrLen s
  requests : ∀ port payload, k.asked o args = some (port, payload) → k.Requests port payload s
  bounded : s.calls.length ≤ 64
  onlyMore : ∀ c ∈ s.calls.dropLast, k.GoesOn o c.2
  complete : k.asked o args ≠ none → s.memory = true → s.calls.length = 64 ∨ ∃ c ∈ s.calls, ¬k.GoesOn o c.2
  silent : k.asked o args = none ∨ s.memory = false → s.calls = []
  returned : ∃ rc, e = .returned rc
  zero : e = .returned 0 ↔ ∃ c ∈ s.calls, k.NoMore o c.2

/-- Everything is looked at, and nothing assumed. -/
def watched : Contract (PageCall α) PageCall.Answer (Seen α) where
  next := Seen.next
  rely _ _ _ := True
  guarantee _ _ := True

theorem watched_sound (p : PageTool α β) (post : β → Seen α → Prop) (t : History (PageCall α) PageCall.Answer) (r : β)
    (hp : p.Meets watched post ⟨[], [], true⟩) (hrun : p.Runs t r) : post r (seen t) :=
  (meets_sound watched p post _ t r hp hrun (kept_of_rely watched (fun _ _ _ => trivial) _ t)).2

theorem meets_pageAlloc (n : ℕ) (post : Bool → Seen α → Prop) (s : Seen α)
    (hpost : ∀ b, post b { s with memory := s.memory && b }) : (pageAlloc n).Meets watched post s :=
  meets_ask watched (PageCall.calloc n) post s trivial fun b _ => hpost b

theorem mediaStep_refused (iter : ℕ) (x : VendorReply) (hx : accepted o x = false) :
    ∃ rc, rc ≠ 0 ∧ mediaStep o k iter x = return .inr (.returned rc) := by
  have hnot := of_decide_eq_false hx
  unfold mediaStep
  dsimp only
  split_ifs with hrc hinner hsize
  · exact ⟨x.rc, hrc, rfl⟩
  · exact ⟨_, Int.natCast_ne_zero.mpr hinner, rfl⟩
  · exact ⟨-1, by decide, rfl⟩
  · exact absurd ⟨not_not.mp hrc, not_not.mp hinner, by omega, by omega⟩ hnot

theorem mediaStep_accepted (iter : ℕ) (x : VendorReply) (hx : accepted o x = true) : ∃ v,
    k.DecodesAlike o phyAddr phyAddrLen (innerRsp x) v ∧ (k.flags v).val.testBit 0 = k.moreSet x ∧
      mediaStep o k iter x = pageShown k iter v := by
  obtain ⟨hrc, hinner, hlow, hhigh⟩ := of_decide_eq_true hx
  obtain ⟨v, hv⟩ := decodes_alike k o phyAddr phyAddrLen (innerRsp x) (innerRsp_length x) hlow hhigh
  refine ⟨v, hv, ?_, ?_⟩
  · rw [k.flags_hostRsp o _ v hv.tunnel, MediaList.moreSet]
  · unfold mediaStep
    dsimp only
    rw [if_neg (not_not.mpr hrc), if_neg (not_not.mpr hinner), if_neg (by omega), hv.tunnel]

variable (port : Byte) (payload : ℕ → Bytes)

/-- What holds after `n` requests. -/
structure MediaList.Transcript (n : ℕ) (s : Seen α) : Prop where
  printed : k.PrintsDecoded o phyAddr phyAddrLen s
  requests : k.Requests port payload s
  length : s.calls.length = n
  onlyMore : ∀ c ∈ s.calls.dropLast, k.GoesOn o c.2
  memory : s.memory = true

/-- There is nothing more to ask for. -/
structure MediaList.Ended (e : End) (s : Seen α) : Prop where
  transcript : ∃ n ≤ 64, k.Transcript o phyAddr phyAddrLen port payload n s
  complete : s.calls.length = 64 ∨ ∃ c ∈ s.calls, ¬k.GoesOn o c.2
  returned : ∃ rc, e = .returned rc
  zero : e = .returned 0 ↔ ∃ c ∈ s.calls, k.NoMore o c.2

/-- MORE has been set all along. -/
def MediaList.Going (iter : ℕ) (s : Seen α) : Prop :=
  k.Transcript o phyAddr phyAddrLen port payload iter s ∧ ∀ c ∈ s.calls, k.GoesOn o c.2

section Request
variable {o k phyAddr phyAddrLen port payload}

theorem transcript_next {iter : ℕ} {s : Seen α} (h : k.Going o phyAddr phyAddrLen port payload iter s) (x : VendorReply)
    (shown : List α) (hshown : k.PrintsDecoded o phyAddr phyAddrLen
      ⟨s.calls ++ [(k.message port (payload iter), x)], shown, s.memory⟩) :
    k.Transcript o phyAddr phyAddrLen port payload (iter + 1)
      ⟨s.calls ++ [(k.message port (payload iter), x)], shown, s.memory⟩ := by
  obtain ⟨ht, hmore⟩ := h
  refine ⟨hshown, ?_, ?_, ?_, ht.memory⟩
  · have hrequests := ht.requests
    unfold MediaList.Requests at hrequests ⊢
    rw [List.map_append, hrequests, List.length_append, List.length_singleton, List.range_succ, List.map_append,
      ht.length]
    rfl
  · rw [List.length_append, ht.length, List.length_singleton]
  · rw [List.dropLast_concat]
    exact hmore

theorem printsDecoded_refused {s : Seen α} (h : k.PrintsDecoded o phyAddr phyAddrLen s) (m : Message) (x : VendorReply)
    (hx : accepted o x = false) :
    k.PrintsDecoded o phyAddr phyAddrLen ⟨s.calls ++ [(m, x)], s.shown, s.memory⟩ := by
  unfold MediaList.PrintsDecoded
  rw [List.filter_append, List.filter_singleton, hx]
  exact (List.append_nil _).symm ▸ h

theorem printsDecoded_accepted {s : Seen α} (h : k.PrintsDecoded o phyAddr phyAddrLen s) (m : Message) (x : VendorReply)
    (hx : accepted o x = true) (v : α) (hv : k.DecodesAlike o phyAddr phyAddrLen (innerRsp x) v) :
    k.PrintsDecoded o phyAddr phyAddrLen ⟨s.calls ++ [(m, x)], s.shown ++ [v], s.memory⟩ := by
  unfold MediaList.PrintsDecoded
  rw [List.filter_append, List.filter_singleton, hx]
  exact List.rel_append h (.cons hv .nil)

end Request

theorem mediaRound_meets (iter : ℕ) (s : Seen α) (hs : k.Going o phyAddr phyAddrLen port payload iter s)
    (hiter : iter < 64) :
    (mediaRound o k port payload iter).Meets watched (Sum.elim
      (fun iter' s' => iter' = iter + 1 ∧ k.Going o phyAddr phyAddrLen port payload (iter + 1) s')
      (k.Ended o phyAddr phyAddrLen port payload)) s := by
  refine meets_bind watched _ _ _ s (meets_ask watched _ _ s trivial fun x _ => ?_)
  change (mediaStep o k iter x).Meets watched _ ⟨s.calls ++ [(k.message port (payload iter), x)], s.shown, s.memory⟩
  cases hx : accepted o x with
  | false =>
    obtain ⟨rc, hrc, hstep⟩ := mediaStep_refused o k iter x hx
    have hlast : ¬k.GoesOn o x := fun h => Bool.noConfusion (hx.symm.trans h.1)
    rw [hstep]
    refine meets_ret watched _ _ _ ⟨⟨iter + 1, hiter, ?_⟩, Or.inr ⟨_, List.mem_concat_self, hlast⟩, ⟨rc, rfl⟩, ?_⟩
    · exact transcript_next hs x s.shown (printsDecoded_refused hs.1.printed _ x hx)
    · refine iff_of_false (fun h => hrc (End.returned.inj h)) ?_
      rintro ⟨c, hc, hno⟩
      obtain hc | hc := List.mem_append.mp hc
      · exact (hs.2 c hc).not_noMore hno
      · obtain rfl := List.mem_singleton.mp hc
        exact Bool.noConfusion (hx.symm.trans hno.1)
  | true =>
    obtain ⟨v, hv, hflag, hstep⟩ := mediaStep_accepted o k phyAddr phyAddrLen iter x hx
    have hnext := transcript_next hs x (s.shown ++ [v]) (printsDecoded_accepted hs.1.printed _ x hx v hv)
    rw [hstep, pageShown, hflag]
    refine meets_bind watched _ _ _ _ (meets_ask watched _ _ _ trivial fun _ _ => meets_ret watched _ _ _ ?_)
    cases hmore : k.moreSet x with
    | true =>
      refine ⟨rfl, hnext, ?_⟩
      exact List.forall_mem_append.mpr ⟨hs.2, List.forall_mem_singleton.mpr ⟨hx, hmore⟩⟩
    | false =>
      refine ⟨⟨iter + 1, hiter, hnext⟩, Or.inr ⟨_, List.mem_concat_self, ?_⟩, ⟨0, rfl⟩, ?_⟩
      · exact fun h => Bool.noConfusion (hmore.symm.trans h.2)
      · exact iff_of_true rfl ⟨_, List.mem_concat_self, hx, hmore⟩

theorem mediaRounds_meets (n iter : ℕ) (s : Seen α) (hs : k.Going o phyAddr phyAddrLen port payload iter s)
    (hn : iter + n = 64) :
    (iterate (mediaRound o k port payload) n iter).Meets watched
      (fun e => k.Ended o phyAddr phyAddrLen port payload (e.getD (.returned (-1)))) s := by
  induction n generalizing iter s with
  | zero =>
    obtain ⟨ht, hmore⟩ := hs
    refine meets_ret watched _ _ s ⟨⟨iter, hn.le, ht⟩, Or.inl (ht.length.trans hn), ⟨-1, rfl⟩, ?_⟩
    refine iff_of_false (by decide) ?_
    rintro ⟨c, hc, hno⟩
    exact (hmore c hc).not_noMore hno
  | succ n ih =>
    refine meets_bind watched _ _ _ s (meets_mono watched _ _ _ s
      (mediaRound_meets o k phyAddr phyAddrLen port payload iter s hs (by omega)) fun r s' hr => ?_)
    cases r with
    | inl iter' =>
      obtain ⟨rfl, hgoing⟩ := hr
      exact ih (iter + 1) s' hgoing (by omega)
    | inr e => exact meets_ret watched _ _ s' hr

/- Without the buffers nothing is asked for. -/
theorem mediaListing_meets : (mediaListing o k port payload).Meets watched (fun e s =>
    s.memory = false ∧ s.calls = [] ∧ s.shown = [] ∧ e = .returned (-1) ∨
      k.Ended o phyAddr phyAddrLen port payload e s) ⟨[], [], true⟩ := by
  refine meets_bind watched _ _ _ _ (meets_pageAlloc _ _ _ fun rspBuf => ?_)
  refine meets_bind watched _ _ _ _ (meets_pageAlloc _ _ _ fun hostRsp => ?_)
  cases hmem : rspBuf && hostRsp with
  | false =>
    refine meets_ret watched _ _ _ (Or.inl ⟨?_, rfl, rfl, rfl⟩)
    rwa [Bool.true_and]
  | true =>
    refine meets_bind watched _ _ _ _ (meets_mono watched _ _ _ _ (mediaRounds_meets o k phyAddr phyAddrLen port payload
      64 0 _ ⟨⟨.nil, rfl, rfl, List.forall_mem_nil _, ?_⟩, List.forall_mem_nil _⟩ rfl) fun e s he => ?_)
    · rwa [Bool.true_and]
    · exact meets_ret watched _ _ s (Or.inr he)

variable (args : List String)

theorem listed_silent (s : Seen α) (hcalls : s.calls = []) (hshown : s.shown = [])
    (hwhy : k.asked o args = none ∨ s.memory = false) : k.Listed o phyAddr phyAddrLen args s (.returned (-1)) := by
  obtain ⟨calls, shown, memory⟩ := s
  obtain rfl : calls = [] := hcalls
  obtain rfl : shown = [] := hshown
  refine ⟨.nil, fun _ _ _ => rfl, Nat.zero_le _, List.forall_mem_nil _, fun hasked hmem => ?_, fun _ => rfl,
    ⟨-1, rfl⟩, ?_⟩
  · rcases hwhy with hnone | hnone
    · exact absurd hnone hasked
    · exact Bool.noConfusion (hmem.symm.trans hnone)
  · refine iff_of_false (by decide) ?_
    rintro ⟨c, hc, -⟩
    cases hc

theorem listed_ended (hasked : k.asked o args = some (port, payload)) (e : End) (s : Seen α)
    (h : k.Ended o phyAddr phyAddrLen port payload e s) : k.Listed o phyAddr phyAddrLen args s e := by
  obtain ⟨⟨n, hn, ht⟩, hcomplete, hreturned, hzero⟩ := h
  refine ⟨ht.printed, fun port' payload' h => ?_, ht.length.trans_le hn, ht.onlyMore, fun _ _ => hcomplete, ?_,
    hreturned, hzero⟩
  · obtain ⟨rfl, rfl⟩ := Prod.mk.inj (Option.some.inj (hasked.symm.trans h))
    exact ht.requests
  · rintro (hnone | hnone)
    · cases hasked.symm.trans hnone
    · exact Bool.noConfusion (ht.memory.symm.trans hnone)

theorem mediaListing_listed (hasked : k.asked o args = some (port, payload)) :
    (mediaListing o k port payload).Meets watched (fun e s => k.Listed o phyAddr phyAddrLen args s e)
      ⟨[], [], true⟩ := by
  refine meets_mono watched _ _ _ _ (mediaListing_meets o k phyAddr phyAddrLen port payload) ?_
  rintro e s (⟨hmem, hcalls, hshown, rfl⟩ | h)
  · exact listed_silent o k phyAddr phyAddrLen args s hcalls hshown (Or.inr hmem)
  · exact listed_ended o k phyAddr phyAddrLen port payload args hasked e s h

theorem subcommand_listed : (k.subcommand o args).Meets watched
    (fun e s => k.Listed o phyAddr phyAddrLen args s e) ⟨[], [], true⟩ := by
  cases k with
  | poisonList =>
    refine meets_bind watched _ _ _ _ (meets_pageAlloc _ _ _ fun poisonArgv => ?_)
    cases poisonArgv with
    | false => exact meets_ret watched _ _ _ (listed_silent o _ phyAddr phyAddrLen args _ rfl rfl (Or.inr rfl))
    | true =>
      rw [if_neg Bool.true_eq_false.mp]
      cases hargs : sdbPoisonArgs args with
      | none =>
        refine meets_ret watched _ _ _ (listed_silent o _ phyAddr phyAddrLen args _ rfl rfl (Or.inl ?_))
        rw [MediaList.asked, hargs]
        rfl
      | some a =>
        refine mediaListing_listed o _ phyAddr phyAddrLen a.1 (poisonListPayload o a.2) args ?_
        rw [MediaList.asked, hargs]
        rfl
  | scanMediaResults =>
    change (sdbTunnelGetScanMediaResults o args).Meets watched _ _
    unfold sdbTunnelGetScanMediaResults
    cases hargs : parseOptions sdbPortOption args 0 with
    | none =>
      refine meets_ret watched _ _ _ (listed_silent o _ phyAddr phyAddrLen args _ rfl rfl (Or.inl ?_))
      rw [MediaList.asked, hargs]
      rfl
    | some port =>
      refine mediaListing_listed o _ phyAddr phyAddrLen port (fun _ => []) args ?_
      rw [MediaList.asked, hargs]
      rfl

end Runs

/-- Every reply of an accepted length is decoded as the library decodes it. In every run
the subcommands print just that for the replies that succeed. They go on while MORE is
set, for at most 64 requests, and end with 0 exactly if some successful reply had it
clear. -/
theorem media_listings_agree (k : MediaList α) (o : ByteOrder) (phyAddr phyAddrLen : U 64) :
    (∀ m : Bytes, m.length = 12 + mediaRspPayloadSz → 32 ≤ Cci.plLength m → Cci.plLength m ≤ mediaRspPayloadSz →
      ∃ v, k.DecodesAlike o phyAddr phyAddrLen m v) ∧
    ∀ args t e, (k.subcommand o args).Runs t e → k.Listed o phyAddr phyAddrLen args (seen t) e :=
  ⟨decodes_alike k o phyAddr phyAddrLen, fun args t e hrun =>
    watched_sound _ _ t e (subcommand_listed o k phyAddr phyAddrLen args) hrun⟩

end LibCxlmi.Tools
