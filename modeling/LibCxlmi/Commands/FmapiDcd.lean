import LibCxlmi.Commands.DynamicCapacity

/-!
# FM-API management of dynamic capacity (commands.c:3269-3650)

Command set 56h apart from the region configurations.
-/

namespace LibCxlmi.Commands
open LibCxlmi.Word LibCxlmi.Cci

structure GetDcdInfoRsp where
  numHosts : Byte
  numSupportedDcRegions : Byte
  capacitySelectionPolicies : ℕ
  capacityRemovalPolicies : ℕ
  sanitizeOnReleaseConfigMask : Byte
  totalDynamicCapacity : ℕ
  regionSupportedBlkSzMask : List ℕ
  deriving DecidableEq, Repr

/- The eight masks are members of their own in the source. -/
def fmapiGetDcdInfo : CciCommand GetDcdInfoRsp :=
  query 0x56 0x0 84 fun o pl =>
    ⟨byteAt pl 0, byteAt pl 1, getLe o 2 pl 4, getLe o 2 pl 8, byteAt pl 10, scaled (getLe o 8 pl 12),
      (List.range 8).map fun i => getLe o 8 pl (20 + 8 * i)⟩

def fmapiSetDcRegionConfig (regionId : Byte) (blockSz : U 64) (sanitizeOnRelease : Byte) : CciCommand Unit :=
  instruct 0x56 0x2 16 (fun o => [regionId] ++ zeros 3 ++ putLe o 8 blockSz ++ [sanitizeOnRelease] ++ zeros 3)
    fun o => by simp only [List.length_append, putLe_length, zeros_length, List.length_singleton]

structure GetDcRegionExtListReq where
  hostId : U 16
  extentCount : U 32
  startExtIndex : U 32

structure GetDcRegionExtListRsp where
  hostId : ℕ
  startExtIndex : ℕ
  extentsReturned : ℕ
  totalExtents : ℕ
  listGenerationNum : ℕ
  extents : List DcExtent
  deriving DecidableEq, Repr

def fmapiGetDcRegionExtList (i : GetDcRegionExtListReq) : CciCommand GetDcRegionExtListRsp :=
  { instruct 0x56 0x3 12
      (fun o => putLe o 2 i.hostId ++ zeros 2 ++ putLe o 4 i.extentCount ++ putLe o 4 i.startExtIndex)
      (fun o => by simp only [List.length_append, putLe_length, zeros_length])
    with
    rspHeap := true
    rspSz := fun o => 12 + 24 + leWord o i.extentCount * 40
    rspMin := fun _ => 12 + 24
    decode := fun o rsp =>
      let pl := payload rsp
      let n := getLe o 4 pl 8
      (records pl 24 40 n (dcExtent o)).map fun es =>
        GetDcRegionExtListRsp.mk (getLe o 2 pl 0) (getLe o 4 pl 4) n (getLe o 4 pl 12) (getLe o 4 pl 16) es }

/-! ### Adding and releasing -/

structure RequestedExtent where
  startDpa : U 64
  len : U 64
  tag : Vec 0x10
  sharedSeq : U 16

def requestedExtent (o : ByteOrder) (e : RequestedExtent) : Bytes :=
  putLe o 8 e.startDpa ++ putLe o 8 e.len ++ e.tag ++ putLe o 2 e.sharedSeq ++ zeros 6

structure InitiateDcReq where
  hostId : U 16
  length : U 64
  tag : Vec 0x10
  extents : List RequestedExtent
  extCount : extents.length < 2 ^ 32

/- The size of the extents is kept in an `int`. When it does not fit, the
request has another size than the loop fills. -/
def initiateDcSize (i : InitiateDcReq) : ℕ := sizeT (32 + int32 (i.extents.length * 40))

/-- The two requests differ in the opcode and the bytes after the host id. -/
def initiateDc (cmd b2 b3 : Byte) (i : InitiateDcReq) : CciCommand Unit :=
  { order 0x56 cmd with
    reqHeap := true
    rspHeap := true
    plSz := initiateDcSize i
    payload := fun o => (putRecords i.extents (requestedExtent o)).bind fun es =>
      if 32 + es.length = initiateDcSize i then
        some (putLe o 2 i.hostId ++ [b2, b3] ++ putLe o 8 i.length ++ i.tag ++ putLe o 4 i.extents.length ++ es)
      else none
    framed := fun o pl h => by
      obtain ⟨es, -, h⟩ := Option.bind_eq_some_iff.mp h
      split_ifs at h with hsz
      rw [← Option.some.inj h, ← hsz]
      simp only [List.length_append, putLe_length, vec_length, List.length_cons, List.length_nil] }

def fmapiInitiateDcAdd (selectionPolicy regionNum : Byte) (i : InitiateDcReq) : CciCommand Unit :=
  initiateDc 0x4 selectionPolicy regionNum i

def fmapiInitiateDcRelease (flags : Byte) (i : InitiateDcReq) : CciCommand Unit := initiateDc 0x5 flags 0 i

/-! ### References and tags -/

def dcReference (cmd : Byte) (tag : Vec 0x10) : CciCommand Unit :=
  { instruct 0x56 cmd 16 (fun _ => tag) (vec16_length tag) with rspHeap := true }

def fmapiDcAddReference (tag : Vec 0x10) : CciCommand Unit := dcReference 0x6 tag

def fmapiDcRemoveReference (tag : Vec 0x10) : CciCommand Unit := dcReference 0x7 tag

structure TagInfo where
  tag : Bytes
  flags : Byte
  refBitmap : Bytes
  pendingRefBitmap : Bytes
  deriving DecidableEq, Repr

def tagInfo (r : Bytes) : TagInfo := ⟨slice r 0 16, byteAt r 16, slice r 20 32, slice r 52 32⟩

structure DcListTagsRsp where
  generationNum : ℕ
  totalNumTags : ℕ
  numTagsReturned : ℕ
  validityBitmap : Byte
  tagsList : List TagInfo
  deriving DecidableEq, Repr

/- The only function that fills the caller's structure whatever the code is. -/
def fmapiDcListTags (startIdx tagsCount : U 32) : CciCommand DcListTagsRsp :=
  { instruct 0x56 0x8 8 (fun o => putLe o 4 startIdx ++ putLe o 4 tagsCount)
      (twoWords32_length startIdx tagsCount)
    with
    rspHeap := true
    rspSz := fun o => sizeT (12 + 16 + int32 (leWord o tagsCount) * 84)
    rspMin := fun _ => 12 + 16
    checked := false
    decode := fun o rsp =>
      let pl := payload rsp
      let n := getLe o 4 pl 8
      (records pl 16 84 n tagInfo).map fun ts =>
        DcListTagsRsp.mk (getLe o 4 pl 0) (getLe o 4 pl 4) n (byteAt pl 12) ts }

end LibCxlmi.Commands
