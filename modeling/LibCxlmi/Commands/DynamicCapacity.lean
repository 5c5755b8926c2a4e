import LibCxlmi.Commands.Call

/-!
# Dynamic capacity (commands.c:2122-2246, 2911-3749)

Command set 48h of memory devices and 56h of the FM-API. Several of these
functions compute sizes from a request field after its conversion to
little-endian, that is, from a host word that only equals the count on a
little-endian host; `leWord` stands for that word.
-/

namespace LibCxlmi.Commands
open LibCxlmi.Word LibCxlmi.Cci

/-- The host word behind a 32-bit little-endian request field. -/
def leWord (o : ByteOrder) (v : U 32) : ℕ := cpuToLe o 4 v

def scaled (v : ℕ) : ℕ := v * (256 * 1024 * 1024) % 2 ^ 64

/-! ### Extents -/

structure DcExtent where
  startDpa : ℕ
  len : ℕ
  tag : Bytes
  sharedSeq : ℕ
  deriving DecidableEq, Repr

def dcExtent (o : ByteOrder) (r : Bytes) : DcExtent :=
  ⟨getLe o 8 r 0, getLe o 8 r 8, slice r 16 16, getLe o 2 r 32⟩

structure GetDcExtentListRsp where
  numExtentsReturned : ℕ
  totalNumExtents : ℕ
  generationNum : ℕ
  extents : List DcExtent
  deriving DecidableEq, Repr

/- The bound of 8 extents is applied to the converted word. -/
def extentCntWord (o : ByteOrder) (extentCnt : U 32) : ℕ :=
  if leWord o extentCnt = 0 ∨ 8 < leWord o extentCnt then leWord o 8 else leWord o extentCnt

def memdevGetDcExtentList (extentCnt startExtentIdx : U 32) : CciCommand GetDcExtentListRsp :=
  request 0x48 0x1 8 (fun o => storeWord o 4 (extentCntWord o extentCnt) ++ putLe o 4 startExtentIdx)
    (fun o => by rw [List.length_append, storeWord_length, putLe_length]) 16 (16 + 8 * 40) fun o pl =>
      let n := getLe o 4 pl 0
      (records pl 16 40 n (dcExtent o)).map fun es => ⟨n, getLe o 4 pl 4, getLe o 4 pl 8, es⟩

structure UpdatedExtent where
  startDpa : U 64
  len : U 64

def updatedExtent (o : ByteOrder) (e : UpdatedExtent) : Bytes :=
  putLe o 8 e.startDpa ++ putLe o 8 e.len ++ zeros 8

theorem updatedExtent_length (o : ByteOrder) (e : UpdatedExtent) : (updatedExtent o e).length = 24 := by
  simp only [updatedExtent, List.length_append, putLe_length, zeros_length]

structure UpdatedExtentListReq where
  flags : Byte
  extents : List UpdatedExtent
  updatedExtentListSize : extents.length < 2 ^ 32

/-- Add DC Response and Release DC only differ in the opcode. -/
def updatedExtentList (cmd : Byte) (i : UpdatedExtentListReq) : CciCommand Unit :=
  { order 0x48 cmd with
    reqHeap := true
    plSz := 8 + i.extents.length * 24
    payload := fun o => (putRecords i.extents (updatedExtent o)).map fun es =>
      putLe o 4 i.extents.length ++ [i.flags] ++ zeros 3 ++ es
    framed := fun o pl h => by
      obtain ⟨es, hes, rfl⟩ := Option.map_eq_some_iff.mp h
      unfold putRecords at hes
      split_ifs at hes
      rw [← Option.some.inj hes]
      simp only [List.length_append, putLe_length, zeros_length, List.length_singleton,
        flatMap_length _ _ 24 (updatedExtent_length o)] }

def memdevAddDcResponse (i : UpdatedExtentListReq) : CciCommand Unit := updatedExtentList 0x2 i

def memdevReleaseDc (i : UpdatedExtentListReq) : CciCommand Unit := updatedExtentList 0x3 i

/-! ### Region configurations -/

/-- The four counters behind the regions that were returned. -/
structure DcCounters where
  numExtentsSupported : ℕ
  numExtentsAvailable : ℕ
  numTagsSupported : ℕ
  numTagsAvailable : ℕ
  deriving DecidableEq, Repr

def dcCounters (o : ByteOrder) (r : Bytes) : DcCounters :=
  ⟨getLe o 4 r 0, getLe o 4 r 4, getLe o 4 r 8, getLe o 4 r 12⟩

/-- Regions of 40 bytes from offset `off` on, and the counters right after. -/
def regionsAndCounters {ρ : Type} (o : ByteOrder) (pl : Bytes) (off n : ℕ) (f : Bytes → ρ) :
    Option (List ρ × DcCounters) :=
  (records pl off 40 n f).bind fun rs =>
    (copyOut pl (off + n * 40) 16).map fun r => (rs, dcCounters o r)

/- `flags` is not copied and keeps the zero the structure is cleared to. -/
structure DcRegion where
  base : ℕ
  decodeLen : ℕ
  regionLen : ℕ
  blockSize : ℕ
  dsmadhandle : ℕ
  flags : Byte
  deriving DecidableEq, Repr

def dcRegion (o : ByteOrder) (r : Bytes) : DcRegion :=
  ⟨getLe o 8 r 0, scaled (getLe o 8 r 8), getLe o 8 r 16, getLe o 8 r 24, getLe o 4 r 32, 0⟩

structure GetDcConfigRsp where
  numRegions : Byte
  regionsReturned : Byte
  regionConfigs : List DcRegion
  counters : DcCounters
  deriving DecidableEq, Repr

def memdevGetDcConfig (regionCnt startRegionId : Byte) : CciCommand GetDcConfigRsp :=
  request 0x48 0x0 2 (fun _ => [regionCnt, startRegionId]) (twoBytes_length regionCnt startRegionId) 24 344 fun o pl =>
    (regionsAndCounters o pl 8 (byteAt pl 1).val (dcRegion o)).map fun (rs, cs) =>
      ⟨byteAt pl 0, byteAt pl 1, rs, cs⟩

structure HostDcRegion where
  base : ℕ
  decodeLen : ℕ
  regionLen : ℕ
  blockSize : ℕ
  flags : Byte
  sanitizeOnRelease : Byte
  deriving DecidableEq, Repr

def hostDcRegion (o : ByteOrder) (r : Bytes) : HostDcRegion :=
  ⟨getLe o 8 r 0, scaled (getLe o 8 r 8), getLe o 8 r 16, getLe o 8 r 24, byteAt r 32, byteAt r 36⟩

structure GetHostDcRegionConfigRsp where
  hostId : ℕ
  numRegions : Byte
  regionsReturned : Byte
  regionConfigs : List HostDcRegion
  counters : DcCounters
  deriving DecidableEq, Repr

def fmapiGetDcRegConfig (hostId : U 16) (regionCnt startRegionId : Byte) :
    CciCommand GetHostDcRegionConfigRsp :=
  request 0x56 0x1 4 (fun o => putLe o 2 hostId ++ [regionCnt, startRegionId])
    (fun o => by rw [List.length_append, putLe_length]; rfl) 20 340 fun o pl =>
      (regionsAndCounters o pl 4 (byteAt pl 3).val (hostDcRegion o)).map fun (rs, cs) =>
        ⟨getLe o 2 pl 0, byteAt pl 2, byteAt pl 3, rs, cs⟩

end LibCxlmi.Commands
