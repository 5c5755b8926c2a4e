import LibCxlmi.Commands.FmapiMld
import LibCxlmi.Tools.SdbTunnel

/-!
# Dump and restore of LD allocations (cmd_fm.c:82-178, cmd_features.c:98-160)

fm-get-ld-alloc leaves a Get LD Allocations response in a file of hexadecimal
digits, and fm-set-ld-alloc makes a Set LD Allocations request of such a file.
The normaliser tells the two layouts apart by the list count in the fourth byte
of a response and in the first of a request.
-/

namespace LibCxlmi.Tools
open LibCxlmi.Word LibCxlmi.Text LibCxlmi.Commands

/-! ### The four functions -/

/-- A Get LD Allocations response in host order; the list's length is a byte. -/
structure LdAllocationsHost where
  numberLd : Byte
  memoryGranularity : Byte
  startLdId : Byte
  ldAllocationList : List LdAllocationReq
  ldAllocationListLen : ldAllocationList.length < 256

def LdAllocationsHost.listLen (rsp : LdAllocationsHost) : Byte :=
  ⟨rsp.ldAllocationList.length, rsp.ldAllocationListLen⟩

def fmGetLdAllocPayloadSize (ldAllocationListLen : Byte) : ℕ := 4 + ldAllocationListLen.val * 16
def fmSetLdAllocPayloadSize (numberLd : Byte) : ℕ := 4 + numberLd.val * 16

/-- The buffers of both subcommands and of the normaliser: a header and 255 entries. -/
def ldAllocBufSz : ℕ := 4 + 255 * 16

def fmLdAllocBuildGetRspPayload (o : ByteOrder) (rsp : LdAllocationsHost) (bufSz : ℕ) : Option Bytes :=
  if rsp.listLen = 0 ∨ bufSz < fmGetLdAllocPayloadSize rsp.listLen then none
  else some ([rsp.numberLd, rsp.memoryGranularity, rsp.startLdId, rsp.listLen] ++
    rsp.ldAllocationList.flatMap (ldAllocationReq o))

def hexDigit (d : ℕ) : Byte := Fin.ofNat 256 (hexChar d).toNat

/- `%02x` of a byte. -/
def hexPair (b : Byte) : Bytes := [hexDigit (b.val / 16), hexDigit (b.val % 16)]

/-- The text of the file. -/
def writeHex (buf : Bytes) : Bytes := buf.flatMap hexPair

structure FmSetLdAllocParams where
  numberLd : Option Byte
  startLdId : Option Byte
  deriving DecidableEq, Repr

/-- How the normaliser ends: `undefined` after a copy beyond its buffer. -/
inductive Normalized where
  | undefined
  | rejected
  | accepted (payload : Bytes) (numberLd : Byte)
  deriving DecidableEq, Repr

/- An override of the number of LDs has to match the payload's size. -/
def sizedAs (payload : Bytes) : Normalized :=
  if fmSetLdAllocPayloadSize (byteAt payload 0) ≠ payload.length then .rejected
  else .accepted payload (byteAt payload 0)

def fmLdAllocNormalizeSetPayload (params : FmSetLdAllocParams) (payload : Bytes) : Normalized :=
  if payload.length < 4 ∨ (payload.length - 4) % 16 ≠ 0 then .rejected
  else
    let listCount := (payload.length - 4) / 16
    if (byteAt payload 3).val = listCount ∧
        payload.length = fmGetLdAllocPayloadSize (Fin.ofNat 256 listCount) then
      -- a response: the request is put together in a buffer and copied back
      if ldAllocBufSz < 4 + listCount * 16 ∨ ldAllocBufSz < payload.length then .undefined
      else sizedAs ([params.numberLd.getD (byteAt payload 3), params.startLdId.getD (byteAt payload 2), 0, 0] ++
        slice payload 4 (listCount * 16))
    else if (byteAt payload 0).val = listCount ∧
        payload.length = fmSetLdAllocPayloadSize (Fin.ofNat 256 listCount) then
      sizedAs ([params.numberLd.getD (byteAt payload 0), params.startLdId.getD (byteAt payload 1)] ++ payload.drop 2)
    else .rejected

def noOverrides : FmSetLdAllocParams := ⟨none, none⟩

/-! ### Through the file -/

theorem hexDigit_read : ∀ d : Fin 16,
    isSpace (Char.ofNat (hexDigit d.val).val) = false ∧ hexVal (hexDigit d.val) = some d.val := by decide

section Steps
variable {maxLen d : ℕ} {c : Byte} (s buf : Bytes)

theorem readHexLoop_high (hsp : ¬ isSpace (Char.ofNat c.val) = true) (hv : hexVal c = some d) :
    readHexLoop maxLen (c :: s) none buf = readHexLoop maxLen s (some d) buf := by
  rw [readHexLoop.eq_def]
  simp only [if_neg hsp, hv]

theorem readHexLoop_low (h : ℕ) (hsp : ¬ isSpace (Char.ofNat c.val) = true) (hv : hexVal c = some d)
    (hroom : ¬ maxLen ≤ buf.length) :
    readHexLoop maxLen (c :: s) (some h) buf = readHexLoop maxLen s none (buf ++ [Fin.ofNat 256 (16 * h + d)]) := by
  rw [readHexLoop.eq_def]
  simp only [if_neg hsp, hv, if_neg hroom]

end Steps

theorem readHexLoop_digits (maxLen : ℕ) (b : Byte) (s buf : Bytes) (h : buf.length < maxLen) :
    readHexLoop maxLen (hexDigit (b.val / 16) :: hexDigit (b.val % 16) :: s) none buf =
      readHexLoop maxLen s none (buf ++ [b]) := by
  obtain ⟨hsp₁, hv₁⟩ := hexDigit_read ⟨b.val / 16, by omega⟩
  obtain ⟨hsp₂, hv₂⟩ := hexDigit_read ⟨b.val % 16, by omega⟩
  rw [readHexLoop_high _ buf (Bool.not_eq_true _ ▸ hsp₁) hv₁,
    readHexLoop_low s buf _ (Bool.not_eq_true _ ▸ hsp₂) hv₂ (not_le.mpr h), byte_of_digits]

theorem readHexLoop_writeHex (maxLen : ℕ) (bs buf : Bytes) (h : buf.length + bs.length ≤ maxLen) :
    readHexLoop maxLen (writeHex bs) none buf = ⟨0, buf ++ bs⟩ := by
  induction bs generalizing buf with
  | nil =>
    rw [List.append_nil]
    rfl
  | cons b bs ih =>
    rw [List.length_cons] at h
    change readHexLoop maxLen (hexDigit (b.val / 16) :: hexDigit (b.val % 16) :: writeHex bs) none buf = _
    have hnext : (buf ++ [b]).length + bs.length ≤ maxLen := by
      rw [List.length_append, List.length_singleton]
      omega
    rw [readHexLoop_digits maxLen b _ buf (by omega), ih (buf ++ [b]) hnext, List.append_assoc, List.singleton_append]

theorem readHexText_writeHex (maxLen : ℕ) (buf : Bytes) (h : buf.length ≤ maxLen) :
    readHexText maxLen (writeHex buf) = ⟨0, buf⟩ :=
  readHexLoop_writeHex maxLen buf [] (by rwa [List.length_nil, Nat.zero_add])

/-- The reader stores a byte only where there is room for it. -/
theorem readHexLoop_length_le (maxLen : ℕ) (text : Bytes) (hi : Option ℕ) (buf : Bytes) (hbuf : buf.length ≤ maxLen) :
    (readHexLoop maxLen text hi buf).buf.length ≤ maxLen := by
  fun_induction readHexLoop maxLen text hi buf with
  | case1 buf => exact hbuf
  | case2 h buf => exact hbuf
  | case3 c s hi buf hsp ih => exact ih hbuf
  | case4 => exact hbuf
  | case5 c s buf hsp d hd ih => exact ih hbuf
  | case6 => exact hbuf
  | case7 c s buf hsp d h hd hroom ih =>
    have hnext : (buf ++ [Fin.ofNat 256 (16 * h + d)]).length ≤ maxLen := by
      rw [List.length_append, List.length_singleton]
      omega
    exact ih hnext

/-! ### What the normaliser takes and what it refuses -/

section Normaliser
variable (params : FmSetLdAllocParams) (payload : Bytes)

/-- The payload has the size of some list whose length stands where a response or a
request has it. -/
def Announced : Prop :=
  ∃ k, payload.length = 4 + 16 * k ∧ ((byteAt payload 3).val = k ∨ (byteAt payload 0).val = k)

theorem normalize_rejected (h : ¬Announced payload) : fmLdAllocNormalizeSetPayload params payload = .rejected := by
  unfold fmLdAllocNormalizeSetPayload
  dsimp only
  split_ifs with hsize hrsp hcopy hreq
  · rfl
  · exact absurd ⟨_, by omega, Or.inl hrsp.1⟩ h
  · exact absurd ⟨_, by omega, Or.inl hrsp.1⟩ h
  · exact absurd ⟨_, by omega, Or.inr hreq.1⟩ h
  · rfl

theorem normalize_in_buffer : fmLdAllocNormalizeSetPayload params payload ≠ .undefined := by
  have hsized : ∀ pl, sizedAs pl ≠ .undefined := by
    intro pl h
    unfold sizedAs at h
    split_ifs at h
  unfold fmLdAllocNormalizeSetPayload
  dsimp only
  split_ifs with hsize hrsp hcopy hreq
  · exact (nomatch ·)
  · -- the count stands in a byte of the payload
    have hbyte := (byteAt payload 3).isLt
    have hcount := hrsp.1
    unfold ldAllocBufSz at hcopy
    omega
  · exact hsized _
  · exact hsized _
  · exact (nomatch ·)

/-- A response becomes a request, under the number of entries it lists. -/
theorem normalize_response (n : Byte) (hlen : payload.length = 4 + 16 * n.val) (hn : byteAt payload 3 = n) :
    fmLdAllocNormalizeSetPayload noOverrides payload =
      .accepted ([n, byteAt payload 2, 0, 0] ++ slice payload 4 (n.val * 16)) n := by
  have hcount : (payload.length - 4) / 16 = n.val := by omega
  have hbyte : Fin.ofNat 256 n.val = n := Fin.ext (Nat.mod_eq_of_lt n.isLt)
  have hsize : payload.length = fmGetLdAllocPayloadSize n := by
    unfold fmGetLdAllocPayloadSize
    omega
  have hroom : ¬(ldAllocBufSz < 4 + n.val * 16 ∨ ldAllocBufSz < payload.length) := by
    unfold ldAllocBufSz
    omega
  have hfits : fmSetLdAllocPayloadSize n = ([n, byteAt payload 2, 0, 0] ++ slice payload 4 (n.val * 16)).length := by
    rw [List.length_append, slice_length]
    rfl
  unfold fmLdAllocNormalizeSetPayload
  rw [if_neg (by omega)]
  dsimp only
  rw [hcount, hbyte, hn, if_pos ⟨rfl, hsize⟩, if_neg hroom]
  exact if_neg (not_not.mpr hfits)

/-- A request is left as it is: its fourth byte is reserved. -/
theorem normalize_request (n : Byte) (hpos : 1 ≤ n.val) (hlen : payload.length = 4 + 16 * n.val)
    (hn : byteAt payload 0 = n) (hzero : byteAt payload 3 = 0) :
    fmLdAllocNormalizeSetPayload noOverrides payload = .accepted payload n := by
  have hcount : (payload.length - 4) / 16 = n.val := by omega
  have hbyte : Fin.ofNat 256 n.val = n := Fin.ext (Nat.mod_eq_of_lt n.isLt)
  have hsize : fmSetLdAllocPayloadSize n = payload.length := by
    unfold fmSetLdAllocPayloadSize
    omega
  have hsame : [byteAt payload 0, byteAt payload 1] ++ payload.drop 2 = payload := by
    have htake := slice_take_self payload 2 (by omega)
    change [byteAt payload 0, byteAt payload 1] = payload.take 2 at htake
    rw [htake, List.take_append_drop]
  have hother : ¬((byteAt payload 3).val = n.val ∧ payload.length = fmGetLdAllocPayloadSize n) := by
    rw [hzero]
    rintro ⟨h, -⟩
    change 0 = n.val at h
    omega
  unfold fmLdAllocNormalizeSetPayload
  rw [if_neg (by omega)]
  dsimp only
  rw [hcount, hbyte, if_neg hother, if_pos ⟨congrArg Fin.val hn, hsize.symm⟩]
  change sizedAs ([byteAt payload 0, byteAt payload 1] ++ payload.drop 2) = _
  rw [hsame, sizedAs, hn, if_neg (not_not.mpr hsize)]

end Normaliser

/-! ### The round trip -/

theorem build_eq (o : ByteOrder) (rsp : LdAllocationsHost) (hpos : 1 ≤ rsp.ldAllocationList.length) :
    fmLdAllocBuildGetRspPayload o rsp ldAllocBufSz =
      some ([rsp.numberLd, rsp.memoryGranularity, rsp.startLdId, rsp.listLen] ++
        rsp.ldAllocationList.flatMap (ldAllocationReq o)) := by
  have hlen : rsp.listLen.val = rsp.ldAllocationList.length := rfl
  refine if_neg ?_
  rintro (h | h)
  · have hzero := congrArg Fin.val h
    change rsp.ldAllocationList.length = 0 at hzero
    omega
  · have hlt := rsp.ldAllocationListLen
    unfold ldAllocBufSz fmGetLdAllocPayloadSize at h
    omega

theorem build_length_le (o : ByteOrder) (rsp : LdAllocationsHost) (bufSz : ℕ) (buf : Bytes)
    (h : fmLdAllocBuildGetRspPayload o rsp bufSz = some buf) : buf.length ≤ bufSz := by
  unfold fmLdAllocBuildGetRspPayload at h
  split_ifs at h with hno
  rw [← Option.some.inj h, List.length_append, flatMap_length _ _ 16 (ldAllocationReq_length o)]
  exact Nat.le_of_not_lt (not_or.mp hno).2

theorem normalize_dump (o : ByteOrder) (rsp : LdAllocationsHost) :
    fmLdAllocNormalizeSetPayload noOverrides ([rsp.numberLd, rsp.memoryGranularity, rsp.startLdId, rsp.listLen] ++
      rsp.ldAllocationList.flatMap (ldAllocationReq o)) =
      .accepted ([rsp.listLen, rsp.startLdId, 0, 0] ++ rsp.ldAllocationList.flatMap (ldAllocationReq o))
        rsp.listLen := by
  have hentries : (rsp.ldAllocationList.flatMap (ldAllocationReq o)).length = rsp.listLen.val * 16 :=
    flatMap_length _ _ 16 (ldAllocationReq_length o)
  have hslice : slice ([rsp.numberLd, rsp.memoryGranularity, rsp.startLdId, rsp.listLen] ++
      rsp.ldAllocationList.flatMap (ldAllocationReq o)) 4 (rsp.listLen.val * 16) =
      rsp.ldAllocationList.flatMap (ldAllocationReq o) := by
    rw [slice_append_right _ _ _ _ (Nat.le_refl 4)]
    exact slice_self _ _ hentries
  rw [normalize_response _ rsp.listLen _ rfl, hslice]
  · rfl
  · rw [List.length_append, hentries, Nat.mul_comm]
    rfl

/-- A dump comes back as the Set LD Allocations request of its entries; requests pass
as they are, anything else is refused, and nothing is copied beyond a buffer. -/
theorem ld_alloc_dump_restore (o : ByteOrder) :
    (∀ rsp : LdAllocationsHost, 1 ≤ rsp.ldAllocationList.length →
      ∃ dump pl, fmLdAllocBuildGetRspPayload o rsp ldAllocBufSz = some dump ∧
        (∀ (disk : Disk) path f, disk path = some f → f.read 0 f.size = writeHex dump →
          readHexPayloadFile disk path ldAllocBufSz = some dump) ∧
        fmLdAllocNormalizeSetPayload noOverrides dump = .accepted pl rsp.listLen ∧
        (fmapiSetLdAllocations ⟨rsp.startLdId, rsp.ldAllocationList, rsp.ldAllocationListLen⟩).payload o = some pl) ∧
    (∀ (n : Byte) (pl : Bytes), 1 ≤ n.val → pl.length = 4 + 16 * n.val → byteAt pl 0 = n → slice pl 2 2 = zeros 2 →
      fmLdAllocNormalizeSetPayload noOverrides pl = .accepted pl n) ∧
    (∀ params pl, ¬Announced pl → fmLdAllocNormalizeSetPayload params pl = .rejected) ∧
    (∀ params pl, fmLdAllocNormalizeSetPayload params pl ≠ .undefined) ∧
    (∀ rsp bufSz dump, fmLdAllocBuildGetRspPayload o rsp bufSz = some dump → dump.length ≤ bufSz) ∧
    ∀ disk path maxLen pl, readHexPayloadFile disk path maxLen = some pl → pl.length ≤ maxLen := by
  refine ⟨?_, ?_, normalize_rejected, normalize_in_buffer, build_length_le o, ?_⟩
  · intro rsp hpos
    have hbuild := build_eq o rsp hpos
    refine ⟨_, _, hbuild, fun disk path f hdisk htext => ?_, normalize_dump o rsp, rfl⟩
    rw [readHexPayloadFile, hdisk, Option.bind_some, htext,
      readHexText_writeHex ldAllocBufSz _ (build_length_le o rsp ldAllocBufSz _ hbuild)]
    rfl
  · intro n pl hpos hlen hn hzero
    exact normalize_request pl n hpos hlen hn (List.cons.inj (List.cons.inj hzero).2).1
  · intro disk path maxLen pl h
    obtain ⟨f, -, hread⟩ := Option.bind_eq_some_iff.mp h
    unfold HexRead.accepted at hread
    split_ifs at hread
    rw [← Option.some.inj hread]
    exact readHexLoop_length_le maxLen _ none [] (Nat.zero_le maxLen)

end LibCxlmi.Tools
