import LibCxlmi.Commands.Sizes

/-!
# Replies of list commands that are shorter than asked for

Seven commands let the caller state how many entries it wants at most. `Carries`
says what a reply with whole entries and the right counts looks like on the
wire, `Handed` that the caller got just those, and `Admits` which of these
replies the sizes chosen in commands.c let through.
-/

namespace LibCxlmi.Contract
open LibCxlmi.Word LibCxlmi.Cci LibCxlmi.Transport LibCxlmi.Commands

variable {α β : Type}

/-- A payload of `head` bytes and `count` entries of `size` bytes, of at most `limit`. -/
def Lists (pl : Bytes) (head size count limit : ℕ) : Prop :=
  pl.length = head + count * size ∧ count ≤ limit

def entriesAt (pl : Bytes) (head size count : ℕ) (f : Bytes → β) : List β :=
  (List.range count).map fun i => f (slice pl (head + i * size) size)

/-- Blocks of one virtual switch each: four bytes, the last of them the number
of vPPBs, and four bytes for each vPPB. -/
def VcsBlocks (limit : ℕ) : ℕ → Bytes → Prop
  | 0, b => b = []
  | n + 1, b => 4 + 4 * (byteAt b 3).val ≤ b.length ∧ (byteAt b 3).val ≤ limit ∧
      VcsBlocks limit n (b.drop (4 + 4 * (byteAt b 3).val))

def Carries : Command α → Bytes → Prop
  | .getSupportedLogsSublist n _, pl => Lists pl 8 20 (byteAt pl 0) n
  | .fmapiGetLdAllocations _ n, pl => Lists pl 4 16 (byteAt pl 3) n
  | .fmapiGetMultiheadedInfo _ n, pl => Lists pl 8 1 (byteAt pl 5) n
  | .memdevGetDcExtentList n _, pl => Lists pl 16 40 (leVal (slice pl 0 4)) n
  | .fmapiGetDcRegionExtList i, pl => Lists pl 24 40 (leVal (slice pl 8 4)) i.extentCount
  | .fmapiDcListTags _ n, pl => Lists pl 16 84 (leVal (slice pl 8 4)) n
  | .fmapiGetVcsInfo i, pl => 4 ≤ pl.length ∧ (byteAt pl 0).val ≤ i.vcsIdList.length ∧
      VcsBlocks i.vppbListLimit (byteAt pl 0) (pl.drop 4)
  | _, _ => False

/-- The caller has the count and the entries of the reply, in its order. The
blocks of virtual switches are handed over as they came. -/
def Handed : Command α → Bytes → α → Prop
  | .getSupportedLogsSublist _ _, pl, v => v.numSupportedLogEntries = (byteAt pl 0).val ∧
      v.entries = entriesAt pl 8 20 (byteAt pl 0) (supportedLogEntry .little)
  | .fmapiGetLdAllocations _ _, pl, v => v.ldAllocationListLen = byteAt pl 3 ∧
      v.ldAllocationList = entriesAt pl 4 16 (byteAt pl 3) (ldAllocation .little)
  | .fmapiGetMultiheadedInfo _ _, pl, v => v.ldMapLen = byteAt pl 5 ∧ v.ldMap = pl.drop 8
  | .memdevGetDcExtentList _ _, pl, v => v.numExtentsReturned = leVal (slice pl 0 4) ∧
      v.extents = entriesAt pl 16 40 (leVal (slice pl 0 4)) (dcExtent .little)
  | .fmapiGetDcRegionExtList _, pl, v => v.extentsReturned = leVal (slice pl 8 4) ∧
      v.extents = entriesAt pl 24 40 (leVal (slice pl 8 4)) (dcExtent .little)
  | .fmapiDcListTags _ _, pl, v => v.numTagsReturned = leVal (slice pl 8 4) ∧
      v.tagsList = entriesAt pl 16 84 (leVal (slice pl 8 4)) tagInfo
  | .fmapiGetVcsInfo i, pl, v => v = fillBuf (vcsInfoSize i) pl
  | _, _, _ => False

/- The sub-list has room for 16 entries and must have them all, the allocation
list must be as long as its limit, the map needs one entry, the blocks need one
vPPB or a second block. The host words of the last two are the caller's counts
on a little-endian host. -/
def Admits (o : ByteOrder) : Command α → Bytes → Prop
  | .getSupportedLogsSublist _ _, pl => (byteAt pl 0).val = maxSupportedLogs
  | .fmapiGetLdAllocations _ n, pl => byteAt pl 3 = n
  | .fmapiGetMultiheadedInfo _ _, pl => 1 ≤ (byteAt pl 5).val
  | .memdevGetDcExtentList _ _, pl => leVal (slice pl 0 4) ≤ 8
  | .fmapiGetDcRegionExtList i, pl => leVal (slice pl 8 4) ≤ leWord o i.extentCount
  | .fmapiDcListTags _ n, pl => leVal (slice pl 8 4) ≤ leWord o n ∧ leWord o n < 2 ^ 31
  | .fmapiGetVcsInfo _, pl => 8 ≤ (pl.drop 4).length
  | _, _ => True

def HandsOver (c : Command α) (o : ByteOrder) (env : Env) (ep : Endpoint) (ti : Option TunnelInfo) (pl : Bytes) :
    Prop :=
  ∃ r v, c.spec.run o env ep ti = some r ∧ r.rc = 0 ∧ r.value = some v ∧ Handed c pl v

theorem vcsBlocks_length (limit n : ℕ) (b : Bytes) (h : VcsBlocks limit n b) : b.length ≤ n * (4 + limit * 4) := by
  induction n generalizing b with
  | zero =>
    have hb : b = [] := h
    rw [hb, List.length_nil]
    exact Nat.zero_le _
  | succ n ih =>
    obtain ⟨hl, hk, hn⟩ := h
    have hi := ih _ hn
    rw [List.length_drop] at hi
    rw [Nat.succ_mul]
    omega

/-! ### What the decoders make of such a reply -/

theorem supportedLogEntry_order (o : ByteOrder) : supportedLogEntry o = supportedLogEntry .little := by
  cases o with
  | little => rfl
  | big => exact supportedLogEntry_big

theorem ldAllocation_order (o : ByteOrder) : ldAllocation o = ldAllocation .little := by
  cases o with
  | little => rfl
  | big => exact ldAllocation_big

theorem dcExtent_order (o : ByteOrder) : dcExtent o = dcExtent .little := by
  cases o with
  | little => rfl
  | big => exact dcExtent_big

section Decoded

variable (o : ByteOrder) (pl r : Bytes) (sz : ℕ)

theorem decode_sublist (n s : Byte) (hr : payload r = fillBuf sz pl) (hsz : pl.length ≤ sz)
    (h : Carries (.getSupportedLogsSublist n s) pl) (hk : (byteAt pl 0).val ≤ maxSupportedLogs) :
    ∃ v, (getSupportedLogsSublist n s).decode o r = some v ∧ Handed (.getSupportedLogsSublist n s) pl v := by
  have hlen : pl.length = 8 + (byteAt pl 0).val * 20 := h.1
  have hrec := records_fillBuf sz pl 8 20 (byteAt pl 0).val (supportedLogEntry .little) (by omega) (by omega) hsz
  simp only [getSupportedLogsSublist, request, hr, byteAt_fillBuf sz pl 0 (by omega), Nat.min_eq_left hk,
    supportedLogEntry_order o, hrec]
  exact ⟨_, rfl, rfl, rfl⟩

theorem decode_ldAllocations (s n : Byte) (hr : payload r = fillBuf sz pl) (hsz : pl.length ≤ sz)
    (h : Carries (.fmapiGetLdAllocations s n) pl) :
    ∃ v, (fmapiGetLdAllocations s n).decode o r = some v ∧ Handed (.fmapiGetLdAllocations s n) pl v := by
  have hlen : pl.length = 4 + (byteAt pl 3).val * 16 := h.1
  have hrec := records_fillBuf sz pl 4 16 (byteAt pl 3).val (ldAllocation .little) (by omega) (by omega) hsz
  simp only [fmapiGetLdAllocations, request, hr, byteAt_fillBuf sz pl 3 (by omega), ldAllocation_order o, hrec]
  exact ⟨_, rfl, rfl, rfl⟩

theorem decode_multiheadedInfo (s n : Byte) (hr : payload r = fillBuf sz pl) (hsz : pl.length ≤ sz)
    (h : Carries (.fmapiGetMultiheadedInfo s n) pl) :
    ∃ v, (fmapiGetMultiheadedInfo s n).decode o r = some v ∧ Handed (.fmapiGetMultiheadedInfo s n) pl v := by
  have hlen : pl.length = 8 + (byteAt pl 5).val * 1 := h.1
  have hcopy := copyOut_fillBuf sz pl 8 (byteAt pl 5).val (by omega) hsz
  have hmap : slice pl 8 (byteAt pl 5).val = pl.drop 8 := by
    rw [← slice_self (pl.drop 8) (byteAt pl 5).val (by rw [List.length_drop]; omega), slice_drop]
  simp only [fmapiGetMultiheadedInfo, request, hr, byteAt_fillBuf sz pl 5 (by omega), hcopy]
  exact ⟨_, rfl, rfl, hmap⟩

theorem decode_dcExtentList (n s : U 32) (hr : payload r = fillBuf sz pl) (hsz : pl.length ≤ sz)
    (hl : pl.length < 2 ^ 20) (h : Carries (.memdevGetDcExtentList n s) pl) :
    ∃ v, (memdevGetDcExtentList n s).decode o r = some v ∧ Handed (.memdevGetDcExtentList n s) pl v := by
  have hlen : pl.length = 16 + leVal (slice pl 0 4) * 40 := h.1
  have hrec := records_fillBuf sz pl 16 40 (leVal (slice pl 0 4)) (dcExtent .little) (by omega) (by omega) hsz
  have hcnt := getLe_fillBuf o 4 sz pl 0
  rw [getLe_eq o 4 pl] at hcnt
  simp only [memdevGetDcExtentList, request, hr, hcnt, dcExtent_order o, hrec]
  exact ⟨_, rfl, rfl, rfl⟩

theorem decode_dcRegionExtList (i : GetDcRegionExtListReq) (hr : payload r = fillBuf sz pl) (hsz : pl.length ≤ sz)
    (hl : pl.length < 2 ^ 20) (h : Carries (.fmapiGetDcRegionExtList i) pl) :
    ∃ v, (fmapiGetDcRegionExtList i).decode o r = some v ∧ Handed (.fmapiGetDcRegionExtList i) pl v := by
  have hlen : pl.length = 24 + leVal (slice pl 8 4) * 40 := h.1
  have hrec := records_fillBuf sz pl 24 40 (leVal (slice pl 8 4)) (dcExtent .little) (by omega) (by omega) hsz
  have hcnt := getLe_fillBuf o 4 sz pl 8
  rw [getLe_eq o 4 pl] at hcnt
  simp only [fmapiGetDcRegionExtList, hr, hcnt, dcExtent_order o, hrec]
  exact ⟨_, rfl, rfl, rfl⟩

theorem decode_dcListTags (s n : U 32) (hr : payload r = fillBuf sz pl) (hsz : pl.length ≤ sz)
    (hl : pl.length < 2 ^ 20) (h : Carries (.fmapiDcListTags s n) pl) :
    ∃ v, (fmapiDcListTags s n).decode o r = some v ∧ Handed (.fmapiDcListTags s n) pl v := by
  have hlen : pl.length = 16 + leVal (slice pl 8 4) * 84 := h.1
  have hrec := records_fillBuf sz pl 16 84 (leVal (slice pl 8 4)) tagInfo (by omega) (by omega) hsz
  have hcnt := getLe_fillBuf o 4 sz pl 8
  rw [getLe_eq o 4 pl] at hcnt
  simp only [fmapiDcListTags, hr, hcnt, hrec]
  exact ⟨_, rfl, rfl, rfl⟩

theorem decode_vcsInfo (i : GetVcsInfoReq) (hr : payload r = fillBuf (vcsInfoSize i) pl)
    (hsz : pl.length ≤ vcsInfoSize i) :
    ∃ v, (fmapiGetVcsInfo i).decode o r = some v ∧ Handed (.fmapiGetVcsInfo i) pl v := by
  have hfill := fillBuf_length (vcsInfoSize i) pl hsz
  have hcopy : copyOut (fillBuf (vcsInfoSize i) pl) 0 (vcsInfoSize i) = some (fillBuf (vcsInfoSize i) pl) := by
    unfold copyOut
    rw [if_pos (by omega), slice_self _ _ hfill]
  simp only [fmapiGetVcsInfo, request, hr, hcopy]
  exact ⟨_, rfl, rfl⟩

end Decoded

theorem fillBuf_payload (n : ℕ) (r : Bytes) (h : 12 ≤ r.length) :
    payload (fillBuf n r) = fillBuf (n - 12) (payload r) := fillBuf_drop n 12 r h

theorem leWord_lt (o : ByteOrder) (v : U 32) : leWord o v < 2 ^ 32 := by
  cases o with
  | little => exact Nat.mod_lt _ (by decide)
  | big => exact swapWord_lt v

/-! ### Acceptance -/

theorem payload_length_of_layer (o : ByteOrder) (req r : Bytes) (h : CciLayer o req r) :
    r.length = 12 + (payload r).length ∧ (payload r).length < 2 ^ 20 := by
  have hl := h.header
  have hmax := layer_length o req r h
  unfold payload
  rw [List.length_drop]
  omega

/- With `min` and `sz` the two sizes of the response payload. -/
theorem handsOver_iff (c : Command α) (o : ByteOrder) (env : Env) (ep : Endpoint) (m : MctpTransport)
    (ti : Option TunnelInfo) (pl r d : Bytes) (min sz : ℕ) (h : c.spec.Replied o env ep m ti pl r d)
    (had : c.spec.admitted = true) (hsup : c.spec.supported = true) (hlen : c.spec.plSz ≤ 2 ^ 20)
    (hmin : c.spec.rspMin o = 12 + min) (hsz : c.spec.rspSz o = 12 + sz) (hlt : 44 + sz < 2 ^ 63)
    (hdec : ∀ rsp, payload rsp = fillBuf sz (payload r) → (payload r).length ≤ sz →
      ∃ v, c.spec.decode o rsp = some v ∧ Handed c (payload r) v) :
    HandsOver c o env ep ti (payload r) ↔ min ≤ (payload r).length ∧ (payload r).length ≤ sz := by
  obtain ⟨s, hrun, hrc, hrsp⟩ := c.spec.run_replied o env ep m ti pl r d h had hsup
    (by rw [c.spec.framed o pl h.payload]; exact hlen) (by omega)
  obtain ⟨hl, -⟩ := payload_length_of_layer o _ r h.layer
  have hiff : s.rc = 0 ↔ min ≤ (payload r).length ∧ (payload r).length ≤ sz := by
    rw [hrc, hmin, hsz, hl]
    omega
  rw [← hiff]
  constructor
  · rintro ⟨reply, v, hreply, h0, -⟩
    rw [hrun] at hreply
    rw [← (c.spec.finish_eq o s reply hreply).1]
    exact h0
  · intro h0
    have hbuf : payload s.rsp = fillBuf sz (payload r) := by
      rw [hrsp h0, fillBuf_payload _ r h.layer.header, hsz, Nat.add_sub_cancel_left]
    obtain ⟨v, hv, hhanded⟩ := hdec s.rsp hbuf (hiff.mp h0).2
    refine ⟨⟨s.rc, some v, s.sent, s.st⟩, v, ?_, h0, rfl, hhanded⟩
    rw [hrun]
    unfold CciCommand.finish
    rw [if_neg (fun hc => hc.2 h0), hv]
    rfl

theorem dcListTags_size (w : ℕ) (h : w < 2 ^ 31) : sizeT (12 + 16 + int32 w * 84) = 28 + w * 84 := by
  have hcast : (12 + 16 + (w : ℤ) * 84) = ((28 + w * 84 : ℕ) : ℤ) := by
    push_cast
    omega
  rw [int32_natCast w h, hcast, sizeT_natCast _ (by omega)]

/- From 2^31 tags on the size is that of a negative `int`. -/
theorem dcListTags_size_wraps (w : ℕ) (hl : 2 ^ 31 ≤ w) (hu : w < 2 ^ 32) :
    2 ^ 63 ≤ sizeT (12 + 16 + int32 w * 84) := by
  have hwrap : (12 + 16 + ((w : ℤ) - 2 ^ 32) * 84) % 2 ^ 64 = 12 + 16 + ((w : ℤ) - 2 ^ 32) * 84 + 2 ^ 64 := by
    rw [← Int.add_emod_right, Int.emod_eq_of_lt (by omega) (by omega)]
  rw [int32_natCast_neg w hl hu, sizeT, hwrap]
  omega

/-- A reply that carries whole entries with the right counts, at most as many as
were asked for, reaches the caller if it is among those `Admits` names. -/
theorem list_reply_handed_iff (c : Command α) (o : ByteOrder) (env : Env) (ep : Endpoint) (m : MctpTransport)
    (ti : Option TunnelInfo) (pl r d : Bytes) (h : c.spec.Replied o env ep m ti pl r d)
    (hc : Carries c (payload r)) : HandsOver c o env ep ti (payload r) ↔ Admits o c (payload r) := by
  obtain ⟨hlen, hmax⟩ := payload_length_of_layer o _ r h.layer
  cases c
  case getSupportedLogsSublist n s =>
    have hcnt : (payload r).length = 8 + (byteAt (payload r) 0).val * 20 := hc.1
    rw [handsOver_iff _ o env ep m ti pl r d 328 328 h rfl rfl (show 2 ≤ 2 ^ 20 by decide) rfl rfl (by decide)
      fun rsp hp hfit => decode_sublist o _ rsp 328 n s hp hfit hc (show _ ≤ 16 by omega)]
    show _ ↔ (byteAt (payload r) 0).val = 16
    omega
  case fmapiGetLdAllocations s n =>
    have hcnt : (payload r).length = 4 + (byteAt (payload r) 3).val * 16 := hc.1
    rw [handsOver_iff _ o env ep m ti pl r d (4 + n * 16) (4 + n * 16) h rfl rfl (show 2 ≤ 2 ^ 20 by decide) rfl rfl
      (by omega) fun rsp hp hfit => decode_ldAllocations o _ rsp _ s n hp hfit hc]
    show _ ↔ byteAt (payload r) 3 = n
    rw [Fin.ext_iff]
    omega
  case fmapiGetMultiheadedInfo s n =>
    have hcnt : (payload r).length = 8 + (byteAt (payload r) 5).val * 1 := hc.1
    have hle : (byteAt (payload r) 5).val ≤ n.val := hc.2
    rw [handsOver_iff _ o env ep m ti pl r d 9 (8 + n) h rfl rfl (show 2 ≤ 2 ^ 20 by decide) rfl rfl
      (by omega) fun rsp hp hfit => decode_multiheadedInfo o _ rsp _ s n hp hfit hc]
    show _ ↔ 1 ≤ (byteAt (payload r) 5).val
    omega
  case memdevGetDcExtentList n s =>
    have hcnt : (payload r).length = 16 + leVal (slice (payload r) 0 4) * 40 := hc.1
    rw [handsOver_iff _ o env ep m ti pl r d 16 336 h rfl rfl (show 8 ≤ 2 ^ 20 by decide) rfl rfl
      (by decide) fun rsp hp hfit => decode_dcExtentList o _ rsp _ n s hp hfit hmax hc]
    show _ ↔ leVal (slice (payload r) 0 4) ≤ 8
    omega
  case fmapiGetDcRegionExtList i =>
    have hcnt : (payload r).length = 24 + leVal (slice (payload r) 8 4) * 40 := hc.1
    have hw := leWord_lt o i.extentCount
    rw [handsOver_iff _ o env ep m ti pl r d 24 (24 + leWord o i.extentCount * 40) h rfl rfl
      (show 12 ≤ 2 ^ 20 by decide) rfl (Nat.add_assoc 12 24 _) (by omega)
      fun rsp hp hfit => decode_dcRegionExtList o _ rsp _ i hp hfit hmax hc]
    show _ ↔ leVal (slice (payload r) 8 4) ≤ leWord o i.extentCount
    omega
  case fmapiDcListTags s n =>
    have hcnt : (payload r).length = 16 + leVal (slice (payload r) 8 4) * 84 := hc.1
    have hw := leWord_lt o n
    show _ ↔ leVal (slice (payload r) 8 4) ≤ leWord o n ∧ leWord o n < 2 ^ 31
    by_cases hn : leWord o n < 2 ^ 31
    · have hsize : (Command.fmapiDcListTags s n).spec.rspSz o = 12 + (16 + leWord o n * 84) := by
        simp only [Command.spec, fmapiDcListTags]
        rw [dcListTags_size _ hn]
        omega
      rw [handsOver_iff _ o env ep m ti pl r d 16 (16 + leWord o n * 84) h rfl rfl
        (show 8 ≤ 2 ^ 20 by decide) rfl hsize (by omega)
        fun rsp hp hfit => decode_dcListTags o _ rsp _ s n hp hfit hmax hc]
      omega
    · refine iff_of_false ?_ fun hb => hn hb.2
      rintro ⟨reply, v, hreply, h0, -⟩
      have hsize : 2 ^ 63 ≤ (Command.fmapiDcListTags s n).spec.rspSz o := by
        simp only [Command.spec, fmapiDcListTags]
        exact dcListTags_size_wraps _ (not_lt.mp hn) hw
      have hfail := CciCommand.run_unallocated _ o env ep ti pl reply h.payload rfl
        (h.served.alloc_of_ge _ _ hsize) hreply
      omega
  case fmapiGetVcsInfo i =>
    obtain ⟨hhead, hnum, hblocks⟩ := hc
    have hbl := vcsBlocks_length _ _ _ hblocks
    have hnv := i.numVcs
    have hmono := Nat.mul_le_mul_right (4 + i.vppbListLimit.val * 4) hnum
    have hsize : vcsInfoSize i = 4 + i.vcsIdList.length * (4 + i.vppbListLimit.val * 4) := rfl
    have hbound : i.vcsIdList.length * (4 + i.vppbListLimit.val * 4) ≤ 256 * 1024 :=
      Nat.mul_le_mul (by omega) (by omega)
    rw [List.length_drop] at hbl
    rw [handsOver_iff _ o env ep m ti pl r d 12 (vcsInfoSize i) h rfl rfl
      (show 3 + i.vcsIdList.length ≤ 2 ^ 20 by omega) rfl rfl (by omega)
      fun rsp hp hfit => decode_vcsInfo o _ rsp i hp hfit]
    show _ ↔ 8 ≤ ((payload r).drop 4).length
    rw [List.length_drop]
    omega
  all_goals exact False.elim hc

def answered (d : Bytes) : Env := ⟨fun _ n => decide (n < 2 ^ 63), true, 0, .ready, .datagram d, .error⟩

theorem answered_served (d : Bytes) : Served (answered d) d := ⟨fun _ _ => rfl, rfl, rfl, rfl⟩

theorem mctpEndpoint_heard (set : Byte) : ¬Silent mctpEndpoint none set := by
  rintro (⟨-, h⟩ | ⟨t, h, -⟩ | h | h | h)
  · cases h
  · cases h
  · cases h
  · exact absurd h (by decide)
  · cases hs : cmdIsFmapi set with
    | false => exact absurd (hs ▸ h) (by decide)
    | true => exact absurd (hs ▸ h) (by decide)

/- One LD of the two that were asked for. -/
def ldMapOfOne : Bytes := [1, 0x22, 0, 0x00, 0x55, 9, 0, 0, 0, 0, 0, 0] ++ [2, 1, 0, 0, 0, 1, 0, 0] ++ [7]

theorem ldMapOfOne_handed :
    HandsOver (.fmapiGetMultiheadedInfo 0 2) .little (answered ldMapOfOne) mctpEndpoint none (payload ldMapOfOne) :=
  (list_reply_handed_iff (.fmapiGetMultiheadedInfo 0 2) .little (answered ldMapOfOne) mctpEndpoint mctpPort none [0, 2]
    ldMapOfOne ldMapOfOne
    ⟨rfl, mctpEndpoint_heard _, answered_served _, rfl, rfl, by decide⟩ ⟨by decide, by decide⟩).mpr
    (show 1 ≤ (byteAt (payload ldMapOfOne) 5).val by decide)

/- The device has one log, and the caller asks for at most one. -/
def oneSupportedLog : Bytes :=
  [1, 0x22, 0, 0x5, 0x04, 28, 0, 0, 0, 0, 0, 0] ++ [1, 0, 1, 0, 0, 0, 0, 0] ++ zeros 16 ++ [4, 0, 0, 0]

theorem oneSupportedLog_rejected :
    (Command.getSupportedLogsSublist 1 0).spec.Replied .little (answered oneSupportedLog) mctpEndpoint mctpPort none
        [1, 0] oneSupportedLog oneSupportedLog ∧
      Carries (.getSupportedLogsSublist 1 0) (payload oneSupportedLog) ∧
      ¬HandsOver (.getSupportedLogsSublist 1 0) .little (answered oneSupportedLog) mctpEndpoint none
        (payload oneSupportedLog) := by
  refine ⟨⟨rfl, mctpEndpoint_heard _, answered_served _, rfl, rfl, by decide⟩, ⟨by decide, by decide⟩, ?_⟩
  rintro ⟨r, v, hr, h0, -⟩
  have hrc : ((getSupportedLogsSublist 1 0).run .little (answered oneSupportedLog) mctpEndpoint none).map Reply.rc =
      some (-1) := by decide +kernel
  have hr : (getSupportedLogsSublist 1 0).run .little (answered oneSupportedLog) mctpEndpoint none = some r := hr
  rw [hr, Option.map_some, h0] at hrc
  cases hrc

end LibCxlmi.Contract
