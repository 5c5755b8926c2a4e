import LibCxlmi.Contract.RequestEncoding
import LibCxlmi.Transport.Silent

/-!
# Requests of a computed size (commands.c:2179-2241, 2710-2756, 3504-3583)

Add DC Response and Release DC compute the size of the request in 64 bits,
Initiate DC Add and Release keep the size of the list in an `int`; all four fill
it in a loop whose index is an `int`. Nothing bounds the count, and `calloc` is the
only thing that can refuse it. Send LD CXL.io Memory Request cuts the data to 4 KiB
in the request and in the response, and leaves its length field as it is.
-/

namespace LibCxlmi.Contract
open LibCxlmi.Word LibCxlmi.Cci LibCxlmi.Transport LibCxlmi.Commands

variable {α : Type}

/-! ### Extents -/

/-- `count` extents of `size` bytes behind `head` bytes; `narrow` if the size of the
list is an `int`. -/
structure ExtentList where
  head : ℕ
  size : ℕ
  count : ℕ
  narrow : Bool

def extentList : Command α → Option ExtentList
  | .memdevAddDcResponse i => some ⟨8, 24, i.extents.length, false⟩
  | .memdevReleaseDc i => some ⟨8, 24, i.extents.length, false⟩
  | .fmapiInitiateDcAdd _ _ i => some ⟨32, 40, i.extents.length, true⟩
  | .fmapiInitiateDcRelease _ i => some ⟨32, 40, i.extents.length, true⟩
  | _ => none

def ExtentList.total (x : ExtentList) : ℕ := x.head + x.count * x.size

/-- What `calloc` is asked for. -/
def ExtentList.allocated (x : ExtentList) : ℕ :=
  if x.narrow = true then sizeT (12 + (x.head + int32 ((x.count * x.size : ℕ) : ℤ))) else 12 + x.total

/-- The index of the loop and the size of the list stay in range. -/
def ExtentList.Countable (x : ExtentList) : Prop :=
  x.count < 2 ^ 31 ∧ (x.narrow = true → x.count * x.size < 2 ^ 31)

/-- All of a request with `p` payload bytes, behind `k` tunnels. A mailbox is not given the
outermost CCI header. -/
def CarriedWhole (k p : ℕ) : Tx → Prop
  | .mctp _ _ m => m.length = 12 + 16 * k + p
  | .mailbox _ _ b => b.length = 16 * k + p

/-- The sizes that one transfer of a socket and the 32-bit size of an ioctl can have. -/
def Sendable (ep : Endpoint) (ti : Option TunnelInfo) (p : ℕ) : Prop :=
  match ep.transportData with
  | some (.mock _) => True
  | some (.mctp _) => 12 + 16 * tunnelDepth ti + p ≤ maxRwCount
  | none => 16 * tunnelDepth ti + p < 2 ^ 32

/-- The command fails before it writes, or it fills the request inside of what was
allocated and hands all of it over. -/
def FillsRequest (c : Command α) (x : ExtentList) (o : ByteOrder) (env : Env) (ep : Endpoint)
    (ti : Option TunnelInfo) : Prop :=
  (env.alloc .request x.allocated = false ∧ c.spec.run o env ep ti = some ⟨-1, none, [], ep⟩) ∨
    ∃ pl, c.spec.payload o = some pl ∧ pl.length = x.total ∧ 12 + pl.length ≤ x.allocated ∧
      ∀ tx, outbound o (armCciRequest o ep c.spec.set c.spec.cmd pl).2 ti
        (armCciRequest o ep c.spec.set c.spec.cmd pl).1 = some tx → CarriedWhole (tunnelDepth ti) x.total tx

/-! ### Sizes on the way out -/

theorem mailboxMsg_length (o : ByteOrder) (ti : Option TunnelInfo) (tg cmd set : Byte) (pl : Bytes)
    (hk : knownLevel ti = true) :
    (mailboxMsg o ti (cciHeader o tg cmd set pl.length ++ pl)).2.length = 16 * tunnelDepth ti + pl.length := by
  have hreq := request_length o tg cmd set pl.length pl
  have hpl := congrArg List.length (payload_cciHeader o tg cmd set pl.length pl)
  cases ti with
  | none => simpa only [mailboxMsg, tunnelDepth, Nat.mul_zero, Nat.zero_add] using hpl
  | some t =>
    rcases knownLevel_cases t hk with h0 | h1 | h2
    · simpa only [mailboxMsg, tunnelDepth, h0, if_true, Int.toNat_zero, Nat.mul_zero, Nat.zero_add] using hpl
    · simp only [mailboxMsg, tunnelDepth, mailboxTunnelReq, h1, one_ne_zero, if_false, if_true, Int.toNat_one,
        ioctlTunnelReq_length]
      omega
    · have htwo : (2 : ℤ).toNat = 2 := rfl
      simp only [mailboxMsg, tunnelDepth, mailboxTunnelReq, ioctlTunnel2Req, h2, OfNat.ofNat_ne_zero,
        OfNat.ofNat_ne_one, if_false, ioctlTunnelReq_length, buildTunnelReq_length, htwo]
      omega

theorem carried_mailboxTx (fd : ℤ) (opcode k p : ℕ) (b : Bytes) (h : b.length = 16 * k + p) :
    CarriedWhole k p (mailboxTx fd opcode b) ↔ 16 * k + p < 2 ^ 32 := by
  have hlt := u32_lt b.length
  have hle := u32_le b.length
  rw [mailboxTx, CarriedWhole, List.length_take, Nat.min_eq_left hle]
  constructor
  · intro heq
    omega
  · intro hfits
    rw [u32_of_lt _ (by omega), h]

theorem carried_transferred (sd : ℤ) (addr : SockaddrMctp) (k p : ℕ) (m : Bytes) (h : m.length = 12 + 16 * k + p) :
    CarriedWhole k p (.mctp sd addr (transferred m)) ↔ 12 + 16 * k + p ≤ maxRwCount := by
  rw [CarriedWhole, transferred, List.length_take, ← h]
  exact min_eq_right_iff

theorem outbound_carried (o : ByteOrder) (ep : Endpoint) (ti : Option TunnelInfo) (tg cmd set : Byte) (pl : Bytes)
    (tx : Tx) (h : outbound o ep ti (cciHeader o tg cmd set pl.length ++ pl) = some tx) :
    CarriedWhole (tunnelDepth ti) pl.length tx ↔ Sendable ep ti pl.length := by
  have hreq := request_length o tg cmd set pl.length pl
  obtain ⟨-, hk, ⟨htd, -, rfl⟩ | ⟨m, htd, -, -, rfl⟩⟩ := outbound_cases o ep ti _ tx h
  · simp only [Sendable, htd]
    exact carried_mailboxTx ep.fd _ _ _ _ (mailboxMsg_length o ti tg cmd set pl hk)
  · have hmsg := mctpMsg_length o m ti (cciHeader o tg cmd set pl.length ++ pl) hk
    simp only [Sendable, htd]
    exact carried_transferred _ _ _ _ _ (by omega)

theorem sendable_armed (o : ByteOrder) (ep : Endpoint) (set cmd : Byte) (pl : Bytes) (ti : Option TunnelInfo) (p : ℕ) :
    Sendable (armCciRequest o ep set cmd pl).2 ti p ↔ Sendable ep ti p := by
  rcases armed_cases o ep set cmd pl with harm | ⟨m, hm, harm⟩
  · rw [harm]
  · rw [harm]
    simp only [Sendable, hm]

/-- What is handed over is whole exactly if it is not too long, or if there is nothing. -/
theorem outbound_whole_iff (o : ByteOrder) (ep : Endpoint) (set cmd : Byte) (pl : Bytes) (ti : Option TunnelInfo) :
    (∀ tx, outbound o (armCciRequest o ep set cmd pl).2 ti (armCciRequest o ep set cmd pl).1 = some tx →
      CarriedWhole (tunnelDepth ti) pl.length tx) ↔ Silent ep ti set ∨ Sendable ep ti pl.length := by
  obtain ⟨tg, harm⟩ := armCciRequest_req o ep set cmd pl
  constructor
  · intro hall
    by_cases hs : Silent ep ti set
    · exact .inl hs
    · refine .inr ?_
      by_cases hmock : ∃ k, ep.transportData = some (.mock k)
      · obtain ⟨k, hk⟩ := hmock
        simp only [Sendable, hk]
      · obtain ⟨tx, htx⟩ := outbound_armed o ep set cmd pl ti hs fun k hk => hmock ⟨k, hk⟩
        have hcarried := hall tx htx
        rw [harm] at htx
        exact (sendable_armed o ep set cmd pl ti _).mp ((outbound_carried o _ ti tg cmd set pl tx htx).mp hcarried)
  · rintro (hs | hsend) tx htx
    · rw [silent_outbound_armed o ep set cmd pl ti hs] at htx
      cases htx
    · rw [harm] at htx
      exact (outbound_carried o _ ti tg cmd set pl tx htx).mpr ((sendable_armed o ep set cmd pl ti _).mpr hsend)

/-! ### The loop and the allocation -/

theorem initiateDcSize_cast (i : InitiateDcReq) :
    initiateDcSize i = sizeT ((32 : ℕ) + int32 ((i.extents.length * 40 : ℕ) : ℤ)) := by
  rw [initiateDcSize, Int.natCast_mul]
  rfl

theorem initiateDcSize_iff (i : InitiateDcReq) :
    32 + i.extents.length * 40 = initiateDcSize i ↔ i.extents.length * 40 < 2 ^ 31 := by
  have hcount := i.extCount
  have hbounds := int32_bounds ((i.extents.length * 40 : ℕ) : ℤ)
  have hnat : sizeT ((32 + i.extents.length * 40 : ℕ) : ℤ) = 32 + i.extents.length * 40 :=
    sizeT_natCast _ (by omega)
  rw [← int32_eq_iff, initiateDcSize_cast]
  constructor
  · intro h
    have heq := sizeT_inj _ _ ⟨by omega, by omega⟩ ⟨by omega, by omega⟩ (hnat.trans h)
    omega
  · intro h
    rw [h, ← Int.natCast_add, hnat]

theorem no_payload : ¬∃ pl : Bytes, none = some pl := by
  rintro ⟨pl, h⟩
  cases h

theorem initiateDc_counted (o : ByteOrder) (cmd b2 b3 : Byte) (i : InitiateDcReq) :
    (∃ pl, (initiateDc cmd b2 b3 i).payload o = some pl) ↔
      i.extents.length < 2 ^ 31 ∧ i.extents.length * 40 < 2 ^ 31 := by
  have hlen := flatMap_length i.extents _ 40 (requestedExtent_length o)
  by_cases hindex : i.extents.length < 2 ^ 31
  · simp only [initiateDc, putRecords, if_pos hindex, Option.bind_some, hlen, initiateDcSize_iff]
    by_cases hfits : i.extents.length * 40 < 2 ^ 31
    · rw [if_pos hfits]
      exact iff_of_true ⟨_, rfl⟩ ⟨hindex, hfits⟩
    · rw [if_neg hfits]
      exact iff_of_false no_payload fun h => hfits h.2
  · simp only [initiateDc, putRecords, if_neg hindex, Option.bind_none]
    exact iff_of_false no_payload fun h => hindex h.1

theorem updatedExtentList_counted (o : ByteOrder) (cmd : Byte) (i : UpdatedExtentListReq) :
    (∃ pl, (updatedExtentList cmd i).payload o = some pl) ↔ i.extents.length < 2 ^ 31 := by
  by_cases hindex : i.extents.length < 2 ^ 31
  · exact iff_of_true ⟨_, updatedExtentList_payload o cmd i hindex⟩ hindex
  · simp only [updatedExtentList, putRecords, if_neg hindex, Option.map_none]
    exact iff_of_false no_payload hindex

/-- What the four functions have in common. -/
structure ExtentSpec (c : Command α) (x : ExtentList) (o : ByteOrder) : Prop where
  admitted : c.spec.admitted = true
  heap : c.spec.reqHeap = true
  allocated : (12 + c.spec.plSz) % 2 ^ 64 = x.allocated
  counted : (∃ pl, c.spec.payload o = some pl) ↔ x.Countable
  whole : x.Countable → c.spec.plSz = x.total ∧ x.allocated = 12 + x.total

theorem initiateDc_plSz (cmd b2 b3 : Byte) (i : InitiateDcReq) : (initiateDc cmd b2 b3 i).plSz = initiateDcSize i := by
  dsimp only [initiateDc]

theorem initiateDc_allocated (i : InitiateDcReq) :
    (12 + initiateDcSize i) % 2 ^ 64 = ExtentList.allocated ⟨32, 40, i.extents.length, true⟩ := by
  rw [initiateDcSize_cast, sizeT_add, ExtentList.allocated, if_pos rfl]
  rfl

theorem initiateDc_whole (i : InitiateDcReq) (h : i.extents.length * 40 < 2 ^ 31) :
    initiateDcSize i = 32 + i.extents.length * 40 ∧
      ExtentList.allocated ⟨32, 40, i.extents.length, true⟩ = 12 + (32 + i.extents.length * 40) := by
  have hsize := (initiateDcSize_iff i).mpr h
  refine ⟨hsize.symm, ?_⟩
  rw [← initiateDc_allocated, ← hsize]
  exact Nat.mod_eq_of_lt (by omega)

theorem updatedExtentList_allocated (i : UpdatedExtentListReq) :
    (12 + (8 + i.extents.length * 24)) % 2 ^ 64 = ExtentList.allocated ⟨8, 24, i.extents.length, false⟩ := by
  have hcount := i.updatedExtentListSize
  rw [ExtentList.allocated, if_neg Bool.false_ne_true]
  exact Nat.mod_eq_of_lt (by omega)

theorem initiateDc_spec (o : ByteOrder) (cmd b2 b3 : Byte) (i : InitiateDcReq) (c : Command Unit)
    (hc : c.spec = initiateDc cmd b2 b3 i) : ExtentSpec c ⟨32, 40, i.extents.length, true⟩ o where
  admitted := by rw [hc]; rfl
  heap := by rw [hc]; rfl
  allocated := by rw [hc, initiateDc_plSz, initiateDc_allocated]
  counted := by
    rw [hc, initiateDc_counted]
    exact ⟨fun h => ⟨h.1, fun _ => h.2⟩, fun h => ⟨h.1, h.2 rfl⟩⟩
  whole h := by rw [hc, initiateDc_plSz]; exact initiateDc_whole i (h.2 rfl)

theorem updatedExtentList_spec (o : ByteOrder) (cmd : Byte) (i : UpdatedExtentListReq) (c : Command Unit)
    (hc : c.spec = updatedExtentList cmd i) : ExtentSpec c ⟨8, 24, i.extents.length, false⟩ o where
  admitted := by rw [hc]; rfl
  heap := by rw [hc]; rfl
  allocated := by rw [hc]; exact updatedExtentList_allocated i
  counted := by
    rw [hc, updatedExtentList_counted]
    exact ⟨fun h => ⟨h, fun hn => nomatch hn⟩, fun h => h.1⟩
  whole _ := by rw [hc]; exact ⟨rfl, rfl⟩

theorem extentSpec (c : Command α) (x : ExtentList) (hx : extentList c = some x) (o : ByteOrder) :
    ExtentSpec c x o := by
  cases c
  case memdevAddDcResponse i =>
    exact Option.some.inj hx ▸ updatedExtentList_spec o 0x2 i _ rfl
  case memdevReleaseDc i =>
    exact Option.some.inj hx ▸ updatedExtentList_spec o 0x3 i _ rfl
  case fmapiInitiateDcAdd s r i =>
    exact Option.some.inj hx ▸ initiateDc_spec o 0x4 s r i _ rfl
  case fmapiInitiateDcRelease f i =>
    exact Option.some.inj hx ▸ initiateDc_spec o 0x5 f 0 i _ rfl
  all_goals cases hx

/-- A request with extents is filled inside its allocation and handed over whole exactly if
the allocation is refused, or if the count and the path have room for it. -/
theorem extent_request_iff (c : Command α) (x : ExtentList) (hx : extentList c = some x) (o : ByteOrder) (env : Env)
    (ep : Endpoint) (ti : Option TunnelInfo) : FillsRequest c x o env ep ti ↔
      env.alloc .request x.allocated = false ∨
        x.Countable ∧ (Silent ep ti c.spec.set ∨ Sendable ep ti x.total) := by
  have hspec := extentSpec c x hx o
  constructor
  · rintro (⟨halloc, -⟩ | ⟨pl, hpl, hlen, -, hout⟩)
    · exact .inl halloc
    · refine .inr ⟨hspec.counted.mp ⟨pl, hpl⟩, ?_⟩
      rw [← hlen] at hout ⊢
      exact (outbound_whole_iff o ep _ _ pl ti).mp hout
  · rintro (halloc | ⟨hcount, hpath⟩)
    · refine .inl ⟨halloc, ?_⟩
      rw [CciCommand.run, if_neg (by rw [hspec.admitted]; exact Bool.noConfusion), hspec.allocated,
        if_pos ⟨hspec.heap, halloc⟩]
    · obtain ⟨hsize, halloc⟩ := hspec.whole hcount
      obtain ⟨pl, hpl⟩ := hspec.counted.mpr hcount
      have hlen : pl.length = x.total := (c.spec.framed o pl hpl).trans hsize
      refine .inr ⟨pl, hpl, hlen, by rw [halloc, hlen], ?_⟩
      rw [← hlen] at hpath ⊢
      exact (outbound_whole_iff o ep _ _ pl ti).mpr hpath

/-! ### Counts in and out of range -/

theorem replicate_length_lt {β : Type} (n : ℕ) (e : β) (h : n < 2 ^ 32) : (List.replicate n e).length < 2 ^ 32 :=
  List.length_replicate.trans_lt h

def sameUpdated (n : ℕ) (h : n < 2 ^ 32) : UpdatedExtentListReq :=
  ⟨0, List.replicate n ⟨0, 0⟩, replicate_length_lt n _ h⟩

theorem emptyTag_length : (zeros 0x10).length = 0x10 := zeros_length 0x10

def emptyTag : Vec 0x10 := ⟨zeros 0x10, emptyTag_length⟩

def sameRequested (n : ℕ) (h : n < 2 ^ 32) : InitiateDcReq :=
  ⟨0, 0, emptyTag, List.replicate n ⟨0, 0, emptyTag, 0⟩, replicate_length_lt n _ h⟩

theorem sameUpdated_length (n : ℕ) (h : n < 2 ^ 32) : (sameUpdated n h).extents.length = n := List.length_replicate

theorem sameRequested_length (n : ℕ) (h : n < 2 ^ 32) : (sameRequested n h).extents.length = n :=
  List.length_replicate

theorem oneExtent_filled :
    FillsRequest (.memdevAddDcResponse (sameUpdated 1 (by decide))) ⟨8, 24, 1, false⟩ .little takesAll switchMailbox
      none :=
  (extent_request_iff (.memdevAddDcResponse (sameUpdated 1 (by decide))) ⟨8, 24, 1, false⟩ rfl .little takesAll
    switchMailbox none).mpr (.inr ⟨⟨by decide, fun h => nomatch h⟩, .inr (by decide : 16 * 0 + (8 + 1 * 24) < 2 ^ 32)⟩)

/- 107374183 extents of 40 bytes are 24 bytes more than 2^32; with 2^31 extents the index
of the loop overflows. -/
theorem extents_outside_request :
    ExtentList.allocated ⟨32, 40, 107374183, true⟩ = 68 ∧ ExtentList.total ⟨32, 40, 107374183, true⟩ = 4294967352 ∧
    ¬FillsRequest (.fmapiInitiateDcAdd 0 0 (sameRequested 107374183 (by decide))) ⟨32, 40, 107374183, true⟩ .little
        takesAll switchMailbox none ∧
    ¬FillsRequest (.memdevAddDcResponse (sameUpdated (2 ^ 31) (by decide))) ⟨8, 24, 2 ^ 31, false⟩ .little takesAll
        switchMailbox none := by
  refine ⟨by decide, by decide, ?_, ?_⟩
  · rintro (⟨halloc, -⟩ | ⟨pl, hpl, -⟩)
    · cases halloc
    · have hcount := ((initiateDc_counted .little 0x4 0 0 (sameRequested 107374183 (by decide))).mp ⟨pl, hpl⟩).2
      rw [sameRequested_length] at hcount
      exact absurd hcount (by decide)
  · rintro (⟨halloc, -⟩ | ⟨pl, hpl, -⟩)
    · cases halloc
    · have hcount := (updatedExtentList_counted .little 0x2 (sameUpdated (2 ^ 31) (by decide))).mp ⟨pl, hpl⟩
      rw [sameUpdated_length] at hcount
      exact absurd hcount (by decide)

/-! ### CXL.io memory requests -/

/-- The request that `send_cmd_cci` passes on to a transport; none if the command is
refused before. -/
def handed (c : CciCommand α) (o : ByteOrder) (env : Env) (ep : Endpoint) (ti : Option TunnelInfo) : Option Bytes :=
  if c.admitted = false ∨ (c.reqHeap = true ∧ env.alloc .request ((12 + c.plSz) % 2 ^ 64) = false) then none
  else (c.payload o).bind fun pl =>
    let armed := armCciRequest o ep c.set c.cmd pl
    if c.supported = false ∨ (c.rspHeap = true ∧ env.alloc .response (c.rspSz o) = false) ∨
      refused armed.2 ti armed.1 = true then none
    else some armed.1

theorem handed_none (c : CciCommand α) (o : ByteOrder) (env : Env) (ep : Endpoint) (ti : Option TunnelInfo) (pl : Bytes)
    (hpl : c.payload o = some pl) (hchecked : c.checked = true) (h : handed c o env ep ti = none) :
    ∃ st, c.run o env ep ti = some ⟨-1, none, [], st⟩ := by
  unfold handed at h
  unfold CciCommand.run
  by_cases had : c.admitted = false
  · exact ⟨ep, if_pos had⟩
  · by_cases hreq : c.reqHeap = true ∧ env.alloc .request ((12 + c.plSz) % 2 ^ 64) = false
    · exact ⟨ep, by rw [if_neg had, if_pos hreq]⟩
    · rw [if_neg (not_or.mpr ⟨had, hreq⟩), hpl, Option.bind_some] at h
      rw [if_neg had, if_neg hreq, hpl, Option.bind_some, CciCommand.exchange]
      by_cases hrsp : c.supported = false ∨ (c.rspHeap = true ∧ env.alloc .response (c.rspSz o) = false)
      · exact ⟨_, if_pos hrsp⟩
      · have hrefused :
            refused (armCciRequest o ep c.set c.cmd pl).2 ti (armCciRequest o ep c.set c.cmd pl).1 = true := by
          by_contra hno
          have hopen := not_or.mpr ⟨(not_or.mp hrsp).1, not_or.mpr ⟨(not_or.mp hrsp).2, hno⟩⟩
          rw [if_neg hopen] at h
          cases h
        refine ⟨(armCciRequest o ep c.set c.cmd pl).2, ?_⟩
        rw [if_neg hrsp, sendCmdCci_refused o env _ ti _ _ _ hrefused, Option.bind_some]
        exact c.finish_failed o _ hchecked (by decide : (-1 : ℤ) ≠ 0)

/-- What is transmitted is made from that request. -/
theorem handed_sent (c : CciCommand α) (o : ByteOrder) (env : Env) (ep : Endpoint) (ti : Option TunnelInfo)
    (r : Reply α) (hr : c.run o env ep ti = some r) (tx : Tx) (htx : tx ∈ r.sent) :
    ∃ m st, handed c o env ep ti = some m ∧ outbound o st ti m = some tx := by
  unfold CciCommand.run at hr
  split_ifs at hr with had hreq
  · rw [← Option.some.inj hr] at htx
    cases htx
  · rw [← Option.some.inj hr] at htx
    cases htx
  obtain ⟨pl, hpl, hr⟩ := Option.bind_eq_some_iff.mp hr
  unfold CciCommand.exchange at hr
  simp only at hr
  split_ifs at hr with hrsp
  · rw [← Option.some.inj hr] at htx
    cases htx
  obtain ⟨s, hs, hr⟩ := Option.bind_eq_some_iff.mp hr
  rw [(c.finish_eq o s r hr).2.1] at htx
  have hout := sendCmdCci_sent o env _ ti _ _ _ s hs tx htx
  refine ⟨_, _, ?_, hout⟩
  have hopen : ¬refused (armCciRequest o ep c.set c.cmd pl).2 ti (armCciRequest o ep c.set c.cmd pl).1 = true := by
    intro hrefused
    rw [outbound, if_pos (.inl hrefused)] at hout
    cases hout
  rw [handed, if_neg (not_or.mpr ⟨had, hreq⟩), hpl, Option.bind_some]
  exact if_neg (not_or.mpr ⟨(not_or.mp hrsp).1, not_or.mpr ⟨(not_or.mp hrsp).2, hopen⟩⟩)

/-- The length field, the payload length of the CCI header and the room for the answer all
go with the data that follow the two headers. -/
def CxlioConsistent (rspSz : ℕ) (m : Bytes) : Prop :=
  27 ≤ m.length ∧ leVal (slice m 17 2) = m.length - 27 ∧ plLength m = 15 + (m.length - 27) ∧
    4 + (m.length - 27) ≤ rspSz - 12

def RefusedOrConsistent (i : SendLdCxlioMemRequestReq) (o : ByteOrder) (env : Env) (ep : Endpoint)
    (ti : Option TunnelInfo) : Prop :=
  (handed (fmapiSendLdCxlioMemRequest i) o env ep ti = none ∧
    ∃ st, (fmapiSendLdCxlioMemRequest i).run o env ep ti = some ⟨-1, none, [], st⟩) ∨
  ∃ m, handed (fmapiSendLdCxlioMemRequest i) o env ep ti = some m ∧
    CxlioConsistent ((fmapiSendLdCxlioMemRequest i).rspSz o) m

/-- The memory, or the gate of the FM-API and of the tunnel level, refuses the command. -/
def CxlioRefused (i : SendLdCxlioMemRequestReq) (env : Env) (ep : Endpoint) (ti : Option TunnelInfo) : Prop :=
  env.alloc .request (12 + (15 + min i.transactionLen.val 0x1000)) = false ∨
    env.alloc .response (12 + (4 + min i.transactionLen.val 0x1000)) = false ∨
    ep.hasFmapi = false ∨ ∃ t, ti = some t ∧ 2 < t.level

section Cxlio
variable (i : SendLdCxlioMemRequestReq) (o : ByteOrder) (env : Env) (ep : Endpoint) (ti : Option TunnelInfo)

/-- The payload of the request. -/
def cxlioPayload : Bytes :=
  [i.portId] ++ i.field1 ++ putLe o 2 i.ldId ++ putLe o 2 i.transactionLen ++ putLe o 8 i.transactionAddr ++
    i.transactionData

theorem cxlioPayload_length : (cxlioPayload i o).length = 15 + min i.transactionLen.val 0x1000 :=
  (fmapiSendLdCxlioMemRequest i).framed o (cxlioPayload i o) rfl

theorem refused_cxlio : refused (armCciRequest o ep 0x53 0x2 (cxlioPayload i o)).2 ti
    (armCciRequest o ep 0x53 0x2 (cxlioPayload i o)).1 = true ↔
      ep.hasFmapi = false ∨ ∃ t, ti = some t ∧ 2 < t.level := by
  have hfmapi : (armCciRequest o ep 0x53 0x2 (cxlioPayload i o)).2.hasFmapi = ep.hasFmapi := by
    rcases armed_cases o ep 0x53 0x2 (cxlioPayload i o) with harm | ⟨m, -, harm⟩
    · rw [harm]
    · rw [harm]
  have hset : cmdIsFmapi 0x53 = true := by decide
  rw [refused_iff, commandSet_armed, hfmapi, hset, and_iff_right rfl]

theorem cxlio_requested : (12 + (fmapiSendLdCxlioMemRequest i).plSz) % 2 ^ 64 =
    12 + (15 + min i.transactionLen.val 0x1000) := by
  have hle := Nat.min_le_right i.transactionLen.val 0x1000
  exact Nat.mod_eq_of_lt (by change 12 + (15 + min i.transactionLen.val 0x1000) < 2 ^ 64; omega)

theorem handed_cxlio_none (h : CxlioRefused i env ep ti) :
    handed (fmapiSendLdCxlioMemRequest i) o env ep ti = none := by
  unfold handed
  rw [cxlio_requested]
  rcases h with hreq | hrest
  · exact if_pos (.inr ⟨rfl, hreq⟩)
  · split_ifs
    · rfl
    · refine if_pos (.inr ?_)
      rcases hrest with hrsp | hgate
      · exact .inl ⟨rfl, hrsp⟩
      · exact .inr ((refused_cxlio i o ep ti).mpr hgate)

theorem handed_cxlio (h : ¬CxlioRefused i env ep ti) : ∃ tg, handed (fmapiSendLdCxlioMemRequest i) o env ep ti =
    some (cciHeader o tg 0x2 0x53 (cxlioPayload i o).length ++ cxlioPayload i o) := by
  obtain ⟨hreq, hrest⟩ := not_or.mp h
  obtain ⟨hrsp, hgate⟩ := not_or.mp hrest
  obtain ⟨tg, harm⟩ := armCciRequest_req o ep 0x53 0x2 (cxlioPayload i o)
  refine ⟨tg, ?_⟩
  rw [← harm]
  unfold handed
  rw [cxlio_requested, if_neg (not_or.mpr ⟨Bool.noConfusion, fun hc => hreq hc.2⟩)]
  refine if_neg (not_or.mpr ⟨Bool.noConfusion, not_or.mpr ⟨fun hc => hrsp hc.2, fun hc => hgate ?_⟩⟩)
  exact (refused_cxlio i o ep ti).mp hc

theorem transactionLen_field : leVal (slice (cxlioPayload i o) 5 2) = i.transactionLen.val := by
  have hbefore : ([i.portId] ++ i.field1.val ++ putLe o 2 i.ldId).length = 5 := by
    simp only [List.length_append, vec_length, putLe_length, List.length_singleton]
  have hfront : slice (cxlioPayload i o) 5 2 = putLe o 2 i.transactionLen := by
    unfold cxlioPayload
    rw [slice_append _ _ _ _ (by simp only [List.length_append, hbefore, putLe_length]; decide),
      slice_append _ _ _ _ (by simp only [List.length_append, hbefore, putLe_length]; decide),
      slice_append_right _ _ _ _ (Nat.le_of_eq hbefore), hbefore]
    exact slice_self _ _ (putLe_length o 2 _)
  rw [hfront, putLe_eq]
  exact leVal_leBytes_of_lt 2 _ i.transactionLen.isLt

theorem cxlio_message (tg : Byte) :
    leVal (slice (cciHeader o tg 0x2 0x53 (cxlioPayload i o).length ++ cxlioPayload i o) 17 2) =
        i.transactionLen.val ∧
      (cciHeader o tg 0x2 0x53 (cxlioPayload i o).length ++ cxlioPayload i o).length =
        27 + min i.transactionLen.val 0x1000 := by
  constructor
  · rw [slice_append_right _ _ _ _ (by rw [cciHeader_length]; decide), cciHeader_length]
    exact transactionLen_field i o
  · have hmsg := request_length o tg 0x2 0x53 (cxlioPayload i o).length (cxlioPayload i o)
    have hlen := cxlioPayload_length i o
    omega

theorem consistent_cxlio_iff (tg : Byte) :
    CxlioConsistent ((fmapiSendLdCxlioMemRequest i).rspSz o)
      (cciHeader o tg 0x2 0x53 (cxlioPayload i o).length ++ cxlioPayload i o) ↔ i.transactionLen.val ≤ 0x1000 := by
  have hlen := cxlioPayload_length i o
  obtain ⟨hfield, hmsg⟩ := cxlio_message i o tg
  have hle := Nat.min_le_right i.transactionLen.val 0x1000
  have hpl := plLength_cciHeader o tg 0x2 0x53 (cxlioPayload i o).length (cxlioPayload i o)
  have hrsp : (fmapiSendLdCxlioMemRequest i).rspSz o - 12 = 4 + min i.transactionLen.val 0x1000 :=
    Nat.add_sub_cancel_left 12 _
  unfold CxlioConsistent
  rw [hfield, hpl, hrsp, hmsg, hlen]
  omega

end Cxlio

theorem cxlio_request_iff (i : SendLdCxlioMemRequestReq) (o : ByteOrder) (env : Env) (ep : Endpoint)
    (ti : Option TunnelInfo) :
    RefusedOrConsistent i o env ep ti ↔ CxlioRefused i env ep ti ∨ i.transactionLen.val ≤ 0x1000 := by
  constructor
  · rintro (⟨hnone, -⟩ | ⟨m, hm, hconsistent⟩)
    · left
      by_contra hopen
      obtain ⟨tg, hsome⟩ := handed_cxlio i o env ep ti hopen
      rw [hnone] at hsome
      cases hsome
    · by_cases hrefused : CxlioRefused i env ep ti
      · exact .inl hrefused
      · obtain ⟨tg, hsome⟩ := handed_cxlio i o env ep ti hrefused
        rw [hsome] at hm
        rw [← Option.some.inj hm, consistent_cxlio_iff] at hconsistent
        exact .inr hconsistent
  · intro h
    by_cases hrefused : CxlioRefused i env ep ti
    · have hnone := handed_cxlio_none i o env ep ti hrefused
      exact .inl ⟨hnone, handed_none _ o env ep ti (cxlioPayload i o) rfl rfl hnone⟩
    · obtain ⟨tg, hsome⟩ := handed_cxlio i o env ep ti hrefused
      exact .inr ⟨_, hsome, (consistent_cxlio_iff i o tg).mpr (h.resolve_left hrefused)⟩

/-- 5 KiB, of which 4 KiB are copied. -/
def longRequest : SendLdCxlioMemRequestReq :=
  ⟨0, ⟨zeros 2, zeros_length 2⟩, 0, 0x1400, 0, ⟨zeros 0x1000, zeros_length 0x1000⟩⟩

theorem longRequest_inconsistent : ∃ m, handed (fmapiSendLdCxlioMemRequest longRequest) .little takesAll switchMailbox
    none = some m ∧ leVal (slice m 17 2) = 0x1400 ∧ m.length = 27 + 0x1000 := by
  have hopen : ¬CxlioRefused longRequest takesAll switchMailbox none := by
    rintro (hreq | hrsp | hfmapi | ⟨t, ht, -⟩)
    · cases hreq
    · cases hrsp
    · cases hfmapi
    · cases ht
  obtain ⟨tg, hm⟩ := handed_cxlio longRequest .little takesAll switchMailbox none hopen
  exact ⟨_, hm, cxlio_message longRequest .little tg⟩

end LibCxlmi.Contract
