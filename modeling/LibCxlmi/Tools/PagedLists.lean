import LibCxlmi.Dialogue.Handler
import LibCxlmi.Tools.EventListing
import LibCxlmi.Tools.MediaLists
import LibCxlmi.Tools.Sent

/-!
# Lists in pages (cmd_poison.c:232-295, cmd_scan_media.c:240-296, cmd_sdb_tunnel.c:2682-2841, 3165-3302)

A device hands out its poison list and the results of a media scan page by page,
with MORE set on all pages but the last one. It remembers how far it has come, and
begins anew when it is asked to. get-poison-list and get-scan-media-results, over
the mailbox or through the sideband tunnel, print a page and ask for the next one,
and give up with -1 after 64 pages. Whoever calls them again is given the rest: a
row of calls, over either path, prints every page once.
-/

namespace LibCxlmi.Tools
open LibCxlmi.Word LibCxlmi.Cci LibCxlmi.Transport LibCxlmi.Commands LibCxlmi.Dialogue

variable {α : Type}

/-! ### The commands -/

/- As in `getEventRecordsRound`: the structure is filled in exactly when 0 is returned. -/
def pageReply (o : ByteOrder) (ep : Endpoint) (k : MediaList α) (c : CciCommand α) (iter : ℕ) (x : IoctlResult) :
    PageTool α (ℕ ⊕ End) :=
  match c.run o (mailboxEnv x) ep none with
  | none => return .inr .undefined
  | some r =>
      match r.value with
      | none => return .inr (.returned r.rc)
      | some rsp => pageShown k iter rsp

/-- The payload that the library sends. -/
def MediaList.sends (k : MediaList α) (o : ByteOrder) (phyAddr phyAddrLen : U 64) : Bytes :=
  ((k.library phyAddr phyAddrLen).payload o).getD []

def pageRound (o : ByteOrder) (ep : Endpoint) (k : MediaList α) (request : ℕ → U 64 × U 64) (iter : ℕ) :
    PageTool α (ℕ ⊕ End) :=
  let c := k.library (request iter).1 (request iter).2
  ask (PageCall.command c.set c.cmd (k.sends o (request iter).1 (request iter).2)) >>= pageReply o ep k c iter

def pageListing (o : ByteOrder) (ep : Endpoint) (k : MediaList α) (request : ℕ → U 64 × U 64) : PageTool α End := do
  let rsp ← pageAlloc mediaRspPayloadSz
  if rsp = true then pageLoop poisonMaxIterations (pageRound o ep k request) else return .returned (-1)

/- The same arithmetic as in `poisonListPayload`. -/
def poisonListRequest (req : U 64 × U 64 × Bool) (iter : ℕ) : U 64 × U 64 :=
  (toU64 (req.1.val / 2 * 2 + if iter = 0 ∧ req.2.2 = true then 1 else 0), req.2.1)

def Pages.cmdGetPoisonList (o : ByteOrder) (ep : Endpoint) (args : List String) : PageTool PoisonList End :=
  match parseGetPoisonListReq args with
  | none => return .returned (-1)
  | some req => pageListing o ep .poisonList (poisonListRequest req)

def Pages.cmdGetScanMediaResults (o : ByteOrder) (ep : Endpoint) (args : List String) :
    PageTool ScanMediaResults End :=
  if args ≠ [] then return .returned (-1) else pageListing o ep .scanMediaResults fun _ => (0, 0)

inductive Lister where
  | mailbox
  | sdbTunnel
  deriving DecidableEq, Repr

def MediaList.lister (o : ByteOrder) (ep : Endpoint) : MediaList α → Lister → List String → PageTool α End
  | .poisonList, .mailbox => Pages.cmdGetPoisonList o ep
  | .poisonList, .sdbTunnel => sdbTunnelGetPoisonList o
  | .scanMediaResults, .mailbox => Pages.cmdGetScanMediaResults o ep
  | .scanMediaResults, .sdbTunnel => sdbTunnelGetScanMediaResults o

/-- Whether accepted arguments ask for the list from its beginning. -/
def MediaList.restart : MediaList α → Lister → List String → Option Bool
  | .poisonList, .mailbox, args => (parseGetPoisonListReq args).map fun req => req.2.2
  | .poisonList, .sdbTunnel, args => (sdbPoisonArgs args).map fun a => a.2.2.2
  | .scanMediaResults, .mailbox, args => if args ≠ [] then none else some false
  | .scanMediaResults, .sdbTunnel, args => (parseOptions sdbPortOption args 0).map fun _ => false

/-! ### The device -/

def MediaList.cmd : MediaList α → Byte
  | .poisonList => 0x0
  | .scanMediaResults => 0x5

def MediaList.countAt : MediaList α → ℕ
  | .poisonList => 10
  | .scanMediaResults => 18

/- Bit 0 of the address, the lowest byte of which comes first. -/
def MediaList.restarts : MediaList α → Bytes → Bool
  | .poisonList, pl => (byteAt pl 0).val.testBit 0
  | .scanMediaResults, _ => false

/-- What is sent at once: a header, of which only the count is told, and the records. -/
structure Page (k : MediaList α) where
  header : Vec 32
  records : List (Vec 16)
  room : records.length ≤ sdbMediaMaxRecords
  count : slice header.val k.countAt 2 = leBytes 2 records.length

/-- The list that is printed for a page. -/
def Page.shown : {k : MediaList α} → Page k → α
  | .poisonList, p => ⟨byteAt p.header.val 0, leVal (slice p.header.val 2 8), p.records.length,
      p.records.map fun r => mediaErrRecord .little r.val⟩
  | .scanMediaResults, p => ⟨leVal (slice p.header.val 0 8), leVal (slice p.header.val 8 8), byteAt p.header.val 16,
      p.records.length, p.records.map fun r => mediaErrRecord .little r.val⟩

variable {k : MediaList α}

def Page.bytes (p : Page k) : Bytes := p.header.val ++ p.records.flatMap Subtype.val

def Page.more (p : Page k) : Bool := (byteAt p.header.val k.flagsAt).val.testBit 0

/-- The bytes besides are what the tunnel and the device put into the headers of a
tunnelled reply. -/
structure PagedDevice (k : MediaList α) where
  pages : List (Page k)
  more : ∀ i p, pages[i]? = some p → p.more = decide (i + 1 < pages.length)
  outer : Vec 4
  inner : Vec 5
  extStatus : Vec 2

def PagedDevice.sdbReply (d : PagedDevice k) (p : Page k) : Bytes :=
  d.outer.val ++ (d.inner.val ++ leBytes 3 (p.bytes.length % 2 ^ 20) ++ ([0, 0] ++ d.extStatus.val ++ p.bytes))

/-- The page that comes next, and what has been printed. -/
structure Reading (α : Type) where
  next : ℕ
  screen : List α

/-- The page a listing begins with. -/
def Reading.first (s : Reading α) (restart : Bool) : ℕ := if restart = true then 0 else s.next

/-- Behind the last page the list begins anew. -/
def PagedDevice.request (d : PagedDevice k) (s : Reading α) (pl : Bytes) (wrap : Page k → Bytes) :
    IoctlResult × Reading α :=
  let i := if k.restarts pl = true then 0 else s.next
  match d.pages[i]? with
  | none => (.error, s)
  | some p => (.done 0 (wrap p), ⟨if p.more = true then i + 1 else 0, s.screen⟩)

/-- How the ioctl of a vendor command ends: the inner message is looked at. -/
def PagedDevice.tunnelled (d : PagedDevice k) (o : ByteOrder) (s : Reading α) (m : Message) : IoctlResult × Reading α :=
  let msg := (m.encode o).drop 4
  if commandSet msg = 0x43 ∧ command msg = k.cmd then d.request s (payload msg) d.sdbReply else (.error, s)

/-- The device behind the mailbox, and the screen. -/
def PagedDevice.answer (d : PagedDevice k) (o : ByteOrder) (ep : Endpoint) (s : Reading α) :
    (q : PageCall α) → q.Answer × Reading α
  | .calloc _ => (true, s)
  | .command set cmd pl => if set = 0x43 ∧ cmd = k.cmd then d.request s pl Page.bytes else (.error, s)
  | .vendor m n => (libraryReply o ep m n (d.tunnelled o s m).1, (d.tunnelled o s m).2)
  | .print v => ((), ⟨s.next, s.screen ++ [v]⟩)

/-! ### A page -/

section Page
variable (p : Page k)

theorem page_length : p.bytes.length = 32 + p.records.length * 16 := by
  rw [Page.bytes, List.length_append, vec_length, flatMap_length _ _ 16 fun r => r.property]

theorem page_fits : 32 ≤ p.bytes.length ∧ p.bytes.length ≤ mediaRspPayloadSz := by
  have hroom := p.room
  have hsz : mediaRspPayloadSz = 32 + sdbMediaMaxRecords * 16 := rfl
  rw [page_length, hsz]
  omega

theorem page_header (i n : ℕ) (h : i + n ≤ 32) : slice p.bytes i n = slice p.header.val i n :=
  slice_append _ _ _ _ (by rwa [vec_length])

theorem page_records (o : ByteOrder) (pl : Bytes) (hpl : ∀ i n, slice pl i n = slice p.bytes i n) :
    mediaRecords o pl p.records.length = p.records.map fun r => mediaErrRecord .little r.val := by
  have hrecord : ∀ i, slice pl (32 + i * 16) 16 = slice (p.records.flatMap Subtype.val) (i * 16) 16 := fun i => by
    rw [hpl, Page.bytes, slice_append_right _ _ _ _ (by rw [vec_length]; omega), vec_length, Nat.add_sub_cancel_left]
  simp only [mediaRecords, hrecord]
  rw [range_slices, Contract.mediaErrRecord_order]

theorem page_count (o : ByteOrder) (pl : Bytes) (hpl : ∀ i n, slice pl i n = slice p.bytes i n) :
    sdbRecordCount (getLe o 2 pl k.countAt) p.bytes.length = p.records.length := by
  have hroom := p.room
  have hmax : sdbMediaMaxRecords = 126 := rfl
  have hat : k.countAt + 2 ≤ 32 := by
    cases k with
    | poisonList => decide
    | scanMediaResults => decide
  rw [getLe_eq, hpl, page_header p _ _ hat, p.count, leVal_leBytes_of_lt _ _ (by omega), page_length, sdbRecordCount]
  rw [Nat.add_sub_cancel_left, Nat.mul_div_cancel _ (by decide), if_neg (Nat.lt_irrefl _), if_neg (by omega)]

/-- A message with a page behind its header is decoded to the list of that page. -/
theorem hostRsp_page (o : ByteOrder) (m : Bytes) (hlen : m.length = 12 + mediaRspPayloadSz)
    (hpl : plLength m = p.bytes.length) (hslice : ∀ i n, slice (payload m) i n = slice p.bytes i n) :
    k.hostRsp o m = some p.shown := by
  obtain ⟨hlow, hhigh⟩ := page_fits p
  have hrecords := records_in_reply o m hlen (hpl ▸ hlow) (hpl ▸ hhigh)
  have hcount := page_count p o (payload m) hslice
  have hshown := page_records p o (payload m) hslice
  have hbyte : ∀ i, i < 32 → byteAt (payload m) i = byteAt p.header.val i := fun i hi =>
    (List.cons.inj ((hslice i 1).trans (page_header p i 1 hi))).1
  have hword : ∀ i, i + 8 ≤ 32 → getLe o 8 (payload m) i = leVal (slice p.header.val i 8) := fun i hi => by
    rw [getLe_eq, hslice, page_header p i 8 hi]
  rw [← hpl] at hcount
  have htaken := hrecords (getLe o 2 (payload m) k.countAt)
  rw [hcount, hshown] at htaken
  cases k with
  | poisonList =>
    change sdbRecordCount (getLe o 2 (payload m) 10) (plLength m) = p.records.length at hcount
    simp only [MediaList.hostRsp, hcount, htaken, Option.map_some, hbyte 0 (by decide), hword 2 (by decide),
      Page.shown]
  | scanMediaResults =>
    change sdbRecordCount (getLe o 2 (payload m) 18) (plLength m) = p.records.length at hcount
    simp only [MediaList.hostRsp, hcount, htaken, Option.map_some, hbyte 16 (by decide), hword 0 (by decide),
      hword 8 (by decide), Page.shown]

theorem shown_flags : k.flags p.shown = byteAt p.header.val k.flagsAt := by
  cases k with
  | poisonList => rfl
  | scanMediaResults => rfl

end Page

/-! ### A round -/

section Round
variable (o : ByteOrder) (ep : Endpoint) (hep : IsMailbox ep) (d : PagedDevice k)

/-- Every round prints the page that is next, the first one of a restart the first
page, and MORE leads to the next round. -/
def PagedDevice.ReadBy (round : ℕ → PageTool α (ℕ ⊕ End)) (restart : Bool) : Prop :=
  ∀ iter s p, d.pages[if iter = 0 ∧ restart = true then 0 else s.next]? = some p →
    (round iter).serve (d.answer o ep) s =
      (if p.more = true then .inl (iter + 1) else .inr (.returned 0),
        ⟨if p.more = true then (if iter = 0 ∧ restart = true then 0 else s.next) + 1 else 0, s.screen ++ [p.shown]⟩)

theorem request_page (s : Reading α) (pl : Bytes) (wrap : Page k → Bytes) (p : Page k)
    (h : d.pages[if k.restarts pl = true then 0 else s.next]? = some p) : d.request s pl wrap = (.done 0 (wrap p),
      ⟨if p.more = true then (if k.restarts pl = true then 0 else s.next) + 1 else 0, s.screen⟩) := by
  rw [PagedDevice.request, h]

theorem pageShown_serve (p : Page k) (iter : ℕ) (s : Reading α) :
    (pageShown k iter p.shown).serve (d.answer o ep) s =
      (if p.more = true then .inl (iter + 1) else .inr (.returned 0), ⟨s.next, s.screen ++ [p.shown]⟩) := by
  rw [pageShown, serve_ask, shown_flags]
  rfl

theorem library_goesOut (k : MediaList α) (a l : U 64) : GoesOut (k.library a l) o (k.sends o a l) ∧
    (k.library a l).rspSz o = 12 + mediaRspPayloadSz := by
  cases k with
  | poisonList => exact ⟨⟨rfl, rfl, rfl, rfl⟩, rfl⟩
  | scanMediaResults => exact ⟨⟨rfl, rfl, rfl, rfl⟩, rfl⟩

include hep in
theorem library_page (a l : U 64) (p : Page k) : ∃ r,
    (k.library a l).run o (mailboxEnv (.done 0 p.bytes)) ep none = some r ∧ r.value = some p.shown := by
  obtain ⟨hlow, hhigh⟩ := page_fits p
  obtain ⟨hout, hsz⟩ := library_goesOut o k a l
  obtain ⟨s, hleaves, hrun⟩ := goesOut_run o ep hep _ _ p.bytes hout _ hsz (by decide)
  rw [List.take_of_length_le hhigh] at hleaves
  have hlen : s.rsp.length = 12 + mediaRspPayloadSz := by
    have hpay := congrArg List.length hleaves.payload
    rw [payload, List.length_drop, fillBuf_length _ _ hleaves.fits] at hpay
    have hpos : 0 < mediaRspPayloadSz := by decide
    omega
  have hpl : plLength s.rsp = p.bytes.length :=
    hleaves.plLength.trans (Nat.mod_eq_of_lt (hhigh.trans_lt (by decide)))
  obtain ⟨v, hv⟩ := decodes_alike k o a l s.rsp hlen (hpl ▸ hlow) (hpl ▸ hhigh)
  have hhost := hostRsp_page p o s.rsp hlen hpl fun i n => Contract.slice_leaves p.bytes s.rsp _ i n hleaves
  obtain rfl := Option.some.inj (hv.tunnel.symm.trans hhost)
  refine ⟨⟨0, some p.shown, s.sent, s.st⟩, ?_, rfl⟩
  rw [hrun, hv.library, Option.map_some]

theorem library_opcode (k : MediaList α) (a l : U 64) : (k.library a l).set = 0x43 ∧ (k.library a l).cmd = k.cmd := by
  cases k with
  | poisonList => exact ⟨rfl, rfl⟩
  | scanMediaResults => exact ⟨rfl, rfl⟩

include hep in
theorem pageRound_reads (request : ℕ → U 64 × U 64) (restart : Bool)
    (hrequest : ∀ iter, k.restarts (k.sends o (request iter).1 (request iter).2) = decide (iter = 0 ∧ restart = true)) :
    d.ReadBy o ep (pageRound o ep k request) restart := by
  intro iter s p hp
  obtain ⟨r, hrun, hvalue⟩ := library_page o ep hep (request iter).1 (request iter).2 p
  have hanswer : d.answer o ep s (.command (k.library (request iter).1 (request iter).2).set
      (k.library (request iter).1 (request iter).2).cmd (k.sends o (request iter).1 (request iter).2)) =
        (.done 0 p.bytes,
          ⟨if p.more = true then (if iter = 0 ∧ restart = true then 0 else s.next) + 1 else 0, s.screen⟩) := by
    have hreq := request_page d s (k.sends o (request iter).1 (request iter).2) Page.bytes p
    simp only [hrequest, decide_eq_true_eq] at hreq
    exact (if_pos (library_opcode k _ _)).trans (hreq hp)
  rw [pageRound, serve_ask, hanswer, pageReply, hrun]
  dsimp only
  rw [hvalue]
  exact pageShown_serve o ep d p iter _

theorem pagedReply_length (p : Page k) : (d.sdbReply p).length = 16 + p.bytes.length := by
  simp only [PagedDevice.sdbReply, List.length_append, vec_length, leBytes_length, List.length_cons, List.length_nil]
  omega

/- The page lies behind the 4 bytes of the tunnel and the 12 of the inner message. -/
def PagedDevice.innerHeader (p : Page k) : Bytes :=
  d.inner.val ++ leBytes 3 (p.bytes.length % 2 ^ 20) ++ ([0, 0] ++ d.extStatus.val)

theorem innerHeader_length (p : Page k) : (d.innerHeader p).length = 12 := by
  simp only [PagedDevice.innerHeader, List.length_append, vec_length, leBytes_length, List.length_cons, List.length_nil]

theorem sdbReply_drop (p : Page k) : (d.sdbReply p).drop 4 = d.innerHeader p ++ p.bytes := by
  rw [PagedDevice.sdbReply, List.drop_left' (vec_length d.outer), PagedDevice.innerHeader]
  simp only [List.append_assoc]

/-- The inner message as it lies in the buffer, with zeros behind it. -/
def PagedDevice.landed (p : Page k) : Bytes :=
  fillBuf (12 + mediaRspPayloadSz) (fillBuf (12 + mediaRspPayloadSz) (d.innerHeader p ++ p.bytes))

theorem innerRsp_landed (p : Page k) :
    innerRsp ⟨0, fillBuf (16 + mediaRspPayloadSz) (d.sdbReply p)⟩ = d.landed p := by
  have hfits : (d.sdbReply p).length ≤ 16 + mediaRspPayloadSz := by
    rw [pagedReply_length]
    exact Nat.add_le_add_left (page_fits p).2 16
  have hlen := fillBuf_length _ _ hfits
  rw [innerRsp, VendorReply.buffer, if_pos rfl, fillBuf_take _ _ hfits, fillBuf_drop _ _ _ (by rw [hlen]; decide),
    fillBuf_drop _ _ _ (by rw [pagedReply_length]; omega), sdbReply_drop]
  rfl

theorem landed_page (p : Page k) : plLength (d.landed p) = p.bytes.length ∧ returnCode o (d.landed p) = 0 ∧
    ∀ i n, slice (payload (d.landed p)) i n = slice p.bytes i n := by
  have hhead := innerHeader_length d p
  refine ⟨?_, ?_, fun i n => ?_⟩
  · have hsmall : p.bytes.length % 2 ^ 20 = p.bytes.length :=
      Nat.mod_eq_of_lt ((page_fits p).2.trans_lt (by decide))
    rw [PagedDevice.landed, fillBuf, fillBuf, List.append_assoc, List.append_assoc, plLength_append _ _ hhead.ge,
      PagedDevice.innerHeader, plLength_stored _ _ _ (vec_length d.inner), hsmall]
  · rw [returnCode, PagedDevice.landed, slice_fillBuf, slice_fillBuf, slice_append _ _ _ _ (by rw [hhead]; decide),
      PagedDevice.innerHeader, slice_append_right _ _ _ _ (by rw [List.length_append, vec_length, leBytes_length]),
      List.length_append, vec_length, leBytes_length]
    cases o with
    | little => rfl
    | big => rfl
  · rw [payload, slice_drop, PagedDevice.landed, slice_fillBuf, slice_fillBuf,
      slice_append_right _ _ _ _ (by rw [hhead]; omega), hhead, Nat.add_sub_cancel_left]

include hep in
theorem sdbReply_taken (m : Message) (p : Page k) (iter : ℕ) :
    mediaStep o k iter (libraryReply o ep m (16 + mediaRspPayloadSz) (.done 0 (d.sdbReply p))) =
      pageShown k iter p.shown := by
  obtain ⟨hlow, hhigh⟩ := page_fits p
  have hfits : (d.sdbReply p).length ≤ 16 + mediaRspPayloadSz := by
    rw [pagedReply_length]
    omega
  obtain ⟨hpl, hcode, hslice⟩ := landed_page o d p
  have hlanded := innerRsp_landed d p
  have hlen := innerRsp_length ⟨0, fillBuf (16 + mediaRspPayloadSz) (d.sdbReply p)⟩
  rw [hlanded] at hlen
  have hhost := hostRsp_page p o (d.landed p) hlen hpl hslice
  rw [libraryReply_eq o ep hep m _ _ (by decide) (by decide)]
  dsimp only
  rw [if_neg (by decide), List.take_of_length_le hfits, mediaStep, hlanded, hcode]
  dsimp only
  rw [if_neg (by decide), if_neg (by decide), if_neg (by omega), hhost]

theorem message_inner (k : MediaList α) (port : Byte) (pl : Bytes) :
    commandSet (((k.message port pl).encode o).drop 4) = 0x43 ∧
      command (((k.message port pl).encode o).drop 4) = k.cmd ∧
      payload (((k.message port pl).encode o).drop 4) = pl := by
  cases k with
  | poisonList => exact ⟨sdbPacket_commandSet .., sdbPacket_command .., sdbPacket_payload _ _ _ _ _ _ (by decide)⟩
  | scanMediaResults => exact ⟨sdbPacket_commandSet .., sdbPacket_command .., sdbPacket_payload _ _ _ _ _ _ (by decide)⟩

include hep in
theorem mediaRound_reads (port : Byte) (payload : ℕ → Bytes) (restart : Bool)
    (hpayload : ∀ iter, k.restarts (payload iter) = decide (iter = 0 ∧ restart = true)) :
    d.ReadBy o ep (mediaRound o k port payload) restart := by
  intro iter s p hp
  have hanswer : d.tunnelled o s (k.message port (payload iter)) = (.done 0 (d.sdbReply p),
      ⟨if p.more = true then (if iter = 0 ∧ restart = true then 0 else s.next) + 1 else 0, s.screen⟩) := by
    have hreq := request_page d s (payload iter) d.sdbReply p
    simp only [hpayload, decide_eq_true_eq] at hreq
    obtain ⟨hset, hcmd, hpl⟩ := message_inner o k port (payload iter)
    rw [← hreq hp, PagedDevice.tunnelled, hpl]
    exact if_pos ⟨hset, hcmd⟩
  rw [mediaRound, serve_ask]
  dsimp only [PagedDevice.answer]
  rw [hanswer, sdbReply_taken o ep hep]
  exact pageShown_serve o ep d p iter _

end Round

/-! ### A call -/

theorem restarts_address (o : ByteOrder) (v : ℕ) (tail : Bytes) :
    MediaList.poisonList.restarts (putLe o 8 v ++ tail) = decide (v % 2 = 1) := by
  have hbyte : (byteAt (putLe o 8 v ++ tail) 0).val = v % 256 := by
    rw [putLe_eq]
    rfl
  rw [MediaList.restarts, hbyte, Nat.testBit_zero, Nat.mod_mod_of_dvd _ (by decide)]

theorem restarts_payload (o : ByteOrder) (req : U 64 × U 64 × Bool) (iter : ℕ) :
    MediaList.poisonList.restarts (poisonListPayload o req iter) = decide (iter = 0 ∧ req.2.2 = true) := by
  rw [poisonListPayload, restarts_address]
  refine decide_eq_decide.mpr ?_
  split_ifs with h
  · exact iff_of_true (by omega) h
  · exact iff_of_false (by omega) h

/-- Both paths send the same request. -/
theorem sends_payload (o : ByteOrder) (req : U 64 × U 64 × Bool) (iter : ℕ) :
    MediaList.poisonList.sends o (poisonListRequest req iter).1 (poisonListRequest req iter).2 =
      poisonListPayload o req iter := by
  have hlt := req.1.isLt
  have hval : (poisonListRequest req iter).1.val = req.1.val / 2 * 2 + if iter = 0 ∧ req.2.2 = true then 1 else 0 := by
    refine Nat.mod_eq_of_lt ?_
    split_ifs
    · omega
    · omega
  change putLe o 8 (poisonListRequest req iter).1.val ++ putLe o 8 req.2.1.val = _
  rw [hval]
  rfl

section Loop
variable (o : ByteOrder) (ep : Endpoint) (d : PagedDevice k)

/-- After at most `n` pages from the page `i` on. -/
def PagedDevice.readOn (n i : ℕ) (screen : List α) : Reading α :=
  ⟨if (d.pages.drop i).length ≤ n then 0 else i + n, screen ++ ((d.pages.drop i).take n).map Page.shown⟩

/- `i` is the page that comes next, in the first round of a restart as well. -/
theorem rounds_read (round : ℕ → PageTool α (ℕ ⊕ End)) (restart : Bool) (hround : d.ReadBy o ep round restart)
    (n iter i : ℕ) (screen : List α) (hi : i < d.pages.length) (hfirst : iter = 0 → restart = true → i = 0) :
    (iterate round n iter).serve (d.answer o ep) ⟨i, screen⟩ =
      (if (d.pages.drop i).length ≤ n then some (.returned 0) else none, d.readOn n i screen) := by
  induction n generalizing iter i screen with
  | zero =>
    have hmore : ¬(d.pages.drop i).length ≤ 0 := by rw [List.length_drop]; omega
    rw [PagedDevice.readOn, if_neg hmore, if_neg hmore, List.take_zero, List.map_nil, List.append_nil]
    rfl
  | succ n ih =>
    have hwanted : (if iter = 0 ∧ restart = true then 0 else i) = i := by
      split_ifs with h
      · exact (hfirst h.1 h.2).symm
      · rfl
    have hpage : d.pages[i]? = some d.pages[i] := List.getElem?_eq_getElem hi
    have hserved := hround iter ⟨i, screen⟩ d.pages[i] (by rw [hwanted]; exact hpage)
    have hdrop : d.pages.drop i = d.pages[i] :: d.pages.drop (i + 1) := List.drop_eq_getElem_cons hi
    rw [hwanted, d.more i _ hpage] at hserved
    by_cases hlast : i + 1 < d.pages.length
    · rw [decide_eq_true hlast, if_pos rfl, if_pos rfl] at hserved
      rw [serve_iterate_next _ _ _ _ _ _ _ hserved, ih _ _ _ hlast (fun h => absurd h (Nat.succ_ne_zero iter)),
        PagedDevice.readOn, PagedDevice.readOn, hdrop, List.length_cons, List.take_succ_cons, List.map_cons,
        List.append_assoc, List.singleton_append, Nat.add_right_comm i 1 n]
      simp only [Nat.add_le_add_iff_right]
      rfl
    · rw [decide_eq_false hlast, if_neg (by decide), if_neg (by decide)] at hserved
      have hnil : d.pages.drop (i + 1) = [] := List.drop_eq_nil_of_le (Nat.le_of_not_lt hlast)
      rw [serve_iterate_last _ _ _ _ _ _ _ hserved, PagedDevice.readOn, hdrop, hnil, List.take_succ_cons, List.take_nil]
      rw [if_pos (by simp), if_pos (by simp)]
      rfl

/-- How a listing ends that began with the page `i`. -/
def PagedDevice.endOf (n i : ℕ) : End := if (d.pages.drop i).length ≤ n then .returned 0 else .returned (-1)

theorem pageLoop_reads (round : ℕ → PageTool α (ℕ ⊕ End)) (restart : Bool) (hround : d.ReadBy o ep round restart)
    (n : ℕ) (s : Reading α) (hs : s.next < d.pages.length) : (pageLoop (n + 1) round).serve (d.answer o ep) s =
      (d.endOf (n + 1) (s.first restart), d.readOn (n + 1) (s.first restart) s.screen) := by
  have hi : s.first restart < d.pages.length := by
    cases restart with
    | true => exact Nat.zero_lt_of_lt hs
    | false => exact hs
  have hread := rounds_read o ep d round restart hround (n + 1) 0 _ s.screen hi fun _ hr => if_pos hr
  -- the first round does not see where the device was before a restart
  have hsame : (round 0).serve (d.answer o ep) s = (round 0).serve (d.answer o ep) ⟨s.first restart, s.screen⟩ := by
    have hpage : d.pages[s.first restart]? = some d.pages[s.first restart] := List.getElem?_eq_getElem hi
    cases restart with
    | true => exact (hround 0 s _ hpage).trans (hround 0 ⟨0, s.screen⟩ _ hpage).symm
    | false => rfl
  have hloop : (iterate round (n + 1) 0).serve (d.answer o ep) s =
      (iterate round (n + 1) 0).serve (d.answer o ep) ⟨s.first restart, s.screen⟩ := by
    change (round 0 >>= _).serve (d.answer o ep) s = (round 0 >>= _).serve (d.answer o ep) _
    rw [serve_bind, serve_bind, hsame]
  rw [pageLoop, serve_bind, hloop, hread, PagedDevice.endOf]
  by_cases hall : (d.pages.drop (s.first restart)).length ≤ n + 1
  · rw [if_pos hall, if_pos hall]
    rfl
  · rw [if_neg hall, if_neg hall]
    rfl

end Loop

section Row
variable (o : ByteOrder) (ep : Endpoint) (hep : IsMailbox ep) (d : PagedDevice k)

include hep in
theorem pageListing_reads (request : ℕ → U 64 × U 64) (restart : Bool)
    (hrequest : ∀ iter, k.restarts (k.sends o (request iter).1 (request iter).2) = decide (iter = 0 ∧ restart = true))
    (s : Reading α) (hs : s.next < d.pages.length) : (pageListing o ep k request).serve (d.answer o ep) s =
      (d.endOf 64 (s.first restart), d.readOn 64 (s.first restart) s.screen) :=
  pageLoop_reads o ep d _ restart (pageRound_reads o ep hep d request restart hrequest) 63 s hs

include hep in
theorem mediaListing_reads (port : Byte) (payload : ℕ → Bytes) (restart : Bool)
    (hpayload : ∀ iter, k.restarts (payload iter) = decide (iter = 0 ∧ restart = true))
    (s : Reading α) (hs : s.next < d.pages.length) : (mediaListing o k port payload).serve (d.answer o ep) s =
      (d.endOf 64 (s.first restart), d.readOn 64 (s.first restart) s.screen) :=
  pageLoop_reads o ep d _ restart (mediaRound_reads o ep hep d port payload restart hpayload) 63 s hs

include hep in
/-- One call of any of the four commands. -/
theorem lister_reads (c : Lister) (args : List String) (restart : Bool) (hargs : k.restart c args = some restart)
    (s : Reading α) (hs : s.next < d.pages.length) : (k.lister o ep c args).serve (d.answer o ep) s =
      (d.endOf 64 (s.first restart), d.readOn 64 (s.first restart) s.screen) := by
  have hnever : ∀ iter, false = decide (iter = 0 ∧ false = true) := fun iter =>
    (decide_eq_false fun h => Bool.noConfusion h.2).symm
  cases k with
  | poisonList =>
    cases c with
    | mailbox =>
      obtain ⟨req, hreq, rfl⟩ := Option.map_eq_some_iff.mp hargs
      change (Pages.cmdGetPoisonList o ep args).serve (d.answer o ep) s = _
      rw [Pages.cmdGetPoisonList, hreq]
      exact pageListing_reads o ep hep d _ _ (fun iter => by rw [sends_payload, restarts_payload]) s hs
    | sdbTunnel =>
      obtain ⟨a, ha, rfl⟩ := Option.map_eq_some_iff.mp hargs
      change (sdbTunnelGetPoisonList o args).serve (d.answer o ep) s = _
      rw [sdbTunnelGetPoisonList, ha]
      exact mediaListing_reads o ep hep d a.1 _ _ (restarts_payload o a.2) s hs
  | scanMediaResults =>
    cases c with
    | mailbox =>
      by_cases hnone : args = []
      · subst hnone
        obtain rfl := Option.some.inj hargs
        exact pageListing_reads o ep hep d _ false hnever s hs
      · rw [MediaList.restart, if_pos hnone] at hargs
        cases hargs
    | sdbTunnel =>
      obtain ⟨port, hport, rfl⟩ := Option.map_eq_some_iff.mp hargs
      change (sdbTunnelGetScanMediaResults o args).serve (d.answer o ep) s = _
      rw [sdbTunnelGetScanMediaResults, hport]
      exact mediaListing_reads o ep hep d port _ false hnever s hs

/-- Calls one after the other, and how they end. -/
def MediaList.listers (k : MediaList α) : List (Lister × List String) → PageTool α (List End)
  | [] => return []
  | c :: cs => do
      let e ← k.lister o ep c.1 c.2
      let es ← k.listers cs
      return e :: es

theorem listers_cons (c : Lister × List String) (cs : List (Lister × List String)) (s s' t : Reading α) (e : End)
    (es : List End) (hc : (k.lister o ep c.1 c.2).serve (d.answer o ep) s = (e, s'))
    (hcs : (k.listers o ep cs).serve (d.answer o ep) s' = (es, t)) :
    (k.listers o ep (c :: cs)).serve (d.answer o ep) s = (e :: es, t) := by
  rw [MediaList.listers, serve_bind, hc, serve_bind, hcs]
  rfl

end Row

/-- What remains of the list is printed page by page in as many calls as it takes, each
page once, over whichever path each call goes; all of them but the last end with -1. -/
theorem pages_listed_once (k : MediaList α) (o : ByteOrder) (ep : Endpoint) (hep : IsMailbox ep) (d : PagedDevice k)
    (first : Lister × List String) (restart : Bool) (hfirst : k.restart first.1 first.2 = some restart)
    (others : List (Lister × List String)) (hothers : ∀ c ∈ others, k.restart c.1 c.2 = some false)
    (s : Reading α) (hs : s.next < d.pages.length)
    (hlow : others.length * 64 < (d.pages.drop (s.first restart)).length)
    (hhigh : (d.pages.drop (s.first restart)).length ≤ (others.length + 1) * 64) :
    (k.listers o ep (first :: others)).serve (d.answer o ep) s =
      (List.replicate others.length (.returned (-1)) ++ [.returned 0],
        ⟨0, s.screen ++ (d.pages.drop (s.first restart)).map Page.shown⟩) := by
  induction others generalizing first restart s with
  | nil =>
    have hcall := lister_reads o ep hep d first.1 first.2 restart hfirst s hs
    rw [List.length_nil, Nat.zero_add, Nat.one_mul] at hhigh
    rw [PagedDevice.endOf, PagedDevice.readOn, if_pos hhigh, if_pos hhigh, List.take_of_length_le hhigh] at hcall
    exact listers_cons o ep d _ _ _ _ _ _ _ hcall rfl
  | cons c others ih =>
    have hcall := lister_reads o ep hep d first.1 first.2 restart hfirst s hs
    obtain ⟨hc, hothers⟩ := List.forall_mem_cons.mp hothers
    rw [List.length_cons] at hlow hhigh
    have hlong : ¬(d.pages.drop (s.first restart)).length ≤ 64 := by omega
    rw [PagedDevice.endOf, PagedDevice.readOn, if_neg hlong, if_neg hlong] at hcall
    have hdrop : d.pages.drop (s.first restart + 64) = (d.pages.drop (s.first restart)).drop 64 := List.drop_drop.symm
    rw [List.length_drop] at hlow hhigh
    have hrest := ih c false hc hothers ⟨s.first restart + 64,
      s.screen ++ ((d.pages.drop (s.first restart)).take 64).map Page.shown⟩ (by dsimp only; omega)
      (by change _ < (d.pages.drop (s.first restart + 64)).length; rw [List.length_drop]; omega)
      (by change (d.pages.drop (s.first restart + 64)).length ≤ _; rw [List.length_drop]; omega)
    refine (listers_cons o ep d _ _ _ _ _ _ _ hcall hrest).trans ?_
    change (_ :: _, Reading.mk 0 ((s.screen ++ _) ++ (d.pages.drop (s.first restart + 64)).map Page.shown)) = _
    rw [hdrop, List.append_assoc, ← List.map_append, List.take_append_drop]
    rfl

theorem poisonHeader_length (flags : Byte) : (flags :: (zeros 9 ++ [1, 0] ++ zeros 20)).length = 32 := rfl

theorem poisonHeader_count (flags : Byte) :
    slice (flags :: (zeros 9 ++ [1, 0] ++ zeros 20)) MediaList.poisonList.countAt 2 = leBytes 2 1 := rfl

theorem one_le_maxRecords : 1 ≤ sdbMediaMaxRecords := by decide

/- A page with one blank record. -/
def onePoison (flags : Byte) : Page .poisonList :=
  ⟨⟨flags :: (zeros 9 ++ [1, 0] ++ zeros 20), poisonHeader_length flags⟩, [zeroVec 16], one_le_maxRecords,
    poisonHeader_count flags⟩

theorem poisonPages_more (n i : ℕ) (p : Page .poisonList)
    (h : (List.replicate n (onePoison 1) ++ [onePoison 0])[i]? = some p) :
    p.more = decide (i + 1 < (List.replicate n (onePoison 1) ++ [onePoison 0]).length) := by
  rw [List.length_append, List.length_replicate, List.length_singleton]
  rcases Nat.lt_or_ge i n with hlt | hge
  · rw [List.getElem?_append_left (by rwa [List.length_replicate]), List.getElem?_replicate, if_pos hlt] at h
    obtain rfl := Option.some.inj h
    exact (decide_eq_true (by omega)).symm
  · rw [List.getElem?_append_right (by rwa [List.length_replicate]), List.length_replicate] at h
    obtain rfl := List.mem_singleton.mp (List.mem_of_getElem? h)
    exact (decide_eq_false (by omega)).symm

def poisonPages (n : ℕ) : PagedDevice .poisonList :=
  ⟨List.replicate n (onePoison 1) ++ [onePoison 0], poisonPages_more n, zeroVec 4, zeroVec 5, zeroVec 2⟩

/-- Sixty-five pages in two calls, the second of them through the tunnel. -/
theorem poisonPages_listed : (MediaList.poisonList.listers .little Contract.memdevMailbox
      [(.mailbox, ["--dpa", "0", "--length", "64", "--frestart"]),
        (.sdbTunnel, ["--port", "vdm1", "--dpa", "0", "--length", "64"])]).serve
      ((poisonPages 64).answer .little Contract.memdevMailbox) ⟨3, []⟩ =
    ([.returned (-1), .returned 0], ⟨0, (List.replicate 64 (onePoison 1) ++ [onePoison 0]).map Page.shown⟩) :=
  pages_listed_once .poisonList .little Contract.memdevMailbox memdevMailbox_isMailbox (poisonPages 64)
    (.mailbox, ["--dpa", "0", "--length", "64", "--frestart"]) true (by decide)
    [(.sdbTunnel, ["--port", "vdm1", "--dpa", "0", "--length", "64"])] (by decide) ⟨3, []⟩ (by decide) (by decide)
    (by decide)

end LibCxlmi.Tools
