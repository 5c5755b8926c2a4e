import LibCxlmi.Contract.Listing
import LibCxlmi.Contract.Lossless
import LibCxlmi.Contract.ReturnedData

/-!
# Entries that were received (commands.c:192-260, 595-638, 877-980)

Get Event Records and Get Supported Features run to the device's count, Get
Supported Logs to that count or 16, Get Feature copies what the caller asked for.
None of them looks at how much came. `reads` lists where the first and the second
of these read.
-/

namespace LibCxlmi.Contract
open LibCxlmi.Word LibCxlmi.Cci LibCxlmi.Transport LibCxlmi.Commands

variable {α β : Type}

/-! ### Where a decoder reads -/

/-- An offset and a number of bytes. -/
abbrev Span := ℕ × ℕ

def spansAt (off : ℕ) (ss : List Span) : List Span := ss.map fun s => (off + s.1, s.2)

def AgreeOn (ss : List Span) (m m' : Bytes) : Prop := ∀ s ∈ ss, slice m s.1 s.2 = slice m' s.1 s.2

def eventHeadSpans : List Span := [(0, 1), (2, 2), (4, 8), (12, 8), (20, 2)]

/- All of a record but its reserved bytes. -/
def eventRecordSpans : List Span :=
  [(0, 16), (16, 1), (17, 3), (20, 2), (22, 2), (24, 8), (32, 1), (33, 1), (34, 2), (36, 1), (48, 80)]

def logEntrySpans : List Span := [(0, 16), (16, 4)]

def reads : Command α → Bytes → List Span
  | .getEventRecords _, pl => eventHeadSpans ++
      (List.range (leVal (slice pl 20 2))).flatMap fun i => spansAt (32 + i * 128) eventRecordSpans
  | .getSupportedLogs, pl => [(0, 2)] ++
      (List.range (min (leVal (slice pl 0 2)) maxSupportedLogs)).flatMap fun i => spansAt (8 + i * 20) logEntrySpans
  | _, _ => []

theorem AgreeOn.byte (ss : List Span) (m m' : Bytes) (h : AgreeOn ss m m') (i : ℕ) (hi : (i, 1) ∈ ss) :
    byteAt m i = byteAt m' i := (List.cons.inj (h (i, 1) hi)).1

theorem AgreeOn.slice_at (ss : List Span) (m m' : Bytes) (off n : ℕ) (hin : ∀ s ∈ ss, s.1 + s.2 ≤ n)
    (h : AgreeOn (spansAt off ss) m m') : AgreeOn ss (slice m off n) (slice m' off n) := by
  intro s hs
  rw [slice_slice m off n _ _ (hin s hs), slice_slice m' off n _ _ (hin s hs)]
  exact h (off + s.1, s.2) (List.mem_map_of_mem hs)

theorem eventRecord_congr (o : ByteOrder) (r r' : Bytes) (h : AgreeOn eventRecordSpans r r') :
    eventRecord o r = eventRecord o r' := by
  simp only [eventRecord, getLe_eq]
  rw [h (0, 16) (by decide), h.byte _ _ _ 16 (by decide), h (17, 3) (by decide), h (20, 2) (by decide),
    h (22, 2) (by decide), h (24, 8) (by decide), h.byte _ _ _ 32 (by decide), h.byte _ _ _ 33 (by decide),
    h (34, 2) (by decide), h.byte _ _ _ 36 (by decide), h (48, 80) (by decide)]

theorem supportedLogEntry_congr (o : ByteOrder) (r r' : Bytes) (h : AgreeOn logEntrySpans r r') :
    supportedLogEntry o r = supportedLogEntry o r' := by
  simp only [supportedLogEntry, getLe_eq]
  rw [h (0, 16) (by decide), h (16, 4) (by decide)]

theorem records_congr (m m' : Bytes) (off sz n : ℕ) (ss : List Span) (dec : Bytes → β) (hlen : m.length = m'.length)
    (hin : ∀ s ∈ ss, s.1 + s.2 ≤ sz) (hdec : ∀ r r', AgreeOn ss r r' → dec r = dec r')
    (h : AgreeOn ((List.range n).flatMap fun i => spansAt (off + i * sz) ss) m m') :
    records m off sz n dec = records m' off sz n dec := by
  unfold records
  rw [hlen]
  have heach : ∀ i ∈ List.range n, dec (slice m (off + i * sz) sz) = dec (slice m' (off + i * sz) sz) := by
    intro i hi
    refine hdec _ _ (AgreeOn.slice_at ss m m' _ sz hin fun s hs => ?_)
    exact h s (List.mem_flatMap.mpr ⟨i, hi, hs⟩)
  rw [List.map_congr_left heach]

theorem agreeOn_append (ss ts : List Span) (m m' : Bytes) :
    AgreeOn (ss ++ ts) m m' ↔ AgreeOn ss m m' ∧ AgreeOn ts m m' := List.forall_mem_append

/-- The largest count that is documented. -/
def documentedMax : Command α → Option ℕ
  | .getEventRecords _ => some maxSupportedEventRecords
  | .getSupportedLogs => some maxSupportedLogs
  | _ => none

/-- Apart from where `reads` says, the decoder does not depend on the response. -/
theorem decode_reads (c : Command α) (max : ℕ) (hc : documentedMax c = some max) (o : ByteOrder) (rsp rsp' : Bytes)
    (hlen : (payload rsp).length = (payload rsp').length)
    (hagree : AgreeOn (reads c (payload rsp)) (payload rsp) (payload rsp')) :
    c.spec.decode o rsp = c.spec.decode o rsp' := by
  cases c
  case getEventRecords e =>
    obtain ⟨hhead, hrecs⟩ := (agreeOn_append _ _ _ _).mp hagree
    have hrec := records_congr _ _ 32 128 _ eventRecordSpans (eventRecord o) hlen (by decide) (eventRecord_congr o)
      hrecs
    simp only [Command.spec, getEventRecords, request, getLe_eq]
    rw [hrec, hhead (20, 2) (by decide), hhead.byte _ _ _ 0 (by decide), hhead (2, 2) (by decide),
      hhead (4, 8) (by decide), hhead (12, 8) (by decide)]
  case getSupportedLogs =>
    obtain ⟨hhead, hrecs⟩ := (agreeOn_append _ _ _ _).mp hagree
    have hrec := records_congr _ _ 8 20 _ logEntrySpans (supportedLogEntry o) hlen (by decide)
      (supportedLogEntry_congr o) hrecs
    simp only [Command.spec, getSupportedLogs, getLe_eq]
    rw [hrec, hhead (0, 2) (by decide)]
  all_goals cases hc

/-! ### Events and logs -/

def ReadsInside (c : Command α) (d : Bytes) : Prop := ∀ s ∈ reads c d, s.1 + s.2 ≤ d.length

def handedCount : Command α → α → ℕ
  | .getEventRecords _, v => v.recordCount
  | .getSupportedLogs, v => v.numSupportedLogEntries
  | _, _ => 0

/-- The whole entries in the payload. -/
def wholeEntries : Command α → Bytes → ℕ
  | .getEventRecords _, d => (d.length - 32) / 128
  | .getSupportedLogs, d => (d.length - 8) / 20
  | _, _ => 0

/-- The device sent its count, and as many entries as it counts, or the first 16 logs. -/
def SendsEntries : Command α → Bytes → Prop
  | .getEventRecords _, d => 22 ≤ d.length ∧ leVal (slice d 20 2) ≤ (d.length - 32) / 128
  | .getSupportedLogs, d => 2 ≤ d.length ∧ min (leVal (slice d 0 2)) maxSupportedLogs ≤ (d.length - 8) / 20
  | _, _ => False

section Entries
variable (o : ByteOrder) (env : Env) (ep : Endpoint) (ti : Option TunnelInfo) (d : Bytes)

theorem mem_reads_records (off sz n : ℕ) (ss : List Span) (hin : ∀ s ∈ ss, s.1 + s.2 ≤ sz) (s : Span)
    (hs : s ∈ (List.range n).flatMap fun i => spansAt (off + i * sz) ss) : s.1 + s.2 ≤ off + n * sz := by
  obtain ⟨i, hi, hs⟩ := List.mem_flatMap.mp hs
  obtain ⟨t, ht, rfl⟩ := List.mem_map.mp hs
  have hle := Nat.mul_le_mul_right sz (Nat.succ_le_of_lt (List.mem_range.mp hi))
  rw [Nat.succ_mul] at hle
  have htin := hin t ht
  dsimp only
  omega

/- Whole entries end inside the payload, unless there are none. -/
theorem entries_end (off sz n len : ℕ) (hn : n ≤ (len - off) / sz) : n = 0 ∨ off + n * sz ≤ len := by
  rcases Nat.eq_zero_or_pos n with h0 | hpos
  · exact .inl h0
  · have hmul := Nat.mul_le_of_le_div sz n (len - off) hn
    have hsz : 0 < sz := Nat.pos_of_ne_zero fun h0 => by
      rw [h0, Nat.div_zero] at hn
      omega
    have hge := Nat.mul_pos hpos hsz
    exact .inr (by omega)

theorem entries_fit (off sz n len room : ℕ) (hn : n ≤ (len - off) / sz) (hoff : off ≤ room) (hlen : len ≤ room) :
    off + n * sz ≤ room := by
  rcases entries_end off sz n len hn with rfl | hend
  · rwa [Nat.zero_mul, Nat.add_zero]
  · exact hend.trans hlen

theorem reads_inside (first ss : List Span) (off sz n len : ℕ) (hfirst : ∀ s ∈ first, s.1 + s.2 ≤ len)
    (hin : ∀ s ∈ ss, s.1 + s.2 ≤ sz) (hn : n ≤ (len - off) / sz) :
    ∀ s ∈ first ++ (List.range n).flatMap fun i => spansAt (off + i * sz) ss, s.1 + s.2 ≤ len := by
  refine List.forall_mem_append.mpr ⟨hfirst, fun s hs => ?_⟩
  rcases entries_end off sz n len hn with rfl | hend
  · exact absurd hs List.not_mem_nil
  · exact (mem_reads_records off sz n ss hin s hs).trans hend

theorem hands_count (c : Command α) (max : ℕ) (hc : documentedMax c = some max) (l : Listing)
    (hl : listing o c d = some l) (h : AcceptedReply c o env ep ti d) (v : α) (hv : Hands c o env ep ti v) :
    handedCount c v = l.count := by
  obtain ⟨rsp, hleaves, hhands⟩ := accepted_hands c o env ep ti d h
  have hdec := (hhands v).mp hv
  have hlist := (listing_leaves c o d rsp _ hleaves).trans hl
  cases c
  case getEventRecords e =>
    obtain rfl := Option.some.inj hlist
    obtain ⟨rs, -, rfl⟩ := Option.map_eq_some_iff.mp hdec
    exact getLe_eq o 2 _ 20
  case getSupportedLogs =>
    obtain rfl := Option.some.inj hlist
    obtain ⟨rs, -, rfl⟩ := Option.map_eq_some_iff.mp hdec
    simp only [handedCount, getLe_eq]
  all_goals cases hc

end Entries

/-- Both decoders stay with what was received exactly if the device sent what it counts. -/
theorem received_entries_iff (c : Command α) (max : ℕ) (hc : documentedMax c = some max) (o : ByteOrder) (env : Env)
    (ep : Endpoint) (ti : Option TunnelInfo) (d : Bytes) (h : AcceptedReply c o env ep ti d) :
    (∃ v, Hands c o env ep ti v ∧ ReadsInside c d ∧ handedCount c v ≤ wholeEntries c d ∧ handedCount c v ≤ max) ↔
      SendsEntries c d := by
  have hfits : d.length ≤ c.spec.rspSz o - 12 := by
    obtain ⟨rsp, hleaves, -⟩ := accepted_hands c o env ep ti d h
    exact hleaves.fits
  have hcount := fun l hl v hv => hands_count o env ep ti d c max hc l hl h v hv
  have hhands := fun l hl => (hands_iff c o env ep ti d h l hl).1
  cases c
  case getEventRecords e =>
    obtain rfl := Option.some.inj hc
    have hmax : d.length ≤ 32 + 20 * 128 := hfits
    constructor
    · rintro ⟨v, hv, hin, hwhole, -⟩
      rw [hcount _ rfl v hv] at hwhole
      exact ⟨hin (20, 2) (List.mem_append_left _ (by decide)), hwhole⟩
    · rintro ⟨hlen, hle⟩
      have hroom := entries_fit 32 128 _ d.length (32 + 20 * 128) hle (by decide) hmax
      have hhead : ∀ s ∈ eventHeadSpans, s.1 + s.2 ≤ 22 := by decide
      obtain ⟨v, hv⟩ := (hhands _ rfl).mpr ⟨hroom, leVal_lt_two d 20⟩
      refine ⟨v, hv, reads_inside _ eventRecordSpans 32 128 _ d.length (fun s hs => (hhead s hs).trans hlen)
        (by decide) hle, ?_, ?_⟩
      · rw [hcount _ rfl v hv]
        exact hle
      · rw [hcount _ rfl v hv]
        exact Nat.le_of_mul_le_mul_right (Nat.le_of_add_le_add_left hroom) (by decide)
  case getSupportedLogs =>
    obtain rfl := Option.some.inj hc
    have hmax : d.length ≤ 8 + 16 * 20 := hfits
    constructor
    · rintro ⟨v, hv, hin, hwhole, -⟩
      rw [hcount _ rfl v hv] at hwhole
      exact ⟨hin (0, 2) (List.mem_append_left _ (by decide)), hwhole⟩
    · rintro ⟨hlen, hle⟩
      have hroom := entries_fit 8 20 _ d.length (8 + 16 * 20) hle (by decide) hmax
      have hcap := Nat.min_le_right (leVal (slice d 0 2)) maxSupportedLogs
      obtain ⟨v, hv⟩ := (hhands _ rfl).mpr ⟨hroom, hcap.trans_lt (by decide)⟩
      refine ⟨v, hv, reads_inside _ logEntrySpans 8 20 _ d.length (fun s hs => ?_) (by decide) hle, ?_, ?_⟩
      · rw [List.mem_singleton.mp hs]
        exact hlen
      · rw [hcount _ rfl v hv]
        exact hle
      · rw [hcount _ rfl v hv]
        exact hcap
  all_goals cases hc

/- One record with its count. -/
def oneEvent : Bytes := zeros 20 ++ leBytes 2 1 ++ zeros 10 ++ zeros 128

theorem oneEvent_received :
    AcceptedReply (.getEventRecords 0) .little takesAll (mockWith 0x01 0x0 oneEvent) none oneEvent ∧
      ∃ v, Hands (.getEventRecords 0) .little takesAll (mockWith 0x01 0x0 oneEvent) none v ∧
        ReadsInside (.getEventRecords 0) oneEvent ∧ v.recordCount ≤ 1 := by
  have haccepted : AcceptedReply (.getEventRecords 0) .little takesAll (mockWith 0x01 0x0 oneEvent) none oneEvent :=
    ⟨⟨_, _, ⟨rfl, by decide, rfl, by decide, rfl⟩, rfl⟩, by decide +kernel⟩
  obtain ⟨v, hv, hin, hwhole, -⟩ := (received_entries_iff (.getEventRecords 0) 20 rfl .little takesAll
    (mockWith 0x01 0x0 oneEvent) none oneEvent haccepted).mpr ⟨by decide +kernel, by decide +kernel⟩
  have hone : wholeEntries (.getEventRecords 0) oneEvent = 1 := by decide +kernel
  exact ⟨haccepted, v, hv, hin, hwhole.trans (Nat.le_of_eq hone)⟩

/- A reply without a record, and the count of `n`. -/
def countOnly (n : ℕ) : Bytes := zeros 20 ++ leBytes 2 n ++ zeros 10

/-- A record that was not sent is read and handed over; with 21 of them the loop leaves
the response. -/
theorem unsent_events_read :
    ((getEventRecords 0).run .little (mailboxAnswers 0 (countOnly 1)) memdevMailbox none).map
        (fun r => (r.rc, r.value.map GetEventRecordsRsp.recordCount)) = some (0, some 1) ∧
      returned (mailboxAnswers 0 (countOnly 1)) memdevMailbox none 0x01 0x0 2604 = countOnly 1 ∧
      wholeEntries (.getEventRecords 0) (countOnly 1) = 0 ∧ ¬ReadsInside (.getEventRecords 0) (countOnly 1) ∧
    AcceptedReply (.getEventRecords 0) .little (mailboxAnswers 0 (countOnly 21)) memdevMailbox none (countOnly 21) ∧
      ((getEventRecords 0).run .little (mailboxAnswers 0 (countOnly 21)) memdevMailbox none).isNone = true := by
  refine ⟨by decide +kernel, by decide +kernel, by decide +kernel, fun h => ?_, ?_, by decide +kernel⟩
  · have hread := h (32, 16) (by decide +kernel)
    exact absurd hread (by decide +kernel)
  · exact ⟨⟨_, _, ⟨rfl, by decide, rfl, by decide, rfl⟩, rfl⟩, by decide +kernel⟩

/-! ### Features -/

def IsFeature : Command α → Prop
  | .getSupportedFeatures _ _ | .getFeature _ => True
  | _ => False

def InsideBuffers : Command α → Bytes → α → Prop
  | .getSupportedFeatures count _, d, v =>
      v.supportedFeatureEntries.length * 48 ≤ count.val ∧ v.supportedFeatureEntries.length * 48 ≤ d.length
  | .getFeature _, d, v => v.length ≤ mailboxMaxPayloadSize ∧ v <+: d
  | _, _, _ => True

/- A big-endian host finds no entries. -/
def SendsFeatures (o : ByteOrder) : Command α → Bytes → Prop
  | .getSupportedFeatures count _, d =>
      o = .little → leVal (slice d 0 2) * 48 ≤ count.val ∧ leVal (slice d 0 2) * 48 ≤ d.length
  | .getFeature i, d => i.count.val ≤ d.length
  | _, _ => True

theorem numSupportedFeatureEntries_cases (o : ByteOrder) (d : Bytes) :
    o = .little ∧ numSupportedFeatureEntries o d = leVal (slice d 0 2) ∨
      o ≠ .little ∧ numSupportedFeatureEntries o d = 0 := by
  cases o with
  | little => exact .inl ⟨rfl, numSupportedFeatureEntries_little d⟩
  | big => exact .inr ⟨nofun, numSupportedFeatureEntries_big d⟩

theorem feature_buffers_iff (c : Command α) (hc : IsFeature c) (o : ByteOrder) (env : Env) (ep : Endpoint)
    (ti : Option TunnelInfo) (d : Bytes) (h : AcceptedReply c o env ep ti d) :
    (∃ v, Hands c o env ep ti v ∧ InsideBuffers c d v) ↔ SendsFeatures o c d := by
  have hhands := fun l hl => hands_iff c o env ep ti d h l hl
  cases c
  case getSupportedFeatures count start =>
    obtain ⟨hex, helems⟩ := hhands _ rfl
    have hroom : (Command.getSupportedFeatures count start).spec.rspSz o - 12 = 8 + count.val :=
      Nat.add_sub_cancel_left 12 _
    have hcount := count.isLt
    rw [hroom] at hex
    dsimp only [Listing.extent] at hex helems
    rcases numSupportedFeatureEntries_cases o d with ⟨ho, hn⟩ | ⟨ho, hn⟩
    · rw [hn] at hex helems
      constructor
      · rintro ⟨v, hv, hin⟩ -
        rw [← helems v hv]
        exact hin
      · intro hsent
        obtain ⟨v, hv⟩ := hex.mpr ⟨by have hle := (hsent ho).1; omega, leVal_lt_two d 0⟩
        refine ⟨v, hv, ?_⟩
        have hsent := hsent ho
        rwa [← helems v hv] at hsent
    · rw [hn] at hex helems
      refine iff_of_true ?_ fun hl => absurd hl ho
      obtain ⟨v, hv⟩ := hex.mpr ⟨by omega, by decide⟩
      have hzero : v.supportedFeatureEntries.length = 0 := helems v hv
      refine ⟨v, hv, ?_⟩
      rw [InsideBuffers, hzero]
      exact ⟨Nat.zero_le _, Nat.zero_le _⟩
  case getFeature i =>
    obtain ⟨hex, helems⟩ := hhands _ rfl
    obtain ⟨rsp, hleaves, hdecode⟩ := accepted_hands _ o env ep ti d h
    have hfits : d.length ≤ 2048 := hleaves.fits
    have hext : Listing.extent ⟨0, 1, i.count.val, 0⟩ = i.count.val := by
      simp only [Listing.extent, Nat.zero_add, Nat.mul_one, Nat.add_zero]
    rw [hext] at hex
    constructor
    · rintro ⟨v, hv, -, hpre⟩
      have hle := hpre.length_le
      rwa [show v.length = i.count.val from helems v hv] at hle
    · intro hsent
      obtain ⟨v, hv⟩ := hex.mpr ⟨hsent.trans hfits, i.count.isLt.trans (by decide)⟩
      have hlen : v.length = i.count.val := helems v hv
      have hcopy : copyOut (payload rsp) 0 i.count = some v := (hdecode v).mp hv
      unfold copyOut at hcopy
      split_ifs at hcopy
      refine ⟨v, hv, hlen ▸ hsent.trans hfits, ?_⟩
      rw [← Option.some.inj hcopy, slice_leaves d rsp _ _ _ hleaves, slice_take_self d _ hsent]
      exact List.take_prefix _ d
  all_goals exact False.elim hc

def featureReq (count : U 16) : GetFeatureReq := ⟨⟨zeros 16, rfl⟩, 0, count, 0⟩

theorem twoBytes_copied :
    AcceptedReply (.getFeature (featureReq 2)) .little takesAll (mockWith 0x05 0x1 [0xaa, 0xbb]) none [0xaa, 0xbb] ∧
      ∃ v, Hands (.getFeature (featureReq 2)) .little takesAll (mockWith 0x05 0x1 [0xaa, 0xbb]) none v ∧
        v.length ≤ mailboxMaxPayloadSize ∧ v <+: [0xaa, 0xbb] := by
  have haccepted : AcceptedReply (.getFeature (featureReq 2)) .little takesAll (mockWith 0x05 0x1 [0xaa, 0xbb]) none
      [0xaa, 0xbb] := ⟨⟨_, _, ⟨rfl, by decide, rfl, by decide, rfl⟩, rfl⟩, by decide +kernel⟩
  exact ⟨haccepted, (feature_buffers_iff (.getFeature (featureReq 2)) trivial .little takesAll
    (mockWith 0x05 0x1 [0xaa, 0xbb]) none [0xaa, 0xbb] haccepted).mpr (by decide : 2 ≤ 2)⟩

/- Two entries where there is room for one. -/
def twoFeatures : Bytes := leBytes 2 2 ++ zeros 54

/-- The second entry, and 65535 bytes out of 2048, are beyond the response; of four
bytes two were not sent. -/
theorem features_leave_buffers :
    (AcceptedReply (.getSupportedFeatures 48 0) .little (mailboxAnswers 0 twoFeatures) memdevMailbox none twoFeatures ∧
      ((getSupportedFeatures 48 0).run .little (mailboxAnswers 0 twoFeatures) memdevMailbox none).isNone = true) ∧
    (AcceptedReply (.getFeature (featureReq 65535)) .little (mailboxAnswers 0 [0xaa, 0xbb]) memdevMailbox none
        [0xaa, 0xbb] ∧
      ((getFeature (featureReq 65535)).run .little (mailboxAnswers 0 [0xaa, 0xbb]) memdevMailbox none).isNone = true) ∧
    AcceptedReply (.getFeature (featureReq 4)) .little (mailboxAnswers 0 [0xaa, 0xbb]) memdevMailbox none [0xaa, 0xbb] ∧
      ((getFeature (featureReq 4)).run .little (mailboxAnswers 0 [0xaa, 0xbb]) memdevMailbox none).map
        (fun r => (r.rc, r.value)) = some (0, some [0xaa, 0xbb, 0, 0]) := by
  refine ⟨⟨?_, by decide +kernel⟩, ⟨?_, by decide +kernel⟩, ?_, by decide +kernel⟩
  · exact ⟨⟨_, _, ⟨rfl, by decide, rfl, by decide, rfl⟩, rfl⟩, by decide +kernel⟩
  · exact ⟨⟨_, _, ⟨rfl, by decide, rfl, by decide, rfl⟩, rfl⟩, by decide +kernel⟩
  · exact ⟨⟨_, _, ⟨rfl, by decide, rfl, by decide, rfl⟩, rfl⟩, by decide +kernel⟩

end LibCxlmi.Contract
