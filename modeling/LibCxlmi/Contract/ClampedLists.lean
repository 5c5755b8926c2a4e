import LibCxlmi.Contract.Listing
import LibCxlmi.Contract.Lossless
import LibCxlmi.Contract.ShortReply

/-!
# Lists that are cut to the payload

Three decoders take the least of the device's count, the number of whole records
in the payload and a bound of their own, and compare 16-bit values. The payload
is never so long that its number of records loses bits there, so that they copy
what the least of the three says and nothing else.
-/

namespace LibCxlmi.Contract
open LibCxlmi.Word LibCxlmi.Cci LibCxlmi.Transport LibCxlmi.Commands

variable {α : Type}

/-- What the count is cut to. -/
structure Clamp where
  head : ℕ
  size : ℕ
  count : ℕ
  cap : ℕ

def clamp : Command α → Bytes → Option Clamp
  | .getPoisonList _ _, d => some ⟨32, 16, leVal (slice d 10 2), maxPoisonRecords⟩
  | .memdevGetScanMediaResults, d => some ⟨32, 16, leVal (slice d 18 2), maxPoisonRecords⟩
  | .memdevMediaOperationsDiscovery i, d => some ⟨12, 2, leVal (slice d 10 2), min i.numOps maxMediaOpsSupported⟩
  | _, _ => none

/-- The least of the device's count, the whole records in `len` bytes and the bound. -/
def Clamp.least (k : Clamp) (len : ℕ) : ℕ := min (min k.count ((len - k.head) / k.size)) k.cap

/-- The caller has the count `n` and the first `n` records of the payload. -/
def HoldsFirst (n : ℕ) : Command α → Bytes → α → Prop
  | .getPoisonList _ _, d, v =>
      v.moreErrMediaRecordCnt = n ∧ v.records = entriesAt d 32 16 n (mediaErrRecord .little)
  | .memdevGetScanMediaResults, d, v =>
      v.mediaErrorCount = n ∧ v.record = entriesAt d 32 16 n (mediaErrRecord .little)
  | .memdevMediaOperationsDiscovery _, d, v =>
      v.numSupportedOps = n ∧ v.entry = entriesAt d 12 2 n fun r => (byteAt r 0, byteAt r 1)
  | _, _, _ => False

section Leaves
variable (rsp d : Bytes) (sz : ℕ) (h : Leaves rsp d sz)

include h in
theorem recordsInRsp_leaves (hd : d.length ≤ 2048) (head size : ℕ) :
    recordsInRsp rsp head size = (d.length - head) / size ∧ recordsInRsp rsp head size < 2 ^ 16 := by
  have hpl : plLength rsp = d.length := h.plLength.trans (Nat.mod_eq_of_lt (by omega))
  have hle := Nat.div_le_self (d.length - head) size
  unfold recordsInRsp
  rw [hpl]
  split_ifs with hlt
  · exact ⟨rfl, by omega⟩
  · rw [Nat.sub_eq_zero_of_le (Nat.not_lt.mp hlt), Nat.zero_div]
    exact ⟨rfl, by decide⟩

include h in
theorem clampCount_leaves (hd : d.length ≤ 2048) (count head size cap : ℕ) :
    clampCount count rsp head size cap = Clamp.least ⟨head, size, count, cap⟩ d.length := by
  obtain ⟨hrec, hlt⟩ := recordsInRsp_leaves rsp d sz h hd head size
  rw [clampCount, Nat.mod_eq_of_lt hlt, hrec]
  rfl

include h in
theorem records_leaves {β : Type} (off size n : ℕ) (dec : Bytes → β) (hn : n < 2 ^ 31)
    (hfit : off + n * size ≤ sz - 12) :
    records (payload rsp) off size n dec = some (entriesAt d off size n dec) := by
  have hlen : (payload rsp).length = sz - 12 := by rw [h.payload, fillBuf_length _ d h.fits]
  rw [records_of_le _ _ _ _ _ (hlen ▸ hfit) hn]
  simp only [entriesAt, slice_leaves d rsp sz _ _ h]

end Leaves

theorem mediaErrRecord_order (o : ByteOrder) : mediaErrRecord o = mediaErrRecord .little := by
  cases o with
  | little => rfl
  | big => exact mediaErrRecord_big

theorem Clamp.least_le (k : Clamp) (len : ℕ) : k.least len ≤ k.cap := Nat.min_le_right _ _

/- What bounds the payload and the number of records is the size of the response
buffer, which the bound is made for. -/
theorem clamp_fits (c : Command α) (d : Bytes) (k : Clamp) (hk : clamp c d = some k) (o : ByteOrder)
    (had : c.spec.admitted = true) : c.spec.rspSz o - 12 = k.head + k.cap * k.size ∧ c.spec.rspSz o - 12 ≤ 2048 ∧
      k.cap < 2 ^ 31 := by
  cases c
  case getPoisonList | memdevGetScanMediaResults =>
    obtain rfl := Option.some.inj hk
    exact ⟨Nat.add_sub_cancel_left 12 _, (by decide : 12 + (32 + maxPoisonRecords * 16) - 12 ≤ 2048),
      (by decide : maxPoisonRecords < 2 ^ 31)⟩
  case memdevMediaOperationsDiscovery i =>
    obtain rfl := Option.some.inj hk
    have hnum : i.numOps.val ≤ 1018 := of_decide_eq_true had
    have hmin : min i.numOps.val maxMediaOpsSupported = i.numOps.val := Nat.min_eq_left hnum
    have hsz : (Command.memdevMediaOperationsDiscovery i).spec.rspSz o - 12 = 12 + i.numOps.val * 2 :=
      Nat.add_sub_cancel_left 12 _
    rw [hsz, hmin]
    exact ⟨rfl, by omega, by dsimp only; omega⟩
  all_goals cases hk

theorem decode_clamped (c : Command α) (o : ByteOrder) (rsp d : Bytes) (k : Clamp) (hk : clamp c d = some k)
    (had : c.spec.admitted = true) (h : Leaves rsp d (c.spec.rspSz o)) :
    ∃ v, c.spec.decode o rsp = some v ∧ HoldsFirst (k.least d.length) c d v := by
  obtain ⟨hsz, hmax, hcap⟩ := clamp_fits c d k hk o had
  have hslice := fun i n => slice_leaves d rsp _ i n h
  have hclamp := fun count head size cap => clampCount_leaves rsp d _ h (h.fits.trans hmax) count head size cap
  have hle := k.least_le d.length
  have hfit : k.head + k.least d.length * k.size ≤ c.spec.rspSz o - 12 := by
    rw [hsz]
    exact Nat.add_le_add_left (Nat.mul_le_mul_right k.size hle) k.head
  have hrec : ∀ {β : Type} (dec : Bytes → β), records (payload rsp) k.head k.size (k.least d.length) dec =
      some (entriesAt d k.head k.size (k.least d.length) dec) :=
    fun dec => records_leaves rsp d _ h _ _ _ dec (hle.trans_lt hcap) hfit
  cases c
  case getPoisonList a l =>
    obtain rfl := Option.some.inj hk
    refine ⟨⟨byteAt (payload rsp) 0, leVal (slice d 2 8), _, _⟩, ?_, rfl, rfl⟩
    simp only [Command.spec, getPoisonList, getLe_eq, hslice, hclamp, mediaErrRecord_order o]
    rw [hrec (mediaErrRecord .little)]
    rfl
  case memdevGetScanMediaResults =>
    obtain rfl := Option.some.inj hk
    refine ⟨⟨leVal (slice d 0 8), leVal (slice d 8 8), byteAt (payload rsp) 16, _, _⟩, ?_, rfl, rfl⟩
    simp only [Command.spec, memdevGetScanMediaResults, getLe_eq, hslice, hclamp, mediaErrRecord_order o]
    rw [hrec (mediaErrRecord .little)]
    rfl
  case memdevMediaOperationsDiscovery i =>
    obtain rfl := Option.some.inj hk
    refine ⟨⟨leVal (slice d 0 8), leVal (slice d 8 2), _, _⟩, ?_, rfl, rfl⟩
    have hcount : ∀ n, min (clampCount n rsp 12 2 i.numOps) maxMediaOpsSupported =
        Clamp.least ⟨12, 2, n, min i.numOps maxMediaOpsSupported⟩ d.length := by
      intro n
      rw [hclamp]
      exact Nat.min_assoc _ _ _
    simp only [Command.spec, memdevMediaOperationsDiscovery, getLe_eq, hslice, hcount]
    rw [hrec fun r => (byteAt r 0, byteAt r 1)]
    rfl
  all_goals cases hk

/-- Get Poison List, Get Scan Media Results and the discovery of media operations
hand over the first records of the payload, as many as the least bound says, and
the number of records in the payload fits the 16 bits it is compared in. -/
theorem clamped_lists_exact (c : Command α) (o : ByteOrder) (env : Env) (ep : Endpoint) (ti : Option TunnelInfo)
    (d : Bytes) (h : AcceptedReply c o env ep ti d) (k : Clamp) (hk : clamp c d = some k) :
    (∃ v, Hands c o env ep ti v ∧ HoldsFirst (k.least d.length) c d v) ∧
      ∀ pl s, c.spec.Sends o env ep ti pl s → s.rc = 0 →
        recordsInRsp s.rsp k.head k.size = (d.length - k.head) / k.size ∧
          recordsInRsp s.rsp k.head k.size % 2 ^ 16 = recordsInRsp s.rsp k.head k.size := by
  obtain ⟨pl, s, hsends, -⟩ := h.1
  have hmax := (clamp_fits c d k hk o hsends.admitted).2.1
  constructor
  · obtain ⟨rsp, hleaves, hhands⟩ := accepted_hands c o env ep ti d h
    obtain ⟨v, hv, hfirst⟩ := decode_clamped c o rsp d k hk hsends.admitted hleaves
    exact ⟨v, (hhands v).mpr hv, hfirst⟩
  · intro pl s hsends h0
    have hleaves := (c.spec.sends_leaves o env ep ti pl s hsends h0).1
    rw [← h.2] at hleaves
    obtain ⟨hrec, hlt⟩ := recordsInRsp_leaves s.rsp d _ hleaves (hleaves.fits.trans hmax) k.head k.size
    exact ⟨hrec, Nat.mod_eq_of_lt hlt⟩

/- The device counts five records and sends two and a half. -/
def cutPoisonList : Bytes := zeros 10 ++ leBytes 2 5 ++ zeros 20 ++ leBytes 8 64 ++ leBytes 4 1 ++ zeros 4 ++
  leBytes 8 128 ++ leBytes 4 2 ++ zeros 4 ++ zeros 8

theorem cutPoisonList_exact :
    AcceptedReply (.getPoisonList 0 256) .little takesAll (mockWith 0x43 0x0 cutPoisonList) none cutPoisonList ∧
      ∃ v, Hands (.getPoisonList 0 256) .little takesAll (mockWith 0x43 0x0 cutPoisonList) none v ∧
        v.moreErrMediaRecordCnt = 2 ∧ v.records = [⟨64, 1⟩, ⟨128, 2⟩] := by
  have haccepted : AcceptedReply (.getPoisonList 0 256) .little takesAll (mockWith 0x43 0x0 cutPoisonList) none
      cutPoisonList := ⟨⟨_, _, ⟨rfl, by decide, rfl, by decide, rfl⟩, rfl⟩, by decide +kernel⟩
  obtain ⟨v, hv, hfirst⟩ := (clamped_lists_exact (.getPoisonList 0 256) .little takesAll
    (mockWith 0x43 0x0 cutPoisonList) none cutPoisonList haccepted _ rfl).1
  exact ⟨haccepted, v, hv, hfirst.1.trans (by decide +kernel), hfirst.2.trans (by decide +kernel)⟩

end LibCxlmi.Contract
