import LibCxlmi.Commands.Sizes

/-!
# Lists in responses

Many decoders copy a list out of the response: entries of one size behind a
fixed part, as many as a field of the payload says, or the request. `listing` is
where a decoder finds them. It gets through exactly if all of that is inside the
response buffer, and then `elements` of them have been copied to the caller.
-/

namespace LibCxlmi.Contract
open LibCxlmi.Word LibCxlmi.Cci LibCxlmi.Transport LibCxlmi.Commands

variable {α β : Type}

/-- `tail` bytes are read behind the last entry. -/
structure Listing where
  head : ℕ
  size : ℕ
  count : ℕ
  tail : ℕ
  deriving DecidableEq

def Listing.extent (l : Listing) : ℕ := l.head + l.count * l.size + l.tail

/- The sizes are those of api-types.h, the counts what the loops and copies of
commands.c run to. -/
def listing (o : ByteOrder) : Command α → Bytes → Option Listing
  | .getEventRecords _, pl => some ⟨32, 128, leVal (slice pl 20 2), 0⟩
  | .getSupportedLogs, pl => some ⟨8, 20, min (leVal (slice pl 0 2)) maxSupportedLogs, 0⟩
  | .getSupportedFeatures _ _, pl => some ⟨8, 48, numSupportedFeatureEntries o pl, 0⟩
  | .getFeature i, _ => some ⟨0, 1, i.count, 0⟩
  | .memdevGetDcExtentList _ _, pl => some ⟨16, 40, leVal (slice pl 0 4), 0⟩
  | .fmapiGetDcRegionExtList _, pl => some ⟨24, 40, leVal (slice pl 8 4), 0⟩
  | .fmapiDcListTags _ _, pl => some ⟨16, 84, leVal (slice pl 8 4), 0⟩
  | .memdevGetDcConfig _ _, pl => some ⟨8, 40, byteAt pl 1, 16⟩
  | .fmapiGetDcRegConfig _ _ _, pl => some ⟨4, 40, byteAt pl 3, 16⟩
  | .fmapiGetPhysPortState _, pl => some ⟨4, 16, byteAt pl 0, 0⟩
  | .fmapiGetLdAllocations _ _, pl => some ⟨4, 16, byteAt pl 3, 0⟩
  | .fmapiSetLdAllocations _, pl => some ⟨4, 16, byteAt pl 0, 0⟩
  | .fmapiGetQosAllocatedBw _ _, pl => some ⟨2, 1, byteAt pl 0, 0⟩
  | .fmapiSetQosAllocatedBw _, pl => some ⟨2, 1, byteAt pl 0, 0⟩
  | .fmapiGetQosBwLimit _ _, pl => some ⟨2, 1, byteAt pl 0, 0⟩
  | .fmapiSetQosBwLimit _, pl => some ⟨2, 1, byteAt pl 0, 0⟩
  | .fmapiGetMultiheadedInfo _ _, pl => some ⟨8, 1, byteAt pl 5, 0⟩
  | .fmapiGetHeadInfo _ _, pl => some ⟨4, 9, byteAt pl 0, 0⟩
  | .fmapiSendLdCxlioMemRequest _, pl => some ⟨4, 1, leVal (slice pl 0 2), 0⟩
  | _, _ => none

/-- The number of list elements in the caller's structure. -/
def elements : Command α → α → ℕ
  | .getEventRecords _, v => v.records.length
  | .getSupportedLogs, v => v.entries.length
  | .getSupportedFeatures _ _, v => v.supportedFeatureEntries.length
  | .getFeature _, v => v.length
  | .memdevGetDcExtentList _ _, v => v.extents.length
  | .fmapiGetDcRegionExtList _, v => v.extents.length
  | .fmapiDcListTags _ _, v => v.tagsList.length
  | .memdevGetDcConfig _ _, v => v.regionConfigs.length
  | .fmapiGetDcRegConfig _ _ _, v => v.regionConfigs.length
  | .fmapiGetPhysPortState _, v => v.ports.length
  | .fmapiGetLdAllocations _ _, v => v.ldAllocationList.length
  | .fmapiSetLdAllocations _, v => v.ldAllocationList.length
  | .fmapiGetQosAllocatedBw _ _, v => v.fractions.length
  | .fmapiSetQosAllocatedBw _, v => v.fractions.length
  | .fmapiGetQosBwLimit _ _, v => v.fractions.length
  | .fmapiSetQosBwLimit _, v => v.fractions.length
  | .fmapiGetMultiheadedInfo _ _, v => v.ldMap.length
  | .fmapiGetHeadInfo _ _, v => v.headInfoList.length / 9
  | .fmapiSendLdCxlioMemRequest _, v => v.returnData.length
  | _, _ => 0

/-! ### Loops and copies -/

/-- `x` is there exactly if `l` fits into `n` bytes, and then `f` counts its entries. -/
def Copied (l : Listing) (n : ℕ) (x : Option β) (f : β → ℕ) : Prop :=
  ((∃ v, x = some v) ↔ l.extent ≤ n ∧ l.count < 2 ^ 31) ∧ ∀ v, x = some v → f v = l.count

section Loops
variable {γ : Type} (p : Bytes) (off sz n : ℕ) (f : β → ℕ)

theorem copied_some (l : Listing) (m : ℕ) (v : β) (hfit : l.extent ≤ m ∧ l.count < 2 ^ 31) (hv : f v = l.count) :
    Copied l m (some v) f :=
  ⟨iff_of_true ⟨v, rfl⟩ hfit, fun _ hw => Option.some.inj hw ▸ hv⟩

theorem copied_none (l : Listing) (m : ℕ) (hfit : ¬(l.extent ≤ m ∧ l.count < 2 ^ 31)) : Copied l m none f :=
  ⟨iff_of_false (fun ⟨_, h⟩ => nomatch h) hfit, fun _ h => nomatch h⟩

theorem copied_records (dec : Bytes → γ) (g : List γ → β) (hf : ∀ rs, f (g rs) = rs.length) :
    Copied ⟨off, sz, n, 0⟩ p.length ((records p off sz n dec).map g) f := by
  unfold records
  split_ifs with hfit
  · refine copied_some f _ _ _ hfit ?_
    rw [hf, List.length_map, List.length_range]
  · exact copied_none f _ _ hfit

theorem copied_copyOut (k : ℕ) (g : Bytes → β) (hk : k = n * sz) (hn : n < 2 ^ 31)
    (hf : ∀ b, b.length = k → f (g b) = n) :
    Copied ⟨off, sz, n, 0⟩ p.length ((copyOut p off k).map g) f := by
  subst hk
  unfold copyOut
  split_ifs with hfit
  · exact copied_some f _ _ _ ⟨hfit, hn⟩ (hf _ (slice_length p off (n * sz)))
  · exact copied_none f _ _ fun h => hfit h.1

theorem copied_regions (o : ByteOrder) (dec : Bytes → γ) (g : List γ × DcCounters → β)
    (hf : ∀ rs cs, f (g (rs, cs)) = rs.length) :
    Copied ⟨off, 40, n, 16⟩ p.length ((regionsAndCounters o p off n dec).map g) f := by
  unfold regionsAndCounters records copyOut
  by_cases hrec : off + n * 40 ≤ p.length ∧ n < 2 ^ 31
  · rw [if_pos hrec, Option.bind_some]
    by_cases hend : off + n * 40 + 16 ≤ p.length
    · rw [if_pos hend]
      refine copied_some f _ _ _ ⟨hend, hrec.2⟩ ?_
      rw [hf, List.length_map, List.length_range]
    · rw [if_neg hend]
      exact copied_none f _ _ fun h => hend h.1
  · rw [if_neg hrec]
    exact copied_none f _ _ fun h => hrec ⟨Nat.le_of_add_right_le h.1, h.2⟩

end Loops

theorem leVal_lt_two (m : Bytes) (i : ℕ) : leVal (slice m i 2) < 2 ^ 31 :=
  (tunnelLength_lt m i).trans (by decide)

theorem decode_copied (c : Command α) (o : ByteOrder) (rsp : Bytes) (l : Listing)
    (hl : listing o c (payload rsp) = some l) :
    Copied l (payload rsp).length (c.spec.decode o rsp) (elements c) := by
  have hbyte : ∀ i, (byteAt (payload rsp) i).val < 2 ^ 31 := fun i => (byteAt (payload rsp) i).isLt.trans (by decide)
  cases c
  case getEventRecords e =>
    obtain rfl := Option.some.inj hl
    simp only [Command.spec, getEventRecords, request, getLe_eq]
    exact copied_records _ _ _ _ _ _ _ fun _ => rfl
  case getSupportedLogs =>
    obtain rfl := Option.some.inj hl
    simp only [Command.spec, getSupportedLogs, getLe_eq]
    exact copied_records _ _ _ _ _ _ _ fun _ => rfl
  case memdevGetDcExtentList =>
    obtain rfl := Option.some.inj hl
    simp only [Command.spec, memdevGetDcExtentList, request, getLe_eq]
    exact copied_records _ _ _ _ _ _ _ fun _ => rfl
  case fmapiGetDcRegionExtList =>
    obtain rfl := Option.some.inj hl
    simp only [Command.spec, fmapiGetDcRegionExtList, getLe_eq]
    exact copied_records _ _ _ _ _ _ _ fun _ => rfl
  case fmapiDcListTags =>
    obtain rfl := Option.some.inj hl
    simp only [Command.spec, fmapiDcListTags, getLe_eq]
    exact copied_records _ _ _ _ _ _ _ fun _ => rfl
  case getSupportedFeatures | fmapiGetPhysPortState | fmapiGetLdAllocations | fmapiSetLdAllocations =>
    obtain rfl := Option.some.inj hl
    exact copied_records _ _ _ _ _ _ _ fun _ => rfl
  case memdevGetDcConfig | fmapiGetDcRegConfig =>
    obtain rfl := Option.some.inj hl
    exact copied_regions _ _ _ _ o _ _ fun _ _ => rfl
  case fmapiGetQosAllocatedBw | fmapiSetQosAllocatedBw | fmapiGetQosBwLimit | fmapiSetQosBwLimit =>
    obtain rfl := Option.some.inj hl
    exact copied_copyOut _ _ _ _ _ _ _ (Nat.mul_one _).symm (hbyte 0) fun _ h => h
  case fmapiGetMultiheadedInfo =>
    obtain rfl := Option.some.inj hl
    exact copied_copyOut _ _ _ _ _ _ _ (Nat.mul_one _).symm (hbyte 5) fun _ h => h
  case fmapiGetHeadInfo =>
    obtain rfl := Option.some.inj hl
    refine copied_copyOut _ _ _ _ _ _ _ rfl (hbyte 0) fun b h => ?_
    show b.length / 9 = _
    omega
  case fmapiSendLdCxlioMemRequest =>
    obtain rfl := Option.some.inj hl
    simp only [Command.spec, fmapiSendLdCxlioMemRequest, request, getLe_eq]
    exact copied_copyOut _ _ _ _ _ _ _ (Nat.mul_one _).symm (leVal_lt_two _ 0) fun _ h => h
  case getFeature i =>
    obtain rfl := Option.some.inj hl
    have hcopy := copied_copyOut (payload rsp) 0 1 i.count.val List.length i.count.val id (Nat.mul_one _).symm
      (i.count.isLt.trans (by decide)) fun _ h => h
    rw [Option.map_id] at hcopy
    exact hcopy
  all_goals cases hl

/-! ### AcceptedReply replies -/

/-- `send_cmd_cci` has come back with 0, and `d` is the payload that reached the host. -/
def AcceptedReply (c : Command α) (o : ByteOrder) (env : Env) (ep : Endpoint) (ti : Option TunnelInfo) (d : Bytes) :
    Prop :=
  (∃ pl s, c.spec.Sends o env ep ti pl s ∧ s.rc = 0) ∧ d = returned env ep ti c.spec.set c.spec.cmd (c.spec.rspSz o)

/-- The call returns 0 and has filled the caller's structure with `v`. -/
def Hands (c : Command α) (o : ByteOrder) (env : Env) (ep : Endpoint) (ti : Option TunnelInfo) (v : α) : Prop :=
  ∃ r, c.spec.run o env ep ti = some r ∧ r.rc = 0 ∧ r.value = some v

section Replies
variable (c : Command α) (o : ByteOrder) (env : Env) (ep : Endpoint) (ti : Option TunnelInfo) (d : Bytes)

theorem accepted_hands (h : AcceptedReply c o env ep ti d) : ∃ rsp, Leaves rsp d (c.spec.rspSz o) ∧
    ∀ v, Hands c o env ep ti v ↔ c.spec.decode o rsp = some v := by
  obtain ⟨⟨pl, s, hsends, h0⟩, rfl⟩ := h
  refine ⟨s.rsp, (c.spec.sends_leaves o env ep ti pl s hsends h0).1, fun v => ?_⟩
  rw [Hands, c.spec.run_of_accepted o env ep ti pl s hsends h0]
  constructor
  · rintro ⟨r, hr, -, hv⟩
    obtain ⟨w, hw, rfl⟩ := Option.map_eq_some_iff.mp hr
    rw [hw]
    exact hv
  · intro hv
    exact ⟨⟨0, some v, s.sent, s.st⟩, by rw [hv, Option.map_some], rfl, rfl⟩

theorem byteAt_leaves (rsp : Bytes) (n i : ℕ) (h : Leaves rsp d n) : byteAt (payload rsp) i = byteAt d i := by
  have hone := slice_fillBuf (n - 12) d i 1
  rw [← h.payload] at hone
  exact (List.cons.inj hone).1

theorem slice_leaves (rsp : Bytes) (n i k : ℕ) (h : Leaves rsp d n) : slice (payload rsp) i k = slice d i k := by
  rw [h.payload, slice_fillBuf]

/- The counts are read from the returned bytes, or from the zeros behind them. -/
theorem listing_leaves (rsp : Bytes) (n : ℕ) (h : Leaves rsp d n) : listing o c (payload rsp) = listing o c d := by
  have hslice := fun i k => slice_leaves d rsp n i k h
  have hbyte := fun i => byteAt_leaves d rsp n i h
  cases c
  all_goals simp only [listing, numSupportedFeatureEntries, hslice, hbyte]

/-- The caller is given a list exactly if all of it is inside the response buffer. -/
theorem hands_iff (h : AcceptedReply c o env ep ti d) (l : Listing) (hl : listing o c d = some l) :
    ((∃ v, Hands c o env ep ti v) ↔ l.extent ≤ c.spec.rspSz o - 12 ∧ l.count < 2 ^ 31) ∧
      ∀ v, Hands c o env ep ti v → elements c v = l.count := by
  obtain ⟨rsp, hleaves, hhands⟩ := accepted_hands c o env ep ti d h
  have hcopied := decode_copied c o rsp l ((listing_leaves c o d rsp _ hleaves).trans hl)
  rw [hleaves.payload, fillBuf_length _ d hleaves.fits] at hcopied
  simp only [hhands]
  exact hcopied

end Replies

end LibCxlmi.Contract
