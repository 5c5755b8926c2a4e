import LibCxlmi.Contract.Listing
import LibCxlmi.Contract.ReturnedData
import LibCxlmi.Contract.ShortReply
import LibCxlmi.Word.Layout

/-!
# Lists of dynamic capacity (commands.c:2122-2177, 3359-3502, 3641-3747)

The request of Get DC Extent List, Get DC Region Extent List and DC List Tags says
how many entries are wanted and sizes the response; the loops run to the number in
the reply. The two configurations have room for eight regions, and the counters
stand behind as many regions as the reply says.
-/

namespace LibCxlmi.Contract
open LibCxlmi.Word LibCxlmi.Cci LibCxlmi.Transport LibCxlmi.Commands

variable {α : Type}

/-! ### Extents and tags -/

/-- The entries the caller asks for. Zero and more than eight extents stand for eight. -/
def askedFor : Command α → Option ℕ
  | .memdevGetDcExtentList extentCnt _ => some (if extentCnt.val = 0 ∨ 8 < extentCnt.val then 8 else extentCnt.val)
  | .fmapiGetDcRegionExtList i => some i.extentCount.val
  | .fmapiDcListTags _ tagsCount => some tagsCount.val
  | _ => none

/- The size of the response is computed from the converted word, the tags through an
`int`: a negative one is a size no allocation has. -/
def SizedFor (o : ByteOrder) : Command α → Prop
  | .fmapiGetDcRegionExtList i => i.extentCount.val ≤ leWord o i.extentCount
  | .fmapiDcListTags _ tagsCount => tagsCount.val ≤ leWord o tagsCount ∨ 2 ^ 31 ≤ leWord o tagsCount
  | _ => True

theorem sizedFor_little (c : Command α) : SizedFor .little c := by
  cases c
  case fmapiGetDcRegionExtList i => exact Nat.le_of_eq (leWord_little i.extentCount).symm
  case fmapiDcListTags startIdx tagsCount => exact .inl (Nat.le_of_eq (leWord_little tagsCount).symm)
  all_goals trivial

theorem askedFor_sized (c : Command α) (n : ℕ) (hn : askedFor c = some n) (o : ByteOrder) (d : Bytes) (l : Listing)
    (hl : listing o c d = some l) : 12 + l.head + n * l.size ≤ c.spec.rspSz o ↔ SizedFor o c := by
  cases c
  case memdevGetDcExtentList extentCnt start =>
    obtain rfl := Option.some.inj hn
    obtain rfl := Option.some.inj hl
    refine iff_of_true ?_ trivial
    show 12 + 16 + _ * 40 ≤ 12 + (16 + 8 * 40)
    split_ifs with hcnt
    · exact Nat.le_refl _
    · omega
  case fmapiGetDcRegionExtList i =>
    obtain rfl := Option.some.inj hn
    obtain rfl := Option.some.inj hl
    show 12 + 24 + i.extentCount.val * 40 ≤ 12 + 24 + leWord o i.extentCount * 40 ↔ _ ≤ _
    omega
  case fmapiDcListTags startIdx tagsCount =>
    obtain rfl := Option.some.inj hn
    obtain rfl := Option.some.inj hl
    dsimp only [Command.spec, fmapiDcListTags, SizedFor]
    have hcount := tagsCount.isLt
    by_cases hneg : 2 ^ 31 ≤ leWord o tagsCount
    · have hwraps := dcListTags_size_wraps _ hneg (leWord_lt o tagsCount)
      exact iff_of_true (by omega) (.inr hneg)
    · rw [dcListTags_size _ (Nat.lt_of_not_le hneg)]
      omega
  all_goals cases hn

/-- What was asked for is respected exactly if the device respects it, and sends what
it counts. -/
theorem capacity_lists_iff (c : Command α) (n : ℕ) (hn : askedFor c = some n) (o : ByteOrder) (env : Env)
    (ep : Endpoint) (ti : Option TunnelInfo) (d : Bytes) (h : AcceptedReply c o env ep ti d) (l : Listing)
    (hl : listing o c d = some l) :
    (∃ v, Hands c o env ep ti v ∧ elements c v ≤ n ∧ 12 + l.head + n * l.size ≤ c.spec.rspSz o ∧
      (elements c v = 0 ∨ l.head + elements c v * l.size ≤ d.length)) ↔
    SizedFor o c ∧ l.count ≤ n ∧ (l.count = 0 ∨ l.head + l.count * l.size ≤ d.length) ∧ l.count < 2 ^ 31 := by
  obtain ⟨hex, hcount⟩ := hands_iff c o env ep ti d h l hl
  obtain ⟨rsp, hleaves, -⟩ := accepted_hands c o env ep ti d h
  have hfits := hleaves.fits
  have hroom := askedFor_sized c n hn o d l hl
  rw [hroom]
  constructor
  · rintro ⟨v, hv, hle, hsized, hsent⟩
    rw [hcount v hv] at hle hsent
    exact ⟨hsized, hle, hsent, (hex.mp ⟨v, hv⟩).2⟩
  · rintro ⟨hsized, hle, hsent, hsigned⟩
    have htail : l.tail = 0 := by
      cases c
      case memdevGetDcExtentList | fmapiGetDcRegionExtList | fmapiDcListTags => rw [← Option.some.inj hl]
      all_goals cases hn
    -- an empty list has a header still, for which there is room
    have hextent : l.extent ≤ c.spec.rspSz o - 12 := by
      rw [Listing.extent, htail, Nat.add_zero]
      rcases hsent with hnone | hsent
      · have hsz := hroom.mpr hsized
        rw [hnone, Nat.zero_mul]
        omega
      · exact hsent.trans hfits
    obtain ⟨v, hv⟩ := hex.mpr ⟨hextent, hsigned⟩
    rw [← hcount v hv] at hle hsent
    exact ⟨v, hv, hle, hsized, hsent⟩

/- A count, and `n` extents. -/
def extents (count n : ℕ) : Bytes := leBytes 4 count ++ zeros 12 ++ zeros (n * 40)

theorem oneExtent_respected :
    AcceptedReply (.memdevGetDcExtentList 2 0) .little (mailboxAnswers 0 (extents 1 1)) memdevMailbox none
        (extents 1 1) ∧
      ∃ v, Hands (.memdevGetDcExtentList 2 0) .little (mailboxAnswers 0 (extents 1 1)) memdevMailbox none v ∧
        v.extents.length ≤ 2 ∧ 12 + 16 + 2 * 40 ≤ (memdevGetDcExtentList 2 0).rspSz .little ∧
        (v.extents.length = 0 ∨ 16 + v.extents.length * 40 ≤ (extents 1 1).length) := by
  have haccepted : AcceptedReply (.memdevGetDcExtentList 2 0) .little (mailboxAnswers 0 (extents 1 1)) memdevMailbox
      none (extents 1 1) := ⟨⟨_, _, ⟨rfl, by decide, rfl, by decide, rfl⟩, rfl⟩, by decide +kernel⟩
  exact ⟨haccepted, (capacity_lists_iff (.memdevGetDcExtentList 2 0) 2 rfl .little (mailboxAnswers 0 (extents 1 1))
    memdevMailbox none (extents 1 1) haccepted ⟨16, 40, 1, 0⟩ (by decide +kernel)).mpr
      ⟨trivial, by decide, Or.inr (by decide +kernel), by decide⟩⟩

/-- Asked for one extent, a device that sends two has both decoded, one that counts
two and sends none as well; nine are beyond the response. -/
theorem more_extents_decoded :
    (AcceptedReply (.memdevGetDcExtentList 1 0) .little (mailboxAnswers 0 (extents 2 2)) memdevMailbox none
        (extents 2 2) ∧
      ((memdevGetDcExtentList 1 0).run .little (mailboxAnswers 0 (extents 2 2)) memdevMailbox none).map
        (fun r => (r.rc, r.value.map fun v => v.extents.length)) = some (0, some 2)) ∧
    (AcceptedReply (.memdevGetDcExtentList 2 0) .little (mailboxAnswers 0 (extents 2 0)) memdevMailbox none
        (extents 2 0) ∧ (extents 2 0).length = 16 ∧
      ((memdevGetDcExtentList 2 0).run .little (mailboxAnswers 0 (extents 2 0)) memdevMailbox none).map
        (fun r => (r.rc, r.value.map fun v => v.extents.length)) = some (0, some 2)) ∧
    AcceptedReply (.memdevGetDcExtentList 8 0) .little (mailboxAnswers 0 (extents 9 0)) memdevMailbox none
        (extents 9 0) ∧
      ((memdevGetDcExtentList 8 0).run .little (mailboxAnswers 0 (extents 9 0)) memdevMailbox none).isNone = true := by
  refine ⟨⟨?_, by decide +kernel⟩, ⟨?_, by decide +kernel, by decide +kernel⟩, ?_, by decide +kernel⟩
  · exact ⟨⟨_, _, ⟨rfl, by decide, rfl, by decide, rfl⟩, rfl⟩, by decide +kernel⟩
  · exact ⟨⟨_, _, ⟨rfl, by decide, rfl, by decide, rfl⟩, rfl⟩, by decide +kernel⟩
  · exact ⟨⟨_, _, ⟨rfl, by decide, rfl, by decide, rfl⟩, rfl⟩, by decide +kernel⟩

/-! ### Regions and counters -/

/-- The counters of a configuration in the caller's structure. -/
def counters : Command α → α → Option DcCounters
  | .memdevGetDcConfig _ _, v => some v.counters
  | .fmapiGetDcRegConfig _ _ _, v => some v.counters
  | _, _ => none

def IsDcConfig : Command α → Prop
  | .memdevGetDcConfig _ _ | .fmapiGetDcRegConfig _ _ _ => True
  | _ => False

/-- Four little-endian words at `i`. -/
def countersAt (d : Bytes) (i : ℕ) : DcCounters :=
  ⟨leVal (slice d i 4), leVal (slice d (i + 4) 4), leVal (slice d (i + 8) 4), leVal (slice d (i + 12) 4)⟩

theorem dcCounters_eq (o : ByteOrder) (d : Bytes) (i : ℕ) : dcCounters o (slice d i 16) = countersAt d i := by
  simp only [dcCounters, countersAt, getLe_eq]
  rw [slice_slice d i 16 0 4 (by decide), slice_slice d i 16 4 4 (by decide), slice_slice d i 16 8 4 (by decide),
    slice_slice d i 16 12 4 (by decide), Nat.add_zero]

theorem regionsAndCounters_counters {ρ : Type} (o : ByteOrder) (pl : Bytes) (off n : ℕ) (f : Bytes → ρ)
    (rs : List ρ) (cs : DcCounters) (h : regionsAndCounters o pl off n f = some (rs, cs)) :
    cs = countersAt pl (off + n * 40) := by
  obtain ⟨rs', -, hcopy⟩ := Option.bind_eq_some_iff.mp h
  obtain ⟨r, hr, hpair⟩ := Option.map_eq_some_iff.mp hcopy
  unfold copyOut at hr
  split_ifs at hr
  obtain rfl := Option.some.inj hr
  rw [← (Prod.mk.inj hpair).2, dcCounters_eq]

theorem config_counters (c : Command α) (hc : IsDcConfig c) (o : ByteOrder) (d rsp : Bytes) (k : ℕ)
    (hleaves : Leaves rsp d k) (l : Listing) (hl : listing o c d = some l) (v : α)
    (hv : c.spec.decode o rsp = some v) : counters c v = some (countersAt d (l.head + l.count * l.size)) := by
  have hslice := fun i n => slice_leaves d rsp k i n hleaves
  have hbyte := fun i => byteAt_leaves d rsp k i hleaves
  cases c
  case memdevGetDcConfig | fmapiGetDcRegConfig =>
    obtain rfl := Option.some.inj hl
    obtain ⟨⟨rs, cs⟩, hregs, rfl⟩ := Option.map_eq_some_iff.mp hv
    have hcs := regionsAndCounters_counters _ _ _ _ _ _ _ hregs
    simp only [countersAt, hslice, hbyte] at hcs
    exact congrArg some hcs
  all_goals exact False.elim hc

/-- There are at most eight regions, with the counters right behind them, exactly if the
reply goes as far as the number in it says. -/
theorem dc_config_iff (c : Command α) (hc : IsDcConfig c) (o : ByteOrder) (env : Env) (ep : Endpoint)
    (ti : Option TunnelInfo) (d : Bytes) (h : AcceptedReply c o env ep ti d) (l : Listing)
    (hl : listing o c d = some l) :
    (∃ v, Hands c o env ep ti v ∧ elements c v ≤ 8 ∧
      counters c v = some (countersAt d (l.head + elements c v * 40)) ∧ l.head + elements c v * 40 + 16 ≤ d.length) ↔
    l.head + l.count * 40 + 16 ≤ d.length := by
  obtain ⟨hex, hcount⟩ := hands_iff c o env ep ti d h l hl
  obtain ⟨rsp, hleaves, hdecode⟩ := accepted_hands c o env ep ti d h
  -- both responses end behind eight regions and the counters
  have hshape : l.size = 40 ∧ l.tail = 16 ∧ c.spec.rspSz o - 12 = l.head + 8 * 40 + 16 := by
    cases c
    case memdevGetDcConfig | fmapiGetDcRegConfig =>
      rw [← Option.some.inj hl]
      exact ⟨rfl, rfl, rfl⟩
    all_goals exact False.elim hc
  obtain ⟨hsize, htail, hroom⟩ := hshape
  have hfits := hleaves.fits
  rw [Listing.extent, hsize, htail, hroom] at hex
  constructor
  · rintro ⟨v, hv, -, -, hsent⟩
    rwa [hcount v hv] at hsent
  · intro hsent
    have height : l.count ≤ 8 := by omega
    obtain ⟨v, hv⟩ := hex.mpr ⟨by omega, height.trans_lt (by decide)⟩
    have hcs := config_counters c hc o d rsp _ hleaves l hl v ((hdecode v).mp hv)
    rw [hsize] at hcs
    rw [← hcount v hv] at height hcs hsent
    exact ⟨v, hv, height, hcs, hsent⟩

/- The number of regions, `n` of them and the counters. -/
def dcConfig (count : Byte) (n : ℕ) : Bytes :=
  [8, count] ++ zeros 6 ++ zeros (n * 40) ++ [1, 0, 0, 0, 2, 0, 0, 0] ++ zeros 8

theorem oneRegion_counters :
    AcceptedReply (.memdevGetDcConfig 8 0) .little (mailboxAnswers 0 (dcConfig 1 1)) memdevMailbox none
        (dcConfig 1 1) ∧
      ∃ v, Hands (.memdevGetDcConfig 8 0) .little (mailboxAnswers 0 (dcConfig 1 1)) memdevMailbox none v ∧
        v.regionConfigs.length ≤ 8 ∧
        some v.counters = some (countersAt (dcConfig 1 1) (8 + v.regionConfigs.length * 40)) ∧
        8 + v.regionConfigs.length * 40 + 16 ≤ (dcConfig 1 1).length := by
  have haccepted : AcceptedReply (.memdevGetDcConfig 8 0) .little (mailboxAnswers 0 (dcConfig 1 1)) memdevMailbox
      none (dcConfig 1 1) := ⟨⟨_, _, ⟨rfl, by decide, rfl, by decide, rfl⟩, rfl⟩, by decide +kernel⟩
  exact ⟨haccepted, (dc_config_iff (.memdevGetDcConfig 8 0) trivial .little (mailboxAnswers 0 (dcConfig 1 1))
    memdevMailbox none (dcConfig 1 1) haccepted ⟨8, 40, 1, 16⟩ (by decide +kernel)).mpr (by decide +kernel)⟩

/-- With 255 regions the loop leaves the response; two regions that were not sent have
the counters read behind the payload. -/
theorem counters_outside_payload :
    (AcceptedReply (.memdevGetDcConfig 8 0) .little (mailboxAnswers 0 (dcConfig 255 0)) memdevMailbox none
        (dcConfig 255 0) ∧
      ((memdevGetDcConfig 8 0).run .little (mailboxAnswers 0 (dcConfig 255 0)) memdevMailbox none).isNone = true) ∧
    AcceptedReply (.memdevGetDcConfig 8 0) .little (mailboxAnswers 0 (dcConfig 2 0)) memdevMailbox none
        (dcConfig 2 0) ∧ (dcConfig 2 0).length = 24 ∧
      ((memdevGetDcConfig 8 0).run .little (mailboxAnswers 0 (dcConfig 2 0)) memdevMailbox none).map
        (fun r => (r.rc, r.value.map fun v => (v.regionConfigs.length, v.counters))) =
          some (0, some (2, ⟨0, 0, 0, 0⟩)) := by
  refine ⟨⟨?_, by decide +kernel⟩, ?_, by decide +kernel, by decide +kernel⟩
  · exact ⟨⟨_, _, ⟨rfl, by decide, rfl, by decide, rfl⟩, rfl⟩, by decide +kernel⟩
  · exact ⟨⟨_, _, ⟨rfl, by decide, rfl, by decide, rfl⟩, rfl⟩, by decide +kernel⟩

end LibCxlmi.Contract
