import LibCxlmi.Contract.Decoders

/-!
# Decoding loses nothing

What the decoders make of the response buffer, carried over to the payload that
the device returned, and from there to whole runs of the commands.
-/

namespace LibCxlmi.Contract
open LibCxlmi.Word LibCxlmi.Cci LibCxlmi.Transport LibCxlmi.Commands Member

variable {α : Type}

/- The counts, and the flags of the regions they count, are in the returned bytes
and not in the zeros behind them. -/
theorem decodes_leaves (c : Command α) (o : ByteOrder) (rsp d : Bytes) (n : ℕ) (hl : Leaves rsp d (c.spec.rspSz o))
    (hw : wireSize c d = some n) (hn : n ≤ d.length) :
    Decodes c o rsp n ∧ (Carried o c (payload rsp) ↔ Carried o c d) := by
  have hp := hl.payload
  have hlen : d.length ≤ (payload rsp).length := by
    rw [hp, fillBuf, List.length_append]
    omega
  have hs : ∀ i w, i + w ≤ d.length → slice (payload rsp) i w = slice d i w := by
    intro i w hi
    rw [hp, slice_fillBuf _ d i w]
  have hb : ∀ i, i < d.length → byteAt (payload rsp) i = byteAt d i := by
    intro i hi
    rw [hp, byteAt_fillBuf _ d i hi]
  cases c
  case memdevIdentify =>
    obtain rfl := Option.some.inj hw
    exact ⟨decodes_identify o rsp, Iff.rfl⟩
  case getEventRecords l =>
    obtain rfl := Option.some.inj hw
    have hcnt := hs 20 2 (by omega)
    have hd := decodes_eventRecords o rsp l (by rw [hcnt]; omega)
    rw [hcnt] at hd
    exact ⟨hd, Iff.rfl⟩
  case getSupportedFeatures count s =>
    obtain rfl := Option.some.inj hw
    have hcnt := hs 0 2 (by omega)
    have hd := decodes_supportedFeatures o rsp count s (by rw [hcnt]; omega)
    rw [hcnt] at hd
    refine ⟨hd, ?_⟩
    simp only [Carried, hcnt]
  case getPoisonList a l =>
    obtain rfl := Option.some.inj hw
    have hcnt := hs 10 2 (by omega)
    have hfits : d.length ≤ 2048 := hl.fits
    have hpl : plLength rsp = d.length := hl.plLength.trans (Nat.mod_eq_of_lt (by omega))
    have hclamp := clampCount_of_le rsp (leVal (slice d 10 2)) (by omega) (by omega)
    have hd := decodes_poisonList o rsp a l (by rw [hcnt]; omega) (by rw [hcnt, hclamp])
    rw [hcnt] at hd
    exact ⟨hd, Iff.rfl⟩
  case memdevGetScanMediaResults =>
    obtain rfl := Option.some.inj hw
    have hcnt := hs 18 2 (by omega)
    have hfits : d.length ≤ 2048 := hl.fits
    have hpl : plLength rsp = d.length := hl.plLength.trans (Nat.mod_eq_of_lt (by omega))
    have hclamp := clampCount_of_le rsp (leVal (slice d 18 2)) (by omega) (by omega)
    have hd := decodes_scanMediaResults o rsp (by rw [hcnt]; omega) (by rw [hcnt, hclamp])
    rw [hcnt] at hd
    exact ⟨hd, Iff.rfl⟩
  case memdevGetDcConfig r s =>
    obtain rfl := Option.some.inj hw
    have hcnt := hb 1 (by omega)
    have hd := decodes_dcConfig o rsp r s (by rw [hcnt]; omega)
    rw [hcnt] at hd
    refine ⟨hd, ?_⟩
    simp only [Carried, hcnt]
    refine forall₂_congr fun k hk => ?_
    rw [hb _ (by omega)]
  case fmapiGetDcRegConfig i r s =>
    obtain rfl := Option.some.inj hw
    have hcnt := hb 3 (by omega)
    have hd := decodes_dcRegConfig o rsp i r s (by rw [hcnt]; omega)
    rw [hcnt] at hd
    exact ⟨hd, Iff.rfl⟩
  case memdevGetDcExtentList e s =>
    obtain rfl := Option.some.inj hw
    have hcnt := hs 0 4 (by omega)
    have hfits : d.length ≤ 16 + 8 * 40 := hl.fits
    have hd := decodes_dcExtentList o rsp e s (by rw [hcnt]; omega) (by rw [hcnt]; omega)
    rw [hcnt] at hd
    exact ⟨hd, Iff.rfl⟩
  case fmapiGetDcRegionExtList i =>
    obtain rfl := Option.some.inj hw
    have hcnt := hs 8 4 (by omega)
    have hd := decodes_dcRegionExtList o rsp i (by rw [hcnt]; omega)
    rw [hcnt] at hd
    refine ⟨hd, ?_⟩
    simp only [Carried, hcnt]
  case fmapiDcListTags s t =>
    obtain rfl := Option.some.inj hw
    have hcnt := hs 8 4 (by omega)
    have hd := decodes_dcListTags o rsp s t (by rw [hcnt]; omega)
    rw [hcnt] at hd
    refine ⟨hd, ?_⟩
    simp only [Carried, hcnt]
  case fmapiGetLdAllocations s l =>
    obtain rfl := Option.some.inj hw
    have hcnt := hb 3 (by omega)
    have hd := decodes_ldAllocations o rsp s l (by rw [hcnt]; omega)
    rw [hcnt] at hd
    exact ⟨hd, Iff.rfl⟩
  case fmapiGetPhysPortState i =>
    obtain rfl := Option.some.inj hw
    have hcnt := hb 0 (by omega)
    have hd := decodes_physPortState o rsp i (by rw [hcnt]; omega)
    rw [hcnt] at hd
    exact ⟨hd, Iff.rfl⟩
  all_goals cases hw

/-- An accepted response whose counts fit the payload is decoded without loss
if and only if it is none of the three kinds above. -/
theorem decoded_lossless_iff (c : Command α) (o : ByteOrder) (env : Env) (ep : Endpoint) (ti : Option TunnelInfo)
    (pl : Bytes) (s : Outcome Endpoint) (hsends : c.spec.Sends o env ep ti pl s) (h0 : s.rc = 0) (n : ℕ)
    (hw : wireSize c (returned env ep ti c.spec.set c.spec.cmd (c.spec.rspSz o)) = some n)
    (hn : n ≤ (returned env ep ti c.spec.set c.spec.cmd (c.spec.rspSz o)).length) :
    (∃ r v, c.spec.run o env ep ti = some r ∧ r.rc = 0 ∧ r.value = some v ∧ extent (members c v) = n ∧
        LaidOut (members c v) (returned env ep ti c.spec.set c.spec.cmd (c.spec.rspSz o)) 0) ↔
      Carried o c (returned env ep ti c.spec.set c.spec.cmd (c.spec.rspSz o)) := by
  have hleaves := (c.spec.sends_leaves o env ep ti pl s hsends h0).1
  have hrun := c.spec.run_of_accepted o env ep ti pl s hsends h0
  generalize returned env ep ti c.spec.set c.spec.cmd (c.spec.rspSz o) = d at hleaves hw hn
  obtain ⟨hdec, hcarried⟩ := decodes_leaves c o s.rsp d n hleaves hw hn
  have hlaid : ∀ ms, extent ms = n → (LaidOut ms (payload s.rsp) 0 ↔ LaidOut ms d 0) := by
    intro ms hms
    rw [hleaves.payload, fillBuf, laidOut_append_bytes ms d _ 0 (by omega)]
  rw [← hcarried, hrun]
  refine Iff.trans ?_ hdec
  constructor
  · rintro ⟨r, v, hr, -, hv, hext, hl⟩
    obtain ⟨w, hw, rfl⟩ := Option.map_eq_some_iff.mp hr
    obtain rfl := Option.some.inj hv
    exact ⟨w, hw, hext, (hlaid _ hext).mpr hl⟩
  · rintro ⟨v, hv, hext, hl⟩
    exact ⟨⟨0, some v, s.sent, s.st⟩, v, by rw [hv, Option.map_some], rfl, rfl, hext, (hlaid _ hext).mp hl⟩

/- A mock with one response of success. -/
def mockWith (set cmd : Byte) (pl : Bytes) : Endpoint := ⟨some (.mock ⟨[⟨set, cmd, 0, pl⟩], 0, 0, 0, 0, []⟩), -1, true⟩

def oneLdAllocation : Bytes := [1, 0, 0, 1] ++ leBytes 8 5 ++ leBytes 8 7

theorem ldAllocations_lossless :
    ∃ r v, (fmapiGetLdAllocations 0 1).run .little takesAll (mockWith 0x54 0x1 oneLdAllocation) none = some r ∧
      r.value = some v ∧ LaidOut v.members oneLdAllocation 0 := by
  obtain ⟨s, hs, h0⟩ : ∃ s, (fmapiGetLdAllocations 0 1).Sends .little takesAll (mockWith 0x54 0x1 oneLdAllocation) none
      [0, 1] s ∧ s.rc = 0 :=
    ⟨_, ⟨rfl, by decide, rfl, by decide, rfl⟩, rfl⟩
  obtain ⟨r, v, hr, -, hv, -, hl⟩ := (decoded_lossless_iff (.fmapiGetLdAllocations 0 1) .little takesAll
    (mockWith 0x54 0x1 oneLdAllocation) none [0, 1] s hs h0 20 rfl (by decide)).mpr trivial
  exact ⟨r, v, hr, hv, hl⟩

/- One region with its flags set. -/
def flaggedRegion : Bytes := [1, 1] ++ zeros 6 ++ zeros 36 ++ [1] ++ zeros 3 ++ zeros 16

/- One feature, the entry of which is all zeros. -/
def oneFeature : Bytes := leBytes 2 1 ++ zeros 6 ++ zeros 48

/- What the caller is given for them. -/
def flaglessRegion : GetDcConfigRsp := ⟨1, 1, [⟨0, 0, 0, 0, 0, 0⟩], ⟨0, 0, 0, 0⟩⟩

theorem region_flags_lost :
    (((memdevGetDcConfig 1 0).run .little takesAll (mockWith 0x48 0x0 flaggedRegion) none).map fun r =>
        (r.rc, r.value)) = some (0, some flaglessRegion) ∧
      returned takesAll (mockWith 0x48 0x0 flaggedRegion) none 0x48 0x0 356 = flaggedRegion ∧
      ¬LaidOut flaglessRegion.members flaggedRegion 0 ∧
    (((getSupportedFeatures 48 0).run .big takesAll (mockWith 0x5 0x0 oneFeature) none).map fun r =>
        (r.rc, r.value)) = some (0, some ⟨0, 0, []⟩) ∧
      returned takesAll (mockWith 0x5 0x0 oneFeature) none 0x5 0x0 68 = oneFeature ∧
      ¬LaidOut (GetSupportedFeaturesRsp.mk 0 0 []).members oneFeature 0 := by
  refine ⟨by decide +kernel, by decide +kernel, fun h => ?_, by decide +kernel, by decide +kernel, fun h => ?_⟩
  · -- the sixth member of the region, behind the three of the header
    have hflags : slice flaggedRegion 44 1 = [0] := h.2.2.2.2.2.2.2.2.1
    exact absurd hflags (by decide)
  · have hcount : leVal (slice oneFeature 0 2) = 0 := h.1
    exact absurd hcount (by decide)

end LibCxlmi.Contract
