import LibCxlmi.Commands.Table

/-!
# Commands that do not depend on the byte order of the host

Almost all commands convert every word of their payloads, and then the same
arguments give the same request and the same response the same result on any
host (`Neutral`). Four do not. Get Supported Features reads its 16-bit count
with a 32-bit conversion. The other three test or multiply a count after they
have converted it, so that the request of Get DC Extent List and the response
sizes of Get DC Region Extent Lists and List Tags depend on the host for some
counts.
-/

namespace LibCxlmi.Commands
open LibCxlmi.Word LibCxlmi.Cci

variable {α : Type}

/-- A response is only looked at through its payload and payload length. -/
structure Neutral (c : CciCommand α) : Prop where
  payload : c.payload .little = c.payload .big
  rspSz : c.rspSz .little = c.rspSz .big
  rspMin : c.rspMin .little = c.rspMin .big
  decode : ∀ a b, Cci.payload a = Cci.payload b → plLength a = plLength b →
    c.decode .little a = c.decode .big b

theorem order_neutral (set cmd : Byte) : Neutral (order set cmd) :=
  ⟨rfl, rfl, rfl, fun _ _ _ _ => rfl⟩

theorem query_neutral (set cmd : Byte) (sz : ℕ) (f : ByteOrder → Bytes → α) (h : f .little = f .big) :
    Neutral (query set cmd sz f) := by
  refine ⟨rfl, rfl, rfl, fun a b hp _ => ?_⟩
  show some (f .little (payload a)) = some (f .big (payload b))
  rw [h, hp]

theorem instruct_neutral (set cmd : Byte) (sz : ℕ) (pl : ByteOrder → Bytes) (hl : ∀ o, (pl o).length = sz)
    (h : pl .little = pl .big) : Neutral (instruct set cmd sz pl hl) :=
  ⟨congrArg some h, rfl, rfl, fun _ _ _ _ => rfl⟩

theorem request_neutral (set cmd : Byte) (reqSz : ℕ) (pl : ByteOrder → Bytes) (hl : ∀ o, (pl o).length = reqSz)
    (min sz : ℕ) (f : ByteOrder → Bytes → Option α) (h : pl .little = pl .big) (hf : f .little = f .big) :
    Neutral (request set cmd reqSz pl hl min sz f) := by
  refine ⟨congrArg some h, rfl, rfl, fun a b hp _ => ?_⟩
  show f .little (payload a) = f .big (payload b)
  rw [hf, hp]

/-! ### Records -/

theorem eventRecord_big : eventRecord .big = eventRecord .little := by
  funext r
  simp only [eventRecord, getLe_big]

theorem supportedLogEntry_big : supportedLogEntry .big = supportedLogEntry .little := by
  funext r
  simp only [supportedLogEntry, getLe_big]

theorem mediaErrRecord_big : mediaErrRecord .big = mediaErrRecord .little := by
  funext r
  simp only [mediaErrRecord, getLe_big]

theorem dpaRange_big : dpaRange .big = dpaRange .little := by
  funext r
  simp only [dpaRange, putLe_big]

theorem portState_big : portState .big = portState .little := by
  funext r
  simp only [portState, getLe_big]

theorem ldAllocation_big : ldAllocation .big = ldAllocation .little := by
  funext r
  simp only [ldAllocation, getLe_big]

theorem ldAllocationReq_big : ldAllocationReq .big = ldAllocationReq .little := by
  funext a
  simp only [ldAllocationReq, putLe_big]

theorem qosControlRsp_big : qosControlRsp .big = qosControlRsp .little := by
  funext r
  simp only [qosControlRsp, getLe_big]

theorem dcExtent_big : dcExtent .big = dcExtent .little := by
  funext r
  simp only [dcExtent, getLe_big]

theorem updatedExtent_big : updatedExtent .big = updatedExtent .little := by
  funext e
  simp only [updatedExtent, putLe_big]

theorem requestedExtent_big : requestedExtent .big = requestedExtent .little := by
  funext e
  simp only [requestedExtent, putLe_big]

theorem dcRegion_big : dcRegion .big = dcRegion .little := by
  funext r
  simp only [dcRegion, getLe_big]

theorem hostDcRegion_big : hostDcRegion .big = hostDcRegion .little := by
  funext r
  simp only [hostDcRegion, getLe_big]

theorem regionsAndCounters_big {ρ : Type} (pl : Bytes) (off n : ℕ) (f : Bytes → ρ) :
    regionsAndCounters .big pl off n f = regionsAndCounters .little pl off n f := by
  simp only [regionsAndCounters, dcCounters, getLe_big]

theorem recordsInRsp_congr (a b : Bytes) (hdr sz : ℕ) (h : plLength a = plLength b) :
    recordsInRsp a hdr sz = recordsInRsp b hdr sz := by
  simp only [recordsInRsp, h]

theorem clampCount_congr (count : ℕ) (a b : Bytes) (hdr sz cap : ℕ) (h : plLength a = plLength b) :
    clampCount count a hdr sz cap = clampCount count b hdr sz cap := by
  simp only [clampCount, recordsInRsp_congr a b hdr sz h]

/-! ### The commands -/

/-- The count of Get DC Extent List is clamped alike on both hosts, or it is
the bound itself. -/
def SameClamp (extentCnt : U 32) : Prop :=
  ¬(1 ≤ extentCnt.val ∧ extentCnt.val ≤ 7) ∧
    ¬(extentCnt.val % 2 ^ 24 = 0 ∧ 1 ≤ extentCnt.val / 2 ^ 24 ∧ extentCnt.val / 2 ^ 24 ≤ 8)

/-- A count that its byte swap leaves alone. -/
def SwapsToItself (n : U 32) : Prop := swapWord 4 n = n

/-- The response buffer has the same size on both hosts. -/
def SameSizes : Command α → Prop
  | .fmapiGetDcRegionExtList i => SwapsToItself i.extentCount
  | .fmapiDcListTags _ tagsCount => SwapsToItself tagsCount
  | _ => True

/-- Commands, with their arguments, that do not depend on the byte order. -/
def Plain : Command α → Prop
  | .getSupportedFeatures _ _ => False
  | .memdevGetDcExtentList extentCnt _ => SameClamp extentCnt
  | .fmapiGetDcRegionExtList i => SwapsToItself i.extentCount
  | .fmapiDcListTags _ tagsCount => SwapsToItself tagsCount
  | _ => True

theorem updatedExtentList_neutral (cmd : Byte) (i : UpdatedExtentListReq) : Neutral (updatedExtentList cmd i) := by
  refine ⟨?_, rfl, rfl, fun _ _ _ _ => rfl⟩
  simp only [updatedExtentList, putLe_big, updatedExtent_big]

theorem initiateDc_neutral (cmd b2 b3 : Byte) (i : InitiateDcReq) : Neutral (initiateDc cmd b2 b3 i) := by
  refine ⟨?_, rfl, rfl, fun _ _ _ _ => rfl⟩
  simp only [initiateDc, putLe_big, requestedExtent_big]

theorem leWord_little (n : U 32) : leWord .little n = n := cpuToLe_little 4 n n.isLt

/-- A 32-bit word and its swap, byte by byte. -/
theorem swapWord_bytes (v : ℕ) (hv : v < 2 ^ 32) :
    ∃ b₀ b₁ b₂ b₃, b₀ < 256 ∧ b₁ < 256 ∧ b₂ < 256 ∧ b₃ < 256 ∧
      v = b₀ + 2 ^ 8 * b₁ + 2 ^ 16 * b₂ + 2 ^ 24 * b₃ ∧
      swapWord 4 v = b₃ + 2 ^ 8 * b₂ + 2 ^ 16 * b₁ + 2 ^ 24 * b₀ := by
  have hswap : swapWord 4 v = v / 256 / 256 / 256 % 256 + 256 * (v / 256 / 256 % 256 + 256 * (v / 256 % 256 +
      256 * (v % 256 + 256 * 0))) := rfl
  refine ⟨v % 256, v / 256 % 256, v / 256 / 256 % 256, v / 256 / 256 / 256 % 256, by omega, by omega, by omega,
    by omega, by omega, ?_⟩
  rw [hswap]
  ring

theorem storeWord_extentCntWord (o : ByteOrder) (n : U 32) :
    storeWord o 4 (extentCntWord o n) =
      leBytes 4 (if leWord o n = 0 ∨ 8 < leWord o n then 8 else n) := by
  unfold extentCntWord
  split_ifs
  · exact storeWord_cpuToLe o 4 8
  · exact storeWord_cpuToLe o 4 n

theorem sameClamp_iff (n : U 32) :
    storeWord .little 4 (extentCntWord .little n) = storeWord .big 4 (extentCntWord .big n) ↔ SameClamp n := by
  have hn := n.isLt
  have hbig : leWord .big n = swapWord 4 n := rfl
  obtain ⟨b₀, b₁, b₂, b₃, h₀, h₁, h₂, h₃, hv, hs⟩ := swapWord_bytes n hn
  rw [storeWord_extentCntWord, storeWord_extentCntWord, leWord_little, hbig, hs, SameClamp]
  -- a swapped word of at most 8 is all in the highest byte
  have hsmall : b₃ + 2 ^ 8 * b₂ + 2 ^ 16 * b₁ + 2 ^ 24 * b₀ ≤ 8 → b₀ = 0 ∧ b₁ = 0 ∧ b₂ = 0 := by
    intro h
    exact ⟨by omega, by omega, by omega⟩
  constructor
  · intro h
    have hval := congrArg leVal h
    rw [leVal_leBytes_of_lt 4 _ (by split_ifs <;> omega), leVal_leBytes_of_lt 4 _ (by split_ifs <;> omega)] at hval
    split_ifs at hval <;> omega
  · rintro ⟨hlow, hhigh⟩
    congr 1
    by_cases hle : b₃ + 2 ^ 8 * b₂ + 2 ^ 16 * b₁ + 2 ^ 24 * b₀ ≤ 8
    · obtain ⟨rfl, rfl, rfl⟩ := hsmall hle
      split_ifs <;> omega
    · rw [if_pos (Or.inr (not_le.mp hle))]
      split_ifs <;> omega

theorem getDcExtentList_neutral (extentCnt startExtentIdx : U 32) (h : SameClamp extentCnt) :
    Neutral (memdevGetDcExtentList extentCnt startExtentIdx) := by
  apply request_neutral
  · simp only [(sameClamp_iff extentCnt).mpr h, putLe_big]
  · simp only [getLe_big, dcExtent_big]

theorem leWord_big (n : U 32) (h : SwapsToItself n) : leWord .big n = leWord .little n := by
  rw [leWord_little]
  exact h

theorem getDcRegionExtList_neutral (i : GetDcRegionExtListReq) (h : SwapsToItself i.extentCount) :
    Neutral (fmapiGetDcRegionExtList i) := by
  refine ⟨?_, ?_, rfl, fun a b hp _ => ?_⟩
  · simp only [fmapiGetDcRegionExtList, instruct, putLe_big]
  · simp only [fmapiGetDcRegionExtList, leWord_big _ h]
  · simp only [fmapiGetDcRegionExtList, hp, getLe_big, dcExtent_big]

theorem dcListTags_neutral (startIdx tagsCount : U 32) (h : SwapsToItself tagsCount) :
    Neutral (fmapiDcListTags startIdx tagsCount) := by
  refine ⟨?_, ?_, rfl, fun a b hp _ => ?_⟩
  · simp only [fmapiDcListTags, instruct, putLe_big]
  · simp only [fmapiDcListTags, leWord_big _ h]
  · simp only [fmapiDcListTags, hp, getLe_big]

theorem plain_neutral (c : Command α) (h : Plain c) : Neutral c.spec := by
  cases c
  all_goals simp only [Command.spec]
  case getSupportedFeatures => exact False.elim h
  case memdevGetDcExtentList extentCnt startExtentIdx => exact getDcExtentList_neutral extentCnt startExtentIdx h
  case fmapiGetDcRegionExtList i => exact getDcRegionExtList_neutral i h
  case fmapiDcListTags startIdx tagsCount => exact dcListTags_neutral startIdx tagsCount h
  -- no words in the payloads
  case requestBgOpAbort | memdevSanitize | memdevSecureErase | memdevFreezeSecurityState => apply order_neutral
  case getResponseMsgLimit | getEventInterruptPolicy | getFwInfo | memdevGetShutdownState |
      memdevGetSldQosControl | memdevGetSldQosStatus | fmapiGetDomainValidationSvState | fmapiGetQosStatus =>
    apply query_neutral
    rfl
  case setEventInterruptPolicy | activateFw | clearLog | populateLog | performMaintenance |
      memdevSetShutdownState | memdevSetPassphrase | memdevUnlock | memdevSetSldQosControl |
      fmapiPhysPortControl | fmapiSetDomainValidationSv | fmapiUnbindVppb =>
    apply instruct_neutral
    rfl
  case setResponseMsgLimit | fmapiGetVcsDomainValidationSvState | fmapiGetDomainValidationSv |
      fmapiGetVcsInfo | fmapiGetMultiheadedInfo | fmapiGetHeadInfo =>
    apply request_neutral
    · rfl
    · rfl
  case memdevDisablePassphrase | memdevPassphraseSecureErase | fmapiDcAddReference | fmapiDcRemoveReference =>
    exact ⟨rfl, rfl, rfl, fun _ _ _ _ => rfl⟩
  case fmapiGetQosAllocatedBw | fmapiSetQosAllocatedBw | fmapiGetQosBwLimit | fmapiSetQosBwLimit =>
    exact ⟨rfl, rfl, rfl, fun a b hp _ => congrArg qosFractions hp⟩
  case vendorSpecific i =>
    refine ⟨rfl, rfl, rfl, fun a b hp _ => ?_⟩
    simp only [vendorSpecific, hp]
  -- words in the response only
  case identify | bgOpStatus | getMctpEventInterruptPolicy | getTimestamp | memdevIdentify |
      memdevGetPartitionInfo | memdevGetHealthInfo | memdevGetAlertConfig | memdevGetSecurityState |
      fmapiIdentifySwDevice | fmapiGetLdInfo | fmapiGetDcdInfo =>
    apply query_neutral
    simp only [getLe_big]
  case fmapiGetQosControl => exact query_neutral _ _ _ _ qosControlRsp_big.symm
  case getLogCapabilities | getEventRecords | getSupportedLogsSublist | fmapiGetPhysPortState |
      fmapiGetLdAllocations | memdevGetDcConfig =>
    apply request_neutral
    · rfl
    · simp only [getLe_big, eventRecord_big, supportedLogEntry_big, portState_big, ldAllocation_big,
        dcRegion_big, regionsAndCounters_big]
  case getSupportedLogs =>
    refine ⟨rfl, rfl, rfl, fun a b hp _ => ?_⟩
    simp only [getSupportedLogs, hp, getLe_big, supportedLogEntry_big]
  case memdevGetScanMediaResults =>
    refine ⟨rfl, rfl, rfl, fun a b hp hn => ?_⟩
    simp only [memdevGetScanMediaResults, hp, getLe_big, mediaErrRecord_big, clampCount_congr _ a b _ _ _ hn]
  -- words in the request only
  case clearEventRecords | setMctpEventInterruptPolicy | eventNotification | transferFw | setTimestamp |
      memdevSetPartitionInfo | memdevSetLsa | memdevSetAlertConfig | memdevInjectPoison | memdevClearPoison |
      memdevScanMedia | memdevSecuritySend | fmapiBindVppb | fmapiSetDcRegionConfig =>
    apply instruct_neutral
    simp only [putLe_big]
  case getLog | memdevGetLsa | getFeature =>
    apply request_neutral
    · simp only [getLogPayload, putLe_big]
    · rfl
  case setFeature i =>
    refine ⟨?_, rfl, rfl, fun _ _ _ _ => rfl⟩
    simp only [setFeature, instruct, putLe_big]
  case memdevMediaOperationsSanitize i =>
    refine ⟨?_, rfl, rfl, fun _ _ _ _ => rfl⟩
    simp only [memdevMediaOperationsSanitize, instruct, putLe_big, dpaRange_big]
  case memdevSecurityReceive securityProtocol spSpecific =>
    refine ⟨?_, rfl, rfl, fun a b hp _ => congrArg (copyOut · 0 (protoSize securityProtocol)) hp⟩
    simp only [memdevSecurityReceive, request, putLe_big]
  case memdevAddDcResponse i => exact updatedExtentList_neutral _ i
  case memdevReleaseDc i => exact updatedExtentList_neutral _ i
  case fmapiInitiateDcAdd a b i => exact initiateDc_neutral _ a b i
  case fmapiInitiateDcRelease a i => exact initiateDc_neutral _ a _ i
  -- words in both
  case getLogCel | memdevGetScanMediaCapabilities | fmapiSendPpbCxlioConfigRequest |
      fmapiSendLdCxlioConfigRequest | fmapiSetQosControl | fmapiSetLdAllocations | fmapiGetDcRegConfig =>
    apply request_neutral
    · simp only [getLogPayload, putLe_big, ldAllocationReq_big]
    · simp only [getLe_big, qosControlRsp_big, ldAllocation_big, hostDcRegion_big, regionsAndCounters_big]
  case fmapiSendLdCxlioMemRequest i =>
    simp only [fmapiSendLdCxlioMemRequest]
    apply request_neutral
    · simp only [putLe_big]
    · simp only [getLe_big]
  case getPoisonList phyAddr phyAddrLen =>
    refine ⟨?_, rfl, rfl, fun a b hp hn => ?_⟩
    · simp only [getPoisonList, instruct, putLe_big]
    · simp only [getPoisonList, hp, getLe_big, mediaErrRecord_big, clampCount_congr _ a b _ _ _ hn]
  case memdevMediaOperationsDiscovery i =>
    refine ⟨?_, rfl, rfl, fun a b hp hn => ?_⟩
    · simp only [memdevMediaOperationsDiscovery, instruct, putLe_big]
    · simp only [memdevMediaOperationsDiscovery, hp, getLe_big, clampCount_congr _ a b _ _ _ hn]

end LibCxlmi.Commands
