import LibCxlmi.Commands.Parse

/-!
# Requests read back

What the library writes for a request with a list or data is read back as that
request by the parsers of `Commands.Parse`, and the header has the size of the
payload.
-/

namespace LibCxlmi.Contract
open LibCxlmi.Word LibCxlmi.Cci LibCxlmi.Transport LibCxlmi.Commands Parser

variable {α : Type}

/-- The size of the encoded payload. -/
def encodedSize : Command α → Option ℕ
  | .clearEventRecords i => some (6 + i.handles.length * 2)
  | .transferFw i => some (128 + i.data.length)
  | .setFeature i => some (32 + i.featureData.length)
  | .memdevSetLsa _ data => some (8 + data.length)
  | .memdevMediaOperationsSanitize i => some (8 + i.dpaRangeList.length * 16)
  | .memdevAddDcResponse i => some (8 + i.extents.length * 24)
  | .memdevReleaseDc i => some (8 + i.extents.length * 24)
  | .fmapiInitiateDcAdd _ _ i => some (32 + i.extents.length * 40)
  | .fmapiInitiateDcRelease _ i => some (32 + i.extents.length * 40)
  | .fmapiSetLdAllocations i => some (4 + i.ldAllocationList.length * 16)
  | .fmapiSetQosAllocatedBw i => some (2 + i.fractions.length)
  | .fmapiSetQosBwLimit i => some (2 + i.fractions.length)
  | .fmapiGetVcsInfo i => some (3 + i.vcsIdList.length)
  | .fmapiGetPhysPortState i => some (1 + i.ports.length)
  | _ => none

/-! ### Elements -/

section Elements

variable (o : ByteOrder)

theorem reads_word16 (v : U 16) (t : Bytes) : word 2 16 (putLe o 2 v ++ t) = some (v, t) := by
  rw [putLe_eq]
  exact reads_word 2 16 v t (by decide)

theorem reads_word32 (v : U 32) (t : Bytes) : word 4 32 (putLe o 4 v ++ t) = some (v, t) := by
  rw [putLe_eq]
  exact reads_word 4 32 v t (by decide)

theorem reads_word64 (v : U 64) (t : Bytes) : word 8 64 (putLe o 8 v ++ t) = some (v, t) := by
  rw [putLe_eq]
  exact reads_word 8 64 v t (by decide)

theorem reads_dpaRange (r : DpaRange) (t : Bytes) : DpaRange.parse (dpaRange o r ++ t) = some (r, t) := by
  rw [dpaRange, List.append_assoc]
  apply reads_bind (reads_word64 o _ _)
  apply reads_bind (reads_word64 o _ _)
  exact reads_pure _ t

theorem reads_updatedExtent (e : UpdatedExtent) (t : Bytes) :
    UpdatedExtent.parse (updatedExtent o e ++ t) = some (e, t) := by
  rw [updatedExtent, List.append_assoc, List.append_assoc]
  apply reads_bind (reads_word64 o _ _)
  apply reads_bind (reads_word64 o _ _)
  apply reads_bind (reads_reserved 8 t)
  exact reads_pure _ t

theorem reads_requestedExtent (e : RequestedExtent) (t : Bytes) :
    RequestedExtent.parse (requestedExtent o e ++ t) = some (e, t) := by
  simp only [requestedExtent, List.append_assoc]
  apply reads_bind (reads_word64 o _ _)
  apply reads_bind (reads_word64 o _ _)
  apply reads_bind (reads_raw _ _)
  apply reads_bind (reads_word16 o _ _)
  apply reads_bind (reads_reserved 6 t)
  exact reads_pure _ t

theorem reads_ldAllocationReq (a : LdAllocationReq) (t : Bytes) :
    LdAllocationReq.parse (ldAllocationReq o a ++ t) = some (a, t) := by
  rw [ldAllocationReq, List.append_assoc]
  apply reads_bind (reads_word64 o _ _)
  apply reads_bind (reads_word64 o _ _)
  exact reads_pure _ t

end Elements

/-! ### Requests -/

/-- The payload is written, has the encoded size, and is read back. -/
def RoundTrips (c : Command α) (o : ByteOrder) (n : ℕ) : Prop :=
  ∃ pl, c.spec.payload o = some pl ∧ pl.length = n ∧ decodePayload c.spec.set c.spec.cmd pl = some ⟨α, c⟩

section Requests

variable (o : ByteOrder)

theorem clearEventRecords_roundTrips (i : ClearEventRecordsReq) :
    RoundTrips (.clearEventRecords i) o (6 + i.handles.length * 2) := by
  refine ⟨_, rfl, (clearEventRecords i).framed o _ rfl, ?_⟩
  refine congrArg (Option.map _) (parseAll_eq ClearEventRecordsReq.parse _ i ?_)
  simp only [List.cons_append, List.nil_append]
  apply reads_bind (reads_byte _ _)
  apply reads_bind (reads_byte _ _)
  apply reads_bind (reads_byte _ _)
  apply reads_bind (reads_reserved 3 _)
  apply reads_bind (reads_many_rest (reads_word16 o) i.handles)
  exact reads_pure _ _

theorem transferFw_roundTrips (i : TransferFwReq) : RoundTrips (.transferFw i) o (128 + i.data.length) := by
  refine ⟨_, rfl, (transferFw i).framed o _ rfl, ?_⟩
  refine congrArg (Option.map _) (parseAll_eq TransferFwReq.parse _ i ?_)
  simp only [List.append_assoc, List.cons_append, List.nil_append]
  apply reads_bind (reads_byte _ _)
  apply reads_bind (reads_byte _ _)
  apply reads_bind (reads_reserved 2 _)
  apply reads_bind (reads_word32 o _ _)
  apply reads_bind (reads_reserved 0x78 _)
  apply reads_bind (reads_rest _)
  exact reads_pure _ _

theorem setFeature_roundTrips (i : SetFeatureReq) : RoundTrips (.setFeature i) o (32 + i.featureData.length) := by
  refine ⟨_, rfl, (setFeature i).framed o _ rfl, ?_⟩
  refine congrArg (Option.map _) (parseAll_eq SetFeatureReq.parse _ i ?_)
  simp only [List.append_assoc, List.cons_append, List.nil_append]
  apply reads_bind (reads_raw _ _)
  apply reads_bind (reads_word32 o _ _)
  apply reads_bind (reads_word16 o _ _)
  apply reads_bind (reads_byte _ _)
  apply reads_bind (reads_reserved 9 _)
  apply reads_bind (reads_rest _)
  exact reads_pure _ _

theorem setLsa_roundTrips (offset : U 32) (data : Bytes) :
    RoundTrips (.memdevSetLsa offset data) o (8 + data.length) := by
  refine ⟨_, rfl, (memdevSetLsa offset data).framed o _ rfl, ?_⟩
  refine congrArg (Option.map _) (parseAll_eq parseSetLsa _ (offset, data) ?_)
  simp only [List.append_assoc]
  apply reads_bind (reads_word32 o _ _)
  apply reads_bind (reads_reserved 4 _)
  apply reads_bind (reads_rest _)
  exact reads_pure _ _

theorem mediaOperationsSanitize_roundTrips (i : MediaOperationsSanitizeReq) :
    RoundTrips (.memdevMediaOperationsSanitize i) o (8 + i.dpaRangeList.length * 16) := by
  refine ⟨_, rfl, (memdevMediaOperationsSanitize i).framed o _ rfl, ?_⟩
  refine congrArg (Option.map _) (parseAll_eq MediaOperationsSanitizeReq.parse _ i ?_)
  simp only [List.append_assoc, List.cons_append, List.nil_append]
  apply reads_bind (reads_byte _ _)
  apply reads_bind (reads_byte _ _)
  apply reads_bind (reads_reserved 2 _)
  apply reads_bind (reads_word32 o ⟨i.dpaRangeList.length, i.dpaRangeCount⟩ _)
  apply reads_bind (reads_many_rest (reads_dpaRange o) i.dpaRangeList)
  exact reads_pure _ _

theorem reads_updatedExtentList (i : UpdatedExtentListReq) :
    UpdatedExtentListReq.parse.parseAll (putLe o 4 i.extents.length ++ [i.flags] ++ zeros 3 ++
      i.extents.flatMap (updatedExtent o)) = some i := by
  apply parseAll_eq
  simp only [List.append_assoc, List.cons_append, List.nil_append]
  apply reads_bind (reads_word32 o ⟨i.extents.length, i.updatedExtentListSize⟩ _)
  apply reads_bind (reads_byte _ _)
  apply reads_bind (reads_reserved 3 _)
  apply reads_bind (reads_many_rest (reads_updatedExtent o) i.extents)
  exact reads_pure _ _

theorem updatedExtentList_payload (cmd : Byte) (i : UpdatedExtentListReq) (h : i.extents.length < 2 ^ 31) :
    (updatedExtentList cmd i).payload o = some (putLe o 4 i.extents.length ++ [i.flags] ++ zeros 3 ++
      i.extents.flatMap (updatedExtent o)) := by
  simp only [updatedExtentList, putRecords, if_pos h, Option.map_some]

theorem addDcResponse_roundTrips (i : UpdatedExtentListReq) (h : i.extents.length < 2 ^ 31) :
    RoundTrips (.memdevAddDcResponse i) o (8 + i.extents.length * 24) := by
  have hpl := updatedExtentList_payload o 0x2 i h
  exact ⟨_, hpl, (memdevAddDcResponse i).framed o _ hpl, congrArg (Option.map _) (reads_updatedExtentList o i)⟩

theorem releaseDc_roundTrips (i : UpdatedExtentListReq) (h : i.extents.length < 2 ^ 31) :
    RoundTrips (.memdevReleaseDc i) o (8 + i.extents.length * 24) := by
  have hpl := updatedExtentList_payload o 0x3 i h
  exact ⟨_, hpl, (memdevReleaseDc i).framed o _ hpl, congrArg (Option.map _) (reads_updatedExtentList o i)⟩

/- `two` is what the parser of the two bytes behind the host id makes of them. -/
theorem reads_initiateDc {β : Type} (p : Parser β) (b2 b3 : Byte) (two : β)
    (hp : ∀ t, p (b2 :: b3 :: t) = some (two, t)) (i : InitiateDcReq) :
    (InitiateDcReq.parse p).parseAll (putLe o 2 i.hostId ++ [b2, b3] ++ putLe o 8 i.length ++ i.tag ++
      putLe o 4 i.extents.length ++ i.extents.flatMap (requestedExtent o)) = some (two, i) := by
  apply parseAll_eq
  simp only [List.append_assoc, List.cons_append, List.nil_append]
  apply reads_bind (reads_word16 o _ _)
  apply reads_bind (hp _)
  apply reads_bind (reads_word64 o _ _)
  apply reads_bind (reads_raw _ _)
  apply reads_bind (reads_word32 o ⟨i.extents.length, i.extCount⟩ _)
  apply reads_bind (reads_many_rest (reads_requestedExtent o) i.extents)
  exact reads_pure _ _

theorem requestedExtent_length (e : RequestedExtent) : (requestedExtent o e).length = 40 := by
  simp only [requestedExtent, List.length_append, putLe_length, vec_length, zeros_length]

theorem initiateDcSize_eq (i : InitiateDcReq) (h : 32 + i.extents.length * 40 < 2 ^ 20) :
    initiateDcSize i = 32 + i.extents.length * 40 := by
  have hint : int32 (i.extents.length * 40) = ((i.extents.length * 40 : ℕ) : ℤ) := by
    rw [← int32_natCast _ (by omega : i.extents.length * 40 < 2 ^ 31)]
    push_cast
    rfl
  rw [initiateDcSize, hint]
  exact sizeT_natCast (32 + i.extents.length * 40) (by omega)

theorem initiateDc_payload (cmd b2 b3 : Byte) (i : InitiateDcReq) (h : 32 + i.extents.length * 40 < 2 ^ 20) :
    (initiateDc cmd b2 b3 i).payload o = some (putLe o 2 i.hostId ++ [b2, b3] ++ putLe o 8 i.length ++ i.tag ++
      putLe o 4 i.extents.length ++ i.extents.flatMap (requestedExtent o)) := by
  have hlen := flatMap_length i.extents _ 40 (requestedExtent_length o)
  simp only [initiateDc, putRecords, if_pos (by omega : i.extents.length < 2 ^ 31), Option.bind_some, hlen,
    initiateDcSize_eq i h, if_true]

theorem initiateDc_length (b2 b3 : Byte) (i : InitiateDcReq) :
    (putLe o 2 i.hostId ++ [b2, b3] ++ putLe o 8 i.length ++ i.tag ++ putLe o 4 i.extents.length ++
      i.extents.flatMap (requestedExtent o)).length = 32 + i.extents.length * 40 := by
  simp only [List.length_append, putLe_length, vec_length, List.length_cons, List.length_nil,
    flatMap_length _ _ 40 (requestedExtent_length o)]

theorem initiateDcAdd_roundTrips (selectionPolicy regionNum : Byte) (i : InitiateDcReq)
    (h : 32 + i.extents.length * 40 < 2 ^ 20) :
    RoundTrips (.fmapiInitiateDcAdd selectionPolicy regionNum i) o (32 + i.extents.length * 40) := by
  have hpl := initiateDc_payload o 0x4 selectionPolicy regionNum i h
  refine ⟨_, hpl, initiateDc_length o _ _ i, ?_⟩
  refine congrArg (Option.map _) (reads_initiateDc o _ _ _ (selectionPolicy, regionNum) (fun t => ?_) i)
  apply reads_bind (reads_byte _ _)
  apply reads_bind (reads_byte _ _)
  exact reads_pure _ _

theorem initiateDcRelease_roundTrips (flags : Byte) (i : InitiateDcReq) (h : 32 + i.extents.length * 40 < 2 ^ 20) :
    RoundTrips (.fmapiInitiateDcRelease flags i) o (32 + i.extents.length * 40) := by
  have hpl := initiateDc_payload o 0x5 flags 0 i h
  refine ⟨_, hpl, initiateDc_length o _ _ i, ?_⟩
  refine congrArg (Option.map _) (reads_initiateDc o _ _ _ flags (fun t => ?_) i)
  apply reads_bind (reads_byte _ _)
  apply reads_bind (reads_reserved 1 t)
  exact reads_pure _ _

theorem setLdAllocations_roundTrips (i : SetLdAllocationsReq) :
    RoundTrips (.fmapiSetLdAllocations i) o (4 + i.ldAllocationList.length * 16) := by
  refine ⟨_, rfl, (fmapiSetLdAllocations i).framed o _ rfl, ?_⟩
  refine congrArg (Option.map _) (parseAll_eq SetLdAllocationsReq.parse _ i ?_)
  simp only [List.cons_append, List.nil_append]
  apply reads_bind (reads_byte _ _)
  apply reads_bind (reads_byte _ _)
  apply reads_bind (reads_reserved 2 _)
  apply reads_bind (reads_many_rest (reads_ldAllocationReq o) i.ldAllocationList)
  exact reads_pure _ _

theorem reads_qosFractions (i : SetQosFractionsReq) :
    SetQosFractionsReq.parse.parseAll ([⟨i.fractions.length, i.numberLd⟩, i.startLdId] ++ i.fractions) = some i := by
  apply parseAll_eq
  apply reads_bind (reads_byte _ _)
  apply reads_bind (reads_byte _ _)
  apply reads_bind (reads_bytes_rest i.fractions)
  exact reads_pure _ _

theorem setQosAllocatedBw_roundTrips (i : SetQosFractionsReq) :
    RoundTrips (.fmapiSetQosAllocatedBw i) o (2 + i.fractions.length) :=
  ⟨_, rfl, (fmapiSetQosAllocatedBw i).framed o _ rfl, congrArg (Option.map _) (reads_qosFractions i)⟩

theorem setQosBwLimit_roundTrips (i : SetQosFractionsReq) :
    RoundTrips (.fmapiSetQosBwLimit i) o (2 + i.fractions.length) :=
  ⟨_, rfl, (fmapiSetQosBwLimit i).framed o _ rfl, congrArg (Option.map _) (reads_qosFractions i)⟩

theorem getVcsInfo_roundTrips (i : GetVcsInfoReq) : RoundTrips (.fmapiGetVcsInfo i) o (3 + i.vcsIdList.length) := by
  refine ⟨_, rfl, (fmapiGetVcsInfo i).framed o _ rfl, ?_⟩
  refine congrArg (Option.map _) (parseAll_eq GetVcsInfoReq.parse _ i ?_)
  apply reads_bind (reads_byte _ _)
  apply reads_bind (reads_byte _ _)
  apply reads_bind (reads_byte _ _)
  apply reads_bind (reads_bytes_rest i.vcsIdList)
  exact reads_pure _ _

theorem getPhysPortState_roundTrips (i : GetPhysPortStateReq) :
    RoundTrips (.fmapiGetPhysPortState i) o (1 + i.ports.length) := by
  refine ⟨_, rfl, (fmapiGetPhysPortState i).framed o _ rfl, ?_⟩
  refine congrArg (Option.map _) (parseAll_eq GetPhysPortStateReq.parse _ i ?_)
  apply reads_bind (reads_byte _ _)
  apply reads_bind (reads_bytes_rest i.ports)
  exact reads_pure _ _

end Requests

theorem roundTrips_of_size (c : Command α) (o : ByteOrder) (n : ℕ) (hc : encodedSize c = some n) (hn : n < 2 ^ 20) :
    RoundTrips c o n := by
  cases c
  case clearEventRecords i =>
    obtain rfl := Option.some.inj hc
    exact clearEventRecords_roundTrips o i
  case transferFw i =>
    obtain rfl := Option.some.inj hc
    exact transferFw_roundTrips o i
  case setFeature i =>
    obtain rfl := Option.some.inj hc
    exact setFeature_roundTrips o i
  case memdevSetLsa offset data =>
    obtain rfl := Option.some.inj hc
    exact setLsa_roundTrips o offset data
  case memdevMediaOperationsSanitize i =>
    obtain rfl := Option.some.inj hc
    exact mediaOperationsSanitize_roundTrips o i
  case memdevAddDcResponse i =>
    obtain rfl := Option.some.inj hc
    exact addDcResponse_roundTrips o i (by omega)
  case memdevReleaseDc i =>
    obtain rfl := Option.some.inj hc
    exact releaseDc_roundTrips o i (by omega)
  case fmapiInitiateDcAdd s r i =>
    obtain rfl := Option.some.inj hc
    exact initiateDcAdd_roundTrips o s r i hn
  case fmapiInitiateDcRelease f i =>
    obtain rfl := Option.some.inj hc
    exact initiateDcRelease_roundTrips o f i hn
  case fmapiSetLdAllocations i =>
    obtain rfl := Option.some.inj hc
    exact setLdAllocations_roundTrips o i
  case fmapiSetQosAllocatedBw i =>
    obtain rfl := Option.some.inj hc
    exact setQosAllocatedBw_roundTrips o i
  case fmapiSetQosBwLimit i =>
    obtain rfl := Option.some.inj hc
    exact setQosBwLimit_roundTrips o i
  case fmapiGetVcsInfo i =>
    obtain rfl := Option.some.inj hc
    exact getVcsInfo_roundTrips o i
  case fmapiGetPhysPortState i =>
    obtain rfl := Option.some.inj hc
    exact getPhysPortState_roundTrips o i
  all_goals cases hc

/-- A request of less than 2^20 bytes is written with its size in the header,
and a device that follows the wire layout reads the same request back. -/
theorem request_read_back (c : Command α) (o : ByteOrder) (ep : Endpoint) (n : ℕ) (hc : encodedSize c = some n)
    (hn : n < 2 ^ 20) :
    ∃ pl, c.spec.payload o = some pl ∧ pl.length = n ∧
      plLength (armCciRequest o ep c.spec.set c.spec.cmd pl).1 = n ∧
      payload (armCciRequest o ep c.spec.set c.spec.cmd pl).1 = pl ∧
      decodeRequest (armCciRequest o ep c.spec.set c.spec.cmd pl).1 = some ⟨α, c⟩ := by
  obtain ⟨pl, hpl, hlen, hdec⟩ := roundTrips_of_size c o n hc hn
  obtain ⟨tg, harm⟩ := armCciRequest_req o ep c.spec.set c.spec.cmd pl
  have hsize : plLength (armCciRequest o ep c.spec.set c.spec.cmd pl).1 = n := by
    rw [harm, plLength_cciHeader, hlen, Nat.mod_eq_of_lt hn]
  have hpay : payload (armCciRequest o ep c.spec.set c.spec.cmd pl).1 = pl := by
    rw [harm, payload_cciHeader]
  refine ⟨pl, hpl, hlen, hsize, hpay, ?_⟩
  unfold decodeRequest
  rw [commandSet_armed, command_armed, hpay, hsize, if_pos, hdec]
  rw [harm, request_length, hlen]
  exact ⟨rfl, rfl, rfl⟩

/- Two handles, to be cleared over MCTP. -/
def twoHandles : ClearEventRecordsReq := ⟨1, 0, [0x1234, 0x5678], by decide⟩

theorem clearEventRecords_read_back :
    ∃ pl, (clearEventRecords twoHandles).payload .big = some pl ∧
      decodeRequest (armCciRequest .big mctpEndpoint 0x01 0x1 pl).1 = some ⟨Unit, .clearEventRecords twoHandles⟩ := by
  obtain ⟨pl, hpl, -, -, -, hdec⟩ := request_read_back (.clearEventRecords twoHandles) .big mctpEndpoint 10 rfl
    (by decide)
  exact ⟨pl, hpl, hdec⟩

end LibCxlmi.Contract
