import LibCxlmi.Commands.Call

/-!
# FM-API MLD components and multi-headed devices (commands.c:2724-3267)

Command sets 54h and 55h. The getters and setters of the two QoS fractions are
the same functions at different opcodes.
-/

namespace LibCxlmi.Commands
open LibCxlmi.Word LibCxlmi.Cci

/-! ### Logical devices -/

structure GetLdInfoRsp where
  memorySize : ℕ
  ldCount : ℕ
  qosTelemetryCapability : Byte
  deriving DecidableEq, Repr

def fmapiGetLdInfo : CciCommand GetLdInfoRsp :=
  query 0x54 0x0 11 fun o pl => ⟨getLe o 8 pl 0, getLe o 2 pl 8, byteAt pl 10⟩

structure LdAllocation where
  range1AllocationMult : ℕ
  range2AllocationMult : ℕ
  deriving DecidableEq, Repr

def ldAllocation (o : ByteOrder) (r : Bytes) : LdAllocation := ⟨getLe o 8 r 0, getLe o 8 r 8⟩

structure GetLdAllocationsRsp where
  numberLd : Byte
  memoryGranularity : Byte
  startLdId : Byte
  ldAllocationListLen : Byte
  ldAllocationList : List LdAllocation
  deriving DecidableEq, Repr

def fmapiGetLdAllocations (startLdId ldAllocationListLimit : Byte) : CciCommand GetLdAllocationsRsp :=
  request 0x54 0x1 2 (fun _ => [startLdId, ldAllocationListLimit]) (twoBytes_length startLdId ldAllocationListLimit)
    (4 + ldAllocationListLimit * 16) (4 + ldAllocationListLimit * 16) fun o pl =>
      (records pl 4 16 (byteAt pl 3).val (ldAllocation o)).map fun ls =>
        ⟨byteAt pl 0, byteAt pl 1, byteAt pl 2, byteAt pl 3, ls⟩

structure LdAllocationReq where
  range1AllocationMult : U 64
  range2AllocationMult : U 64

def ldAllocationReq (o : ByteOrder) (a : LdAllocationReq) : Bytes :=
  putLe o 8 a.range1AllocationMult ++ putLe o 8 a.range2AllocationMult

theorem ldAllocationReq_length (o : ByteOrder) (a : LdAllocationReq) : (ldAllocationReq o a).length = 16 := by
  rw [ldAllocationReq, List.length_append, putLe_length, putLe_length]

structure SetLdAllocationsReq where
  startLdId : Byte
  ldAllocationList : List LdAllocationReq
  numberLd : ldAllocationList.length < 256

structure SetLdAllocationsRsp where
  numberLd : Byte
  startLdId : Byte
  ldAllocationList : List LdAllocation
  deriving DecidableEq, Repr

def fmapiSetLdAllocations (i : SetLdAllocationsReq) : CciCommand SetLdAllocationsRsp :=
  request 0x54 0x2 (4 + i.ldAllocationList.length * 16)
    (fun o => [⟨i.ldAllocationList.length, i.numberLd⟩, i.startLdId, 0, 0] ++
      i.ldAllocationList.flatMap (ldAllocationReq o))
    (fun o => by
      rw [List.length_append, flatMap_length _ _ 16 (ldAllocationReq_length o)]
      rfl)
    (4 + i.ldAllocationList.length * 16) (4 + i.ldAllocationList.length * 16) fun o pl =>
      (records pl 4 16 (byteAt pl 0).val (ldAllocation o)).map fun ls => ⟨byteAt pl 0, byteAt pl 1, ls⟩

/-! ### QoS -/

structure QosControl where
  qosTelemetryControl : Byte
  egressModeratePercentage : Byte
  egressSeverePercentage : Byte
  backpressureSampleInterval : Byte
  recmpbasis : U 16
  completionCollectionInterval : Byte

structure QosControlRsp where
  qosTelemetryControl : Byte
  egressModeratePercentage : Byte
  egressSeverePercentage : Byte
  backpressureSampleInterval : Byte
  recmpbasis : ℕ
  completionCollectionInterval : Byte
  deriving DecidableEq, Repr

def qosControlRsp (o : ByteOrder) (pl : Bytes) : QosControlRsp :=
  ⟨byteAt pl 0, byteAt pl 1, byteAt pl 2, byteAt pl 3, getLe o 2 pl 4, byteAt pl 6⟩

def fmapiGetQosControl : CciCommand QosControlRsp := query 0x54 0x3 7 qosControlRsp

def fmapiSetQosControl (i : QosControl) : CciCommand QosControlRsp :=
  request 0x54 0x4 7
    (fun o => [i.qosTelemetryControl, i.egressModeratePercentage, i.egressSeverePercentage,
      i.backpressureSampleInterval] ++ putLe o 2 i.recmpbasis ++ [i.completionCollectionInterval])
    (fun o => by simp only [List.length_append, putLe_length, List.length_cons, List.length_nil]) 7 7
    fun o pl => some (qosControlRsp o pl)

def fmapiGetQosStatus : CciCommand Byte := query 0x54 0x5 1 fun _ pl => byteAt pl 0

structure QosFractions where
  numberLd : Byte
  startLdId : Byte
  fractions : Bytes
  deriving DecidableEq, Repr

def qosFractions (pl : Bytes) : Option QosFractions :=
  (copyOut pl 2 (byteAt pl 0)).map fun fs => ⟨byteAt pl 0, byteAt pl 1, fs⟩

def getQosFractions (cmd numberLd startLdId : Byte) : CciCommand QosFractions :=
  request 0x54 cmd 2 (fun _ => [numberLd, startLdId]) (twoBytes_length numberLd startLdId) (2 + numberLd) (2 + numberLd)
    fun _ pl => qosFractions pl

structure SetQosFractionsReq where
  startLdId : Byte
  fractions : Bytes
  numberLd : fractions.length < 256

def setQosFractions (cmd : Byte) (i : SetQosFractionsReq) : CciCommand QosFractions :=
  request 0x54 cmd (2 + i.fractions.length)
    (fun _ => [⟨i.fractions.length, i.numberLd⟩, i.startLdId] ++ i.fractions)
    (fun _ => by rw [List.length_append]; rfl) (2 + i.fractions.length) (2 + i.fractions.length)
    fun _ pl => qosFractions pl

def fmapiGetQosAllocatedBw (numberLd startLdId : Byte) : CciCommand QosFractions :=
  getQosFractions 0x6 numberLd startLdId

def fmapiSetQosAllocatedBw (i : SetQosFractionsReq) : CciCommand QosFractions := setQosFractions 0x7 i

def fmapiGetQosBwLimit (numberLd startLdId : Byte) : CciCommand QosFractions :=
  getQosFractions 0x8 numberLd startLdId

def fmapiSetQosBwLimit (i : SetQosFractionsReq) : CciCommand QosFractions := setQosFractions 0x9 i

/-! ### Multi-headed devices -/

structure GetMultiheadedInfoRsp where
  numLds : Byte
  numHeads : Byte
  startLdId : Byte
  ldMapLen : Byte
  ldMap : Bytes
  deriving DecidableEq, Repr

/- At least one entry of the map must come, also when none is asked for. -/
def fmapiGetMultiheadedInfo (startLdId ldMapListLimit : Byte) : CciCommand GetMultiheadedInfoRsp :=
  request 0x55 0x0 2 (fun _ => [startLdId, ldMapListLimit]) (twoBytes_length startLdId ldMapListLimit)
    (8 + 1) (8 + ldMapListLimit) fun _ pl => (copyOut pl 8 (byteAt pl 5)).map fun m =>
      ⟨byteAt pl 0, byteAt pl 1, byteAt pl 4, byteAt pl 5, m⟩

structure GetHeadInfoRsp where
  numHeads : Byte
  headInfoList : Bytes
  deriving DecidableEq, Repr

/- Blocks of nine one-byte members, copied as they are. -/
def fmapiGetHeadInfo (startHead numHeads : Byte) : CciCommand GetHeadInfoRsp :=
  request 0x55 0x1 2 (fun _ => [startHead, numHeads]) (twoBytes_length startHead numHeads)
    (4 + numHeads * 9) (4 + numHeads * 9) fun _ pl => (copyOut pl 4 (byteAt pl 0 * 9)).map fun hs => ⟨byteAt pl 0, hs⟩

end LibCxlmi.Commands
