import LibCxlmi.Commands.Call

/-!
# FM-API switch and port commands (commands.c:2248-2722)

Command sets 51h to 53h; the Tunnel Management Command itself is part of the
transports.
-/

namespace LibCxlmi.Commands
open LibCxlmi.Word LibCxlmi.Cci

/-! ### Physical switch -/

structure IdentifySwDeviceRsp where
  ingressPortId : Byte
  numPhysicalPorts : Byte
  numVcs : Byte
  activePortBitmask : Bytes
  activeVcsBitmask : Bytes
  numTotalVppb : ℕ
  numActiveVppb : ℕ
  numHdmDecoderPerUsp : Byte
  deriving DecidableEq, Repr

def fmapiIdentifySwDevice : CciCommand IdentifySwDeviceRsp :=
  query 0x51 0x0 0x49 fun o pl =>
    ⟨byteAt pl 0, byteAt pl 2, byteAt pl 3, slice pl 4 32, slice pl 36 32, getLe o 2 pl 68, getLe o 2 pl 70,
      byteAt pl 72⟩

structure PortState where
  portId : Byte
  configState : Byte
  connDevCxlVer : Byte
  connDevType : Byte
  portCxlVerBitmask : Byte
  maxLinkWidth : Byte
  negotiatedLinkWidth : Byte
  supportedLinkSpeedsVector : Byte
  maxLinkSpeed : Byte
  currentLinkSpeed : Byte
  ltssmState : Byte
  firstLaneNum : Byte
  linkState : ℕ
  supportedLdCount : Byte
  deriving DecidableEq, Repr

def portState (o : ByteOrder) (r : Bytes) : PortState :=
  ⟨byteAt r 0, byteAt r 1, byteAt r 2, byteAt r 4, byteAt r 5, byteAt r 6, byteAt r 7, byteAt r 8, byteAt r 9,
    byteAt r 10, byteAt r 11, byteAt r 12, getLe o 2 r 13, byteAt r 15⟩

structure GetPhysPortStateReq where
  ports : Bytes
  numPorts : ports.length < 256

structure GetPhysPortStateRsp where
  numPorts : Byte
  ports : List PortState
  deriving DecidableEq, Repr

def fmapiGetPhysPortState (i : GetPhysPortStateReq) : CciCommand GetPhysPortStateRsp :=
  request 0x51 0x1 (1 + i.ports.length) (fun _ => [⟨i.ports.length, i.numPorts⟩] ++ i.ports)
    (fun _ => by rw [List.length_append]; rfl) (4 + i.ports.length * 16) (4 + i.ports.length * 16) fun o pl =>
      (records pl 4 16 (byteAt pl 0).val (portState o)).map fun ps => ⟨byteAt pl 0, ps⟩

def fmapiPhysPortControl (ppbId portOpcode : Byte) : CciCommand Unit :=
  instruct 0x51 0x2 2 (fun _ => [ppbId, portOpcode]) (twoBytes_length ppbId portOpcode)

def fmapiSendPpbCxlioConfigRequest (ppbId : Byte) (field1 : Vec 3) (transactionData : U 32) : CciCommand ℕ :=
  request 0x51 0x3 8 (fun o => [ppbId] ++ field1 ++ putLe o 4 transactionData)
    (fun o => by simp only [List.length_append, vec_length, putLe_length, List.length_singleton]) 4 4
    fun o pl => some (getLe o 4 pl 0)

def fmapiGetDomainValidationSvState : CciCommand Byte := query 0x51 0x4 1 fun _ pl => byteAt pl 0

def fmapiSetDomainValidationSv (secretValueUuid : Vec 0x10) : CciCommand Unit :=
  instruct 0x51 0x5 16 (fun _ => secretValueUuid) (vec16_length secretValueUuid)

def fmapiGetVcsDomainValidationSvState (vcsId : Byte) : CciCommand Byte :=
  request 0x51 0x6 1 (fun _ => [vcsId]) (oneByte_length vcsId) 1 1 fun _ pl => some (byteAt pl 0)

def fmapiGetDomainValidationSv (vcsId : Byte) : CciCommand Bytes :=
  request 0x51 0x7 1 (fun _ => [vcsId]) (oneByte_length vcsId) 16 16 fun _ pl => copyOut pl 0 16

/-! ### Virtual switch -/

structure GetVcsInfoReq where
  startVppb : Byte
  vppbListLimit : Byte
  vcsIdList : Bytes
  numVcs : vcsIdList.length < 256

/-- Room for `num_vcs` blocks of at most `vppb_list_limit` vPPBs. -/
def vcsInfoSize (i : GetVcsInfoReq) : ℕ := 4 + i.vcsIdList.length * (4 + i.vppbListLimit * 4)

/- The blocks are handed over raw; at least one with one vPPB must come. -/
def fmapiGetVcsInfo (i : GetVcsInfoReq) : CciCommand Bytes :=
  request 0x52 0x0 (3 + i.vcsIdList.length)
    (fun _ => [i.startVppb, i.vppbListLimit, ⟨i.vcsIdList.length, i.numVcs⟩] ++ i.vcsIdList)
    (fun _ => by rw [List.length_append]; rfl) (4 + 4 + 4) (vcsInfoSize i) fun _ pl =>
      copyOut pl 0 (vcsInfoSize i)

def fmapiBindVppb (vcsId vppbId portId : Byte) (ldId : U 16) : CciCommand Unit :=
  instruct 0x52 0x1 6 (fun o => [vcsId, vppbId, portId, 0] ++ putLe o 2 ldId)
    fun o => by rw [List.length_append, putLe_length]; rfl

def fmapiUnbindVppb (vcsId vppbId option : Byte) : CciCommand Unit :=
  instruct 0x52 0x2 3 (fun _ => [vcsId, vppbId, option]) fun _ => rfl

/-! ### MLD port -/

def fmapiSendLdCxlioConfigRequest (ppbId : Byte) (field1 : Vec 3) (ldId : U 16) (transactionData : U 32) :
    CciCommand ℕ :=
  request 0x53 0x1 12 (fun o => [ppbId] ++ field1 ++ putLe o 2 ldId ++ zeros 2 ++ putLe o 4 transactionData)
    (fun o => by simp only [List.length_append, vec_length, putLe_length, zeros_length, List.length_singleton])
    4 4 fun o pl => some (getLe o 4 pl 0)

/- At most 4 KiB of data are sent, while `transaction_len` is sent as given. -/
structure SendLdCxlioMemRequestReq where
  portId : Byte
  field1 : Vec 2
  ldId : U 16
  transactionLen : U 16
  transactionAddr : U 64
  transactionData : Vec (min transactionLen 0x1000)

structure SendLdCxlioMemRequestRsp where
  returnSize : ℕ
  returnData : Bytes
  deriving DecidableEq, Repr

def fmapiSendLdCxlioMemRequest (i : SendLdCxlioMemRequestReq) : CciCommand SendLdCxlioMemRequestRsp :=
  let datalen := min i.transactionLen.val 0x1000
  request 0x53 0x2 (15 + datalen)
    (fun o => [i.portId] ++ i.field1 ++ putLe o 2 i.ldId ++ putLe o 2 i.transactionLen ++
      putLe o 8 i.transactionAddr ++ i.transactionData)
    (fun o => by simp only [List.length_append, vec_length, putLe_length, List.length_singleton]; rfl)
    (4 + datalen) (4 + datalen) fun o pl =>
      (copyOut pl 4 (getLe o 2 pl 0)).map fun d => ⟨getLe o 2 pl 0, d⟩

end LibCxlmi.Commands
