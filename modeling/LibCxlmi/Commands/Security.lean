import LibCxlmi.Commands.Memdev

/-!
# Sanitize, passphrases, security protocols and SLD QoS (commands.c:1645-2120)

Command sets 44h to 47h.
-/

namespace LibCxlmi.Commands
open LibCxlmi.Word LibCxlmi.Cci

/-! ### Sanitize -/

def memdevSanitize : CciCommand Unit := order 0x44 0x0

def memdevSecureErase : CciCommand Unit := order 0x44 0x1

structure MediaOperationsDiscoveryReq where
  mediaOperationClass : Byte
  mediaOperationSubclass : Byte
  dpaRangeCount : U 32
  startIndex : U 16
  numOps : U 16

structure MediaOperationsDiscoveryRsp where
  dpaRangeGranularity : ℕ
  totalSupportedOps : ℕ
  numSupportedOps : ℕ
  entry : List (Byte × Byte)
  deriving DecidableEq, Repr

def maxMediaOpsSupported : ℕ := (2048 - 12) / 2

def memdevMediaOperationsDiscovery (i : MediaOperationsDiscoveryReq) : CciCommand MediaOperationsDiscoveryRsp :=
  { instruct 0x44 0x2 12
      (fun o => [i.mediaOperationClass, i.mediaOperationSubclass] ++ zeros 2 ++ putLe o 4 i.dpaRangeCount ++
        putLe o 2 i.startIndex ++ putLe o 2 i.numOps)
      (fun o => by simp only [List.length_append, putLe_length, zeros_length, List.length_cons, List.length_nil])
    with
    admitted := decide (i.numOps.val ≤ maxMediaOpsSupported)
    rspHeap := true
    rspSz := fun _ => 12 + (12 + i.numOps * 2)
    rspMin := fun _ => 12 + 12
    decode := fun o rsp =>
      let pl := payload rsp
      let n := min (clampCount (getLe o 2 pl 10) rsp 12 2 i.numOps) maxMediaOpsSupported
      (records pl 12 2 n fun r => (byteAt r 0, byteAt r 1)).map fun es =>
        MediaOperationsDiscoveryRsp.mk (getLe o 8 pl 0) (getLe o 2 pl 8) n es }

structure DpaRange where
  startingDpa : U 64
  length : U 64

def dpaRange (o : ByteOrder) (r : DpaRange) : Bytes := putLe o 8 r.startingDpa ++ putLe o 8 r.length

theorem dpaRange_length (o : ByteOrder) (r : DpaRange) : (dpaRange o r).length = 16 := by
  rw [dpaRange, List.length_append, putLe_length, putLe_length]

structure MediaOperationsSanitizeReq where
  mediaOperationClass : Byte
  mediaOperationSubclass : Byte
  dpaRangeList : List DpaRange
  dpaRangeCount : dpaRangeList.length < 2 ^ 32

def maxMediaOpsDpaRanges : ℕ := (2048 - 8) / 16

def memdevMediaOperationsSanitize (i : MediaOperationsSanitizeReq) : CciCommand Unit :=
  { instruct 0x44 0x2 (8 + i.dpaRangeList.length * 16)
      (fun o => [i.mediaOperationClass, i.mediaOperationSubclass] ++ zeros 2 ++
        putLe o 4 i.dpaRangeList.length ++ i.dpaRangeList.flatMap (dpaRange o))
      (fun o => by
        simp only [List.length_append, putLe_length, zeros_length, List.length_cons, List.length_nil,
          flatMap_length _ _ 16 (dpaRange_length o)])
    with admitted := decide (i.dpaRangeList.length ≤ maxMediaOpsDpaRanges) }

/-! ### Persistent memory security -/

def memdevGetSecurityState : CciCommand ℕ := query 0x45 0x0 4 fun o pl => getLe o 4 pl 0

def memdevSetPassphrase (passphraseType : Byte) (currentPassphrase newPassphrase : Vec 0x20) :
    CciCommand Unit :=
  instruct 0x45 0x1 0x60 (fun _ => [passphraseType] ++ zeros 0x1F ++ currentPassphrase ++ newPassphrase)
    fun _ => by simp only [List.length_append, vec_length, zeros_length, List.length_singleton]

/-- Disable Passphrase and Passphrase Secure Erase have the same payload. -/
def passphraseReq (cmd passphraseType : Byte) (passphrase : Vec 0x20) : CciCommand Unit :=
  instruct 0x45 cmd 0x40 (fun _ => [passphraseType] ++ zeros 0x1F ++ passphrase)
    fun _ => by simp only [List.length_append, vec_length, zeros_length, List.length_singleton]

def memdevDisablePassphrase (passphraseType : Byte) (passphrase : Vec 0x20) : CciCommand Unit :=
  passphraseReq 0x2 passphraseType passphrase

def memdevUnlock (currentPassphrase : Vec 0x20) : CciCommand Unit :=
  instruct 0x45 0x3 0x20 (fun _ => currentPassphrase) fun _ => currentPassphrase.property

def memdevFreezeSecurityState : CciCommand Unit := order 0x45 0x4

def memdevPassphraseSecureErase (passphraseType : Byte) (passphrase : Vec 0x20) : CciCommand Unit :=
  passphraseReq 0x5 passphraseType passphrase

/-! ### Security protocols -/

def memdevSecuritySend (securityProtocol : Byte) (spSpecific : U 16) (data : Bytes) : CciCommand Unit :=
  instruct 0x46 0x0 (8 + data.length)
    (fun o => [securityProtocol] ++ putLe o 2 spSpecific ++ zeros 5 ++ data)
    fun o => by simp only [List.length_append, putLe_length, zeros_length, List.length_singleton]

/-- Response size of a protocol of `sec_protos`, 0 for any other. -/
def protoSize (securityProtocol : Byte) : ℕ := if securityProtocol = 0x00 then 6 + 2 + 256 else 0

def memdevSecurityReceive (securityProtocol : Byte) (spSpecific : U 16) : CciCommand Bytes :=
  { request 0x46 0x1 8 (fun o => [securityProtocol] ++ putLe o 2 spSpecific ++ zeros 5)
      (fun o => by simp only [List.length_append, putLe_length, zeros_length, List.length_singleton])
      (protoSize securityProtocol) (protoSize securityProtocol)
      fun _ pl => copyOut pl 0 (protoSize securityProtocol)
    with supported := protoSize securityProtocol != 0 }

/-! ### QoS telemetry of single logical devices -/

structure SldQosControl where
  qosTelemetryControl : Byte
  egressModeratePercentage : Byte
  egressSeverePercentage : Byte
  backpressureSampleInterval : Byte
  deriving DecidableEq, Repr

def memdevGetSldQosControl : CciCommand SldQosControl :=
  query 0x47 0x0 4 fun _ pl => ⟨byteAt pl 0, byteAt pl 1, byteAt pl 2, byteAt pl 3⟩

def memdevSetSldQosControl (i : SldQosControl) : CciCommand Unit :=
  instruct 0x47 0x1 4
    (fun _ => [i.qosTelemetryControl, i.egressModeratePercentage, i.egressSeverePercentage,
      i.backpressureSampleInterval]) fun _ => rfl

def memdevGetSldQosStatus : CciCommand Byte := query 0x47 0x2 1 fun _ pl => byteAt pl 0

end LibCxlmi.Commands
