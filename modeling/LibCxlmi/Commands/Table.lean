import LibCxlmi.Commands.General
import LibCxlmi.Commands.Logs
import LibCxlmi.Commands.Security
import LibCxlmi.Commands.FmapiSwitch
import LibCxlmi.Commands.FmapiMld
import LibCxlmi.Commands.FmapiDcd

/-!
# Every command of the library

The functions `cxlmi_cmd_*` that libcxlmi.h exports, with their arguments and
the type of their result.
-/

namespace LibCxlmi.Commands
open LibCxlmi.Word

inductive Command : Type → Type where
  | identify : Command IdentifyRsp
  | bgOpStatus : Command BgOpStatusRsp
  | getResponseMsgLimit : Command Byte
  | setResponseMsgLimit (limit : Byte) : Command Byte
  | requestBgOpAbort : Command Unit
  | getEventRecords (eventLog : Byte) : Command GetEventRecordsRsp
  | clearEventRecords (i : ClearEventRecordsReq) : Command Unit
  | getEventInterruptPolicy : Command EventInterruptPolicy
  | setEventInterruptPolicy (i : EventInterruptPolicy) : Command Unit
  | getMctpEventInterruptPolicy : Command ℕ
  | setMctpEventInterruptPolicy (eventInterruptSettings : U 16) : Command Unit
  | eventNotification (event : U 16) : Command Unit
  | getFwInfo : Command GetFwInfoRsp
  | transferFw (i : TransferFwReq) : Command Unit
  | activateFw (action slot : Byte) : Command Unit
  | getTimestamp : Command ℕ
  | setTimestamp (timestamp : U 64) : Command Unit
  | getSupportedLogs : Command GetSupportedLogsRsp
  | getLog (i : GetLogReq) : Command Bytes
  | getLogCel (i : GetLogReq) : Command (List CelEntry)
  | getLogCapabilities (uuid : Vec 0x10) : Command ℕ
  | clearLog (uuid : Vec 0x10) : Command Unit
  | populateLog (uuid : Vec 0x10) : Command Unit
  | getSupportedLogsSublist (maxEntries startIndex : Byte) : Command GetSupportedLogsSublistRsp
  | getSupportedFeatures (count : U 32) (startingFeatureIndex : U 16) : Command GetSupportedFeaturesRsp
  | getFeature (i : GetFeatureReq) : Command Bytes
  | setFeature (i : SetFeatureReq) : Command Unit
  | performMaintenance (maintOpClass maintOpSubclass : Byte) (params : Bytes) : Command Unit
  | vendorSpecific (i : VendorSpecificReq) : Command (Option Bytes)
  | memdevIdentify : Command MemdevIdentifyRsp
  | memdevGetPartitionInfo : Command PartitionInfo
  | memdevSetPartitionInfo (volatileCapacity : U 64) (flags : Byte) : Command Unit
  | memdevGetLsa (offset length : U 32) : Command Bytes
  | memdevSetLsa (offset : U 32) (data : Bytes) : Command Unit
  | memdevGetHealthInfo : Command HealthInfo
  | memdevGetAlertConfig : Command AlertConfig
  | memdevSetAlertConfig (i : SetAlertConfigReq) : Command Unit
  | memdevGetShutdownState : Command Byte
  | memdevSetShutdownState (state : Byte) : Command Unit
  | getPoisonList (phyAddr phyAddrLen : U 64) : Command PoisonList
  | memdevInjectPoison (phyAddr : U 64) : Command Unit
  | memdevClearPoison (phyAddr : U 64) (writeData : Vec 64) : Command Unit
  | memdevGetScanMediaCapabilities (startPhysaddr physaddrLength : U 64) : Command ℕ
  | memdevScanMedia (physaddr physaddrLength : U 64) (flags : Byte) : Command Unit
  | memdevGetScanMediaResults : Command ScanMediaResults
  | memdevSanitize : Command Unit
  | memdevSecureErase : Command Unit
  | memdevMediaOperationsDiscovery (i : MediaOperationsDiscoveryReq) : Command MediaOperationsDiscoveryRsp
  | memdevMediaOperationsSanitize (i : MediaOperationsSanitizeReq) : Command Unit
  | memdevGetSecurityState : Command ℕ
  | memdevSetPassphrase (passphraseType : Byte) (currentPassphrase newPassphrase : Vec 0x20) : Command Unit
  | memdevDisablePassphrase (passphraseType : Byte) (passphrase : Vec 0x20) : Command Unit
  | memdevUnlock (currentPassphrase : Vec 0x20) : Command Unit
  | memdevFreezeSecurityState : Command Unit
  | memdevPassphraseSecureErase (passphraseType : Byte) (passphrase : Vec 0x20) : Command Unit
  | memdevSecuritySend (securityProtocol : Byte) (spSpecific : U 16) (data : Bytes) : Command Unit
  | memdevSecurityReceive (securityProtocol : Byte) (spSpecific : U 16) : Command Bytes
  | memdevGetSldQosControl : Command SldQosControl
  | memdevSetSldQosControl (i : SldQosControl) : Command Unit
  | memdevGetSldQosStatus : Command Byte
  | memdevGetDcExtentList (extentCnt startExtentIdx : U 32) : Command GetDcExtentListRsp
  | memdevAddDcResponse (i : UpdatedExtentListReq) : Command Unit
  | memdevReleaseDc (i : UpdatedExtentListReq) : Command Unit
  | memdevGetDcConfig (regionCnt startRegionId : Byte) : Command GetDcConfigRsp
  | fmapiGetDcRegConfig (hostId : U 16) (regionCnt startRegionId : Byte) : Command GetHostDcRegionConfigRsp
  | fmapiIdentifySwDevice : Command IdentifySwDeviceRsp
  | fmapiGetPhysPortState (i : GetPhysPortStateReq) : Command GetPhysPortStateRsp
  | fmapiPhysPortControl (ppbId portOpcode : Byte) : Command Unit
  | fmapiSendPpbCxlioConfigRequest (ppbId : Byte) (field1 : Vec 3) (transactionData : U 32) : Command ℕ
  | fmapiGetDomainValidationSvState : Command Byte
  | fmapiSetDomainValidationSv (secretValueUuid : Vec 0x10) : Command Unit
  | fmapiGetVcsDomainValidationSvState (vcsId : Byte) : Command Byte
  | fmapiGetDomainValidationSv (vcsId : Byte) : Command Bytes
  | fmapiGetVcsInfo (i : GetVcsInfoReq) : Command Bytes
  | fmapiBindVppb (vcsId vppbId portId : Byte) (ldId : U 16) : Command Unit
  | fmapiUnbindVppb (vcsId vppbId option : Byte) : Command Unit
  | fmapiSendLdCxlioConfigRequest (ppbId : Byte) (field1 : Vec 3) (ldId : U 16) (transactionData : U 32) : Command ℕ
  | fmapiSendLdCxlioMemRequest (i : SendLdCxlioMemRequestReq) : Command SendLdCxlioMemRequestRsp
  | fmapiGetLdInfo : Command GetLdInfoRsp
  | fmapiGetLdAllocations (startLdId ldAllocationListLimit : Byte) : Command GetLdAllocationsRsp
  | fmapiSetLdAllocations (i : SetLdAllocationsReq) : Command SetLdAllocationsRsp
  | fmapiGetQosControl : Command QosControlRsp
  | fmapiSetQosControl (i : QosControl) : Command QosControlRsp
  | fmapiGetQosStatus : Command Byte
  | fmapiGetQosAllocatedBw (numberLd startLdId : Byte) : Command QosFractions
  | fmapiSetQosAllocatedBw (i : SetQosFractionsReq) : Command QosFractions
  | fmapiGetQosBwLimit (numberLd startLdId : Byte) : Command QosFractions
  | fmapiSetQosBwLimit (i : SetQosFractionsReq) : Command QosFractions
  | fmapiGetMultiheadedInfo (startLdId ldMapListLimit : Byte) : Command GetMultiheadedInfoRsp
  | fmapiGetHeadInfo (startHead numHeads : Byte) : Command GetHeadInfoRsp
  | fmapiGetDcdInfo : Command GetDcdInfoRsp
  | fmapiSetDcRegionConfig (regionId : Byte) (blockSz : U 64) (sanitizeOnRelease : Byte) : Command Unit
  | fmapiGetDcRegionExtList (i : GetDcRegionExtListReq) : Command GetDcRegionExtListRsp
  | fmapiInitiateDcAdd (selectionPolicy regionNum : Byte) (i : InitiateDcReq) : Command Unit
  | fmapiInitiateDcRelease (flags : Byte) (i : InitiateDcReq) : Command Unit
  | fmapiDcAddReference (tag : Vec 0x10) : Command Unit
  | fmapiDcRemoveReference (tag : Vec 0x10) : Command Unit
  | fmapiDcListTags (startIdx tagsCount : U 32) : Command DcListTagsRsp

def Command.spec : {α : Type} → Command α → CciCommand α
  | _, .identify => Commands.identify
  | _, .bgOpStatus => Commands.bgOpStatus
  | _, .getResponseMsgLimit => Commands.getResponseMsgLimit
  | _, .setResponseMsgLimit limit => Commands.setResponseMsgLimit limit
  | _, .requestBgOpAbort => Commands.requestBgOpAbort
  | _, .getEventRecords eventLog => Commands.getEventRecords eventLog
  | _, .clearEventRecords i => Commands.clearEventRecords i
  | _, .getEventInterruptPolicy => Commands.getEventInterruptPolicy
  | _, .setEventInterruptPolicy i => Commands.setEventInterruptPolicy i
  | _, .getMctpEventInterruptPolicy => Commands.getMctpEventInterruptPolicy
  | _, .setMctpEventInterruptPolicy eventInterruptSettings =>
      Commands.setMctpEventInterruptPolicy eventInterruptSettings
  | _, .eventNotification event => Commands.eventNotification event
  | _, .getFwInfo => Commands.getFwInfo
  | _, .transferFw i => Commands.transferFw i
  | _, .activateFw action slot => Commands.activateFw action slot
  | _, .getTimestamp => Commands.getTimestamp
  | _, .setTimestamp timestamp => Commands.setTimestamp timestamp
  | _, .getSupportedLogs => Commands.getSupportedLogs
  | _, .getLog i => Commands.getLog i
  | _, .getLogCel i => Commands.getLogCel i
  | _, .getLogCapabilities uuid => Commands.getLogCapabilities uuid
  | _, .clearLog uuid => Commands.clearLog uuid
  | _, .populateLog uuid => Commands.populateLog uuid
  | _, .getSupportedLogsSublist maxEntries startIndex => Commands.getSupportedLogsSublist maxEntries startIndex
  | _, .getSupportedFeatures count startingFeatureIndex => Commands.getSupportedFeatures count startingFeatureIndex
  | _, .getFeature i => Commands.getFeature i
  | _, .setFeature i => Commands.setFeature i
  | _, .performMaintenance maintOpClass maintOpSubclass params =>
      Commands.performMaintenance maintOpClass maintOpSubclass params
  | _, .vendorSpecific i => Commands.vendorSpecific i
  | _, .memdevIdentify => Commands.memdevIdentify
  | _, .memdevGetPartitionInfo => Commands.memdevGetPartitionInfo
  | _, .memdevSetPartitionInfo volatileCapacity flags => Commands.memdevSetPartitionInfo volatileCapacity flags
  | _, .memdevGetLsa offset length => Commands.memdevGetLsa offset length
  | _, .memdevSetLsa offset data => Commands.memdevSetLsa offset data
  | _, .memdevGetHealthInfo => Commands.memdevGetHealthInfo
  | _, .memdevGetAlertConfig => Commands.memdevGetAlertConfig
  | _, .memdevSetAlertConfig i => Commands.memdevSetAlertConfig i
  | _, .memdevGetShutdownState => Commands.memdevGetShutdownState
  | _, .memdevSetShutdownState state => Commands.memdevSetShutdownState state
  | _, .getPoisonList phyAddr phyAddrLen => Commands.getPoisonList phyAddr phyAddrLen
  | _, .memdevInjectPoison phyAddr => Commands.memdevInjectPoison phyAddr
  | _, .memdevClearPoison phyAddr writeData => Commands.memdevClearPoison phyAddr writeData
  | _, .memdevGetScanMediaCapabilities startPhysaddr physaddrLength =>
      Commands.memdevGetScanMediaCapabilities startPhysaddr physaddrLength
  | _, .memdevScanMedia physaddr physaddrLength flags => Commands.memdevScanMedia physaddr physaddrLength flags
  | _, .memdevGetScanMediaResults => Commands.memdevGetScanMediaResults
  | _, .memdevSanitize => Commands.memdevSanitize
  | _, .memdevSecureErase => Commands.memdevSecureErase
  | _, .memdevMediaOperationsDiscovery i => Commands.memdevMediaOperationsDiscovery i
  | _, .memdevMediaOperationsSanitize i => Commands.memdevMediaOperationsSanitize i
  | _, .memdevGetSecurityState => Commands.memdevGetSecurityState
  | _, .memdevSetPassphrase passphraseType currentPassphrase newPassphrase =>
      Commands.memdevSetPassphrase passphraseType currentPassphrase newPassphrase
  | _, .memdevDisablePassphrase passphraseType passphrase => Commands.memdevDisablePassphrase passphraseType passphrase
  | _, .memdevUnlock currentPassphrase => Commands.memdevUnlock currentPassphrase
  | _, .memdevFreezeSecurityState => Commands.memdevFreezeSecurityState
  | _, .memdevPassphraseSecureErase passphraseType passphrase =>
      Commands.memdevPassphraseSecureErase passphraseType passphrase
  | _, .memdevSecuritySend securityProtocol spSpecific data =>
      Commands.memdevSecuritySend securityProtocol spSpecific data
  | _, .memdevSecurityReceive securityProtocol spSpecific => Commands.memdevSecurityReceive securityProtocol spSpecific
  | _, .memdevGetSldQosControl => Commands.memdevGetSldQosControl
  | _, .memdevSetSldQosControl i => Commands.memdevSetSldQosControl i
  | _, .memdevGetSldQosStatus => Commands.memdevGetSldQosStatus
  | _, .memdevGetDcExtentList extentCnt startExtentIdx => Commands.memdevGetDcExtentList extentCnt startExtentIdx
  | _, .memdevAddDcResponse i => Commands.memdevAddDcResponse i
  | _, .memdevReleaseDc i => Commands.memdevReleaseDc i
  | _, .memdevGetDcConfig regionCnt startRegionId => Commands.memdevGetDcConfig regionCnt startRegionId
  | _, .fmapiGetDcRegConfig hostId regionCnt startRegionId =>
      Commands.fmapiGetDcRegConfig hostId regionCnt startRegionId
  | _, .fmapiIdentifySwDevice => Commands.fmapiIdentifySwDevice
  | _, .fmapiGetPhysPortState i => Commands.fmapiGetPhysPortState i
  | _, .fmapiPhysPortControl ppbId portOpcode => Commands.fmapiPhysPortControl ppbId portOpcode
  | _, .fmapiSendPpbCxlioConfigRequest ppbId field1 transactionData =>
      Commands.fmapiSendPpbCxlioConfigRequest ppbId field1 transactionData
  | _, .fmapiGetDomainValidationSvState => Commands.fmapiGetDomainValidationSvState
  | _, .fmapiSetDomainValidationSv secretValueUuid => Commands.fmapiSetDomainValidationSv secretValueUuid
  | _, .fmapiGetVcsDomainValidationSvState vcsId => Commands.fmapiGetVcsDomainValidationSvState vcsId
  | _, .fmapiGetDomainValidationSv vcsId => Commands.fmapiGetDomainValidationSv vcsId
  | _, .fmapiGetVcsInfo i => Commands.fmapiGetVcsInfo i
  | _, .fmapiBindVppb vcsId vppbId portId ldId => Commands.fmapiBindVppb vcsId vppbId portId ldId
  | _, .fmapiUnbindVppb vcsId vppbId option => Commands.fmapiUnbindVppb vcsId vppbId option
  | _, .fmapiSendLdCxlioConfigRequest ppbId field1 ldId transactionData =>
      Commands.fmapiSendLdCxlioConfigRequest ppbId field1 ldId transactionData
  | _, .fmapiSendLdCxlioMemRequest i => Commands.fmapiSendLdCxlioMemRequest i
  | _, .fmapiGetLdInfo => Commands.fmapiGetLdInfo
  | _, .fmapiGetLdAllocations startLdId ldAllocationListLimit =>
      Commands.fmapiGetLdAllocations startLdId ldAllocationListLimit
  | _, .fmapiSetLdAllocations i => Commands.fmapiSetLdAllocations i
  | _, .fmapiGetQosControl => Commands.fmapiGetQosControl
  | _, .fmapiSetQosControl i => Commands.fmapiSetQosControl i
  | _, .fmapiGetQosStatus => Commands.fmapiGetQosStatus
  | _, .fmapiGetQosAllocatedBw numberLd startLdId => Commands.fmapiGetQosAllocatedBw numberLd startLdId
  | _, .fmapiSetQosAllocatedBw i => Commands.fmapiSetQosAllocatedBw i
  | _, .fmapiGetQosBwLimit numberLd startLdId => Commands.fmapiGetQosBwLimit numberLd startLdId
  | _, .fmapiSetQosBwLimit i => Commands.fmapiSetQosBwLimit i
  | _, .fmapiGetMultiheadedInfo startLdId ldMapListLimit => Commands.fmapiGetMultiheadedInfo startLdId ldMapListLimit
  | _, .fmapiGetHeadInfo startHead numHeads => Commands.fmapiGetHeadInfo startHead numHeads
  | _, .fmapiGetDcdInfo => Commands.fmapiGetDcdInfo
  | _, .fmapiSetDcRegionConfig regionId blockSz sanitizeOnRelease =>
      Commands.fmapiSetDcRegionConfig regionId blockSz sanitizeOnRelease
  | _, .fmapiGetDcRegionExtList i => Commands.fmapiGetDcRegionExtList i
  | _, .fmapiInitiateDcAdd selectionPolicy regionNum i => Commands.fmapiInitiateDcAdd selectionPolicy regionNum i
  | _, .fmapiInitiateDcRelease flags i => Commands.fmapiInitiateDcRelease flags i
  | _, .fmapiDcAddReference tag => Commands.fmapiDcAddReference tag
  | _, .fmapiDcRemoveReference tag => Commands.fmapiDcRemoveReference tag
  | _, .fmapiDcListTags startIdx tagsCount => Commands.fmapiDcListTags startIdx tagsCount

end LibCxlmi.Commands
