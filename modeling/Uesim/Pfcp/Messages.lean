import Uesim.Asn1.BitMessages
import Uesim.Library.FieldMemory
import Uesim.Library.Tlv

/-!
# PFCP messages

The messages between SMF and UPF that `pfcp_encode_message` has a case for. Each function of the encoder
writes information elements, whose lengths it announces by its own computation before or after it writes the
content. The decoder goes through the elements by these lengths and stores what it knows into the union of all
payloads, whatever the type of the message is.
-/

namespace Uesim

open Bytes BitMemory FieldMemory Tlv

def pfcpMaxMessageSize : Nat := 65535

/-! ### Structures -/

structure PfcpNodeId where
  nodeIdType : Byte
  ipv4Address : Word

structure PfcpFSeid where
  seid : BitVec 64
  ipv4Address : Word
  ipv6Address : Octets 16
  v4Present : Byte
  v6Present : Byte

structure PfcpFTeid where
  teid : Word
  ipv4Address : Word
  v4Present : Byte
  v6Present : Byte
  chid : Byte

structure PfcpUeIpAddress where
  ipv4Address : Word
  v4Present : Byte
  sd : Byte

structure PfcpPdi where
  sourceInterface : Byte
  ueIpPresent : Byte
  ueIp : PfcpUeIpAddress
  fTeidPresent : Byte
  fTeid : PfcpFTeid

structure PfcpPdr where
  pdrId : BitVec 16
  precedence : Byte
  pdi : PfcpPdi
  farIdPresent : Byte
  farId : Word

structure PfcpFar where
  farId : Word
  applyAction : Byte
  forwardingParamsPresent : Byte
  destinationInterface : Byte
  outerHeaderCreationPresent : Byte
  outerHeaderCreation : PfcpFTeid

structure PfcpQer where
  qerId : Word
  ulGateStatus : Byte
  dlGateStatus : Byte
  ulMbr : BitVec 64
  dlMbr : BitVec 64
  ulGbr : BitVec 64
  dlGbr : BitVec 64
  qfiPresent : Byte
  qfi : Byte
  qerCorrelationIdPresent : Byte
  qerCorrelationId : Word

structure PfcpUrr where
  urrId : Word
  measurementMethod : Byte
  reportingTriggers : Byte
  volumeThresholdPresent : Byte
  totalVolumeThreshold : BitVec 64
  uplinkVolumeThreshold : BitVec 64
  downlinkVolumeThreshold : BitVec 64
  timeThresholdPresent : Byte
  timeThreshold : Word
  volumeQuotaPresent : Byte
  totalVolumeQuota : BitVec 64
  timeQuotaPresent : Byte
  timeQuota : Word
  quotaValidityTimePresent : Byte
  quotaValidityTime : Word

structure PfcpUsageReport where
  urrId : Word

structure PfcpSessionEstablishmentRequest where
  cpNodeId : PfcpNodeId
  cpFSeid : PfcpFSeid
  createPdr : Counted 8 PfcpPdr 64
  createFar : Counted 8 PfcpFar 64
  createQer : Counted 8 PfcpQer 64
  createUrr : Counted 8 PfcpUrr 32
  apnDnn : Counted 8 Byte 256
  sst : Byte
  sd : Word
  snssaiPresent : Byte

/-- The entries of `created_pdr_ids` come with those of `created_pdr_teids`. -/
structure PfcpSessionEstablishmentResponse where
  upNodeId : PfcpNodeId
  cause : Word
  upFSeidPresent : Byte
  upFSeid : PfcpFSeid
  createdPdr : Counted 8 (BitVec 16 × PfcpFTeid) 64

structure PfcpSessionDeletionRequest where
  cpFSeid : PfcpFSeid

structure PfcpSessionDeletionResponse where
  cause : Word
  numUsageReports : Byte

structure PfcpAssociationSetupRequest where
  nodeId : PfcpNodeId
  recoveryTimeStamp : BitVec 64
  cpFunctionFeatures : Byte
  upFunctionFeaturesPresent : Byte
  upFunctionFeatures : Byte

structure PfcpAssociationSetupResponse where
  nodeId : PfcpNodeId
  cause : Word
  recoveryTimeStamp : BitVec 64
  upFunctionFeaturesPresent : Byte
  upFunctionFeatures : Byte
  cpFunctionFeatures : Byte

structure PfcpSessionReportRequest where
  upFSeid : PfcpFSeid
  usageReports : Counted 8 PfcpUsageReport 32

structure PfcpSessionReportResponse where
  cause : Word

structure PfcpHeartbeat where
  recoveryTimeStamp : BitVec 64

/-- The member of the union that belongs to the message type. Types without a case in the encoder have
none. -/
inductive PfcpPayload where
  | heartbeatRequest (heartbeat : PfcpHeartbeat)
  | heartbeatResponse (heartbeat : PfcpHeartbeat)
  | associationSetupRequest (req : PfcpAssociationSetupRequest)
  | associationSetupResponse (resp : PfcpAssociationSetupResponse)
  | sessionEstRequest (req : PfcpSessionEstablishmentRequest)
  | sessionEstResponse (resp : PfcpSessionEstablishmentResponse)
  | sessionDelRequest (req : PfcpSessionDeletionRequest)
  | sessionDelResponse (resp : PfcpSessionDeletionResponse)
  | sessionReportRequest (req : PfcpSessionReportRequest)
  | sessionReportResponse (resp : PfcpSessionReportResponse)
  | other (messageType : Word)

def PfcpPayload.messageType : PfcpPayload → Word
  | heartbeatRequest _ => 1
  | heartbeatResponse _ => 2
  | associationSetupRequest _ => 5
  | associationSetupResponse _ => 6
  | sessionEstRequest _ => 50
  | sessionEstResponse _ => 51
  | sessionDelRequest _ => 54
  | sessionDelResponse _ => 55
  | sessionReportRequest _ => 56
  | sessionReportResponse _ => 57
  | other messageType => messageType

structure PfcpMessage where
  sequenceNumber : Word
  version : Byte
  mp : Byte
  s : Byte
  seid : BitVec 64
  payload : PfcpPayload

/-! ### Information elements -/

inductive PfcpIeType where
  | createPdr
  | pdi
  | createFar
  | createUrr
  | createQer
  | createdPdr
  | cause
  | sourceInterface
  | fTeid
  | sdfFilter
  | gateStatus
  | mbr
  | gbr
  | qerCorrelationId
  | destinationInterface
  | volumeThreshold
  | timeThreshold
  | reportingTriggers
  | pdrId
  | nodeId
  | measurementMethod
  | volumeQuota
  | timeQuota
  | quotaValidityTime
  | recoveryTimeStamp
  | apnDnn
  | outerHeaderCreation
  | ueIpAddress
  | priority
  | cpFunctionFeatures
  | upFunctionFeatures
  | fSeid
  | farId
  | qerId
  | urrId

def PfcpIeType.value : PfcpIeType → BitVec 16
  | createPdr => 1
  | pdi => 2
  | createFar => 3
  | createUrr => 6
  | createQer => 7
  | createdPdr => 8
  | cause => 19
  | sourceInterface => 20
  | fTeid => 21
  | sdfFilter => 23
  | gateStatus => 25
  | mbr => 26
  | gbr => 27
  | qerCorrelationId => 28
  | destinationInterface => 30
  | volumeThreshold => 36
  | timeThreshold => 37
  | reportingTriggers => 42
  | pdrId => 56
  | nodeId => 60
  | measurementMethod => 62
  | volumeQuota => 64
  | timeQuota => 65
  | quotaValidityTime => 66
  | recoveryTimeStamp => 75
  | apnDnn => 82
  | outerHeaderCreation => 84
  | ueIpAddress => 93
  | priority => 96
  | cpFunctionFeatures => 101
  | upFunctionFeatures => 102
  | fSeid => 105
  | farId => 108
  | qerId => 109
  | urrId => 110

def pfcpIe (type : PfcpIeType) (len : BitVec 16) (content : List Byte) : Element :=
  .plain type.value len content

def pfcpGroupedIe (type : PfcpIeType) (len : BitVec 16) (members : List Element) : Element :=
  .grouped type.value len members

/-- A grouped element whose length is filled in when its content is written. -/
def pfcpPatchedIe (type : PfcpIeType) (members : List Element) : Element :=
  pfcpGroupedIe type (BitVec.ofNat 16 (elementsBytes members).length) members

def pfcpIf {α : Type} (present : Byte) (items : List α) : List α := if present = 0 then [] else items

def pfcpLenIf (present : Byte) (len : BitVec 16) : BitVec 16 := if present = 0 then 0 else len

section

variable {α : Type} {present : Byte} {items : List α} {len : BitVec 16}

theorem pfcpIf_of_eq (h : present = 0) : pfcpIf present items = [] := if_pos h

theorem pfcpIf_of_ne (h : present ≠ 0) : pfcpIf present items = items := if_neg h

theorem pfcpLenIf_of_eq (h : present = 0) : pfcpLenIf present len = 0 := if_pos h

theorem pfcpLenIf_of_ne (h : present ≠ 0) : pfcpLenIf present len = len := if_neg h

end

/-! ### Encoder -/

def pfcpEncodeNodeId (nodeId : PfcpNodeId) : List Element :=
  if nodeId.nodeIdType = 0 then [pfcpIe .nodeId 5 (0 :: beBytes nodeId.ipv4Address 4)] else []

/-- `buf[2] = 13` sets the upper byte of the length. -/
def pfcpFSeidLen (fSeid : PfcpFSeid) : BitVec 16 := if fSeid.v4Present = 0 then 9 else 13 <<< 8 ||| 9

def pfcpEncodeFSeid (fSeid : PfcpFSeid) : Element :=
  pfcpIe .fSeid (pfcpFSeidLen fSeid)
    ((fSeid.v4Present ||| fSeid.v6Present <<< 1) :: beBytes fSeid.seid 8
      ++ pfcpIf fSeid.v4Present (beBytes fSeid.ipv4Address 4))

/-- Nothing is written for `chid`, though it is counted. -/
def pfcpEncodeFTeid (teid : PfcpFTeid) : Element :=
  pfcpIe .fTeid (5 + pfcpLenIf teid.v4Present 4 + pfcpLenIf teid.chid 1)
    ((teid.v4Present ||| teid.v6Present <<< 1 ||| teid.chid <<< 2) :: beBytes teid.teid 4
      ++ pfcpIf teid.v4Present (beBytes teid.ipv4Address 4))

def pfcpEncodeCause (cause : Word) : Element := pfcpIe .cause 1 [cause.setWidth 8]

def pfcpEncodePdi (pdi : PfcpPdi) : Element :=
  pfcpGroupedIe .pdi (2 + pfcpLenIf pdi.fTeidPresent (4 + 9) + pfcpLenIf pdi.ueIpPresent (4 + 5))
    (pfcpIe .sourceInterface 1 [pdi.sourceInterface]
      :: pfcpIf pdi.fTeidPresent [pfcpEncodeFTeid pdi.fTeid]
      ++ pfcpIf pdi.ueIpPresent
        [pfcpIe .ueIpAddress 5
          ((pdi.ueIp.sd ||| pdi.ueIp.v4Present <<< 2) :: beBytes pdi.ueIp.ipv4Address 4)])

/-- The header of a PDI is written in front of what `pfcp_encode_pdi` writes, which begins with such a header,
too. The FAR id is counted for the outer one. -/
def pfcpEncodeCreatePdr (pdr : PfcpPdr) : Element :=
  pfcpPatchedIe .createPdr
    [pfcpIe .pdrId 2 (beBytes pdr.pdrId 2), pfcpIe .priority 1 [pdr.precedence],
      pfcpPatchedIe .pdi
        (pfcpEncodePdi pdr.pdi :: pfcpIf pdr.farIdPresent [pfcpIe .farId 4 (beBytes pdr.farId 4)])]

def pfcpEncodeCreateFar (far : PfcpFar) : Element :=
  pfcpGroupedIe .createFar
    (4 + 4 + pfcpLenIf far.forwardingParamsPresent
      (4 + 1 + pfcpLenIf far.outerHeaderCreationPresent (4 + 9)))
    ([pfcpIe .farId 4 (beBytes far.farId 4), pfcpIe .gateStatus 1 [far.applyAction]]
      ++ pfcpIf far.forwardingParamsPresent
        (pfcpIe .destinationInterface 1 [far.destinationInterface]
          :: pfcpIf far.outerHeaderCreationPresent
            [pfcpIe .outerHeaderCreation 9
              (1 :: beBytes far.outerHeaderCreation.teid 4
                ++ beBytes far.outerHeaderCreation.ipv4Address 4)]))

def pfcpEncodeCreateQer (qer : PfcpQer) : Element :=
  pfcpGroupedIe .createQer
    (4 + 4 + (4 + 8 + 8) + (4 + 8 + 8) + pfcpLenIf qer.qfiPresent (4 + 1)
      + pfcpLenIf qer.qerCorrelationIdPresent (4 + 4))
    ([pfcpIe .qerId 4 (beBytes qer.qerId 4),
        pfcpIe .gateStatus 1 [qer.ulGateStatus <<< 4 ||| (qer.dlGateStatus &&& 0x0F)],
        pfcpIe .mbr 8 (beBytes qer.ulMbr 8), pfcpIe .mbr 8 (beBytes qer.dlMbr 8),
        pfcpIe .gbr 8 (beBytes qer.ulGbr 8), pfcpIe .gbr 8 (beBytes qer.dlGbr 8)]
      ++ pfcpIf qer.qfiPresent [pfcpIe .qerCorrelationId 1 [qer.qfi]]
      ++ pfcpIf qer.qerCorrelationIdPresent [pfcpIe .qerCorrelationId 4 (beBytes qer.qerCorrelationId 4)])

def pfcpEncodeCreateUrr (urr : PfcpUrr) : Element :=
  pfcpGroupedIe .createUrr
    (4 + 4 + (4 + 1) + pfcpLenIf urr.volumeThresholdPresent (4 + 24)
      + pfcpLenIf urr.timeThresholdPresent (4 + 4) + pfcpLenIf urr.volumeQuotaPresent (4 + 8)
      + pfcpLenIf urr.timeQuotaPresent (4 + 4) + pfcpLenIf urr.quotaValidityTimePresent (4 + 4))
    ([pfcpIe .urrId 4 (beBytes urr.urrId 4), pfcpIe .measurementMethod 1 [urr.measurementMethod],
        pfcpIe .reportingTriggers 1 [urr.reportingTriggers]]
      ++ pfcpIf urr.volumeThresholdPresent
        [pfcpIe .volumeThreshold 24
          (beBytes urr.totalVolumeThreshold 8 ++ beBytes urr.uplinkVolumeThreshold 8
            ++ beBytes urr.downlinkVolumeThreshold 8)]
      ++ pfcpIf urr.timeThresholdPresent [pfcpIe .timeThreshold 4 (beBytes urr.timeThreshold 4)]
      ++ pfcpIf urr.volumeQuotaPresent [pfcpIe .volumeQuota 8 (beBytes urr.totalVolumeQuota 8)]
      ++ pfcpIf urr.timeQuotaPresent [pfcpIe .timeQuota 4 (beBytes urr.timeQuota 4)]
      ++ pfcpIf urr.quotaValidityTimePresent
        [pfcpIe .quotaValidityTime 4 (beBytes urr.quotaValidityTime 4)])

def pfcpEncodeRecoveryTimeStamp (ts : BitVec 64) : Element :=
  pfcpIe .recoveryTimeStamp 4 (beBytes ts 4)

/-- The id of the PDR stands in front of the F-TEID without a header. -/
def pfcpEncodeCreatedPdr (created : BitVec 16 × PfcpFTeid) : Element :=
  pfcpIe .createdPdr 7 (beBytes created.1 2 ++ elementsBytes [pfcpEncodeFTeid created.2])

/-- Start time, end time and duration are counted, but not written. -/
def pfcpEncodeUsageReport (report : PfcpUsageReport) : Element :=
  .grouped 73 (4 + 4 + 4 + 4) [pfcpIe .urrId 4 (beBytes report.urrId 4)]

def pfcpEncodeSNssai (sst : Byte) (sd : Word) : Element :=
  if sd = 0 then pfcpIe .sdfFilter 1 [sst] else pfcpIe .sdfFilter 4 (sst :: beBytes sd 3)

def pfcpEncodeRules (req : PfcpSessionEstablishmentRequest) : List Element :=
  req.createPdr.items.map pfcpEncodeCreatePdr ++ req.createFar.items.map pfcpEncodeCreateFar
    ++ req.createQer.items.map pfcpEncodeCreateQer ++ req.createUrr.items.map pfcpEncodeCreateUrr
    ++ pfcpIf req.apnDnn.count [pfcpIe .apnDnn (req.apnDnn.count.setWidth 16) req.apnDnn.items]
    ++ pfcpIf req.snssaiPresent [pfcpEncodeSNssai req.sst req.sd]

def pfcpEncodePayload : PfcpPayload → Option (List Element)
  | .heartbeatRequest heartbeat | .heartbeatResponse heartbeat =>
      some [pfcpEncodeRecoveryTimeStamp heartbeat.recoveryTimeStamp]
  | .associationSetupRequest req =>
      some (pfcpEncodeNodeId req.nodeId
        ++ [pfcpEncodeRecoveryTimeStamp req.recoveryTimeStamp,
          pfcpIe .cpFunctionFeatures 1 [req.cpFunctionFeatures]])
  | .associationSetupResponse resp =>
      some (pfcpEncodeNodeId resp.nodeId
        ++ [pfcpEncodeCause resp.cause, pfcpEncodeRecoveryTimeStamp resp.recoveryTimeStamp]
        ++ pfcpIf resp.upFunctionFeaturesPresent [pfcpIe .upFunctionFeatures 1 [resp.upFunctionFeatures]])
  | .sessionEstRequest req =>
      some (pfcpEncodeNodeId req.cpNodeId ++ pfcpEncodeFSeid req.cpFSeid :: pfcpEncodeRules req)
  | .sessionEstResponse resp =>
      some (pfcpEncodeNodeId resp.upNodeId ++ [pfcpEncodeCause resp.cause]
        ++ pfcpIf resp.upFSeidPresent [pfcpEncodeFSeid resp.upFSeid]
        ++ resp.createdPdr.items.map pfcpEncodeCreatedPdr)
  | .sessionDelRequest _ => some []
  | .sessionDelResponse resp => some [pfcpEncodeCause resp.cause]
  | .sessionReportRequest req =>
      some (pfcpEncodeFSeid req.upFSeid :: req.usageReports.items.map pfcpEncodeUsageReport)
  | .sessionReportResponse resp => some [pfcpEncodeCause resp.cause]
  | .other _ => none

def pfcpHeaderLen (msg : PfcpMessage) : Nat := if msg.s = 0 then 8 else 16

/-- The last byte of the header is not written. -/
def pfcpEncodeHeader (buf : Memory) (msg : PfcpMessage) (bodyLen : Nat) : List Byte :=
  [msg.version <<< 5 ||| msg.mp <<< 4 ||| msg.s <<< 3, msg.payload.messageType.setWidth 8]
    ++ beBytes (BitVec.ofNat 16 bodyLen) 2 ++ pfcpIf msg.s (beBytes msg.seid 8)
    ++ [(msg.sequenceNumber >>> 24).setWidth 8, (msg.sequenceNumber >>> 16).setWidth 8,
      (msg.sequenceNumber >>> 8).setWidth 8, buf (pfcpHeaderLen msg - 1)]

/-- `memory` is what `malloc` returns. -/
def pfcpEncodeMessage (memory : Option Memory) (msg : PfcpMessage) : Option (List Byte) := do
  let buf ← memory
  let ies ← pfcpEncodePayload msg.payload
  let body := elementsBytes ies
  return pfcpEncodeHeader buf msg body.length ++ body

theorem length_pfcpEncodeHeader (buf : Memory) (msg : PfcpMessage) (bodyLen : Nat) :
    (pfcpEncodeHeader buf msg bodyLen).length = pfcpHeaderLen msg := by
  rw [pfcpEncodeHeader, pfcpHeaderLen]
  by_cases hs : msg.s = 0
  · rw [pfcpIf_of_eq hs, if_pos hs]
    rfl
  · rw [pfcpIf_of_ne hs, if_neg hs]
    rfl

theorem pfcpEncodeMessage_eq {msg : PfcpMessage} {ies : List Element}
    (hies : pfcpEncodePayload msg.payload = some ies) (memory : Memory) :
    pfcpEncodeMessage (some memory) msg
      = some (pfcpEncodeHeader memory msg (elementsBytes ies).length ++ elementsBytes ies) := by
  rw [pfcpEncodeMessage, hies]
  rfl

/-! ### Decoder -/

/-- What is decoded. The payload is the memory of the union. -/
structure PfcpDecoded where
  messageType : Word
  sequenceNumber : Word
  messageLength : BitVec 16
  version : Byte
  mp : Byte
  s : Byte
  seid : BitVec 64
  payload : Memory

/-- The type of a node id lies first, and the IPv4 address at 4. -/
def pfcpDecodeNodeId (mem : Memory) (offset : Nat) (bytes : List Byte) : Memory :=
  if bytes.length < 1 then mem
  else
    let nodeIdType := beValue 8 (bytes.take 1)
    let mem := store mem offset nodeIdType 1
    if nodeIdType = 0 ∧ 5 ≤ bytes.length then
      store mem (offset + 4) (beValue 32 ((bytes.drop 1).take 4)) 4
    else mem

/-- In a F-SEID the IPv4 address lies at 8, and the two flags at 28 and 29. -/
def pfcpDecodeFSeid (mem : Memory) (offset : Nat) (bytes : List Byte) : Memory :=
  if bytes.length < 9 then mem
  else
    let flags := beValue 8 (bytes.take 1)
    let mem := store mem (offset + 28) (flags &&& 1) 1
    let mem := store mem (offset + 29) (flags >>> 1 &&& 1) 1
    let mem := store mem offset (beValue 64 ((bytes.drop 1).take 8)) 8
    if flags &&& 1 ≠ 0 ∧ 13 ≤ bytes.length then
      store mem (offset + 8) (beValue 32 ((bytes.drop 9).take 4)) 4
    else mem

/-- One turn of the loop over the elements. The offsets are those of the fields in the union, in the order of
the cases: `association_setup_request.node_id`, `session_est_request.cp_f_seid`,
`session_est_response.cause`, `heartbeat.recovery_time_stamp`,
`association_setup_request.cp_function_features`, and the two of `association_setup_response` for the features
of the UPF, where the compiler aligns each field to its size. -/
def pfcpDecodeIe (mem : Memory) (ie : BitVec 16 × List Byte) : Memory :=
  if ie.1 = PfcpIeType.nodeId.value then pfcpDecodeNodeId mem 0 ie.2
  else if ie.1 = PfcpIeType.fSeid.value then pfcpDecodeFSeid mem 280 ie.2
  else if ie.1 = PfcpIeType.cause.value then
    if 1 ≤ ie.2.length then store mem 280 ((beValue 8 (ie.2.take 1)).setWidth 32) 4 else mem
  else if ie.1 = PfcpIeType.recoveryTimeStamp.value then
    if 4 ≤ ie.2.length then store mem 0 ((beValue 32 (ie.2.take 4)).setWidth 64) 8 else mem
  else if ie.1 = PfcpIeType.cpFunctionFeatures.value then
    if 1 ≤ ie.2.length then store mem 288 (beValue 8 (ie.2.take 1)) 1 else mem
  else if ie.1 = PfcpIeType.upFunctionFeatures.value then
    if 1 ≤ ie.2.length then store (store mem 297 (beValue 8 (ie.2.take 1)) 1) 296 (1 : Byte) 1 else mem
  else mem

def pfcpDecodeIes (mem : Memory) (bytes : List Byte) : Memory := (walk bytes).foldl pfcpDecodeIe mem

/-- The header is longer if the flag for the SEID is set. -/
def pfcpDecodeHeaderLen (buffer : List Byte) : Nat := if buffer.getD 0 0 >>> 3 &&& 1 = 0 then 8 else 16

def pfcpDecodeFields (buffer : List Byte) : PfcpDecoded where
  messageType := (buffer.getD 1 0).setWidth 32
  sequenceNumber := beValue 32 ((buffer.drop (pfcpDecodeHeaderLen buffer - 4)).take 3)
  messageLength := beValue 16 ((buffer.drop 2).take 2)
  version := buffer.getD 0 0 >>> 5 &&& 7
  mp := buffer.getD 0 0 >>> 4 &&& 1
  s := buffer.getD 0 0 >>> 3 &&& 1
  seid := if buffer.getD 0 0 >>> 3 &&& 1 = 0 then 0 else beValue 64 ((buffer.drop 4).take 8)
  payload := pfcpDecodeIes zeros (buffer.drop (pfcpDecodeHeaderLen buffer))

def pfcpDecodeMessage (buffer : List Byte) : Option PfcpDecoded :=
  if buffer.length < 4 ∨ buffer.length < pfcpDecodeHeaderLen buffer then none
  else some (pfcpDecodeFields buffer)

end Uesim
