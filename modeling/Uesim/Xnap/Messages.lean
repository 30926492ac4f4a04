import Uesim.Asn1.BitMessages

/-!
# XnAP messages

The messages between base stations, with their encoder and their decoder. A helper of the encoder is the list
of the calls to `asn1_encode_bits` that it makes. Arrays with a count are what the loops over them visit,
parallel arrays are lists of records, and fields that neither direction touches are left out.
-/

namespace Uesim

open Bytes BitMemory

def xnapMaxMessageSize : Nat := 65535

/-! ### Structures -/

structure XnapCause where
  causeType : Word
  causeValue : Byte

structure XnapPlmnId where
  mcc : Octets 3
  mnc : Octets 3
  mncLength : Byte

structure XnapGlobalGnbId where
  mcc : Octets 3
  mnc : Octets 3
  mncLength : Byte
  gnbIdLength : Byte
  gnbId : BitVec 64

structure XnapUeIds where
  sourceGnbUeXnapId : Word
  targetGnbUeXnapId : Word

structure XnapSlice where
  sst : Byte
  sd : Word

structure XnapServedCellInfo where
  nrCellId : BitVec 64
  pci : BitVec 16
  tac : Word
  plmns : Counted 8 XnapPlmnId 12
  slices : Counted 8 XnapSlice 8
  ngranDuplexMode : BitVec 16

structure XnapTnlInfo where
  transportType : Byte
  ipAddress : Word
  port : BitVec 16
  teid : Word

structure XnapQosFlow where
  qfi : Byte
  fiveQi : Byte
  gfbrUl : BitVec 64
  gfbrDl : BitVec 64

structure XnapDrbInfo where
  drbId : Byte
  pdcpSnSize : Byte
  rlcMode : Byte
  qosFlows : Counted 8 XnapQosFlow 64
  dlUpTnlInfo : Counted 8 XnapTnlInfo 8

/-- `drbs_failed` and `drb_fail_causes` at one index. -/
structure XnapFailedDrb where
  drbId : Byte
  cause : XnapCause

/-! ### Messages

A field behind a flag for its presence is an array of one entry with the flag as its count. -/

structure XnapXnSetupRequest where
  globalGnbId : XnapGlobalGnbId
  gnbName : List Byte
  servedCells : Counted 8 XnapServedCellInfo 64
  gnbCuId : Counted 8 (BitVec 64) 1
  gnbDuId : Counted 8 Word 1

structure XnapXnSetupResponse where
  globalGnbId : XnapGlobalGnbId
  gnbName : List Byte
  servedCells : Counted 8 XnapServedCellInfo 64
  gnbCuId : Counted 8 (BitVec 64) 1

structure XnapXnSetupFailure where
  cause : XnapCause
  timeToWait : Word

structure XnapHandoverRequest where
  ueIds : XnapUeIds
  amfUeId : BitVec 64
  ranUeId : BitVec 64
  targetGnbId : XnapGlobalGnbId
  targetCellId : BitVec 64
  sourceToTargetContainer : Container
  drbsToSetup : Counted 8 XnapDrbInfo 8
  ueAmbrDl : BitVec 64
  ueAmbrUl : BitVec 64
  snssai : Counted 8 XnapSlice 1
  securityKey : Counted 8 (Octets 32) 1
  plmn : XnapPlmnId

structure XnapHandoverRequestAck where
  ueIds : XnapUeIds
  targetToSourceContainer : Container
  drbsSetup : Counted 8 XnapDrbInfo 8
  drbsFailed : Counted 8 XnapFailedDrb 8

/-- The identifiers of a UE and a cause, as a preparation failure and a cancellation have them. -/
structure XnapUeCause where
  ueIds : XnapUeIds
  cause : XnapCause

structure XnapHandoverCommand where
  ueIds : XnapUeIds
  handoverCommand : Container

structure XnapHandoverNotify where
  ueIds : XnapUeIds
  targetCellId : BitVec 64
  pci : BitVec 16

structure XnapAssistanceData where
  pagingAttemptCount : Byte
  intendedNPagingAttempts : Byte

structure XnapPaging where
  amfUeId : BitVec 64
  ueIdentityIndex : BitVec 16
  pagingIdentityType : Byte
  pagingIdentity : BitVec 64
  taiList : Counted 8 Word 16
  pagingCause : Byte
  assistanceData : Counted 8 XnapAssistanceData 1

structure XnapSgnbAdditionRequest where
  ueIds : XnapUeIds
  ranUeId : BitVec 64
  targetCellId : BitVec 64
  drbsToSetup : Counted 8 XnapDrbInfo 8
  securityKey : Counted 8 (Octets 32) 1

structure XnapSgnbAdditionRequestAck where
  ueIds : XnapUeIds
  drbsSetup : Counted 8 XnapDrbInfo 8

structure XnapErrorIndication where
  ueIds : Counted 8 XnapUeIds 1
  cause : Counted 8 XnapCause 1

inductive XnapPayload where
  | xnSetupRequest (req : XnapXnSetupRequest)
  | xnSetupResponse (resp : XnapXnSetupResponse)
  | xnSetupFailure (fail : XnapXnSetupFailure)
  | errorIndication (err : XnapErrorIndication)
  | paging (paging : XnapPaging)
  | handoverRequest (req : XnapHandoverRequest)
  | handoverRequestAck (ack : XnapHandoverRequestAck)
  | handoverPreparationFailure (fail : XnapUeCause)
  | handoverCommand (cmd : XnapHandoverCommand)
  | handoverCancel (cancel : XnapUeCause)
  | handoverCancelAck (ueIds : XnapUeIds)
  | handoverNotify (notify : XnapHandoverNotify)
  | sgnbAdditionRequest (req : XnapSgnbAdditionRequest)
  | sgnbAdditionRequestAck (ack : XnapSgnbAdditionRequestAck)
  | unhandled (messageType : Word)

def XnapPayload.messageType : XnapPayload → Word
  | xnSetupRequest _ => 0
  | xnSetupResponse _ => 1
  | xnSetupFailure _ => 2
  | errorIndication _ => 5
  | paging _ => 8
  | handoverRequest _ => 9
  | handoverRequestAck _ => 10
  | handoverPreparationFailure _ => 11
  | handoverCommand _ => 12
  | handoverCancel _ => 13
  | handoverCancelAck _ => 14
  | handoverNotify _ => 15
  | sgnbAdditionRequest _ => 21
  | sgnbAdditionRequestAck _ => 22
  | unhandled messageType => messageType

abbrev XnapMessage := InterfaceMessage XnapPayload

/-! ### Encoder -/

def xnapEncodeHeader (msg : XnapMessage) : List (Word × Nat) := msg.header XnapPayload.messageType

/-- `(uint32_t)(value >> 32)` and `(uint32_t)(value & 0xFFFFFFFF)` -/
def xnapEncodeWide (highBits : Nat) (value : BitVec 64) : List (Word × Nat) :=
  asn1EncodeWide (BitVec.allOnes 64) highBits value

def xnapEncodeGlobalGnbId (id : XnapGlobalGnbId) : List (Word × Nat) :=
  asn1EncodeOctets id.mcc ++ asn1EncodeOctets id.mnc
    ++ [(id.mncLength.setWidth 32, 3), (id.gnbIdLength.setWidth 32, 6)] ++ xnapEncodeWide 32 id.gnbId

def xnapEncodeGnbName (name : List Byte) : List (Word × Nat) := asn1EncodeName name

def xnapEncodeUeIds (ids : XnapUeIds) : List (Word × Nat) :=
  [(ids.sourceGnbUeXnapId, 32), (ids.targetGnbUeXnapId, 32)]

def xnapEncodePlmnId (plmn : XnapPlmnId) : List (Word × Nat) :=
  asn1EncodeOctets plmn.mcc ++ asn1EncodeOctets plmn.mnc ++ [(plmn.mncLength.setWidth 32, 3)]

def xnapEncodeSlice (slice : XnapSlice) : List (Word × Nat) :=
  [(slice.sst.setWidth 32, 8), (slice.sd, 24)]

def xnapEncodeServedCellInfo (cell : XnapServedCellInfo) : List (Word × Nat) :=
  xnapEncodeWide 32 cell.nrCellId ++ [(cell.pci.setWidth 32, 10), (cell.tac, 24)]
    ++ cell.plmns.fields 4 xnapEncodePlmnId ++ cell.slices.fields 4 xnapEncodeSlice
    ++ [(cell.ngranDuplexMode.setWidth 32, 4)]

def xnapEncodeTnlInfo (tnl : XnapTnlInfo) : List (Word × Nat) :=
  [(tnl.transportType.setWidth 32, 4), (tnl.ipAddress, 32), (tnl.port.setWidth 32, 16), (tnl.teid, 32)]

def xnapEncodeQosFlow (flow : XnapQosFlow) : List (Word × Nat) :=
  [(flow.qfi.setWidth 32, 6), (flow.fiveQi.setWidth 32, 8)] ++ xnapEncodeWide 32 flow.gfbrUl
    ++ xnapEncodeWide 32 flow.gfbrDl

def xnapEncodeDrbInfo (drb : XnapDrbInfo) : List (Word × Nat) :=
  [(drb.drbId.setWidth 32, 5), (drb.pdcpSnSize.setWidth 32, 4), (drb.rlcMode.setWidth 32, 2)]
    ++ drb.qosFlows.fields 6 xnapEncodeQosFlow ++ drb.dlUpTnlInfo.fields 4 xnapEncodeTnlInfo

def xnapEncodeCause (cause : XnapCause) : List (Word × Nat) :=
  [(cause.causeType, 3), (cause.causeValue.setWidth 32, 8)]

def xnapEncodeFailedDrb (drb : XnapFailedDrb) : List (Word × Nat) :=
  (drb.drbId.setWidth 32, 5) :: xnapEncodeCause drb.cause

/-- `xnap_encode_rrc_container`, for a length up to the size of the array. -/
def xnapEncodeRrcContainer (container : Container) : List (Word × Nat) := asn1EncodeContainer container

def xnapEncodeUeCause (msg : XnapUeCause) : List (Word × Nat) :=
  xnapEncodeUeIds msg.ueIds ++ xnapEncodeCause msg.cause

def xnapEncodeXnSetupRequest (req : XnapXnSetupRequest) : List (Word × Nat) :=
  xnapEncodeGlobalGnbId req.globalGnbId ++ xnapEncodeGnbName req.gnbName
    ++ req.servedCells.fields 8 xnapEncodeServedCellInfo ++ req.gnbCuId.fields 1 (xnapEncodeWide 32)
    ++ req.gnbDuId.fields 1 fun id => [(id, 32)]

def xnapEncodeXnSetupResponse (resp : XnapXnSetupResponse) : List (Word × Nat) :=
  xnapEncodeGlobalGnbId resp.globalGnbId ++ xnapEncodeGnbName resp.gnbName
    ++ resp.servedCells.fields 8 xnapEncodeServedCellInfo ++ resp.gnbCuId.fields 1 (xnapEncodeWide 32)

def xnapEncodeHandoverRequest (req : XnapHandoverRequest) : List (Word × Nat) :=
  xnapEncodeUeIds req.ueIds ++ xnapEncodeWide 8 req.amfUeId ++ xnapEncodeWide 8 req.ranUeId
    ++ xnapEncodeGlobalGnbId req.targetGnbId ++ xnapEncodeWide 32 req.targetCellId
    ++ xnapEncodeRrcContainer req.sourceToTargetContainer
    ++ req.drbsToSetup.fields 4 xnapEncodeDrbInfo ++ xnapEncodeWide 32 req.ueAmbrDl
    ++ xnapEncodeWide 32 req.ueAmbrUl ++ req.snssai.fields 1 xnapEncodeSlice
    ++ req.securityKey.fields 1 asn1EncodeOctets ++ xnapEncodePlmnId req.plmn

def xnapEncodeHandoverRequestAck (ack : XnapHandoverRequestAck) : List (Word × Nat) :=
  xnapEncodeUeIds ack.ueIds ++ xnapEncodeRrcContainer ack.targetToSourceContainer
    ++ ack.drbsSetup.fields 4 xnapEncodeDrbInfo ++ ack.drbsFailed.fields 4 xnapEncodeFailedDrb

def xnapEncodeAssistanceData (data : XnapAssistanceData) : List (Word × Nat) :=
  [(data.pagingAttemptCount.setWidth 32, 4), (data.intendedNPagingAttempts.setWidth 32, 4)]

def xnapEncodePaging (paging : XnapPaging) : List (Word × Nat) :=
  xnapEncodeWide 8 paging.amfUeId
    ++ [(paging.ueIdentityIndex.setWidth 32, 16), (paging.pagingIdentityType.setWidth 32, 1)]
    ++ xnapEncodeWide 32 paging.pagingIdentity ++ paging.taiList.fields 4 (fun tac => [(tac, 24)])
    ++ [(paging.pagingCause.setWidth 32, 1)] ++ paging.assistanceData.fields 1 xnapEncodeAssistanceData

def xnapEncodeSgnbAdditionRequest (req : XnapSgnbAdditionRequest) : List (Word × Nat) :=
  xnapEncodeUeIds req.ueIds ++ xnapEncodeWide 8 req.ranUeId ++ xnapEncodeWide 32 req.targetCellId
    ++ req.drbsToSetup.fields 4 xnapEncodeDrbInfo ++ req.securityKey.fields 1 asn1EncodeOctets

def xnapEncodePayload : XnapPayload → List (Word × Nat)
  | .xnSetupRequest req => xnapEncodeXnSetupRequest req
  | .xnSetupResponse resp => xnapEncodeXnSetupResponse resp
  | .xnSetupFailure fail => xnapEncodeCause fail.cause ++ [(fail.timeToWait, 32)]
  | .handoverRequest req => xnapEncodeHandoverRequest req
  | .handoverRequestAck ack => xnapEncodeHandoverRequestAck ack
  | .handoverPreparationFailure fail => xnapEncodeUeCause fail
  | .handoverCommand cmd => xnapEncodeUeIds cmd.ueIds ++ xnapEncodeRrcContainer cmd.handoverCommand
  | .handoverCancel cancel => xnapEncodeUeCause cancel
  | .handoverCancelAck ueIds => xnapEncodeUeIds ueIds
  | .handoverNotify notify =>
      xnapEncodeUeIds notify.ueIds ++ xnapEncodeWide 32 notify.targetCellId
        ++ [(notify.pci.setWidth 32, 10)]
  | .paging paging => xnapEncodePaging paging
  | .errorIndication err => err.ueIds.fields 1 xnapEncodeUeIds ++ err.cause.fields 1 xnapEncodeCause
  | .sgnbAdditionRequest req => xnapEncodeSgnbAdditionRequest req
  | .sgnbAdditionRequestAck ack => xnapEncodeUeIds ack.ueIds ++ ack.drbsSetup.fields 4 xnapEncodeDrbInfo
  | .unhandled _ => []

def xnapEncodeMessage (memory : Option Memory) (msg : XnapMessage) : Option (Memory × Nat) :=
  asn1EncodeMessage xnapMaxMessageSize memory (xnapEncodeHeader msg ++ xnapEncodePayload msg.payload)

/-! ### Decoder -/

/-- `xnap_decode_bits`, with its result cut to the variable it is assigned to. -/
abbrev xnapDecodeBits {n : Nat} (numBits : Nat) : BitReader 32 (BitVec n) := BitReader.bits numBits

def xnapDecodeGlobalGnbId : BitReader 32 XnapGlobalGnbId := do
  let mcc ← asn1ReadOctets 3
  let mnc ← asn1ReadOctets 3
  let mncLength ← xnapDecodeBits 3
  let gnbIdLength ← xnapDecodeBits 6
  let gnbId ← asn1ReadWide 32
  pure { mcc, mnc, mncLength, gnbIdLength, gnbId }

def xnapDecodeGnbName : BitReader 32 (List Byte) := asn1ReadName

def xnapDecodeUeIds : BitReader 32 XnapUeIds := do
  let sourceGnbUeXnapId ← xnapDecodeBits 32
  let targetGnbUeXnapId ← xnapDecodeBits 32
  pure { sourceGnbUeXnapId, targetGnbUeXnapId }

def xnapDecodePlmnId : BitReader 32 XnapPlmnId := do
  let mcc ← asn1ReadOctets 3
  let mnc ← asn1ReadOctets 3
  let mncLength ← xnapDecodeBits 3
  pure { mcc, mnc, mncLength }

def xnapDecodeSlice : BitReader 32 XnapSlice := do
  let sst ← xnapDecodeBits 8
  let sd ← xnapDecodeBits 24
  pure { sst, sd }

def xnapDecodeServedCellInfo : BitReader 32 XnapServedCellInfo := do
  let nrCellId ← asn1ReadWide 32
  let pci ← xnapDecodeBits 10
  let tac ← xnapDecodeBits 24
  let plmns ← BitReader.counted 4 xnapDecodePlmnId
  let slices ← BitReader.counted 4 xnapDecodeSlice
  let ngranDuplexMode ← xnapDecodeBits 4
  pure { nrCellId, pci, tac, plmns, slices, ngranDuplexMode }

def xnapDecodeTnlInfo : BitReader 32 XnapTnlInfo := do
  let transportType ← xnapDecodeBits 4
  let ipAddress ← xnapDecodeBits 32
  let port ← xnapDecodeBits 16
  let teid ← xnapDecodeBits 32
  pure { transportType, ipAddress, port, teid }

def xnapDecodeQosFlow : BitReader 32 XnapQosFlow := do
  let qfi ← xnapDecodeBits 6
  let fiveQi ← xnapDecodeBits 8
  let gfbrUl ← asn1ReadWide 32
  let gfbrDl ← asn1ReadWide 32
  pure { qfi, fiveQi, gfbrUl, gfbrDl }

def xnapDecodeDrbInfo : BitReader 32 XnapDrbInfo := do
  let drbId ← xnapDecodeBits 5
  let pdcpSnSize ← xnapDecodeBits 4
  let rlcMode ← xnapDecodeBits 2
  let qosFlows ← BitReader.counted 6 xnapDecodeQosFlow
  let dlUpTnlInfo ← BitReader.counted 4 xnapDecodeTnlInfo
  pure { drbId, pdcpSnSize, rlcMode, qosFlows, dlUpTnlInfo }

def xnapDecodeCause : BitReader 32 XnapCause := do
  let causeType ← xnapDecodeBits 3
  let causeValue ← xnapDecodeBits 8
  pure { causeType, causeValue }

def xnapDecodeFailedDrb : BitReader 32 XnapFailedDrb := do
  let drbId ← xnapDecodeBits 5
  let cause ← xnapDecodeCause
  pure { drbId, cause }

def xnapDecodeRrcContainer : BitReader 32 Container := asn1ReadContainer

def xnapDecodeUeCause : BitReader 32 XnapUeCause := do
  let ueIds ← xnapDecodeUeIds
  let cause ← xnapDecodeCause
  pure { ueIds, cause }

def xnapDecodeXnSetupRequest : BitReader 32 XnapXnSetupRequest := do
  let globalGnbId ← xnapDecodeGlobalGnbId
  let gnbName ← xnapDecodeGnbName
  let servedCells ← BitReader.counted 8 xnapDecodeServedCellInfo
  let gnbCuId ← BitReader.counted 1 (asn1ReadWide 32)
  let gnbDuId ← BitReader.counted 1 (xnapDecodeBits 32)
  pure { globalGnbId, gnbName, servedCells, gnbCuId, gnbDuId }

def xnapDecodeXnSetupResponse : BitReader 32 XnapXnSetupResponse := do
  let globalGnbId ← xnapDecodeGlobalGnbId
  let gnbName ← xnapDecodeGnbName
  let servedCells ← BitReader.counted 8 xnapDecodeServedCellInfo
  let gnbCuId ← BitReader.counted 1 (asn1ReadWide 32)
  pure { globalGnbId, gnbName, servedCells, gnbCuId }

def xnapDecodeXnSetupFailure : BitReader 32 XnapXnSetupFailure := do
  let cause ← xnapDecodeCause
  let timeToWait ← xnapDecodeBits 32
  pure { cause, timeToWait }

def xnapDecodeHandoverRequest : BitReader 32 XnapHandoverRequest := do
  let ueIds ← xnapDecodeUeIds
  let amfUeId ← asn1ReadWide 8
  let ranUeId ← asn1ReadWide 8
  let targetGnbId ← xnapDecodeGlobalGnbId
  let targetCellId ← asn1ReadWide 32
  let sourceToTargetContainer ← xnapDecodeRrcContainer
  let drbsToSetup ← BitReader.counted 4 xnapDecodeDrbInfo
  let ueAmbrDl ← asn1ReadWide 32
  let ueAmbrUl ← asn1ReadWide 32
  let snssai ← BitReader.counted 1 xnapDecodeSlice
  let securityKey ← BitReader.counted 1 (asn1ReadOctets 32)
  let plmn ← xnapDecodePlmnId
  pure
    { ueIds, amfUeId, ranUeId, targetGnbId, targetCellId, sourceToTargetContainer, drbsToSetup, ueAmbrDl,
      ueAmbrUl, snssai, securityKey, plmn }

def xnapDecodeHandoverRequestAck : BitReader 32 XnapHandoverRequestAck := do
  let ueIds ← xnapDecodeUeIds
  let targetToSourceContainer ← xnapDecodeRrcContainer
  let drbsSetup ← BitReader.counted 4 xnapDecodeDrbInfo
  let drbsFailed ← BitReader.counted 4 xnapDecodeFailedDrb
  pure { ueIds, targetToSourceContainer, drbsSetup, drbsFailed }

def xnapDecodeHandoverCommand : BitReader 32 XnapHandoverCommand := do
  let ueIds ← xnapDecodeUeIds
  let handoverCommand ← xnapDecodeRrcContainer
  pure { ueIds, handoverCommand }

def xnapDecodeHandoverNotify : BitReader 32 XnapHandoverNotify := do
  let ueIds ← xnapDecodeUeIds
  let targetCellId ← asn1ReadWide 32
  let pci ← xnapDecodeBits 10
  pure { ueIds, targetCellId, pci }

def xnapDecodeAssistanceData : BitReader 32 XnapAssistanceData := do
  let pagingAttemptCount ← xnapDecodeBits 4
  let intendedNPagingAttempts ← xnapDecodeBits 4
  pure { pagingAttemptCount, intendedNPagingAttempts }

def xnapDecodePaging : BitReader 32 XnapPaging := do
  let amfUeId ← asn1ReadWide 8
  let ueIdentityIndex ← xnapDecodeBits 16
  let pagingIdentityType ← xnapDecodeBits 1
  let pagingIdentity ← asn1ReadWide 32
  let taiList ← BitReader.counted 4 (xnapDecodeBits 24)
  let pagingCause ← xnapDecodeBits 1
  let assistanceData ← BitReader.counted 1 xnapDecodeAssistanceData
  pure
    { amfUeId, ueIdentityIndex, pagingIdentityType, pagingIdentity, taiList, pagingCause, assistanceData }

def xnapDecodeSgnbAdditionRequest : BitReader 32 XnapSgnbAdditionRequest := do
  let ueIds ← xnapDecodeUeIds
  let ranUeId ← asn1ReadWide 8
  let targetCellId ← asn1ReadWide 32
  let drbsToSetup ← BitReader.counted 4 xnapDecodeDrbInfo
  let securityKey ← BitReader.counted 1 (asn1ReadOctets 32)
  pure { ueIds, ranUeId, targetCellId, drbsToSetup, securityKey }

def xnapDecodeSgnbAdditionRequestAck : BitReader 32 XnapSgnbAdditionRequestAck := do
  let ueIds ← xnapDecodeUeIds
  let drbsSetup ← BitReader.counted 4 xnapDecodeDrbInfo
  pure { ueIds, drbsSetup }

def xnapDecodeErrorIndication : BitReader 32 XnapErrorIndication := do
  let ueIds ← BitReader.counted 1 xnapDecodeUeIds
  let cause ← BitReader.counted 1 xnapDecodeCause
  pure { ueIds, cause }

def xnapDecodePayload (messageType : Word) : BitReader 32 XnapPayload :=
  if messageType = 0 then xnapDecodeXnSetupRequest >>= fun req => pure (.xnSetupRequest req)
  else if messageType = 1 then xnapDecodeXnSetupResponse >>= fun resp => pure (.xnSetupResponse resp)
  else if messageType = 2 then xnapDecodeXnSetupFailure >>= fun fail => pure (.xnSetupFailure fail)
  else if messageType = 9 then xnapDecodeHandoverRequest >>= fun req => pure (.handoverRequest req)
  else if messageType = 10 then
    xnapDecodeHandoverRequestAck >>= fun ack => pure (.handoverRequestAck ack)
  else if messageType = 11 then
    xnapDecodeUeCause >>= fun fail => pure (.handoverPreparationFailure fail)
  else if messageType = 12 then xnapDecodeHandoverCommand >>= fun cmd => pure (.handoverCommand cmd)
  else if messageType = 13 then xnapDecodeUeCause >>= fun cancel => pure (.handoverCancel cancel)
  else if messageType = 14 then xnapDecodeUeIds >>= fun ueIds => pure (.handoverCancelAck ueIds)
  else if messageType = 15 then xnapDecodeHandoverNotify >>= fun notify => pure (.handoverNotify notify)
  else if messageType = 8 then xnapDecodePaging >>= fun paging => pure (.paging paging)
  else if messageType = 5 then xnapDecodeErrorIndication >>= fun err => pure (.errorIndication err)
  else if messageType = 21 then
    xnapDecodeSgnbAdditionRequest >>= fun req => pure (.sgnbAdditionRequest req)
  else if messageType = 22 then
    xnapDecodeSgnbAdditionRequestAck >>= fun ack => pure (.sgnbAdditionRequestAck ack)
  else pure (.unhandled messageType)

def xnapReadMessage : BitReader 32 XnapMessage := InterfaceMessage.read xnapDecodePayload

def xnapDecodeMessage (length : Nat) : Option (BitReader 32 XnapMessage) :=
  asn1DecodeMessage xnapReadMessage length

end Uesim
