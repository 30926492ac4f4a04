import Uesim.Asn1.BitMessages

/-!
# F1AP messages

The messages between the central and the distributed unit of a base station, with their encoder and their
decoder. A helper of the encoder is the list of the calls to `asn1_encode_bits` that it makes. Arrays with a
count are what the loops over them visit, parallel arrays are lists of records, and fields that neither
direction touches are left out.
-/

namespace Uesim

open Bytes BitMemory

def f1apMaxMessageSize : Nat := 65535

/-! ### Structures -/

structure F1apCause where
  causeType : Word
  causeValue : Byte

structure F1apGnbDuId where
  gnbDuId : Word
  gnbDuName : List Byte

structure F1apGnbCuId where
  gnbCuId : BitVec 64
  gnbCuName : List Byte

structure F1apUeIds where
  gnbCuUeF1apId : Word
  gnbDuUeF1apId : Word

/-- The digits `mnc` that `mnc_length` counts. -/
inductive F1apMnc where
  | two (digit0 digit1 : Byte)
  | three (digit0 digit1 digit2 : Byte)

structure F1apPlmnId where
  mcc0 : Byte
  mcc1 : Byte
  mcc2 : Byte
  mnc : F1apMnc

structure F1apSlice where
  sst : Byte
  sd : Word

structure F1apServedCellInfo where
  nrCellId : BitVec 64
  pci : BitVec 16
  tac : Word
  plmns : Counted 8 F1apPlmnId 12
  slices : Counted 8 F1apSlice 8
  ngranDuplexMode : BitVec 16

/-- `ul_up_tnl_ip`, `ul_up_tnl_port` and `ul_up_tnl_teid` at one index. -/
structure F1apTnlInfo where
  ip : Word
  port : BitVec 16
  teid : Word

/-- `qos_flows` and `five_qi` at one index. -/
structure F1apQosFlow where
  qfi : Byte
  fiveQi : Byte

structure F1apDrbInfo where
  drbId : Byte
  sdtMode : Byte
  rlcMode : Byte
  ulUpTnlInfo : Counted 8 F1apTnlInfo 8
  qosFlows : Counted 8 F1apQosFlow 64

structure F1apSrbInfo where
  srbId : Byte
  rlcMode : Byte

/-- `drbs_failed` and `drb_fail_causes` at one index. -/
structure F1apFailedDrb where
  drbId : Byte
  cause : F1apCause

/-! ### Messages -/

structure F1apF1SetupRequest where
  gnbDuId : F1apGnbDuId
  servedCells : Counted 8 F1apServedCellInfo 512
  ranac : Byte
  gnbDuRrcVersion : Octets 4

structure F1apF1SetupResponse where
  gnbCuId : F1apGnbCuId
  cellsToActivate : Counted 8 F1apServedCellInfo 512
  transportLayerAddress : Word
  gnbCuRrcVersion : Octets 4

structure F1apF1SetupFailure where
  cause : F1apCause
  timeToWait : Word

structure F1apUeContextSetupRequest where
  ueIds : F1apUeIds
  ranUeId : BitVec 64
  plmn : F1apPlmnId
  drbsToSetup : Counted 8 F1apDrbInfo 8
  srbsToSetup : Counted 8 F1apSrbInfo 3
  ueAmbrDl : BitVec 64
  ueAmbrUl : BitVec 64
  nrCellId : BitVec 64
  servCellIdx : BitVec 16
  sst : Byte
  sd : Word
  rrcContainer : Container

structure F1apUeContextSetupResponse where
  ueIds : F1apUeIds
  drbsSetup : Counted 8 F1apDrbInfo 8
  drbsFailed : Counted 8 F1apFailedDrb 8
  srbsSetup : Counted 8 Byte 3
  duToCuRrcContainer : Container

structure F1apUeContextReleaseRequest where
  ueIds : F1apUeIds
  cause : F1apCause

structure F1apUeContextReleaseCommand where
  ueIds : F1apUeIds
  cause : F1apCause
  rrcContainer : Container

structure F1apUeContextReleaseComplete where
  ueIds : F1apUeIds
  rrcContainer : Container

/-- A field behind a flag for its presence is an array of one entry with the flag as its count. -/
structure F1apDlRrcMessageTransfer where
  ueIds : F1apUeIds
  srbId : Byte
  rrcContainer : Container
  oldGnbDuUeF1apId : Counted 8 Word 1

structure F1apUlRrcMessageTransfer where
  ueIds : F1apUeIds
  srbId : Byte
  rrcContainer : Container

structure F1apNotify where
  ueIds : F1apUeIds
  notificationType : Byte
  cause : F1apCause

structure F1apErrorIndication where
  ueIds : Counted 8 F1apUeIds 1
  cause : Counted 8 F1apCause 1

/-- The member of the union that belongs to the message type. Types that the codec does not handle have
none. -/
inductive F1apPayload where
  | f1SetupRequest (req : F1apF1SetupRequest)
  | f1SetupResponse (resp : F1apF1SetupResponse)
  | f1SetupFailure (fail : F1apF1SetupFailure)
  | errorIndication (err : F1apErrorIndication)
  | ueContextSetupRequest (req : F1apUeContextSetupRequest)
  | ueContextSetupResponse (resp : F1apUeContextSetupResponse)
  | ueContextReleaseCommand (cmd : F1apUeContextReleaseCommand)
  | ueContextReleaseComplete (comp : F1apUeContextReleaseComplete)
  | ueContextReleaseRequest (req : F1apUeContextReleaseRequest)
  | dlRrcMessageTransfer (transfer : F1apDlRrcMessageTransfer)
  | ulRrcMessageTransfer (transfer : F1apUlRrcMessageTransfer)
  | notify (notify : F1apNotify)
  | unhandled (messageType : Word)

def F1apPayload.messageType : F1apPayload → Word
  | f1SetupRequest _ => 0
  | f1SetupResponse _ => 1
  | f1SetupFailure _ => 2
  | errorIndication _ => 5
  | ueContextSetupRequest _ => 14
  | ueContextSetupResponse _ => 15
  | ueContextReleaseCommand _ => 17
  | ueContextReleaseComplete _ => 18
  | ueContextReleaseRequest _ => 22
  | dlRrcMessageTransfer _ => 23
  | ulRrcMessageTransfer _ => 24
  | notify _ => 25
  | unhandled messageType => messageType

abbrev F1apMessage := InterfaceMessage F1apPayload

/-! ### Encoder -/

def f1apEncodeHeader (msg : F1apMessage) : List (Word × Nat) := msg.header F1apPayload.messageType

def f1apEncodeGnbDuId (id : F1apGnbDuId) : List (Word × Nat) :=
  (id.gnbDuId, 32) :: asn1EncodeName id.gnbDuName

def f1apEncodeGnbCuId (id : F1apGnbCuId) : List (Word × Nat) :=
  ((id.gnbCuId &&& 0xFFFFFFFF).setWidth 32, 32) :: asn1EncodeName id.gnbCuName

def f1apEncodeUeIds (ids : F1apUeIds) : List (Word × Nat) :=
  [(ids.gnbCuUeF1apId, 32), (ids.gnbDuUeF1apId, 32)]

def f1apEncodeNrCellId (id : BitVec 64) : List (Word × Nat) := asn1EncodeWide 0xF 4 id

/-- `low | (high << 4)` -/
def f1apDigits (low high : Byte) : Word := low.setWidth 32 ||| (high.setWidth 32 <<< 4)

def f1apEncodePlmnId (plmn : F1apPlmnId) : List (Word × Nat) :=
  [(f1apDigits plmn.mcc0 plmn.mcc1, 8), (f1apDigits plmn.mcc2 0xF, 8)]
    ++ match plmn.mnc with
      | .two digit0 digit1 => [(f1apDigits digit0 digit1, 8), (0xF0, 8)]
      | .three digit0 digit1 digit2 => [(f1apDigits digit0 digit1, 8), (f1apDigits digit2 0xF, 8)]

def f1apEncodeSlice (slice : F1apSlice) : List (Word × Nat) :=
  [(slice.sst.setWidth 32, 8), (slice.sd, 24)]

def f1apEncodeServedCellInfo (cell : F1apServedCellInfo) : List (Word × Nat) :=
  f1apEncodeNrCellId cell.nrCellId ++ [(cell.pci.setWidth 32, 10), (cell.tac, 24)]
    ++ cell.plmns.fields 8 f1apEncodePlmnId ++ cell.slices.fields 8 f1apEncodeSlice
    ++ [(cell.ngranDuplexMode.setWidth 32, 4)]

/-- `f1ap_encode_rrc_container`, for a length up to the size of the array. -/
def f1apEncodeRrcContainer (container : Container) : List (Word × Nat) := asn1EncodeContainer container

def f1apEncodeTnlInfo (tnl : F1apTnlInfo) : List (Word × Nat) :=
  [(tnl.ip, 32), (tnl.port.setWidth 32, 16), (tnl.teid, 32)]

def f1apEncodeQosFlow (flow : F1apQosFlow) : List (Word × Nat) :=
  [(flow.qfi.setWidth 32, 6), (flow.fiveQi.setWidth 32, 8)]

def f1apEncodeDrbInfo (drb : F1apDrbInfo) : List (Word × Nat) :=
  [(drb.drbId.setWidth 32, 5), (drb.sdtMode.setWidth 32, 1), (drb.rlcMode.setWidth 32, 2)]
    ++ drb.ulUpTnlInfo.fields 4 f1apEncodeTnlInfo ++ drb.qosFlows.fields 6 f1apEncodeQosFlow

def f1apEncodeSrbInfo (srb : F1apSrbInfo) : List (Word × Nat) :=
  [(srb.srbId.setWidth 32, 2), (srb.rlcMode.setWidth 32, 2)]

def f1apEncodeCause (cause : F1apCause) : List (Word × Nat) :=
  [(cause.causeType, 2), (cause.causeValue.setWidth 32, 8)]

def f1apEncodeFailedDrb (drb : F1apFailedDrb) : List (Word × Nat) :=
  (drb.drbId.setWidth 32, 5) :: f1apEncodeCause drb.cause

/-- `(uint32_t)(value >> 32)` and `(uint32_t)(value & 0xFFFFFFFF)` -/
def f1apEncodeAmbr (value : BitVec 64) : List (Word × Nat) := asn1EncodeWide (BitVec.allOnes 64) 32 value

def f1apEncodeF1SetupRequest (req : F1apF1SetupRequest) : List (Word × Nat) :=
  f1apEncodeGnbDuId req.gnbDuId ++ req.servedCells.fields 8 f1apEncodeServedCellInfo
    ++ [(req.ranac.setWidth 32, 8)] ++ asn1EncodeOctets req.gnbDuRrcVersion

def f1apEncodeF1SetupResponse (resp : F1apF1SetupResponse) : List (Word × Nat) :=
  f1apEncodeGnbCuId resp.gnbCuId ++ resp.cellsToActivate.fields 8 f1apEncodeServedCellInfo
    ++ [(resp.transportLayerAddress, 32)] ++ asn1EncodeOctets resp.gnbCuRrcVersion

def f1apEncodeF1SetupFailure (fail : F1apF1SetupFailure) : List (Word × Nat) :=
  f1apEncodeCause fail.cause ++ [(fail.timeToWait, 32)]

def f1apEncodeUeContextSetupRequest (req : F1apUeContextSetupRequest) : List (Word × Nat) :=
  f1apEncodeUeIds req.ueIds ++ asn1EncodeWide 0xFF 8 req.ranUeId ++ f1apEncodePlmnId req.plmn
    ++ req.drbsToSetup.fields 4 f1apEncodeDrbInfo ++ req.srbsToSetup.fields 2 f1apEncodeSrbInfo
    ++ f1apEncodeAmbr req.ueAmbrDl ++ f1apEncodeAmbr req.ueAmbrUl ++ f1apEncodeNrCellId req.nrCellId
    ++ [(req.servCellIdx.setWidth 32, 8), (req.sst.setWidth 32, 8), (req.sd, 24)]
    ++ f1apEncodeRrcContainer req.rrcContainer

def f1apEncodeUeContextSetupResponse (resp : F1apUeContextSetupResponse) : List (Word × Nat) :=
  f1apEncodeUeIds resp.ueIds ++ resp.drbsSetup.fields 4 f1apEncodeDrbInfo
    ++ resp.drbsFailed.fields 4 f1apEncodeFailedDrb
    ++ resp.srbsSetup.fields 2 (fun srbId => [(srbId.setWidth 32, 2)])
    ++ f1apEncodeRrcContainer resp.duToCuRrcContainer

def f1apEncodeOldGnbDuUeF1apId (id : Counted 8 Word 1) : List (Word × Nat) :=
  if id.count ≠ 0 then (1, 1) :: id.items.map (·, 32) else [(0, 1)]

def f1apEncodePayload : F1apPayload → List (Word × Nat)
  | .f1SetupRequest req => f1apEncodeF1SetupRequest req
  | .f1SetupResponse resp => f1apEncodeF1SetupResponse resp
  | .f1SetupFailure fail => f1apEncodeF1SetupFailure fail
  | .ueContextSetupRequest req => f1apEncodeUeContextSetupRequest req
  | .ueContextSetupResponse resp => f1apEncodeUeContextSetupResponse resp
  | .ueContextReleaseRequest req => f1apEncodeUeIds req.ueIds ++ f1apEncodeCause req.cause
  | .ueContextReleaseCommand cmd =>
      f1apEncodeUeIds cmd.ueIds ++ f1apEncodeCause cmd.cause ++ f1apEncodeRrcContainer cmd.rrcContainer
  | .ueContextReleaseComplete comp =>
      f1apEncodeUeIds comp.ueIds ++ f1apEncodeRrcContainer comp.rrcContainer
  | .dlRrcMessageTransfer transfer =>
      f1apEncodeUeIds transfer.ueIds ++ [(transfer.srbId.setWidth 32, 2)]
        ++ f1apEncodeRrcContainer transfer.rrcContainer
        ++ f1apEncodeOldGnbDuUeF1apId transfer.oldGnbDuUeF1apId
  | .ulRrcMessageTransfer transfer =>
      f1apEncodeUeIds transfer.ueIds ++ [(transfer.srbId.setWidth 32, 2)]
        ++ f1apEncodeRrcContainer transfer.rrcContainer
  | .notify notify =>
      f1apEncodeUeIds notify.ueIds ++ [(notify.notificationType.setWidth 32, 4)]
        ++ f1apEncodeCause notify.cause
  | .errorIndication err => err.ueIds.fields 1 f1apEncodeUeIds ++ err.cause.fields 1 f1apEncodeCause
  | .unhandled _ => []

def f1apEncodeMessage (memory : Option Memory) (msg : F1apMessage) : Option (Memory × Nat) :=
  asn1EncodeMessage f1apMaxMessageSize memory (f1apEncodeHeader msg ++ f1apEncodePayload msg.payload)

/-! ### Decoder -/

/-- `f1ap_decode_bits`, with its result cut to the variable it is assigned to. -/
abbrev f1apDecodeBits {n : Nat} (numBits : Nat) : BitReader 32 (BitVec n) := BitReader.bits numBits

def f1apDecodeGnbDuId : BitReader 32 F1apGnbDuId := do
  let gnbDuId ← f1apDecodeBits 32
  let gnbDuName ← asn1ReadName
  pure { gnbDuId, gnbDuName }

def f1apDecodeGnbCuId : BitReader 32 F1apGnbCuId := do
  let gnbCuId ← f1apDecodeBits 32
  let gnbCuName ← asn1ReadName
  pure { gnbCuId, gnbCuName }

def f1apDecodeUeIds : BitReader 32 F1apUeIds := do
  let gnbCuUeF1apId ← f1apDecodeBits 32
  let gnbDuUeF1apId ← f1apDecodeBits 32
  pure { gnbCuUeF1apId, gnbDuUeF1apId }

def f1apDecodeNrCellId : BitReader 32 (BitVec 64) := asn1ReadWide 4

/-- The digits are the halves of the bytes. The higher half of the last byte tells their number. -/
def f1apDecodePlmnId : BitReader 32 F1apPlmnId := do
  let b1 : Byte ← f1apDecodeBits 8
  let b2 : Byte ← f1apDecodeBits 8
  let b3 : Byte ← f1apDecodeBits 8
  let b4 : Byte ← f1apDecodeBits 8
  let low (b : Byte) : Byte := b &&& (0x0F : Byte)
  let high (b : Byte) : Byte := (b >>> 4) &&& (0x0F : Byte)
  pure
    { mcc0 := low b1
      mcc1 := high b1
      mcc2 := low b2
      mnc :=
        if b4 >>> 4 = (0x0F : Byte) then .two (low b3) (high b3)
        else .three (low b3) (high b3) (low b4) }

def f1apDecodeSlice : BitReader 32 F1apSlice := do
  let sst ← f1apDecodeBits 8
  let sd ← f1apDecodeBits 24
  pure { sst, sd }

def f1apDecodeServedCellInfo : BitReader 32 F1apServedCellInfo := do
  let nrCellId ← f1apDecodeNrCellId
  let pci ← f1apDecodeBits 10
  let tac ← f1apDecodeBits 24
  let plmns ← BitReader.counted 8 f1apDecodePlmnId
  let slices ← BitReader.counted 8 f1apDecodeSlice
  let ngranDuplexMode ← f1apDecodeBits 4
  pure { nrCellId, pci, tac, plmns, slices, ngranDuplexMode }

def f1apDecodeRrcContainer : BitReader 32 Container := asn1ReadContainer

def f1apDecodeCause : BitReader 32 F1apCause := do
  let causeType ← f1apDecodeBits 2
  let causeValue ← f1apDecodeBits 8
  pure { causeType, causeValue }

def f1apDecodeTnlInfo : BitReader 32 F1apTnlInfo := do
  let ip ← f1apDecodeBits 32
  let port ← f1apDecodeBits 16
  let teid ← f1apDecodeBits 32
  pure { ip, port, teid }

def f1apDecodeQosFlow : BitReader 32 F1apQosFlow := do
  let qfi ← f1apDecodeBits 6
  let fiveQi ← f1apDecodeBits 8
  pure { qfi, fiveQi }

def f1apDecodeDrbInfo : BitReader 32 F1apDrbInfo := do
  let drbId ← f1apDecodeBits 5
  let sdtMode ← f1apDecodeBits 1
  let rlcMode ← f1apDecodeBits 2
  let ulUpTnlInfo ← BitReader.counted 4 f1apDecodeTnlInfo
  let qosFlows ← BitReader.counted 6 f1apDecodeQosFlow
  pure { drbId, sdtMode, rlcMode, ulUpTnlInfo, qosFlows }

def f1apDecodeFailedDrb : BitReader 32 F1apFailedDrb := do
  let drbId ← f1apDecodeBits 5
  let cause ← f1apDecodeCause
  pure { drbId, cause }

def f1apDecodeF1SetupRequest : BitReader 32 F1apF1SetupRequest := do
  let gnbDuId ← f1apDecodeGnbDuId
  let servedCells ← BitReader.counted 8 f1apDecodeServedCellInfo
  let ranac ← f1apDecodeBits 8
  let gnbDuRrcVersion ← asn1ReadOctets 4
  pure { gnbDuId, servedCells, ranac, gnbDuRrcVersion }

def f1apDecodeF1SetupResponse : BitReader 32 F1apF1SetupResponse := do
  let gnbCuId ← f1apDecodeGnbCuId
  let cellsToActivate ← BitReader.counted 8 f1apDecodeServedCellInfo
  let transportLayerAddress ← f1apDecodeBits 32
  let gnbCuRrcVersion ← asn1ReadOctets 4
  pure { gnbCuId, cellsToActivate, transportLayerAddress, gnbCuRrcVersion }

def f1apDecodeF1SetupFailure : BitReader 32 F1apF1SetupFailure := do
  let cause ← f1apDecodeCause
  let timeToWait ← f1apDecodeBits 32
  pure { cause, timeToWait }

/-- Only the number of the SRBs is read. What is in their array is what `memset` left there. -/
def f1apDecodeSrbsToSetup : BitReader 32 (Counted 8 F1apSrbInfo 3) := do
  let count : Byte ← f1apDecodeBits 2
  pure ⟨count, List.replicate (min count.toNat 3) ⟨0, 0⟩, List.length_replicate⟩

def f1apDecodeUeContextSetupRequest : BitReader 32 F1apUeContextSetupRequest := do
  let ueIds ← f1apDecodeUeIds
  let ranUeId ← asn1ReadWide 8
  let plmn ← f1apDecodePlmnId
  let drbsToSetup ← BitReader.counted 4 f1apDecodeDrbInfo
  let srbsToSetup ← f1apDecodeSrbsToSetup
  let ueAmbrDl ← asn1ReadWide 32
  let ueAmbrUl ← asn1ReadWide 32
  let nrCellId ← f1apDecodeNrCellId
  let servCellIdx ← f1apDecodeBits 8
  let sst ← f1apDecodeBits 8
  let sd ← f1apDecodeBits 24
  let rrcContainer ← f1apDecodeRrcContainer
  pure
    { ueIds, ranUeId, plmn, drbsToSetup, srbsToSetup, ueAmbrDl, ueAmbrUl, nrCellId, servCellIdx, sst, sd,
      rrcContainer }

def f1apDecodeUeContextSetupResponse : BitReader 32 F1apUeContextSetupResponse := do
  let ueIds ← f1apDecodeUeIds
  let drbsSetup ← BitReader.counted 4 f1apDecodeDrbInfo
  let drbsFailed ← BitReader.counted 4 f1apDecodeFailedDrb
  let srbsSetup ← BitReader.counted 2 (f1apDecodeBits 2)
  let duToCuRrcContainer ← f1apDecodeRrcContainer
  pure { ueIds, drbsSetup, drbsFailed, srbsSetup, duToCuRrcContainer }

def f1apDecodeUeContextReleaseRequest : BitReader 32 F1apUeContextReleaseRequest := do
  let ueIds ← f1apDecodeUeIds
  let cause ← f1apDecodeCause
  pure { ueIds, cause }

def f1apDecodeUeContextReleaseCommand : BitReader 32 F1apUeContextReleaseCommand := do
  let ueIds ← f1apDecodeUeIds
  let cause ← f1apDecodeCause
  let rrcContainer ← f1apDecodeRrcContainer
  pure { ueIds, cause, rrcContainer }

def f1apDecodeUeContextReleaseComplete : BitReader 32 F1apUeContextReleaseComplete := do
  let ueIds ← f1apDecodeUeIds
  let rrcContainer ← f1apDecodeRrcContainer
  pure { ueIds, rrcContainer }

def f1apDecodeDlRrcMessageTransfer : BitReader 32 F1apDlRrcMessageTransfer := do
  let ueIds ← f1apDecodeUeIds
  let srbId ← f1apDecodeBits 2
  let rrcContainer ← f1apDecodeRrcContainer
  let oldGnbDuUeF1apId ← BitReader.counted 1 (f1apDecodeBits 32)
  pure { ueIds, srbId, rrcContainer, oldGnbDuUeF1apId }

def f1apDecodeUlRrcMessageTransfer : BitReader 32 F1apUlRrcMessageTransfer := do
  let ueIds ← f1apDecodeUeIds
  let srbId ← f1apDecodeBits 2
  let rrcContainer ← f1apDecodeRrcContainer
  pure { ueIds, srbId, rrcContainer }

def f1apDecodeNotify : BitReader 32 F1apNotify := do
  let ueIds ← f1apDecodeUeIds
  let notificationType ← f1apDecodeBits 4
  let cause ← f1apDecodeCause
  pure { ueIds, notificationType, cause }

def f1apDecodeErrorIndication : BitReader 32 F1apErrorIndication := do
  let ueIds ← BitReader.counted 1 f1apDecodeUeIds
  let cause ← BitReader.counted 1 f1apDecodeCause
  pure { ueIds, cause }

def f1apDecodePayload (messageType : Word) : BitReader 32 F1apPayload :=
  if messageType = 0 then f1apDecodeF1SetupRequest >>= fun req => pure (.f1SetupRequest req)
  else if messageType = 1 then f1apDecodeF1SetupResponse >>= fun resp => pure (.f1SetupResponse resp)
  else if messageType = 2 then f1apDecodeF1SetupFailure >>= fun fail => pure (.f1SetupFailure fail)
  else if messageType = 14 then
    f1apDecodeUeContextSetupRequest >>= fun req => pure (.ueContextSetupRequest req)
  else if messageType = 15 then
    f1apDecodeUeContextSetupResponse >>= fun resp => pure (.ueContextSetupResponse resp)
  else if messageType = 22 then
    f1apDecodeUeContextReleaseRequest >>= fun req => pure (.ueContextReleaseRequest req)
  else if messageType = 17 then
    f1apDecodeUeContextReleaseCommand >>= fun cmd => pure (.ueContextReleaseCommand cmd)
  else if messageType = 18 then
    f1apDecodeUeContextReleaseComplete >>= fun comp => pure (.ueContextReleaseComplete comp)
  else if messageType = 23 then
    f1apDecodeDlRrcMessageTransfer >>= fun transfer => pure (.dlRrcMessageTransfer transfer)
  else if messageType = 24 then
    f1apDecodeUlRrcMessageTransfer >>= fun transfer => pure (.ulRrcMessageTransfer transfer)
  else if messageType = 25 then f1apDecodeNotify >>= fun notify => pure (.notify notify)
  else if messageType = 5 then f1apDecodeErrorIndication >>= fun err => pure (.errorIndication err)
  else pure (.unhandled messageType)

def f1apReadMessage : BitReader 32 F1apMessage := InterfaceMessage.read f1apDecodePayload

def f1apDecodeMessage (length : Nat) : Option (BitReader 32 F1apMessage) :=
  asn1DecodeMessage f1apReadMessage length

end Uesim
