import Uesim.Asn1.BitMessages
import Uesim.Asn1.RrcFixedMessages
import Uesim.Rrc.RejectedMessages

/-!
# The bytes of RRC messages

`rrc_encode_message` gives a message to the PER encoder of its type, and writes a header and the data where
the type has none. `rrc_decode_message` expects a `rrc_message_t` as the host has it in memory, with its data
behind it. The decoder and the handlers are programs that read bytes.
-/

namespace Uesim

open Bytes BitMemory

namespace RrcMessageType

def code : RrcMessageType → Word
  | setupRequest => 0
  | setup => 1
  | setupComplete => 2
  | reestablishmentRequest => 3
  | reestablishment => 4
  | reestablishmentComplete => 5
  | reconfiguration => 6
  | reconfigurationComplete => 7
  | measurementReport => 8
  | handoverPreparation => 9
  | handoverCommand => 10
  | handoverConfirmation => 11
  | ueCapabilityEnquiry => 12
  | ueCapabilityInformation => 13
  | connectionRelease => 14
  | securityModeCommand => 15
  | securityModeComplete => 16

def all : List RrcMessageType :=
  [setupRequest, setup, setupComplete, reestablishmentRequest, reestablishment, reestablishmentComplete,
    reconfiguration, reconfigurationComplete, measurementReport, handoverPreparation, handoverCommand,
    handoverConfirmation, ueCapabilityEnquiry, ueCapabilityInformation, connectionRelease,
    securityModeCommand, securityModeComplete]

def ofCode (value : Word) : Option RrcMessageType := all.find? (·.code = value)

end RrcMessageType

/-! ### What is sent -/

/-- `rrc_setup_request_data_t` without its spare bits. -/
structure RrcSetupRequestData where
  ueIdentity : BitVec 64
  establishmentCause : Byte

structure RrcSetupCompleteData where
  rrcTransactionId : Byte
  selectedPlmn : Byte
  nasPdu : Memory
  nasPduLen : Nat

/-- The short MAC-I of `rrc_reest_request_data_t` is not encoded. -/
structure RrcReestRequestData where
  reestablishmentCause : Byte
  pci : BitVec 16
  cRnti : Word

/-- The encoder looks at no other member of `rrc_reconfig_data_t`. -/
structure RrcReconfigData where
  rrcTransactionId : Byte

structure RrcMeasReportData where
  measId : Byte
  rsrp : Word
  rsrq : Word
  pci : BitVec 16
  cellId : Word

structure RrcUeCapData where
  ratType : Byte
  capabilityContainer : Memory
  containerLen : Nat

/-- What the encoder takes the data of a message for: a structure that it looks into, or bytes. -/
abbrev RrcMessageType.Data : RrcMessageType → Type
  | setupRequest => RrcSetupRequestData
  | setupComplete => RrcSetupCompleteData
  | reestablishmentRequest => RrcReestRequestData
  | reconfigurationComplete => RrcReconfigData
  | measurementReport => RrcMeasReportData
  | handoverPreparation => RrcMeasReportData
  | ueCapabilityInformation => RrcUeCapData
  | _ => Memory

/-- `rrc_message_t` with what its data point to. -/
structure RrcOutgoingMessage where
  messageType : RrcMessageType
  messageId : Word
  transactionId : Word
  dataLength : BitVec 64
  data : Option messageType.Data

/-! ### The encoder -/

/-- `memcpy` of a container into an array of 1024 bytes that was cleared. -/
def rrcCopyContainer (container : Memory) (len : Nat) : Memory :=
  copy zeros 0 container (if len < 1024 then len else 1024)

/-- `random` stands for two calls of `rand`. -/
def rrcMapSetupRequest (random : BitVec 64) : Option RrcSetupRequestData → RrcSetupRequest
  | some data =>
      { ueIdentity := { type := 0, randomValue := data.ueIdentity }
        establishmentCause := data.establishmentCause.setWidth 32 }
  | none =>
      { ueIdentity := { type := 0, randomValue := random }
        establishmentCause := RrcEstablishmentCause.moSignalling.code }

def rrcMapSetupComplete : Option RrcSetupCompleteData → RrcSetupComplete
  | some data =>
      { rrcTransactionId := data.rrcTransactionId
        selectedPlmn := data.selectedPlmn
        nasPdu := rrcCopyContainer data.nasPdu data.nasPduLen
        nasPduLen := data.nasPduLen }
  | none => { rrcTransactionId := 0, selectedPlmn := 0, nasPdu := zeros, nasPduLen := 0 }

def rrcMapReestRequest (random : BitVec 64) : Option RrcReestRequestData → RrcReestRequest
  | some data =>
      { ueIdentity := { type := 0, randomValue := random }
        reestablishmentCause := data.reestablishmentCause.setWidth 32
        pci := data.pci
        cRnti := data.cRnti
        shortMacI := (0, 0) }
  | none =>
      { ueIdentity := { type := 0, randomValue := 0 }
        reestablishmentCause := 0
        pci := 0
        cRnti := 0
        shortMacI := (0, 0) }

def rrcMapReconfigComplete : Option RrcReconfigData → RrcReconfigComplete
  | some data => { rrcTransactionId := data.rrcTransactionId }
  | none => { rrcTransactionId := 0 }

/-- The same for a measurement report and a handover preparation. -/
def rrcMapMeasurementReport : Option RrcMeasReportData → RrcMeasurementReport
  | some data =>
      { measId := data.measId, rsrp := data.rsrp, rsrq := data.rsrq, pci := data.pci, cellId := data.cellId }
  | none => { measId := 0, rsrp := 0, rsrq := 0, pci := 0, cellId := 0 }

/-- `(uint8_t)(message->transaction_id & 0x03)` -/
def rrcMapTransaction (transactionId : Word) : RrcTransaction :=
  { rrcTransactionId := (transactionId &&& 0x03).setWidth 8 }

def rrcMapUeCapInfo : Option RrcUeCapData → RrcUeCapInfo
  | some data =>
      { ratType := data.ratType
        capabilityContainer := rrcCopyContainer data.capabilityContainer data.containerLen
        containerLen := data.containerLen }
  | none => { ratType := 0, capabilityContainer := zeros, containerLen := 0 }

def rrcDataLen (dataLength : BitVec 64) : Nat := if dataLength.toNat > 65535 then 65535 else dataLength.toNat

def rrcHeader (messageType : RrcMessageType) (transactionId : Word) (dataLen : Nat) : List Byte :=
  [messageType.code.setWidth 8, transactionId.setWidth 8, BitVec.ofNat 8 (dataLen >>> 8),
    BitVec.ofNat 8 dataLen]

/-- The header and the data as two octet strings, whose results are not looked at. -/
def rrcEncodeGeneric (buf : Asn1Buffer) (messageType : RrcMessageType) (transactionId : Word)
    (dataLength : BitVec 64) (data : Option Memory) : Asn1Buffer × Except UesimError Unit :=
  let dataLen := rrcDataLen dataLength
  let buf := (asn1EncodeOctetString buf (ofBytes (rrcHeader messageType transactionId dataLen)) 4).1
  match data with
  | some bytes =>
      if dataLength.toNat > 0 then ((asn1EncodeOctetString buf bytes dataLen).1, .ok ()) else (buf, .ok ())
  | none => (buf, .ok ())

def rrcEncodeData (buf : Asn1Buffer) (random : BitVec 64) (transactionId : Word) (dataLength : BitVec 64) :
    (messageType : RrcMessageType) → Option messageType.Data → Asn1Buffer × Except UesimError Unit
  | .setupRequest, data => rrcEncodeSetupRequest buf (rrcMapSetupRequest random data)
  | .setupComplete, data => rrcEncodeSetupComplete buf (rrcMapSetupComplete data)
  | .reestablishmentRequest, data => rrcEncodeReestRequest buf (rrcMapReestRequest random data)
  | .reconfigurationComplete, data => rrcEncodeReconfigComplete buf (rrcMapReconfigComplete data)
  | .measurementReport, data => rrcEncodeMeasurementReport buf (rrcMapMeasurementReport data)
  | .reestablishmentComplete, _ => rrcEncodeReestComplete buf (rrcMapTransaction transactionId)
  | .handoverConfirmation, _ => rrcEncodeHandoverConfirm buf (rrcMapTransaction transactionId)
  | .ueCapabilityInformation, data => rrcEncodeUeCapInfo buf (rrcMapUeCapInfo data)
  | .handoverPreparation, data => rrcEncodeHandoverPrep buf (rrcMapMeasurementReport data)
  | .securityModeComplete, _ => rrcEncodeSecurityModeComplete buf (rrcMapTransaction transactionId)
  | .setup, data => rrcEncodeGeneric buf .setup transactionId dataLength data
  | .reestablishment, data => rrcEncodeGeneric buf .reestablishment transactionId dataLength data
  | .reconfiguration, data => rrcEncodeGeneric buf .reconfiguration transactionId dataLength data
  | .handoverCommand, data => rrcEncodeGeneric buf .handoverCommand transactionId dataLength data
  | .ueCapabilityEnquiry, data => rrcEncodeGeneric buf .ueCapabilityEnquiry transactionId dataLength data
  | .connectionRelease, data => rrcEncodeGeneric buf .connectionRelease transactionId dataLength data
  | .securityModeCommand, data => rrcEncodeGeneric buf .securityModeCommand transactionId dataLength data

/-- `memory` is what `uesim_malloc` returns for the buffer. -/
def rrcEncodeMessage (memory : Option Memory) (random : BitVec 64) (message : RrcOutgoingMessage) :
    Except UesimError (Memory × Nat) :=
  match asn1BufferAlloc memory 256 with
  | .error e => .error e
  | .ok buf =>
      match rrcEncodeData buf random message.transactionId message.dataLength message.messageType
        message.data with
      | (_, .error e) => .error e
      | (buf, .ok ()) => .ok (buf.data, asn1BufferLength buf)

/-! ### The decoder -/

/-- The numbers as they were found, and the copy of the data. -/
structure RrcDecodedMessage where
  messageType : Word
  messageId : Word
  transactionId : Word
  dataLength : BitVec 64
  data : Option (List Byte)

/-- `memcpy` into a number of 32 bits. -/
def rrcReadWord (start : Nat) : Reading Word :=
  .byte start fun b0 => .byte (start + 1) fun b1 => .byte (start + 2) fun b2 => .byte (start + 3) fun b3 =>
    .done (leWord b0 b1 b2 b3)

/-- The type, two numbers of 32 bits and a `size_t`. -/
def rrcMinLength : BitVec 64 := 20

/-- `granted` says which allocations `uesim_malloc` serves. -/
def rrcDecodeMessage (encodedLength : BitVec 64) (granted : BitVec 64 → Bool) :
    Reading (Except UesimError RrcDecodedMessage) := do
  if encodedLength < rrcMinLength then pure (.error .invalidParam)
  else
    let messageType ← rrcReadWord 0
    let messageId ← rrcReadWord 4
    let transactionId ← rrcReadWord 8
    let low ← rrcReadWord 12
    let high ← rrcReadWord 16
    let dataLength : BitVec 64 := high ++ low
    if dataLength > 0 then
      if encodedLength < rrcMinLength + dataLength then pure (.error .invalidParam)
      else if granted dataLength then
        let data ← Reading.bytes 20 dataLength.toNat
        pure (.ok { messageType, messageId, transactionId, dataLength, data := some data })
      else pure (.error .memory)
    else pure (.ok { messageType, messageId, transactionId, dataLength, data := none })

/-! ### The handlers -/

/-- `rrc_transaction_id`, the first member of the data. -/
def rrcReadTransactionId : Reading Byte := .byte 0 .done

/-- `target_pci` of `rrc_handover_cmd_data_t` -/
def rrcReadTargetPci : Reading (BitVec 16) := .byte 2 fun low => .byte 3 fun high => .done (high ++ low)

/-- A handover is confirmed once the target is connected. -/
def rrcConfirmsHandover (ue : UeContext) (command : RrcMessageData) (outcome : RrcOutcome) : Bool :=
  match ue.handoverTarget command with
  | none => false
  | some target => (uesimConnectGnb ue target outcome.connected).2.toBool

/-- A handler with what it reads of the data. The transaction identifier goes into the answer. -/
def rrcHandleReading (ue : UeContext) (outcome : RrcOutcome) (messageType : RrcMessageType)
    (hasData : Bool) : Reading RrcAnswer :=
  let handle (data : Option RrcMessageData) := rrcHandleProcedureResponse ue { messageType, data } outcome
  if hasData then
    match messageType with
    | .setup | .reestablishment | .reconfiguration => do
        let _ ← rrcReadTransactionId
        pure (handle (some { targetPci := 0 }))
    | .handoverCommand => do
        let targetPci ← rrcReadTargetPci
        if rrcConfirmsHandover ue { targetPci } outcome then
          let _ ← rrcReadTransactionId
          pure (handle (some { targetPci }))
        else pure (handle (some { targetPci }))
    | _ => pure (handle (some { targetPci := 0 }))
  else pure (handle none)

def rrcReceiveMessage (ue : UeContext) (message : RrcDecodedMessage) (outcome : RrcOutcome) :
    Reading RrcAnswer :=
  match RrcMessageType.ofCode message.messageType with
  | none => pure (ue, .error .protocol)
  | some messageType => rrcHandleReading ue outcome messageType message.data.isSome

def RrcDecodedMessage.memory (message : RrcDecodedMessage) : Memory := ofBytes (message.data.getD [])

def rrcProcessIncomingMessage (ue : UeContext) (data : Memory) (len : BitVec 64)
    (granted : BitVec 64 → Bool) (outcome : RrcOutcome) : RrcAnswer :=
  if len = 0 then (ue, .error .invalidParam)
  else
    match (rrcDecodeMessage len granted).run data with
    | .error e => (ue, .error e)
    | .ok message => (rrcReceiveMessage ue message outcome).run message.memory

end Uesim
