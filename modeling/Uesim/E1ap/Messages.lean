import Uesim.Asn1.BitMessages

/-!
# E1AP messages

The messages between the control plane and the user plane of a central unit, with their encoder and their
decoder. A helper of the encoder is the list of the calls to `asn1_encode_bits` that it makes. Arrays with a
count are what the loops over them visit, and fields that neither direction touches are left out.
-/

namespace Uesim

open Bytes BitMemory

def e1apMaxMessageSize : Nat := 65535

/-! ### Structures -/

structure E1apCause where
  causeType : Word
  causeValue : Byte

structure E1apGnbCuCpId where
  gnbCuCpId : BitVec 64
  gnbCuCpName : List Byte

structure E1apGnbCuUpId where
  gnbCuUpId : Word
  gnbCuUpName : List Byte

structure E1apUeIds where
  gnbCuCpUeE1apId : Word
  gnbCuUpUeE1apId : Word

structure E1apSNssai where
  sst : Byte
  sd : Word

structure E1apTnlInfo where
  transportType : Byte
  ipAddress : Word
  port : BitVec 16
  teid : Word

structure E1apQosFlow where
  qfi : Byte
  fiveQi : Byte
  gfbrUl : BitVec 64
  gfbrDl : BitVec 64
  priorityLevel : Byte

structure E1apDrbInfo where
  drbId : Byte
  pdcpSnSize : Byte
  rlcMode : Byte
  qosFlows : Counted 8 E1apQosFlow 64
  dlUpTnlInfo : Counted 8 E1apTnlInfo 8

structure E1apPduSessionInfo where
  pduSessionId : Byte
  pduSessionType : Byte
  ueIpAddress : Word
  sNssai : E1apSNssai
  drbs : Counted 8 E1apDrbInfo 32
  upfUlTnlInfo : E1apTnlInfo

/-! ### Messages -/

structure E1apE1SetupRequest where
  gnbCuUpId : E1apGnbCuUpId
  supportedPlmns : Counted 8 (Octets 3) 12
  capacity : Word
  tnla : Counted 8 E1apTnlInfo 8

structure E1apE1SetupResponse where
  gnbCuCpId : E1apGnbCuCpId
  supportedPlmns : Counted 8 (Octets 3) 12

structure E1apE1SetupFailure where
  cause : E1apCause
  timeToWait : Word

/-- The flag for the presence of the key is the count of an array of one key. -/
structure E1apBearerContextSetupRequest where
  ueIds : E1apUeIds
  ranUeId : BitVec 64
  pduSessions : Counted 8 E1apPduSessionInfo 256
  ueAmbrDl : BitVec 64
  ueAmbrUl : BitVec 64
  securityKey : Counted 8 (Octets 32) 1

structure E1apBearerContextSetupResponse where
  ueIds : E1apUeIds
  pduSessionIds : Counted 8 Byte 256
  drbsSetup : Counted 8 E1apDrbInfo 32

/-- The identifiers of a UE and a cause, as a failure, a release command and a release request have them. -/
structure E1apUeCause where
  ueIds : E1apUeIds
  cause : E1apCause

structure E1apErrorIndication where
  ueIds : Counted 8 E1apUeIds 1
  cause : Counted 8 E1apCause 1

inductive E1apPayload where
  | e1SetupRequest (req : E1apE1SetupRequest)
  | e1SetupResponse (resp : E1apE1SetupResponse)
  | e1SetupFailure (fail : E1apE1SetupFailure)
  | errorIndication (err : E1apErrorIndication)
  | bearerContextSetupRequest (req : E1apBearerContextSetupRequest)
  | bearerContextSetupResponse (resp : E1apBearerContextSetupResponse)
  | bearerContextSetupFailure (fail : E1apUeCause)
  | bearerContextReleaseCommand (cmd : E1apUeCause)
  | bearerContextReleaseComplete (ueIds : E1apUeIds)
  | bearerContextReleaseRequest (req : E1apUeCause)
  | unhandled (messageType : Word)

def E1apPayload.messageType : E1apPayload → Word
  | e1SetupRequest _ => 0
  | e1SetupResponse _ => 1
  | e1SetupFailure _ => 2
  | errorIndication _ => 5
  | bearerContextSetupRequest _ => 14
  | bearerContextSetupResponse _ => 15
  | bearerContextSetupFailure _ => 16
  | bearerContextReleaseCommand _ => 17
  | bearerContextReleaseComplete _ => 18
  | bearerContextReleaseRequest _ => 22
  | unhandled messageType => messageType

abbrev E1apMessage := InterfaceMessage E1apPayload

/-! ### Encoder -/

def e1apEncodeHeader (msg : E1apMessage) : List (Word × Nat) := msg.header E1apPayload.messageType

def e1apEncodeCuUpId (id : E1apGnbCuUpId) : List (Word × Nat) :=
  (id.gnbCuUpId, 32) :: asn1EncodeName id.gnbCuUpName

def e1apEncodeCuCpId (id : E1apGnbCuCpId) : List (Word × Nat) :=
  ((id.gnbCuCpId &&& 0xFFFFFFFF).setWidth 32, 32) :: asn1EncodeName id.gnbCuCpName

def e1apEncodeUeIds (ids : E1apUeIds) : List (Word × Nat) :=
  [(ids.gnbCuCpUeE1apId, 32), (ids.gnbCuUpUeE1apId, 32)]

def e1apEncodeTnlInfo (tnl : E1apTnlInfo) : List (Word × Nat) :=
  [(tnl.transportType.setWidth 32, 4), (tnl.ipAddress, 32), (tnl.port.setWidth 32, 16), (tnl.teid, 32)]

/-- `(uint32_t)(value >> 32)` and `(uint32_t)(value & 0xFFFFFFFF)` -/
def e1apEncodeRate (value : BitVec 64) : List (Word × Nat) := asn1EncodeWide (BitVec.allOnes 64) 32 value

def e1apEncodeQosFlow (flow : E1apQosFlow) : List (Word × Nat) :=
  [(flow.qfi.setWidth 32, 6), (flow.fiveQi.setWidth 32, 8)] ++ e1apEncodeRate flow.gfbrUl
    ++ e1apEncodeRate flow.gfbrDl ++ [(flow.priorityLevel.setWidth 32, 8)]

def e1apEncodeDrbInfo (drb : E1apDrbInfo) : List (Word × Nat) :=
  [(drb.drbId.setWidth 32, 5), (drb.pdcpSnSize.setWidth 32, 4), (drb.rlcMode.setWidth 32, 2)]
    ++ drb.qosFlows.fields 6 e1apEncodeQosFlow ++ drb.dlUpTnlInfo.fields 4 e1apEncodeTnlInfo

def e1apEncodeSNssai (sNssai : E1apSNssai) : List (Word × Nat) :=
  [(sNssai.sst.setWidth 32, 8), (sNssai.sd, 24)]

def e1apEncodePduSessionInfo (session : E1apPduSessionInfo) : List (Word × Nat) :=
  [(session.pduSessionId.setWidth 32, 8), (session.pduSessionType.setWidth 32, 4),
      (session.ueIpAddress, 32)]
    ++ e1apEncodeSNssai session.sNssai ++ session.drbs.fields 4 e1apEncodeDrbInfo
    ++ e1apEncodeTnlInfo session.upfUlTnlInfo

def e1apEncodeCause (cause : E1apCause) : List (Word × Nat) :=
  [(cause.causeType, 3), (cause.causeValue.setWidth 32, 8)]

def e1apEncodeUeCause (msg : E1apUeCause) : List (Word × Nat) :=
  e1apEncodeUeIds msg.ueIds ++ e1apEncodeCause msg.cause

def e1apEncodeE1SetupRequest (req : E1apE1SetupRequest) : List (Word × Nat) :=
  e1apEncodeCuUpId req.gnbCuUpId ++ req.supportedPlmns.fields 8 asn1EncodeOctets
    ++ [(req.capacity, 32)] ++ req.tnla.fields 4 e1apEncodeTnlInfo

def e1apEncodeE1SetupResponse (resp : E1apE1SetupResponse) : List (Word × Nat) :=
  e1apEncodeCuCpId resp.gnbCuCpId ++ resp.supportedPlmns.fields 8 asn1EncodeOctets

def e1apEncodeBearerContextSetupRequest (req : E1apBearerContextSetupRequest) : List (Word × Nat) :=
  e1apEncodeUeIds req.ueIds ++ asn1EncodeWide 0xFF 8 req.ranUeId
    ++ req.pduSessions.fields 8 e1apEncodePduSessionInfo ++ e1apEncodeRate req.ueAmbrDl
    ++ e1apEncodeRate req.ueAmbrUl ++ req.securityKey.fields 1 asn1EncodeOctets

def e1apEncodeBearerContextSetupResponse (resp : E1apBearerContextSetupResponse) : List (Word × Nat) :=
  e1apEncodeUeIds resp.ueIds ++ resp.pduSessionIds.fields 8 asn1EncodeByte
    ++ resp.drbsSetup.fields 4 e1apEncodeDrbInfo

def e1apEncodePayload : E1apPayload → List (Word × Nat)
  | .e1SetupRequest req => e1apEncodeE1SetupRequest req
  | .e1SetupResponse resp => e1apEncodeE1SetupResponse resp
  | .e1SetupFailure fail => e1apEncodeCause fail.cause ++ [(fail.timeToWait, 32)]
  | .bearerContextSetupRequest req => e1apEncodeBearerContextSetupRequest req
  | .bearerContextSetupResponse resp => e1apEncodeBearerContextSetupResponse resp
  | .bearerContextSetupFailure fail => e1apEncodeUeCause fail
  | .bearerContextReleaseCommand cmd => e1apEncodeUeCause cmd
  | .bearerContextReleaseComplete ueIds => e1apEncodeUeIds ueIds
  | .bearerContextReleaseRequest req => e1apEncodeUeCause req
  | .errorIndication err => err.ueIds.fields 1 e1apEncodeUeIds ++ err.cause.fields 1 e1apEncodeCause
  | .unhandled _ => []

def e1apEncodeMessage (memory : Option Memory) (msg : E1apMessage) : Option (Memory × Nat) :=
  asn1EncodeMessage e1apMaxMessageSize memory (e1apEncodeHeader msg ++ e1apEncodePayload msg.payload)

/-! ### Decoder -/

/-- `e1ap_decode_bits`, with its result cut to the variable it is assigned to. -/
abbrev e1apDecodeBits {n : Nat} (numBits : Nat) : BitReader 32 (BitVec n) := BitReader.bits numBits

def e1apDecodeCuUpId : BitReader 32 E1apGnbCuUpId := do
  let gnbCuUpId ← e1apDecodeBits 32
  let gnbCuUpName ← asn1ReadName
  pure { gnbCuUpId, gnbCuUpName }

def e1apDecodeCuCpId : BitReader 32 E1apGnbCuCpId := do
  let gnbCuCpId ← e1apDecodeBits 32
  let gnbCuCpName ← asn1ReadName
  pure { gnbCuCpId, gnbCuCpName }

def e1apDecodeUeIds : BitReader 32 E1apUeIds := do
  let gnbCuCpUeE1apId ← e1apDecodeBits 32
  let gnbCuUpUeE1apId ← e1apDecodeBits 32
  pure { gnbCuCpUeE1apId, gnbCuUpUeE1apId }

def e1apDecodeTnlInfo : BitReader 32 E1apTnlInfo := do
  let transportType ← e1apDecodeBits 4
  let ipAddress ← e1apDecodeBits 32
  let port ← e1apDecodeBits 16
  let teid ← e1apDecodeBits 32
  pure { transportType, ipAddress, port, teid }

def e1apDecodeQosFlow : BitReader 32 E1apQosFlow := do
  let qfi ← e1apDecodeBits 6
  let fiveQi ← e1apDecodeBits 8
  let gfbrUl ← asn1ReadWide 32
  let gfbrDl ← asn1ReadWide 32
  let priorityLevel ← e1apDecodeBits 8
  pure { qfi, fiveQi, gfbrUl, gfbrDl, priorityLevel }

def e1apDecodeDrbInfo : BitReader 32 E1apDrbInfo := do
  let drbId ← e1apDecodeBits 5
  let pdcpSnSize ← e1apDecodeBits 4
  let rlcMode ← e1apDecodeBits 2
  let qosFlows ← BitReader.counted 6 e1apDecodeQosFlow
  let dlUpTnlInfo ← BitReader.counted 4 e1apDecodeTnlInfo
  pure { drbId, pdcpSnSize, rlcMode, qosFlows, dlUpTnlInfo }

def e1apDecodeSNssai : BitReader 32 E1apSNssai := do
  let sst ← e1apDecodeBits 8
  let sd ← e1apDecodeBits 24
  pure { sst, sd }

def e1apDecodePduSessionInfo : BitReader 32 E1apPduSessionInfo := do
  let pduSessionId ← e1apDecodeBits 8
  let pduSessionType ← e1apDecodeBits 4
  let ueIpAddress ← e1apDecodeBits 32
  let sNssai ← e1apDecodeSNssai
  let drbs ← BitReader.counted 4 e1apDecodeDrbInfo
  let upfUlTnlInfo ← e1apDecodeTnlInfo
  pure { pduSessionId, pduSessionType, ueIpAddress, sNssai, drbs, upfUlTnlInfo }

def e1apDecodeCause : BitReader 32 E1apCause := do
  let causeType ← e1apDecodeBits 3
  let causeValue ← e1apDecodeBits 8
  pure { causeType, causeValue }

def e1apDecodeUeCause : BitReader 32 E1apUeCause := do
  let ueIds ← e1apDecodeUeIds
  let cause ← e1apDecodeCause
  pure { ueIds, cause }

def e1apDecodeE1SetupRequest : BitReader 32 E1apE1SetupRequest := do
  let gnbCuUpId ← e1apDecodeCuUpId
  let supportedPlmns ← BitReader.counted 8 (asn1ReadOctets 3)
  let capacity ← e1apDecodeBits 32
  let tnla ← BitReader.counted 4 e1apDecodeTnlInfo
  pure { gnbCuUpId, supportedPlmns, capacity, tnla }

def e1apDecodeE1SetupResponse : BitReader 32 E1apE1SetupResponse := do
  let gnbCuCpId ← e1apDecodeCuCpId
  let supportedPlmns ← BitReader.counted 8 (asn1ReadOctets 3)
  pure { gnbCuCpId, supportedPlmns }

def e1apDecodeE1SetupFailure : BitReader 32 E1apE1SetupFailure := do
  let cause ← e1apDecodeCause
  let timeToWait ← e1apDecodeBits 32
  pure { cause, timeToWait }

def e1apDecodeBearerContextSetupRequest : BitReader 32 E1apBearerContextSetupRequest := do
  let ueIds ← e1apDecodeUeIds
  let ranUeId ← asn1ReadWide 8
  let pduSessions ← BitReader.counted 8 e1apDecodePduSessionInfo
  let ueAmbrDl ← asn1ReadWide 32
  let ueAmbrUl ← asn1ReadWide 32
  let securityKey ← BitReader.counted 1 (asn1ReadOctets 32)
  pure { ueIds, ranUeId, pduSessions, ueAmbrDl, ueAmbrUl, securityKey }

def e1apDecodeBearerContextSetupResponse : BitReader 32 E1apBearerContextSetupResponse := do
  let ueIds ← e1apDecodeUeIds
  let pduSessionIds ← BitReader.counted 8 (e1apDecodeBits 8)
  let drbsSetup ← BitReader.counted 4 e1apDecodeDrbInfo
  pure { ueIds, pduSessionIds, drbsSetup }

def e1apDecodeErrorIndication : BitReader 32 E1apErrorIndication := do
  let ueIds ← BitReader.counted 1 e1apDecodeUeIds
  let cause ← BitReader.counted 1 e1apDecodeCause
  pure { ueIds, cause }

/-- What `memset` leaves of an identifier pair and a cause. -/
def e1apUeCauseZero : E1apUeCause := ⟨⟨0, 0⟩, ⟨0, 0⟩⟩

/-- There is no case for 16 and 22, the setup failure and the release request. Their members of the union
stay as `memset` has left them. -/
def e1apDecodePayload (messageType : Word) : BitReader 32 E1apPayload :=
  if messageType = 0 then e1apDecodeE1SetupRequest >>= fun req => pure (.e1SetupRequest req)
  else if messageType = 1 then e1apDecodeE1SetupResponse >>= fun resp => pure (.e1SetupResponse resp)
  else if messageType = 2 then e1apDecodeE1SetupFailure >>= fun fail => pure (.e1SetupFailure fail)
  else if messageType = 14 then
    e1apDecodeBearerContextSetupRequest >>= fun req => pure (.bearerContextSetupRequest req)
  else if messageType = 15 then
    e1apDecodeBearerContextSetupResponse >>= fun resp => pure (.bearerContextSetupResponse resp)
  else if messageType = 17 then e1apDecodeUeCause >>= fun cmd => pure (.bearerContextReleaseCommand cmd)
  else if messageType = 18 then
    e1apDecodeUeIds >>= fun ueIds => pure (.bearerContextReleaseComplete ueIds)
  else if messageType = 5 then e1apDecodeErrorIndication >>= fun err => pure (.errorIndication err)
  else if messageType = 16 then pure (.bearerContextSetupFailure e1apUeCauseZero)
  else if messageType = 22 then pure (.bearerContextReleaseRequest e1apUeCauseZero)
  else pure (.unhandled messageType)

def e1apReadMessage : BitReader 32 E1apMessage := InterfaceMessage.read e1apDecodePayload

def e1apDecodeMessage (length : Nat) : Option (BitReader 32 E1apMessage) :=
  asn1DecodeMessage e1apReadMessage length

end Uesim
