import Uesim.Asn1.BitMessages
import Uesim.Asn1.RrcCapacity

/-!
# NGAP messages

The messages between a base station and the AMF that `ngap_encode_message` has a case for, with the functions
that create the two of them that carry NAS messages. The encoder does not look at the results of the PER
primitives, and the decoder reads the two NAS messages only, at places that are counted in bytes.
-/

namespace Uesim

open Bytes BitMemory

def ngapMaxMessageSize : Nat := 65535

/-- The size of `nas_pdu`. -/
def ngapMaxNasPdu : Nat := 4096

/-! ### Structures -/

structure NgapUeIds where
  ranUeNgapId : Word
  amfUeNgapId : BitVec 64

structure NgapCause where
  causeType : Word
  causeValue : Word

structure NgapGlobalGnbId where
  plmnId : Octets 3
  gnbId : Word

structure NgapTai where
  plmnId : Octets 3
  tac : Word

structure NgapNcgi where
  plmnId : Octets 3
  cellId : Word

structure NgapUserLocationInfoNr where
  nrCgi : NgapNcgi
  tai : Word

/-- `nas_pdu` as far as `nas_pdu_len` counts it. -/
abbrev NgapNasPdu := {bytes : List Byte // bytes.length ≤ ngapMaxNasPdu}

/-- The loop over `tai_list` goes up to `num_tai`, whatever the size of the array. -/
structure NgapNgSetupRequest where
  globalGnbId : NgapGlobalGnbId
  taiList : Counted 8 NgapTai 255
  defaultPagingDrx : Word
  maxUeConnections : Word

structure NgapInitialUeMessage where
  ueIds : NgapUeIds
  userLocation : NgapUserLocationInfoNr
  rrcEstablishmentCause : Byte
  nasPdu : NgapNasPdu

structure NgapUplinkNasTransport where
  ueIds : NgapUeIds
  userLocation : NgapUserLocationInfoNr
  nasPdu : NgapNasPdu

structure NgapUeContextReleaseRequest where
  ueIds : NgapUeIds
  cause : NgapCause

structure NgapUeContextReleaseComplete where
  ueIds : NgapUeIds
  userLocation : NgapUserLocationInfoNr

/-- The member of the union that belongs to the message type. Types without a case in the encoder have
none. -/
inductive NgapPayload where
  | ngSetupRequest (req : NgapNgSetupRequest)
  | initialUeMessage (req : NgapInitialUeMessage)
  | ueContextReleaseRequest (req : NgapUeContextReleaseRequest)
  | ueContextReleaseComplete (req : NgapUeContextReleaseComplete)
  | uplinkNasTransport (req : NgapUplinkNasTransport)
  | other (messageType : Word)

structure NgapMessage where
  procedureCode : Word
  criticality : Byte
  transactionId : Word
  payload : NgapPayload

/-! ### What `memset` leaves -/

def ngapNoPlmnId : Octets 3 := ⟨[0, 0, 0], rfl⟩

def ngapNoUserLocation : NgapUserLocationInfoNr := ⟨⟨ngapNoPlmnId, 0⟩, 0⟩

def ngapNoNasPdu : NgapNasPdu := ⟨[], Nat.zero_le _⟩

def ngapNoSetupRequest : NgapNgSetupRequest := ⟨⟨ngapNoPlmnId, 0⟩, .empty, 0, 0⟩

/-! ### Creation -/

def ngapCopyNasPdu (nasPdu : List Byte) : NgapNasPdu :=
  ⟨nasPdu.take ngapMaxNasPdu, List.length_take_le _ _⟩

def ngapCreateInitialUeMessage (ranUeId : Word) (nasPdu : List Byte) : NgapInitialUeMessage where
  ueIds := ⟨ranUeId, 0⟩
  userLocation := ngapNoUserLocation
  rrcEstablishmentCause := 2
  nasPdu := ngapCopyNasPdu nasPdu

def ngapCreateUplinkNasTransport (ranUeId : Word) (amfUeId : BitVec 64) (nasPdu : List Byte) :
    NgapUplinkNasTransport where
  ueIds := ⟨ranUeId, amfUeId⟩
  userLocation := ngapNoUserLocation
  nasPdu := ngapCopyNasPdu nasPdu

/-- The header that `ngap_create_initial_ue_message` and `ngap_create_uplink_nas_transport` set. -/
def ngapCreateMessage (procedureCode ranUeId : Word) (payload : NgapPayload) : NgapMessage where
  procedureCode := procedureCode
  criticality := 0
  transactionId := ranUeId &&& 0xFF
  payload := payload

/-! ### Encoder -/

/-- `asn1_encode_octet_string(&buf, plmn_id, 3)` -/
def ngapEncodePlmnId (plmnId : Octets 3) : Asn1Call := .octetString (ofBytes plmnId.1) 3

def ngapEncodeHeader (msg : NgapMessage) : List Asn1Call :=
  [.bits msg.procedureCode 8, .bits (msg.criticality.setWidth 32) 2, .bits 0 6,
    .bits (msg.transactionId &&& 0xFF) 8]

def ngapEncodeUeIds (ids : NgapUeIds) : List Asn1Call :=
  [.bits ids.ranUeNgapId 32, .bits ((ids.amfUeNgapId &&& 0xFFFFFFFF).setWidth 32) 32,
    .bits ((ids.amfUeNgapId >>> 32).setWidth 32) 8]

def ngapEncodeUserLocation (location : NgapUserLocationInfoNr) : List Asn1Call :=
  [ngapEncodePlmnId location.nrCgi.plmnId, .bits location.nrCgi.cellId 36, .bits location.tai 24]

def ngapEncodeNasPdu (nasPdu : NgapNasPdu) : List Asn1Call :=
  .length nasPdu.1.length
    :: if nasPdu.1.length > 0 then [.octetString (ofBytes nasPdu.1) nasPdu.1.length] else []

def ngapEncodeTai (tai : NgapTai) : List Asn1Call := [ngapEncodePlmnId tai.plmnId, .bits tai.tac 24]

def ngapEncodePayload : NgapPayload → List Asn1Call
  | .ngSetupRequest req =>
      [ngapEncodePlmnId req.globalGnbId.plmnId, .bits req.globalGnbId.gnbId 32,
          .bits (req.taiList.count.setWidth 32) 8]
        ++ req.taiList.items.flatMap ngapEncodeTai
        ++ [.bits req.defaultPagingDrx 4, .bits 0 4, .bits req.maxUeConnections 16]
  | .initialUeMessage req =>
      .bits req.ueIds.ranUeNgapId 32 :: ngapEncodeUserLocation req.userLocation
        ++ [.bits (req.rrcEstablishmentCause.setWidth 32) 4, .bits 0 4] ++ ngapEncodeNasPdu req.nasPdu
  | .uplinkNasTransport req =>
      ngapEncodeUeIds req.ueIds ++ ngapEncodeUserLocation req.userLocation ++ ngapEncodeNasPdu req.nasPdu
  | .ueContextReleaseRequest req =>
      ngapEncodeUeIds req.ueIds ++ [.bits req.cause.causeType 3, .bits req.cause.causeValue 5]
  | .ueContextReleaseComplete req =>
      ngapEncodeUeIds req.ueIds ++ ngapEncodeUserLocation req.userLocation
  | .other _ => [.bits 0 8]

/-- `memory` is what `uesim_malloc` returns. -/
def ngapEncodeMessage (memory : Option Memory) (msg : NgapMessage) : Except UesimError (Memory × Nat) :=
  match asn1BufferAlloc memory ngapMaxMessageSize with
  | .error e => .error e
  | .ok buf =>
      let buf := asn1Run buf (ngapEncodeHeader msg ++ ngapEncodePayload msg.payload)
      .ok (buf.data, asn1BufferLength buf)

/-! ### Decoder -/

/-- `asn1_decode_bits` into a variable. A call that is refused leaves the variable as it is. -/
def ngapDecodeBits (data : Memory) (bitOffset numBits : Nat) (old : Word) : Nat × Word :=
  match asn1DecodeBits data bitOffset numBits with
  | (bitOffset, .ok value) => (bitOffset, value)
  | (bitOffset, .error _) => (bitOffset, old)

/-- All that follows from byte `dataOffset` on, as much of it as the array holds. -/
def ngapDecodeNasPdu (data : Memory) (len dataOffset : Nat) : NgapNasPdu :=
  if dataOffset < len then ngapCopyNasPdu ((List.range' dataOffset (len - dataOffset)).map data)
  else ngapNoNasPdu

/-- `uninit` is what the stack holds in the place of the variables that are not initialised. -/
def ngapDecodeInitialUeMessage (uninit : Word) (data : Memory) (len bitOffset : Nat) :
    NgapInitialUeMessage :=
  let (bitOffset, ranUeId) := ngapDecodeBits data bitOffset 32 uninit
  let dataOffset := asn1SkipToByteBoundary bitOffset / 8
  let (bitOffset, userLocation) :=
    if dataOffset + 10 ≤ len then
      let plmnId : Octets 3 := ⟨(List.range' dataOffset 3).map data, rfl⟩
      let (bitOffset, cellId) := ngapDecodeBits data ((dataOffset + 3) * 8) 36 uninit
      let (bitOffset, tac) := ngapDecodeBits data bitOffset 24 uninit
      (bitOffset, ⟨⟨plmnId, cellId⟩, tac⟩)
    else (asn1SkipToByteBoundary bitOffset, ngapNoUserLocation)
  let (bitOffset, cause) := ngapDecodeBits data bitOffset 4 uninit
  let (bitOffset, _) := ngapDecodeBits data bitOffset 4 uninit
  { ueIds := ⟨ranUeId, 0⟩
    userLocation
    rrcEstablishmentCause := cause.setWidth 8
    nasPdu := ngapDecodeNasPdu data len (asn1SkipToByteBoundary bitOffset / 8) }

/-- The user location is skipped. -/
def ngapDecodeUplinkNasTransport (uninit : Word) (data : Memory) (len bitOffset : Nat) :
    NgapUplinkNasTransport :=
  let (bitOffset, ranUeId) := ngapDecodeBits data bitOffset 32 uninit
  let (bitOffset, amfUeIdLo) := ngapDecodeBits data bitOffset 32 uninit
  let (bitOffset, amfUeIdHi) := ngapDecodeBits data bitOffset 8 uninit
  { ueIds := ⟨ranUeId, (amfUeIdHi.setWidth 64 <<< 32) ||| amfUeIdLo.setWidth 64⟩
    userLocation := ngapNoUserLocation
    nasPdu := ngapDecodeNasPdu data len (asn1SkipToByteBoundary bitOffset / 8 + 10) }

def ngapDecodePayload (uninit : Word) (data : Memory) (len bitOffset : Nat) (procedureCode : Word) :
    NgapPayload :=
  if procedureCode = 21 then .ngSetupRequest ngapNoSetupRequest
  else if procedureCode = 24 then
    .initialUeMessage (ngapDecodeInitialUeMessage uninit data len bitOffset)
  else if procedureCode = 36 then
    .uplinkNasTransport (ngapDecodeUplinkNasTransport uninit data len bitOffset)
  else if procedureCode = 28 then .ueContextReleaseRequest ⟨⟨0, 0⟩, ⟨0, 0⟩⟩
  else if procedureCode = 25 then .other 4
  else if procedureCode = 29 then .other 16
  else if procedureCode = 33 then .other 26
  else if procedureCode = 40 then .other 35
  else .other 38

def ngapDecodeMessage (uninit : Word) (data : Memory) (len : Nat) : Except UesimError NgapMessage :=
  if len < 4 then .error .invalidParam
  else
    let (bitOffset, procedureCode) := ngapDecodeBits data 0 8 uninit
    let (bitOffset, criticality) := ngapDecodeBits data bitOffset 2 uninit
    let (bitOffset, _) := ngapDecodeBits data bitOffset 6 uninit
    let (bitOffset, transactionId) := ngapDecodeBits data bitOffset 8 uninit
    .ok
      { procedureCode
        criticality := criticality.setWidth 8
        transactionId
        payload :=
          ngapDecodePayload uninit data len (asn1SkipToByteBoundary bitOffset) procedureCode }

end Uesim
