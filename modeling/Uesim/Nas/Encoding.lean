import Uesim.Nas.Reception

/-!
# Encoding NAS messages

The encoder reserves the size that the header has in memory and writes the shorter header of the air, and
it puts the security header and the type into one byte, in which every type reaches into the half of the
security header. The decoder takes its length from what was reserved.
-/

namespace Uesim

open Bytes

/-- The values of `nas_message_type_t`. -/
inductive NasMessageType where
  | registrationRequest
  | registrationAccept
  | registrationComplete
  | registrationReject
  | serviceRequest
  | serviceReject
  | serviceAccept
  | authenticationRequest
  | authenticationResponse
  | authenticationReject
  | authenticationFailure
  | authenticationResult
  | identityRequest
  | identityResponse
  | securityModeCommand
  | securityModeComplete
  | securityModeReject
  | fivegmmStatus
  | notification
  | notificationResponse
  | ulNasTransport
  | dlNasTransport
  | deregistrationRequest
  | deregistrationAccept
  | deregistrationComplete
  | deregistrationReject
  | pduSessionEstablishmentRequest
  | pduSessionEstablishmentAccept
  | pduSessionEstablishmentReject
  | pduSessionAuthenticationCommand
  | pduSessionAuthenticationComplete
  | pduSessionAuthenticationResult
  | pduSessionModificationRequest
  | pduSessionModificationReject
  | pduSessionModificationCommand
  | pduSessionModificationComplete
  | pduSessionModificationCommandReject
  | pduSessionReleaseRequest
  | pduSessionReleaseReject
  | pduSessionReleaseCommand
  | pduSessionReleaseComplete
  | fivegsmStatus
  deriving DecidableEq, Repr

def NasMessageType.toByte : NasMessageType → Byte
  | registrationRequest => 0x41
  | registrationAccept => 0x42
  | registrationComplete => 0x43
  | registrationReject => 0x44
  | serviceRequest => 0x4c
  | serviceReject => 0x4e
  | serviceAccept => 0x4f
  | authenticationRequest => 0x56
  | authenticationResponse => 0x57
  | authenticationReject => 0x58
  | authenticationFailure => 0x59
  | authenticationResult => 0x5a
  | identityRequest => 0x5c
  | identityResponse => 0x5d
  | securityModeCommand => 0x5e
  | securityModeComplete => 0x5f
  | securityModeReject => 0x60
  | fivegmmStatus => 0x64
  | notification => 0x65
  | notificationResponse => 0x66
  | ulNasTransport => 0x67
  | dlNasTransport => 0x68
  | deregistrationRequest => 0x45
  | deregistrationAccept => 0x46
  | deregistrationComplete => 0x47
  | deregistrationReject => 0x48
  | pduSessionEstablishmentRequest => 0xc1
  | pduSessionEstablishmentAccept => 0xc2
  | pduSessionEstablishmentReject => 0xc3
  | pduSessionAuthenticationCommand => 0xc5
  | pduSessionAuthenticationComplete => 0xc6
  | pduSessionAuthenticationResult => 0xc7
  | pduSessionModificationRequest => 0xc9
  | pduSessionModificationReject => 0xca
  | pduSessionModificationCommand => 0xcb
  | pduSessionModificationComplete => 0xcc
  | pduSessionModificationCommandReject => 0xcd
  | pduSessionReleaseRequest => 0xd1
  | pduSessionReleaseReject => 0xd2
  | pduSessionReleaseCommand => 0xd3
  | pduSessionReleaseComplete => 0xd4
  | fivegsmStatus => 0xd6

namespace NasMessage

/-- `message_data` with `message_length`; without data the length is zero. -/
def payload (message : NasMessage) : List Byte := message.messageData.getD []

end NasMessage

/-- The security header is shifted into the upper half of the byte of the type. -/
def nasTypeByte (header : NasMessageHeader) : Byte :=
  header.securityHeaderType <<< 4 ||| header.messageType

/-- What `nas_encode_message` writes. -/
def nasEncodedBytes (message : NasMessage) : List Byte :=
  let header := message.header
  let security := if header.securityHeaderType = 0 then []
    else leBytes header.messageAuthenticationCode ++ [header.sequenceNumber]
  header.extendedProtocolDiscriminator :: nasTypeByte header :: (security ++ message.payload)

/-- `encoded_length`, which is also how much is allocated. -/
def nasEncodedLength (message : NasMessage) : Nat := nasMessageHeaderSize + message.payload.length

/-- The buffer that comes back. It is written from its begin on, and `memory` is what was there before. -/
def nasEncodeMessage (message : NasMessage) (memory : Nat → Byte) : List Byte :=
  let written := nasEncodedBytes message
  written ++ (List.range' written.length (nasEncodedLength message - written.length)).map memory

/-! ### The byte of the type -/

theorem NasMessageType.toByte_halves (type : NasMessageType) :
    type.toByte &&& 0x0f ≠ type.toByte ∧ type.toByte >>> 4 &&& 0x0f ≠ 0 := by
  cases type <;> decide

theorem nasTypeByte_and (header : NasMessageHeader) :
    nasTypeByte header &&& 0x0f = header.messageType &&& 0x0f := by
  have hshifted : header.securityHeaderType <<< 4 &&& 0x0f = 0 := by
    apply BitVec.eq_of_toNat_eq
    have hmask := Nat.and_two_pow_sub_one_eq_mod (header.securityHeaderType <<< 4).toNat 4
    rw [BitVec.toNat_and]
    refine hmask.trans ?_
    rw [BitVec.toNat_shiftLeft, Nat.shiftLeft_eq]
    simp
  rw [nasTypeByte, BitVec.and_or_distrib_right, hshifted]
  exact BitVec.zero_or

theorem nasTypeByte_shift_ne_zero {header : NasMessageHeader}
    (h : header.messageType >>> 4 &&& 0x0f ≠ 0) : nasTypeByte header >>> 4 &&& 0x0f ≠ 0 := by
  rw [nasTypeByte, BitVec.ushiftRight_or_distrib, BitVec.and_or_distrib_right]
  exact fun hzero => h (BitVec.or_eq_zero_iff.mp hzero).2

/-! ### Lengths -/

theorem length_nasEncodedBytes (message : NasMessage) : (nasEncodedBytes message).length
    = (if message.header.securityHeaderType = 0 then 2 else 7) + message.payload.length := by
  have hsecurity : (if message.header.securityHeaderType = 0 then []
      else leBytes message.header.messageAuthenticationCode ++ [message.header.sequenceNumber]).length
      = if message.header.securityHeaderType = 0 then 0 else 5 := by
    split <;> rfl
  rw [nasEncodedBytes, List.length_cons, List.length_cons, List.length_append, hsecurity]
  split <;> omega

/-- **More is announced than is written**, by 18 bytes under a plain header and by 13 under another. -/
theorem nasEncodedLength_eq (message : NasMessage) : nasEncodedLength message
    = (nasEncodedBytes message).length + if message.header.securityHeaderType = 0 then 18 else 13 := by
  rw [nasEncodedLength, length_nasEncodedBytes, nasMessageHeaderSize]
  split <;> omega

theorem length_nasEncodeMessage (message : NasMessage) (memory : Nat → Byte) :
    (nasEncodeMessage message memory).length = nasEncodedLength message := by
  have hlength := nasEncodedLength_eq message
  rw [nasEncodeMessage, List.length_append, List.length_map, List.length_range']
  omega

/-! ### What comes back -/

theorem nasDecodeMessage_messageType {target decoded : NasMessage} {discriminator typeByte : Byte}
    {rest : List Byte} (h : nasDecodeMessage target (discriminator :: typeByte :: rest) = .ok decoded) :
    decoded.header.messageType = typeByte &&& 0x0f := by
  unfold nasDecodeMessage at h
  dsimp only at h
  split at h
  · rw [← Except.ok.inj h]
  · split at h
    · cases h
    · split at h
      · rw [← Except.ok.inj h]
      · cases h

/-- Under a type of the list the decoder always finds a security header, and data that is 13 bytes longer
than what was sent. -/
theorem nasDecodeMessage_nasEncodeMessage {message : NasMessage} {type : NasMessageType}
    (htype : message.header.messageType = type.toByte) (memory : Nat → Byte) (target : NasMessage) :
    ∃ decoded, nasDecodeMessage target (nasEncodeMessage message memory) = .ok decoded
      ∧ decoded.header.messageType = type.toByte &&& 0x0f
      ∧ decoded.payload.length = message.payload.length + 13 := by
  have hsecured : nasTypeByte message.header >>> 4 &&& 0x0f ≠ 0 :=
    nasTypeByte_shift_ne_zero (htype ▸ type.toByte_halves.2)
  obtain ⟨rest, hencoded⟩ : ∃ rest, nasEncodeMessage message memory
      = message.header.extendedProtocolDiscriminator :: nasTypeByte message.header :: rest := ⟨_, rfl⟩
  have hlength := length_nasEncodeMessage message memory
  rw [hencoded, nasEncodedLength, nasMessageHeaderSize, List.length_cons, List.length_cons] at hlength
  obtain ⟨m0, m1, m2, m3, sequenceNumber, data, rfl⟩ :=
    exists_fields_of_length (by omega : 5 ≤ rest.length)
  simp only [List.length_cons] at hlength
  obtain ⟨decoded, hok, -, -, hdata⟩ :=
    nasDecodeMessage_secured hsecured
      (by rw [nasMessageHeaderSize]; omega : nasMessageHeaderSize ≤ data.length + 7)
      target message.header.extendedProtocolDiscriminator sequenceNumber
  refine ⟨decoded, hencoded ▸ hok, ?_, ?_⟩
  · rw [nasDecodeMessage_messageType hok, nasTypeByte_and, htype]
  · rw [NasMessage.payload, hdata, Option.getD_some]
    omega

structure NasMessage.ComesBack (message decoded : NasMessage) : Prop where
  messageType : decoded.header.messageType = message.header.messageType
  securityHeaderType : decoded.header.securityHeaderType = message.header.securityHeaderType
  sequenceNumber : decoded.header.sequenceNumber = message.header.sequenceNumber
  messageAuthenticationCode :
    decoded.header.messageAuthenticationCode = message.header.messageAuthenticationCode
  length : decoded.payload.length = message.payload.length
  payload : decoded.payload = message.payload

/-- The bytes of a message are decoded to it, and there are as many as were written. -/
def NasRoundTrips (message : NasMessage) (memory : Nat → Byte) (target : NasMessage) : Prop :=
  (∃ decoded, nasDecodeMessage target (nasEncodeMessage message memory) = .ok decoded
      ∧ message.ComesBack decoded)
    ∧ nasEncodedLength message = (nasEncodedBytes message).length

/-- **No message makes the round trip.** Whatever decoding gives has another type and more data, and
whatever is announced is more than what was written. -/
theorem not_nasRoundTrips {message : NasMessage} {type : NasMessageType}
    (htype : message.header.messageType = type.toByte) (memory : Nat → Byte) (target : NasMessage) :
    ¬NasRoundTrips message memory target
      ∧ (∀ decoded, nasDecodeMessage target (nasEncodeMessage message memory) = .ok decoded →
        decoded.header.messageType ≠ message.header.messageType
          ∧ decoded.payload.length ≠ message.payload.length)
      ∧ nasEncodedLength message ≠ (nasEncodedBytes message).length := by
  have hlength : nasEncodedLength message ≠ (nasEncodedBytes message).length := by
    rw [nasEncodedLength_eq]
    split <;> omega
  obtain ⟨decoded, hok, hdecoded, hlonger⟩ := nasDecodeMessage_nasEncodeMessage htype memory target
  refine ⟨fun h => hlength h.2, ?_, hlength⟩
  intro decoded' hok'
  obtain rfl := Except.ok.inj (hok.symm.trans hok')
  constructor
  · rw [hdecoded, htype]
    exact type.toByte_halves.1
  · omega

/-- A service request comes back as a message of type 12 with 14 bytes of data. -/
theorem not_nasRoundTrips_serviceRequest :
    ¬NasRoundTrips (nasCreateMessage 0x4c [1]) (fun _ => 0) (nasCreateMessage 0 []) := by
  have htype : (nasCreateMessage 0x4c [1]).header.messageType = NasMessageType.serviceRequest.toByte := rfl
  exact (not_nasRoundTrips htype _ _).1

/-- A registration request with one byte of data: 21 bytes are announced and three are written. -/
theorem not_nasRoundTrips_registrationRequest :
    ¬NasRoundTrips (nasCreateMessage 0x41 [1]) (fun _ => 0) (nasCreateMessage 0 []) := by
  rintro ⟨-, hlength⟩
  exact absurd hlength (by decide)

end Uesim
