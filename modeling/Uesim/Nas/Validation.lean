import Uesim.Library.TagSearch
import Uesim.Nas.Encoding

/-!
# Validating NAS messages

The validator expects the type of a message in its third byte and the information elements behind it, each with a
type and a length of one byte. It is a program that reads the message. Of the mandatory elements it asks whether
their types are there.
-/

namespace Uesim

open Bytes BitMemory

inductive NasValidationResult where
  | ok
  | errorLength
  | errorMandatoryIe
  | errorSequence
  | errorProtocolDiscriminator
  | errorMessageType
  | errorSecurityHeader
  | errorBufferTooSmall
  deriving DecidableEq, Repr

structure NasValidationContext where
  result : NasValidationResult
  errorIeType : Byte
  errorMessage : String
  validatedBytes : Word
  ieCount : Byte
  deriving DecidableEq

structure NasValidationConfig where
  checkMandatoryIe : Bool
  maxMessageSize : Word

def nasMaxPduSize : Word := 65535

def nasMinHeaderSize : Nat := 3

/-- `nas_validation_get_default_config` -/
def nasValidationGetDefaultConfig : NasValidationConfig where
  checkMandatoryIe := true
  maxMessageSize := nasMaxPduSize

/-- `nas_validation_context_init` -/
def nasValidationContextInit : NasValidationContext := ⟨.ok, 0, "", 0, 0⟩

def nasValidationSetError (ctx : NasValidationContext) (result : NasValidationResult) (ieType : Byte)
    (message : String) : NasValidationContext :=
  { ctx with result, errorIeType := ieType, errorMessage := message }

/-- A context and what is returned. -/
abbrev NasValidation := NasValidationContext × NasValidationResult

/-- An error goes into the context and is returned. -/
def nasValidationFail (ctx : NasValidationContext) (result : NasValidationResult) (ieType : Byte)
    (message : String) : NasValidation :=
  (nasValidationSetError ctx result ieType message, result)

/-! ### Values -/

def nasIsValidMessageType (msgType : Byte) : Bool :=
  (0x41 ≤ msgType ∧ msgType ≤ 0x6F) ∨ (0xC1 ≤ msgType ∧ msgType ≤ 0xDF)

def nasIsValidProtocolDiscriminator (pd : Byte) : Bool := pd = 0x7E ∨ pd = 0x2E

/-- The cases of `nas_validate_security_header`. -/
def nasIsValidSecurityHeader (header : Byte) : Bool :=
  header = 0x00 ∨ header = 0x01 ∨ header = 0x02 ∨ header = 0x03 ∨ header = 0x04 ∨ header = 0x0C

def nasGetMinMessageLength (msgType : Byte) : Nat :=
  if msgType = NasMessageType.registrationRequest.toByte then 20
  else if msgType = NasMessageType.registrationAccept.toByte then 10
  else if msgType = NasMessageType.authenticationRequest.toByte then 35
  else if msgType = NasMessageType.authenticationResponse.toByte then 18
  else if msgType = NasMessageType.securityModeCommand.toByte then 10
  else if msgType = NasMessageType.securityModeComplete.toByte then 5
  else if msgType = NasMessageType.pduSessionEstablishmentRequest.toByte then 10
  else if msgType = NasMessageType.pduSessionEstablishmentAccept.toByte then 20
  else if msgType = NasMessageType.ulNasTransport.toByte ∨ msgType = NasMessageType.dlNasTransport.toByte then 10
  else if msgType = NasMessageType.registrationComplete.toByte then 5
  else if msgType = NasMessageType.deregistrationRequest.toByte then 10
  else nasMinHeaderSize

/-! ### Elements -/

/-- A type and a length of one byte each. Where only the type and the length of the last element are left, the
walk ends. -/
def nasIeLayout : TagSearch.Layout Byte where
  header := 2
  tag place := .byte place .done
  next limit place :=
    if place + 3 ≤ limit then .byte (place + 1) fun ieLen => .done (some (place + 2 + ieLen.toNat))
    else .done none
  tag_within := by
    intro mem limit place h
    exact Reading.within_byte.mpr ⟨by omega, Reading.within_done.mpr trivial⟩
  next_within := by
    intro mem limit place h
    split
    · exact Reading.within_byte.mpr ⟨by omega, Reading.within_done.mpr trivial⟩
    · exact Reading.within_done.mpr trivial
  lt_next := by
    intro mem limit place after h
    split at h
    · cases h
      omega
    · cases h

/-- The calls of `nas_validate_mandatory_ie` up to the first that fails. `data` starts at `start`, and ends with
the message. -/
def nasValidateMandatoryIes (start length : Nat) (ieTypes : List Byte) (ctx : NasValidationContext) :
    Reading NasValidation :=
  TagSearch.demand nasIeLayout length (length + 1) start (ctx, .ok)
    (fun ieType => nasValidationFail ctx .errorMandatoryIe ieType "Mandatory IE not found") ieTypes

def nasValidateMandatoryIe (start length : Nat) (ieType : Byte) (ctx : NasValidationContext) :
    Reading NasValidation :=
  nasValidateMandatoryIes start length [ieType] ctx

/-! ### Messages -/

/-- What a function for one type of message asks of what follows the header. -/
structure NasPayloadRule where
  minLength : Nat
  tooShort : String
  mandatory : List Byte

/-- What the functions for the types of messages share. The payload lies from `start` on. -/
def nasValidatePayload (rule : NasPayloadRule) (config : NasValidationConfig) (start length : Nat)
    (ctx : NasValidationContext) : Reading NasValidation :=
  if length - start < rule.minLength then pure (nasValidationFail ctx .errorLength 0 rule.tooShort)
  else do
    let (ctx, result) ← nasValidateMandatoryIes start length
      (if config.checkMandatoryIe then rule.mandatory else []) ctx
    if result = .ok then pure ({ ctx with validatedBytes := BitVec.ofNat 32 (length - start) }, .ok)
    else pure (ctx, result)

def nasRegistrationRequestRule : NasPayloadRule := ⟨5, "Registration request too short", [0x5E, 0x15]⟩

def nasRegistrationAcceptRule : NasPayloadRule := ⟨3, "Registration accept too short", [0x18]⟩

def nasAuthenticationRequestRule : NasPayloadRule := ⟨35, "Authentication request too short", [0x21, 0x20]⟩

def nasSecurityModeCommandRule : NasPayloadRule := ⟨5, "Security mode command too short", [0x30]⟩

def nasPduSessionEstablishmentRequestRule : NasPayloadRule :=
  ⟨5, "PDU session establishment request too short", [0x12, 0x19]⟩

def nasPduSessionEstablishmentAcceptRule : NasPayloadRule :=
  ⟨10, "PDU session establishment accept too short", [0x12, 0x35]⟩

/-- Also for what goes down. -/
def nasUlNasTransportRule : NasPayloadRule := ⟨5, "UL NAS transport too short", [0x40, 0x41]⟩

/-- The cases of the switch over the type. -/
def nasPayloadRule (msgType : Byte) : Option NasPayloadRule :=
  if msgType = NasMessageType.registrationRequest.toByte then some nasRegistrationRequestRule
  else if msgType = NasMessageType.registrationAccept.toByte then some nasRegistrationAcceptRule
  else if msgType = NasMessageType.authenticationRequest.toByte then some nasAuthenticationRequestRule
  else if msgType = NasMessageType.securityModeCommand.toByte then some nasSecurityModeCommandRule
  else if msgType = NasMessageType.pduSessionEstablishmentRequest.toByte then
    some nasPduSessionEstablishmentRequestRule
  else if msgType = NasMessageType.pduSessionEstablishmentAccept.toByte then
    some nasPduSessionEstablishmentAcceptRule
  else if msgType = NasMessageType.ulNasTransport.toByte ∨ msgType = NasMessageType.dlNasTransport.toByte then
    some nasUlNasTransportRule
  else none

def nasValidateMessageHeader (length : Nat) (ctx : NasValidationContext) : Reading NasValidation :=
  if length < nasMinHeaderSize then
    pure (nasValidationFail ctx .errorBufferTooSmall 0 "Buffer too small for header")
  else
    .byte 0 fun epd =>
      if nasIsValidProtocolDiscriminator epd = false then
        pure (nasValidationFail ctx .errorProtocolDiscriminator 0x7E "Invalid protocol discriminator")
      else
        .byte 1 fun second =>
          if nasIsValidSecurityHeader (second &&& 0x0F) = false then
            pure (nasValidationFail ctx .errorSecurityHeader 0 "Invalid security header type")
          else
            .byte 2 fun msgType =>
              if nasIsValidMessageType msgType = false then
                pure (nasValidationFail ctx .errorMessageType 0 "Invalid message type")
              else pure ({ ctx with validatedBytes := 3, ieCount := 0 }, .ok)

/-- A type of zero stands for the one in the message. -/
def nasTypeToValidate (msgType : Byte) : Reading Byte := if msgType = 0 then .byte 2 .done else .done msgType

def nasValidateMessage (config : NasValidationConfig) (length : Nat) (msgType : Byte)
    (ctx : NasValidationContext) : Reading NasValidation :=
  if config.maxMessageSize.toNat < length then
    pure (nasValidationFail ctx .errorLength 0 "Message exceeds max size")
  else do
    let (ctx, result) ← nasValidateMessageHeader length ctx
    if result ≠ .ok then pure (ctx, result)
    else
      let msgType ← nasTypeToValidate msgType
      if length < nasGetMinMessageLength msgType then
        pure (nasValidationFail ctx .errorLength 0 "Message shorter than minimum")
      else
        match nasPayloadRule msgType with
        | some rule => nasValidatePayload rule config nasMinHeaderSize length ctx
        | none => pure ({ ctx with validatedBytes := BitVec.ofNat 32 length }, .ok)

/-! ### What is asked of a message -/

/-- The types of the elements from `start` on. -/
def nasIeTypes (mem : Memory) (start length : Nat) : List Byte :=
  TagSearch.tags nasIeLayout mem length (length + 1) start

section Spec

variable {mem : Memory} {start length : Nat} {ctx : NasValidationContext}

/-- Everything is there, or an element that is not is named. -/
theorem nasValidateMandatoryIes_cases (ieTypes : List Byte) :
    ((∀ ieType ∈ ieTypes, ieType ∈ nasIeTypes mem start length)
        ∧ (nasValidateMandatoryIes start length ieTypes ctx).run mem = (ctx, .ok))
      ∨ ∃ ieType ∈ ieTypes, ieType ∉ nasIeTypes mem start length
        ∧ (nasValidateMandatoryIes start length ieTypes ctx).run mem
          = nasValidationFail ctx .errorMandatoryIe ieType "Mandatory IE not found" :=
  TagSearch.run_demand_cases (length + 1) start ieTypes

theorem nasValidateMandatoryIes_ok_iff (ieTypes : List Byte) :
    ((nasValidateMandatoryIes start length ieTypes ctx).run mem).2 = .ok
      ↔ ∀ ieType ∈ ieTypes, ieType ∈ nasIeTypes mem start length := by
  obtain ⟨hall, hrun⟩ | ⟨ieType, hmem, hmissing, hrun⟩ :=
    @nasValidateMandatoryIes_cases mem start length ctx ieTypes
  · rw [hrun]
    exact iff_of_true rfl hall
  · rw [hrun]
    exact iff_of_false (fun h => by cases h) fun hall => hmissing (hall ieType hmem)

/-- The payload is long enough, and what is mandatory is there, if that is checked. -/
def NasPayloadRule.Holds (rule : NasPayloadRule) (config : NasValidationConfig) (payloadLength : Nat)
    (types : List Byte) : Prop :=
  rule.minLength ≤ payloadLength ∧ (config.checkMandatoryIe = true → ∀ ieType ∈ rule.mandatory, ieType ∈ types)

theorem nasValidatePayload_ok_iff (rule : NasPayloadRule) (config : NasValidationConfig) :
    ((nasValidatePayload rule config start length ctx).run mem).2 = .ok
      ↔ rule.Holds config (length - start) (nasIeTypes mem start length) := by
  rw [nasValidatePayload]
  split
  · rename_i hshort
    exact iff_of_false (fun h => by cases h) fun h => Nat.not_le.mpr hshort h.1
  · rename_i hlong
    have hmandatory : ((nasValidateMandatoryIes start length
        (if config.checkMandatoryIe = true then rule.mandatory else []) ctx).run mem).2 = .ok
        ↔ (config.checkMandatoryIe = true → ∀ ieType ∈ rule.mandatory, ieType ∈ nasIeTypes mem start length) := by
      rw [nasValidateMandatoryIes_ok_iff]
      cases config.checkMandatoryIe <;> simp
    rw [NasPayloadRule.Holds, ← hmandatory, Reading.run_bind]
    generalize (if config.checkMandatoryIe = true then rule.mandatory else []) = asked
    dsimp only
    split
    · rename_i hok
      exact iff_of_true rfl ⟨by omega, hok⟩
    · rename_i hnot
      exact iff_of_false hnot fun h => hnot h.2

theorem nasValidateMessageHeader_ok_iff :
    ((nasValidateMessageHeader length ctx).run mem).2 = .ok
      ↔ nasMinHeaderSize ≤ length ∧ nasIsValidProtocolDiscriminator (mem 0) = true
        ∧ nasIsValidSecurityHeader (mem 1 &&& 0x0F) = true ∧ nasIsValidMessageType (mem 2) = true := by
  rw [nasValidateMessageHeader]
  split
  · rename_i hshort
    exact iff_of_false (fun h => by cases h) fun h => Nat.not_le.mpr hshort h.1
  · rename_i hlong
    rw [and_iff_right (Nat.not_lt.mp hlong), Reading.run]
    split
    · rename_i hdiscriminator
      exact iff_of_false (fun h => by cases h) fun h => Bool.false_ne_true (hdiscriminator.symm.trans h.1)
    · rename_i hdiscriminator
      rw [and_iff_right (Bool.eq_true_of_not_eq_false hdiscriminator), Reading.run]
      split
      · rename_i hsecurity
        exact iff_of_false (fun h => by cases h) fun h => Bool.false_ne_true (hsecurity.symm.trans h.1)
      · rename_i hsecurity
        rw [and_iff_right (Bool.eq_true_of_not_eq_false hsecurity), Reading.run]
        split
        · rename_i htype
          exact iff_of_false (fun h => by cases h) fun h => Bool.false_ne_true (htype.symm.trans h)
        · rename_i htype
          exact iff_of_true rfl (Bool.eq_true_of_not_eq_false htype)

/-- What a message has to be, with the types of its elements. -/
structure NasMessageHolds (config : NasValidationConfig) (mem : Memory) (length : Nat) (msgType : Byte)
    (types : List Byte) : Prop where
  maxMessageSize : length ≤ config.maxMessageSize.toNat
  header : nasMinHeaderSize ≤ length
  discriminator : nasIsValidProtocolDiscriminator (mem 0) = true
  securityHeader : nasIsValidSecurityHeader (mem 1 &&& 0x0F) = true
  messageType : nasIsValidMessageType (mem 2) = true
  minLength : nasGetMinMessageLength msgType ≤ length
  payload : ∀ rule, nasPayloadRule msgType = some rule → rule.Holds config (length - nasMinHeaderSize) types

/-- The type that is validated. -/
def nasEffectiveType (mem : Memory) (msgType : Byte) : Byte := if msgType = 0 then mem 2 else msgType

theorem run_nasTypeToValidate (msgType : Byte) :
    (nasTypeToValidate msgType).run mem = nasEffectiveType mem msgType := by
  rw [nasTypeToValidate, nasEffectiveType]
  split
  · rfl
  · rfl

theorem nasValidateMessage_ok_iff (config : NasValidationConfig) (msgType : Byte) :
    ((nasValidateMessage config length msgType ctx).run mem).2 = .ok
      ↔ NasMessageHolds config mem length (nasEffectiveType mem msgType)
          (nasIeTypes mem nasMinHeaderSize length) := by
  rw [nasValidateMessage]
  split
  · rename_i hlong
    exact iff_of_false (fun h => by cases h) fun h => Nat.not_le.mpr hlong h.maxMessageSize
  · rename_i hsize
    rw [Reading.run_bind]
    dsimp only
    split
    · rename_i hheader
      refine iff_of_false hheader fun h => hheader (nasValidateMessageHeader_ok_iff.mpr ?_)
      exact ⟨h.header, h.discriminator, h.securityHeader, h.messageType⟩
    · rename_i hheader
      have hok := nasValidateMessageHeader_ok_iff.mp (not_not.mp hheader)
      rw [Reading.run_bind, run_nasTypeToValidate]
      split
      · rename_i hshort
        exact iff_of_false (fun h => by cases h) fun h => Nat.not_le.mpr hshort h.minLength
      · rename_i hmin
        cases hrule : nasPayloadRule (nasEffectiveType mem msgType) with
        | none =>
            refine iff_of_true rfl
              { maxMessageSize := Nat.not_lt.mp hsize
                header := hok.1
                discriminator := hok.2.1
                securityHeader := hok.2.2.1
                messageType := hok.2.2.2
                minLength := Nat.not_lt.mp hmin
                payload := fun rule hrule' => ?_ }
            rw [hrule] at hrule'
            cases hrule'
        | some rule =>
            rw [nasValidatePayload_ok_iff]
            constructor
            · intro hpayload
              refine
                { maxMessageSize := Nat.not_lt.mp hsize
                  header := hok.1
                  discriminator := hok.2.1
                  securityHeader := hok.2.2.1
                  messageType := hok.2.2.2
                  minLength := Nat.not_lt.mp hmin
                  payload := fun rule' hrule' => ?_ }
              rw [hrule] at hrule'
              cases hrule'
              exact hpayload
            · exact fun h => h.payload rule hrule

/-! ### What the validator reads -/

theorem within_nasValidatePayload (rule : NasPayloadRule) (config : NasValidationConfig) (ctx : NasValidationContext) :
    (nasValidatePayload rule config start length ctx).Within mem length := by
  rw [nasValidatePayload]
  split
  · exact Reading.within_pure mem length _
  · refine Reading.within_bind.mpr ⟨TagSearch.within_demand _ _ _, ?_⟩
    generalize (if config.checkMandatoryIe = true then rule.mandatory else []) = asked
    dsimp only
    split
    · exact Reading.within_pure mem length _
    · exact Reading.within_pure mem length _

theorem within_nasValidateMessageHeader (ctx : NasValidationContext) :
    (nasValidateMessageHeader length ctx).Within mem length := by
  rw [nasValidateMessageHeader]
  split
  · exact Reading.within_pure mem length _
  · rename_i hlong
    rw [nasMinHeaderSize] at hlong
    refine Reading.within_byte.mpr ⟨by omega, ?_⟩
    split
    · exact Reading.within_pure mem length _
    · refine Reading.within_byte.mpr ⟨by omega, ?_⟩
      split
      · exact Reading.within_pure mem length _
      · refine Reading.within_byte.mpr ⟨by omega, ?_⟩
        split
        · exact Reading.within_pure mem length _
        · exact Reading.within_pure mem length _

/-- **The validator reads the message and nothing behind it.** -/
theorem within_nasValidateMessage (config : NasValidationConfig) (msgType : Byte) (ctx : NasValidationContext) :
    (nasValidateMessage config length msgType ctx).Within mem length := by
  rw [nasValidateMessage]
  split
  · exact Reading.within_pure mem length _
  · refine Reading.within_bind.mpr ⟨within_nasValidateMessageHeader ctx, ?_⟩
    dsimp only
    split
    · exact Reading.within_pure mem length _
    · rename_i hheader
      have hok := nasValidateMessageHeader_ok_iff.mp (not_not.mp hheader)
      have hlong : 3 ≤ length := hok.1
      refine Reading.within_bind.mpr ⟨?_, ?_⟩
      · rw [nasTypeToValidate]
        split
        · exact Reading.within_byte.mpr ⟨by omega, Reading.within_done.mpr trivial⟩
        · exact Reading.within_done.mpr trivial
      · split
        · exact Reading.within_pure mem length _
        · split
          · exact within_nasValidatePayload _ config _
          · exact Reading.within_pure mem length _

end Spec

/-!
## Messages before the validator

A message of elements with a type and a length passes if it is long enough and has the mandatory ones. The messages
that the encoder writes are other: they have no third byte for the type, and the half of the second byte in which
the validator expects the security header belongs to the type.
-/

/-! ### Messages of elements -/

/-- An information element as the validator expects it. -/
structure NasIe where
  type : Byte
  value : {value : List Byte // value.length ≤ 255}

def NasIe.bytes (ie : NasIe) : List Byte := ie.type :: BitVec.ofNat 8 ie.value.1.length :: ie.value.1

def nasMessageBytes (epd second msgType : Byte) (ies : List NasIe) : List Byte :=
  [epd, second, msgType] ++ ies.flatMap NasIe.bytes

theorem ofBytes_append_of_length (before : List Byte) (byte : Byte) (after : List Byte) :
    ofBytes (before ++ byte :: after) before.length = byte := by
  simp [ofBytes]

theorem NasIe.length_bytes (ie : NasIe) : ie.bytes.length = 2 + ie.value.1.length := by
  rw [NasIe.bytes, List.length_cons, List.length_cons]
  omega

theorem run_nasIeNext (mem : Memory) (limit place : Nat) :
    (nasIeLayout.next limit place).run mem
      = if place + 3 ≤ limit then some (place + 2 + (mem (place + 1)).toNat) else none := by
  change (if place + 3 ≤ limit then _ else _ : Reading (Option Nat)).run mem = _
  split
  · rfl
  · rfl

/-- **The walk comes to the elements, one after the other.** -/
theorem lies_nasIes (ies : List NasIe) (before : List Byte) :
    TagSearch.Lies nasIeLayout (ofBytes (before ++ ies.flatMap NasIe.bytes))
      (before ++ ies.flatMap NasIe.bytes).length before.length (ies.map NasIe.type) := by
  induction ies generalizing before with
  | nil =>
      refine .nil ?_
      rw [List.flatMap_nil, List.append_nil]
      exact Nat.lt_add_of_pos_right Nat.two_pos
  | cons ie ies ih =>
      have hbytes : before ++ (ie :: ies).flatMap NasIe.bytes
          = (before ++ ie.bytes) ++ ies.flatMap NasIe.bytes := by
        rw [List.flatMap_cons, List.append_assoc]
      have hlength : ((before ++ ie.bytes) ++ ies.flatMap NasIe.bytes).length
          = before.length + 2 + ie.value.1.length + (ies.flatMap NasIe.bytes).length := by
        rw [List.length_append, List.length_append, NasIe.length_bytes]
        omega
      have hheader : before.length + nasIeLayout.header
          ≤ ((before ++ ie.bytes) ++ ies.flatMap NasIe.bytes).length := by
        change before.length + 2 ≤ _
        omega
      have htag : ofBytes ((before ++ ie.bytes) ++ ies.flatMap NasIe.bytes) before.length = ie.type := by
        rw [NasIe.bytes, List.append_assoc]
        exact ofBytes_append_of_length before _ _
      have hlen : (ofBytes ((before ++ ie.bytes) ++ ies.flatMap NasIe.bytes) (before.length + 1)).toNat
          = ie.value.1.length := by
        have hsplit : (before ++ ie.bytes) ++ ies.flatMap NasIe.bytes
            = (before ++ [ie.type]) ++ BitVec.ofNat 8 ie.value.1.length :: (ie.value.1 ++ ies.flatMap NasIe.bytes) := by
          simp [NasIe.bytes]
        have hplace : before.length + 1 = (before ++ [ie.type]).length := by simp
        rw [hsplit, hplace, ofBytes_append_of_length, BitVec.toNat_ofNat]
        exact Nat.mod_eq_of_lt (Nat.lt_succ_of_le ie.value.2)
      have hafter := ih (before ++ ie.bytes)
      have hplace : (before ++ ie.bytes).length = before.length + 2 + ie.value.1.length := by
        rw [List.length_append, NasIe.length_bytes]
        omega
      rw [hbytes, List.map_cons]
      by_cases hmore : before.length + 3 ≤ ((before ++ ie.bytes) ++ ies.flatMap NasIe.bytes).length
      · refine .cons hheader htag ?_ hafter
        rw [run_nasIeNext, if_pos hmore, hlen, hplace]
      · -- the last element, without a value
        cases ies with
        | nil => exact .last hheader htag (by rw [run_nasIeNext, if_neg hmore])
        | cons next ies =>
            have hrest : 2 ≤ ((next :: ies).flatMap NasIe.bytes).length := by
              rw [List.flatMap_cons, List.length_append, NasIe.length_bytes]
              omega
            omega

section Ies

variable (epd second msgType : Byte) (ies : List NasIe) (ctx : NasValidationContext)

theorem nasIeTypes_ofBytes :
    nasIeTypes (ofBytes (nasMessageBytes epd second msgType ies)) nasMinHeaderSize
      (nasMessageBytes epd second msgType ies).length = ies.map NasIe.type :=
  (lies_nasIes ies [epd, second, msgType]).tags_eq (Nat.lt_add_left _ (Nat.lt_succ_self _))

/-- An error about a mandatory element names one that is not there. -/
def NasNamesMissing (config : NasValidationConfig) (msgType : Byte) (types : List Byte) (outcome : NasValidation) :
    Prop :=
  outcome.2 = .errorMandatoryIe →
    config.checkMandatoryIe = true ∧ outcome.1.errorIeType ∉ types
      ∧ ∃ rule, nasPayloadRule msgType = some rule ∧ outcome.1.errorIeType ∈ rule.mandatory

theorem nasValidateMandatoryIes_missing {mem : Memory} {start length : Nat} (ieTypes : List Byte)
    (h : ((nasValidateMandatoryIes start length ieTypes ctx).run mem).2 = .errorMandatoryIe) :
    ((nasValidateMandatoryIes start length ieTypes ctx).run mem).1.errorIeType ∈ ieTypes
      ∧ ((nasValidateMandatoryIes start length ieTypes ctx).run mem).1.errorIeType
        ∉ nasIeTypes mem start length := by
  obtain ⟨-, hrun⟩ | ⟨ieType, hmem, hmissing, hrun⟩ := @nasValidateMandatoryIes_cases mem start length ctx ieTypes
  · rw [hrun] at h
    cases h
  · rw [hrun]
    exact ⟨hmem, hmissing⟩

theorem nasValidatePayload_namesMissing {mem : Memory} {start length : Nat} {rule : NasPayloadRule}
    {config : NasValidationConfig}
    (h : ((nasValidatePayload rule config start length ctx).run mem).2 = .errorMandatoryIe) :
    config.checkMandatoryIe = true
      ∧ ((nasValidatePayload rule config start length ctx).run mem).1.errorIeType ∉ nasIeTypes mem start length
      ∧ ((nasValidatePayload rule config start length ctx).run mem).1.errorIeType ∈ rule.mandatory := by
  by_cases hshort : length - start < rule.minLength
  · rw [nasValidatePayload, if_pos hshort] at h
    cases h
  · rw [nasValidatePayload, if_neg hshort, Reading.run_bind] at h ⊢
    cases hcheck : config.checkMandatoryIe with
    | false =>
        rw [hcheck] at h
        cases h
    | true =>
        rw [hcheck, if_pos rfl] at h
        rw [if_pos rfl]
        dsimp only at h ⊢
        split at h
        · cases h
        · rename_i hnot
          rw [if_neg hnot]
          obtain ⟨hmem, hmissing⟩ := nasValidateMandatoryIes_missing ctx rule.mandatory h
          exact ⟨rfl, hmissing, hmem⟩

theorem nasValidateMessageHeader_ne {mem : Memory} {length : Nat} :
    ((nasValidateMessageHeader length ctx).run mem).2 ≠ .errorMandatoryIe := by
  rw [nasValidateMessageHeader]
  split
  · exact fun h => by cases h
  · rw [Reading.run]
    split
    · exact fun h => by cases h
    · rw [Reading.run]
      split
      · exact fun h => by cases h
      · rw [Reading.run]
        split
        · exact fun h => by cases h
        · exact fun h => by cases h

theorem nasValidateMessage_namesMissing (mem : Memory) (length : Nat) (config : NasValidationConfig)
    (asked : Byte) :
    NasNamesMissing config (nasEffectiveType mem asked) (nasIeTypes mem nasMinHeaderSize length)
      ((nasValidateMessage config length asked ctx).run mem) := by
  intro h
  by_cases hlong : config.maxMessageSize.toNat < length
  · rw [nasValidateMessage, if_pos hlong] at h
    cases h
  · rw [nasValidateMessage, if_neg hlong, Reading.run_bind] at h ⊢
    dsimp only at h ⊢
    split at h
    · exact absurd h (nasValidateMessageHeader_ne ctx)
    · rename_i hheader
      rw [if_neg hheader]
      rw [Reading.run_bind, run_nasTypeToValidate] at h ⊢
      split at h
      · cases h
      · rename_i hmin
        rw [if_neg hmin]
        cases hrule : nasPayloadRule (nasEffectiveType mem asked) with
        | none =>
            rw [hrule] at h
            cases h
        | some rule =>
            rw [hrule] at h
            obtain ⟨hcheck, hmissing, hmem⟩ := nasValidatePayload_namesMissing _ h
            exact ⟨hcheck, hmissing, rule, rfl, hmem⟩

/-- **A message of elements passes exactly if it is long enough and has the mandatory ones**; a mandatory element
that an error names is missing, and nothing behind the message is read. -/
theorem nas_validates_elements (config : NasValidationConfig) (asked : Byte) :
    let mem := ofBytes (nasMessageBytes epd second msgType ies)
    let length := (nasMessageBytes epd second msgType ies).length
    let effective := if asked = 0 then msgType else asked
    (nasValidateMessage config length asked ctx).Within mem length
      ∧ (((nasValidateMessage config length asked ctx).run mem).2 = .ok
          ↔ NasMessageHolds config mem length effective (ies.map NasIe.type))
      ∧ NasNamesMissing config effective (ies.map NasIe.type)
          ((nasValidateMessage config length asked ctx).run mem) := by
  refine ⟨within_nasValidateMessage config asked ctx, ?_, ?_⟩
  · have hok := @nasValidateMessage_ok_iff (ofBytes (nasMessageBytes epd second msgType ies))
      (nasMessageBytes epd second msgType ies).length ctx config asked
    rwa [nasIeTypes_ofBytes] at hok
  · have hnames := nasValidateMessage_namesMissing ctx (ofBytes (nasMessageBytes epd second msgType ies))
      (nasMessageBytes epd second msgType ies).length config asked
    rwa [nasIeTypes_ofBytes] at hnames

end Ies

/-! ### What the encoder writes -/

/-- The byte in which the validator looks for the type: the first one of the payload, of what was in memory, or of
the authentication code. -/
def NasMessage.thirdByte (message : NasMessage) (memory : Nat → Byte) : Byte :=
  if message.header.securityHeaderType = 0 then message.payload.headD (memory 2)
  else byteOf message.header.messageAuthenticationCode 0

theorem nasEncodeMessage_starts (message : NasMessage) (memory : Nat → Byte) :
    ∃ rest, nasEncodeMessage message memory
      = message.header.extendedProtocolDiscriminator :: nasTypeByte message.header
        :: message.thirdByte memory :: rest := by
  rw [nasEncodeMessage, nasEncodedLength_eq, nasEncodedBytes, NasMessage.thirdByte]
  by_cases hplain : message.header.securityHeaderType = 0
  · simp only [if_pos hplain, List.nil_append]
    cases hpayload : message.payload with
    | nil =>
        rw [List.length_cons, List.length_cons, List.length_nil]
        exact ⟨_, rfl⟩
    | cons byte bytes => exact ⟨_, rfl⟩
  · simp only [if_neg hplain]
    exact ⟨_, rfl⟩

/-- What it takes for a message of the encoder to pass, as a message of the type that the validator goes by. -/
structure NasEncodedHolds (config : NasValidationConfig) (message : NasMessage) (type : NasMessageType)
    (memory : Nat → Byte) (effective : Byte) : Prop where
  maxMessageSize : nasEncodedLength message ≤ config.maxMessageSize.toNat
  discriminator : nasIsValidProtocolDiscriminator message.header.extendedProtocolDiscriminator = true
  lowerHalf : nasIsValidSecurityHeader (type.toByte &&& 0x0F) = true
  thirdByte : nasIsValidMessageType (message.thirdByte memory) = true
  minLength : nasGetMinMessageLength effective ≤ nasEncodedLength message
  payload : ∀ rule, nasPayloadRule effective = some rule →
    rule.Holds config (nasEncodedLength message - nasMinHeaderSize)
      (nasIeTypes (ofBytes (nasEncodeMessage message memory)) nasMinHeaderSize (nasEncodedLength message))

/-- **The validator takes the lower half of the type for the security header, and the byte behind the header for
the type.** Whether a message of the encoder passes has to do with its type for that reason only. -/
theorem nas_validates_encoded_iff {message : NasMessage} {type : NasMessageType}
    (htype : message.header.messageType = type.toByte) (memory : Nat → Byte) (config : NasValidationConfig)
    (asked : Byte) (ctx : NasValidationContext) :
    let bytes := nasEncodeMessage message memory
    ((nasValidateMessage config bytes.length asked ctx).run (ofBytes bytes)).2 = .ok
      ↔ NasEncodedHolds config message type memory (if asked = 0 then message.thirdByte memory else asked) := by
  intro bytes
  have hlength : bytes.length = nasEncodedLength message := length_nasEncodeMessage message memory
  obtain ⟨rest, hbytes⟩ := nasEncodeMessage_starts message memory
  have hfirst : ofBytes bytes 0 = message.header.extendedProtocolDiscriminator := congrFun (congrArg ofBytes hbytes) 0
  have hsecond : ofBytes bytes 1 &&& 0x0F = type.toByte &&& 0x0F := by
    calc ofBytes bytes 1 &&& 0x0F = nasTypeByte message.header &&& 0x0F :=
          congrArg (· &&& 0x0F) (congrFun (congrArg ofBytes hbytes) 1)
      _ = message.header.messageType &&& 0x0F := nasTypeByte_and message.header
      _ = type.toByte &&& 0x0F := by rw [htype]
  have hthird : ofBytes bytes 2 = message.thirdByte memory := congrFun (congrArg ofBytes hbytes) 2
  rw [nasValidateMessage_ok_iff, nasEffectiveType, hthird, hlength]
  constructor
  · intro h
    exact {
      maxMessageSize := h.maxMessageSize
      discriminator := hfirst ▸ h.discriminator
      lowerHalf := hsecond ▸ h.securityHeader
      thirdByte := hthird ▸ h.messageType
      minLength := h.minLength
      payload := h.payload }
  · intro h
    exact {
      maxMessageSize := h.maxMessageSize
      header := by rw [nasEncodedLength, nasMessageHeaderSize, nasMinHeaderSize]; omega
      discriminator := hfirst ▸ h.discriminator
      securityHeader := hsecond ▸ h.lowerHalf
      messageType := hthird ▸ h.thirdByte
      minLength := h.minLength
      payload := h.payload }

/-- An authentication response does not pass, even if its payload starts with its type. -/
theorem nas_refuses_encoded_authenticationResponse :
    ((nasValidateMessage nasValidationGetDefaultConfig
        (nasEncodeMessage (nasCreateMessage 0x57 [0x57]) fun _ => 0).length 0x57 nasValidationContextInit).run
      (ofBytes (nasEncodeMessage (nasCreateMessage 0x57 [0x57]) fun _ => 0))).2 ≠ .ok := by
  intro h
  have htype : (nasCreateMessage 0x57 [0x57]).header.messageType = NasMessageType.authenticationResponse.toByte :=
    rfl
  have hholds := (nas_validates_encoded_iff htype (fun _ => 0) nasValidationGetDefaultConfig 0x57
    nasValidationContextInit).mp h
  exact absurd hholds.lowerHalf (by decide)

end Uesim
