import Uesim.Library.TagSearch
import Uesim.Ngap.NasTransport

/-!
# Validating NGAP messages

The validator expects a zero in the first byte, the procedure in the second and the type of the message in the
third. It looks for an element in every fourth byte. The encoder puts the procedure first.
-/

namespace Uesim

open Bytes BitMemory

inductive NgapValidationResult where
  | ok
  | errorLength
  | errorMandatoryIe
  | errorProcedureCode
  | errorMessageType
  | errorBufferTooSmall
  deriving DecidableEq, Repr

structure NgapValidationContext where
  result : NgapValidationResult
  errorIeId : Word
  errorMessage : String
  validatedBytes : Word
  ieCount : Byte
  deriving DecidableEq

structure NgapValidationConfig where
  checkMandatoryIe : Bool
  maxMessageSize : Word

/-- `ngap_validation_get_default_config` -/
def ngapValidationGetDefaultConfig : NgapValidationConfig := ⟨true, 65535⟩

/-- `ngap_validation_context_init` -/
def ngapValidationContextInit : NgapValidationContext := ⟨.ok, 0, "", 0, 0⟩

abbrev NgapValidation := NgapValidationContext × NgapValidationResult

/-- `ngap_validation_set_error`, and the error is returned. -/
def ngapValidationFail (ctx : NgapValidationContext) (result : NgapValidationResult) (ieId : Word)
    (message : String) : NgapValidation :=
  ({ ctx with result, errorIeId := ieId, errorMessage := message }, result)

def ngapIsValidProcedureCode (procCode : Byte) : Bool := procCode ≤ 2 ∨ (21 ≤ procCode ∧ procCode ≤ 41)

/-- By the numbers that `ngap_validation.h` gives to the types. -/
def ngapGetMinMessageLength (msgType : Byte) : Nat :=
  if msgType = 21 ∨ msgType = 22 then 20
  else if msgType = 25 then 30
  else if msgType = 26 then 50
  else if msgType = 32 then 40
  else if msgType = 0 then 15
  else if msgType = 1 then 10
  else 4

/-! ### Elements -/

/-- An identifier of two bytes, the lower one first, and two bytes that nothing looks at. -/
def ngapIeLayout : TagSearch.Layout Word where
  header := 4
  tag place := .byte place fun low => .byte (place + 1) fun high =>
    .done (low.setWidth 32 ||| high.setWidth 32 <<< 8)
  next _ place := .done (some (place + 4))
  tag_within := by
    intro mem limit place h
    exact Reading.within_byte.mpr ⟨by omega, Reading.within_byte.mpr ⟨by omega, Reading.within_done.mpr trivial⟩⟩
  next_within := fun _ _ _ _ => Reading.within_done.mpr trivial
  lt_next := by
    intro mem limit place after h
    cases h
    omega

/-- The calls of `ngap_validate_mandatory_ie` up to the first that fails. -/
def ngapValidateMandatoryIes (start length : Nat) (ieIds : List Word) (ctx : NgapValidationContext) :
    Reading NgapValidation :=
  TagSearch.demand ngapIeLayout length (length + 1) start (ctx, .ok)
    (fun ieId => ngapValidationFail ctx .errorMandatoryIe ieId "Mandatory IE not found") ieIds

/-! ### Messages -/

structure NgapPayloadRule where
  minLength : Nat
  tooShort : String
  mandatory : List Word

/-- What the functions for the types of messages share. -/
def ngapValidatePayload (rule : NgapPayloadRule) (config : NgapValidationConfig) (start length : Nat)
    (ctx : NgapValidationContext) : Reading NgapValidation :=
  if length - start < rule.minLength then pure (ngapValidationFail ctx .errorLength 0 rule.tooShort)
  else do
    let (ctx, result) ← ngapValidateMandatoryIes start length
      (if config.checkMandatoryIe then rule.mandatory else []) ctx
    if result = .ok then pure ({ ctx with validatedBytes := BitVec.ofNat 32 (length - start) }, .ok)
    else pure (ctx, result)

def ngapNgSetupRequestRule : NgapPayloadRule := ⟨10, "NG Setup Request too short", [0]⟩

def ngapNgSetupResponseRule : NgapPayloadRule := ⟨10, "NG Setup Response too short", [14]⟩

def ngapInitialUeMessageRule : NgapPayloadRule := ⟨20, "Initial UE Message too short", [66, 201]⟩

def ngapInitialContextSetupRequestRule : NgapPayloadRule :=
  ⟨30, "Initial Context Setup Request too short", [10, 66]⟩

def ngapPduSessionSetupRequestRule : NgapPayloadRule := ⟨20, "PDU Session Setup Request too short", [10, 66, 215]⟩

def ngapErrorIndicationRule : NgapPayloadRule := ⟨10, "Error Indication too short", [200]⟩

/-- The cases of the switch over the type. -/
def ngapPayloadRule (msgType : Byte) : Option NgapPayloadRule :=
  if msgType = 21 then some ngapNgSetupRequestRule
  else if msgType = 22 then some ngapNgSetupResponseRule
  else if msgType = 25 then some ngapInitialUeMessageRule
  else if msgType = 26 then some ngapInitialContextSetupRequestRule
  else if msgType = 32 then some ngapPduSessionSetupRequestRule
  else if msgType = 0 then some ngapErrorIndicationRule
  else none

def ngapValidatePduHeader (length : Nat) (ctx : NgapValidationContext) : Reading NgapValidation :=
  if length < 4 then pure (ngapValidationFail ctx .errorBufferTooSmall 0 "Buffer too small for header")
  else
    .byte 0 fun discriminator =>
      if discriminator ≠ 0 then pure (ngapValidationFail ctx .errorMessageType 0 "Invalid NGAP discriminator")
      else pure ({ ctx with validatedBytes := 4, ieCount := 0 }, .ok)

def ngapValidatePdu (config : NgapValidationConfig) (length : Nat) (ctx : NgapValidationContext) :
    Reading NgapValidation :=
  if config.maxMessageSize.toNat < length then
    pure (ngapValidationFail ctx .errorLength 0 "Message exceeds max size")
  else do
    let (ctx, result) ← ngapValidatePduHeader length ctx
    if result ≠ .ok then pure (ctx, result)
    else
      .byte 1 fun procedureCode => .byte 2 fun messageType =>
        if ngapIsValidProcedureCode procedureCode = false then
          pure (ngapValidationFail ctx .errorProcedureCode 0 "Invalid procedure code")
        else if length < ngapGetMinMessageLength messageType then
          pure (ngapValidationFail ctx .errorLength 0 "Message shorter than minimum")
        else
          match ngapPayloadRule messageType with
          | some rule => ngapValidatePayload rule config 4 length ctx
          | none => pure ({ ctx with validatedBytes := BitVec.ofNat 32 length }, .ok)

/-! ### What is asked of a message -/

/-- The number in bytes `place` and `place + 1`. -/
def ngapIeIdAt (mem : Memory) (place : Nat) : Word := (mem place).setWidth 32 ||| (mem (place + 1)).setWidth 32 <<< 8

/-- The identifier is in every fourth byte after the header, with as many bytes behind it as an element has. -/
def NgapCarries (mem : Memory) (length : Nat) (ieId : Word) : Prop :=
  ∃ i, 4 + 4 * i + 4 ≤ length ∧ ngapIeIdAt mem (4 + 4 * i) = ieId

section Spec

variable {mem : Memory} {length : Nat} {ctx : NgapValidationContext}

theorem mem_ngapIeIds_iff {ieId : Word} {steps place : Nat} (hsteps : length < place + steps) :
    ieId ∈ TagSearch.tags ngapIeLayout mem length steps place
      ↔ ∃ i, place + 4 * i + 4 ≤ length ∧ ngapIeIdAt mem (place + 4 * i) = ieId := by
  induction steps generalizing place with
  | zero =>
      refine iff_of_false List.not_mem_nil ?_
      rintro ⟨i, hroom, -⟩
      omega
  | succ steps ih =>
      rw [TagSearch.tags]
      change ieId ∈ (if place + 4 ≤ length then ngapIeIdAt mem place
        :: TagSearch.tags ngapIeLayout mem length steps (place + 4) else []) ↔ _
      split
      · rename_i hroom
        rw [List.mem_cons, ih (by omega)]
        constructor
        · rintro (rfl | ⟨i, hi, hid⟩)
          · exact ⟨0, hroom, rfl⟩
          · have hplace : place + 4 + 4 * i = place + 4 * (i + 1) := by omega
            rw [hplace] at hi hid
            exact ⟨i + 1, hi, hid⟩
        · rintro ⟨i, hi, hid⟩
          cases i with
          | zero => exact Or.inl hid.symm
          | succ i =>
              have hplace : place + 4 * (i + 1) = place + 4 + 4 * i := by omega
              rw [hplace] at hi hid
              exact Or.inr ⟨i, hi, hid⟩
      · rename_i hroom
        refine iff_of_false List.not_mem_nil ?_
        rintro ⟨i, hi, -⟩
        omega

theorem ngapValidateMandatoryIes_cases (ieIds : List Word) :
    ((∀ ieId ∈ ieIds, NgapCarries mem length ieId)
        ∧ (ngapValidateMandatoryIes 4 length ieIds ctx).run mem = (ctx, .ok))
      ∨ ∃ ieId ∈ ieIds, ¬NgapCarries mem length ieId
        ∧ (ngapValidateMandatoryIes 4 length ieIds ctx).run mem
          = ngapValidationFail ctx .errorMandatoryIe ieId "Mandatory IE not found" := by
  have hcarries : NgapCarries mem length
      = fun ieId => ieId ∈ TagSearch.tags ngapIeLayout mem length (length + 1) 4 := by
    funext ieId
    exact propext (mem_ngapIeIds_iff (by omega)).symm
  rw [hcarries]
  exact TagSearch.run_demand_cases (length + 1) 4 ieIds

/-- The payload is long enough, and what is mandatory is there, if that is checked. -/
def NgapPayloadRule.Holds (rule : NgapPayloadRule) (config : NgapValidationConfig) (mem : Memory) (length : Nat) :
    Prop :=
  4 + rule.minLength ≤ length ∧ (config.checkMandatoryIe = true → ∀ ieId ∈ rule.mandatory, NgapCarries mem length ieId)

theorem ngapValidatePayload_ok_iff (rule : NgapPayloadRule) (config : NgapValidationConfig) (hheader : 4 ≤ length) :
    ((ngapValidatePayload rule config 4 length ctx).run mem).2 = .ok ↔ rule.Holds config mem length := by
  rw [ngapValidatePayload, NgapPayloadRule.Holds]
  split
  · rename_i hshort
    exact iff_of_false (fun h => by cases h) fun h => by omega
  · rename_i hlong
    rw [and_iff_right (by omega), Reading.run_bind]
    have hasked : (config.checkMandatoryIe = true → ∀ ieId ∈ rule.mandatory, NgapCarries mem length ieId)
        ↔ ∀ ieId ∈ (if config.checkMandatoryIe = true then rule.mandatory else []), NgapCarries mem length ieId := by
      cases config.checkMandatoryIe <;> simp
    rw [hasked]
    generalize (if config.checkMandatoryIe = true then rule.mandatory else []) = asked
    obtain ⟨hall, hrun⟩ | ⟨ieId, hmem, hmissing, hrun⟩ := @ngapValidateMandatoryIes_cases mem length ctx asked
    · rw [hrun]
      exact iff_of_true rfl hall
    · rw [hrun]
      exact iff_of_false (fun h => by cases h) fun hall => hmissing (hall ieId hmem)

theorem ngapValidatePduHeader_ok_iff :
    ((ngapValidatePduHeader length ctx).run mem).2 = .ok ↔ 4 ≤ length ∧ mem 0 = 0 := by
  rw [ngapValidatePduHeader]
  split
  · rename_i hshort
    exact iff_of_false (fun h => by cases h) fun h => Nat.not_le.mpr hshort h.1
  · rename_i hlong
    rw [and_iff_right (Nat.not_lt.mp hlong), Reading.run]
    split
    · rename_i hdiscriminator
      exact iff_of_false (fun h => by cases h) hdiscriminator
    · rename_i hdiscriminator
      exact iff_of_true rfl (not_not.mp hdiscriminator)

/-- What a message has to be. -/
structure NgapPduHolds (config : NgapValidationConfig) (mem : Memory) (length : Nat) : Prop where
  maxMessageSize : length ≤ config.maxMessageSize.toNat
  header : 4 ≤ length
  discriminator : mem 0 = 0
  procedureCode : ngapIsValidProcedureCode (mem 1) = true
  minLength : ngapGetMinMessageLength (mem 2) ≤ length
  payload : ∀ rule, ngapPayloadRule (mem 2) = some rule → rule.Holds config mem length

theorem ngapValidatePdu_ok_iff (config : NgapValidationConfig) :
    ((ngapValidatePdu config length ctx).run mem).2 = .ok ↔ NgapPduHolds config mem length := by
  rw [ngapValidatePdu]
  split
  · rename_i hlong
    exact iff_of_false (fun h => by cases h) fun h => Nat.not_le.mpr hlong h.maxMessageSize
  · rename_i hfits
    rw [Reading.run_bind]
    dsimp only
    split
    · rename_i hheader
      refine iff_of_false hheader fun h => hheader ?_
      exact ngapValidatePduHeader_ok_iff.mpr ⟨h.header, h.discriminator⟩
    · rename_i hheader
      obtain ⟨hlength, hdiscriminator⟩ := ngapValidatePduHeader_ok_iff.mp (not_not.mp hheader)
      rw [Reading.run, Reading.run]
      split
      · rename_i hcode
        exact iff_of_false (fun h => by cases h) fun h => Bool.false_ne_true (hcode.symm.trans h.procedureCode)
      · rename_i hcode
        split
        · rename_i hshort
          exact iff_of_false (fun h => by cases h) fun h => Nat.not_le.mpr hshort h.minLength
        · rename_i hmin
          have hholds : (∀ rule, ngapPayloadRule (mem 2) = some rule → rule.Holds config mem length)
              ↔ NgapPduHolds config mem length :=
            ⟨fun hpayload => ⟨Nat.not_lt.mp hfits, hlength, hdiscriminator, Bool.eq_true_of_not_eq_false hcode,
              Nat.not_lt.mp hmin, hpayload⟩, NgapPduHolds.payload⟩
          rw [← hholds]
          cases ngapPayloadRule (mem 2) with
          | none => exact iff_of_true rfl fun rule h => by cases h
          | some rule =>
              refine (ngapValidatePayload_ok_iff rule config hlength).trans ⟨fun h rule' heq => ?_, fun h => h rule rfl⟩
              cases heq
              exact h

/-! ### What the validator reads -/

theorem within_ngapValidatePayload (rule : NgapPayloadRule) (config : NgapValidationConfig)
    (ctx : NgapValidationContext) : (ngapValidatePayload rule config 4 length ctx).Within mem length := by
  rw [ngapValidatePayload]
  split
  · exact Reading.within_pure mem length _
  · refine Reading.within_bind.mpr ⟨TagSearch.within_demand _ _ _, ?_⟩
    generalize (if config.checkMandatoryIe = true then rule.mandatory else []) = asked
    dsimp only
    split
    · exact Reading.within_pure mem length _
    · exact Reading.within_pure mem length _

theorem within_ngapValidatePdu (config : NgapValidationConfig) (ctx : NgapValidationContext) :
    (ngapValidatePdu config length ctx).Within mem length := by
  rw [ngapValidatePdu]
  split
  · exact Reading.within_pure mem length _
  · refine Reading.within_bind.mpr ⟨?_, ?_⟩
    · rw [ngapValidatePduHeader]
      split
      · exact Reading.within_pure mem length _
      · refine Reading.within_byte.mpr ⟨by omega, ?_⟩
        split
        · exact Reading.within_pure mem length _
        · exact Reading.within_pure mem length _
    · dsimp only
      split
      · exact Reading.within_pure mem length _
      · rename_i hheader
        have hlength := (ngapValidatePduHeader_ok_iff.mp (not_not.mp hheader)).1
        refine Reading.within_byte.mpr ⟨by omega, Reading.within_byte.mpr ⟨by omega, ?_⟩⟩
        split
        · exact Reading.within_pure mem length _
        · split
          · exact Reading.within_pure mem length _
          · split
            · exact within_ngapValidatePayload _ config _
            · exact Reading.within_pure mem length _

end Spec

/-- **A message passes exactly if it begins with a zero and a procedure that there is, is long enough, and has the
mandatory identifiers in places of every fourth byte**, and nothing behind it is read. -/
theorem ngap_validates_iff (config : NgapValidationConfig) (mem : Memory) (length : Nat)
    (ctx : NgapValidationContext) :
    (ngapValidatePdu config length ctx).Within mem length
      ∧ (((ngapValidatePdu config length ctx).run mem).2 = .ok ↔ NgapPduHolds config mem length) :=
  ⟨within_ngapValidatePdu config ctx, ngapValidatePdu_ok_iff config⟩

/-! ### What the encoder writes -/

theorem noBitString_ngapEncode (msg : NgapMessage) :
    ∀ call ∈ ngapEncodeHeader msg ++ ngapEncodePayload msg.payload, call.NoBitString := by
  have hnas : ∀ nasPdu, ∀ call ∈ ngapEncodeNasPdu nasPdu, call.NoBitString := by
    intro nasPdu
    rw [ngapEncodeNasPdu]
    split <;> simp [Asn1Call.NoBitString]
  have htai : ∀ tai, ∀ call ∈ ngapEncodeTai tai, call.NoBitString := by
    simp [ngapEncodeTai, ngapEncodePlmnId, Asn1Call.NoBitString]
  obtain ⟨procedureCode, criticality, transactionId, payload⟩ := msg
  refine List.forall_mem_append.mpr ⟨by simp [ngapEncodeHeader, Asn1Call.NoBitString], ?_⟩
  cases payload with
  | ngSetupRequest req =>
      have htais : ∀ call ∈ req.taiList.items.flatMap ngapEncodeTai, call.NoBitString := by
        intro call hcall
        obtain ⟨tai, -, hmem⟩ := List.mem_flatMap.mp hcall
        exact htai tai call hmem
      refine List.forall_mem_append.mpr ⟨List.forall_mem_append.mpr ⟨?_, htais⟩, ?_⟩
      · simp [ngapEncodePlmnId, Asn1Call.NoBitString]
      · simp [Asn1Call.NoBitString]
  | initialUeMessage req =>
      refine List.forall_mem_append.mpr ⟨?_, hnas req.nasPdu⟩
      simp [ngapEncodeUserLocation, ngapEncodePlmnId, Asn1Call.NoBitString]
  | ueContextReleaseRequest req => simp [ngapEncodePayload, ngapEncodeUeIds, Asn1Call.NoBitString]
  | ueContextReleaseComplete req =>
      simp [ngapEncodePayload, ngapEncodeUeIds, ngapEncodeUserLocation, ngapEncodePlmnId, Asn1Call.NoBitString]
  | uplinkNasTransport req =>
      refine List.forall_mem_append.mpr ⟨?_, hnas req.nasPdu⟩
      simp [ngapEncodeUeIds, ngapEncodeUserLocation, ngapEncodePlmnId, Asn1Call.NoBitString]
  | other messageType => simp [ngapEncodePayload, Asn1Call.NoBitString]

theorem moves_ngapEncodeNasPdu_le (nasPdu : NgapNasPdu) :
    asn1Moves (ngapEncodeNasPdu nasPdu) ≤ 8 * (6 + ngapMaxNasPdu) := by
  have hbytes : asn1LengthBytes nasPdu.1.length ≤ 3 := by
    rw [asn1LengthBytes]
    split_ifs <;> decide
  have hlength := nasPdu.2
  rw [ngapEncodeNasPdu, asn1Moves_cons, Asn1Call.moves]
  split
  · rw [asn1Moves_cons, asn1Moves_nil, Asn1Call.moves]
    omega
  · rw [asn1Moves_nil]
    omega

theorem moves_ngapEncodeTais (tais : List NgapTai) :
    asn1Moves (tais.flatMap ngapEncodeTai) = 56 * tais.length := by
  induction tais with
  | nil => rfl
  | cons tai tais ih =>
      have hone : asn1Moves (ngapEncodeTai tai) = 56 := rfl
      rw [List.flatMap_cons, asn1Moves_append, ih, hone, List.length_cons]
      omega

theorem moves_ngapEncodePayload (payload : NgapPayload) :
    8 ≤ asn1Moves (ngapEncodePayload payload) ∧ asn1Moves (ngapEncodePayload payload) ≤ 40000 := by
  have hmax : 8 * (6 + ngapMaxNasPdu) ≤ 39000 := by decide
  cases payload with
  | ngSetupRequest req =>
      have hlength : req.taiList.items.length ≤ 255 := req.taiList.length_items.trans_le (min_le_right _ _)
      rw [ngapEncodePayload, asn1Moves_append, asn1Moves_append, moves_ngapEncodeTais]
      change 8 ≤ 72 + 56 * req.taiList.items.length + 24 ∧ 72 + 56 * req.taiList.items.length + 24 ≤ 40000
      omega
  | initialUeMessage req =>
      have hnas := moves_ngapEncodeNasPdu_le req.nasPdu
      rw [ngapEncodePayload, asn1Moves_append]
      change 8 ≤ 96 + _ ∧ 96 + _ ≤ 40000
      omega
  | uplinkNasTransport req =>
      have hnas := moves_ngapEncodeNasPdu_le req.nasPdu
      rw [ngapEncodePayload, asn1Moves_append]
      change 8 ≤ 128 + _ ∧ 128 + _ ≤ 40000
      omega
  | ueContextReleaseRequest req =>
      change 8 ≤ 80 ∧ 80 ≤ 40000
      decide
  | ueContextReleaseComplete req =>
      change 8 ≤ 128 ∧ 128 ≤ 40000
      decide
  | other messageType =>
      change 8 ≤ 8 ∧ 8 ≤ 40000
      decide

/-- The first byte is the procedure written over what the memory held, and four bytes there are always. -/
theorem ngapEncodeMessage_starts {memory : Option Memory} {msg : NgapMessage} {data : Memory} {len : Nat}
    (h : ngapEncodeMessage memory msg = .ok (data, len)) :
    4 ≤ len ∧ ∃ mem, ∀ pos < 8, bitAt data pos = bitAt (writeBits mem 0 msg.procedureCode 8) pos := by
  cases memory with
  | none => cases h
  | some mem =>
      let buf : Asn1Buffer := ⟨mem, 0, ngapMaxMessageSize, 0⟩
      let calls : List Asn1Call :=
        .bits (msg.criticality.setWidth 32) 2 :: .bits 0 6 :: .bits (msg.transactionId &&& 0xFF) 8
          :: ngapEncodePayload msg.payload
      have hcalls : ngapEncodeHeader msg ++ ngapEncodePayload msg.payload = .bits msg.procedureCode 8 :: calls := rfl
      have hplain := noBitString_ngapEncode msg
      rw [hcalls] at hplain
      obtain ⟨-, hrest⟩ := List.forall_mem_cons.mp hplain
      have hmoves : asn1Moves calls = 2 + (6 + (8 + asn1Moves (ngapEncodePayload msg.payload))) := by
        rw [asn1Moves_cons, asn1Moves_cons, asn1Moves_cons]
        rfl
      obtain ⟨hge, hle⟩ := moves_ngapEncodePayload msg.payload
      have hcapacity : ngapMaxMessageSize = 65535 := rfl
      let mid : Asn1Buffer := ⟨writeBits mem 0 msg.procedureCode 8, 1, ngapMaxMessageSize, 8⟩
      have hfirst : (asn1EncodeBits buf msg.procedureCode 8).1 = mid := by
        have hroom : buf.bitOffset + 8 ≤ 8 * buf.capacity := by
          change 0 + 8 ≤ 8 * ngapMaxMessageSize
          decide
        simp [asn1EncodeBits_eq (by decide) hroom, buf, mid]
      have hmoved : mid.MovedBy (asn1Run mid calls) (asn1Moves calls) := by
        apply asn1Run_movedBy hrest
        change 8 + _ ≤ 8 * ngapMaxMessageSize
        omega
      rw [ngapEncodeMessage, hcalls] at h
      change Except.ok ((asn1Run (asn1EncodeBits buf msg.procedureCode 8).1 calls).data,
        asn1BufferLength (asn1Run (asn1EncodeBits buf msg.procedureCode 8).1 calls)) = _ at h
      rw [hfirst] at h
      obtain ⟨rfl, rfl⟩ := Prod.mk.inj (Except.ok.inj h)
      refine ⟨?_, mem, fun pos hpos => hmoved.keeps pos hpos⟩
      rw [asn1BufferLength, hmoved.bitOffset]
      change 4 ≤ (8 + asn1Moves calls + 7) / 8
      omega

/-- **No message of the encoder passes**, whatever it holds, as long as its procedure is another than zero: the
validator finds the procedure where it expects a zero. -/
theorem ngap_refuses_encoded (config : NgapValidationConfig) (memory : Option Memory) (msg : NgapMessage)
    (ctx : NgapValidationContext) (hcode : msg.procedureCode.setWidth 8 ≠ 0) :
    ∀ data len, ngapEncodeMessage memory msg = .ok (data, len) → len ≤ config.maxMessageSize.toNat →
      (ngapValidatePdu config len ctx).run data
        = ngapValidationFail ctx .errorMessageType 0 "Invalid NGAP discriminator" := by
  intro data len hencoded hfits
  obtain ⟨hlen, mem, hbits⟩ := ngapEncodeMessage_starts hencoded
  have hfirst : data 0 ≠ 0 := by
    intro hzero
    apply hcode
    apply BitVec.eq_of_getLsbD_eq
    intro j hj
    have hbit := hbits (7 - j) (by omega)
    rw [bitAt_writeBits] at hbit
    have hplace : 0 + 8 - 1 - (7 - j) = j := by omega
    have hin : decide (0 ≤ 7 - j ∧ 7 - j < 0 + 8) = true := decide_eq_true (by omega)
    have hclear : bitAt data (7 - j) = false := by
      have hdiv : (7 - j) / 8 = 0 := by omega
      rw [bitAt, hdiv, hzero]
      exact BitVec.getLsbD_zero
    rw [hplace, hin, Bool.true_and, hclear] at hbit
    rw [BitVec.getLsbD_setWidth, decide_eq_true hj, Bool.true_and]
    exact (Bool.or_eq_false_iff.mp hbit.symm).2.trans BitVec.getLsbD_zero.symm
  rw [ngapValidatePdu, if_neg (Nat.not_lt.mpr hfits), Reading.run_bind, ngapValidatePduHeader,
    if_neg (Nat.not_lt.mpr hlen), Reading.run, if_pos hfirst]
  rfl

/-- An uplink message with an empty NAS message. -/
theorem ngap_refuses_encoded_uplink :
    ∃ data len,
      ngapEncodeMessage (some zeros) (NgapNasTransport.uplink 1 1 ngapNoUserLocation []).message = .ok (data, len)
        ∧ (ngapValidatePdu ngapValidationGetDefaultConfig len ngapValidationContextInit).run data
          = ngapValidationFail ngapValidationContextInit .errorMessageType 0 "Invalid NGAP discriminator" := by
  obtain ⟨data, hencoded, -⟩ :=
    (NgapNasTransport.uplink 1 1 ngapNoUserLocation []).ngapEncodeMessage_message zeros
  have hcode : (NgapNasTransport.uplink 1 1 ngapNoUserLocation []).message.procedureCode.setWidth 8 ≠ 0 := by decide
  have hfits : (NgapNasTransport.uplink 1 1 ngapNoUserLocation []).encodedLength
      ≤ ngapValidationGetDefaultConfig.maxMessageSize.toNat := by decide
  exact ⟨data, _, hencoded, ngap_refuses_encoded ngapValidationGetDefaultConfig (some zeros) _
    ngapValidationContextInit hcode data _ hencoded hfits⟩

end Uesim
