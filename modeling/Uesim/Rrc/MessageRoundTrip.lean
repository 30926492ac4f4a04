import Uesim.Asn1.RrcFixedRoundTrip
import Uesim.Rrc.MessageCodec

/-!
# Messages that are encoded and decoded

The encoder writes PER and the decoder expects numbers of the host. No message comes back: most are shorter
than these numbers, and what begins a longer one is not its type.
-/

namespace Uesim

open Bytes BitMemory

/-- Where the handler of a type reads its data. -/
def RrcMessageType.handlerOffsets : RrcMessageType → List Nat
  | setup | reestablishment | reconfiguration => [0]
  | handoverCommand => [0, 2, 3]
  | _ => []

/-- The data of a type whose handler reads them. -/
def RrcMessageType.bytes : (messageType : RrcMessageType) → messageType.Data → Memory
  | setup, data => data
  | reestablishment, data => data
  | reconfiguration, data => data
  | handoverCommand, data => data
  | _, _ => zeros

/-- The decoded message has the type, two bits of the transaction, and the fields that its handler reads. -/
structure RrcOutgoingMessage.ReceivedAs (message : RrcOutgoingMessage) (decoded : RrcDecodedMessage) :
    Prop where
  messageType : decoded.messageType = message.messageType.code
  transactionId : decoded.transactionId.toNat % 4 = message.transactionId.toNat % 4
  handled : ∀ sent ∈ message.data, ∀ offset ∈ message.messageType.handlerOffsets,
    decoded.data.bind (fun bytes => bytes[offset]?) = some (message.messageType.bytes sent offset)

/-- The message is encoded, and its bytes are decoded to the same message. -/
def RrcOutgoingMessage.ComesBack (message : RrcOutgoingMessage) (encoded : Except UesimError (Memory × Nat))
    (granted : BitVec 64 → Bool) : Prop :=
  ∃ data length decoded, encoded = .ok (data, length)
    ∧ (rrcDecodeMessage (BitVec.ofNat 64 length) granted).run data = .ok decoded
    ∧ message.ReceivedAs decoded

/-! ### What the decoder takes for the type -/

def rrcWireType (data : Memory) : Word := leWord (data 0) (data 1) (data 2) (data 3)

theorem rrcWireType_eq_iff {data : Memory} {value : Word} :
    rrcWireType data = value ↔ ∀ i < 4, data i = byteOf value i := by
  constructor
  · rintro rfl i hi
    obtain rfl | rfl | rfl | rfl : i = 0 ∨ i = 1 ∨ i = 2 ∨ i = 3 := by omega
    all_goals simp [rrcWireType, leWord]
  · intro h
    rw [rrcWireType, leWord, h 0 (by decide), h 1 (by decide), h 2 (by decide), h 3 (by decide)]
    exact beWord_byteOf value

theorem rrcDecodeMessage_messageType {length : BitVec 64} {granted : BitVec 64 → Bool} {data : Memory}
    {decoded : RrcDecodedMessage} (h : (rrcDecodeMessage length granted).run data = .ok decoded) :
    20 ≤ length.toNat ∧ decoded.messageType = rrcWireType data := by
  unfold rrcDecodeMessage at h
  split at h
  · cases h
  · rename_i hlength
    refine ⟨Nat.le_of_not_lt hlength, ?_⟩
    simp only [Reading.run_bind] at h
    split at h
    · split at h
      · cases h
      · split at h
        · rw [Reading.run_bind] at h
          cases h
          rfl
        · cases h
    · cases h
      rfl

/-! ### How a message begins -/

theorem asn1EncodeOctetString_frame {buf : Asn1Buffer} (h : buf.Tight) (data : Memory) (len : Nat) {pos : Nat}
    (hpos : pos < buf.bitOffset) :
    bitAt (asn1EncodeOctetString buf data len).1.data pos = bitAt buf.data pos := by
  have hframe := (asn1EncodeLength_advances buf len).frame pos (Or.inl hpos)
  have houtcome := asn1EncodeLength_lengthOutcome h len
  rw [asn1EncodeOctetString]
  split
  · rename_i mid e heq
    rwa [heq] at hframe
  · rename_i mid heq
    rw [heq] at hframe houtcome
    rcases houtcome with ⟨-, hwritten⟩ | ⟨hfailed, -⟩
    · rw [asn1CopyString]
      split
      · exact hframe
      · have hsize := hwritten.tight.size_eq
        have hbehind := hwritten.bitOffset_lt
        dsimp only at hsize hbehind ⊢
        rw [bitAt_copy_of_not_mem data (Or.inl (by omega))]
        exact hframe
    · exact absurd rfl hfailed

theorem Blank.writeFields_spare {mem : Memory} {pos limit : Nat} (h : Blank mem pos limit)
    (front : List (Word × Nat)) (pad : Nat) :
    Blank (writeFields mem pos (front ++ [(0, pad)])) (pos + fieldsWidth front) limit := by
  induction front generalizing mem pos with
  | nil =>
      intro q hq hlimit
      change bitAt (writeBits mem pos 0 pad) q = false
      have hclear : (0 : Word).getLsbD (pos + pad - 1 - q) = false := BitVec.getLsbD_zero
      rw [bitAt_writeBits, hclear, Bool.and_false, Bool.or_false]
      exact h q hq hlimit
  | cons field front ih =>
      rw [fieldsWidth_cons, ← Nat.add_assoc]
      exact ih (h.writeBits field.1 field.2)

theorem asn1EncodeOctetString_spare (mem : Memory) {fields front : List (Word × Nat)} {start pad : Nat}
    (hfields : fields = front ++ [(0, pad)]) (hbits : ∀ field ∈ fields, field.2 ≤ 32)
    (hstart : fieldsWidth front = start) (hbyte : fieldsWidth fields = 8) (container : Memory) (len pos : Nat)
    (hpos : start ≤ pos ∧ pos < 8) :
    bitAt (asn1EncodeOctetString (asn1EncodeFields (asn1Clear ⟨mem, 0, 256, 0⟩) fields) container len).1.data
      pos = false := by
  have hblank := Blank.writeFields_spare (asn1Clear_blank ⟨mem, 0, 256, 0⟩) front pad
  rw [← hfields] at hblank
  rw [asn1EncodeFields_eq (asn1Clear_tight ⟨mem, 0, 256, 0⟩) hbits
    (show 0 + fieldsWidth fields ≤ 8 * 256 by omega), hbyte]
  rw [asn1EncodeOctetString_frame ⟨rfl, show 0 + 8 ≤ 8 * 256 by decide⟩ container len
    (show pos < 0 + 8 by omega)]
  exact hblank pos (by omega) (show pos < 8 * 256 by omega)

theorem rrcEncodeGeneric_type (mem : Memory) (messageType : RrcMessageType) (transactionId : Word)
    (dataLength : BitVec 64) (data : Option Memory) :
    (rrcEncodeGeneric ⟨mem, 0, 256, 0⟩ messageType transactionId dataLength data).1.data 1
      = messageType.code.setWidth 8 := by
  generalize hheader : ofBytes (rrcHeader messageType transactionId (rrcDataLen dataLength)) = header
  have htype : header 0 = messageType.code.setWidth 8 := by
    rw [← hheader]
    rfl
  have hencoded : asn1EncodeOctetString ⟨mem, 0, 256, 0⟩ header 4
      = (⟨copy (writeBits mem 0 (4 : Word) 8) 1 header 4, 5, 256, 40⟩, .ok ()) := by
    have hcode : asn1LengthCode 4 = 4 := if_pos (by decide)
    have hbytes : asn1LengthBytes 4 = 1 := if_pos (by decide)
    rw [asn1EncodeOctetString_eq (show 0 + 8 * (asn1LengthBytes 4 + 4) ≤ 8 * 256 by decide), hcode, hbytes]
    simp only [Nat.zero_add, Nat.reduceMul, Nat.reduceAdd, Nat.reduceDiv]
  have hfirst : copy (writeBits mem 0 (4 : Word) 8) 1 header 4 1 = messageType.code.setWidth 8 :=
    (copy_of_mem header (Nat.le_refl 1) (by decide)).trans htype
  unfold rrcEncodeGeneric
  dsimp only
  rw [hheader, hencoded]
  cases data with
  | none => exact hfirst
  | some bytes =>
      dsimp only
      split
      · rw [← hfirst]
        apply memory_ext
        intro k hk
        have hsize : 5 = (40 + 7) / 8 := by decide
        have hinside : 40 ≤ 8 * 256 := by decide
        refine asn1EncodeOctetString_frame ⟨hsize, hinside⟩ bytes _ ?_
        change 8 * 1 + k < 40
        omega
      · exact hfirst

/-! ### No message comes back -/

def RrcMessageType.Missing (messageType : RrcMessageType) (encoded : Asn1Buffer) : Prop :=
  asn1BufferLength encoded < 20 ∨ rrcWireType encoded.data ≠ messageType.code

section Missing

variable {mem : Memory} {messageType : RrcMessageType}

theorem missing_of_fields {fields : List (Word × Nat)} {width : Nat}
    (hbits : ∀ field ∈ fields, field.2 ≤ 32) (hwidth : fieldsWidth fields = width) (hshort : width ≤ 152) :
    messageType.Missing (asn1EncodeFields (asn1Clear ⟨mem, 0, 256, 0⟩) fields) := by
  have hroom : fieldsWidth fields ≤ 8 * 256 := by omega
  have hencoded : (asn1EncodeFields (asn1Clear ⟨mem, 0, 256, 0⟩) fields).HasFields fields :=
    asn1EncodeFields_hasFields rfl hbits hroom
  refine Or.inl ?_
  rw [asn1BufferLength, hencoded.bitOffset]
  omega

theorem missing_of_bit {encoded : Asn1Buffer} {pos : Nat} (hpos : pos < 8)
    (hclear : bitAt encoded.data pos = false) (hset : (byteOf messageType.code 0).getLsbD (7 - pos) = true) :
    messageType.Missing encoded := by
  refine Or.inr fun htype => ?_
  have hfirst := rrcWireType_eq_iff.mp htype 0 (by decide)
  rw [bitAt, Nat.div_eq_of_lt hpos, Nat.mod_eq_of_lt hpos, hfirst, hset] at hclear
  cases hclear

theorem missing_of_generic (transactionId : Word) (dataLength : BitVec 64) (data : Option Memory)
    (hne : messageType.code.setWidth 8 ≠ byteOf messageType.code 1) :
    messageType.Missing (rrcEncodeGeneric ⟨mem, 0, 256, 0⟩ messageType transactionId dataLength data).1 := by
  refine Or.inr fun htype => hne ?_
  rw [← rrcEncodeGeneric_type mem messageType transactionId dataLength data]
  exact rrcWireType_eq_iff.mp htype 1 (by decide)

end Missing

theorem rrcEncodeTransaction_missing (mem : Memory) (messageType : RrcMessageType) (msg : RrcTransaction) :
    messageType.Missing (rrcEncodeTransaction ⟨mem, 0, 256, 0⟩ msg).1 := by
  have hwidth : fieldsWidth (rrcTransactionFields msg.rrcTransactionId) = 8 := rfl
  exact missing_of_fields (by simp) hwidth (by decide)

theorem rrcEncodeMeasurementReport_missing (mem : Memory) (messageType : RrcMessageType)
    (msg : RrcMeasurementReport) :
    messageType.Missing (rrcEncodeMeasurementReport ⟨mem, 0, 256, 0⟩ msg).1 := by
  have hwidth : fieldsWidth (rrcMeasurementReportFields msg) = 67 := rfl
  rw [rrcEncodeMeasurementReport_eq]
  dsimp only
  exact missing_of_fields (by simp [rrcMeasurementReportFields]) hwidth (by decide)

theorem rrcEncodeSetupRequest_missing (mem : Memory) (messageType : RrcMessageType) (msg : RrcSetupRequest) :
    messageType.Missing (rrcEncodeSetupRequest ⟨mem, 0, 256, 0⟩ msg).1 := by
  have hbits : ∀ field ∈ rrcSetupRequestFields msg, field.2 ≤ 32 := by
    simp [rrcSetupRequestFields, rrcUeIdentityFields]
  have hwidth : fieldsWidth (rrcSetupRequestFields msg) = 43 := rfl
  rw [rrcEncodeSetupRequest_eq]
  dsimp only
  exact missing_of_fields hbits hwidth (by decide)

theorem rrcEncodeReestRequest_missing (mem : Memory) (messageType : RrcMessageType) (msg : RrcReestRequest) :
    messageType.Missing (rrcEncodeReestRequest ⟨mem, 0, 256, 0⟩ msg).1 := by
  have hbits : ∀ field ∈ rrcReestRequestFields msg, field.2 ≤ 32 := by
    simp [rrcReestRequestFields, rrcUeIdentityFields]
  have hwidth : fieldsWidth (rrcReestRequestFields msg) = 90 := rfl
  rw [rrcEncodeReestRequest_eq]
  dsimp only
  exact missing_of_fields hbits hwidth (by decide)

theorem rrcEncodeSetupComplete_missing (mem : Memory) (msg : RrcSetupComplete) :
    RrcMessageType.setupComplete.Missing (rrcEncodeSetupComplete ⟨mem, 0, 256, 0⟩ msg).1 := by
  have hfields : rrcSetupCompleteFields msg
      = [(msg.rrcTransactionId.setWidth 32, 2), (msg.selectedPlmn.setWidth 32, 4)] ++ [(0, 2)] := rfl
  have hclear := asn1EncodeOctetString_spare mem hfields (by simp [rrcSetupCompleteFields])
    (show _ = 6 from rfl) rfl msg.nasPdu msg.nasPduLen 6 (by decide)
  exact missing_of_bit (show 6 < 8 by decide) hclear (by decide)

theorem rrcEncodeUeCapInfo_missing (mem : Memory) (msg : RrcUeCapInfo) :
    RrcMessageType.ueCapabilityInformation.Missing (rrcEncodeUeCapInfo ⟨mem, 0, 256, 0⟩ msg).1 := by
  have hfields : [(msg.ratType.setWidth 32, 4), ((0 : Word), 4)]
      = [(msg.ratType.setWidth 32, 4)] ++ [(0, 4)] := rfl
  have hclear := asn1EncodeOctetString_spare mem hfields (by simp) (show _ = 4 from rfl) rfl
    msg.capabilityContainer msg.containerLen 7 (by decide)
  exact missing_of_bit (show 7 < 8 by decide) hclear (by decide)

theorem rrcEncodeData_missing (mem : Memory) (random : BitVec 64) (transactionId : Word)
    (dataLength : BitVec 64) (messageType : RrcMessageType) (data : Option messageType.Data) :
    messageType.Missing
      (rrcEncodeData ⟨mem, 0, 256, 0⟩ random transactionId dataLength messageType data).1 := by
  cases messageType with
  | setupRequest => exact rrcEncodeSetupRequest_missing mem _ _
  | setupComplete => exact rrcEncodeSetupComplete_missing mem _
  | reestablishmentRequest => exact rrcEncodeReestRequest_missing mem _ _
  | measurementReport | handoverPreparation => exact rrcEncodeMeasurementReport_missing mem _ _
  | reestablishmentComplete | reconfigurationComplete | handoverConfirmation | securityModeComplete =>
      exact rrcEncodeTransaction_missing mem _ _
  | ueCapabilityInformation => exact rrcEncodeUeCapInfo_missing mem _
  | setup | reestablishment | reconfiguration | handoverCommand | ueCapabilityEnquiry | connectionRelease
  | securityModeCommand => exact missing_of_generic transactionId dataLength data (by decide)

/-- **No message comes back from its bytes**, whatever is left in the memory of the buffer. -/
theorem rrcEncodeMessage_not_comesBack (memory : Option Memory) (random : BitVec 64)
    (message : RrcOutgoingMessage) (granted : BitVec 64 → Bool) :
    ¬message.ComesBack (rrcEncodeMessage memory random message) granted := by
  rintro ⟨data, length, decoded, hencoded, hdecoded, hsame⟩
  obtain ⟨hlength, htype⟩ := rrcDecodeMessage_messageType hdecoded
  have henough : 20 ≤ length := by
    calc 20 ≤ (BitVec.ofNat 64 length).toNat := hlength
      _ = length % 2 ^ 64 := BitVec.toNat_ofNat ..
      _ ≤ length := Nat.mod_le _ _
  unfold rrcEncodeMessage asn1BufferAlloc at hencoded
  cases memory with
  | none => cases hencoded
  | some mem =>
      have hmissing := rrcEncodeData_missing mem random message.transactionId message.dataLength
        message.messageType message.data
      simp only [Nat.reduceEqDiff, if_false] at hencoded
      split at hencoded
      · cases hencoded
      · rename_i buf heq
        rw [heq] at hmissing
        cases hencoded
        rcases hmissing with hshort | hother
        · exact absurd henough (Nat.not_le.mpr hshort)
        · exact hother (htype.symm.trans hsame.messageType)

/-- A Setup Request has six bytes, and the decoder wants twenty. -/
theorem rrcSetupRequest_not_comesBack :
    ∃ message : RrcOutgoingMessage, message.messageType = .setupRequest ∧ message.data.isSome
      ∧ ∀ granted, ¬message.ComesBack (rrcEncodeMessage (some zeros) 0 message) granted := by
  refine ⟨⟨.setupRequest, 1, 1, 16, some ⟨1, 2⟩⟩, rfl, rfl, fun granted h => ?_⟩
  obtain ⟨data, length, decoded, hencoded, hdecoded, -⟩ := h
  have hlength : length = 6 := by
    cases hencoded
    rfl
  obtain ⟨henough, -⟩ := rrcDecodeMessage_messageType hdecoded
  rw [hlength] at henough
  exact absurd henough (by decide)

end Uesim
