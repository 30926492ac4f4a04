import Uesim.Library.Reading
import Uesim.Nas.Security

/-!
# What is read of a NAS message

The first two bytes are read without a look at the length. For a message of one byte the second one is
whatever lies behind it, and if that is a plain header, the length of what is left wraps around. From two
bytes on nothing behind the message is read.
-/

namespace Uesim

open Bytes BitMemory Reading

/-! ### The decoder as a program that reads -/

/-- The data behind the header. Its length is a `size_t`, and `served` tells whether there is memory of a
length. Where there is none left, the pointer of the message stays as it is. -/
def nasReadData (message : NasMessage) (served : BitVec 64 → Bool) (header : NasMessageHeader)
    (headerLength : Nat) (messageLength : BitVec 64) : Reading (Except UesimError NasMessage) :=
  if messageLength = 0 then
    pure (.ok
      { header
        messageData := message.messageData.map fun _ => []
        integrityProtected := false
        ciphered := false })
  else if served messageLength then do
    let data ← bytes headerLength messageLength.toNat
    pure (.ok { header, messageData := some data, integrityProtected := false, ciphered := false })
  else pure (.error .memory)

/-- `nas_decode_message` with its reads of the message. -/
def nasReadMessage (message : NasMessage) (served : BitVec 64 → Bool) (encodedLength : BitVec 64) :
    Reading (Except UesimError NasMessage) :=
  if encodedLength = 0 then pure (.error .invalidParam)
  else
    .byte 0 fun discriminator => .byte 1 fun typeByte =>
      let header := { message.header with
        extendedProtocolDiscriminator := discriminator
        securityHeaderType := typeByte >>> 4 &&& 0x0f
        messageType := typeByte &&& 0x0f }
      if header.securityHeaderType = 0 then nasReadData message served header 2 (encodedLength - 2)
      else if encodedLength.toNat < nasMessageHeaderSize then pure (.error .invalidParam)
      else
        .byte 2 fun m0 => .byte 3 fun m1 => .byte 4 fun m2 => .byte 5 fun m3 => .byte 6 fun sequenceNumber =>
          nasReadData message served
            { header with
              messageAuthenticationCode := leWord m0 m1 m2 m3
              sequenceNumber }
            7 (encodedLength - 7)

/-- What is left behind a header that is there. -/
theorem header_add_toNat_sub {encodedLength : BitVec 64} (header : BitVec 64)
    (h : header.toNat ≤ encodedLength.toNat) :
    header.toNat + (encodedLength - header).toNat = encodedLength.toNat := by
  rw [BitVec.toNat_sub_of_le (BitVec.le_def.mpr h)]
  omega

section Decoding

variable {message : NasMessage} {served : BitVec 64 → Bool}

/-! ### Its result -/

theorem run_nasReadData (hserved : ∀ size, served size = true) {encoded : List Byte} {headerLength : Nat}
    {messageLength : BitVec 64} (hlength : headerLength + messageLength.toNat = encoded.length)
    (header : NasMessageHeader) :
    (nasReadData message served header headerLength messageLength).run (ofBytes encoded)
      = .ok
          { header
            messageData := if encoded.drop headerLength = [] then message.messageData.map fun _ => []
              else some (encoded.drop headerLength)
            integrityProtected := false
            ciphered := false } := by
  have hempty : encoded.drop headerLength = [] ↔ messageLength = 0 := by
    rw [List.drop_eq_nil_iff, ← BitVec.toNat_inj]
    change encoded.length ≤ headerLength ↔ messageLength.toNat = 0
    omega
  rw [nasReadData]
  by_cases hnone : messageLength = 0
  · rw [if_pos hnone, if_pos (hempty.mpr hnone), run_pure]
  · rw [if_neg hnone, if_neg fun h => hnone (hempty.mp h), if_pos (hserved _), run_bind,
      run_bytes_ofBytes (Nat.le_of_eq hlength), run_pure]
    have htake : (encoded.drop headerLength).take messageLength.toNat = encoded.drop headerLength := by
      apply List.take_of_length_le
      rw [List.length_drop]
      omega
    rw [htake]

/-- From two bytes on it is the decoder of the other modules, if there is memory for the data. -/
theorem run_nasReadMessage (hserved : ∀ size, served size = true) {encodedLength : BitVec 64}
    {encoded : List Byte} (hlength : encodedLength.toNat = encoded.length) (htwo : 2 ≤ encoded.length) :
    (nasReadMessage message served encodedLength).run (ofBytes encoded)
      = nasDecodeMessage message encoded := by
  obtain ⟨discriminator, rest, rfl⟩ := List.exists_cons_of_length_pos (by omega : 0 < encoded.length)
  have hone : 0 < rest.length := by
    rw [List.length_cons] at htwo
    omega
  obtain ⟨typeByte, rest, rfl⟩ := List.exists_cons_of_length_pos hone
  have hne : encodedLength ≠ 0 := by
    rintro rfl
    rw [← hlength] at htwo
    exact absurd htwo (by decide)
  have htype : ofBytes (discriminator :: typeByte :: rest) 1 = typeByte := rfl
  rw [nasReadMessage, if_neg hne, run, run]
  dsimp only
  rw [htype]
  by_cases hplain : typeByte >>> 4 &&& 0x0f = 0
  · have hdata : 2 + (encodedLength - 2).toNat = (discriminator :: typeByte :: rest).length :=
      (header_add_toNat_sub 2 (hlength ▸ htwo)).trans hlength
    rw [if_pos hplain, run_nasReadData hserved hdata]
    exact (if_pos hplain).symm
  rw [if_neg hplain, hlength]
  by_cases hshort : (discriminator :: typeByte :: rest).length < nasMessageHeaderSize
  · rw [if_pos hshort, run_pure]
    exact ((if_neg hplain).trans (if_pos hshort)).symm
  · have hfive : 5 ≤ rest.length := by
      rw [List.length_cons, List.length_cons, nasMessageHeaderSize] at hshort
      omega
    obtain ⟨m0, m1, m2, m3, sequenceNumber, data, rfl⟩ := exists_fields_of_length hfive
    have hseven : 7 ≤ encodedLength.toNat := by
      rw [hlength]
      simp
    have hdata : 7 + (encodedLength - 7).toNat
        = (discriminator :: typeByte :: m0 :: m1 :: m2 :: m3 :: sequenceNumber :: data).length :=
      (header_add_toNat_sub 7 hseven).trans hlength
    rw [if_neg hshort]
    simp only [run]
    rw [run_nasReadData hserved hdata]
    exact ((if_neg hplain).trans (if_neg hshort)).symm

/-! ### What is read -/

variable {mem : Memory}

/-- The data is read where the header ends, up to the end of the message. -/
theorem within_nasReadData {headerLength limit : Nat} {messageLength : BitVec 64}
    (hfits : headerLength + messageLength.toNat ≤ limit) (header : NasMessageHeader) :
    (nasReadData message served header headerLength messageLength).Within mem limit := by
  rw [nasReadData]
  split
  · exact within_pure _ _ _
  split
  · exact within_bind.mpr ⟨within_bytes.mpr (.inr hfits), within_pure _ _ _⟩
  · exact within_pure _ _ _

theorem partBelow_nasReadData {headerLength limit : Nat} {messageLength : BitVec 64}
    (hfits : headerLength + messageLength.toNat ≤ limit) {header : NasMessageHeader} {decoded : NasMessage}
    (hdecoded : (nasReadData message served header headerLength messageLength).run mem = .ok decoded)
    {payload : List Byte} (hpayload : decoded.messageData = some payload) : PartBelow mem limit payload := by
  rw [nasReadData] at hdecoded
  split at hdecoded
  · rw [run_pure] at hdecoded
    obtain rfl := Except.ok.inj hdecoded
    obtain ⟨_, -, rfl⟩ := Option.map_eq_some_iff.mp hpayload
    exact partBelow_nil mem limit
  split at hdecoded
  · rw [run_bind, run_pure] at hdecoded
    obtain rfl := Except.ok.inj hdecoded
    obtain rfl := Option.some.inj hpayload
    exact partBelow_run_bytes mem hfits
  · rw [run_pure] at hdecoded
    cases hdecoded

end Decoding

/-- The message is rejected, or it is read below its length and its data is a part of it, whatever lies behind
it and whatever memory there is. -/
def NasMessageBounded (message : NasMessage) (encoded : Memory) (encodedLength : BitVec 64) : Prop :=
  ∀ mem : Memory, (∀ i < encodedLength.toNat, mem i = encoded i) → ∀ served,
    (∃ e, (nasReadMessage message served encodedLength).run mem = .error e)
      ∨ (nasReadMessage message served encodedLength).Within mem encodedLength.toNat
        ∧ ∀ decoded payload, (nasReadMessage message served encodedLength).run mem = .ok decoded →
          decoded.messageData = some payload → PartBelow mem encodedLength.toNat payload

section Bounded

variable {message : NasMessage} {encoded : Memory} {encodedLength : BitVec 64}

theorem nasMessageBounded_of_two_le (htwo : 2 ≤ encodedLength.toNat) :
    NasMessageBounded message encoded encodedLength := by
  intro mem _ served
  have hne : encodedLength ≠ 0 := by
    rintro rfl
    exact absurd htwo (by decide)
  have hplainData : 2 + (encodedLength - 2).toNat ≤ encodedLength.toNat :=
    Nat.le_of_eq (header_add_toNat_sub 2 htwo)
  rw [nasReadMessage, if_neg hne]
  by_cases hplain : mem 1 >>> 4 &&& 0x0f = 0
  · refine .inr ⟨?_, fun decoded payload hdecoded hpayload => ?_⟩
    · rw [within_byte, within_byte]
      dsimp only
      rw [if_pos hplain]
      exact ⟨by omega, by omega, within_nasReadData hplainData _⟩
    · rw [run, run] at hdecoded
      dsimp only at hdecoded
      rw [if_pos hplain] at hdecoded
      exact partBelow_nasReadData hplainData hdecoded hpayload
  · by_cases hshort : encodedLength.toNat < nasMessageHeaderSize
    · refine .inl ⟨.invalidParam, ?_⟩
      rw [run, run]
      dsimp only
      rw [if_neg hplain, if_pos hshort, run_pure]
    · rw [nasMessageHeaderSize] at hshort
      have hdata : 7 + (encodedLength - 7).toNat ≤ encodedLength.toNat :=
        Nat.le_of_eq (header_add_toNat_sub 7 (by change 7 ≤ _; omega))
      refine .inr ⟨?_, fun decoded payload hdecoded hpayload => ?_⟩
      · rw [within_byte, within_byte]
        dsimp only
        rw [if_neg hplain, if_neg (by rw [nasMessageHeaderSize]; exact hshort)]
        simp only [within_byte]
        refine ⟨?_, ?_, ?_, ?_, ?_, ?_, ?_, within_nasReadData hdata _⟩ <;> omega
      · rw [run, run] at hdecoded
        dsimp only at hdecoded
        rw [if_neg hplain, if_neg (by rw [nasMessageHeaderSize]; exact hshort)] at hdecoded
        exact partBelow_nasReadData hdata hdecoded hpayload

/-- The second byte is read from behind the message. -/
theorem not_nasMessageBounded_one : ¬NasMessageBounded message encoded 1 := by
  intro h
  have hsame : ∀ i < (1 : BitVec 64).toNat, Function.update zeros 0 (encoded 0) i = encoded i := by
    intro i hi
    obtain rfl : i = 0 := Nat.lt_one_iff.mp hi
    exact Function.update_self ..
  rcases h _ hsame fun _ => true with ⟨e, herror⟩ | ⟨hwithin, -⟩
  · have hplain : Function.update zeros 0 (encoded 0) 1 >>> 4 &&& 0x0f = 0 := by
      rw [Function.update_of_ne (by decide)]
      decide
    rw [nasReadMessage, if_neg (by decide), run, run] at herror
    dsimp only at herror
    rw [if_pos hplain, nasReadData, if_neg (by decide), if_pos rfl, run_bind, run_pure] at herror
    cases herror
  · rw [nasReadMessage, if_neg (by decide), within_byte, within_byte] at hwithin
    exact absurd hwithin.2.1 (by decide)

/-- **Only a message of one byte is not decoded within its length.** -/
theorem nasMessageBounded_iff : NasMessageBounded message encoded encodedLength ↔ encodedLength ≠ 1 := by
  constructor
  · rintro h rfl
    exact not_nasMessageBounded_one h
  · intro hne
    by_cases hzero : encodedLength = 0
    · subst hzero
      exact fun mem _ served => .inl ⟨.invalidParam, rfl⟩
    · apply nasMessageBounded_of_two_le
      have hzero' : encodedLength.toNat ≠ 0 := fun h => hzero (BitVec.eq_of_toNat_eq h)
      have hone : encodedLength.toNat ≠ 1 := fun h => hne (BitVec.eq_of_toNat_eq h)
      omega

end Bounded

end Uesim
