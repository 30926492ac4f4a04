import Uesim.Asn1.Per

/-!
# Reading back a sequence of fields

Every field of known width is a number in so many bits, whatever its type makes of it. Writers put these
numbers one behind the other and readers take them from there, so a sequence of fields is read back if
every type turns its numbers back into its values.
-/

namespace Uesim

open Bytes BitMemory

/-- `after` is the buffer with the low `width` bits of `code` written behind what it held. -/
structure Asn1Buffer.Wrote (buf : Asn1Buffer) (code : Word) (width : Nat) (after : Asn1Buffer) :
    Prop where
  data : after.data = writeBits buf.data buf.bitOffset code width
  bitOffset : after.bitOffset = buf.bitOffset + width
  capacity : after.capacity = buf.capacity

theorem Asn1Buffer.wrote_nothing (buf : Asn1Buffer) (code : Word) : buf.Wrote code 0 buf :=
  ⟨rfl, rfl, rfl⟩

theorem asn1EncodeBits_wrote {buf : Asn1Buffer} (code : Word) {width : Nat} (hwidth : width ≤ 32)
    (hroom : buf.bitOffset + width ≤ 8 * buf.capacity) :
    ∃ after, asn1EncodeBits buf code width = (after, .ok ()) ∧ buf.Wrote code width after :=
  ⟨_, asn1EncodeBits_eq hwidth hroom, rfl, rfl, rfl⟩

theorem countBits_eq_zero_iff {w : Nat} {tmp : BitVec w} : countBits tmp = 0 ↔ tmp = 0 := by
  rw [countBits_eq, Nat.size_eq_zero]
  constructor
  · intro hzero
    apply BitVec.eq_of_toNat_eq
    rw [hzero]
    exact BitVec.toNat_zero.symm
  · rintro rfl
    exact BitVec.toNat_zero

theorem lt_two_pow_countBits {w value : Nat} {tmp : BitVec w} (h : value ≤ tmp.toNat) :
    value < 2 ^ countBits tmp := by
  rw [countBits_eq]
  exact Nat.lt_of_le_of_lt h (Nat.lt_size_self _)

theorem countBits_le {w width : Nat} {tmp : BitVec w} (h : tmp.toNat < 2 ^ width) :
    countBits tmp ≤ width := by
  rw [countBits_eq]
  exact Nat.size_le.mpr h

/-! ### One of so many alternatives -/

section Alternatives

variable {value numValues : Word} (h : value.toNat < numValues.toNat)

include h

theorem toNat_sub_one_of_lt : (numValues - 1).toNat = numValues.toNat - 1 := by
  have hle : (1 : Word) ≤ numValues := Nat.lt_of_le_of_lt (Nat.zero_le _) h
  exact BitVec.toNat_sub_of_le hle

theorem ne_zero_of_alternative : numValues ≠ 0 := by
  rintro rfl
  exact Nat.not_lt_zero _ h

/-- Where there is one alternative only, it is the first, and its number has no bits. -/
theorem eq_zero_of_single (hsingle : numValues.toNat ≤ 1) :
    value = 0 ∧ countBits (numValues - 1) = 0 := by
  constructor
  · apply BitVec.eq_of_toNat_eq
    have hzero : (0 : Word).toNat = 0 := BitVec.toNat_zero
    omega
  · rw [countBits_eq, toNat_sub_one_of_lt h, Nat.size_eq_zero]
    omega

theorem alternative_lt_two_pow : value.toNat < 2 ^ countBits (numValues - 1) := by
  apply lt_two_pow_countBits
  rw [toNat_sub_one_of_lt h]
  exact Nat.le_sub_one_of_lt h

theorem asn1EncodeEnumerated_wrote {buf : Asn1Buffer}
    (hroom : buf.bitOffset + countBits (numValues - 1) ≤ 8 * buf.capacity) :
    ∃ after, asn1EncodeEnumerated buf value numValues = (after, .ok ())
      ∧ buf.Wrote value (countBits (numValues - 1)) after := by
  rw [asn1EncodeEnumerated]
  split
  · rename_i hsingle
    obtain ⟨-, hzero⟩ := eq_zero_of_single h hsingle
    exact ⟨buf, rfl, hzero ▸ buf.wrote_nothing value⟩
  · exact asn1EncodeBits_wrote value (countBits_le (numValues - 1).isLt) hroom

theorem asn1DecodeEnumerated_eq {data : Memory} {bitOffset : Nat}
    (hread : readBits data bitOffset 0 (countBits (numValues - 1)) = value) :
    asn1DecodeEnumerated data bitOffset numValues
      = (bitOffset + countBits (numValues - 1), .ok value) := by
  rw [asn1DecodeEnumerated]
  split
  · rename_i hsingle
    obtain ⟨hvalue, hzero⟩ := eq_zero_of_single h hsingle
    rw [hzero, hvalue, Nat.add_zero]
  · rw [asn1DecodeBits_eq data bitOffset (countBits_le (numValues - 1).isLt), hread]

theorem asn1EncodeChoice_wrote {buf : Asn1Buffer}
    (hroom : buf.bitOffset + countBits (numValues - 1) ≤ 8 * buf.capacity) :
    ∃ after, asn1EncodeChoice buf value numValues = (after, .ok ())
      ∧ buf.Wrote value (countBits (numValues - 1)) after := by
  rw [asn1EncodeChoice, if_neg (ne_zero_of_alternative h)]
  split
  · obtain ⟨after, hafter, hwrote⟩ :=
      asn1EncodeBits_wrote value (countBits_le (numValues - 1).isLt) hroom
    exact ⟨after, by rw [hafter], hwrote⟩
  · rename_i hnone
    rw [Nat.eq_zero_of_not_pos hnone]
    exact ⟨buf, rfl, buf.wrote_nothing value⟩

theorem asn1DecodeChoice_eq {data : Memory} {bitOffset : Nat}
    (hread : readBits data bitOffset 0 (countBits (numValues - 1)) = value) :
    asn1DecodeChoice data bitOffset numValues
      = (bitOffset + countBits (numValues - 1), .ok value) := by
  rw [asn1DecodeChoice, if_neg (ne_zero_of_alternative h)]
  split
  · rename_i hone
    have hsingle : numValues.toNat ≤ 1 := by
      rw [hone]
      exact Nat.le_refl 1
    obtain ⟨hvalue, hzero⟩ := eq_zero_of_single h hsingle
    rw [hzero, hvalue, Nat.add_zero]
  · rw [asn1DecodeBits_eq data bitOffset (countBits_le (numValues - 1).isLt), hread]

end Alternatives

/-! ### Integers between bounds -/

theorem toNat_asn1Range {minVal maxVal : Int} (h : minVal ≤ maxVal) (hfits : maxVal - minVal < 2 ^ 32) :
    (asn1Range minVal maxVal).toNat = (maxVal - minVal).toNat := by
  rw [asn1Range, BitVec.toNat_ofInt]
  omega

section Integers

variable {value minVal maxVal : Int} (hmin : minVal ≤ value) (hmax : value ≤ maxVal)
  (hfits : maxVal - minVal < 2 ^ 32)

include hmin hmax hfits

theorem toNat_asn1IntegerCode :
    ((asn1Range minVal value).setWidth 32).toNat = (value - minVal).toNat := by
  rw [BitVec.toNat_setWidth, toNat_asn1Range hmin (by omega)]
  omega

theorem asn1Range_lt : (asn1Range minVal maxVal).toNat < 2 ^ 32 := by
  rw [toNat_asn1Range (Int.le_trans hmin hmax) hfits]
  omega

theorem asn1IntegerCode_lt_two_pow :
    ((asn1Range minVal value).setWidth 32).toNat < 2 ^ countBits (asn1Range minVal maxVal) := by
  apply lt_two_pow_countBits
  rw [toNat_asn1IntegerCode hmin hmax hfits, toNat_asn1Range (Int.le_trans hmin hmax) hfits]
  omega

theorem asn1EncodeConstrainedInteger_wrote {buf : Asn1Buffer}
    (hroom : buf.bitOffset + countBits (asn1Range minVal maxVal) ≤ 8 * buf.capacity) :
    ∃ after, asn1EncodeConstrainedInteger buf value minVal maxVal = (after, .ok ())
      ∧ buf.Wrote ((asn1Range minVal value).setWidth 32) (countBits (asn1Range minVal maxVal))
          after := by
  rw [asn1EncodeConstrainedInteger, if_neg (by omega), if_neg (by omega)]
  dsimp only
  split
  · rename_i hzero
    rw [countBits_eq_zero_iff.mpr hzero]
    exact ⟨buf, rfl, buf.wrote_nothing _⟩
  · exact asn1EncodeBits_wrote _ (countBits_le (asn1Range_lt hmin hmax hfits)) hroom

theorem asn1DecodeConstrainedInteger_eq {data : Memory} {bitOffset : Nat}
    (hread : readBits data bitOffset 0 (countBits (asn1Range minVal maxVal))
      = (asn1Range minVal value).setWidth 32) :
    asn1DecodeConstrainedInteger data bitOffset minVal maxVal
      = (bitOffset + countBits (asn1Range minVal maxVal), .ok value) := by
  rw [asn1DecodeConstrainedInteger, if_neg (by omega)]
  dsimp only
  split
  · rename_i hzero
    have hrange := toNat_asn1Range (Int.le_trans hmin hmax) hfits
    have hnone : (0 : BitVec 64).toNat = 0 := BitVec.toNat_zero
    rw [hzero, hnone] at hrange
    have hsame : value = minVal := by omega
    rw [countBits_eq_zero_iff.mpr hzero, hsame, Nat.add_zero]
  · have hback : (((asn1Range minVal value).setWidth 32).toNat : Int) + minVal = value := by
      rw [toNat_asn1IntegerCode hmin hmax hfits]
      omega
    rw [asn1DecodeBits_eq data bitOffset (countBits_le (asn1Range_lt hmin hmax hfits)), hread]
    dsimp only
    rw [hback, if_neg (by omega)]

end Integers

/-! ### Fields -/

/-- The types of fields whose width does not depend on the value. -/
inductive PerType where
  | bits (numBits : Nat)
  | boolean
  | enumerated (numValues : Word)
  | choice (numChoices : Word)
  | constrainedInteger (minVal maxVal : Int)

namespace PerType

abbrev Value : PerType → Type
  | bits _ => Word
  | boolean => Bool
  | enumerated _ => Word
  | choice _ => Word
  | constrainedInteger _ _ => Int

/-- The values that a field of the type may have. -/
def Admits : (type : PerType) → type.Value → Prop
  | bits numBits, value => numBits ≤ 32 ∧ value.toNat < 2 ^ numBits
  | boolean, _ => True
  | enumerated numValues, value => value.toNat < numValues.toNat
  | choice numChoices, choiceIndex => choiceIndex.toNat < numChoices.toNat
  | constrainedInteger minVal maxVal, value =>
      minVal ≤ value ∧ value ≤ maxVal ∧ maxVal - minVal < 2 ^ 32

instance : (type : PerType) → (value : type.Value) → Decidable (type.Admits value)
  | bits _, _ => inferInstanceAs (Decidable (_ ∧ _))
  | boolean, _ => inferInstanceAs (Decidable True)
  | enumerated _, _ => inferInstanceAs (Decidable (_ < _))
  | choice _, _ => inferInstanceAs (Decidable (_ < _))
  | constrainedInteger _ _, _ => inferInstanceAs (Decidable (_ ∧ _ ∧ _))

def encode (buf : Asn1Buffer) : (type : PerType) → type.Value → Asn1Buffer × Except UesimError Unit
  | bits numBits, value => asn1EncodeBits buf value numBits
  | boolean, value => asn1EncodeBoolean buf value
  | enumerated numValues, value => asn1EncodeEnumerated buf value numValues
  | choice numChoices, choiceIndex => asn1EncodeChoice buf choiceIndex numChoices
  | constrainedInteger minVal maxVal, value => asn1EncodeConstrainedInteger buf value minVal maxVal

def decode (data : Memory) (bitOffset : Nat) : (type : PerType) → Nat × Except UesimError type.Value
  | bits numBits => asn1DecodeBits data bitOffset numBits
  | boolean => asn1DecodeBoolean data bitOffset
  | enumerated numValues => asn1DecodeEnumerated data bitOffset numValues
  | choice numChoices => asn1DecodeChoice data bitOffset numChoices
  | constrainedInteger minVal maxVal => asn1DecodeConstrainedInteger data bitOffset minVal maxVal

def width : PerType → Nat
  | bits numBits => numBits
  | boolean => 1
  | enumerated numValues => countBits (numValues - 1)
  | choice numChoices => countBits (numChoices - 1)
  | constrainedInteger minVal maxVal => countBits (asn1Range minVal maxVal)

def code : (type : PerType) → type.Value → Word
  | bits _, value => value
  | boolean, value => if value then 1 else 0
  | enumerated _, value => value
  | choice _, choiceIndex => choiceIndex
  | constrainedInteger minVal _, value => (asn1Range minVal value).setWidth 32

end PerType

structure PerField where
  type : PerType
  value : type.Value
  admits : type.Admits value

def perWidth (fields : List PerField) : Nat := (fields.map (·.type.width)).sum

def perEncode : List PerField → Asn1Buffer → Asn1Buffer × Except UesimError Unit
  | [], buf => (buf, .ok ())
  | field :: fields, buf =>
      match field.type.encode buf field.value with
      | (buf, .error e) => (buf, .error e)
      | (buf, .ok ()) => perEncode fields buf

def perDecode (data : Memory) :
    List PerType → Nat → Nat × Except UesimError (List (Σ type : PerType, type.Value))
  | [], bitOffset => (bitOffset, .ok [])
  | type :: types, bitOffset =>
      match type.decode data bitOffset with
      | (bitOffset, .error e) => (bitOffset, .error e)
      | (bitOffset, .ok value) =>
          match perDecode data types bitOffset with
          | (bitOffset, .error e) => (bitOffset, .error e)
          | (bitOffset, .ok values) => (bitOffset, .ok (⟨type, value⟩ :: values))

namespace PerField

theorem width_le (field : PerField) : field.type.width ≤ 32 := by
  obtain ⟨type, value, admits⟩ := field
  cases type with
  | bits numBits => exact admits.1
  | boolean => exact Nat.succ_le_succ (Nat.zero_le _)
  | enumerated numValues => exact countBits_le (numValues - 1).isLt
  | choice numChoices => exact countBits_le (numChoices - 1).isLt
  | constrainedInteger minVal maxVal =>
      obtain ⟨hmin, hmax, hfits⟩ := admits
      exact countBits_le (asn1Range_lt hmin hmax hfits)

theorem toNat_code_lt (field : PerField) :
    (field.type.code field.value).toNat < 2 ^ field.type.width := by
  obtain ⟨type, value, admits⟩ := field
  cases type with
  | bits numBits => exact admits.2
  | boolean => cases value <;> exact Nat.lt_of_sub_eq_succ rfl
  | enumerated numValues => exact alternative_lt_two_pow admits
  | choice numChoices => exact alternative_lt_two_pow admits
  | constrainedInteger minVal maxVal =>
      obtain ⟨hmin, hmax, hfits⟩ := admits
      exact asn1IntegerCode_lt_two_pow hmin hmax hfits

theorem encode_wrote (field : PerField) {buf : Asn1Buffer}
    (hroom : buf.bitOffset + field.type.width ≤ 8 * buf.capacity) :
    ∃ after, field.type.encode buf field.value = (after, .ok ())
      ∧ buf.Wrote (field.type.code field.value) field.type.width after := by
  have hbits := asn1EncodeBits_wrote (field.type.code field.value) field.width_le hroom
  obtain ⟨type, value, admits⟩ := field
  cases type with
  | bits numBits => exact hbits
  | boolean => exact hbits
  | enumerated numValues => exact asn1EncodeEnumerated_wrote admits hroom
  | choice numChoices => exact asn1EncodeChoice_wrote admits hroom
  | constrainedInteger minVal maxVal =>
      obtain ⟨hmin, hmax, hfits⟩ := admits
      exact asn1EncodeConstrainedInteger_wrote hmin hmax hfits hroom

theorem decode_eq (field : PerField) {data : Memory} {bitOffset : Nat}
    (hread : readBits data bitOffset 0 field.type.width = field.type.code field.value) :
    field.type.decode data bitOffset = (bitOffset + field.type.width, .ok field.value) := by
  have hbits := asn1DecodeBits_eq data bitOffset field.width_le
  rw [hread] at hbits
  obtain ⟨type, value, admits⟩ := field
  cases type with
  | bits numBits => exact hbits
  | boolean =>
      have hbits : asn1DecodeBits data bitOffset 1 = (bitOffset + 1, .ok (if value then 1 else 0)) :=
        hbits
      dsimp only [PerType.decode, asn1DecodeBoolean]
      rw [hbits]
      cases value <;> rfl
  | enumerated numValues => exact asn1DecodeEnumerated_eq admits hread
  | choice numChoices => exact asn1DecodeChoice_eq admits hread
  | constrainedInteger minVal maxVal =>
      obtain ⟨hmin, hmax, hfits⟩ := admits
      exact asn1DecodeConstrainedInteger_eq hmin hmax hfits hread

end PerField

/-! ### Sequences of fields -/

def perCodes (fields : List PerField) : List (Word × Nat) :=
  fields.map fun field => (field.type.code field.value, field.type.width)

theorem fieldsWidth_perCodes (fields : List PerField) :
    fieldsWidth (perCodes fields) = perWidth fields := by
  rw [fieldsWidth, perCodes, List.map_map]
  rfl

theorem perEncode_eq (fields : List PerField) {buf : Asn1Buffer}
    (hroom : buf.bitOffset + perWidth fields ≤ 8 * buf.capacity) :
    ∃ final, perEncode fields buf = (final, .ok ())
      ∧ final.data = writeFields buf.data buf.bitOffset (perCodes fields)
      ∧ final.bitOffset = buf.bitOffset + perWidth fields := by
  induction fields generalizing buf with
  | nil => exact ⟨buf, rfl, rfl, rfl⟩
  | cons field fields ih =>
      have hwidth : perWidth (field :: fields) = field.type.width + perWidth fields := rfl
      have hfirst : buf.bitOffset + field.type.width ≤ 8 * buf.capacity := by omega
      obtain ⟨after, hencode, hwrote⟩ := field.encode_wrote hfirst
      have hrest : after.bitOffset + perWidth fields ≤ 8 * after.capacity := by
        rw [hwrote.bitOffset, hwrote.capacity]
        omega
      obtain ⟨final, hfinal, hdata, hoffset⟩ := ih hrest
      refine ⟨final, by rw [perEncode, hencode]; exact hfinal, ?_, ?_⟩
      · rw [hdata, hwrote.data, hwrote.bitOffset]
        rfl
      · rw [hoffset, hwrote.bitOffset, hwidth, Nat.add_assoc]

theorem perDecode_eq (fields : List PerField) {data : Memory} {bitOffset : Nat}
    (hread : readFields data bitOffset ((perCodes fields).map (·.2))
      = (perCodes fields).map (·.1)) :
    perDecode data (fields.map (·.type)) bitOffset
      = (bitOffset + perWidth fields,
          .ok (fields.map fun field => ⟨field.type, field.value⟩)) := by
  induction fields generalizing bitOffset with
  | nil => rfl
  | cons field fields ih =>
      have hwidth : perWidth (field :: fields) = field.type.width + perWidth fields := rfl
      obtain ⟨hfirst, hrest⟩ := List.cons.inj hread
      rw [List.map_cons, perDecode, field.decode_eq hfirst]
      dsimp only
      rw [ih hrest, hwidth, Nat.add_assoc]
      rfl

/-- **Fields written one behind the other are read back.** -/
theorem perDecode_perEncode (fields : List PerField) {data : Memory} {capacity : Nat}
    {buf : Asn1Buffer} (hinit : asn1BufferInit data capacity = .ok buf)
    (hzero : ∀ i < capacity, data i = 0) (hroom : perWidth fields ≤ 8 * capacity) :
    ∃ final, perEncode fields buf = (final, .ok ())
      ∧ perDecode final.data (fields.map (·.type)) 0
          = (final.bitOffset, .ok (fields.map fun field => ⟨field.type, field.value⟩)) := by
  obtain ⟨-, hbuf⟩ := asn1BufferInit_eq_ok.mp hinit
  have hstart : buf.bitOffset = 0 := by rw [hbuf]
  have hblank : Blank buf.data buf.bitOffset (8 * buf.capacity) := by
    rw [hbuf]
    exact blank_of_bytes hzero
  have hroom : buf.bitOffset + perWidth fields ≤ 8 * buf.capacity := by
    rwa [hbuf, Nat.zero_add]
  obtain ⟨final, hencode, hdata, hoffset⟩ := perEncode_eq fields hroom
  have hcodes : ∀ code ∈ perCodes fields, code.1.toNat < 2 ^ code.2 := by
    intro code hcode
    obtain ⟨field, -, rfl⟩ := List.mem_map.mp hcode
    exact field.toNat_code_lt
  have hread := readFields_writeFields hblank (by rwa [fieldsWidth_perCodes]) hcodes
  rw [← hdata] at hread
  refine ⟨final, hencode, ?_⟩
  rw [hoffset, ← hstart]
  exact perDecode_eq fields hread

/-- A truth value, one alternative of five and an integer from -10 to 20 in two bytes. -/
theorem perDecode_perEncode_three :
    ∃ final,
      perEncode [⟨.boolean, true, trivial⟩, ⟨.choice 5, 4, by decide⟩,
        ⟨.constrainedInteger (-10) 20, 7, by decide⟩]
          { data := zeros, size := 0, capacity := 2, bitOffset := 0 } = (final, .ok ())
      ∧ perDecode final.data [.boolean, .choice 5, .constrainedInteger (-10) 20] 0
          = (final.bitOffset,
              .ok [⟨.boolean, true⟩, ⟨.choice 5, 4⟩, ⟨.constrainedInteger (-10) 20, 7⟩]) :=
  perDecode_perEncode
    [⟨.boolean, true, trivial⟩, ⟨.choice 5, 4, by decide⟩,
      ⟨.constrainedInteger (-10) 20, 7, by decide⟩]
    (asn1BufferInit_eq_ok.mpr ⟨by decide, rfl⟩) (fun _ _ => rfl) (by decide)

end Uesim
