import Uesim.Asn1.Lengths

/-!
# Bit strings that come back

A bit string of fixed size is written bit by bit from the bit offset on, and one of variable size is copied to
the next byte that begins behind its length. Both are copied back from the byte in which the bit offset is,
and the bit offset moves by whole bytes. Off a byte boundary that is the place of the string only for strings
that look the same when they are shifted.
-/

namespace Uesim

open Bytes BitMemory

/-- The number of bytes and of bits of a bit string, with the bit offset behind its length. -/
def asn1DecodeBitStringSize (data : Memory) (bitOffset : Nat) (hasConstraint : Bool) (fixedSize : Nat) :
    Nat × Except UesimError (Nat × Nat) :=
  if hasConstraint ∧ fixedSize > 0 then (bitOffset, .ok ((fixedSize + 7) / 8, fixedSize))
  else
    match asn1DecodeLength data bitOffset with
    | (bitOffset, .ok len) => (bitOffset, .ok (len, len * 8))
    | (bitOffset, .error _) => (bitOffset, .error .protocol)

/-- What is returned is the memory of the caller and the number of bits. -/
def asn1DecodeBitString (data : Memory) (bitOffset : Nat) (out : Memory) (maxBytes : Nat)
    (hasConstraint : Bool) (fixedSize : Nat) : Nat × Except UesimError (Memory × Nat) :=
  match asn1DecodeBitStringSize data bitOffset hasConstraint fixedSize with
  | (bitOffset, .error e) => (bitOffset, .error e)
  | (bitOffset, .ok (len, numBits)) =>
      if len > maxBytes then (bitOffset, .error .capacity)
      else
        (bitOffset + len * 8, .ok (copy out 0 (fun i => data (bitOffset / 8 + i)) len, numBits))

/-- Encoding succeeds, and decoding what it leaves into enough memory gives the same bits and ends where the
encoder stopped. -/
def BitStringComesBack (buf : Asn1Buffer) (content : Memory) (numBits : Nat) (hasConstraint : Bool)
    (fixedSize : Nat) : Prop :=
  ∃ after, asn1EncodeBitString buf content numBits hasConstraint fixedSize = (after, .ok ())
    ∧ ∀ out maxBytes, (numBits + 7) / 8 ≤ maxBytes →
      ∃ decoded, asn1DecodeBitString after.data buf.bitOffset out maxBytes hasConstraint fixedSize
          = (after.bitOffset, .ok (decoded, numBits))
        ∧ ∀ i < numBits, bitAt decoded i = bitAt content i

/-- The buffer has room for the bit string. -/
def BitStringFits (buf : Asn1Buffer) (numBits : Nat) (hasConstraint : Bool) : Prop :=
  if hasConstraint ∧ 0 < numBits then buf.bitOffset + numBits ≤ 8 * buf.capacity
  else (buf.bitOffset + 8 * asn1LengthBytes ((numBits + 7) / 8) + 7) / 8 + (numBits + 7) / 8 ≤ buf.capacity

/-- The bit string has whole bytes, few enough for its length, and begins at a byte boundary or looks the same
when it is shifted. -/
def BitStringKept (bitOffset : Nat) (content : Memory) (numBits : Nat) (hasConstraint : Bool) : Prop :=
  numBits % 8 = 0
    ∧ if hasConstraint ∧ 0 < numBits then
        bitOffset % 8 = 0 ∨ ∀ i < numBits, bitAt content i = false
      else
        numBits / 8 < 65536
          ∧ (bitOffset % 8 = 0
            ∨ ∀ i < numBits / 8, content i = BitVec.ofNat 8 (numBits / 8) <<< (8 - bitOffset % 8))

/-- A sequence that is shifted behind a constant is the same only if it is this constant. -/
theorem eq_shift_iff {α : Type} {f : Nat → α} {a : α} {r n : Nat} (hr : 0 < r) :
    (∀ i < n, f i = if i < r then a else f (i - r)) ↔ ∀ i < n, f i = a := by
  constructor
  · intro h i
    induction i using Nat.strong_induction_on with
    | _ i ih =>
        intro hi
        rw [h i hi]
        split
        · rfl
        · exact ih (i - r) (by omega) (by omega)
  · intro h i hi
    rw [h i hi]
    split
    · rfl
    · exact (h (i - r) (by omega)).symm

/-! ### Fixed size -/

theorem asn1FixedBitsLoop_eq {buf : Asn1Buffer} (content : Memory) {rounds i : Nat}
    (hroom : buf.bitOffset + rounds ≤ 8 * buf.capacity) :
    (asn1FixedBitsLoop content rounds i buf).bitOffset = buf.bitOffset + rounds
      ∧ ∀ q, bitAt (asn1FixedBitsLoop content rounds i buf).data q
        = (bitAt buf.data q
          || (decide (buf.bitOffset ≤ q ∧ q < buf.bitOffset + rounds)
            && bitAt content (i + (q - buf.bitOffset)))) := by
  induction rounds generalizing i buf with
  | zero =>
      refine ⟨rfl, fun q => ?_⟩
      have hnone : ¬ (buf.bitOffset ≤ q ∧ q < buf.bitOffset + 0) := by omega
      simp only [asn1FixedBitsLoop, hnone, decide_false, Bool.false_and, Bool.or_false]
  | succ rounds ih =>
      have hone : buf.bitOffset + 1 ≤ 8 * buf.capacity := by omega
      rw [asn1FixedBitsLoop, asn1EncodeBits_eq (by decide) hone]
      have hrest : buf.bitOffset + 1 + rounds ≤ 8 * buf.capacity := by omega
      obtain ⟨hoffset, hbits⟩ := @ih
        { buf with
          data := writeBits buf.data buf.bitOffset (if bitAt content i then (1 : Word) else 0) 1
          bitOffset := buf.bitOffset + 1
          size := (buf.bitOffset + 1 + 7) / 8 } (i + 1) hrest
      refine ⟨hoffset.trans (Nat.add_right_comm _ _ _), fun q => ?_⟩
      rw [hbits, bitAt_writeBits, Bool.or_assoc]
      congr 1
      dsimp only
      by_cases hq : q = buf.bitOffset
      · subst hq
        have hbit : (if bitAt content i then (1 : Word) else 0).getLsbD 0 = bitAt content i := by
          cases bitAt content i <;> rfl
        have hplace : buf.bitOffset + 1 - 1 - buf.bitOffset = 0 := by omega
        rw [hplace, hbit]
        simp
      · have hplace : i + 1 + (q - (buf.bitOffset + 1)) = i + (q - buf.bitOffset) ∨ q < buf.bitOffset := by
          omega
        rcases hplace with hplace | hbefore
        · have hfirst : ¬ (buf.bitOffset ≤ q ∧ q < buf.bitOffset + 1) := by omega
          have hrest : (buf.bitOffset + 1 ≤ q ∧ q < buf.bitOffset + 1 + rounds)
              ↔ (buf.bitOffset ≤ q ∧ q < buf.bitOffset + (rounds + 1)) := by omega
          simp only [hfirst, hplace, hrest, decide_false, Bool.false_and, Bool.false_or]
        · have hfirst : ¬ buf.bitOffset ≤ q := by omega
          have hrest : ¬ buf.bitOffset + 1 ≤ q := by omega
          simp only [hfirst, hrest, false_and, decide_false, Bool.false_and, Bool.or_false]

/-- The bits that are copied back begin in the byte of the bit offset. -/
theorem bitAt_decoded {data out : Memory} {start len i : Nat} (hi : i < 8 * len) :
    bitAt (copy out 0 (fun j => data (start + j)) len) i = bitAt data (8 * start + i) := by
  have hcopy := @bitAt_copy_of_mem out 0 len i (fun j => data (start + j)) hi
  rw [Nat.mul_zero, Nat.zero_add] at hcopy
  rw [hcopy, bitAt_shift]

section Fixed

variable {buf : Asn1Buffer} (content : Memory) {numBits : Nat}

theorem asn1DecodeBitString_fixed (hpos : 0 < numBits) (data : Memory) (bitOffset : Nat) (out : Memory)
    {maxBytes : Nat} (hmax : (numBits + 7) / 8 ≤ maxBytes) :
    asn1DecodeBitString data bitOffset out maxBytes true numBits
      = (bitOffset + (numBits + 7) / 8 * 8,
        .ok (copy out 0 (fun i => data (bitOffset / 8 + i)) ((numBits + 7) / 8), numBits)) := by
  rw [asn1DecodeBitString, asn1DecodeBitStringSize, if_pos ⟨rfl, hpos⟩]
  exact if_neg (Nat.not_lt.mpr hmax)

/-- On memory that was blank, clear bits up to the bit offset come before those of the string. -/
theorem bitAt_asn1FixedBitsLoop (hblank : Blank buf.data 0 (8 * buf.capacity))
    (hroom : buf.bitOffset + numBits ≤ 8 * buf.capacity) {i : Nat} (hi : i < numBits) :
    bitAt (asn1FixedBitsLoop content numBits 0 buf).data (8 * (buf.bitOffset / 8) + i)
      = if i < buf.bitOffset % 8 then false else bitAt content (i - buf.bitOffset % 8) := by
  rw [(asn1FixedBitsLoop_eq content hroom).2, hblank _ (Nat.zero_le _) (by omega), Bool.false_or,
    Nat.zero_add]
  split
  · have hbefore : ¬ buf.bitOffset ≤ 8 * (buf.bitOffset / 8) + i := by omega
    simp only [hbefore, false_and, decide_false, Bool.false_and]
  · have hinside : buf.bitOffset ≤ 8 * (buf.bitOffset / 8) + i
        ∧ 8 * (buf.bitOffset / 8) + i < buf.bitOffset + numBits := by omega
    have hplace : 8 * (buf.bitOffset / 8) + i - buf.bitOffset = i - buf.bitOffset % 8 := by omega
    rw [decide_eq_true hinside, Bool.true_and, hplace]

theorem asn1FixedBitsLoop_same_iff (hblank : Blank buf.data 0 (8 * buf.capacity))
    (hroom : buf.bitOffset + numBits ≤ 8 * buf.capacity) :
    (∀ i < numBits, bitAt (asn1FixedBitsLoop content numBits 0 buf).data (8 * (buf.bitOffset / 8) + i)
        = bitAt content i)
      ↔ buf.bitOffset % 8 = 0 ∨ ∀ i < numBits, bitAt content i = false := by
  rcases Nat.eq_zero_or_pos (buf.bitOffset % 8) with haligned | hshifted
  · refine iff_of_true (fun i hi => ?_) (.inl haligned)
    rw [bitAt_asn1FixedBitsLoop content hblank hroom hi, haligned, if_neg (Nat.not_lt_zero i), Nat.sub_zero]
  · rw [or_iff_right hshifted.ne', ← eq_shift_iff hshifted]
    refine forall₂_congr fun i hi => ?_
    rw [bitAt_asn1FixedBitsLoop content hblank hroom hi]
    exact eq_comm

theorem comesBack_fixed_iff (hblank : Blank buf.data 0 (8 * buf.capacity)) (hpos : 0 < numBits)
    (hroom : buf.bitOffset + numBits ≤ 8 * buf.capacity) :
    BitStringComesBack buf content numBits true numBits
      ↔ numBits % 8 = 0 ∧ (buf.bitOffset % 8 = 0 ∨ ∀ i < numBits, bitAt content i = false) := by
  have hoffset := (@asn1FixedBitsLoop_eq buf content numBits 0 hroom).1
  have hencode : asn1EncodeBitString buf content numBits true numBits
      = (asn1FixedBitsLoop content numBits 0 buf, .ok ()) := if_pos ⟨rfl, hpos⟩
  have hdecode := asn1DecodeBitString_fixed hpos (asn1FixedBitsLoop content numBits 0 buf).data buf.bitOffset
  rw [← asn1FixedBitsLoop_same_iff content hblank hroom]
  constructor
  · rintro ⟨after, hafter, hback⟩
    rw [hencode] at hafter
    obtain ⟨rfl, -⟩ := Prod.mk.inj hafter
    obtain ⟨decoded, hdecoded, hequal⟩ := hback zeros _ le_rfl
    rw [hdecode _ le_rfl, hoffset] at hdecoded
    obtain ⟨hend, hvalue⟩ := Prod.mk.inj hdecoded
    obtain ⟨rfl, -⟩ := Prod.mk.inj (Except.ok.inj hvalue)
    refine ⟨by omega, fun i hi => ?_⟩
    rw [← hequal i hi, bitAt_decoded (by omega)]
  · rintro ⟨hwhole, hequal⟩
    have hend : buf.bitOffset + (numBits + 7) / 8 * 8 = buf.bitOffset + numBits := by omega
    refine ⟨_, hencode, fun out maxBytes hmax => ?_⟩
    have hdecoded := hdecode out hmax
    rw [hend, ← hoffset] at hdecoded
    refine ⟨_, hdecoded, fun i hi => ?_⟩
    rw [bitAt_decoded (by omega), hequal i hi]

end Fixed

/-! ### Variable size -/

theorem getLsbD_asn1LengthCode {len i : Nat} (hi : i < 8) :
    (asn1LengthCode len).getLsbD i = len.testBit i := by
  have hmarked {marker bits : Nat} (hbits : i < bits) :
      (BitVec.ofNat 32 (2 ^ bits * marker + len % 2 ^ bits)).getLsbD i = len.testBit i := by
    have hlow : len % 2 ^ bits < 2 ^ bits := Nat.mod_lt _ (Nat.two_pow_pos bits)
    rw [BitVec.getLsbD_ofNat, Nat.testBit_two_pow_mul_add _ hlow, if_pos hbits, Nat.testBit_mod_two_pow]
    have hword : i < 32 := by omega
    simp only [hword, hbits, decide_true, Bool.true_and]
  unfold asn1LengthCode
  split
  · have hword : i < 32 := by omega
    rw [BitVec.getLsbD_ofNat, decide_eq_true hword, Bool.true_and]
  · split
    · exact hmarked hi
    · exact hmarked (by omega)

/-- The byte in which a length ends that does not end with a byte. -/
theorem writeBits_lengthCode_last {mem : Memory} {pos limit len : Nat} (hblank : Blank mem 0 limit)
    (hshifted : 0 < pos % 8) (hroom : 8 * ((pos + 8 * asn1LengthBytes len) / 8) + 8 ≤ limit) :
    writeBits mem pos (asn1LengthCode len) (8 * asn1LengthBytes len) ((pos + 8 * asn1LengthBytes len) / 8)
      = BitVec.ofNat 8 len <<< (8 - pos % 8) := by
  have hbytes : 1 ≤ asn1LengthBytes len := by
    unfold asn1LengthBytes
    split
    · exact le_rfl
    · split <;> decide
  set last := (pos + 8 * asn1LengthBytes len) / 8 with hlast
  apply BitVec.eq_of_getLsbD_eq
  intro bit hbit
  have hdiv : (8 * last + (7 - bit)) / 8 = last := by omega
  have hmod : 7 - (8 * last + (7 - bit)) % 8 = bit := by omega
  have hread := bitAt_writeBits mem pos (asn1LengthCode len) (8 * asn1LengthBytes len) (8 * last + (7 - bit))
  rw [hblank _ (Nat.zero_le _) (by omega), Bool.false_or, bitAt, hdiv, hmod] at hread
  rw [hread, BitVec.getLsbD_shiftLeft, BitVec.getLsbD_ofNat]
  by_cases hin : 8 - pos % 8 ≤ bit
  · have hwritten : pos ≤ 8 * last + (7 - bit)
        ∧ 8 * last + (7 - bit) < pos + 8 * asn1LengthBytes len := by omega
    have hplace : pos + 8 * asn1LengthBytes len - 1 - (8 * last + (7 - bit)) = bit - (8 - pos % 8) := by omega
    have hbyte : bit - (8 - pos % 8) < 8 := by omega
    rw [decide_eq_true hwritten, hplace, getLsbD_asn1LengthCode hbyte]
    simp [hbit, hin, hbyte]
  · have hwritten : ¬ (pos ≤ 8 * last + (7 - bit)
        ∧ 8 * last + (7 - bit) < pos + 8 * asn1LengthBytes len) := by omega
    have hclear : bit < 8 - pos % 8 := by omega
    simp [hwritten, hclear]

section Variable

variable {buf : Asn1Buffer} (content : Memory) {len : Nat}

/-- The memory after a length and the bytes that are copied behind it. -/
def asn1VariableData (buf : Asn1Buffer) (content : Memory) (len : Nat) : Memory :=
  copy (writeBits buf.data buf.bitOffset (asn1LengthCode len) (8 * asn1LengthBytes len))
    ((buf.bitOffset + 8 * asn1LengthBytes len + 7) / 8) content len

theorem asn1EncodeBitString_variable {numBits fixedSize : Nat} {hasConstraint : Bool}
    (hvariable : ¬ (hasConstraint = true ∧ fixedSize > 0)) (hlen : (numBits + 7) / 8 = len)
    (hroom : (buf.bitOffset + 8 * asn1LengthBytes len + 7) / 8 + len ≤ buf.capacity) :
    ∃ after, asn1EncodeBitString buf content numBits hasConstraint fixedSize = (after, .ok ())
      ∧ after.data = asn1VariableData buf content len
      ∧ after.bitOffset = buf.bitOffset + 8 * asn1LengthBytes len + len * 8 := by
  rw [asn1EncodeBitString, if_neg hvariable, hlen, asn1EncodeLength_eq (by omega)]
  exact ⟨_, if_neg (Nat.not_lt.mpr hroom), rfl, rfl⟩

theorem asn1DecodeBitString_variable {fixedSize : Nat} {hasConstraint : Bool}
    (hvariable : ¬ (hasConstraint = true ∧ fixedSize > 0))
    (hblank : Blank buf.data buf.bitOffset (8 * buf.capacity))
    (hroom : (buf.bitOffset + 8 * asn1LengthBytes len + 7) / 8 + len ≤ buf.capacity) (out : Memory)
    {maxBytes : Nat} (hmax : len ≤ maxBytes) :
    asn1DecodeBitString (asn1VariableData buf content len) buf.bitOffset out maxBytes hasConstraint fixedSize
      = (buf.bitOffset + 8 * asn1LengthBytes len + len % 2 ^ 16 * 8,
        .ok (copy out 0 (fun i => asn1VariableData buf content len
          ((buf.bitOffset + 8 * asn1LengthBytes len) / 8 + i)) (len % 2 ^ 16), len % 2 ^ 16 * 8)) := by
  have hlength : asn1DecodeLength (asn1VariableData buf content len) buf.bitOffset
      = (buf.bitOffset + 8 * asn1LengthBytes len, .ok (len % 2 ^ 16)) := by
    refine asn1DecodeLength_eq hblank (by omega) fun q _ hq => ?_
    exact bitAt_copy_of_not_mem content (by omega)
  rw [asn1DecodeBitString, asn1DecodeBitStringSize, if_neg hvariable, hlength]
  exact if_neg (Nat.not_lt.mpr ((Nat.mod_le _ _).trans hmax))

/-- The bytes that are copied back begin one byte before the string where its length ends inside of a byte. -/
theorem asn1VariableData_byte (hblank : Blank buf.data 0 (8 * buf.capacity))
    (hroom : (buf.bitOffset + 8 * asn1LengthBytes len + 7) / 8 + len ≤ buf.capacity) {i : Nat} (hi : i < len)
    (hshifted : 0 < buf.bitOffset % 8) :
    asn1VariableData buf content len ((buf.bitOffset + 8 * asn1LengthBytes len) / 8 + i)
      = if i < 1 then BitVec.ofNat 8 len <<< (8 - buf.bitOffset % 8) else content (i - 1) := by
  have hnext : (buf.bitOffset + 8 * asn1LengthBytes len + 7) / 8
      = (buf.bitOffset + 8 * asn1LengthBytes len) / 8 + 1 := by omega
  rw [asn1VariableData]
  split
  · have hfirst : (buf.bitOffset + 8 * asn1LengthBytes len) / 8 + i
        = (buf.bitOffset + 8 * asn1LengthBytes len) / 8 := by omega
    rw [hfirst, copy_of_not_mem content (by omega), writeBits_lengthCode_last hblank hshifted (by omega)]
  · have hplace : (buf.bitOffset + 8 * asn1LengthBytes len) / 8 + i
        - (buf.bitOffset + 8 * asn1LengthBytes len + 7) / 8 = i - 1 := by omega
    rw [copy_of_mem content (by omega) (by omega), hplace]

theorem asn1VariableData_same_iff (hblank : Blank buf.data 0 (8 * buf.capacity))
    (hroom : (buf.bitOffset + 8 * asn1LengthBytes len + 7) / 8 + len ≤ buf.capacity) :
    (∀ i < len, asn1VariableData buf content len ((buf.bitOffset + 8 * asn1LengthBytes len) / 8 + i)
        = content i)
      ↔ buf.bitOffset % 8 = 0
        ∨ ∀ i < len, content i = BitVec.ofNat 8 len <<< (8 - buf.bitOffset % 8) := by
  rcases Nat.eq_zero_or_pos (buf.bitOffset % 8) with haligned | hshifted
  · refine iff_of_true (fun i hi => ?_) (.inl haligned)
    have hplace : (buf.bitOffset + 8 * asn1LengthBytes len) / 8 + i
        - (buf.bitOffset + 8 * asn1LengthBytes len + 7) / 8 = i := by omega
    rw [asn1VariableData, copy_of_mem content (by omega) (by omega), hplace]
  · rw [or_iff_right hshifted.ne', ← eq_shift_iff Nat.one_pos]
    refine forall₂_congr fun i hi => ?_
    rw [asn1VariableData_byte content hblank hroom hi hshifted]
    exact eq_comm

theorem comesBack_bytes_iff {fixedSize : Nat} {hasConstraint : Bool}
    (hvariable : ¬ (hasConstraint = true ∧ fixedSize > 0)) (hblank : Blank buf.data 0 (8 * buf.capacity))
    (hroom : (buf.bitOffset + 8 * asn1LengthBytes len + 7) / 8 + len ≤ buf.capacity) (hshort : len < 65536) :
    BitStringComesBack buf content (8 * len) hasConstraint fixedSize
      ↔ buf.bitOffset % 8 = 0
        ∨ ∀ i < len, content i = BitVec.ofNat 8 len <<< (8 - buf.bitOffset % 8) := by
  have hblank' : Blank buf.data buf.bitOffset (8 * buf.capacity) := fun q _ hq => hblank q (Nat.zero_le q) hq
  have hlen : (8 * len + 7) / 8 = len := by omega
  have hcut : len % 2 ^ 16 = len := by omega
  obtain ⟨after, hencode, hdata, hoffset⟩ := asn1EncodeBitString_variable content hvariable hlen hroom
  have hdecode (out : Memory) {maxBytes : Nat} (hmax : len ≤ maxBytes) :=
    asn1DecodeBitString_variable content hvariable hblank' hroom out hmax
  rw [hcut, ← hdata, ← hoffset, Nat.mul_comm len 8] at hdecode
  rw [← asn1VariableData_same_iff content hblank hroom, ← hdata]
  constructor
  · rintro ⟨after', hafter, hback⟩ i hi
    obtain ⟨rfl, -⟩ := Prod.mk.inj (hencode.symm.trans hafter)
    obtain ⟨decoded, hdecoded, hequal⟩ := hback zeros _ le_rfl
    rw [hdecode _ hlen.ge] at hdecoded
    obtain ⟨rfl, -⟩ := Prod.mk.inj (Except.ok.inj (Prod.mk.inj hdecoded).2)
    rw [← forall_bitAt_eq_iff.mp hequal i hi, copy_of_mem _ (Nat.zero_le i) (by omega), Nat.sub_zero]
  · intro hsame
    refine ⟨after, hencode, fun out maxBytes hmax => ?_⟩
    refine ⟨_, hdecode out (hlen ▸ hmax), forall_bitAt_eq_iff.mpr fun i hi => ?_⟩
    rw [copy_of_mem _ (Nat.zero_le i) (by omega), Nat.sub_zero, hsame i hi]

/-- The decoder takes the bytes that the length has for the number of bits. -/
theorem bytes_of_comesBack {numBits fixedSize : Nat} {hasConstraint : Bool}
    (hvariable : ¬ (hasConstraint = true ∧ fixedSize > 0))
    (hblank : Blank buf.data buf.bitOffset (8 * buf.capacity))
    (hroom : (buf.bitOffset + 8 * asn1LengthBytes ((numBits + 7) / 8) + 7) / 8 + (numBits + 7) / 8
      ≤ buf.capacity) (hback : BitStringComesBack buf content numBits hasConstraint fixedSize) :
    numBits % 8 = 0 ∧ numBits / 8 < 65536 := by
  obtain ⟨after, hencode, hdata, -⟩ := asn1EncodeBitString_variable content hvariable rfl hroom
  obtain ⟨after', hafter, hback⟩ := hback
  obtain ⟨rfl, -⟩ := Prod.mk.inj (hencode.symm.trans hafter)
  obtain ⟨decoded, hdecoded, -⟩ := hback zeros _ le_rfl
  rw [hdata, asn1DecodeBitString_variable content hvariable hblank hroom zeros le_rfl] at hdecoded
  have hbits := (Prod.mk.inj (Except.ok.inj (Prod.mk.inj hdecoded).2)).2
  omega

theorem comesBack_variable_iff {numBits fixedSize : Nat} {hasConstraint : Bool}
    (hvariable : ¬ (hasConstraint = true ∧ fixedSize > 0))
    (hblank : Blank buf.data 0 (8 * buf.capacity))
    (hroom : (buf.bitOffset + 8 * asn1LengthBytes ((numBits + 7) / 8) + 7) / 8 + (numBits + 7) / 8
      ≤ buf.capacity) :
    BitStringComesBack buf content numBits hasConstraint fixedSize
      ↔ numBits % 8 = 0 ∧ numBits / 8 < 65536
        ∧ (buf.bitOffset % 8 = 0
          ∨ ∀ i < numBits / 8, content i = BitVec.ofNat 8 (numBits / 8) <<< (8 - buf.bitOffset % 8)) := by
  have hblank' : Blank buf.data buf.bitOffset (8 * buf.capacity) := fun q _ hq => hblank q (Nat.zero_le q) hq
  by_cases hbytes : numBits % 8 = 0 ∧ numBits / 8 < 65536
  · obtain ⟨len, rfl⟩ : ∃ len, numBits = 8 * len := ⟨numBits / 8, by omega⟩
    have hup : (8 * len + 7) / 8 = len := by omega
    have hdown : 8 * len / 8 = len := by omega
    rw [hup] at hroom
    rw [hdown] at hbytes ⊢
    rw [← and_assoc, and_iff_right hbytes]
    exact comesBack_bytes_iff content hvariable hblank hroom hbytes.2
  · exact iff_of_false (fun hback => hbytes (bytes_of_comesBack content hvariable hblank' hroom hback))
      fun hkept => hbytes ⟨hkept.1, hkept.2.1⟩

end Variable

/-- **A bit string comes back exactly when it has whole bytes, few enough for its length, and begins at a byte
boundary or looks the same when it is shifted.** -/
theorem bitString_comesBack_iff {buf : Asn1Buffer} (content : Memory) {numBits fixedSize : Nat}
    {hasConstraint : Bool} (hblank : Blank buf.data 0 (8 * buf.capacity))
    (hfixed : hasConstraint = true → fixedSize = numBits) (hroom : BitStringFits buf numBits hasConstraint) :
    BitStringComesBack buf content numBits hasConstraint fixedSize
      ↔ BitStringKept buf.bitOffset content numBits hasConstraint := by
  rw [BitStringFits] at hroom
  rw [BitStringKept]
  by_cases hsized : hasConstraint = true ∧ 0 < numBits
  · obtain ⟨rfl, hpos⟩ := hsized
    rw [if_pos ⟨rfl, hpos⟩] at hroom ⊢
    rw [hfixed rfl]
    exact comesBack_fixed_iff content hblank hpos hroom
  · rw [if_neg hsized] at hroom ⊢
    have hvariable : ¬ (hasConstraint = true ∧ fixedSize > 0) :=
      fun h => hsized ⟨h.1, hfixed h.1 ▸ h.2⟩
    exact comesBack_variable_iff content hvariable hblank hroom

/-- Two bytes at a byte boundary. -/
theorem bitString_comesBack_two : BitStringComesBack ⟨zeros, 1, 8, 8⟩ (ofBytes [0xab, 0xcd]) 16 false 0 :=
  (@bitString_comesBack_iff ⟨zeros, 1, 8, 8⟩ (ofBytes [0xab, 0xcd]) 16 0 false (fun q _ _ => bitAt_zeros q)
    (fun h => absurd h Bool.false_ne_true) (by decide : 4 ≤ 8)).mpr ⟨by decide, by decide, .inl (by decide)⟩

/-- Eight set bits one bit behind a byte boundary, with their number as constraint. -/
theorem bitString_not_comesBack : ¬ BitStringComesBack ⟨zeros, 1, 8, 1⟩ (ofBytes [0xff]) 8 true 8 := by
  rw [comesBack_fixed_iff (ofBytes [0xff]) (fun q _ _ => bitAt_zeros q) (by decide) (by decide)]
  rintro ⟨-, haligned | hclear⟩
  · exact absurd haligned (by decide)
  · exact absurd (hclear 0 (by decide)) (by decide)

end Uesim
