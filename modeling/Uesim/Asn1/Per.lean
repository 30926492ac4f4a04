import Mathlib.Data.Nat.Size
import Uesim.Library.BitFields
import Uesim.Types

/-!
# The PER primitives

The bit-field writers and readers of the ASN.1 codec. Writers advance `bit_offset` and set `size` from it;
octet strings and variable bit strings are copied to the byte `size` and move both counts by themselves.
A writer that fails leaves in the buffer what it had already written.
-/

namespace Uesim

open Bytes BitMemory

/-- `asn1_buffer_t`. The counts are natural numbers, because the bits of an object in memory are too few
for them to overflow. -/
structure Asn1Buffer where
  data : Memory
  size : Nat
  capacity : Nat
  bitOffset : Nat

def asn1BufferInit (data : Memory) (capacity : Nat) : Except UesimError Asn1Buffer :=
  if capacity = 0 then .error .invalidParam
  else .ok { data, size := 0, capacity, bitOffset := 0 }

theorem asn1BufferInit_eq_ok {data : Memory} {capacity : Nat} {buf : Asn1Buffer} :
    asn1BufferInit data capacity = .ok buf
      ↔ capacity ≠ 0 ∧ buf = { data, size := 0, capacity, bitOffset := 0 } := by
  rw [asn1BufferInit]
  split <;> simp_all [eq_comm]

def asn1BufferLength (buf : Asn1Buffer) : Nat := (buf.bitOffset + 7) / 8

/-! ### Bits -/

/-- The loop of `asn1_encode_bits` with `i` bits to go, and what follows it. -/
def asn1EncodeBitsLoop (value : Word) : Nat → Asn1Buffer → Asn1Buffer × Except UesimError Unit
  | 0, buf => ({ buf with size := (buf.bitOffset + 7) / 8 }, .ok ())
  | i + 1, buf =>
      if buf.bitOffset / 8 ≥ buf.capacity then (buf, .error .capacity)
      else asn1EncodeBitsLoop value i
        { buf with
          data := if value.getLsbD i then setBit buf.data buf.bitOffset else buf.data
          bitOffset := buf.bitOffset + 1 }

def asn1EncodeBits (buf : Asn1Buffer) (value : Word) (numBits : Nat) :
    Asn1Buffer × Except UesimError Unit :=
  if numBits > 32 then (buf, .error .invalidParam) else asn1EncodeBitsLoop value numBits buf

/-- The loop of `asn1_decode_bits` with `i` bits to go. -/
def asn1DecodeBitsLoop (data : Memory) : Nat → Nat → Word → Nat × Except UesimError Word
  | 0, bitOffset, value => (bitOffset, .ok value)
  | i + 1, bitOffset, value =>
      asn1DecodeBitsLoop data i (bitOffset + 1)
        (if bitAt data bitOffset then value ||| BitVec.twoPow 32 i else value)

/-- The readers return the offset behind the field. -/
def asn1DecodeBits (data : Memory) (bitOffset numBits : Nat) : Nat × Except UesimError Word :=
  if numBits > 32 then (bitOffset, .error .invalidParam)
  else asn1DecodeBitsLoop data numBits bitOffset 0

/-! ### Fields whose width is known -/

def asn1EncodeBoolean (buf : Asn1Buffer) (value : Bool) : Asn1Buffer × Except UesimError Unit :=
  asn1EncodeBits buf (if value then 1 else 0) 1

def asn1DecodeBoolean (data : Memory) (bitOffset : Nat) : Nat × Except UesimError Bool :=
  let (bitOffset, v) := asn1DecodeBits data bitOffset 1
  (bitOffset, v.map (· != 0))

/-- `while (tmp) { bits++; tmp >>= 1; }`, which ends once every bit of `tmp` is shifted out. -/
def countBitsLoop {w : Nat} : Nat → BitVec w → Nat → Nat
  | 0, _, bits => bits
  | rounds + 1, tmp, bits => if tmp = 0 then bits else countBitsLoop rounds (tmp >>> 1) (bits + 1)

def countBits {w : Nat} (tmp : BitVec w) : Nat := countBitsLoop w tmp 0

def asn1EncodeEnumerated (buf : Asn1Buffer) (value numValues : Word) :
    Asn1Buffer × Except UesimError Unit :=
  if numValues ≤ 1 then (buf, .ok ()) else asn1EncodeBits buf value (countBits (numValues - 1))

def asn1DecodeEnumerated (data : Memory) (bitOffset : Nat) (numValues : Word) :
    Nat × Except UesimError Word :=
  if numValues ≤ 1 then (bitOffset, .ok 0)
  else asn1DecodeBits data bitOffset (countBits (numValues - 1))

/-- The result of `asn1_encode_bits` is not looked at. -/
def asn1EncodeChoice (buf : Asn1Buffer) (choiceIndex numChoices : Word) :
    Asn1Buffer × Except UesimError Unit :=
  if numChoices = 0 then (buf, .error .invalidParam)
  else if countBits (numChoices - 1) > 0 then
    ((asn1EncodeBits buf choiceIndex (countBits (numChoices - 1))).1, .ok ())
  else (buf, .ok ())

def asn1DecodeChoice (data : Memory) (bitOffset : Nat) (numChoices : Word) :
    Nat × Except UesimError Word :=
  if numChoices = 0 then (bitOffset, .error .invalidParam)
  else if numChoices = 1 then (bitOffset, .ok 0)
  else asn1DecodeBits data bitOffset (countBits (numChoices - 1))

/-- `(uint64_t)(max_val - min_val)` -/
def asn1Range (minVal maxVal : Int) : BitVec 64 := BitVec.ofInt 64 (maxVal - minVal)

def asn1EncodeConstrainedInteger (buf : Asn1Buffer) (value minVal maxVal : Int) :
    Asn1Buffer × Except UesimError Unit :=
  if minVal > maxVal then (buf, .error .invalidParam)
  else if value < minVal ∨ value > maxVal then (buf, .error .protocol)
  else
    let range := asn1Range minVal maxVal
    let encodedVal := asn1Range minVal value
    if range = 0 then (buf, .ok ())
    else asn1EncodeBits buf (encodedVal.setWidth 32) (countBits range)

def asn1DecodeConstrainedInteger (data : Memory) (bitOffset : Nat) (minVal maxVal : Int) :
    Nat × Except UesimError Int :=
  if minVal > maxVal then (bitOffset, .error .invalidParam)
  else
    let range := asn1Range minVal maxVal
    if range = 0 then (bitOffset, .ok minVal)
    else
      match asn1DecodeBits data bitOffset (countBits range) with
      | (bitOffset, .error e) => (bitOffset, .error e)
      | (bitOffset, .ok encodedVal) =>
          let value := (encodedVal.toNat : Int) + minVal
          if value < minVal ∨ value > maxVal then (bitOffset, .error .protocol)
          else (bitOffset, .ok value)

/-! ### Lengths and strings -/

/-- The result of writing the first byte of a long form is not looked at. -/
def asn1EncodeLength (buf : Asn1Buffer) (len : Nat) : Asn1Buffer × Except UesimError Unit :=
  if len < 128 then asn1EncodeBits buf (BitVec.ofNat 32 len) 8
  else if len < 256 then
    asn1EncodeBits (asn1EncodeBits buf 0x81 8).1 (BitVec.ofNat 32 len) 8
  else asn1EncodeBits (asn1EncodeBits buf 0x82 8).1 (BitVec.ofNat 32 len) 16

/-- Copying a string to the byte `size` and moving both counts behind it, as both kinds of string do it
after their length determinant. -/
def asn1CopyString (buf : Asn1Buffer) (data : Memory) (len : Nat) :
    Asn1Buffer × Except UesimError Unit :=
  if buf.size + len > buf.capacity then (buf, .error .capacity)
  else
    ({ buf with
        data := copy buf.data buf.size data len
        bitOffset := buf.bitOffset + len * 8
        size := buf.size + len },
      .ok ())

def asn1EncodeOctetString (buf : Asn1Buffer) (data : Memory) (len : Nat) :
    Asn1Buffer × Except UesimError Unit :=
  match asn1EncodeLength buf len with
  | (buf, .error e) => (buf, .error e)
  | (buf, .ok ()) => asn1CopyString buf data len

/-- The loop over the bits of a bit string of fixed size, from bit `i` on. -/
def asn1FixedBitsLoop (data : Memory) : Nat → Nat → Asn1Buffer → Asn1Buffer
  | 0, _, buf => buf
  | rounds + 1, i, buf =>
      asn1FixedBitsLoop data rounds (i + 1)
        (asn1EncodeBits buf (if bitAt data i then 1 else 0) 1).1

/-- No result of a writer is looked at. -/
def asn1EncodeBitString (buf : Asn1Buffer) (data : Memory) (numBits : Nat) (hasConstraint : Bool)
    (fixedSize : Nat) : Asn1Buffer × Except UesimError Unit :=
  if hasConstraint ∧ fixedSize > 0 then (asn1FixedBitsLoop data numBits 0 buf, .ok ())
  else
    asn1CopyString (asn1EncodeLength buf ((numBits + 7) / 8)).1 data ((numBits + 7) / 8)

def asn1SkipToByteBoundary (bitOffset : Nat) : Nat :=
  if bitOffset % 8 ≠ 0 then (bitOffset + 7) / 8 * 8 else bitOffset

/-! ### What the loops do -/

theorem asn1EncodeBitsLoop_eq {buf : Asn1Buffer} {value : Word} {numBits : Nat}
    (hroom : buf.bitOffset + numBits ≤ 8 * buf.capacity) :
    asn1EncodeBitsLoop value numBits buf
      = ({ buf with
            data := writeBits buf.data buf.bitOffset value numBits
            bitOffset := buf.bitOffset + numBits
            size := (buf.bitOffset + numBits + 7) / 8 }, .ok ()) := by
  induction numBits generalizing buf with
  | zero => rfl
  | succ i ih =>
      have hfits : ¬buf.bitOffset / 8 ≥ buf.capacity := by omega
      have hsum : buf.bitOffset + 1 + i = buf.bitOffset + (i + 1) := by omega
      rw [asn1EncodeBitsLoop, if_neg hfits, ih (by dsimp only; omega)]
      simp only [hsum, writeBits]

theorem asn1EncodeBits_eq {buf : Asn1Buffer} {value : Word} {numBits : Nat} (hbits : numBits ≤ 32)
    (hroom : buf.bitOffset + numBits ≤ 8 * buf.capacity) :
    asn1EncodeBits buf value numBits
      = ({ buf with
            data := writeBits buf.data buf.bitOffset value numBits
            bitOffset := buf.bitOffset + numBits
            size := (buf.bitOffset + numBits + 7) / 8 }, .ok ()) := by
  rw [asn1EncodeBits, if_neg (Nat.not_lt.mpr hbits), asn1EncodeBitsLoop_eq hroom]

theorem asn1DecodeBitsLoop_eq (data : Memory) (bitOffset : Nat) (value : Word) (numBits : Nat) :
    asn1DecodeBitsLoop data numBits bitOffset value
      = (bitOffset + numBits, .ok (readBits data bitOffset value numBits)) := by
  induction numBits generalizing bitOffset value with
  | zero => rfl
  | succ i ih =>
      have hsum : bitOffset + 1 + i = bitOffset + (i + 1) := by omega
      rw [asn1DecodeBitsLoop, ih, hsum, readBits]

theorem asn1DecodeBits_eq (data : Memory) (bitOffset : Nat) {numBits : Nat} (hbits : numBits ≤ 32) :
    asn1DecodeBits data bitOffset numBits
      = (bitOffset + numBits, .ok (readBits data bitOffset 0 numBits)) := by
  rw [asn1DecodeBits, if_neg (Nat.not_lt.mpr hbits), asn1DecodeBitsLoop_eq]

section CountBits

variable {w : Nat}

theorem size_eq_succ_size_half {n : Nat} (h : n ≠ 0) : n.size = (n / 2).size + 1 := by
  conv_lhs => rw [← Nat.bit_bodd_div2 n, Nat.size_bit (by rwa [Nat.bit_bodd_div2]), Nat.div2_val]

theorem countBitsLoop_eq (rounds : Nat) (tmp : BitVec w) (bits : Nat) (h : tmp.toNat < 2 ^ rounds) :
    countBitsLoop rounds tmp bits = bits + tmp.toNat.size := by
  induction rounds generalizing tmp bits with
  | zero =>
      have hzero : tmp.toNat = 0 := by omega
      simp [countBitsLoop, hzero]
  | succ rounds ih =>
      rw [countBitsLoop]
      split
      · rename_i hzero
        simp [hzero]
      · rename_i hne
        have hnat : tmp.toNat ≠ 0 := fun hzero => hne (BitVec.eq_of_toNat_eq (by simpa using hzero))
        have hhalf : (tmp >>> 1).toNat = tmp.toNat / 2 := by
          rw [BitVec.toNat_ushiftRight, Nat.shiftRight_eq_div_pow, Nat.pow_one]
        rw [ih _ _ (by rw [hhalf]; omega), hhalf, size_eq_succ_size_half hnat]
        omega

theorem countBits_eq (tmp : BitVec w) : countBits tmp = tmp.toNat.size := by
  rw [countBits, countBitsLoop_eq w tmp 0 tmp.isLt, Nat.zero_add]

end CountBits

end Uesim
