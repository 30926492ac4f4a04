import Uesim.Asn1.RrcContainers

/-!
# Length determinants and counts

A length has three forms, of which the longest has sixteen bits after its marker and is taken for every length
that is not shorter, with what does not fit cut off. A count is written in a form that the largest possible
count selects. Both come back when sixteen bits hold them.
-/

namespace Uesim

open Bytes BitMemory

/-! ### Reading -/

/-- `asn1_decode_bits` with a result that is not looked at, as the value is zero where it fails. -/
def asn1DecodeField (data : Memory) (bitOffset numBits : Nat) : Nat × Word :=
  match asn1DecodeBits data bitOffset numBits with
  | (bitOffset, .ok value) => (bitOffset, value)
  | (bitOffset, .error _) => (bitOffset, 0)

def asn1DecodeLength (data : Memory) (bitOffset : Nat) : Nat × Except UesimError Nat :=
  let (bitOffset, firstByte) := asn1DecodeField data bitOffset 8
  if firstByte < 128 then (bitOffset, .ok firstByte.toNat)
  else if firstByte = 0x81 then
    let (bitOffset, val) := asn1DecodeField data bitOffset 8
    (bitOffset, .ok val.toNat)
  else if firstByte = 0x82 then
    let (bitOffset, val) := asn1DecodeField data bitOffset 16
    (bitOffset, .ok val.toNat)
  else (bitOffset, .error .protocol)

/-- No result of a writer is looked at. -/
def asn1EncodeSequenceOf (buf : Asn1Buffer) (count minSize maxSize : Nat) :
    Asn1Buffer × Except UesimError Unit :=
  if minSize = maxSize then (buf, .ok ())
  else if maxSize ≤ 255 then ((asn1EncodeBits buf (BitVec.ofNat 32 count) 8).1, .ok ())
  else if maxSize ≤ 65535 then
    ((asn1EncodeBits (asn1EncodeBits buf 0x82 8).1 (BitVec.ofNat 32 count) 16).1, .ok ())
  else ((asn1EncodeLength buf count).1, .ok ())

/-- A length that is refused leaves the count zero. -/
def asn1DecodeCount (data : Memory) (bitOffset maxSize : Nat) : Nat × Nat :=
  if maxSize ≤ 255 then
    let (bitOffset, val) := asn1DecodeField data bitOffset 8
    (bitOffset, val.toNat)
  else if maxSize ≤ 65535 then
    let (bitOffset, marker) := asn1DecodeField data bitOffset 8
    if marker = 0x82 then
      let (bitOffset, val) := asn1DecodeField data bitOffset 16
      (bitOffset, val.toNat)
    else (bitOffset, marker.toNat)
  else
    match asn1DecodeLength data bitOffset with
    | (bitOffset, .ok len) => (bitOffset, len)
    | (bitOffset, .error _) => (bitOffset, 0)

def asn1DecodeSequenceOf (data : Memory) (bitOffset minSize maxSize : Nat) : Nat × Except UesimError Nat :=
  if minSize = maxSize then (bitOffset, .ok minSize)
  else
    let (bitOffset, count) := asn1DecodeCount data bitOffset maxSize
    if count < minSize ∨ maxSize < count then (bitOffset, .error .protocol) else (bitOffset, .ok count)

theorem asn1DecodeField_eq (data : Memory) (bitOffset : Nat) {numBits : Nat} (hbits : numBits ≤ 32) :
    asn1DecodeField data bitOffset numBits = (bitOffset + numBits, readBits data bitOffset 0 numBits) := by
  rw [asn1DecodeField, asn1DecodeBits_eq data bitOffset hbits]

/-! ### What is read of what was written -/

section Field

variable {mem data : Memory} {pos limit : Nat}

/-- A marker is read, and behind it the low bits of a number. -/
theorem readBits_marker {marker len bits : Nat} (hmarker : marker < 2 ^ 8) (hblank : Blank mem pos limit)
    (hroom : pos + (8 + bits) ≤ limit)
    (hdata : ∀ q, pos ≤ q → q < pos + (8 + bits) → bitAt data q
      = bitAt (writeBits (writeBits mem pos (BitVec.ofNat 32 marker) 8) (pos + 8) (BitVec.ofNat 32 len) bits)
        q) :
    readBits data pos (0 : Word) 8 = BitVec.ofNat 32 marker
      ∧ (readBits data (pos + 8) (0 : Word) bits).toNat = (BitVec.ofNat 32 len).toNat % 2 ^ bits := by
  constructor
  · calc readBits data pos (0 : Word) 8
        = readBits (writeBits mem pos (BitVec.ofNat 32 marker) 8) pos 0 8 := by
          refine readBits_congr 0 fun q hq hq' => ?_
          rw [hdata q hq (by omega), bitAt_writeBits_of_not_mem _ (.inl hq')]
      _ = BitVec.ofNat 32 marker := by
          refine readBits_writeBits hblank (by omega) ?_
          rw [BitVec.toNat_ofNat]
          omega
  · have hread : readBits data (pos + 8) (0 : Word) bits
        = readBits (writeBits (writeBits mem pos (BitVec.ofNat 32 marker) 8) (pos + 8) (BitVec.ofNat 32 len)
          bits) (pos + 8) 0 bits :=
      readBits_congr 0 fun q hq hq' => hdata q (by omega) (by omega)
    rw [hread, toNat_readBits_writeBits (hblank.writeBits _ 8) (by omega)]

/-- A length is read without what is above its lowest sixteen bits. -/
theorem asn1DecodeLength_eq {len : Nat} (hblank : Blank mem pos limit)
    (hroom : pos + 8 * asn1LengthBytes len ≤ limit)
    (hdata : ∀ q, pos ≤ q → q < pos + 8 * asn1LengthBytes len →
      bitAt data q = bitAt (writeBits mem pos (asn1LengthCode len) (8 * asn1LengthBytes len)) q) :
    asn1DecodeLength data pos = (pos + 8 * asn1LengthBytes len, .ok (len % 2 ^ 16)) := by
  rw [asn1LengthBytes] at hroom hdata ⊢
  rw [asn1LengthCode] at hdata
  rw [asn1DecodeLength, asn1DecodeField_eq data pos (by decide)]
  dsimp only
  by_cases hshort : len < 128
  · simp only [if_pos hshort] at hroom hdata ⊢
    have hfirst : readBits data pos (0 : Word) 8 = BitVec.ofNat 32 len := by
      rw [readBits_congr 0 hdata]
      refine readBits_writeBits hblank hroom ?_
      rw [BitVec.toNat_ofNat]
      omega
    have hlen : (BitVec.ofNat 32 len).toNat = len := by
      rw [BitVec.toNat_ofNat]
      omega
    have hlow : BitVec.ofNat 32 len < 128 := by
      rw [BitVec.lt_def, hlen]
      exact hshort
    rw [hfirst, if_pos hlow, hlen, Nat.mod_eq_of_lt (by omega)]
  · simp only [if_neg hshort] at hroom hdata ⊢
    by_cases hmedium : len < 256
    · simp only [if_pos hmedium] at hroom hdata ⊢
      rw [← writeBits_marker mem pos (by decide)] at hdata
      obtain ⟨hmarker, hrest⟩ := @readBits_marker mem data pos limit 0x81 len 8 (by decide) hblank hroom
        hdata
      have hcut : len % 2 ^ 32 % 2 ^ 8 = len % 2 ^ 16 := by omega
      rw [hmarker, if_neg (by decide), if_pos (by decide), asn1DecodeField_eq _ _ (by decide)]
      dsimp only
      rw [hrest, BitVec.toNat_ofNat, hcut, Nat.add_assoc]
    · simp only [if_neg hmedium] at hroom hdata ⊢
      rw [← writeBits_marker mem pos (by decide)] at hdata
      obtain ⟨hmarker, hrest⟩ := @readBits_marker mem data pos limit 0x82 len 16 (by decide) hblank hroom
        hdata
      have hcut : len % 2 ^ 32 % 2 ^ 16 = len % 2 ^ 16 := by omega
      rw [hmarker, if_neg (by decide), if_neg (by decide), if_pos (by decide),
        asn1DecodeField_eq _ _ (by decide)]
      dsimp only
      rw [hrest, BitVec.toNat_ofNat, hcut, Nat.add_assoc]

end Field

/-! ### Lengths and counts that come back -/

/-- What a successful encoding leaves is decoded to the length. -/
def LengthComesBack (buf : Asn1Buffer) (len : Nat) : Prop :=
  ∀ after, asn1EncodeLength buf len = (after, .ok ()) →
    (asn1DecodeLength after.data buf.bitOffset).2 = .ok len

def CountComesBack (buf : Asn1Buffer) (count minSize maxSize : Nat) : Prop :=
  ∀ after, asn1EncodeSequenceOf buf count minSize maxSize = (after, .ok ()) →
    (asn1DecodeSequenceOf after.data buf.bitOffset minSize maxSize).2 = .ok count

/-- The bytes that a count takes. -/
def asn1CountBytes (count minSize maxSize : Nat) : Nat :=
  if minSize = maxSize then 0
  else if maxSize ≤ 255 then 1
  else if maxSize ≤ 65535 then 3
  else asn1LengthBytes count

theorem mod_two_pow_eq_iff (n : Nat) : n % 2 ^ 16 = n ↔ n < 65536 :=
  ⟨fun h => h ▸ Nat.mod_lt n (by decide), fun h => Nat.mod_eq_of_lt h⟩

theorem lengthComesBack_iff {buf : Asn1Buffer} (hblank : Blank buf.data buf.bitOffset (8 * buf.capacity))
    {len : Nat} (hroom : buf.bitOffset + 8 * asn1LengthBytes len ≤ 8 * buf.capacity) :
    LengthComesBack buf len ↔ len < 65536 := by
  have hencode := asn1EncodeLength_eq hroom
  have hdecode := asn1DecodeLength_eq hblank hroom fun q _ _ => rfl
  rw [← mod_two_pow_eq_iff]
  constructor
  · intro hback
    have hlen := hback _ hencode
    rw [hdecode] at hlen
    exact Except.ok.inj hlen
  · intro hlen after hafter
    rw [hencode] at hafter
    obtain ⟨rfl, -⟩ := Prod.mk.inj hafter
    rw [hdecode, hlen]

theorem asn1EncodeBits_marker {buf : Asn1Buffer} (marker len : Nat) {bits : Nat} (hbits : bits ≤ 16)
    (hroom : buf.bitOffset + (8 + bits) ≤ 8 * buf.capacity) :
    (asn1EncodeBits (asn1EncodeBits buf (BitVec.ofNat 32 marker) 8).1 (BitVec.ofNat 32 len) bits).1.data
      = writeBits (writeBits buf.data buf.bitOffset (BitVec.ofNat 32 marker) 8) (buf.bitOffset + 8)
          (BitVec.ofNat 32 len) bits := by
  have hfirst : buf.bitOffset + 8 ≤ 8 * buf.capacity := by omega
  have hsecond : buf.bitOffset + 8 + bits ≤ 8 * buf.capacity := by omega
  rw [asn1EncodeBits_eq (by decide) hfirst, asn1EncodeBits_eq (hbits.trans (by decide)) hsecond]

/-- The decoder reads sixteen bits of a count. -/
theorem asn1DecodeCount_encode {buf : Asn1Buffer}
    (hblank : Blank buf.data buf.bitOffset (8 * buf.capacity)) {count minSize maxSize : Nat}
    (hsizes : minSize ≠ maxSize) (hcount : count ≤ maxSize)
    (hroom : buf.bitOffset + 8 * asn1CountBytes count minSize maxSize ≤ 8 * buf.capacity) :
    ∃ after, asn1EncodeSequenceOf buf count minSize maxSize = (after, .ok ())
      ∧ (asn1DecodeCount after.data buf.bitOffset maxSize).2 = count % 2 ^ 16 := by
  rw [asn1CountBytes, if_neg hsizes] at hroom
  rw [asn1EncodeSequenceOf, if_neg hsizes]
  by_cases hshort : maxSize ≤ 255
  · rw [if_pos hshort] at hroom ⊢
    refine ⟨_, rfl, ?_⟩
    rw [asn1DecodeCount, if_pos hshort, asn1EncodeBits_eq (by decide) hroom,
      asn1DecodeField_eq _ _ (by decide)]
    dsimp only
    rw [toNat_readBits_writeBits hblank hroom, BitVec.toNat_ofNat]
    omega
  · rw [if_neg hshort] at hroom ⊢
    by_cases hmedium : maxSize ≤ 65535
    · rw [if_pos hmedium] at hroom ⊢
      have h82 : (0x82 : Word) = BitVec.ofNat 32 0x82 := rfl
      obtain ⟨hmarker, hrest⟩ := @readBits_marker buf.data _ _ _ 0x82 count 16 (by decide) hblank hroom
        fun q _ _ => rfl
      refine ⟨_, rfl, ?_⟩
      rw [asn1DecodeCount, if_neg hshort, if_pos hmedium, h82, asn1EncodeBits_marker _ _ (by decide) hroom,
        asn1DecodeField_eq _ _ (by decide)]
      dsimp only
      rw [hmarker, if_pos rfl, asn1DecodeField_eq _ _ (by decide)]
      dsimp only
      rw [hrest, BitVec.toNat_ofNat]
      omega
    · rw [if_neg hmedium] at hroom ⊢
      refine ⟨_, rfl, ?_⟩
      rw [asn1DecodeCount, if_neg hshort, if_neg hmedium, asn1EncodeLength_eq hroom,
        asn1DecodeLength_eq hblank hroom fun q _ _ => rfl]

theorem countComesBack_iff {buf : Asn1Buffer} (hblank : Blank buf.data buf.bitOffset (8 * buf.capacity))
    {count minSize maxSize : Nat} (hmin : minSize ≤ count) (hmax : count ≤ maxSize)
    (hroom : buf.bitOffset + 8 * asn1CountBytes count minSize maxSize ≤ 8 * buf.capacity) :
    CountComesBack buf count minSize maxSize ↔ minSize = maxSize ∨ count < 65536 := by
  by_cases hsizes : minSize = maxSize
  · refine iff_of_true (fun after _ => ?_) (.inl hsizes)
    rw [asn1DecodeSequenceOf, if_pos hsizes, Nat.le_antisymm hmin (hsizes ▸ hmax)]
  · obtain ⟨after, hencode, hcount⟩ := asn1DecodeCount_encode hblank hsizes hmax hroom
    rw [or_iff_right hsizes, ← mod_two_pow_eq_iff]
    constructor
    · intro hback
      have hdecode := hback after hencode
      rw [asn1DecodeSequenceOf, if_neg hsizes] at hdecode
      dsimp only at hdecode
      rw [hcount] at hdecode
      split at hdecode
      · cases hdecode
      · exact Except.ok.inj hdecode
    · intro hsame after' hafter
      rw [hencode] at hafter
      obtain ⟨rfl, -⟩ := Prod.mk.inj hafter
      rw [asn1DecodeSequenceOf, if_neg hsizes]
      dsimp only
      rw [hcount, hsame, if_neg (not_or.mpr ⟨hmin.not_gt, hmax.not_gt⟩)]

/-- **Lengths and counts come back exactly below 65536**, and counts also where only one is possible. -/
theorem lengths_comeBack_iff {buf : Asn1Buffer}
    (hblank : Blank buf.data buf.bitOffset (8 * buf.capacity)) :
    (∀ len, buf.bitOffset + 8 * asn1LengthBytes len ≤ 8 * buf.capacity →
      (LengthComesBack buf len ↔ len < 65536))
    ∧ ∀ count minSize maxSize, minSize ≤ count → count ≤ maxSize →
      buf.bitOffset + 8 * asn1CountBytes count minSize maxSize ≤ 8 * buf.capacity →
      (CountComesBack buf count minSize maxSize ↔ minSize = maxSize ∨ count < 65536) :=
  ⟨fun _ hroom => lengthComesBack_iff hblank hroom,
    fun _ _ _ hmin hmax hroom => countComesBack_iff hblank hmin hmax hroom⟩

/-- A length in the longest form, and a count in the form with a marker, one bit into a buffer. -/
theorem lengths_comeBack_three_hundred :
    LengthComesBack ⟨zeros, 0, 8, 1⟩ 300 ∧ CountComesBack ⟨zeros, 0, 8, 1⟩ 5 0 300 := by
  have hback := @lengths_comeBack_iff ⟨zeros, 0, 8, 1⟩ fun q _ _ => bitAt_zeros q
  exact ⟨(hback.1 300 (by decide)).mpr (by decide),
    (hback.2 5 0 300 (by decide) (by decide) (by decide)).mpr (.inr (by decide))⟩

/-- The length 65536 is encoded with success and decoded to zero. -/
theorem length_not_comesBack :
    (∃ after, asn1EncodeLength ⟨zeros, 0, 8, 0⟩ 65536 = (after, .ok ())
      ∧ (asn1DecodeLength after.data 0).2 = .ok 0)
    ∧ ¬ LengthComesBack ⟨zeros, 0, 8, 0⟩ 65536 := by
  have hblank : Blank (⟨zeros, 0, 8, 0⟩ : Asn1Buffer).data 0 (8 * 8) := fun q _ _ => bitAt_zeros q
  refine ⟨⟨_, asn1EncodeLength_eq (by decide), ?_⟩, ?_⟩
  · rw [asn1DecodeLength_eq hblank (by decide : 0 + 8 * asn1LengthBytes 65536 ≤ 8 * 8) fun q _ _ => rfl]
    rfl
  · rw [lengthComesBack_iff hblank (by decide)]
    decide

end Uesim
