import Uesim.Asn1.PerFrame
import Uesim.Asn1.RrcMessages

/-!
# What is read of a container

The encoders put a length determinant in front of a container, and no decoder reads it: the bytes that
follow the bit fields are taken for the container, determinant and all. A message comes back unchanged
only if its container fills the array, so that the copy ends where it should, and looks like its own
determinant over and over again.
-/

namespace Uesim

open Bytes BitMemory

/-! ### Writers that have room -/

theorem asn1EncodeFields_eq {buf : Asn1Buffer} (h : buf.Tight) {fields : List (Word × Nat)}
    (hbits : ∀ field ∈ fields, field.2 ≤ 32)
    (hroom : buf.bitOffset + fieldsWidth fields ≤ 8 * buf.capacity) :
    asn1EncodeFields buf fields
      = { buf with
          data := writeFields buf.data buf.bitOffset fields
          bitOffset := buf.bitOffset + fieldsWidth fields
          size := (buf.bitOffset + fieldsWidth fields + 7) / 8 } := by
  induction fields generalizing buf with
  | nil =>
      change buf = { buf with size := (buf.bitOffset + 7) / 8 }
      rw [← h.size_eq]
  | cons field fields ih =>
      rw [fieldsWidth_cons] at hroom ⊢
      have hfirst : buf.bitOffset + field.2 ≤ 8 * buf.capacity := by omega
      have hsum := Nat.add_assoc buf.bitOffset field.2 (fieldsWidth fields)
      rw [asn1EncodeFields, asn1EncodeBits_eq (hbits field List.mem_cons_self) hfirst]
      rw [ih ⟨rfl, hfirst⟩ (fun field hfield => hbits field (List.mem_cons_of_mem _ hfield))
        (by dsimp only; omega)]
      dsimp only
      rw [hsum, writeFields]

def asn1LengthBytes (len : Nat) : Nat := if len < 128 then 1 else if len < 256 then 2 else 3

def asn1LengthCode (len : Nat) : Word :=
  if len < 128 then BitVec.ofNat 32 len
  else if len < 256 then BitVec.ofNat 32 (2 ^ 8 * 0x81 + len % 2 ^ 8)
  else BitVec.ofNat 32 (2 ^ 16 * 0x82 + len % 2 ^ 16)

theorem writeBits_marker (mem : Memory) (pos : Nat) {marker len bits : Nat} (hbits : bits ≤ 16) :
    writeBits (writeBits mem pos (BitVec.ofNat 32 marker) 8) (pos + 8) (BitVec.ofNat 32 len) bits
      = writeBits mem pos (BitVec.ofNat 32 (2 ^ bits * marker + len % 2 ^ bits)) (8 + bits) := by
  have hlow : len % 2 ^ bits < 2 ^ bits := Nat.mod_lt _ (Nat.two_pow_pos bits)
  apply writeBits_append
  · intro i hi
    rw [BitVec.getLsbD_ofNat, BitVec.getLsbD_ofNat, Nat.testBit_two_pow_mul_add _ hlow,
      if_neg (by omega), Nat.add_sub_cancel_left]
    have hin : bits + i < 32 ∧ i < 32 := by omega
    simp [hin]
  · intro i hi
    rw [BitVec.getLsbD_ofNat, BitVec.getLsbD_ofNat, Nat.testBit_two_pow_mul_add _ hlow, if_pos hi,
      Nat.testBit_mod_two_pow]
    simp [hi]

theorem asn1EncodeLength_eq {buf : Asn1Buffer} {len : Nat}
    (hroom : buf.bitOffset + 8 * asn1LengthBytes len ≤ 8 * buf.capacity) :
    asn1EncodeLength buf len
      = ({ buf with
            data := writeBits buf.data buf.bitOffset (asn1LengthCode len) (8 * asn1LengthBytes len)
            bitOffset := buf.bitOffset + 8 * asn1LengthBytes len
            size := (buf.bitOffset + 8 * asn1LengthBytes len + 7) / 8 }, .ok ()) := by
  -- behind the marker
  have hlong : ∀ {marker bits : Nat}, bits ≤ 16 →
      buf.bitOffset + (8 + bits) ≤ 8 * buf.capacity →
      asn1EncodeBits (asn1EncodeBits buf (BitVec.ofNat 32 marker) 8).1 (BitVec.ofNat 32 len) bits
        = ({ buf with
              data := writeBits buf.data buf.bitOffset
                (BitVec.ofNat 32 (2 ^ bits * marker + len % 2 ^ bits)) (8 + bits)
              bitOffset := buf.bitOffset + (8 + bits)
              size := (buf.bitOffset + (8 + bits) + 7) / 8 }, .ok ()) := by
    intro marker bits hbits hroom
    have hfirst : buf.bitOffset + 8 ≤ 8 * buf.capacity := by omega
    have hsum := Nat.add_assoc buf.bitOffset 8 bits
    rw [asn1EncodeBits_eq (by decide) hfirst]
    rw [asn1EncodeBits_eq (by omega) (by dsimp only; omega)]
    dsimp only
    rw [writeBits_marker _ _ hbits, hsum]
  unfold asn1EncodeLength asn1LengthCode
  unfold asn1LengthBytes at hroom ⊢
  split
  · rename_i hshort
    rw [if_pos hshort] at hroom
    rw [asn1EncodeBits_eq (by decide) hroom]
  · rename_i hshort
    rw [if_neg hshort] at hroom
    split
    · rename_i hmedium
      rw [if_pos hmedium] at hroom
      exact hlong (by decide) hroom
    · rename_i hmedium
      rw [if_neg hmedium] at hroom
      exact hlong (by decide) hroom

theorem asn1EncodeOctetString_eq {buf : Asn1Buffer} {data : Memory} {len : Nat}
    (hroom : buf.bitOffset + 8 * (asn1LengthBytes len + len) ≤ 8 * buf.capacity) :
    asn1EncodeOctetString buf data len
      = ({ buf with
            data := copy
              (writeBits buf.data buf.bitOffset (asn1LengthCode len) (8 * asn1LengthBytes len))
              ((buf.bitOffset + 8 * asn1LengthBytes len + 7) / 8) data len
            bitOffset := buf.bitOffset + 8 * (asn1LengthBytes len + len)
            size := (buf.bitOffset + 8 * asn1LengthBytes len + 7) / 8 + len }, .ok ()) := by
  have hfits : ¬(buf.bitOffset + 8 * asn1LengthBytes len + 7) / 8 + len > buf.capacity := by omega
  have hsum : buf.bitOffset + 8 * asn1LengthBytes len + len * 8
      = buf.bitOffset + 8 * (asn1LengthBytes len + len) := by omega
  rw [asn1EncodeOctetString, asn1EncodeLength_eq (by omega)]
  dsimp only [asn1CopyString]
  rw [if_neg hfits, hsum]

theorem asn1EncodeFields_advances (fields : List (Word × Nat)) (buf : Asn1Buffer) :
    buf.Advances (asn1EncodeFields buf fields) := by
  induction fields generalizing buf with
  | nil => exact .refl buf
  | cons field fields ih => exact (asn1EncodeBits_advances _ _ _).trans (ih _)

theorem capacity_asn1EncodeOctetString (buf : Asn1Buffer) (data : Memory) (len : Nat) :
    (asn1EncodeOctetString buf data len).1.capacity = buf.capacity := by
  have hlength := (asn1EncodeLength_advances buf len).capacity
  rw [asn1EncodeOctetString]
  split
  · rename_i mid e heq
    rwa [heq] at hlength
  · rename_i mid heq
    rw [heq] at hlength
    rw [asn1CopyString]
    split
    · exact hlength
    · exact hlength

theorem capacity_rrcEncodeConfig (buf : Asn1Buffer) (tid : Byte) (config : Memory) (len : Nat) :
    (rrcEncodeConfig buf tid config len).capacity = buf.capacity := by
  rw [rrcEncodeConfig, capacity_asn1EncodeOctetString, (asn1EncodeFields_advances _ _).capacity]
  rfl

/-! ### Bit fields and a container -/

/-- The byte at which a decoder looks for the container behind so many bits. -/
def rrcDataOffset (bits : Nat) : Nat := (bits + 7) / 8

/-- The three bytes from there on, if the determinant has three: its bits, pushed to a byte boundary. -/
def rrcDeterminant (bits len i : Nat) : Byte :=
  byteOf (asn1LengthCode len <<< (8 * rrcDataOffset bits - bits)) (2 - i)

/-- What an encoder that writes bit fields and a container leaves in the buffer. -/
structure Asn1Buffer.Carries (encoded : Asn1Buffer) (fields : List (Word × Nat)) (container : Memory)
    (len : Nat) : Prop where
  bitOffset : encoded.bitOffset = fieldsWidth fields + 8 * (asn1LengthBytes len + len)
  scalars : (∀ field ∈ fields, field.1.toNat < 2 ^ field.2) →
    readFields encoded.data 0 (fields.map (·.2)) = fields.map (·.1)
  determinant : 256 ≤ len → ∀ i < 3,
    encoded.data (rrcDataOffset (fieldsWidth fields) + i)
      = rrcDeterminant (fieldsWidth fields) len i
  payload : 256 ≤ len → ∀ i < len,
    encoded.data (rrcDataOffset (fieldsWidth fields) + 3 + i) = container i

theorem asn1Clear_tight (buf : Asn1Buffer) : (asn1Clear buf).Tight :=
  ⟨by simp [asn1Clear], Nat.zero_le _⟩

theorem asn1Clear_blank (buf : Asn1Buffer) : Blank (asn1Clear buf).data 0 (8 * buf.capacity) :=
  blank_of_bytes fun _ hi => if_pos hi

theorem asn1EncodeOctetString_carries {buf : Asn1Buffer} {fields : List (Word × Nat)}
    {container : Memory} {len : Nat} (hbits : ∀ field ∈ fields, field.2 ≤ 32)
    (hroom : fieldsWidth fields + 8 * (asn1LengthBytes len + len) ≤ 8 * buf.capacity) :
    (asn1EncodeOctetString (asn1EncodeFields (asn1Clear buf) fields) container len).1.Carries fields
      container len := by
  have hfields : (asn1Clear buf).bitOffset + fieldsWidth fields ≤ 8 * (asn1Clear buf).capacity := by
    change 0 + fieldsWidth fields ≤ 8 * buf.capacity
    omega
  have hstring : 0 + fieldsWidth fields + 8 * (asn1LengthBytes len + len) ≤ 8 * buf.capacity := by
    omega
  have hblank := (asn1Clear_blank buf).writeFields fields
  rw [asn1EncodeFields_eq (asn1Clear_tight buf) hbits hfields, asn1EncodeOctetString_eq hstring]
  simp only [asn1Clear, Nat.zero_add] at hblank ⊢
  have hthree : 256 ≤ len → asn1LengthBytes len = 3 := fun hlen => by
    rw [asn1LengthBytes, if_neg (by omega), if_neg (by omega)]
  have hstart : 256 ≤ len → (fieldsWidth fields + 8 * asn1LengthBytes len + 7) / 8
      = rrcDataOffset (fieldsWidth fields) + 3 := fun hlen => by
    rw [hthree hlen, rrcDataOffset]
    omega
  refine ⟨rfl, fun hvalues => ?_, fun hlen i hi => ?_, fun hlen i hi => ?_⟩
  · calc _ = readFields (writeFields (asn1Clear buf).data 0 fields) 0 (fields.map (·.2)) := by
          refine readFields_congr fun q _ hq => ?_
          have hbefore : q < fieldsWidth fields := by
            rwa [Nat.zero_add] at hq
          rw [bitAt_copy_of_not_mem container (by omega),
            bitAt_writeBits_of_not_mem _ (Or.inl hbefore)]
          rfl
      _ = fields.map (·.1) := readFields_writeFields (asn1Clear_blank buf) (by omega) hvalues
  · have hoffset : rrcDataOffset (fieldsWidth fields) = (fieldsWidth fields + 7) / 8 := rfl
    have hbytes := hthree hlen
    have hplace : fieldsWidth fields + (24 + (8 * rrcDataOffset (fieldsWidth fields)
        - fieldsWidth fields)) - 8 * (rrcDataOffset (fieldsWidth fields) + i) - 8 = 8 * (2 - i) := by
      omega
    dsimp only
    rw [hstart hlen, copy_of_not_mem container (by omega), hthree hlen,
      ← writeBits_shiftLeft _ _ _ (show 24 + (8 * rrcDataOffset (fieldsWidth fields)
        - fieldsWidth fields) ≤ 32 by omega),
      writeBits_byte hblank (by omega) _ (by omega) (by omega), hplace]
    rfl
  · dsimp only
    rw [hstart hlen, copy_of_mem container (by omega) (by omega), Nat.add_sub_cancel_left]

/-! ### What the decoders take for the container -/

/-- The container is these three bytes again and again. -/
def Repeats (container : Memory) (bytes : List Byte) (len : Nat) : Prop :=
  ∀ i < len, container i = ofBytes bytes (i % 3)

/-- A string that is shifted by a header and is the same string repeats the header. -/
theorem shifted_eq_iff {α : Type} {k n : Nat} (hk : 0 < k) {header f : Nat → α} :
    (∀ i < n, (if i < k then header i else f (i - k)) = f i) ↔ ∀ i < n, f i = header (i % k) := by
  constructor
  · intro h i
    induction i using Nat.strong_induction_on with
    | h i ih =>
        intro hi
        rw [← h i hi]
        split
        · rename_i hlow
          rw [Nat.mod_eq_of_lt hlow]
        · rename_i hhigh
          rw [ih (i - k) (by omega) (by omega), Nat.mod_eq_sub_mod (Nat.le_of_not_lt hhigh)]
  · intro h i hi
    rw [h i hi]
    split
    · rename_i hlow
      rw [Nat.mod_eq_of_lt hlow]
    · rename_i hhigh
      rw [h (i - k) (by omega), Nat.mod_eq_sub_mod (Nat.le_of_not_lt hhigh)]

theorem rrcDecodeContainer_same_iff {data old container : Memory} {bytes : List Byte}
    {total offset len maxLen : Nat} (hlen : len ≤ maxLen) (htotal : offset + len < total)
    (hdeterminant : len = maxLen → ∀ i < 3, data (offset + i) = ofBytes bytes i)
    (hpayload : len = maxLen → ∀ i < len, data (offset + 3 + i) = container i) :
    ((rrcDecodeContainer data total offset maxLen old).2 = len
        ∧ ∀ i < len, (rrcDecodeContainer data total offset maxLen old).1 i = container i)
      ↔ len = maxLen ∧ Repeats container bytes maxLen := by
  have hinside : offset < total := by omega
  rw [rrcDecodeContainer, if_pos hinside]
  dsimp only
  -- the copy goes on to the end of the message, and there is more of it than the container
  have hcount : (if total - offset < maxLen then total - offset else maxLen) = len ↔ len = maxLen := by
    split
    · omega
    · omega
  rw [hcount]
  refine and_congr_right fun hfull => ?_
  subst hfull
  rw [hcount.mpr rfl]
  refine Iff.trans ?_ (shifted_eq_iff (show 0 < 3 by decide))
  refine forall₂_congr fun i hi => ?_
  rw [copy_of_mem _ (Nat.zero_le i) (by omega), Nat.sub_zero]
  split
  · rename_i hlow
    rw [hdeterminant rfl i hlow]
  · have hplace : offset + i = offset + 3 + (i - 3) := by omega
    rw [hplace, hpayload rfl (i - 3) (by omega)]

theorem Asn1Buffer.Carries.container_same_iff {encoded : Asn1Buffer} {fields : List (Word × Nat)}
    {container old : Memory} {bytes : List Byte} {offset len maxLen total : Nat}
    (h : encoded.Carries fields container len)
    (hoffset : rrcDataOffset (fieldsWidth fields) = offset) (hmax : 256 ≤ maxLen)
    (hlen : len ≤ maxLen)
    (hbytes : ∀ i < 3, rrcDeterminant (fieldsWidth fields) maxLen i = ofBytes bytes i)
    (htotal : offset + len < total) :
    ((rrcDecodeContainer encoded.data total offset maxLen old).2 = len
        ∧ ∀ i < len, (rrcDecodeContainer encoded.data total offset maxLen old).1 i = container i)
      ↔ len = maxLen ∧ Repeats container bytes maxLen := by
  subst hoffset
  refine rrcDecodeContainer_same_iff hlen htotal (fun hfull i hi => ?_) (fun hfull => ?_)
  · subst hfull
    rw [h.determinant hmax i hi, hbytes i hi]
  · subst hfull
    exact h.payload hmax

theorem asn1TakeBits_eq (data : Memory) (bitOffset : Nat) {numBits : Nat} (hbits : numBits ≤ 32) :
    asn1TakeBits data bitOffset numBits
      = (bitOffset + numBits, readBits data bitOffset 0 numBits) := by
  rw [asn1TakeBits, asn1DecodeBits_eq data bitOffset hbits]
  rfl

/-- A number that is read from so many bits and fits into its member has no more bits. -/
theorem toNat_lt_of_readBits {n width : Nat} {mem : Memory} {pos : Nat} {value : BitVec n}
    (h : (readBits mem pos (0 : Word) width).setWidth n = value) : value.toNat < 2 ^ width := by
  rw [← h, BitVec.toNat_setWidth]
  exact Nat.lt_of_le_of_lt (Nat.mod_le _ _) (toNat_readBits_lt mem pos width)

theorem setWidth_setWidth_word {n : Nat} (hn : n ≤ 32) (value : BitVec n) :
    (value.setWidth 32).setWidth n = value := by
  rw [BitVec.setWidth_setWidth_of_le _ hn, BitVec.setWidth_eq]

/-! ### Setup, reestablishment and reconfiguration -/

def rrcTransactionFields (rrcTransactionId : Byte) : List (Word × Nat) :=
  [(rrcTransactionId.setWidth 32, 2), (0, 6)]

theorem rrcEncodeConfig_carries {buf : Asn1Buffer} (rrcTransactionId : Byte) {config : Memory}
    {len : Nat} (hroom : 8 + 8 * (asn1LengthBytes len + len) ≤ 8 * buf.capacity) :
    (rrcEncodeConfig buf rrcTransactionId config len).Carries
      (rrcTransactionFields rrcTransactionId) config len := by
  refine asn1EncodeOctetString_carries (fun field hfield => ?_) hroom
  rcases List.mem_cons.mp hfield with rfl | hfield
  · exact Nat.succ_le_succ (Nat.succ_le_succ (Nat.zero_le _))
  · obtain rfl := List.mem_singleton.mp hfield
    decide

theorem rrcConfig_same_iff {encoded : Asn1Buffer} {tid : Byte} {config old : Memory}
    {bytes : List Byte} {len maxLen total : Nat}
    (h : encoded.Carries (rrcTransactionFields tid) config len) (hmax : 256 ≤ maxLen)
    (hbytes : ∀ i < 3, rrcDeterminant 8 maxLen i = ofBytes bytes i) (hlen : len ≤ maxLen)
    (htotal : 1 + len < total) :
    ((readBits encoded.data 0 (0 : Word) 2).setWidth 8 = tid
        ∧ (rrcDecodeContainer encoded.data total 1 maxLen old).2 = len
        ∧ ∀ i < len, (rrcDecodeContainer encoded.data total 1 maxLen old).1 i = config i)
      ↔ tid.toNat < 4 ∧ len = maxLen ∧ Repeats config bytes maxLen := by
  refine and_congr ⟨toNat_lt_of_readBits, fun htid => ?_⟩
    (h.container_same_iff (show rrcDataOffset 8 = 1 by decide) hmax hlen hbytes htotal)
  have hvalues : ∀ field ∈ rrcTransactionFields tid, field.1.toNat < 2 ^ field.2 := by
    intro field hfield
    rcases List.mem_cons.mp hfield with rfl | hfield
    · rw [BitVec.toNat_setWidth]
      exact Nat.lt_of_le_of_lt (Nat.mod_le _ _) htid
    · obtain rfl := List.mem_singleton.mp hfield
      decide
  have hread : readBits encoded.data 0 0 2 = tid.setWidth 32 :=
    (List.cons.inj (h.scalars hvalues)).1
  rw [hread, setWidth_setWidth_word (by decide)]

/-! ### Messages that come back -/

section Survives

variable {μ : Type} {Same : μ → μ → Prop} {decode : Memory → Nat → μ → Except UesimError μ}
  {encoded : Asn1Buffer × Except UesimError Unit} {msg : μ}

variable (Same decode encoded msg) in
/-- Encoding succeeds, and decoding gives the same message, whatever was in the one that it fills in. -/
def Survives : Prop :=
  encoded.2 = .ok ()
    ∧ ∀ old, ∃ decoded,
      decode encoded.1.data (asn1BufferLength encoded.1) old = .ok decoded ∧ Same msg decoded

theorem survives_iff (f : μ → μ) {P : Prop} (hok : encoded.2 = .ok ())
    (hdecode : ∀ old, decode encoded.1.data (asn1BufferLength encoded.1) old = .ok (f old))
    (hsame : ∀ old, Same msg (f old) ↔ P) : Survives Same decode encoded msg ↔ P := by
  constructor
  · rintro ⟨-, h⟩
    obtain ⟨decoded, hdecoded, hmsg⟩ := h msg
    rw [hdecode msg] at hdecoded
    cases hdecoded
    exact (hsame msg).mp hmsg
  · intro h
    exact ⟨hok, fun old => ⟨f old, hdecode old, (hsame old).mpr h⟩⟩

theorem not_survives (e : UesimError)
    (hdecode : ∀ old, decode encoded.1.data (asn1BufferLength encoded.1) old = .error e) :
    ¬Survives Same decode encoded msg := by
  rintro ⟨-, h⟩
  obtain ⟨decoded, hdecoded, -⟩ := h msg
  rw [hdecode msg] at hdecoded
  cases hdecoded

end Survives

theorem asn1LengthBytes_pos (len : Nat) : 0 < asn1LengthBytes len := by
  rw [asn1LengthBytes]
  split
  · exact Nat.one_pos
  · split
    · exact Nat.two_pos
    · exact Nat.succ_pos 2

/-- The three messages that begin with a transaction identifier and a configuration. `fill` is what their
decoder makes of the two. -/
theorem rrcConfig_survives_iff {μ : Type} {Same : μ → μ → Prop}
    {decode : Memory → Nat → μ → Except UesimError μ}
    {encoded : Asn1Buffer × Except UesimError Unit} {msg : μ} {config : Asn1Buffer} {tid : Byte}
    {container : Memory} {bytes : List Byte} {len maxLen : Nat} (array : μ → Memory)
    (fill : μ → Byte → Memory × Nat → μ) (hok : encoded.2 = .ok ())
    (h : config.Carries (rrcTransactionFields tid) container len)
    (hdata : encoded.1.data = config.data) (htotal : 1 + len < asn1BufferLength encoded.1)
    (hmax : 256 ≤ maxLen) (hbytes : ∀ i < 3, rrcDeterminant 8 maxLen i = ofBytes bytes i)
    (hlen : len ≤ maxLen)
    (hdecode : ∀ data total old, decode data total old
      = if total < 4 then .error .invalidParam
        else .ok (fill old ((readBits data 0 (0 : Word) 2).setWidth 8)
          (rrcDecodeContainer data total 1 maxLen (array old))))
    (hsame : ∀ old tid' out, Same msg (fill old tid' out)
      ↔ tid' = tid ∧ out.2 = len ∧ ∀ i < len, out.1 i = container i) :
    Survives Same decode encoded msg
      ↔ tid.toNat < 4 ∧ len = maxLen ∧ Repeats container bytes maxLen := by
  by_cases hshort : asn1BufferLength encoded.1 < 4
  · refine iff_of_false (not_survives .invalidParam fun old => ?_) ?_
    · rw [hdecode, if_pos hshort]
    · rintro ⟨-, hfull, -⟩
      omega
  · refine survives_iff (fun old => fill old ((readBits encoded.1.data 0 (0 : Word) 2).setWidth 8)
        (rrcDecodeContainer encoded.1.data (asn1BufferLength encoded.1) 1 maxLen (array old)))
      hok (fun old => ?_) (fun old => ?_)
    · rw [hdecode, if_neg hshort]
    · rw [hsame, hdata]
      exact rrcConfig_same_iff h hmax hbytes hlen htotal

theorem asn1BufferLength_rrcEncodeConfig {buf : Asn1Buffer} {tid : Byte} {container : Memory}
    {len : Nat} (hroom : 8 + 8 * (asn1LengthBytes len + len) ≤ 8 * buf.capacity) :
    1 + len < asn1BufferLength (rrcEncodeConfig buf tid container len) := by
  have hcarries : (rrcEncodeConfig buf tid container len).Carries (rrcTransactionFields tid) container
      len := rrcEncodeConfig_carries tid hroom
  have hoffset : _ = 8 + 8 * (asn1LengthBytes len + len) := hcarries.bitOffset
  have hbytes := asn1LengthBytes_pos len
  rw [asn1BufferLength, hoffset]
  omega

structure RrcSetup.Same (msg decoded : RrcSetup) : Prop where
  rrcTransactionId : decoded.rrcTransactionId = msg.rrcTransactionId
  configLen : decoded.configLen = msg.configLen
  radioBearerConfig : ∀ i < msg.configLen, decoded.radioBearerConfig i = msg.radioBearerConfig i

theorem rrcEncodeSetup_survives_iff {msg : RrcSetup} {buf : Asn1Buffer} (hlen : msg.configLen ≤ 256)
    (hroom : 8 + 8 * (asn1LengthBytes msg.configLen + msg.configLen) ≤ 8 * buf.capacity) :
    Survives RrcSetup.Same rrcDecodeSetup (rrcEncodeSetup buf msg) msg
      ↔ msg.rrcTransactionId.toNat < 4 ∧ msg.configLen = 256
        ∧ Repeats msg.radioBearerConfig [0x82, 0x01, 0x00] 256 := by
  refine rrcConfig_survives_iff (·.radioBearerConfig)
    (fun _ tid out => { rrcTransactionId := tid, radioBearerConfig := out.1, configLen := out.2 })
    rfl (rrcEncodeConfig_carries _ hroom) rfl (asn1BufferLength_rrcEncodeConfig hroom)
    (Nat.le_refl 256) (by decide) hlen (fun data total old => ?_) (fun old tid out => ?_)
  · simp (disch := decide) only [rrcDecodeSetup, asn1TakeBits_eq]
  · exact ⟨fun h => ⟨h.1, h.2, h.3⟩, fun h => ⟨h.1, h.2.1, h.2.2⟩⟩

structure RrcReestablishment.Same (msg decoded : RrcReestablishment) : Prop where
  rrcTransactionId : decoded.rrcTransactionId = msg.rrcTransactionId
  configLen : decoded.configLen = msg.configLen
  radioBearerConfig : ∀ i < msg.configLen, decoded.radioBearerConfig i = msg.radioBearerConfig i

theorem rrcEncodeReestablishment_survives_iff {msg : RrcReestablishment} {buf : Asn1Buffer}
    (hlen : msg.configLen ≤ 256)
    (hroom : 8 + 8 * (asn1LengthBytes msg.configLen + msg.configLen) ≤ 8 * buf.capacity) :
    Survives RrcReestablishment.Same rrcDecodeReestablishment (rrcEncodeReestablishment buf msg) msg
      ↔ msg.rrcTransactionId.toNat < 4 ∧ msg.configLen = 256
        ∧ Repeats msg.radioBearerConfig [0x82, 0x01, 0x00] 256 := by
  refine rrcConfig_survives_iff (·.radioBearerConfig)
    (fun _ tid out => { rrcTransactionId := tid, radioBearerConfig := out.1, configLen := out.2 })
    rfl (rrcEncodeConfig_carries _ hroom) rfl (asn1BufferLength_rrcEncodeConfig hroom)
    (Nat.le_refl 256) (by decide) hlen (fun data total old => ?_) (fun old tid out => ?_)
  · simp (disch := decide) only [rrcDecodeReestablishment, asn1TakeBits_eq]
  · exact ⟨fun h => ⟨h.1, h.2, h.3⟩, fun h => ⟨h.1, h.2.1, h.2.2⟩⟩

structure RrcReconfiguration.Same (msg decoded : RrcReconfiguration) : Prop where
  rrcTransactionId : decoded.rrcTransactionId = msg.rrcTransactionId
  configLen : decoded.configLen = msg.configLen
  radioBearerConfig : ∀ i < msg.configLen, decoded.radioBearerConfig i = msg.radioBearerConfig i
  measConfigLen : decoded.measConfigLen = msg.measConfigLen
  measConfig : ∀ i < msg.measConfigLen, decoded.measConfig i = msg.measConfig i
  hasMobilityConfig : decoded.hasMobilityConfig = msg.hasMobilityConfig
  mobilityConfigLen : decoded.mobilityConfigLen = msg.mobilityConfigLen
  mobilityConfig : ∀ i < msg.mobilityConfigLen, decoded.mobilityConfig i = msg.mobilityConfig i

/-- The message has no measurement and no mobility configuration. -/
def RrcReconfiguration.Plain (msg : RrcReconfiguration) : Prop :=
  msg.measConfigLen = 0 ∧ msg.hasMobilityConfig = false ∧ msg.mobilityConfigLen = 0

theorem rrcDecodeReconfiguration_plain {data : Memory} {len : Nat} {old decoded : RrcReconfiguration}
    (h : rrcDecodeReconfiguration data len old = .ok decoded) : decoded.Plain := by
  rw [rrcDecodeReconfiguration] at h
  split at h
  · cases h
  · cases h
    exact ⟨rfl, rfl, rfl⟩

theorem rrcEncodeOptional_absent {buf : Asn1Buffer} (config : Memory) (len : Nat)
    (hroom : buf.bitOffset + 1 ≤ 8 * buf.capacity) :
    rrcEncodeOptional buf false config len
      = { buf with bitOffset := buf.bitOffset + 1, size := (buf.bitOffset + 1 + 7) / 8 } := by
  rw [rrcEncodeOptional, if_neg Bool.false_ne_true, asn1EncodeBoolean,
    asn1EncodeBits_eq (by decide) hroom]
  rfl

def rrcOptionalBits (present : Bool) (len : Nat) : Nat :=
  1 + if present then 8 * (asn1LengthBytes len + len) else 0

def rrcReconfigurationBits (msg : RrcReconfiguration) : Nat :=
  8 + 8 * (asn1LengthBytes msg.configLen + msg.configLen)
    + rrcOptionalBits (msg.measConfigLen > 0) msg.measConfigLen
    + rrcOptionalBits (msg.hasMobilityConfig && msg.mobilityConfigLen > 0) msg.mobilityConfigLen

theorem rrcEncodeReconfiguration_plain {msg : RrcReconfiguration} {buf : Asn1Buffer}
    (hplain : msg.Plain) (hroom : rrcReconfigurationBits msg ≤ 8 * buf.capacity) :
    (rrcEncodeReconfiguration buf msg).1.data
        = (rrcEncodeConfig buf msg.rrcTransactionId msg.radioBearerConfig msg.configLen).data
      ∧ (rrcEncodeReconfiguration buf msg).1.bitOffset
        = (rrcEncodeConfig buf msg.rrcTransactionId msg.radioBearerConfig msg.configLen).bitOffset
          + 2 := by
  obtain ⟨hmeas, hhas, -⟩ := hplain
  have hbits : rrcReconfigurationBits msg
      = 8 + 8 * (asn1LengthBytes msg.configLen + msg.configLen) + 1 + 1 := by
    simp [rrcReconfigurationBits, rrcOptionalBits, hmeas, hhas]
  have hcarries : (rrcEncodeConfig buf msg.rrcTransactionId msg.radioBearerConfig msg.configLen).Carries
      (rrcTransactionFields msg.rrcTransactionId) msg.radioBearerConfig msg.configLen :=
    rrcEncodeConfig_carries _ (by omega)
  have hoffset : _ = 8 + 8 * (asn1LengthBytes msg.configLen + msg.configLen) := hcarries.bitOffset
  have hcapacity := capacity_rrcEncodeConfig buf msg.rrcTransactionId msg.radioBearerConfig
    msg.configLen
  have hnoMeas : decide (msg.measConfigLen > 0) = false := by simp [hmeas]
  have hnoMobility : (msg.hasMobilityConfig && decide (msg.mobilityConfigLen > 0)) = false := by
    simp [hhas]
  have hfirst : (rrcEncodeConfig buf msg.rrcTransactionId msg.radioBearerConfig
      msg.configLen).bitOffset + 1 ≤ 8 * (rrcEncodeConfig buf msg.rrcTransactionId
        msg.radioBearerConfig msg.configLen).capacity := by
    omega
  rw [rrcEncodeReconfiguration]
  dsimp only
  rw [hnoMeas, hnoMobility, rrcEncodeOptional_absent _ _ hfirst,
    rrcEncodeOptional_absent _ _ (by dsimp only; omega)]
  exact ⟨rfl, rfl⟩

theorem rrcEncodeReconfiguration_survives_iff {msg : RrcReconfiguration} {buf : Asn1Buffer}
    (hlen : msg.configLen ≤ 512) (hroom : rrcReconfigurationBits msg ≤ 8 * buf.capacity) :
    Survives RrcReconfiguration.Same rrcDecodeReconfiguration (rrcEncodeReconfiguration buf msg) msg
      ↔ (msg.rrcTransactionId.toNat < 4 ∧ msg.configLen = 512
          ∧ Repeats msg.radioBearerConfig [0x82, 0x02, 0x00] 512) ∧ msg.Plain := by
  by_cases hplain : msg.Plain
  · rw [and_iff_left hplain]
    have hconfig : 8 + 8 * (asn1LengthBytes msg.configLen + msg.configLen) ≤ 8 * buf.capacity := by
      rw [rrcReconfigurationBits] at hroom
      omega
    obtain ⟨hdata, hoffset⟩ := rrcEncodeReconfiguration_plain hplain hroom
    have hlength : 1 + msg.configLen < asn1BufferLength (rrcEncodeReconfiguration buf msg).1 := by
      calc 1 + msg.configLen
          < asn1BufferLength (rrcEncodeConfig buf msg.rrcTransactionId msg.radioBearerConfig
              msg.configLen) := asn1BufferLength_rrcEncodeConfig hconfig
        _ ≤ asn1BufferLength (rrcEncodeReconfiguration buf msg).1 := by
            rw [asn1BufferLength, asn1BufferLength, hoffset]
            omega
    obtain ⟨hmeas, hhas, hmobility⟩ := hplain
    refine rrcConfig_survives_iff (·.radioBearerConfig)
      (fun old tid out => { old with
        rrcTransactionId := tid
        radioBearerConfig := out.1
        configLen := out.2
        measConfigLen := 0
        hasMobilityConfig := false
        mobilityConfigLen := 0 })
      rfl (rrcEncodeConfig_carries _ hconfig) hdata hlength (by decide) (by decide) hlen
      (fun data total old => ?_) (fun old tid out => ?_)
    · simp (disch := decide) only [rrcDecodeReconfiguration, asn1TakeBits_eq]
    · constructor
      · exact fun h => ⟨h.rrcTransactionId, h.configLen, h.radioBearerConfig⟩
      · rintro ⟨htid, hcount, hcontainer⟩
        exact ⟨htid, hcount, hcontainer, hmeas.symm, fun i hi => absurd hi (by omega), hhas.symm,
          hmobility.symm, fun i hi => absurd hi (by omega)⟩
  · refine iff_of_false ?_ fun h => hplain h.2
    rintro ⟨-, h⟩
    obtain ⟨decoded, hdecoded, hsame⟩ := h msg
    obtain ⟨hmeas, hhas, hmobility⟩ := rrcDecodeReconfiguration_plain hdecoded
    apply hplain
    rw [hsame.measConfigLen] at hmeas
    rw [hsame.hasMobilityConfig] at hhas
    rw [hsame.mobilityConfigLen] at hmobility
    exact ⟨hmeas, hhas, hmobility⟩

/-! ### Setup complete -/

structure RrcSetupComplete.Same (msg decoded : RrcSetupComplete) : Prop where
  rrcTransactionId : decoded.rrcTransactionId = msg.rrcTransactionId
  selectedPlmn : decoded.selectedPlmn = msg.selectedPlmn
  nasPduLen : decoded.nasPduLen = msg.nasPduLen
  nasPdu : ∀ i < msg.nasPduLen, decoded.nasPdu i = msg.nasPdu i

def rrcSetupCompleteFields (msg : RrcSetupComplete) : List (Word × Nat) :=
  [(msg.rrcTransactionId.setWidth 32, 2), (msg.selectedPlmn.setWidth 32, 4), (0, 2)]

theorem toNat_setWidth_lt {n width : Nat} {value : BitVec n} (h : value.toNat < 2 ^ width) :
    (value.setWidth 32).toNat < 2 ^ width := by
  rw [BitVec.toNat_setWidth]
  exact Nat.lt_of_le_of_lt (Nat.mod_le _ _) h

theorem rrcSetupComplete_scalars_iff {msg : RrcSetupComplete} {encoded : Asn1Buffer}
    {container : Memory} {len : Nat}
    (h : encoded.Carries (rrcSetupCompleteFields msg) container len) :
    ((readBits encoded.data 0 (0 : Word) 2).setWidth 8 = msg.rrcTransactionId
        ∧ (readBits encoded.data 2 (0 : Word) 4).setWidth 8 = msg.selectedPlmn)
      ↔ msg.rrcTransactionId.toNat < 4 ∧ msg.selectedPlmn.toNat < 16 := by
  constructor
  · rintro ⟨htid, hplmn⟩
    exact ⟨toNat_lt_of_readBits htid, toNat_lt_of_readBits hplmn⟩
  · rintro ⟨htid, hplmn⟩
    have hvalues : ∀ field ∈ rrcSetupCompleteFields msg, field.1.toNat < 2 ^ field.2 := by
      simp only [rrcSetupCompleteFields, List.forall_mem_cons]
      exact ⟨toNat_setWidth_lt htid, toNat_setWidth_lt hplmn, by decide, List.forall_mem_nil _⟩
    obtain ⟨hread, hrest⟩ := List.cons.inj (h.scalars hvalues)
    obtain ⟨hread', -⟩ := List.cons.inj hrest
    have hread : readBits encoded.data 0 0 2 = msg.rrcTransactionId.setWidth 32 := hread
    have hread' : readBits encoded.data 2 0 4 = msg.selectedPlmn.setWidth 32 := hread'
    rw [hread, hread', setWidth_setWidth_word (by decide), setWidth_setWidth_word (by decide)]
    exact ⟨rfl, rfl⟩

theorem rrcEncodeSetupComplete_survives_iff {msg : RrcSetupComplete} {buf : Asn1Buffer}
    (hlen : msg.nasPduLen ≤ 1024)
    (hroom : 8 + 8 * (asn1LengthBytes msg.nasPduLen + msg.nasPduLen) ≤ 8 * buf.capacity) :
    Survives RrcSetupComplete.Same rrcDecodeSetupComplete (rrcEncodeSetupComplete buf msg) msg
      ↔ (msg.rrcTransactionId.toNat < 4 ∧ msg.selectedPlmn.toNat < 16) ∧ msg.nasPduLen = 1024
        ∧ Repeats msg.nasPdu [0x82, 0x04, 0x00] 1024 := by
  have hcarries : (rrcEncodeSetupComplete buf msg).1.Carries (rrcSetupCompleteFields msg) msg.nasPdu
      msg.nasPduLen := by
    refine asn1EncodeOctetString_carries ?_ hroom
    simp
  have hoffset : _ = 8 + 8 * (asn1LengthBytes msg.nasPduLen + msg.nasPduLen) := hcarries.bitOffset
  have hbytes := asn1LengthBytes_pos msg.nasPduLen
  have htotal : 1 + msg.nasPduLen < asn1BufferLength (rrcEncodeSetupComplete buf msg).1 := by
    rw [asn1BufferLength, hoffset]
    omega
  have hlong : ¬asn1BufferLength (rrcEncodeSetupComplete buf msg).1 < 2 := by omega
  refine survives_iff (fun old =>
    { rrcTransactionId :=
        (readBits (rrcEncodeSetupComplete buf msg).1.data 0 (0 : Word) 2).setWidth 8
      selectedPlmn := (readBits (rrcEncodeSetupComplete buf msg).1.data 2 (0 : Word) 4).setWidth 8
      nasPdu := (rrcDecodeContainer (rrcEncodeSetupComplete buf msg).1.data
        (asn1BufferLength (rrcEncodeSetupComplete buf msg).1) 1 1024 old.nasPdu).1
      nasPduLen := (rrcDecodeContainer (rrcEncodeSetupComplete buf msg).1.data
        (asn1BufferLength (rrcEncodeSetupComplete buf msg).1) 1 1024 old.nasPdu).2 })
    rfl (fun old => ?_) (fun old => ?_)
  · rw [rrcDecodeSetupComplete, if_neg hlong]
    simp (disch := decide) only [asn1TakeBits_eq]
    rfl
  · have hfirst : ∀ i < 3, rrcDeterminant 8 1024 i = ofBytes [0x82, 0x04, 0x00] i := by decide
    rw [← rrcSetupComplete_scalars_iff hcarries, ← hcarries.container_same_iff
      (show rrcDataOffset 8 = 1 by decide) (by decide) hlen hfirst htotal, and_assoc]
    exact ⟨fun h => ⟨h.1, h.2, h.3, h.4⟩, fun h => ⟨h.1, h.2.1, h.2.2.1, h.2.2.2⟩⟩

/-! ### Handover command -/

structure RrcHandoverCommand.Same (msg decoded : RrcHandoverCommand) : Prop where
  rrcTransactionId : decoded.rrcTransactionId = msg.rrcTransactionId
  targetPci : decoded.targetPci = msg.targetPci
  targetCellId : decoded.targetCellId = msg.targetCellId
  newCRnti : decoded.newCRnti = msg.newCRnti
  configLen : decoded.configLen = msg.configLen
  radioBearerConfig : ∀ i < msg.configLen, decoded.radioBearerConfig i = msg.radioBearerConfig i

def rrcHandoverFields (msg : RrcHandoverCommand) : List (Word × Nat) :=
  [(msg.rrcTransactionId.setWidth 32, 2), (0, 6), (msg.targetPci.setWidth 32, 16),
    (msg.targetCellId, 28), (msg.newCRnti.setWidth 32, 16)]

theorem rrcHandover_scalars_iff {msg : RrcHandoverCommand} {encoded : Asn1Buffer}
    {container : Memory} {len : Nat} (h : encoded.Carries (rrcHandoverFields msg) container len) :
    ((readBits encoded.data 0 (0 : Word) 2).setWidth 8 = msg.rrcTransactionId
        ∧ (readBits encoded.data 8 (0 : Word) 16).setWidth 16 = msg.targetPci
        ∧ readBits encoded.data 24 (0 : Word) 28 = msg.targetCellId
        ∧ (readBits encoded.data 52 (0 : Word) 16).setWidth 8 = msg.newCRnti)
      ↔ msg.rrcTransactionId.toNat < 4 ∧ msg.targetCellId.toNat < 2 ^ 28 := by
  constructor
  · rintro ⟨htid, -, hcell, -⟩
    refine ⟨toNat_lt_of_readBits htid, ?_⟩
    rw [← hcell]
    exact toNat_readBits_lt _ _ _
  · rintro ⟨htid, hcell⟩
    have hcrnti : msg.newCRnti.toNat < 2 ^ 16 :=
      Nat.lt_of_lt_of_le msg.newCRnti.isLt (Nat.pow_le_pow_right Nat.two_pos (by decide))
    have hvalues : ∀ field ∈ rrcHandoverFields msg, field.1.toNat < 2 ^ field.2 := by
      simp only [rrcHandoverFields, List.forall_mem_cons]
      exact ⟨toNat_setWidth_lt htid, by decide, toNat_setWidth_lt msg.targetPci.isLt, hcell,
        toNat_setWidth_lt hcrnti, List.forall_mem_nil _⟩
    obtain ⟨hread0, hrest⟩ := List.cons.inj (h.scalars hvalues)
    obtain ⟨-, hrest⟩ := List.cons.inj hrest
    obtain ⟨hread8, hrest⟩ := List.cons.inj hrest
    obtain ⟨hread24, hrest⟩ := List.cons.inj hrest
    obtain ⟨hread52, -⟩ := List.cons.inj hrest
    have hread0 : readBits encoded.data 0 0 2 = msg.rrcTransactionId.setWidth 32 := hread0
    have hread8 : readBits encoded.data 8 0 16 = msg.targetPci.setWidth 32 := hread8
    have hread52 : readBits encoded.data 52 0 16 = msg.newCRnti.setWidth 32 := hread52
    rw [hread0, hread8, hread52, setWidth_setWidth_word (by decide),
      setWidth_setWidth_word (by decide), setWidth_setWidth_word (by decide)]
    exact ⟨rfl, rfl, hread24, rfl⟩

theorem rrcEncodeHandoverCommand_survives_iff {msg : RrcHandoverCommand} {buf : Asn1Buffer}
    (hlen : msg.configLen ≤ 512)
    (hroom : 68 + 8 * (asn1LengthBytes msg.configLen + msg.configLen) ≤ 8 * buf.capacity) :
    Survives RrcHandoverCommand.Same rrcDecodeHandoverCommand (rrcEncodeHandoverCommand buf msg) msg
      ↔ (msg.rrcTransactionId.toNat < 4 ∧ msg.targetCellId.toNat < 2 ^ 28) ∧ msg.configLen = 512
        ∧ Repeats msg.radioBearerConfig [0x20, 0x20, 0x00] 512 := by
  have hcarries : (rrcEncodeHandoverCommand buf msg).1.Carries (rrcHandoverFields msg)
      msg.radioBearerConfig msg.configLen := by
    refine asn1EncodeOctetString_carries ?_ hroom
    simp
  have hoffset : _ = 68 + 8 * (asn1LengthBytes msg.configLen + msg.configLen) := hcarries.bitOffset
  have hbytes := asn1LengthBytes_pos msg.configLen
  have htotal : 9 + msg.configLen < asn1BufferLength (rrcEncodeHandoverCommand buf msg).1 := by
    rw [asn1BufferLength, hoffset]
    omega
  have hlong : ¬asn1BufferLength (rrcEncodeHandoverCommand buf msg).1 < 10 := by omega
  have hfirst : ∀ i < 3, rrcDeterminant 68 512 i = ofBytes [0x20, 0x20, 0x00] i := by decide
  generalize hencoded : rrcEncodeHandoverCommand buf msg = encoded at *
  refine survives_iff (fun old =>
    { rrcTransactionId := (readBits encoded.1.data 0 (0 : Word) 2).setWidth 8
      targetPci := (readBits encoded.1.data 8 (0 : Word) 16).setWidth 16
      targetCellId := readBits encoded.1.data 24 (0 : Word) 28
      newCRnti := (readBits encoded.1.data 52 (0 : Word) 16).setWidth 8
      radioBearerConfig := (rrcDecodeContainer encoded.1.data (asn1BufferLength encoded.1) 9 512
        old.radioBearerConfig).1
      configLen := (rrcDecodeContainer encoded.1.data (asn1BufferLength encoded.1) 9 512
        old.radioBearerConfig).2 })
    (hencoded ▸ rfl) (fun old => ?_) (fun old => ?_)
  · rw [rrcDecodeHandoverCommand, if_neg hlong]
    simp (disch := decide) only [asn1TakeBits_eq]
  · rw [← rrcHandover_scalars_iff hcarries, ← hcarries.container_same_iff
      (show rrcDataOffset 68 = 9 by decide) (by decide) hlen hfirst htotal]
    constructor
    · exact fun h => ⟨⟨h.1, h.2, h.3, h.4⟩, h.5, h.6⟩
    · rintro ⟨⟨htid, hpci, hcell, hcrnti⟩, hcount, hcontainer⟩
      exact ⟨htid, hpci, hcell, hcrnti, hcount, hcontainer⟩

/-! ### Any of them -/

inductive RrcContainerMessage where
  | setup (msg : RrcSetup)
  | setupComplete (msg : RrcSetupComplete)
  | reestablishment (msg : RrcReestablishment)
  | reconfiguration (msg : RrcReconfiguration)
  | handoverCommand (msg : RrcHandoverCommand)

namespace RrcContainerMessage

def WithinArrays : RrcContainerMessage → Prop
  | setup msg => msg.configLen ≤ 256
  | setupComplete msg => msg.nasPduLen ≤ 1024
  | reestablishment msg => msg.configLen ≤ 256
  | reconfiguration msg =>
      msg.configLen ≤ 512 ∧ msg.measConfigLen ≤ 256 ∧ msg.mobilityConfigLen ≤ 128
  | handoverCommand msg => msg.configLen ≤ 512

def encodedBits : RrcContainerMessage → Nat
  | setup msg => 8 + 8 * (asn1LengthBytes msg.configLen + msg.configLen)
  | setupComplete msg => 8 + 8 * (asn1LengthBytes msg.nasPduLen + msg.nasPduLen)
  | reestablishment msg => 8 + 8 * (asn1LengthBytes msg.configLen + msg.configLen)
  | reconfiguration msg => rrcReconfigurationBits msg
  | handoverCommand msg => 68 + 8 * (asn1LengthBytes msg.configLen + msg.configLen)

/-- Encoded into the buffer and decoded from as many bytes as that takes, the message is the same. -/
def SurvivesWire (buf : Asn1Buffer) : RrcContainerMessage → Prop
  | setup msg => Survives RrcSetup.Same rrcDecodeSetup (rrcEncodeSetup buf msg) msg
  | setupComplete msg =>
      Survives RrcSetupComplete.Same rrcDecodeSetupComplete (rrcEncodeSetupComplete buf msg) msg
  | reestablishment msg =>
      Survives RrcReestablishment.Same rrcDecodeReestablishment (rrcEncodeReestablishment buf msg) msg
  | reconfiguration msg =>
      Survives RrcReconfiguration.Same rrcDecodeReconfiguration (rrcEncodeReconfiguration buf msg) msg
  | handoverCommand msg =>
      Survives RrcHandoverCommand.Same rrcDecodeHandoverCommand (rrcEncodeHandoverCommand buf msg) msg

/-- The scalars have no more bits than their fields, the container fills its array with the three bytes of
its own determinant again and again, and there is no other container. -/
def LooksEncoded : RrcContainerMessage → Prop
  | setup msg =>
      msg.rrcTransactionId.toNat < 4 ∧ msg.configLen = 256
        ∧ Repeats msg.radioBearerConfig [0x82, 0x01, 0x00] 256
  | setupComplete msg =>
      (msg.rrcTransactionId.toNat < 4 ∧ msg.selectedPlmn.toNat < 16) ∧ msg.nasPduLen = 1024
        ∧ Repeats msg.nasPdu [0x82, 0x04, 0x00] 1024
  | reestablishment msg =>
      msg.rrcTransactionId.toNat < 4 ∧ msg.configLen = 256
        ∧ Repeats msg.radioBearerConfig [0x82, 0x01, 0x00] 256
  | reconfiguration msg =>
      (msg.rrcTransactionId.toNat < 4 ∧ msg.configLen = 512
        ∧ Repeats msg.radioBearerConfig [0x82, 0x02, 0x00] 512) ∧ msg.Plain
  | handoverCommand msg =>
      (msg.rrcTransactionId.toNat < 4 ∧ msg.targetCellId.toNat < 2 ^ 28) ∧ msg.configLen = 512
        ∧ Repeats msg.radioBearerConfig [0x20, 0x20, 0x00] 512

end RrcContainerMessage

/-- **A message with a container survives the wire exactly when the container looks like what the encoder
puts in front of it.** -/
theorem rrcContainerMessage_survivesWire_iff (message : RrcContainerMessage) (buf : Asn1Buffer)
    (harrays : message.WithinArrays) (hroom : message.encodedBits ≤ 8 * buf.capacity) :
    message.SurvivesWire buf ↔ message.LooksEncoded := by
  cases message with
  | setup msg => exact rrcEncodeSetup_survives_iff harrays hroom
  | setupComplete msg => exact rrcEncodeSetupComplete_survives_iff harrays hroom
  | reestablishment msg => exact rrcEncodeReestablishment_survives_iff harrays hroom
  | reconfiguration msg => exact rrcEncodeReconfiguration_survives_iff harrays.1 hroom
  | handoverCommand msg => exact rrcEncodeHandoverCommand_survives_iff harrays hroom

/-- The one configuration of 256 bytes that comes back. -/
theorem rrcContainerMessage_survivesWire_repeating :
    (RrcContainerMessage.setup
      { rrcTransactionId := 1
        radioBearerConfig := fun i => ofBytes [0x82, 0x01, 0x00] (i % 3)
        configLen := 256 }).SurvivesWire
      { data := zeros, size := 0, capacity := 260, bitOffset := 0 } :=
  (rrcContainerMessage_survivesWire_iff (.setup
    { rrcTransactionId := 1
      radioBearerConfig := fun i => ofBytes [0x82, 0x01, 0x00] (i % 3)
      configLen := 256 })
    { data := zeros, size := 0, capacity := 260, bitOffset := 0 } (Nat.le_refl 256)
    (Nat.le_refl 2080)).mpr ⟨by decide, rfl, fun _ _ => rfl⟩

/-- A NAS PDU of three bytes comes back as four, of which the first is its length. -/
theorem rrcContainerMessage_not_survivesWire :
    ∃ msg buf decoded, (RrcContainerMessage.setupComplete msg).WithinArrays
      ∧ (RrcContainerMessage.setupComplete msg).encodedBits ≤ 8 * buf.capacity
      ∧ rrcDecodeSetupComplete (rrcEncodeSetupComplete buf msg).1.data
          (asn1BufferLength (rrcEncodeSetupComplete buf msg).1) msg = .ok decoded
      ∧ msg.nasPduLen = 3 ∧ decoded.nasPduLen = 4 ∧ decoded.nasPdu 0 = 3
      ∧ ¬(RrcContainerMessage.setupComplete msg).SurvivesWire buf := by
  refine ⟨⟨0, 1, ofBytes [0x7E, 0x00, 0x41], 3⟩,
    { data := zeros, size := 0, capacity := 64, bitOffset := 0 }, _,
    by unfold RrcContainerMessage.WithinArrays; decide,
    by unfold RrcContainerMessage.encodedBits; decide, rfl, rfl, by decide, by decide, ?_⟩
  intro h
  have hfull := ((rrcEncodeSetupComplete_survives_iff (by decide) (by decide)).mp h).2.1
  exact absurd hfull (by decide)

end Uesim
