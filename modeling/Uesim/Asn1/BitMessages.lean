import Mathlib.Data.List.TakeWhile
import Uesim.Asn1.RrcContainers
import Uesim.Library.BitReader

/-!
# Messages of bit fields

The encoders of the interfaces between the parts of a base station have one skeleton: they allocate a buffer,
make a list of calls to `asn1_encode_bits` whose results they do not look at, and report success. The memory
of the buffer is not cleared, so that the fields are written over what is left in it. The decoders walk
through the bytes without a look at their number.
-/

namespace Uesim

open Bytes BitMemory

/-- `asn1_buffer_alloc`, where `memory` is what `uesim_malloc` returns: bytes as they were left, or none. -/
def asn1BufferAlloc (memory : Option Memory) (initialCapacity : Nat) : Except UesimError Asn1Buffer :=
  if initialCapacity = 0 then .error .invalidParam
  else
    match memory with
    | none => .error .memory
    | some data => .ok { data, size := 0, capacity := initialCapacity, bitOffset := 0 }

/-- What the encoders share: the buffer, the calls that write fields, and the bytes with their number. The
result is none where the encoder returns -1. -/
def asn1EncodeMessage (maxSize : Nat) (memory : Option Memory) (fields : List (Word × Nat)) :
    Option (Memory × Nat) :=
  match asn1BufferAlloc memory maxSize with
  | .error _ => none
  | .ok buf =>
      let buf := asn1EncodeFields buf fields
      some (buf.data, (buf.bitOffset + 7) / 8)

/-- What the decoders share: they return -1 for no bytes and read fields otherwise. -/
def asn1DecodeMessage {α : Type} (reader : BitReader 32 α) (length : Nat) : Option (BitReader 32 α) :=
  if length = 0 then none else some reader

/-- If a message is encoded, the decoder finds it in the produced bytes, and reads no others. -/
def ComesBack {α : Type} (encoded : Option (Memory × Nat)) (decode : Nat → Option (BitReader 32 α))
    (msg : α) : Prop :=
  ∀ data length, encoded = some (data, length) → ∃ reader, decode length = some reader
    ∧ (reader.reading 0).Within data length ∧ reader.value data 0 = msg

/-! ### What the messages are made of -/

/-- `asn1_encode_bits(buf, byte, 8)` -/
def asn1EncodeByte (byte : Byte) : List (Word × Nat) := [(byte.setWidth 32, 8)]

/-- An array of `n` bytes. -/
abbrev Octets (n : Nat) := {bytes : List Byte // bytes.length = n}

def asn1ReadOctets (n : Nat) : BitReader 32 (Octets n) := BitReader.entries (BitReader.bits 8) n

def asn1EncodeOctets {n : Nat} (octets : Octets n) : List (Word × Nat) := octets.1.flatMap asn1EncodeByte

/-- A number of 64 bits in two fields. The higher part is masked where the code does it. -/
def asn1EncodeWide (mask : BitVec 64) (highBits : Nat) (value : BitVec 64) : List (Word × Nat) :=
  [(((value >>> 32) &&& mask).setWidth 32, highBits), ((value &&& 0xFFFFFFFF).setWidth 32, 32)]

def asn1ReadWide (highBits : Nat) : BitReader 32 (BitVec 64) := do
  let high : Word ← BitReader.bits highBits
  let low : Word ← BitReader.bits 32
  pure ((high.setWidth 64 <<< 32) ||| low.setWidth 64)

/-- `strlen` of an array with these bytes and a zero behind them. -/
def strlen (bytes : List Byte) : Nat := (bytes.takeWhile (· ≠ 0)).length

/-- A string in an array of 64 bytes. -/
def IsName (name : List Byte) : Prop := name.length ≤ 63 ∧ ∀ byte ∈ name, byte ≠ 0

def asn1EncodeName (name : List Byte) : List (Word × Nat) :=
  let len : Byte := BitVec.ofNat 8 (strlen name)
  (len.setWidth 32, 8) :: (name.take len.toNat).flatMap asn1EncodeByte

/-- A name goes into an array of 64 bytes, the last of them for the zero. The bytes in front of it are
kept. -/
def asn1ReadName : BitReader 32 (List Byte) := do
  let name : Counted 8 Byte 63 ← BitReader.counted 8 (BitReader.bits 8)
  pure name.items

/-- A container of messages of another protocol, with its length. -/
abbrev Container := Counted 64 Byte 65536

def asn1EncodeContainer (container : Container) : List (Word × Nat) := container.fields 16 asn1EncodeByte

def asn1ReadContainer : BitReader 32 Container := BitReader.counted 16 (BitReader.bits 8)

/-! ### The message around its payload -/

/-- `f1ap_message_t`, `e1ap_message_t` and `xnap_message_t`. The message type goes with the payload, a union
whose members belong to the types. -/
structure InterfaceMessage (π : Type) where
  procedureCode : Word
  criticality : Byte
  payload : π

namespace InterfaceMessage

variable {π : Type} (messageType : π → Word)

def header (msg : InterfaceMessage π) : List (Word × Nat) :=
  [(msg.procedureCode, 8), (msg.criticality.setWidth 32, 2), (messageType msg.payload, 8)]

def read (decodePayload : Word → BitReader 32 π) : BitReader 32 (InterfaceMessage π) := do
  let procedureCode ← BitReader.bits 8
  let criticality ← BitReader.bits 2
  let messageType ← BitReader.bits 8
  let payload ← decodePayload messageType
  pure { procedureCode, criticality, payload }

/-- The header fits its fields, and the payload is good. -/
structure HeaderFits (good : π → Prop) (msg : InterfaceMessage π) : Prop where
  procedureCode : msg.procedureCode.toNat < 2 ^ 8
  criticality : msg.criticality.toNat < 2 ^ 2
  messageType : (messageType msg.payload).toNat < 2 ^ 8
  payload : good msg.payload

def headerLayout (layout : π → List (Slot 32)) (msg : InterfaceMessage π) : List (Slot 32) :=
  exactly (msg.header messageType) ++ layout msg.payload

end InterfaceMessage

section Encode

variable {maxSize : Nat} {mem : Memory} {fields : List (Word × Nat)}

theorem asn1EncodeMessage_eq (hsize : 0 < maxSize) :
    asn1EncodeMessage maxSize (some mem) fields
      = some ((asn1EncodeFields ⟨mem, 0, maxSize, 0⟩ fields).data,
          ((asn1EncodeFields ⟨mem, 0, maxSize, 0⟩ fields).bitOffset + 7) / 8) := by
  rw [asn1EncodeMessage, asn1BufferAlloc, if_neg (Nat.pos_iff_ne_zero.mp hsize)]

/-- The bytes that are reported are in the buffer, whether or not the message is whole. -/
theorem asn1EncodeFields_length_le (mem : Memory) (maxSize : Nat) (fields : List (Word × Nat)) :
    ((asn1EncodeFields ⟨mem, 0, maxSize, 0⟩ fields).bitOffset + 7) / 8 ≤ maxSize := by
  have hinside := (asn1EncodeFields_advances fields ⟨mem, 0, maxSize, 0⟩).inside (Nat.zero_le _)
  dsimp only at hinside
  omega

theorem asn1EncodeMessage_of_room (hsize : 0 < maxSize) (hnarrow : ∀ field ∈ fields, field.2 ≤ 32)
    (hroom : fieldsWidth fields ≤ 8 * maxSize) :
    asn1EncodeMessage maxSize (some mem) fields
      = some (writeFields mem 0 fields, (fieldsWidth fields + 7) / 8) := by
  have htight : (⟨mem, 0, maxSize, 0⟩ : Asn1Buffer).Tight := by
    constructor <;> simp
  have hfields := asn1EncodeFields_eq htight hnarrow (by rwa [Nat.zero_add])
  rw [asn1EncodeMessage_eq hsize, hfields, Nat.zero_add]

end Encode

/-! ### When a message comes back -/

section ComesBack

variable {α : Type} {reader : BitReader 32 α} {good : α → Prop} {layout : α → List (Slot 32)}
  {maxSize : Nat}

/-- **A message comes back from its own encoding exactly if the decoder can return it, its layout fits the
buffer, and its fields are kept by the bits that the buffer has in their place.** -/
theorem comesBack_iff (hreads : Reads reader good layout) (hsize : 0 < maxSize) (mem : Memory) {msg : α}
    {fields rest : List (Word × Nat)} (hpos : 0 < slotsWidth (layout msg))
    (hfields : good msg → fields = (layout msg).map Slot.field ++ rest)
    (hnarrow : ∀ field ∈ rest, field.2 ≤ 32)
    (hrest : good msg → slotsWidth (layout msg) ≤ 8 * maxSize → fieldsWidth fields ≤ 8 * maxSize) :
    ComesBack (asn1EncodeMessage maxSize (some mem) fields) (asn1DecodeMessage reader) msg
      ↔ good msg ∧ slotsWidth (layout msg) ≤ 8 * maxSize ∧ Kept mem 0 (layout msg) := by
  have hstop : ∀ data, reader.value data 0 = msg → reader.stop data 0 = slotsWidth (layout msg) := by
    intro data hvalue
    rw [hreads.stop_eq, hvalue, Nat.zero_add]
  have hroomIff : ∀ {data : Memory} {length : Nat}, reader.value data 0 = msg →
      ((reader.reading 0).Within data length ↔ slotsWidth (layout msg) ≤ 8 * length) := by
    intro data length hvalue
    rw [BitReader.within_reading (Nat.zero_le _), hstop data hvalue]
  have hwritten : good msg → slotsWidth (layout msg) ≤ 8 * maxSize →
      asn1EncodeMessage maxSize (some mem) fields
        = some (writeFields mem 0 ((layout msg).map Slot.field ++ rest), (fieldsWidth fields + 7) / 8)
      ∧ slotsWidth (layout msg) ≤ fieldsWidth fields := by
    intro hgood hroom
    have heq := hfields hgood
    have hall : ∀ field ∈ fields, field.2 ≤ 32 := by
      rw [heq, List.forall_mem_append]
      exact ⟨List.forall_mem_map.mpr (hreads.narrow hgood), hnarrow⟩
    refine ⟨?_, ?_⟩
    · rw [asn1EncodeMessage_of_room hsize hall (hrest hgood hroom), ← heq]
    · rw [heq, ← fieldsWidth_map_field]
      simp [fieldsWidth]
  constructor
  · intro hback
    obtain ⟨_, hreader, hwithin, hvalue⟩ := hback _ _ (asn1EncodeMessage_eq hsize)
    rw [asn1DecodeMessage] at hreader
    split at hreader
    · cases hreader
    · obtain rfl := Option.some.inj hreader
      have hgood : good msg := hvalue ▸ hreads.good_value _ 0
      have hroom : slotsWidth (layout msg) ≤ 8 * maxSize := by
        have hlength := asn1EncodeFields_length_le mem maxSize fields
        have hbytes := (hroomIff hvalue).mp hwithin
        omega
      obtain ⟨hencoded, -⟩ := hwritten hgood hroom
      obtain ⟨_, hreader', -, hvalue'⟩ := hback _ _ hencoded
      rw [asn1DecodeMessage] at hreader'
      split at hreader'
      · cases hreader'
      · obtain rfl := Option.some.inj hreader'
        refine ⟨hgood, hroom, (shown_writeFields (layout msg) rest).mp ?_⟩
        exact (hreads.value_eq_iff _ 0 hgood).mp hvalue'
  · rintro ⟨hgood, hroom, hkept⟩ data length hencoded
    obtain ⟨heq, hwide⟩ := hwritten hgood hroom
    obtain ⟨rfl, rfl⟩ := Prod.mk.inj (Option.some.inj (heq.symm.trans hencoded))
    have hvalue : reader.value (writeFields mem 0 ((layout msg).map Slot.field ++ rest)) 0 = msg :=
      (hreads.value_eq_iff _ 0 hgood).mpr ((shown_writeFields (layout msg) rest).mpr hkept)
    have hlength : (fieldsWidth fields + 7) / 8 ≠ 0 := by omega
    exact ⟨reader, if_neg hlength, (hroomIff hvalue).mpr (by omega), hvalue⟩

theorem comesBack_iff_of_map_field (hreads : Reads reader good layout) (hsize : 0 < maxSize) (mem : Memory)
    {msg : α} {fields : List (Word × Nat)} (hpos : 0 < slotsWidth (layout msg))
    (hfields : good msg → (layout msg).map Slot.field = fields) :
    ComesBack (asn1EncodeMessage maxSize (some mem) fields) (asn1DecodeMessage reader) msg
      ↔ good msg ∧ slotsWidth (layout msg) ≤ 8 * maxSize ∧ Kept mem 0 (layout msg) := by
  have hwhole : good msg → fields = (layout msg).map Slot.field ++ [] := by
    intro hgood
    rw [hfields hgood, List.append_nil]
  apply comesBack_iff hreads hsize mem hpos hwhole (List.forall_mem_nil _)
  intro hgood hroom
  rwa [← hfields hgood, fieldsWidth_map_field]

/-- The bytes of a message that is encoded whole begin with its layout. -/
theorem exists_encoded_beginsWith (hreads : Reads reader good layout) (hsize : 0 < maxSize) {mem : Memory}
    {msg : α} {fields : List (Word × Nat)} (hpos : 0 < slotsWidth (layout msg))
    (hfields : (layout msg).map Slot.field = fields) (hgood : good msg)
    (hroom : slotsWidth (layout msg) ≤ 8 * maxSize) (hkept : Kept mem 0 (layout msg)) {wanted : α → Prop}
    (hwanted : wanted msg) :
    ∃ data length, asn1EncodeMessage maxSize (some mem) fields = some (data, length) ∧ 0 < length
      ∧ BeginsWith wanted layout data length := by
  have hwidth := fieldsWidth_map_field (layout msg)
  have hnarrow : ∀ field ∈ fields, field.2 ≤ 32 :=
    hfields ▸ List.forall_mem_map.mpr (hreads.narrow hgood)
  rw [hfields] at hwidth
  refine ⟨_, _, asn1EncodeMessage_of_room hsize hnarrow (hwidth ▸ hroom), by omega, msg, hwanted, ?_,
    by omega⟩
  rw [← hfields, ← List.append_nil ((layout msg).map Slot.field)]
  exact (shown_writeFields (layout msg) []).mpr hkept

/-- Whatever the buffer holds, a message that the decoder cannot return does not come back. -/
theorem not_comesBack_of_not_good (hreads : Reads reader good layout) (hsize : 0 < maxSize) (mem : Memory)
    {msg : α} (fields : List (Word × Nat)) (hbad : ¬good msg) :
    ¬ComesBack (asn1EncodeMessage maxSize (some mem) fields) (asn1DecodeMessage reader) msg := by
  intro hback
  obtain ⟨_, hreader, -, hvalue⟩ := hback _ _ (asn1EncodeMessage_eq hsize)
  rw [asn1DecodeMessage] at hreader
  split at hreader
  · cases hreader
  · obtain rfl := Option.some.inj hreader
    exact hbad (hvalue ▸ hreads.good_value _ 0)

end ComesBack

/-! ### Readers of the parts -/

theorem reads_byte : Reads (BitReader.bits 8) (fun _ => True) (fun byte => exactly (asn1EncodeByte byte)) :=
  reads_whole (by decide)

theorem reads_word :
    Reads (BitReader.bits 32) (fun _ => True) (fun word : Word => exactly [(word, 32)]) :=
  (reads_whole (by decide)).congr (fun _ => Iff.rfl) fun word _ => by rw [BitVec.setWidth_eq]

theorem reads_octets (n : Nat) :
    Reads (asn1ReadOctets n) (fun _ => True) (fun octets => exactly (asn1EncodeOctets octets)) := by
  apply (reads_entries reads_byte n).congr
  · intro octets
    exact iff_of_true (fun _ _ => trivial) trivial
  · intro octets _
    exact (exactly_flatMap _ _).symm

theorem reads_container :
    Reads asn1ReadContainer (fun container => container.count.toNat < 2 ^ 16)
      (fun container => exactly (asn1EncodeContainer container)) := by
  apply (reads_counted reads_byte (by decide)).congr
  · intro container
    exact and_iff_left fun _ _ => trivial
  · intro container _
    exact (Counted.exactly_fields _ _ _).symm

theorem setWidth_high (high low : Word) :
    (((high.setWidth 64 <<< 32) ||| low.setWidth 64) >>> 32).setWidth 32 = high := by
  apply BitVec.eq_of_getLsbD_eq
  intro i hi
  have hlow : ¬32 + i < 32 := by omega
  have hhigh : 32 + i < 64 := by omega
  simp [hi, hlow, hhigh]

theorem setWidth_low (high low : Word) :
    ((high.setWidth 64 <<< 32) ||| low.setWidth 64).setWidth 32 = low := by
  apply BitVec.eq_of_getLsbD_eq
  intro i hi
  simp [hi]

theorem wide_eq (value : BitVec 64) :
    ((((value >>> 32).setWidth 32 : Word).setWidth 64 <<< 32) ||| (value.setWidth 32 : Word).setWidth 64)
      = value := by
  apply BitVec.eq_of_getLsbD_eq
  intro i hi
  by_cases hlow : i < 32
  · simp [hi, hlow]
  · have hplace : i - 32 < 32 := by omega
    have hsum : 32 + (i - 32) = i := by omega
    simp [hi, hlow, hplace, hsum]

theorem toNat_high_lt_iff (value : BitVec 64) (highBits : Nat) :
    ((value >>> 32).setWidth 32 : Word).toNat < 2 ^ highBits ↔ value.toNat < 2 ^ (32 + highBits) := by
  have hvalue := value.isLt
  have hhigh : ((value >>> 32).setWidth 32 : Word).toNat = value.toNat / 2 ^ 32 := by
    rw [BitVec.toNat_setWidth, BitVec.toNat_ushiftRight, Nat.shiftRight_eq_div_pow]
    exact Nat.mod_eq_of_lt (by omega)
  rw [hhigh, Nat.div_lt_iff_lt_mul (by decide), Nat.pow_add, Nat.mul_comm]

theorem setWidth_and_low (value : BitVec 64) :
    ((value &&& 0xFFFFFFFF).setWidth 32 : Word) = value.setWidth 32 := by
  apply BitVec.eq_of_toNat_eq
  rw [BitVec.toNat_setWidth, BitVec.toNat_setWidth, BitVec.toNat_and]
  change (value.toNat &&& (2 ^ 32 - 1)) % 2 ^ 32 = _
  rw [Nat.and_two_pow_sub_one_eq_mod, Nat.mod_mod]

theorem setWidth_and_high {mask value : BitVec 64} {highBits : Nat}
    (hmask : ∀ i < highBits, mask.getLsbD i = true) (hvalue : value.toNat < 2 ^ (32 + highBits)) :
    (((value >>> 32) &&& mask).setWidth 32 : Word) = (value >>> 32).setWidth 32 := by
  apply BitVec.eq_of_getLsbD_eq
  intro i hi
  rw [BitVec.getLsbD_setWidth, BitVec.getLsbD_setWidth, BitVec.getLsbD_and, BitVec.getLsbD_ushiftRight]
  by_cases hin : i < highBits
  · rw [hmask i hin, Bool.and_true]
  · have hclear : value.getLsbD (32 + i) = false := by
      apply Nat.testBit_lt_two_pow
      exact hvalue.trans_le (Nat.pow_le_pow_right (by decide) (by omega))
    rw [hclear, Bool.false_and]

theorem reads_wide {mask : BitVec 64} {highBits : Nat} (hbits : highBits ≤ 32)
    (hmask : ∀ i < highBits, mask.getLsbD i = true) :
    Reads (asn1ReadWide highBits) (fun value => value.toNat < 2 ^ (32 + highBits))
      (fun value => exactly (asn1EncodeWide mask highBits value)) := by
  have hlow : ∀ high : Word, Reads (do
        let low : Word ← BitReader.bits 32
        pure ((high.setWidth 64 <<< 32) ||| low.setWidth 64 : BitVec 64))
      (fun value => True ∧ (high.setWidth 64 <<< 32) ||| (value.setWidth 32).setWidth 64 = value)
      (fun value => exactly [(value.setWidth 32, 32)]) := by
    intro high
    apply (reads_word.bind (fun value : BitVec 64 => value.setWidth 32) _ fun low _ => reads_pure _).congr
    · intro value
      rfl
    · intro value _
      rfl
    · rintro low _ rfl
      exact setWidth_low high low
  apply (Reads.part (reads_bits (n := 32) ⟨hbits, hbits⟩)
    (fun value : BitVec 64 => (value >>> 32).setWidth 32) (fun high value => setWidth_high high (value.setWidth 32)) hlow).congr
  · intro value
    rw [and_true, and_iff_left (wide_eq value), toNat_high_lt_iff]
  · intro value h
    have hvalue := (toNat_high_lt_iff value highBits).mp h.1.1
    rw [asn1EncodeWide, setWidth_and_high hmask hvalue, setWidth_and_low, BitVec.setWidth_eq]
    rfl

/-! ### Names -/

/-- The length byte shows a name if it counts its bytes, or more of them than the array has room for. -/
def asn1NameLayout (name : List Byte) : List (Slot 32) :=
  { written := BitVec.ofNat 32 name.length, width := 8, shows := fun len => min len.toNat 63 = name.length }
    :: exactly (name.flatMap asn1EncodeByte)

theorem reads_name : Reads asn1ReadName (fun name => name.length ≤ 63) asn1NameLayout := by
  have hreads : Reads (BitReader.counted 8 (BitReader.bits 8) : BitReader 32 (Counted 8 Byte 63)) _ _ :=
    reads_counted reads_byte (by decide)
  have hvalue : ∀ mem pos, asn1ReadName.value mem pos
      = ((BitReader.counted 8 (BitReader.bits 8)).value mem pos : Counted 8 Byte 63).items :=
    fun mem pos => BitReader.value_bind mem pos _ _
  -- The layout of the name is that of a counted list, but for counts that the array has no room for.
  have hshown : ∀ {mem pos} {name : List Byte} (counted : Counted 8 Byte 63), counted.items = name →
      Shown mem pos (counted.layout 8 fun byte => exactly (asn1EncodeByte byte)) →
      Shown mem pos (asn1NameLayout name) := by
    rintro mem pos _ counted rfl ⟨hcount, hbytes⟩
    refine ⟨?_, by rwa [exactly_flatMap]⟩
    change readBits mem pos 0 8 = counted.count.setWidth 32 at hcount
    change min (readBits mem pos (0 : Word) 8).toNat 63 = counted.items.length
    rw [hcount, counted.length_items, BitVec.toNat_setWidth_of_le (by decide)]
  refine ⟨fun mem pos => ?_, fun mem pos name hname => ?_, fun mem pos => ?_, fun {name} hname => ?_⟩
  · rw [hvalue, Counted.length_items]
    exact Nat.min_le_right _ _
  · rw [hvalue]
    constructor
    · intro heq
      exact hshown _ heq ((hreads.value_eq_iff mem pos (hreads.good_value mem pos)).mp rfl)
    · rintro ⟨hlen, hbytes⟩
      let count : Byte := (readBits mem pos (0 : Word) 8).setWidth 8
      have hcount : count.toNat = (readBits mem pos (0 : Word) 8).toNat :=
        (BitVec.toNat_setWidth _ _).trans (Nat.mod_eq_of_lt (toNat_readBits_lt mem pos 8))
      have hback : (count.setWidth 32 : Word) = readBits mem pos 0 8 := by
        rw [← BitVec.toNat_inj, BitVec.toNat_setWidth_of_le (by decide), hcount]
      have hitems : name.length = min count.toNat 63 := by
        rw [hcount]
        exact hlen.symm
      rw [(hreads.value_eq_iff mem pos (a := ⟨count, name, hitems⟩) ?_).mpr ?_]
      · exact ⟨count.isLt, fun _ _ => trivial⟩
      · exact ⟨hback.symm, by rwa [← exactly_flatMap]⟩
  · rw [hvalue]
    calc asn1ReadName.stop mem pos
        = (BitReader.counted 8 (BitReader.bits 8) : BitReader 32 (Counted 8 Byte 63)).stop mem pos :=
          BitReader.stop_bind mem pos _ _
      _ = _ := hreads.stop_eq mem pos
      _ = _ := by
          rw [Counted.layout, asn1NameLayout, slotsWidth_cons, slotsWidth_cons, exactly_flatMap]
          rfl
  · rw [asn1NameLayout, List.forall_mem_cons]
    exact ⟨Nat.le_of_ble_eq_true rfl, (reads_octets name.length).narrow (a := ⟨name, rfl⟩) trivial⟩

/-- A name goes through `strlen` as it is. -/
theorem asn1EncodeName_eq {name : List Byte} (h : IsName name) :
    (asn1NameLayout name).map Slot.field = asn1EncodeName name := by
  have hlen := h.1
  have htake : name.takeWhile (· ≠ 0) = name := by
    rw [List.takeWhile_eq_self_iff]
    simpa using h.2
  have hmod : name.length % 2 ^ 8 = name.length := Nat.mod_eq_of_lt (by omega)
  rw [asn1EncodeName, strlen, htake, BitVec.toNat_ofNat, hmod, List.take_length, asn1NameLayout,
    List.map_cons, map_field_exactly, BitVec.setWidth_ofNat_of_le_of_lt (by decide) (by omega)]
  rfl

/-! ### Readers of messages -/

section Message

variable {π : Type} {messageType : π → Word} {decodePayload : Word → BitReader 32 π} {good : π → Prop}
  {layout : π → List (Slot 32)}

/-- A decoder that reads for each message type the payloads of this type reads messages. -/
theorem reads_message (hpayload : ∀ type,
      Reads (decodePayload type) (fun payload => messageType payload = type ∧ good payload) layout) :
    Reads (InterfaceMessage.read decodePayload) (InterfaceMessage.HeaderFits messageType good)
      (InterfaceMessage.headerLayout messageType layout) := by
  have hbody : ∀ (procedureCode : Word) (criticality : Byte), Reads (do
        let type ← BitReader.bits 8
        let payload ← decodePayload type
        pure ({ procedureCode, criticality, payload } : InterfaceMessage π))
      (fun msg => ((messageType msg.payload).toNat < 2 ^ 8 ∧ good msg.payload)
        ∧ { procedureCode, criticality, payload := msg.payload } = msg)
      (fun msg => exactly [(messageType msg.payload, 8)] ++ layout msg.payload) := by
    intro procedureCode criticality
    refine (Reads.bind (reads_bits (by decide)) (fun msg => messageType msg.payload)
      (fun _ _ h => h.1.1.1) fun type _ =>
      Reads.part (hpayload type) InterfaceMessage.payload (by simp) fun _ => reads_record _).congr ?_ ?_
    · intro msg
      simp [and_assoc]
    · intro msg _
      simp
  refine (Reads.part (reads_bits (by decide)) InterfaceMessage.procedureCode (by simp) fun _ =>
    Reads.part (reads_bits (by decide)) InterfaceMessage.criticality (by simp) fun _ =>
    hbody _ _).congr ?_ ?_
  · intro msg
    constructor
    · rintro ⟨⟨hprocedure, hcriticality, htype, hpayload⟩, -⟩
      exact ⟨hprocedure, hcriticality, htype, hpayload⟩
    · rintro ⟨hprocedure, hcriticality, htype, hpayload⟩
      exact ⟨⟨hprocedure, hcriticality, htype, hpayload⟩, rfl⟩
  · intro msg _
    simp [InterfaceMessage.headerLayout, InterfaceMessage.header]

theorem slotsWidth_headerLayout_pos (messageType : π → Word) (layout : π → List (Slot 32))
    (msg : InterfaceMessage π) : 0 < slotsWidth (msg.headerLayout messageType layout) := by
  rw [InterfaceMessage.headerLayout, slotsWidth_append]
  exact Nat.lt_of_lt_of_le (by decide) (Nat.le_add_right 18 _)

end Message

end Uesim
