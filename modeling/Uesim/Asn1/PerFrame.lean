import Uesim.Asn1.Per
import Uesim.Library.Extents

/-!
# What the writers occupy

Every writer sets bits from `bit_offset` on, and a string then copies its bytes to `size`, which is the
first byte behind those bits. If the bits do not end with a byte, the copied bytes reach behind the
`bit_offset` that is left, and what is written next lies over them.
-/

namespace Uesim

open Bytes BitMemory Extents

inductive Asn1Call where
  | bits (value : Word) (numBits : Nat)
  | boolean (value : Bool)
  | length (len : Nat)
  | octetString (data : Memory) (len : Nat)
  | bitString (data : Memory) (numBits : Nat) (hasConstraint : Bool) (fixedSize : Nat)

namespace Asn1Call

def encode (buf : Asn1Buffer) : Asn1Call → Asn1Buffer × Except UesimError Unit
  | bits value numBits => asn1EncodeBits buf value numBits
  | boolean value => asn1EncodeBoolean buf value
  | length len => asn1EncodeLength buf len
  | octetString data len => asn1EncodeOctetString buf data len
  | bitString data numBits hasConstraint fixedSize =>
      asn1EncodeBitString buf data numBits hasConstraint fixedSize

/-- The buffer when the bits of the call are written and nothing is copied yet. -/
def header (buf : Asn1Buffer) : Asn1Call → Asn1Buffer
  | octetString _ len => (asn1EncodeLength buf len).1
  | bitString data numBits hasConstraint fixedSize =>
      if hasConstraint ∧ fixedSize > 0 then asn1FixedBitsLoop data numBits 0 buf
      else (asn1EncodeLength buf ((numBits + 7) / 8)).1
  | call => (call.encode buf).1

def payload : Asn1Call → Nat
  | octetString _ len => len
  | bitString _ numBits hasConstraint fixedSize =>
      if hasConstraint ∧ fixedSize > 0 then 0 else (numBits + 7) / 8
  | _ => 0

def HasBits : Asn1Call → Prop
  | bits _ numBits => numBits ≠ 0
  | bitString _ numBits hasConstraint fixedSize => hasConstraint ∧ fixedSize > 0 → numBits ≠ 0
  | _ => True

instance : DecidablePred HasBits
  | bits _ _ => inferInstanceAs (Decidable (_ ≠ _))
  | boolean _ => inferInstanceAs (Decidable True)
  | length _ => inferInstanceAs (Decidable True)
  | octetString _ _ => inferInstanceAs (Decidable True)
  | bitString _ _ _ _ => inferInstanceAs (Decidable (_ → _))

end Asn1Call

/-- A call and the buffer that it is made with. -/
structure Asn1Step where
  call : Asn1Call
  before : Asn1Buffer

namespace Asn1Step

def after (step : Asn1Step) : Asn1Buffer := (step.call.encode step.before).1

def Succeeds (step : Asn1Step) : Prop := (step.call.encode step.before).2 = .ok ()

def header (step : Asn1Step) : Asn1Buffer := step.call.header step.before

/-- The bits that the call writes, and those of the bytes that it copies. -/
def region (step : Asn1Step) : Set Nat := fun pos =>
  (step.before.bitOffset ≤ pos ∧ pos < step.header.bitOffset)
    ∨ (8 * step.header.size ≤ pos ∧ pos < 8 * (step.header.size + step.call.payload))

def Writes (step : Asn1Step) : Prop :=
  step.call.HasBits ∧ step.before.bitOffset < 8 * step.before.capacity

/-- The call copies a byte and begins inside of one. -/
def CopiesUnaligned (step : Asn1Step) : Prop :=
  step.call.payload ≠ 0 ∧ step.before.bitOffset % 8 ≠ 0

instance (step : Asn1Step) : Decidable step.Succeeds := inferInstanceAs (Decidable (_ = _))

instance (step : Asn1Step) : Decidable step.Writes := inferInstanceAs (Decidable (_ ∧ _))

instance (step : Asn1Step) : Decidable step.CopiesUnaligned := inferInstanceAs (Decidable (_ ∧ _))

end Asn1Step

def asn1Steps : List Asn1Call → Asn1Buffer → List Asn1Step
  | [], _ => []
  | call :: calls, buf => ⟨call, buf⟩ :: asn1Steps calls (call.encode buf).1

/-! ### Writers of bits -/

/-- What writing bits does, whether it fails or not. -/
structure Asn1Buffer.Advances (buf after : Asn1Buffer) : Prop where
  bitOffset_le : buf.bitOffset ≤ after.bitOffset
  capacity : after.capacity = buf.capacity
  inside : buf.bitOffset ≤ 8 * buf.capacity → after.bitOffset ≤ 8 * buf.capacity
  frame : ∀ pos, pos < buf.bitOffset ∨ after.bitOffset ≤ pos →
    bitAt after.data pos = bitAt buf.data pos

theorem Asn1Buffer.Advances.refl (buf : Asn1Buffer) : buf.Advances buf :=
  ⟨Nat.le_refl _, rfl, id, fun _ _ => rfl⟩

theorem Asn1Buffer.Advances.trans {buf mid after : Asn1Buffer} (h : buf.Advances mid)
    (h' : mid.Advances after) : buf.Advances after where
  bitOffset_le := Nat.le_trans h.bitOffset_le h'.bitOffset_le
  capacity := h'.capacity.trans h.capacity
  inside := fun hin => h.capacity ▸ h'.inside (h.capacity.symm ▸ h.inside hin)
  frame := fun pos hpos => by
    have hlow := h.bitOffset_le
    have hhigh := h'.bitOffset_le
    rw [h'.frame pos (by omega), h.frame pos (by omega)]

theorem asn1EncodeBitsLoop_advances (value : Word) (numBits : Nat) (buf : Asn1Buffer) :
    buf.Advances (asn1EncodeBitsLoop value numBits buf).1 := by
  induction numBits generalizing buf with
  | zero => exact ⟨Nat.le_refl _, rfl, id, fun _ _ => rfl⟩
  | succ i ih =>
      rw [asn1EncodeBitsLoop]
      split
      · exact .refl buf
      · rename_i hfits
        refine Asn1Buffer.Advances.trans ?_ (ih _)
        refine ⟨Nat.le_succ _, rfl, fun _ => ?_, fun pos hpos => ?_⟩
        · dsimp only
          omega
        · have hne : pos ≠ buf.bitOffset := by
            dsimp only at hpos
            omega
          dsimp only
          split
          · simp [bitAt_setBit, hne]
          · rfl

theorem asn1EncodeBits_advances (buf : Asn1Buffer) (value : Word) (numBits : Nat) :
    buf.Advances (asn1EncodeBits buf value numBits).1 := by
  rw [asn1EncodeBits]
  split
  · exact .refl buf
  · exact asn1EncodeBitsLoop_advances value numBits buf

theorem asn1EncodeLength_advances (buf : Asn1Buffer) (len : Nat) :
    buf.Advances (asn1EncodeLength buf len).1 := by
  rw [asn1EncodeLength]
  split
  · exact asn1EncodeBits_advances _ _ _
  · split
    · exact (asn1EncodeBits_advances _ _ _).trans (asn1EncodeBits_advances _ _ _)
    · exact (asn1EncodeBits_advances _ _ _).trans (asn1EncodeBits_advances _ _ _)

theorem asn1FixedBitsLoop_advances (data : Memory) (rounds i : Nat) (buf : Asn1Buffer) :
    buf.Advances (asn1FixedBitsLoop data rounds i buf) := by
  induction rounds generalizing i buf with
  | zero => exact .refl buf
  | succ rounds ih => exact (asn1EncodeBits_advances _ _ _).trans (ih _ _)

theorem Asn1Step.header_advances (step : Asn1Step) : step.before.Advances step.header := by
  obtain ⟨call, buf⟩ := step
  cases call with
  | bits value numBits => exact asn1EncodeBits_advances _ _ _
  | boolean value => exact asn1EncodeBits_advances _ _ _
  | length len => exact asn1EncodeLength_advances _ _
  | octetString data len => exact asn1EncodeLength_advances _ _
  | bitString data numBits hasConstraint fixedSize =>
      rw [Asn1Step.header, Asn1Call.header]
      split
      · exact asn1FixedBitsLoop_advances _ _ _ _
      · exact asn1EncodeLength_advances _ _

/-! ### The two counts -/

/-- `size` is the number of bytes that the bits before `bit_offset` take. -/
structure Asn1Buffer.Tight (buf : Asn1Buffer) : Prop where
  size_eq : buf.size = (buf.bitOffset + 7) / 8
  inside : buf.bitOffset ≤ 8 * buf.capacity

/-- All bits are written, or some are, up to the end of the buffer, and `size` is not set. -/
theorem asn1EncodeBitsLoop_cases (value : Word) (numBits : Nat) (buf : Asn1Buffer) :
    ((asn1EncodeBitsLoop value numBits buf).2 = .ok ()
        ∧ (asn1EncodeBitsLoop value numBits buf).1.bitOffset = buf.bitOffset + numBits
        ∧ (asn1EncodeBitsLoop value numBits buf).1.size = (buf.bitOffset + numBits + 7) / 8)
      ∨ ((asn1EncodeBitsLoop value numBits buf).2 = .error .capacity
        ∧ (asn1EncodeBitsLoop value numBits buf).1.size = buf.size
        ∧ 8 * buf.capacity ≤ (asn1EncodeBitsLoop value numBits buf).1.bitOffset
        ∧ 8 * buf.capacity < buf.bitOffset + numBits) := by
  induction numBits generalizing buf with
  | zero => exact .inl ⟨rfl, rfl, rfl⟩
  | succ i ih =>
      rw [asn1EncodeBitsLoop]
      split
      · rename_i hfull
        have hend : 8 * buf.capacity ≤ buf.bitOffset := by omega
        exact .inr ⟨rfl, rfl, hend, by omega⟩
      · have hsum : buf.bitOffset + 1 + i = buf.bitOffset + (i + 1) := by omega
        have hrest := ih { buf with
          data := if value.getLsbD i then setBit buf.data buf.bitOffset else buf.data
          bitOffset := buf.bitOffset + 1 }
        simpa only [hsum] using hrest

theorem asn1EncodeBits_cases (buf : Asn1Buffer) (value : Word) {numBits : Nat}
    (hbits : numBits ≤ 32) :
    ((asn1EncodeBits buf value numBits).2 = .ok ()
        ∧ (asn1EncodeBits buf value numBits).1.bitOffset = buf.bitOffset + numBits
        ∧ (asn1EncodeBits buf value numBits).1.size = (buf.bitOffset + numBits + 7) / 8)
      ∨ ((asn1EncodeBits buf value numBits).2 = .error .capacity
        ∧ (asn1EncodeBits buf value numBits).1.size = buf.size
        ∧ 8 * buf.capacity ≤ (asn1EncodeBits buf value numBits).1.bitOffset
        ∧ 8 * buf.capacity < buf.bitOffset + numBits) := by
  rw [asn1EncodeBits, if_neg (Nat.not_lt.mpr hbits)]
  exact asn1EncodeBitsLoop_cases value numBits buf

/-- What writing a length determinant leaves in the counts when it succeeds. -/
structure Asn1Buffer.LengthWritten (buf after : Asn1Buffer) : Prop where
  tight : after.Tight
  bitOffset_lt : buf.bitOffset < after.bitOffset
  mod_eq : after.bitOffset % 8 = buf.bitOffset % 8

/-- The result and the buffer of a length determinant. If it fails, its bits reach the end of the buffer,
and no byte has room behind `size`. -/
def Asn1Buffer.LengthOutcome (buf : Asn1Buffer) (len : Nat)
    (outcome : Asn1Buffer × Except UesimError Unit) : Prop :=
  (outcome.2 = .ok () ∧ buf.LengthWritten outcome.1)
    ∨ (outcome.2 ≠ .ok () ∧ outcome.1.bitOffset = 8 * buf.capacity
      ∧ (outcome.1.size = buf.capacity ∨ buf.capacity < outcome.1.size + len))

theorem asn1EncodeBits_lengthOutcome {buf mid : Asn1Buffer} (h : buf.Tight)
    (hadvances : buf.Advances mid) (value : Word) {numBits len : Nat} (hpos : 0 < numBits)
    (hbits : numBits ≤ 32)
    (hmod : mid.bitOffset + numBits ≤ 8 * buf.capacity →
      (mid.bitOffset + numBits) % 8 = buf.bitOffset % 8)
    (hroom : 8 * buf.capacity < mid.bitOffset + numBits →
      mid.size = buf.capacity ∨ buf.capacity < mid.size + len) :
    buf.LengthOutcome len (asn1EncodeBits mid value numBits) := by
  have hall := hadvances.trans (asn1EncodeBits_advances mid value numBits)
  have hinside := hall.inside h.inside
  have hmid := hadvances.bitOffset_le
  rcases asn1EncodeBits_cases mid value hbits with ⟨hok, hoffset, hsize⟩ | ⟨herror, hkept, hend, hover⟩
  · rw [hoffset] at hinside
    refine .inl ⟨hok, ⟨by rw [hsize, hoffset], ?_⟩, ?_, ?_⟩
    · rw [hoffset, hall.capacity]
      exact hinside
    · rw [hoffset]
      omega
    · rw [hoffset]
      exact hmod hinside
  · rw [hadvances.capacity] at hend hover
    refine .inr ⟨fun hok => by simp [herror] at hok, Nat.le_antisymm hinside hend, ?_⟩
    rw [hkept]
    exact hroom hover

/-- Behind the first byte of a long form `size` is at most one byte short of the end. -/
theorem asn1EncodeLength_long {buf : Asn1Buffer} (h : buf.Tight) (marker value : Word)
    {numBits len : Nat} (hbits : numBits = 8 ∨ numBits = 16) (hlen : 128 ≤ len) :
    buf.LengthOutcome len (asn1EncodeBits (asn1EncodeBits buf marker 8).1 value numBits) := by
  have hinside := h.inside
  have hsize := h.size_eq
  rcases asn1EncodeBits_cases buf marker (show 8 ≤ 32 by decide) with hfirst | hfirst
  all_goals
    apply asn1EncodeBits_lengthOutcome h (asn1EncodeBits_advances _ _ _)
    all_goals omega

theorem asn1EncodeLength_lengthOutcome {buf : Asn1Buffer} (h : buf.Tight) (len : Nat) :
    buf.LengthOutcome len (asn1EncodeLength buf len) := by
  have hsize := h.size_eq
  have hinside := h.inside
  rw [asn1EncodeLength]
  split
  · apply asn1EncodeBits_lengthOutcome h (.refl buf)
    all_goals omega
  · split
    · exact asn1EncodeLength_long h _ _ (.inl rfl) (by omega)
    · exact asn1EncodeLength_long h _ _ (.inr rfl) (by omega)

theorem asn1FixedBitsLoop_tight (data : Memory) (rounds i : Nat) {buf : Asn1Buffer} (h : buf.Tight) :
    (asn1FixedBitsLoop data rounds i buf).Tight
      ∧ (buf.bitOffset < (asn1FixedBitsLoop data rounds i buf).bitOffset
        ↔ rounds ≠ 0 ∧ buf.bitOffset < 8 * buf.capacity) := by
  induction rounds generalizing i buf with
  | zero => exact ⟨h, iff_of_false (Nat.lt_irrefl _) fun hne => hne.1 rfl⟩
  | succ rounds ih =>
      rw [asn1FixedBitsLoop]
      have hadvances := asn1EncodeBits_advances buf (if bitAt data i then 1 else 0) 1
      have hrest := asn1FixedBitsLoop_advances data rounds (i + 1)
        (asn1EncodeBits buf (if bitAt data i then 1 else 0) 1).1
      have hall := hadvances.trans hrest
      have hinside := h.inside
      have hend := hadvances.inside hinside
      have hle := hrest.bitOffset_le
      have hin := hall.inside hinside
      rcases asn1EncodeBits_cases buf (if bitAt data i then 1 else 0) (show 1 ≤ 32 by decide) with
        ⟨-, hoffset, hsize⟩ | ⟨-, hsize, hfull, hover⟩
      · have hmid : (asn1EncodeBits buf (if bitAt data i then 1 else 0) 1).1.Tight :=
          ⟨by rw [hsize, hoffset], by rw [hadvances.capacity]; exact hend⟩
        refine ⟨(ih (i + 1) hmid).1, ?_⟩
        omega
      · have hmid : (asn1EncodeBits buf (if bitAt data i then 1 else 0) 1).1.Tight := by
          have hsame := h.size_eq
          have hbehind := hadvances.bitOffset_le
          refine ⟨?_, by rw [hadvances.capacity]; exact hend⟩
          omega
        refine ⟨(ih (i + 1) hmid).1, ?_⟩
        omega

/-! ### Calls that succeed -/

theorem asn1CopyString_ok {buf : Asn1Buffer} {data : Memory} {len : Nat}
    (hok : (asn1CopyString buf data len).2 = .ok ()) :
    buf.size + len ≤ buf.capacity
      ∧ (asn1CopyString buf data len).1
        = { buf with
            data := copy buf.data buf.size data len
            bitOffset := buf.bitOffset + len * 8
            size := buf.size + len } := by
  rw [asn1CopyString] at hok ⊢
  split at hok
  · cases hok
  · rename_i hfits
    rw [if_neg hfits]
    exact ⟨Nat.le_of_not_lt hfits, rfl⟩

namespace Asn1Step

/-- Where a call that succeeds has put its bits and its bytes. -/
structure Placed (step : Asn1Step) : Prop where
  header_size : step.header.size = (step.header.bitOffset + 7) / 8
  after_bitOffset : step.after.bitOffset = step.header.bitOffset + 8 * step.call.payload
  after_tight : step.after.Tight
  payload_behind : step.call.payload ≠ 0 → step.before.bitOffset < step.header.bitOffset
    ∧ step.header.bitOffset % 8 = step.before.bitOffset % 8
  writes : step.before.bitOffset < step.header.bitOffset ↔ step.Writes
  frame : ∀ pos ∉ step.region, bitAt step.after.data pos = bitAt step.before.data pos

variable {step : Asn1Step}

theorem placed_of_header (hpayload : step.call.payload = 0) (hafter : step.after = step.header)
    (htight : step.header.Tight)
    (hwrites : step.before.bitOffset < step.header.bitOffset ↔ step.Writes) : step.Placed where
  header_size := htight.size_eq
  after_bitOffset := by rw [hafter, hpayload, Nat.mul_zero, Nat.add_zero]
  after_tight := hafter ▸ htight
  payload_behind := fun hne => absurd hpayload hne
  writes := hwrites
  frame := fun pos hpos => by
    have hout : pos < step.before.bitOffset ∨ step.header.bitOffset ≤ pos := by
      by_contra hin
      exact hpos (.inl (by omega))
    rw [hafter]
    exact step.header_advances.frame pos hout

theorem placed_of_copy (data : Memory)
    (hafter : step.after = (asn1CopyString step.header data step.call.payload).1)
    (hok : (asn1CopyString step.header data step.call.payload).2 = .ok ())
    (htight : step.header.Tight)
    (hpayload : step.call.payload ≠ 0 → step.before.bitOffset < step.header.bitOffset
      ∧ step.header.bitOffset % 8 = step.before.bitOffset % 8)
    (hwrites : step.before.bitOffset < step.header.bitOffset ↔ step.Writes) : step.Placed := by
  obtain ⟨hfits, hcopy⟩ := asn1CopyString_ok hok
  rw [hcopy] at hafter
  have hsize := htight.size_eq
  refine ⟨hsize, ?_, ⟨?_, ?_⟩, hpayload, hwrites, fun pos hpos => ?_⟩
  · rw [hafter]
    dsimp only
    omega
  · rw [hafter]
    dsimp only
    omega
  · rw [hafter]
    dsimp only
    omega
  · have hout : pos < step.before.bitOffset ∨ step.header.bitOffset ≤ pos := by
      by_contra hin
      exact hpos (.inl (by omega))
    have hout' : pos < 8 * step.header.size ∨ 8 * (step.header.size + step.call.payload) ≤ pos := by
      by_contra hin
      exact hpos (.inr (by omega))
    rw [hafter]
    dsimp only
    rw [bitAt_copy_of_not_mem data hout', step.header_advances.frame pos hout]

theorem placed_bits {value : Word} {numBits : Nat} {buf : Asn1Buffer} (h : buf.Tight)
    (hok : (asn1EncodeBits buf value numBits).2 = .ok ()) :
    (asn1EncodeBits buf value numBits).1.Tight
      ∧ (buf.bitOffset < (asn1EncodeBits buf value numBits).1.bitOffset
        ↔ numBits ≠ 0 ∧ buf.bitOffset < 8 * buf.capacity) := by
  have hadvances := asn1EncodeBits_advances buf value numBits
  have hinside := hadvances.inside h.inside
  have hbits : numBits ≤ 32 := by
    by_contra hmany
    rw [asn1EncodeBits, if_pos (Nat.lt_of_not_le hmany)] at hok
    cases hok
  rcases asn1EncodeBits_cases buf value hbits with ⟨-, hoffset, hsize⟩ | ⟨herror, -⟩
  · refine ⟨⟨by rw [hsize, hoffset], by rw [hadvances.capacity]; exact hinside⟩, ?_⟩
    omega
  · rw [herror] at hok
    cases hok

theorem placed_length {buf : Asn1Buffer} (h : buf.Tight) {len : Nat}
    (hok : (asn1EncodeLength buf len).2 = .ok ()) :
    (asn1EncodeLength buf len).1.Tight
      ∧ (buf.bitOffset < (asn1EncodeLength buf len).1.bitOffset
        ↔ True ∧ buf.bitOffset < 8 * buf.capacity) := by
  rcases asn1EncodeLength_lengthOutcome h len with ⟨-, hwritten⟩ | ⟨herror, -⟩
  · have hlt := hwritten.bitOffset_lt
    have hinside := hwritten.tight.inside
    rw [(asn1EncodeLength_advances buf len).capacity] at hinside
    exact ⟨hwritten.tight, iff_of_true hlt ⟨trivial, Nat.lt_of_lt_of_le hlt hinside⟩⟩
  · exact absurd hok herror

/-- Copying succeeds behind a length determinant that has failed only if there is nothing to copy. -/
theorem placed_string {buf : Asn1Buffer} (h : buf.Tight) {data : Memory} {len : Nat}
    (hok : (asn1CopyString (asn1EncodeLength buf len).1 data len).2 = .ok ()) :
    (asn1EncodeLength buf len).1.Tight
      ∧ (len ≠ 0 → buf.bitOffset < (asn1EncodeLength buf len).1.bitOffset
        ∧ (asn1EncodeLength buf len).1.bitOffset % 8 = buf.bitOffset % 8)
      ∧ (buf.bitOffset < (asn1EncodeLength buf len).1.bitOffset
        ↔ buf.bitOffset < 8 * buf.capacity) := by
  have hfits := (asn1CopyString_ok hok).1
  have hcapacity := (asn1EncodeLength_advances buf len).capacity
  rw [hcapacity] at hfits
  rcases asn1EncodeLength_lengthOutcome h len with ⟨-, hwritten⟩ | ⟨-, hend, hfull⟩
  · have hlt := hwritten.bitOffset_lt
    have hinside := hwritten.tight.inside
    rw [hcapacity] at hinside
    exact ⟨hwritten.tight, fun _ => ⟨hlt, hwritten.mod_eq⟩,
      iff_of_true hlt (Nat.lt_of_lt_of_le hlt hinside)⟩
  · refine ⟨⟨by omega, ?_⟩, fun hne => ?_, ?_⟩
    · rw [hend, hcapacity]
    · omega
    · rw [hend]

theorem placed (h : step.before.Tight) (hok : step.Succeeds) : step.Placed := by
  obtain ⟨call, buf⟩ := step
  have hbuf : buf.Tight := h
  cases call with
  | bits value numBits =>
      obtain ⟨htight, hwrites⟩ := placed_bits hbuf hok
      exact placed_of_header rfl rfl htight hwrites
  | boolean value =>
      obtain ⟨htight, hwrites⟩ := placed_bits hbuf hok
      refine placed_of_header rfl rfl htight (hwrites.trans (and_congr_left fun _ => ?_))
      exact iff_of_true (Nat.succ_ne_zero 0) trivial
  | length len =>
      obtain ⟨htight, hwrites⟩ := placed_length hbuf hok
      exact placed_of_header rfl rfl htight hwrites
  | octetString data len =>
      have hencode : asn1EncodeOctetString buf data len
          = asn1CopyString (asn1EncodeLength buf len).1 data len := by
        have hok : (asn1EncodeOctetString buf data len).2 = .ok () := hok
        rw [asn1EncodeOctetString] at hok ⊢
        split at hok
        · cases hok
        · rename_i mid heq
          rw [heq]
      have hcopied : (asn1CopyString (asn1EncodeLength buf len).1 data len).2 = .ok () :=
        hencode ▸ hok
      obtain ⟨htight, hbehind, hwrites⟩ := placed_string hbuf hcopied
      refine placed_of_copy data (congrArg Prod.fst hencode) hcopied htight hbehind ?_
      exact hwrites.trans (and_iff_right trivial).symm
  | bitString data numBits hasConstraint fixedSize =>
      by_cases hfixed : hasConstraint ∧ fixedSize > 0
      · obtain ⟨htight, hwrites⟩ := asn1FixedBitsLoop_tight data numBits 0 hbuf
        have hheader : Asn1Step.header ⟨.bitString data numBits hasConstraint fixedSize, buf⟩
            = asn1FixedBitsLoop data numBits 0 buf := if_pos hfixed
        have hencode : asn1EncodeBitString buf data numBits hasConstraint fixedSize
            = (asn1FixedBitsLoop data numBits 0 buf, .ok ()) := if_pos hfixed
        refine placed_of_header (if_pos hfixed) ?_ (hheader ▸ htight) ?_
        · rw [hheader]
          exact congrArg Prod.fst hencode
        · rw [hheader]
          refine hwrites.trans (and_congr_left fun _ => ?_)
          exact ⟨fun hne _ => hne, fun hbits => hbits hfixed⟩
      · have hheader : Asn1Step.header ⟨.bitString data numBits hasConstraint fixedSize, buf⟩
            = (asn1EncodeLength buf ((numBits + 7) / 8)).1 := if_neg hfixed
        have hpayload : Asn1Call.payload (.bitString data numBits hasConstraint fixedSize)
            = (numBits + 7) / 8 := if_neg hfixed
        have hencode : asn1EncodeBitString buf data numBits hasConstraint fixedSize
            = asn1CopyString (asn1EncodeLength buf ((numBits + 7) / 8)).1 data ((numBits + 7) / 8) :=
          if_neg hfixed
        have hcopied : (asn1CopyString (asn1EncodeLength buf ((numBits + 7) / 8)).1 data
            ((numBits + 7) / 8)).2 = .ok () := hencode ▸ hok
        obtain ⟨htight, hbehind, hwrites⟩ := placed_string hbuf hcopied
        apply placed_of_copy data
        · rw [hheader, hpayload]
          exact congrArg Prod.fst hencode
        · rw [hheader, hpayload]
          exact hcopied
        · rw [hheader]
          exact htight
        · rw [hheader, hpayload]
          exact hbehind
        · rw [hheader]
          exact hwrites.trans (and_iff_right fun hyes => absurd hyes hfixed).symm

theorem Placed.isExtent (h : step.Placed) :
    IsExtent step.before.bitOffset step.after.bitOffset step.region := by
  have hle := step.header_advances.bitOffset_le
  have hsize := h.header_size
  have hstop := h.after_bitOffset
  have hstart : step.call.payload ≠ 0 → step.before.bitOffset < step.header.bitOffset :=
    fun hne => (h.payload_behind hne).1
  refine ⟨by omega, ?_, ?_, ?_, ?_⟩
  · rintro pos (hpos | hpos)
    · exact hpos.1
    · omega
  · rintro ⟨pos, hpos | hpos⟩
    · exact .inl ⟨Nat.le_refl _, by omega⟩
    · exact .inl ⟨Nat.le_refl _, hstart (by omega)⟩
  · intro hempty
    have hnone : step.before.bitOffset ∉ step.region := hempty ▸ Set.notMem_empty _
    have hbits : ¬step.before.bitOffset < step.header.bitOffset := fun hlt =>
      hnone (.inl ⟨Nat.le_refl _, hlt⟩)
    omega
  · rintro hout pos (hpos | hpos)
    · omega
    · by_contra hbehind
      exact hout (.inr (by omega))

theorem Placed.stop_mem_iff (h : step.Placed) :
    step.after.bitOffset ∈ step.region ↔ step.CopiesUnaligned := by
  have hsize := h.header_size
  have hstop := h.after_bitOffset
  constructor
  · rintro (hpos | hpos)
    · omega
    · have hne : step.call.payload ≠ 0 := by omega
      obtain ⟨-, hmod⟩ := h.payload_behind hne
      exact ⟨hne, by omega⟩
  · rintro ⟨hne, hunaligned⟩
    obtain ⟨-, hmod⟩ := h.payload_behind hne
    exact .inr (by omega)

theorem Placed.region_eq_empty_iff (h : step.Placed) : step.region = ∅ ↔ ¬step.Writes := by
  rw [← h.writes, ← Set.not_nonempty_iff_eq_empty, not_iff_not]
  constructor
  · rintro ⟨pos, hpos | hpos⟩
    · omega
    · exact (h.payload_behind (by omega)).1
  · exact fun hlt => ⟨_, .inl ⟨Nat.le_refl _, hlt⟩⟩

/-- No bit before the `bit_offset` at which the call started has changed. -/
def KeepsEarlier (step : Asn1Step) : Prop :=
  ∀ pos < step.before.bitOffset, bitAt step.after.data pos = bitAt step.before.data pos

theorem Placed.keepsEarlier (h : step.Placed) : step.KeepsEarlier := fun pos hpos =>
  h.frame pos fun hmem => Nat.not_lt.mpr (h.isExtent.start_le pos hmem) hpos

end Asn1Step

/-! ### Runs -/

theorem asn1Steps_chain (calls : List Asn1Call) (buf : Asn1Buffer) :
    (asn1Steps calls buf).IsChain fun a b => a.after.bitOffset = b.before.bitOffset := by
  induction calls generalizing buf with
  | nil => exact .nil
  | cons call calls ih =>
      cases calls with
      | nil => exact .singleton _
      | cons next rest => exact .cons_cons rfl (ih _)

theorem asn1Steps_placed (calls : List Asn1Call) {buf : Asn1Buffer} (h : buf.Tight)
    (hok : ∀ step ∈ asn1Steps calls buf, step.Succeeds) :
    ∀ step ∈ asn1Steps calls buf, step.Placed := by
  induction calls generalizing buf with
  | nil => exact fun step hstep => absurd hstep List.not_mem_nil
  | cons call calls ih =>
      have hfirst : Asn1Step.Placed ⟨call, buf⟩ := Asn1Step.placed h (hok _ List.mem_cons_self)
      intro step hstep
      rcases List.mem_cons.mp hstep with rfl | hrest
      · exact hfirst
      · exact ih hfirst.after_tight (fun step hstep => hok step (List.mem_cons_of_mem _ hstep)) step
          hrest

/-- **Calls that succeed leave what was written before alone, and their bits are different ones exactly
when none writes behind a string that was copied from inside of a byte.** -/
theorem asn1Steps_disjoint_iff {data : Memory} {capacity : Nat} {buf : Asn1Buffer}
    (hinit : asn1BufferInit data capacity = .ok buf) (calls : List Asn1Call)
    (hok : ∀ step ∈ asn1Steps calls buf, step.Succeeds) :
    ((∀ step ∈ asn1Steps calls buf, step.KeepsEarlier)
        ∧ (asn1Steps calls buf).Pairwise fun a b => Disjoint a.region b.region)
      ↔ (asn1Steps calls buf).Pairwise fun a b => a.CopiesUnaligned → ¬b.Writes := by
  obtain ⟨-, hbuf⟩ := asn1BufferInit_eq_ok.mp hinit
  have htight : buf.Tight := by
    rw [hbuf]
    exact ⟨by simp, Nat.zero_le _⟩
  have hplaced := asn1Steps_placed calls htight hok
  rw [and_iff_right fun step hstep => (hplaced step hstep).keepsEarlier,
    pairwise_disjoint_iff (fun step hstep => (hplaced step hstep).isExtent)
      (asn1Steps_chain calls buf)]
  constructor
  · intro hpairs
    refine hpairs.imp_of_mem fun {a b} ha hb hempty hcopies => ?_
    rw [← (hplaced b hb).region_eq_empty_iff]
    exact hempty ((hplaced a ha).stop_mem_iff.mpr hcopies)
  · intro hpairs
    refine hpairs.imp_of_mem fun {a b} ha hb hnone hstop => ?_
    rw [(hplaced b hb).region_eq_empty_iff]
    exact hnone ((hplaced a ha).stop_mem_iff.mp hstop)

/-- Eight bits and then a string of one byte: it ends with its byte, and a truth value follows. -/
theorem asn1Steps_disjoint_aligned :
    (asn1Steps [.bits 5 8, .octetString (ofBytes [0xFF]) 1, .boolean true]
        { data := zeros, size := 0, capacity := 8, bitOffset := 0 }).Pairwise
      fun a b => Disjoint a.region b.region :=
  ((asn1Steps_disjoint_iff (asn1BufferInit_eq_ok.mpr ⟨by decide, rfl⟩)
    [.bits 5 8, .octetString (ofBytes [0xFF]) 1, .boolean true]
    (by decide)).mpr (by decide)).2

/-- After a truth value, the byte of a string is at bits 16 to 23, and the next truth value is bit 17. -/
theorem asn1Steps_not_disjoint :
    ∃ buf calls, asn1BufferInit zeros 8 = .ok buf
      ∧ (∀ step ∈ asn1Steps calls buf, step.Succeeds)
      ∧ ¬(asn1Steps calls buf).Pairwise fun a b => Disjoint a.region b.region := by
  refine ⟨_, [.boolean true, .octetString zeros 1, .boolean true],
    asn1BufferInit_eq_ok.mpr ⟨by decide, rfl⟩, by decide, fun hpairs => ?_⟩
  have hrest := (List.pairwise_cons.mp hpairs).2
  have hdisjoint := (List.pairwise_cons.mp hrest).1 _ List.mem_cons_self
  rw [Set.disjoint_left] at hdisjoint
  exact @hdisjoint 17 (.inr (by decide)) (.inl (by decide))

end Uesim
