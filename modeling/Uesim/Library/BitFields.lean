import Uesim.Library.BitMemory

/-!
# Bit fields in memory

A number is written at a bit position with its most significant bit first, by setting bits of memory that
is blank from there on, and read back bit by bit. A field is its position and its width; what it covers
is all that it reads and writes.
-/

namespace BitMemory

open Bytes

variable {w : Nat}

/-- Write the low `width` bits of `value` from `pos` on. Bits that are clear are left alone. -/
def writeBits (mem : Memory) (pos : Nat) (value : BitVec w) : Nat → Memory
  | 0 => mem
  | i + 1 => writeBits (if value.getLsbD i then setBit mem pos else mem) (pos + 1) value i

/-- Read `width` bits from `pos` on into what `acc` holds. -/
def readBits (mem : Memory) (pos : Nat) (acc : BitVec w) : Nat → BitVec w
  | 0 => acc
  | i + 1 => readBits mem (pos + 1) (if bitAt mem pos then acc ||| BitVec.twoPow w i else acc) i

/-- No bit is set from `pos` up to `limit`. -/
def Blank (mem : Memory) (pos limit : Nat) : Prop := ∀ q, pos ≤ q → q < limit → bitAt mem q = false

theorem blank_of_bytes {mem : Memory} {len : Nat} (h : ∀ i < len, mem i = 0) :
    Blank mem 0 (8 * len) := by
  intro q _ hq
  simp [bitAt, h (q / 8) (by omega)]

theorem bitAt_writeBits (mem : Memory) (pos : Nat) (value : BitVec w) (width q : Nat) :
    bitAt (writeBits mem pos value width) q
      = (bitAt mem q
          || (decide (pos ≤ q ∧ q < pos + width) && value.getLsbD (pos + width - 1 - q))) := by
  induction width generalizing mem pos with
  | zero => simp [writeBits]
  | succ i ih =>
      have hfirst : bitAt (if value.getLsbD i then setBit mem pos else mem) q
          = (bitAt mem q || (decide (q = pos) && value.getLsbD i)) := by
        cases value.getLsbD i with
        | true => simp [bitAt_setBit]
        | false => simp
      rw [writeBits, ih, hfirst, Bool.or_assoc]
      congr 1
      by_cases heq : q = pos
      · subst heq
        simp
      · have hplace : pos + 1 + i - 1 - q = pos + (i + 1) - 1 - q := by omega
        have hiff : pos + 1 ≤ q ∧ q < pos + 1 + i ↔ pos ≤ q ∧ q < pos + (i + 1) := by omega
        simp only [heq, hplace, hiff, decide_false, Bool.false_and, Bool.false_or]

theorem bitAt_writeBits_of_not_mem {mem : Memory} {pos width q : Nat} (value : BitVec w)
    (h : q < pos ∨ pos + width ≤ q) : bitAt (writeBits mem pos value width) q = bitAt mem q := by
  have hout : ¬(pos ≤ q ∧ q < pos + width) := by omega
  simp [bitAt_writeBits, hout]

theorem bitAt_writeBits_of_blank {mem : Memory} {pos width limit : Nat}
    (hblank : Blank mem pos limit) (hroom : pos + width ≤ limit) (value : BitVec w) {i : Nat}
    (hi : i < width) :
    bitAt (writeBits mem pos value width) (pos + width - 1 - i) = value.getLsbD i := by
  have hin : pos ≤ pos + width - 1 - i ∧ pos + width - 1 - i < pos + width := by omega
  have hplace : pos + width - 1 - (pos + width - 1 - i) = i := by omega
  rw [bitAt_writeBits, hblank _ hin.1 (by omega), hplace]
  simp [hin]

theorem Blank.writeBits {mem : Memory} {pos limit : Nat} (h : Blank mem pos limit)
    (value : BitVec w) (width : Nat) :
    Blank (writeBits mem pos value width) (pos + width) limit := by
  intro q hq hlimit
  rw [bitAt_writeBits_of_not_mem value (Or.inr hq)]
  exact h q (by omega) hlimit

theorem getLsbD_readBits (mem : Memory) (pos : Nat) (acc : BitVec w) (width i : Nat) :
    (readBits mem pos acc width).getLsbD i
      = (acc.getLsbD i || (decide (i < width ∧ i < w) && bitAt mem (pos + width - 1 - i))) := by
  induction width generalizing pos acc with
  | zero => simp [readBits]
  | succ j ih =>
      have hfirst : (if bitAt mem pos then acc ||| BitVec.twoPow w j else acc).getLsbD i
          = (acc.getLsbD i || (decide (j = i ∧ j < w) && bitAt mem pos)) := by
        cases bitAt mem pos with
        | true => simp [BitVec.getLsbD_twoPow, Bool.and_comm]
        | false => simp
      rw [readBits, ih, hfirst, Bool.or_assoc]
      congr 1
      by_cases heq : j = i
      · have hplace : pos + (j + 1) - 1 - i = pos := by omega
        have hout : ¬(i < j ∧ i < w) := by omega
        have hin : (i < j + 1 ∧ i < w) ↔ (j = i ∧ j < w) := by omega
        simp only [hout, hplace, hin, decide_false, Bool.false_and, Bool.or_false]
      · have hplace : pos + 1 + j - 1 - i = pos + (j + 1) - 1 - i := by omega
        have hiff : (i < j ∧ i < w) ↔ (i < j + 1 ∧ i < w) := by omega
        simp only [heq, hplace, hiff, false_and, decide_false, Bool.false_and, Bool.false_or]

theorem readBits_congr {mem mem' : Memory} {pos width : Nat} (acc : BitVec w)
    (h : ∀ q, pos ≤ q → q < pos + width → bitAt mem q = bitAt mem' q) :
    readBits mem pos acc width = readBits mem' pos acc width := by
  apply BitVec.eq_of_getLsbD_eq
  intro i hi
  rw [getLsbD_readBits, getLsbD_readBits]
  by_cases hin : i < width ∧ i < w
  · rw [h _ (by omega) (by omega)]
  · simp [hin]

/-- **A field reads back the low bits of what was written to it.** -/
theorem getLsbD_readBits_writeBits {mem : Memory} {pos width limit : Nat}
    (hblank : Blank mem pos limit) (hroom : pos + width ≤ limit) (value : BitVec w) (i : Nat) :
    (readBits (writeBits mem pos value width) pos (0 : BitVec w) width).getLsbD i
      = (decide (i < width) && value.getLsbD i) := by
  rw [getLsbD_readBits]
  by_cases hw : i < w
  · by_cases hwidth : i < width
    · rw [bitAt_writeBits_of_blank hblank hroom value hwidth]
      simp [hw, hwidth]
    · simp [hwidth]
  · simp [hw, BitVec.getLsbD_of_ge value i (Nat.le_of_not_lt hw)]

theorem readBits_writeBits {mem : Memory} {pos width limit : Nat} (hblank : Blank mem pos limit)
    (hroom : pos + width ≤ limit) {value : BitVec w} (hvalue : value.toNat < 2 ^ width) :
    readBits (writeBits mem pos value width) pos 0 width = value := by
  apply BitVec.eq_of_getLsbD_eq
  intro i hi
  rw [getLsbD_readBits_writeBits hblank hroom]
  by_cases hwidth : i < width
  · simp [hwidth]
  · have hclear : value.getLsbD i = false := by
      apply Nat.testBit_lt_two_pow
      exact Nat.lt_of_lt_of_le hvalue (Nat.pow_le_pow_right (by omega) (Nat.le_of_not_lt hwidth))
    simp [hwidth, hclear]

/-- What does not fit into a field is lost. -/
theorem toNat_readBits_writeBits {mem : Memory} {pos width limit : Nat} (hblank : Blank mem pos limit)
    (hroom : pos + width ≤ limit) (value : BitVec w) :
    (readBits (writeBits mem pos value width) pos (0 : BitVec w) width).toNat = value.toNat % 2 ^ width := by
  apply Nat.eq_of_testBit_eq
  intro i
  rw [BitVec.testBit_toNat, getLsbD_readBits_writeBits hblank hroom, Nat.testBit_mod_two_pow,
    BitVec.testBit_toNat]

theorem toNat_readBits_lt (mem : Memory) (pos width : Nat) :
    (readBits mem pos (0 : BitVec w) width).toNat < 2 ^ width := by
  apply Nat.lt_pow_two_of_testBit
  intro i hi
  have hout : ¬(i < width ∧ i < w) := by omega
  rw [BitVec.testBit_toNat, getLsbD_readBits]
  simp [hout]

/-! ### The integers that fields spell -/

/-- The integer that `width` bits from `pos` on spell, the first of them the highest. -/
def integerAt (mem : Memory) (pos : Nat) : Nat → Nat
  | 0 => 0
  | i + 1 => 2 ^ i * (bitAt mem pos).toNat + integerAt mem (pos + 1) i

theorem integerAt_lt (mem : Memory) (pos width : Nat) : integerAt mem pos width < 2 ^ width := by
  induction width generalizing pos with
  | zero => exact Nat.one_pos
  | succ i ih =>
      have hrest := ih (pos + 1)
      rw [integerAt, Nat.pow_succ]
      cases bitAt mem pos with
      | false =>
          rw [Bool.toNat_false, Nat.mul_zero]
          omega
      | true =>
          rw [Bool.toNat_true, Nat.mul_one]
          omega

theorem testBit_integerAt (mem : Memory) (pos width i : Nat) :
    (integerAt mem pos width).testBit i = (decide (i < width) && bitAt mem (pos + width - 1 - i)) := by
  induction width generalizing pos with
  | zero => simp [integerAt]
  | succ j ih =>
      rw [integerAt, Nat.testBit_two_pow_mul_add _ (integerAt_lt mem (pos + 1) j)]
      rcases Nat.lt_trichotomy i j with hlow | rfl | hhigh
      · have hplace : pos + 1 + j - 1 - i = pos + (j + 1) - 1 - i := by omega
        rw [if_pos hlow, ih, hplace]
        simp [hlow, Nat.lt_succ_of_lt hlow]
      · have hplace : pos + (i + 1) - 1 - i = pos := by omega
        rw [if_neg (Nat.lt_irrefl i), Nat.sub_self, hplace]
        cases bitAt mem pos <;> simp
      · have hout : ¬i < j + 1 := by omega
        have hsmall : (bitAt mem pos).toNat < 2 ^ (i - j) :=
          Nat.lt_of_lt_of_le (Bool.toNat_lt _) (Nat.le_self_pow (by omega) 2)
        rw [if_neg (Nat.lt_asymm hhigh), Nat.testBit_lt_two_pow hsmall]
        simp [hout]

/-- A field that falls into two spells the integer that they spell together. -/
theorem integerAt_add (mem : Memory) (pos high low : Nat) :
    integerAt mem pos (high + low) = 2 ^ low * integerAt mem pos high + integerAt mem (pos + high) low := by
  apply Nat.eq_of_testBit_eq
  intro i
  rw [Nat.testBit_two_pow_mul_add _ (integerAt_lt mem (pos + high) low), testBit_integerAt]
  by_cases hlow : i < low
  · have hplace : pos + (high + low) - 1 - i = pos + high + low - 1 - i := by omega
    have hin : i < high + low := by omega
    rw [if_pos hlow, testBit_integerAt, hplace]
    simp [hlow, hin]
  · have hplace : pos + (high + low) - 1 - i = pos + high - 1 - (i - low) := by omega
    have hiff : i < high + low ↔ i - low < high := by omega
    rw [if_neg hlow, testBit_integerAt, hplace]
    simp [hiff]

theorem toNat_readBits (mem : Memory) (pos : Nat) {width : Nat} (h : width ≤ w) :
    (readBits mem pos (0 : BitVec w) width).toNat = integerAt mem pos width := by
  apply Nat.eq_of_testBit_eq
  intro i
  have hiff : (i < width ∧ i < w) ↔ i < width := by omega
  rw [BitVec.testBit_toNat, getLsbD_readBits, testBit_integerAt]
  simp [hiff]

/-! ### Fields next to one another -/

theorem memory_eq {mem mem' : Memory} (h : ∀ q, bitAt mem q = bitAt mem' q) : mem = mem' := by
  funext i
  exact memory_ext fun k _ => h (8 * i + k)

theorem writeBits_append (mem : Memory) (pos : Nat) {a b c : BitVec w} {widthA widthB : Nat}
    (ha : ∀ i < widthA, c.getLsbD (widthB + i) = a.getLsbD i)
    (hb : ∀ i < widthB, c.getLsbD i = b.getLsbD i) :
    writeBits (writeBits mem pos a widthA) (pos + widthA) b widthB
      = writeBits mem pos c (widthA + widthB) := by
  apply memory_eq
  intro q
  simp only [bitAt_writeBits, Bool.or_assoc]
  congr 1
  by_cases hlow : q < pos + widthA
  · by_cases hin : pos ≤ q
    · have hplace : pos + (widthA + widthB) - 1 - q = widthB + (pos + widthA - 1 - q) := by omega
      rw [hplace, ha _ (by omega)]
      have hsecond : ¬pos + widthA ≤ q := by omega
      have hboth : q < pos + (widthA + widthB) := by omega
      simp [hin, hlow, hsecond, hboth]
    · have hsecond : ¬pos + widthA ≤ q := by omega
      simp [hin, hsecond]
  · by_cases hin : q < pos + (widthA + widthB)
    · have hplace : pos + (widthA + widthB) - 1 - q = pos + widthA + widthB - 1 - q := by omega
      rw [hplace, hb _ (by omega)]
      have hfirst : pos ≤ q := by omega
      have hsecond : pos + widthA ≤ q ∧ q < pos + widthA + widthB := by omega
      simp [hlow, hin, hfirst, hsecond]
    · have hsecond : ¬q < pos + widthA + widthB := by omega
      simp [hlow, hin, hsecond]

/-- Clear bits behind a field belong to a wider one. -/
theorem writeBits_shiftLeft (mem : Memory) (pos : Nat) (value : BitVec w) {width pad : Nat}
    (h : width + pad ≤ w) :
    writeBits mem pos (value <<< pad) (width + pad) = writeBits mem pos value width := by
  apply memory_eq
  intro q
  rw [bitAt_writeBits, bitAt_writeBits]
  congr 1
  rw [BitVec.getLsbD_shiftLeft]
  by_cases hin : pos ≤ q ∧ q < pos + width
  · have hwide : pos ≤ q ∧ q < pos + (width + pad) := by omega
    have hlt : pos + (width + pad) - 1 - q < w := by omega
    have hpad : ¬pos + (width + pad) - 1 - q < pad := by omega
    have hplace : pos + (width + pad) - 1 - q - pad = pos + width - 1 - q := by omega
    simp [hin, hwide, hlt, hpad, hplace]
  · by_cases hwide : pos ≤ q ∧ q < pos + (width + pad)
    · have hpad : pos + (width + pad) - 1 - q < pad := by omega
      simp [hin, hpad]
    · simp [hin, hwide]

/-- A byte inside of a field on blank memory is a byte of its value. -/
theorem writeBits_byte {mem : Memory} {pos width limit : Nat} (hblank : Blank mem pos limit)
    (hroom : pos + width ≤ limit) (value : BitVec w) {i : Nat} (hlow : pos ≤ 8 * i)
    (hhigh : 8 * i + 8 ≤ pos + width) :
    writeBits mem pos value width i = value.extractLsb' (pos + width - 8 * i - 8) 8 := by
  apply BitVec.eq_of_getLsbD_eq
  intro bit hbit
  have hplace : 8 * i + (7 - bit) = pos + width - 1 - (pos + width - 8 * i - 8 + bit) := by omega
  have hdiv : (8 * i + (7 - bit)) / 8 = i := by omega
  have hmod : 7 - (8 * i + (7 - bit)) % 8 = bit := by omega
  have hfield := bitAt_writeBits_of_blank hblank hroom value
    (show pos + width - 8 * i - 8 + bit < width by omega)
  rw [← hplace, bitAt, hdiv, hmod] at hfield
  rw [hfield, BitVec.getLsbD_extractLsb']
  simp [hbit]

/-- Write fields one behind the other, each with its width. -/
def writeFields (mem : Memory) (pos : Nat) : List (BitVec w × Nat) → Memory
  | [] => mem
  | (value, width) :: fields => writeFields (writeBits mem pos value width) (pos + width) fields

def readFields (mem : Memory) (pos : Nat) : List Nat → List (BitVec w)
  | [] => []
  | width :: widths => readBits mem pos 0 width :: readFields mem (pos + width) widths

def fieldsWidth (fields : List (BitVec w × Nat)) : Nat := (fields.map (·.2)).sum

@[simp]
theorem fieldsWidth_cons (field : BitVec w × Nat) (fields : List (BitVec w × Nat)) :
    fieldsWidth (field :: fields) = field.2 + fieldsWidth fields := rfl

theorem bitAt_writeFields_of_not_mem {mem : Memory} {pos q : Nat} (fields : List (BitVec w × Nat))
    (h : q < pos ∨ pos + fieldsWidth fields ≤ q) :
    bitAt (writeFields mem pos fields) q = bitAt mem q := by
  induction fields generalizing mem pos with
  | nil => rfl
  | cons field fields ih =>
      rw [fieldsWidth_cons] at h
      rw [writeFields, ih (by omega), bitAt_writeBits_of_not_mem _ (by omega)]

theorem Blank.writeFields {mem : Memory} {pos limit : Nat} (h : Blank mem pos limit)
    (fields : List (BitVec w × Nat)) :
    Blank (writeFields mem pos fields) (pos + fieldsWidth fields) limit := by
  intro q hq hlimit
  rw [bitAt_writeFields_of_not_mem fields (Or.inr hq)]
  exact h q (by omega) hlimit

/-- **Fields written one behind the other are read back.** -/
theorem readFields_writeFields {mem : Memory} {pos limit : Nat} (hblank : Blank mem pos limit)
    {fields : List (BitVec w × Nat)} (hroom : pos + fieldsWidth fields ≤ limit)
    (hvalues : ∀ field ∈ fields, field.1.toNat < 2 ^ field.2) :
    readFields (writeFields mem pos fields) pos (fields.map (·.2)) = fields.map (·.1) := by
  induction fields generalizing mem pos with
  | nil => rfl
  | cons field fields ih =>
      rw [fieldsWidth_cons] at hroom
      have hrest := ih (hblank.writeBits field.1 field.2) (by omega) fun field hfield =>
        hvalues field (List.mem_cons_of_mem _ hfield)
      have hfirst : readBits (writeFields mem pos (field :: fields)) pos 0 field.2 = field.1 := by
        calc readBits (writeFields mem pos (field :: fields)) pos 0 field.2
            = readBits (writeBits mem pos field.1 field.2) pos 0 field.2 :=
              readBits_congr 0 fun q _ hq => bitAt_writeFields_of_not_mem fields (Or.inl hq)
          _ = field.1 :=
              readBits_writeBits hblank (by omega) (hvalues field List.mem_cons_self)
      rw [List.map_cons, List.map_cons, readFields, hfirst]
      exact congrArg _ hrest

/-- The bit at a place of the fields that are written one behind the other. -/
def fieldsBit : List (BitVec w × Nat) → Nat → Bool
  | [], _ => false
  | (value, width) :: fields, i =>
      if i < width then value.getLsbD (width - 1 - i) else fieldsBit fields (i - width)

theorem bitAt_writeFields {mem : Memory} {pos limit : Nat} (hblank : Blank mem pos limit)
    {fields : List (BitVec w × Nat)} (hroom : pos + fieldsWidth fields ≤ limit) {i : Nat}
    (hi : i < fieldsWidth fields) :
    bitAt (writeFields mem pos fields) (pos + i) = fieldsBit fields i := by
  induction fields generalizing mem pos i with
  | nil => exact absurd hi (Nat.not_lt_zero i)
  | cons field fields ih =>
      rw [fieldsWidth_cons] at hroom hi
      rw [writeFields, fieldsBit]
      by_cases hfirst : i < field.2
      · have hplace : pos + i = pos + field.2 - 1 - (field.2 - 1 - i) := by omega
        rw [if_pos hfirst, bitAt_writeFields_of_not_mem fields (Or.inl (by omega)), hplace]
        exact bitAt_writeBits_of_blank hblank (by omega) field.1 (by omega)
      · have hplace : pos + i = pos + field.2 + (i - field.2) := by omega
        rw [if_neg hfirst, hplace]
        exact ih (hblank.writeBits field.1 field.2) (by omega) (by omega)

theorem readFields_append (mem : Memory) (pos : Nat) (first second : List Nat) :
    (readFields mem pos (first ++ second) : List (BitVec w))
      = readFields mem pos first ++ readFields mem (pos + first.sum) second := by
  induction first generalizing pos with
  | nil => rfl
  | cons width widths ih =>
      rw [List.cons_append, readFields, readFields, ih, List.sum_cons, Nat.add_assoc, List.cons_append]

theorem readFields_replicate (mem : Memory) (pos width n : Nat) :
    (readFields mem pos (List.replicate n width) : List (BitVec w))
      = (List.range n).map fun i => readBits mem (pos + width * i) 0 width := by
  induction n generalizing pos with
  | zero => rfl
  | succ n ih =>
      have hshift : ∀ i, pos + width + width * i = pos + width * (i + 1) := by
        intro i
        rw [Nat.mul_succ]
        omega
      rw [List.replicate_succ, readFields, ih, List.range_succ_eq_map, List.map_cons, List.map_map]
      simp only [hshift, Nat.mul_zero, Nat.add_zero, Function.comp_def, Nat.succ_eq_add_one]

theorem readFields_congr {mem mem' : Memory} {pos : Nat} {widths : List Nat}
    (h : ∀ q, pos ≤ q → q < pos + widths.sum → bitAt mem q = bitAt mem' q) :
    (readFields mem pos widths : List (BitVec w)) = readFields mem' pos widths := by
  induction widths generalizing pos with
  | nil => rfl
  | cons width widths ih =>
      rw [List.sum_cons] at h
      rw [readFields, readFields, readBits_congr 0 fun q hq hq' => h q hq (by omega),
        ih fun q hq hq' => h q (by omega) (by omega)]

end BitMemory
