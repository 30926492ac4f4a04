import Uesim.Library.Bytes

/-!
# Memory bit by bit

Bytes from a pointer on, and their bits counted through all of them with the most significant bit of a
byte first. Code that packs fields writes single bits by exclusive bytes of its own, and whole strings
by copying; both are described by the bits they leave.
-/

namespace BitMemory

open Bytes

/-- The bytes from a pointer on. -/
abbrev Memory := Nat → Byte

def zeros : Memory := fun _ => 0

/-- The memory that begins with these bytes. -/
def ofBytes (bytes : List Byte) : Memory := fun i => bytes.getD i 0

def bitAt (mem : Memory) (pos : Nat) : Bool := (mem (pos / 8)).getLsbD (7 - pos % 8)

def orByte (mem : Memory) (i : Nat) (byte : Byte) : Memory := Function.update mem i (mem i ||| byte)

/-- Set the bit at `pos`. -/
def setBit (mem : Memory) (pos : Nat) : Memory := orByte mem (pos / 8) ((1 : Byte) <<< (7 - pos % 8))

/-- Clear the bit at `pos`. -/
def clearBit (mem : Memory) (pos : Nat) : Memory :=
  Function.update mem (pos / 8) (mem (pos / 8) &&& ~~~((1 : Byte) <<< (7 - pos % 8)))

/-- Copy bytes to `start`. -/
def copy (mem : Memory) (start : Nat) (src : Memory) (len : Nat) : Memory := fun i =>
  if start ≤ i ∧ i < start + len then src (i - start) else mem i

@[simp]
theorem bitAt_zeros (pos : Nat) : bitAt zeros pos = false := by
  simp [bitAt, zeros]

theorem orByte_of_ne {mem : Memory} {i j : Nat} (h : j ≠ i) (byte : Byte) :
    orByte mem i byte j = mem j :=
  Function.update_of_ne h _ _

theorem orByte_self (mem : Memory) (i : Nat) (byte : Byte) :
    orByte mem i byte i = mem i ||| byte :=
  Function.update_self _ _ _

theorem setBit_of_ne {mem : Memory} {pos i : Nat} (h : i ≠ pos / 8) : setBit mem pos i = mem i :=
  orByte_of_ne h _

theorem clearBit_of_ne {mem : Memory} {pos i : Nat} (h : i ≠ pos / 8) : clearBit mem pos i = mem i :=
  Function.update_of_ne h _ _

theorem memory_ext {mem mem' : Memory} {i : Nat}
    (h : ∀ k < 8, bitAt mem (8 * i + k) = bitAt mem' (8 * i + k)) : mem i = mem' i := by
  apply BitVec.eq_of_getLsbD_eq
  intro bit hbit
  have hpos := h (7 - bit) (by omega)
  have hdiv : (8 * i + (7 - bit)) / 8 = i := by omega
  have hmod : 7 - (8 * i + (7 - bit)) % 8 = bit := by omega
  simpa only [bitAt, hdiv, hmod] using hpos

theorem forall_bitAt_eq_iff {mem mem' : Memory} {len : Nat} :
    (∀ i < 8 * len, bitAt mem i = bitAt mem' i) ↔ ∀ i < len, mem i = mem' i := by
  constructor
  · intro h i hi
    exact memory_ext fun k hk => h (8 * i + k) (by omega)
  · intro h i hi
    rw [bitAt, bitAt, h (i / 8) (by omega)]

theorem bitAt_setBit (mem : Memory) (pos q : Nat) :
    bitAt (setBit mem pos) q = (bitAt mem q || decide (q = pos)) := by
  unfold setBit bitAt
  by_cases hbyte : q / 8 = pos / 8
  · have hbit : ((1 : Byte) <<< (7 - pos % 8)).getLsbD (7 - q % 8) = decide (q = pos) := by
      have hlt : 7 - pos % 8 < 8 := by omega
      have hiff : 7 - pos % 8 = 7 - q % 8 ↔ q = pos := by omega
      calc ((1 : Byte) <<< (7 - pos % 8)).getLsbD (7 - q % 8)
          = (BitVec.twoPow 8 (7 - pos % 8)).getLsbD (7 - q % 8) := rfl
        _ = (decide (7 - pos % 8 < 8) && decide (7 - pos % 8 = 7 - q % 8)) :=
            BitVec.getLsbD_twoPow _ _
        _ = decide (q = pos) := by simp [hlt, hiff]
    rw [hbyte, orByte_self, BitVec.getLsbD_or, hbit]
  · have hne : q ≠ pos := fun h => hbyte (congrArg (· / 8) h)
    rw [orByte_of_ne hbyte]
    simp [hne]

theorem copy_of_mem {mem : Memory} {start len i : Nat} (src : Memory) (hlow : start ≤ i)
    (hhigh : i < start + len) : copy mem start src len i = src (i - start) :=
  if_pos ⟨hlow, hhigh⟩

theorem copy_of_not_mem {mem : Memory} {start len i : Nat} (src : Memory)
    (h : i < start ∨ start + len ≤ i) : copy mem start src len i = mem i := by
  apply if_neg
  omega

theorem bitAt_copy_of_not_mem {mem : Memory} {start len pos : Nat} (src : Memory)
    (h : pos < 8 * start ∨ 8 * (start + len) ≤ pos) :
    bitAt (copy mem start src len) pos = bitAt mem pos := by
  rw [bitAt, copy_of_not_mem src (by omega)]
  rfl

theorem bitAt_copy_of_mem {mem : Memory} {start len i : Nat} (src : Memory) (h : i < 8 * len) :
    bitAt (copy mem start src len) (8 * start + i) = bitAt src i := by
  have hdiv : (8 * start + i) / 8 = start + i / 8 := by omega
  have hmod : (8 * start + i) % 8 = i % 8 := by omega
  rw [bitAt, hdiv, hmod, copy_of_mem src (Nat.le_add_right _ _) (by omega), Nat.add_sub_cancel_left]
  rfl

/-- The bits of the bytes from `start` on. -/
theorem bitAt_shift (mem : Memory) (start i : Nat) :
    bitAt (fun j => mem (start + j)) i = bitAt mem (8 * start + i) := by
  have hdiv : (8 * start + i) / 8 = start + i / 8 := by omega
  have hmod : (8 * start + i) % 8 = i % 8 := by omega
  rw [bitAt, bitAt, hdiv, hmod]

end BitMemory
