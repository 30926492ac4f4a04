import Uesim.Library.BitMemory

/-!
# Fields in memory

A number lies in memory with its lowest byte first. Fields that overlap, as those of the members of a union
do, show parts of what was stored last.
-/

namespace FieldMemory

open Bytes BitMemory

variable {w w' : Nat}

/-- The number of `n` bytes at `offset`. -/
def load (w : Nat) (mem : Memory) (offset : Nat) : Nat → BitVec w
  | 0 => 0
  | n + 1 => (load w mem (offset + 1) n <<< 8) ||| (mem offset).setWidth w

def store (mem : Memory) (offset : Nat) (v : BitVec w) (n : Nat) : Memory := fun i =>
  if offset ≤ i ∧ i < offset + n then (v >>> (8 * (i - offset))).setWidth 8 else mem i

def bytesAt (mem : Memory) (offset n : Nat) : List Byte := (List.range' offset n).map mem

theorem store_of_lt_or_le {mem : Memory} {offset i n : Nat} (v : BitVec w)
    (h : i < offset ∨ offset + n ≤ i) : store mem offset v n i = mem i :=
  if_neg fun hi => by omega

theorem store_of_mem {mem : Memory} {offset i n : Nat} (v : BitVec w) (hle : offset ≤ i)
    (hlt : i < offset + n) : store mem offset v n i = (v >>> (8 * (i - offset))).setWidth 8 :=
  if_pos ⟨hle, hlt⟩

theorem load_congr {mem mem' : Memory} {offset n : Nat}
    (h : ∀ i, offset ≤ i → i < offset + n → mem i = mem' i) : load w mem offset n = load w mem' offset n := by
  induction n generalizing offset with
  | zero => rfl
  | succ n ih =>
      rw [load, load, h offset (Nat.le_refl _) (by omega),
        ih fun i hle hlt => h i (by omega) (by omega)]

theorem getLsbD_load (mem : Memory) (offset n : Nat) {i : Nat} (hi : i < w) (hn : i < 8 * n) :
    (load w mem offset n).getLsbD i = (mem (offset + i / 8)).getLsbD (i % 8) := by
  induction n generalizing offset i with
  | zero => omega
  | succ n ih =>
      by_cases hlow : i < 8
      · have hbyte : i / 8 = 0 := by omega
        have hbit : i % 8 = i := by omega
        simp [load, hi, hlow, hbyte, hbit]
      · have hbyte : offset + 1 + (i - 8) / 8 = offset + i / 8 := by omega
        have hbit : (i - 8) % 8 = i % 8 := by omega
        have hrest := ih (offset + 1) (show i - 8 < w by omega) (by omega)
        rw [hbyte, hbit] at hrest
        have hhigh : (mem offset).getLsbD i = false := BitVec.getLsbD_of_ge _ _ (by omega)
        rw [load, BitVec.getLsbD_or, BitVec.getLsbD_shiftLeft, BitVec.getLsbD_setWidth, hrest, hhigh]
        simp [hi, hlow]

@[simp]
theorem load_zeros (offset n : Nat) : load w zeros offset n = 0 := by
  induction n generalizing offset with
  | zero => rfl
  | succ n ih => simp [load, ih, zeros]

/-- A field inside of what was stored shows its part of the number. -/
theorem load_store_inside {mem : Memory} {offset offset' n n' : Nat} (v : BitVec w)
    (hle : offset ≤ offset') (hend : offset' + n' ≤ offset + n) (hn : w' ≤ 8 * n') :
    load w' (store mem offset v n) offset' n' = (v >>> (8 * (offset' - offset))).setWidth w' := by
  apply BitVec.eq_of_getLsbD_eq
  intro i hi
  have hbyte : i / 8 < n' := by omega
  have hplace : 8 * (offset' + i / 8 - offset) + i % 8 = 8 * (offset' - offset) + i := by omega
  rw [getLsbD_load _ _ _ hi (by omega), store_of_mem v (by omega) (by omega)]
  simp [hi, hplace, Nat.mod_lt]

theorem load_store {mem : Memory} {offset n : Nat} (v : BitVec w) (hn : w ≤ 8 * n) :
    load w (store mem offset v n) offset n = v := by
  rw [load_store_inside v (Nat.le_refl _) (Nat.le_refl _) hn, Nat.sub_self, Nat.mul_zero,
    BitVec.ushiftRight_zero, BitVec.setWidth_eq]

/-- A field that does not overlap what is stored keeps its value. -/
theorem load_store_of_disjoint {mem : Memory} {offset offset' n n' : Nat} (v : BitVec w)
    (h : offset' + n' ≤ offset ∨ offset + n ≤ offset') :
    load w' (store mem offset v n) offset' n' = load w' mem offset' n' :=
  load_congr fun _ hle hlt => store_of_lt_or_le v (by omega)

theorem bytesAt_store_of_disjoint {mem : Memory} {offset offset' n n' : Nat} (v : BitVec w)
    (h : offset' + n' ≤ offset ∨ offset + n ≤ offset') :
    bytesAt (store mem offset v n) offset' n' = bytesAt mem offset' n' := by
  apply List.map_congr_left
  intro i hi
  rw [List.mem_range'_1] at hi
  exact store_of_lt_or_le v (by omega)

theorem bytesAt_zeros (offset n : Nat) : bytesAt zeros offset n = List.replicate n 0 := by
  have hconst : zeros = Function.const Nat 0 := rfl
  rw [bytesAt, hconst, List.map_const, List.length_range']

end FieldMemory
