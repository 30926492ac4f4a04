import Mathlib.Data.BitVec
import Mathlib.Data.List.Basic

/-!
# Bytes and words

Thirty-two bit words are read from memory byte by byte in one of two orders. Both are plain
concatenations of bit vectors, so exclusive or acts on them byte by byte, and either order loses
nothing. Substitution boxes act on the four bytes of a word separately, which makes every question
about a substituted word a question about four bytes.
-/

namespace Bytes

abbrev Byte := BitVec 8

abbrev Word := BitVec 32

/-- The word whose most significant byte comes first. -/
def beWord (b0 b1 b2 b3 : Byte) : Word :=
  (b0.setWidth 32 <<< 24) ||| (b1.setWidth 32 <<< 16) ||| (b2.setWidth 32 <<< 8) ||| b3.setWidth 32

/-- The word whose least significant byte comes first. -/
def leWord (b0 b1 b2 b3 : Byte) : Word := beWord b3 b2 b1 b0

/-- Byte `i` of a word, counted from the least significant one. -/
def byteOf (word : Word) (i : Nat) : Byte := word.extractLsb' (8 * i) 8

def leBytes (word : Word) : List Byte :=
  [byteOf word 0, byteOf word 1, byteOf word 2, byteOf word 3]

@[simp]
theorem length_leBytes (word : Word) : (leBytes word).length = 4 := rfl

theorem word_ext {x y : Word} (h : ∀ i < 4, byteOf x i = byteOf y i) : x = y := by
  apply BitVec.eq_of_getLsbD_eq
  intro bit hbit
  have hbyte := congrArg (fun b : Byte => b.getLsbD (bit % 8)) (h (bit / 8) (by omega))
  have hmod : bit % 8 < 8 := by omega
  have hsum : 8 * (bit / 8) + bit % 8 = bit := by omega
  simpa [byteOf, BitVec.getLsbD_extractLsb', hmod, hsum] using hbyte

@[simp]
theorem byteOf_xor (x y : Word) (i : Nat) : byteOf (x ^^^ y) i = byteOf x i ^^^ byteOf y i := by
  simp [byteOf, BitVec.extractLsb'_xor]

theorem byteOf_and (x y : Word) (i : Nat) : byteOf (x &&& y) i = byteOf x i &&& byteOf y i := by
  simp [byteOf, BitVec.extractLsb'_and]

@[simp]
theorem byteOf_zero (i : Nat) : byteOf 0 i = 0 := by
  simp [byteOf]

private theorem getLsbD_byteOf_beWord (b0 b1 b2 b3 : Byte) {i bit : Nat} (hi : i < 4)
    (hbit : bit < 8) :
    (byteOf (beWord b0 b1 b2 b3) i).getLsbD bit
      = (if i = 0 then b3 else if i = 1 then b2 else if i = 2 then b1 else b0).getLsbD bit := by
  obtain rfl | rfl | rfl | rfl : i = 0 ∨ i = 1 ∨ i = 2 ∨ i = 3 := by omega
  all_goals
    simp only [byteOf, beWord, BitVec.getLsbD_extractLsb', BitVec.getLsbD_or,
      BitVec.getLsbD_shiftLeft, BitVec.getLsbD_setWidth, hbit, decide_true, Bool.true_and]
    grind

@[simp]
theorem byteOf_beWord_zero (b0 b1 b2 b3 : Byte) : byteOf (beWord b0 b1 b2 b3) 0 = b3 :=
  BitVec.eq_of_getLsbD_eq fun _ hbit => getLsbD_byteOf_beWord b0 b1 b2 b3 (by decide) hbit

@[simp]
theorem byteOf_beWord_one (b0 b1 b2 b3 : Byte) : byteOf (beWord b0 b1 b2 b3) 1 = b2 :=
  BitVec.eq_of_getLsbD_eq fun _ hbit => getLsbD_byteOf_beWord b0 b1 b2 b3 (by decide) hbit

@[simp]
theorem byteOf_beWord_two (b0 b1 b2 b3 : Byte) : byteOf (beWord b0 b1 b2 b3) 2 = b1 :=
  BitVec.eq_of_getLsbD_eq fun _ hbit => getLsbD_byteOf_beWord b0 b1 b2 b3 (by decide) hbit

@[simp]
theorem byteOf_beWord_three (b0 b1 b2 b3 : Byte) : byteOf (beWord b0 b1 b2 b3) 3 = b0 :=
  BitVec.eq_of_getLsbD_eq fun _ hbit => getLsbD_byteOf_beWord b0 b1 b2 b3 (by decide) hbit

theorem beWord_byteOf (word : Word) :
    beWord (byteOf word 3) (byteOf word 2) (byteOf word 1) (byteOf word 0) = word := by
  apply word_ext
  intro i hi
  obtain rfl | rfl | rfl | rfl : i = 0 ∨ i = 1 ∨ i = 2 ∨ i = 3 := by omega
  all_goals simp

theorem leBytes_injective {x y : Word} (h : leBytes x = leBytes y) : x = y := by
  simp only [leBytes, List.cons.injEq, and_true] at h
  rw [← beWord_byteOf x, ← beWord_byteOf y, h.1, h.2.1, h.2.2.1, h.2.2.2]

/-! ### Arrays of words -/

variable {w n : Nat}

/-- Cell `i` of an array, zero past its end. -/
def cell (cells : Vector (BitVec w) n) (i : Nat) : BitVec w := if h : i < n then cells[i] else 0

theorem cell_of_lt (cells : Vector (BitVec w) n) {i : Nat} (hi : i < n) : cell cells i = cells[i] :=
  dif_pos hi

/-- Word `i` of sixteen bytes, each word with its most significant byte first. -/
def blockWord (block : Vector Byte 16) (i : Nat) : Word :=
  beWord (cell block (4 * i)) (cell block (4 * i + 1)) (cell block (4 * i + 2))
    (cell block (4 * i + 3))

/-! ### Exclusive-or sums -/

def xorSum (words : List (BitVec w)) : BitVec w := words.foldr (· ^^^ ·) 0

@[simp]
theorem xorSum_nil : xorSum ([] : List (BitVec w)) = 0 := rfl

@[simp]
theorem xorSum_cons (word : BitVec w) (words : List (BitVec w)) :
    xorSum (word :: words) = word ^^^ xorSum words := rfl

@[simp]
theorem xorSum_singleton (word : BitVec w) : xorSum [word] = word := BitVec.xor_zero

theorem zero_xor (word : BitVec w) : 0 ^^^ word = word := BitVec.zero_xor

theorem xorSum_append (xs ys : List (BitVec w)) : xorSum (xs ++ ys) = xorSum xs ^^^ xorSum ys := by
  induction xs with
  | nil => simp
  | cons x xs ih => rw [List.cons_append, xorSum_cons, xorSum_cons, ih, BitVec.xor_assoc]

theorem xorSum_perm {xs ys : List (BitVec w)} (h : xs.Perm ys) : xorSum xs = xorSum ys := by
  induction h with
  | nil => rfl
  | cons x _ ih => rw [xorSum_cons, xorSum_cons, ih]
  | swap x y l =>
      simp only [xorSum_cons]
      rw [← BitVec.xor_assoc, ← BitVec.xor_assoc, BitVec.xor_comm y x]
  | trans _ _ ih₁ ih₂ => exact ih₁.trans ih₂

theorem xor_xor_xor_comm (a b c d : BitVec w) : (a ^^^ b) ^^^ (c ^^^ d) = (a ^^^ c) ^^^ (b ^^^ d) := by
  rw [BitVec.xor_assoc, ← BitVec.xor_assoc b, BitVec.xor_comm b c, BitVec.xor_assoc c,
    ← BitVec.xor_assoc]

theorem xor_and (a b mask : BitVec w) : (a ^^^ b) &&& mask = (a &&& mask) ^^^ (b &&& mask) := by
  apply BitVec.eq_of_getLsbD_eq
  intro i _
  simp only [BitVec.getLsbD_and, BitVec.getLsbD_xor]
  exact Bool.and_xor_distrib_right _ _ _

theorem xorSum_map_xor {α : Type} (f g : α → BitVec w) (l : List α) :
    xorSum (l.map fun a => f a ^^^ g a) = xorSum (l.map f) ^^^ xorSum (l.map g) := by
  induction l with
  | nil => simp
  | cons a l ih => simp only [List.map_cons, xorSum_cons, ih, xor_xor_xor_comm]

theorem xor_left_cancel {a b c : BitVec w} (h : a ^^^ b = a ^^^ c) : b = c := by
  have := congrArg (a ^^^ ·) h
  simpa [← BitVec.xor_assoc] using this

theorem xor_right_cancel {a b c : BitVec w} (h : b ^^^ a = c ^^^ a) : b = c := by
  rw [BitVec.xor_comm b, BitVec.xor_comm c] at h
  exact xor_left_cancel h

theorem xor_eq_zero {a b : BitVec w} : a ^^^ b = 0 ↔ a = b :=
  ⟨fun h => xor_right_cancel (h.trans BitVec.xor_self.symm), fun h => h ▸ BitVec.xor_self⟩

@[simp]
theorem xor_xor_cancel_right (a b : BitVec w) : a ^^^ b ^^^ b = a := by
  rw [BitVec.xor_assoc, BitVec.xor_self, BitVec.xor_zero]

theorem xor_eq_xor_of_xor_eq_xor {a b c d : BitVec w} (h : a ^^^ b = c ^^^ d) :
    b ^^^ d = a ^^^ c := by
  apply xor_left_cancel (a := a)
  rw [← BitVec.xor_assoc, h, xor_xor_cancel_right, ← BitVec.xor_assoc, BitVec.xor_self,
    BitVec.zero_xor]

/-! ### Additive functions -/

variable {v : Nat}

/-- A function that sends exclusive or to exclusive or. -/
def IsAdditive (f : BitVec w → BitVec v) : Prop := ∀ a b, f (a ^^^ b) = f a ^^^ f b

theorem isAdditive_id : IsAdditive fun word : BitVec w => word := fun _ _ => rfl

theorem isAdditive_zero : IsAdditive fun _ : BitVec w => (0 : BitVec v) :=
  fun _ _ => BitVec.xor_zero.symm

theorem isAdditive_byteOf (i : Nat) : IsAdditive fun word : Word => byteOf word i :=
  fun a b => byteOf_xor a b i

theorem eq_xorSum_twoPow (x : BitVec w) :
    x = xorSum ((List.range w).map fun i => if x.getLsbD i then BitVec.twoPow w i else 0) := by
  have hbits : ∀ n bit, bit < w → (xorSum ((List.range n).map
      fun i => if x.getLsbD i then BitVec.twoPow w i else 0)).getLsbD bit
        = (decide (bit < n) && x.getLsbD bit) := by
    intro n bit hbit
    induction n with
    | zero => simp
    | succ n ih =>
        have hterm : (if x.getLsbD n then BitVec.twoPow w n else 0).getLsbD bit
            = (decide (n = bit) && x.getLsbD bit) := by
          rcases eq_or_ne n bit with rfl | hne
          · split <;> simp_all
          · split <;> simp [BitVec.getLsbD_twoPow, hne]
        rw [List.range_succ, List.map_append, xorSum_append, BitVec.getLsbD_xor, ih,
          List.map_singleton, xorSum_singleton, hterm]
        rcases Nat.lt_trichotomy bit n with hlt | rfl | hgt
        · simp [hlt, Nat.lt_succ_of_lt hlt, Nat.ne_of_gt hlt]
        · simp
        · simp [Nat.ne_of_lt hgt, Nat.not_lt_of_gt hgt, Nat.not_lt_of_ge (Nat.succ_le_of_lt hgt)]
  apply BitVec.eq_of_getLsbD_eq
  intro bit hbit
  rw [hbits w bit hbit, decide_eq_true hbit, Bool.true_and]

theorem IsAdditive.map_zero {f : BitVec w → BitVec v} (hf : IsAdditive f) : f 0 = 0 := by
  have h := hf 0 0
  rwa [BitVec.xor_self, BitVec.xor_self] at h

theorem IsAdditive.map_xorSum {f : BitVec w → BitVec v} (hf : IsAdditive f)
    (words : List (BitVec w)) : f (xorSum words) = xorSum (words.map f) := by
  induction words with
  | nil => exact hf.map_zero
  | cons word words ih => rw [xorSum_cons, hf, ih, List.map_cons, xorSum_cons]

theorem IsAdditive.ext {f g : BitVec w → BitVec v} (hf : IsAdditive f) (hg : IsAdditive g)
    (h : ∀ i < w, f (BitVec.twoPow w i) = g (BitVec.twoPow w i)) (x : BitVec w) : f x = g x := by
  rw [eq_xorSum_twoPow x, hf.map_xorSum, hg.map_xorSum, List.map_map, List.map_map]
  congr 1
  apply List.map_congr_left
  intro i hi
  simp only [Function.comp_apply]
  split
  · exact h i (List.mem_range.mp hi)
  · rw [hf.map_zero, hg.map_zero]

end Bytes
