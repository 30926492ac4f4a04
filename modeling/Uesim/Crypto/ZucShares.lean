import Uesim.Crypto.ZucSequence

/-!
# Which sums of ZUC words move

Let the six loaded cells be made up of `r` words. Both arguments of a box are then made up of them too,
and a keystream word is an exclusive or of box values and of the words themselves. Which of them it takes
in depends on its place alone, so a sum of keystream words stands still when every one of them is taken in
an even number of times. The other way round two words are enough in practice: the values of the boxes on
what can be made up of two bytes move independently of each other.
-/

namespace Uesim

open Bytes

variable {r : Nat}

/-- What a keystream word is made of: the values of the boxes, numbered by their two arguments, and the
words that the loaded cells are made up of. -/
def zucPart (r : Nat) (words : Nat → Word) (i : Nat) : Word :=
  if i < 4 ^ r then
    zucBoxes (zucBoxes (Lfsr.select (BitVec.ofNat r i) words)
      ^^^ Lfsr.select (BitVec.ofNat r (i / 2 ^ r)) words)
  else words (i - 4 ^ r)

section Shares

variable (held : Nat → BitVec r)

/-- Which of the words term `k` of the register takes in, when cell `i` takes in `held i`. -/
def zucPick (k : Nat) : BitVec r :=
  Lfsr.select ((Lfsr.coeff 16 [0, 4, 10, 13, 15] k).setWidth 6) held

/-- Which parts the two registers of the state machine take in. -/
def zucTrace : Nat → BitVec (r + 4 ^ r) × BitVec (r + 4 ^ r)
  | 0 => (0, 0)
  | k + 1 =>
      match zucTrace k with
      | (fsm0, fsm1) =>
          (fsm1, BitVec.twoPow _ ((zucPick held (k + 1)).toNat + 2 ^ r * (zucPick held (k + 5)).toNat)
            ^^^ (fsm0 ^^^ fsm1))

/-- Which parts keystream word `k` takes in. -/
def zucShare (k : Nat) : BitVec (r + 4 ^ r) :=
  (zucPick held (k + 33) ++ (0 : BitVec (4 ^ r))) ^^^ (zucTrace held (k + 33)).1

theorem zucTrace_succ (k : Nat) :
    zucTrace held (k + 1) = ((zucTrace held k).2,
      BitVec.twoPow _ ((zucPick held (k + 1)).toNat + 2 ^ r * (zucPick held (k + 5)).toNat)
        ^^^ ((zucTrace held k).1 ^^^ (zucTrace held k).2)) := rfl

end Shares

/-! ### Parts and words -/

theorem select_part_twoPow (words : Nat → Word) (u v : BitVec r) :
    Lfsr.select (BitVec.twoPow (r + 4 ^ r) (u.toNat + 2 ^ r * v.toNat)) (zucPart r words)
      = zucBoxes (zucBoxes (Lfsr.select u words) ^^^ Lfsr.select v words) := by
  have hlt : u.toNat + 2 ^ r * v.toNat < 4 ^ r := by
    calc u.toNat + 2 ^ r * v.toNat < 2 ^ r + 2 ^ r * v.toNat := Nat.add_lt_add_right u.isLt _
      _ = 2 ^ r * (v.toNat + 1) := (Nat.add_comm _ _).trans (Nat.mul_succ _ _).symm
      _ ≤ 2 ^ r * 2 ^ r := Nat.mul_le_mul_left _ v.isLt
      _ = 4 ^ r := by rw [← Nat.mul_pow]
  have hu : BitVec.ofNat r (u.toNat + 2 ^ r * v.toNat) = u := by
    apply BitVec.eq_of_toNat_eq
    rw [BitVec.toNat_ofNat, Nat.add_mul_mod_self_left, Nat.mod_eq_of_lt u.isLt]
  have hv : (u.toNat + 2 ^ r * v.toNat) / 2 ^ r = v.toNat := by
    rw [Nat.add_mul_div_left _ _ (Nat.two_pow_pos r), Nat.div_eq_of_lt u.isLt, Nat.zero_add]
  rw [Lfsr.select_twoPow _ (by omega), zucPart, if_pos hlt, hu, hv, BitVec.ofNat_toNat, BitVec.setWidth_eq]

theorem select_part_append (words : Nat → Word) (u : BitVec r) :
    Lfsr.select (u ++ (0 : BitVec (4 ^ r))) (zucPart r words) = Lfsr.select u words := by
  rw [Lfsr.select_append_zero]
  apply Lfsr.select_congr
  intro i _
  rw [zucPart, if_neg (by omega), Nat.add_sub_cancel_left]

section Loaded

variable {key : Vector Byte 16} {params : PdcpCipherParams} {held : Nat → BitVec r} {words : Nat → Word}
  (hloaded : ∀ i < 6, zucLoaded key params i = Lfsr.select (held i) words)

include hloaded

theorem zucSequence_eq_select (k : Nat) :
    zucSequence (zucLoad key params) k = Lfsr.select (zucPick held k) words := by
  rw [(zucSequence_isLinRec key params).eq_select (by decide) k, select_zucSequence, zucPick,
    Lfsr.select_select]
  exact Lfsr.select_congr hloaded

theorem zucClock_iterate_eq_select (k : Nat) :
    (zucClock^[k] (zucLoad key params)).fsm0 = Lfsr.select (zucTrace held k).1 (zucPart r words)
      ∧ (zucClock^[k] (zucLoad key params)).fsm1 = Lfsr.select (zucTrace held k).2 (zucPart r words) := by
  induction k with
  | zero => exact ⟨(Lfsr.select_zero _).symm, (Lfsr.select_zero _).symm⟩
  | succ k ih =>
      have hfunction := zucClock_fsm1 (zucClock^[k] (zucLoad key params))
      rw [← Function.iterate_succ_apply' zucClock, zucClock_iterate_lfsr _ _ (by decide),
        zucClock_iterate_lfsr _ _ (by decide), Nat.add_zero, Nat.add_assoc k 1 4,
        zucSequence_eq_select hloaded, zucSequence_eq_select hloaded, ← select_part_twoPow] at hfunction
      rw [zucTrace_succ, hfunction, Lfsr.select_xor, Lfsr.select_xor, ih.1, ih.2,
        Function.iterate_succ_apply', zucClock_fsm0]
      exact ⟨ih.2, rfl⟩

/-- **A keystream word is made of its parts.** -/
theorem zuc_word_eq_select (k : Nat) :
    Keystream.word zucGenerateKeystream (zucInitContext key params) k
      = Lfsr.select (zucShare held k) (zucPart r words) := by
  rw [word_zucGenerateKeystream, zucSequence_eq_select hloaded, (zucClock_iterate_eq_select hloaded _).1,
    zucShare, Lfsr.select_xor, select_part_append]

theorem xorSum_zuc_words (places : List Nat) :
    xorSum (places.map (Keystream.word zucGenerateKeystream (zucInitContext key params)))
      = Lfsr.select (xorSum (places.map (zucShare held))) (zucPart r words) := by
  rw [Lfsr.select_xorSum, List.map_map]
  exact congrArg xorSum (List.map_congr_left fun k _ => zuc_word_eq_select hloaded k)

end Loaded

/-- Part 0 has no argument; it is all that a share may hold if it is to stand still. -/
theorem eq_ite_of_shiftRight {m : Nat} {share : BitVec m} (h : share >>> 1 = 0) :
    share = if share.getLsbD 0 then BitVec.twoPow m 0 else 0 := by
  apply BitVec.eq_of_getLsbD_eq
  intro i hi
  match i with
  | 0 => split <;> simp_all
  | i + 1 =>
      have hbit := congrArg (fun v : BitVec m => v.getLsbD i) h
      simp only [BitVec.getLsbD_ushiftRight, Nat.add_comm 1 i] at hbit
      rw [hbit]
      split <;> simp [BitVec.getLsbD_twoPow]

/-! ### Sums that stand still -/

/-- What the words beyond the shorter message take in of each value of the boxes and of each cell. -/
def zucBeyond (n n' : Nat) : BitVec (6 + 4 ^ 6) :=
  xorSum ((Keystream.beyond n n').map (zucShare (BitVec.twoPow 6)))

def ZucStill (n n' : Nat) : Prop := zucBeyond n n' >>> 1 = 0

instance (n n' : Nat) : Decidable (ZucStill n n') := inferInstanceAs (Decidable (_ = _))

/-- What stands still: the value of the boxes on empty arguments, if it is taken in an odd number of
times. -/
def zucRest (n n' : Nat) : Word := if (zucBeyond n n').getLsbD 0 then zucBoxes (zucBoxes 0) else 0

theorem ZucStill.xorSum_eq {n n' : Nat} (h : ZucStill n n') (key : Vector Byte 16)
    (params : PdcpCipherParams) :
    xorSum ((Keystream.beyond n n').map (Keystream.word zucGenerateKeystream (zucInitContext key params)))
      = zucRest n n' := by
  have hloaded : ∀ i < 6, zucLoaded key params i
      = Lfsr.select (BitVec.twoPow 6 i) (zucLoaded key params) :=
    fun i hi => (Lfsr.select_twoPow _ hi).symm
  have hempty : zucPart 6 (zucLoaded key params) 0 = zucBoxes (zucBoxes 0) := by
    have hselect := select_part_twoPow (zucLoaded key params) (0 : BitVec 6) 0
    rw [Lfsr.select_zero] at hselect
    rw [← Lfsr.select_twoPow (zucPart 6 (zucLoaded key params)) (by decide : 0 < 6 + 4 ^ 6)]
    exact hselect.trans (congrArg zucBoxes BitVec.xor_zero)
  rw [xorSum_zuc_words hloaded, ← zucBeyond, eq_ite_of_shiftRight h, zucRest]
  split
  · rw [Lfsr.select_twoPow _ (by decide), hempty]
  · exact Lfsr.select_zero _

/-! ### Sums that move -/

/-- Cells `a` and `b` hold one of two words each. -/
def zucCells (a b i : Nat) : BitVec 2 := if i = a then 1 else if i = b then 2 else 0

/-- With two cells loaded, the words that only the longer of two messages takes in add up to something
that moves. -/
def ZucMoves (n n' : Nat) : Prop :=
  ∃ a < 6, ∃ b < 6, xorSum ((Keystream.beyond n n').map (zucShare (zucCells a b))) >>> 1 ≠ 0

instance (n n' : Nat) : Decidable (ZucMoves n n') := inferInstanceAs (Decidable (∃ a < 6, ∃ b < 6, _))

/-- Byte 2 of the six cells can be loaded with anything. -/
theorem exists_zucLoaded (x : Nat → Byte) :
    ∃ key params, ∀ i < 6, zucLoaded key params i = laneWord 2 (x i) := by
  have hcell : ∀ b, IsZucCell (laneWord 2 b) := by
    intro b
    apply isZucCell_of_byteOf
    rw [laneWord, leWord, byteOf_beWord_three, if_neg (by decide)]
    rfl
  have hdirection : ∀ b, beWord 0 b 0 0 = laneWord 2 b := fun _ => rfl
  refine ⟨keyOfWords fun i => laneWord 2 (x i), ⟨laneWord 2 (x 4), 0, x 5⟩, fun i hi => ?_⟩
  obtain ⟨h0, h1, h2, h3⟩ := zucLoad_key (keyOfWords fun i => laneWord 2 (x i)) ⟨laneWord 2 (x 4), 0, x 5⟩
  obtain ⟨h4, h5⟩ := zucLoad_params (keyOfWords fun i => laneWord 2 (x i)) ⟨laneWord 2 (x 4), 0, x 5⟩
  obtain rfl | rfl | rfl | rfl | rfl | rfl : i = 0 ∨ i = 1 ∨ i = 2 ∨ i = 3 ∨ i = 4 ∨ i = 5 := by omega
  · rw [h0, blockWord_keyOfWords _ (by decide), hcell]
  · rw [h1, blockWord_keyOfWords _ (by decide), hcell]
  · rw [h2, blockWord_keyOfWords _ (by decide), hcell]
  · rw [h3, blockWord_keyOfWords _ (by decide), hcell]
  · rw [h4, hcell]
  · rw [h5, hdirection, hcell]

theorem isAdditive_laneWord : IsAdditive (laneWord 2) := by
  intro a b
  apply word_ext
  intro i hi
  match i with
  | 0 | 1 | 2 | 3 => simp [laneWord, leWord]
  | i + 4 => omega

def twoWords (y y' : Byte) (i : Nat) : Word := laneWord 2 (if i = 0 then y else y')

/-- How byte 2 of part `i` moves when the two words are taken from 0. -/
def partMove (y y' : Byte) (i : Nat) : Byte :=
  byteOf (zucPart 2 (twoWords y y') i ^^^ zucPart 2 (twoWords 0 0) i) 2

/-- The rows from which the parts can be told, for the moves to 1 and 2, to 2 and 3, and to 3 and 1. -/
def partRows (move i : Nat) : BitVec (2 + 4 ^ 2) :=
  ([[0x21590, 0x1947e, 0x152f4, 0x1cbe, 0x2613e, 0x22a94, 0x693e, 0x44a0],
    [0x81ee, 0x31590, 0x1e918, 0x2f4f0, 0xb34e, 0x2fbb8, 0x2bfc0, 0x8680],
    [0, 0, 0, 0x92d0, 0, 0, 0, 0]].getD move []).getD i 0

theorem select_partRows : ∀ i < 2 + 4 ^ 2, BitVec.twoPow (2 + 4 ^ 2) i
    ^^^ (Lfsr.select (partMove 1 2 i) (partRows 0)
      ^^^ (Lfsr.select (partMove 2 3 i) (partRows 1) ^^^ Lfsr.select (partMove 3 1 i) (partRows 2)))
    = Lfsr.single 0 1 i := by
  decide +kernel

/-- **The parts are independent**: no sum of them stands still for all bytes, but for the one that does
not depend on them. -/
theorem shiftRight_eq_zero_of_const {share : BitVec (2 + 4 ^ 2)} {out : Word}
    (hconst : ∀ y y', Lfsr.select share (zucPart 2 (twoWords y y')) = out) : share >>> 1 = 0 := by
  have hmove : ∀ y y', Lfsr.select share (partMove y y') = 0 := by
    intro y y'
    have hsum := congrArg (byteOf · 2) (xor_eq_zero.mpr ((hconst y y').trans (hconst 0 0).symm))
    rw [← Lfsr.select_map_xor] at hsum
    exact (Lfsr.map_select (isAdditive_byteOf 2) share _).symm.trans (hsum.trans (byteOf_zero 2))
  have hrow : ∀ y y' move,
      Lfsr.select share (fun i => Lfsr.select (partMove y y' i) (partRows move)) = 0 := by
    intro y y' move
    rw [← Lfsr.select_select, hmove, Lfsr.select_zero]
  have hshare : share = if share.getLsbD 0 then 1 else 0 := by
    rw [← Lfsr.select_single share (by decide), ← Lfsr.select_congr select_partRows,
      Lfsr.select_map_xor, Lfsr.select_map_xor, Lfsr.select_map_xor, hrow, hrow, hrow, Bytes.zero_xor,
      Bytes.zero_xor, Lfsr.select_twoPow_self]
    exact BitVec.xor_zero.symm
  rw [hshare]
  split <;> rfl

/-- **Lengths under which ZUC separates all messages.** -/
theorem ZucMoves.exists_ne {n n' : Nat} (h : ZucMoves n n') (out : Word) :
    ∃ key params, xorSum ((Keystream.beyond n n').map
      (Keystream.word zucGenerateKeystream (zucInitContext key params))) ≠ out := by
  obtain ⟨a, -, b, -, hmoves⟩ := h
  by_contra hstill
  simp only [not_exists, not_not] at hstill
  refine hmoves (shiftRight_eq_zero_of_const fun y y' => (?_ : _ = out))
  obtain ⟨key, params, hloaded⟩ := exists_zucLoaded fun i =>
    Lfsr.select (zucCells a b i) fun j => if j = 0 then y else y'
  have hwords : ∀ i < 6, zucLoaded key params i = Lfsr.select (zucCells a b i) (twoWords y y') := by
    intro i hi
    rw [hloaded i hi, Lfsr.map_select isAdditive_laneWord]
    rfl
  rw [← xorSum_zuc_words hwords, hstill]

example : ZucMoves 1 2 := by decide +kernel

end Uesim
