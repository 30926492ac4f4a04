import Uesim.Crypto.Zuc
import Uesim.Library.ByteTable

/-!
# What the ZUC keystream gives away

Three consecutive keystream words add up to three consecutive cells of the register and one value of
the state machine's function, in which its memory has cancelled. After the thirty-two initialisation
rounds the third, fourth and fifth word make such a sum whose arguments are short combinations of the
loaded cells. The boxes are far enough from linear that this sum moves with COUNT, bearer and
direction.
-/

namespace Uesim

open Bytes

/-! ### The register -/

def zucSequence (ctx : ZucContext) (k : Nat) : Word := Lfsr.oldest zucClock ZucContext.lfsr ctx k

theorem zucClock_lfsr (ctx : ZucContext) :
    (zucClock ctx).lfsr = Lfsr.shiftIn ctx.lfsr (zucLfsrFeedback ctx.lfsr) := rfl

theorem zucClock_iterate_lfsr (ctx : ZucContext) (k : Nat) {i : Nat} (hi : i < 16) :
    cell (zucClock^[k] ctx).lfsr i = zucSequence ctx (k + i) :=
  (cell_of_lt _ hi).trans (Lfsr.getElem_cells_iterate (n := 15) zucClock_lfsr ctx k i hi)

theorem zucSequence_of_lt (ctx : ZucContext) {i : Nat} (hi : i < 16) :
    zucSequence ctx i = cell ctx.lfsr i := by
  have h := zucClock_iterate_lfsr ctx 0 hi
  rwa [Function.iterate_zero_apply, Nat.zero_add, eq_comm] at h

theorem zucSequence_add (ctx : ZucContext) (k : Nat) :
    zucSequence ctx (k + 16) = zucLfsrInitialization (zucSequence ctx k ^^^ zucSequence ctx (k + 4)
      ^^^ zucSequence ctx (k + 10) ^^^ zucSequence ctx (k + 13) ^^^ zucSequence ctx (k + 15)) := by
  have hfeedback : zucSequence ctx (k + 16) = zucLfsrFeedback (zucClock^[k] ctx).lfsr :=
    Lfsr.oldest_add_length (n := 15) zucClock_lfsr ctx k
  rw [hfeedback, zucLfsrFeedback]
  simp only [zucClock_iterate_lfsr, Nat.reduceLT]
  rfl

def IsZucCell (x : Word) : Prop := zucLfsrInitialization x = x

theorem isZucCell_initialization (x : Word) : IsZucCell (zucLfsrInitialization x) := by
  rw [IsZucCell, zucLfsrInitialization, zucLfsrInitialization, BitVec.and_assoc, BitVec.and_self]

theorem IsZucCell.xor {x y : Word} (hx : IsZucCell x) (hy : IsZucCell y) : IsZucCell (x ^^^ y) := by
  rw [IsZucCell, zucLfsrInitialization, xor_and]
  exact congrArg₂ (· ^^^ ·) hx hy

section Load

variable (key : Vector Byte 16) (params : PdcpCipherParams)

/-- Cell `i` of the register as it is loaded. -/
def zucLoaded (i : Nat) : Word := cell (zucLoad key params).lfsr i

theorem isZucCell_zucLoaded {i : Nat} (hi : i < 16) : IsZucCell (zucLoaded key params i) := by
  match i with
  | 0 | 1 | 2 | 3 | 4 | 5 | 6 | 7 => exact isZucCell_initialization _
  | 8 | 9 | 10 | 11 | 12 | 13 | 14 | 15 => exact isZucCell_initialization 0
  | i + 16 => omega

theorem isZucCell_zucSequence (k : Nat) : IsZucCell (zucSequence (zucLoad key params) k) := by
  rcases Nat.lt_or_ge k 16 with hk | hk
  · rw [zucSequence_of_lt _ hk]
    exact isZucCell_zucLoaded key params hk
  · obtain ⟨m, rfl⟩ : ∃ m, k = m + 16 := ⟨k - 16, by omega⟩
    rw [zucSequence_add]
    exact isZucCell_initialization _

theorem zucSequence_isLinRec :
    Lfsr.IsLinRec 16 [0, 4, 10, 13, 15] (zucSequence (zucLoad key params)) := by
  intro k
  have hcell := isZucCell_zucSequence key params
  rw [zucSequence_add]
  have hsum := ((((hcell k).xor (hcell (k + 4))).xor (hcell (k + 10))).xor (hcell (k + 13))).xor
    (hcell (k + 15))
  rw [hsum]
  simp [BitVec.xor_assoc]

/-- Only six cells are loaded with anything, so only six coefficients matter. -/
theorem select_zucSequence (v : BitVec 16) :
    Lfsr.select v (zucSequence (zucLoad key params))
      = Lfsr.select (v.setWidth 6) (zucLoaded key params) := by
  have hempty : ∀ i, 6 ≤ i → i < 16 → zucSequence (zucLoad key params) i = 0 := by
    intro i hi hlt
    rw [zucSequence_of_lt _ hlt]
    match i with
    | 0 | 1 | 2 | 3 | 4 | 5 => omega
    | 6 | 7 => exact (by decide : zucLfsrInitialization (beWord 0 0 0 0) = 0)
    | 8 | 9 | 10 | 11 | 12 | 13 | 14 | 15 => rfl
    | i + 16 => omega
  rw [Lfsr.select_setWidth (by decide : 6 ≤ 16) _ hempty]
  exact Lfsr.select_congr fun i hi => zucSequence_of_lt _ (by omega)

theorem zucSequence_eq {k : Nat} {v : BitVec 16}
    (hcoeff : Lfsr.coeff 16 [0, 4, 10, 13, 15] k = v) :
    zucSequence (zucLoad key params) k
      = xorSum ((List.range 6).map fun i =>
          if (v.setWidth 6).getLsbD i then zucLoaded key params i else 0) := by
  rw [(zucSequence_isLinRec key params).eq_select (by decide) k, hcoeff, select_zucSequence, Lfsr.select]

end Load

/-! ### The state machine -/

theorem zucClock_fsm0 (ctx : ZucContext) : (zucClock ctx).fsm0 = ctx.fsm1 := by
  rw [zucClock, zucFsmNextState, zucLfsrClock]

theorem zucClock_fsm1 (ctx : ZucContext) :
    (zucClock ctx).fsm1
      = zucBoxes (zucBoxes (cell (zucClock ctx).lfsr 0) ^^^ cell (zucClock ctx).lfsr 4)
        ^^^ (ctx.fsm0 ^^^ ctx.fsm1) := by
  rw [zucClock, zucFsmNextState, zucLfsrClock, zucFsmFunction]

theorem zucClock_iterate_fsm0 (ctx : ZucContext) (k : Nat) :
    (zucClock^[k + 2] ctx).fsm0 ^^^ (zucClock^[k + 1] ctx).fsm0 ^^^ (zucClock^[k] ctx).fsm0
      = zucBoxes (zucBoxes (zucSequence ctx (k + 1)) ^^^ zucSequence ctx (k + 5)) := by
  have hnew : (zucClock^[k + 2] ctx).fsm0 = (zucClock^[k + 1] ctx).fsm1 := by
    rw [Function.iterate_succ_apply' zucClock (k + 1), zucClock_fsm0]
  have hold : (zucClock^[k + 1] ctx).fsm0 = (zucClock^[k] ctx).fsm1 := by
    rw [Function.iterate_succ_apply', zucClock_fsm0]
  have hfunction : (zucClock^[k + 1] ctx).fsm1
      = zucBoxes (zucBoxes (cell (zucClock^[k + 1] ctx).lfsr 0) ^^^ cell (zucClock^[k + 1] ctx).lfsr 4)
        ^^^ ((zucClock^[k] ctx).fsm0 ^^^ (zucClock^[k] ctx).fsm1) := by
    rw [Function.iterate_succ_apply', zucClock_fsm1]
  rw [hnew, hfunction, hold, zucClock_iterate_lfsr _ _ (by decide : 0 < 16),
    zucClock_iterate_lfsr _ _ (by decide : 4 < 16), Nat.add_zero, Nat.add_assoc k 1 4,
    BitVec.xor_assoc, BitVec.xor_comm (zucClock^[k] ctx).fsm1, BitVec.xor_assoc, BitVec.xor_self,
    BitVec.xor_zero]

theorem word_zucGenerateKeystream (key : Vector Byte 16) (params : PdcpCipherParams) (k : Nat) :
    Keystream.word zucGenerateKeystream (zucInitContext key params) k
      = zucSequence (zucLoad key params) (k + 33)
        ^^^ (zucClock^[k + 33] (zucLoad key params)).fsm0 := by
  have hword : Keystream.word zucGenerateKeystream (zucInitContext key params) k
      = cell (zucClock^[k + 33] (zucLoad key params)).lfsr 0
        ^^^ (zucClock^[k + 33] (zucLoad key params)).fsm0 := by
    rw [Function.iterate_add_apply zucClock k 33, Function.iterate_succ_apply' zucClock 32,
      ← Function.iterate_succ_apply, Function.iterate_succ_apply']
    rfl
  rw [hword, zucClock_iterate_lfsr _ _ (by decide : 0 < 16), Nat.add_zero]

theorem zucSequence_first (key : Vector Byte 16) (params : PdcpCipherParams) :
    zucSequence (zucLoad key params) 35 = zucLoaded key params 0 ^^^ zucLoaded key params 1
        ^^^ zucLoaded key params 2 ^^^ zucLoaded key params 4
      ∧ zucSequence (zucLoad key params) 36 = zucLoaded key params 1 ^^^ zucLoaded key params 2
        ^^^ zucLoaded key params 3 ^^^ zucLoaded key params 5
      ∧ zucSequence (zucLoad key params) 37 = zucLoaded key params 2 ^^^ zucLoaded key params 3
        ^^^ zucLoaded key params 4
      ∧ zucSequence (zucLoad key params) 40 = zucLoaded key params 0 ^^^ zucLoaded key params 2
        ^^^ zucLoaded key params 4 ^^^ zucLoaded key params 5 := by
  refine ⟨?_, ?_, ?_, ?_⟩
  · rw [zucSequence_eq key params (v := 15639) (by decide +kernel)]
    simp [List.range_succ, BitVec.xor_assoc]
  · rw [zucSequence_eq key params (v := 31278) (by decide +kernel)]
    simp [List.range_succ, BitVec.xor_assoc]
  · rw [zucSequence_eq key params (v := 62556) (by decide +kernel)]
    simp [List.range_succ, BitVec.xor_assoc]
  · rw [zucSequence_eq key params (v := 38581) (by decide +kernel)]
    simp [List.range_succ, BitVec.xor_assoc]

/-- **Three words of keystream in terms of what was loaded.** -/
theorem zuc_three_words (key : Vector Byte 16) (params : PdcpCipherParams) :
    Keystream.word zucGenerateKeystream (zucInitContext key params) 4
        ^^^ Keystream.word zucGenerateKeystream (zucInitContext key params) 3
        ^^^ Keystream.word zucGenerateKeystream (zucInitContext key params) 2
      = (zucLoaded key params 0 ^^^ zucLoaded key params 2
          ^^^ zucLoaded key params 5)
        ^^^ zucBoxes (zucBoxes (zucLoaded key params 1 ^^^ zucLoaded key params 2
            ^^^ zucLoaded key params 3 ^^^ zucLoaded key params 5)
          ^^^ (zucLoaded key params 0 ^^^ zucLoaded key params 2
            ^^^ zucLoaded key params 4 ^^^ zucLoaded key params 5)) := by
  obtain ⟨h35, h36, h37, h40⟩ := zucSequence_first key params
  have hfsm := zucClock_iterate_fsm0 (zucLoad key params) 35
  rw [h36, h40] at hfsm
  rw [← hfsm, word_zucGenerateKeystream, word_zucGenerateKeystream, word_zucGenerateKeystream]
  simp only [Nat.reduceAdd, h35, h36, h37]
  generalize (zucClock^[35] (zucLoad key params)).fsm0 = f
  generalize (zucClock^[36] (zucLoad key params)).fsm0 = f'
  generalize (zucClock^[37] (zucLoad key params)).fsm0 = f''
  generalize zucLoaded key params = c
  calc (c 2 ^^^ c 3 ^^^ c 4 ^^^ f'')
        ^^^ (c 1 ^^^ c 2 ^^^ c 3 ^^^ c 5 ^^^ f')
        ^^^ (c 0 ^^^ c 1 ^^^ c 2 ^^^ c 4 ^^^ f)
      = (c 1 ^^^ c 1) ^^^ (c 2 ^^^ c 2) ^^^ (c 3 ^^^ c 3)
        ^^^ (c 4 ^^^ c 4)
        ^^^ ((c 0 ^^^ c 2 ^^^ c 5) ^^^ (f'' ^^^ f' ^^^ f)) := by ac_rfl
    _ = (c 0 ^^^ c 2 ^^^ c 5) ^^^ (f'' ^^^ f' ^^^ f) := by
        simp only [BitVec.xor_self, BitVec.zero_xor]

/-! ### The boxes -/

def zucBox (i : Nat) (b : Byte) : Byte := if i % 2 = 0 then zucS1Box b else zucS0Box b

theorem byteOf_zucBoxes (x : Word) {i : Nat} (hi : i < 4) :
    byteOf (zucBoxes x) i = zucBox i (byteOf x i) := by
  match i with
  | 0 => exact byteOf_beWord_zero _ _ _ _
  | 1 => exact byteOf_beWord_one _ _ _ _
  | 2 => exact byteOf_beWord_two _ _ _ _
  | 3 => exact byteOf_beWord_three _ _ _ _
  | i + 4 => omega

/-- On the half of the bytes that starts at `h` the difference `e` comes out of a box in two ways. -/
def boxMoves (box : Byte → Byte) (e h : Byte) : Bool :=
  [(1 : Byte), 2, 3, 4].any fun y =>
    box (h ^^^ y) ^^^ box (h ^^^ y ^^^ e) != box h ^^^ box (h ^^^ e)

/-- **No difference passes through a box as a constant**, not even on half of the bytes. -/
theorem boxMoves_zucBox (i : Nat) {e : Byte} (he : e ≠ 0) {h : Byte} (hh : h = 0 ∨ h = 0x80) :
    boxMoves (zucBox i) e h = true := by
  have hcheck : ByteTable.check zucS0 zucS1 (fun s0 s1 e =>
      e == 0 || [(0 : Byte), 0x80].all fun h => boxMoves s0 e h && boxMoves s1 e h) = true := by
    decide +kernel
  replace hcheck := ByteTable.of_check hcheck e
  have hboth : boxMoves zucS0Box e h = true ∧ boxMoves zucS1Box e h = true := by
    have hne : (e == 0) = false := beq_eq_false_iff_ne.mpr he
    rw [hne, Bool.false_or, List.all_cons, List.all_cons, List.all_nil, Bool.and_true] at hcheck
    simp only [Bool.and_eq_true] at hcheck
    rcases hh with rfl | rfl
    · exact hcheck.1
    · exact hcheck.2
  by_cases hi : i % 2 = 0
  · have hbox : zucBox i = zucS1Box := funext fun b => if_pos hi
    rw [hbox]
    exact hboth.2
  · have hbox : zucBox i = zucS0Box := funext fun b => if_neg hi
    rw [hbox]
    exact hboth.1

/-! ### What moves the keystream -/

theorem isZucCell_of_byteOf {x : Word} (h : byteOf x 3 &&& 0x80 = 0) : IsZucCell x := by
  have hlow : ∀ b : Byte, b &&& 0xff = b := by decide +kernel
  have hhigh : ∀ b : Byte, b &&& 0x80 = 0 → b &&& 0x7f = b := by decide +kernel
  apply word_ext
  intro i hi
  rw [zucLfsrInitialization, byteOf_and]
  match i with
  | 0 | 1 | 2 => exact hlow _
  | 3 => exact hhigh _ h
  | i + 4 => omega

def laneWord (i : Nat) (b : Byte) : Word :=
  leWord (if i = 0 then b else 0) (if i = 1 then b else 0) (if i = 2 then b else 0)
    (if i = 3 then b else 0)

theorem byteOf_laneWord {i : Nat} (hi : i < 4) (b : Byte) : byteOf (laneWord i b) i = b := by
  match i with
  | 0 | 1 | 2 | 3 => simp [laneWord, leWord]
  | i + 4 => omega

theorem isZucCell_laneWord (i : Nat) {b : Byte} (hb : b &&& 0x80 = 0) : IsZucCell (laneWord i b) := by
  apply isZucCell_of_byteOf
  rw [laneWord, leWord, byteOf_beWord_three]
  split
  · exact hb
  · rfl

theorem exists_zucBoxes_ne {diff : Word} (hdiff : diff ≠ 0) (base out : Word) :
    ∃ v, IsZucCell v ∧ zucBoxes (base ^^^ v) ^^^ zucBoxes (base ^^^ v ^^^ diff) ≠ out := by
  obtain ⟨i, hi, hbyte⟩ : ∃ i < 4, byteOf diff i ≠ 0 := by
    by_contra hcontra
    simp only [not_exists, not_and, not_not] at hcontra
    exact hdiff (word_ext fun i hi => (hcontra i hi).trans (byteOf_zero i).symm)
  by_contra hcontra
  simp only [not_exists, not_and, not_not] at hcontra
  set b := byteOf base i with hb
  -- on the half of the bytes that `b` lies in, the box has one derivative
  have hconst : ∀ x : Byte, x &&& 0x80 = b &&& 0x80 →
      zucBox i x ^^^ zucBox i (x ^^^ byteOf diff i) = byteOf out i := by
    intro x hx
    have htop : (b ^^^ x) &&& 0x80 = 0 := by
      rw [xor_and, hx, BitVec.xor_self]
      rfl
    have hword := congrArg (byteOf · i) (hcontra (laneWord i (b ^^^ x)) (isZucCell_laneWord i htop))
    simp only [byteOf_xor, byteOf_zucBoxes _ hi, byteOf_laneWord hi] at hword
    rwa [← hb, ← BitVec.xor_assoc, BitVec.xor_self, BitVec.zero_xor] at hword
  have hhalf : ∀ b : Byte, b &&& 0x80 = 0 ∨ b &&& 0x80 = 0x80 := by decide +kernel
  have hstay : ∀ h, h = 0 ∨ h = 0x80 → h &&& 0x80 = h ∧
      ∀ y ∈ [(1 : Byte), 2, 3, 4], (h ^^^ y) &&& 0x80 = h := by
    rintro h (rfl | rfl) <;> decide
  obtain ⟨y, hy, hne⟩ := List.any_eq_true.mp (boxMoves_zucBox i hbyte (hhalf b))
  have hmoved := hconst _ ((hstay _ (hhalf b)).2 y hy)
  have hstill := hconst _ (hstay _ (hhalf b)).1
  rw [hmoved, hstill, bne_self_eq_false] at hne
  cases hne

theorem eq_zero_of_zucBoxes {du dv out : Word}
    (h : ∀ u v, IsZucCell u → IsZucCell v →
      zucBoxes (zucBoxes u ^^^ v) ^^^ zucBoxes (zucBoxes (u ^^^ du) ^^^ (v ^^^ dv)) = out) :
    du = 0#32 ∧ dv = 0#32 := by
  have hinner : ∀ u, IsZucCell u → zucBoxes u ^^^ zucBoxes (u ^^^ du) = dv := by
    intro u hu
    by_contra hne
    obtain ⟨v, hv, hmoves⟩ := exists_zucBoxes_ne (mt xor_eq_zero.mp hne) (zucBoxes u) out
    apply hmoves
    rw [← h u v hu hv]
    have hargument : zucBoxes u ^^^ v ^^^ (zucBoxes u ^^^ zucBoxes (u ^^^ du) ^^^ dv)
        = zucBoxes (u ^^^ du) ^^^ (v ^^^ dv) := by
      generalize zucBoxes (u ^^^ du) = x
      generalize zucBoxes u = y
      calc y ^^^ v ^^^ (y ^^^ x ^^^ dv) = (y ^^^ y) ^^^ (x ^^^ (v ^^^ dv)) := by ac_rfl
        _ = x ^^^ (v ^^^ dv) := by rw [BitVec.xor_self, BitVec.zero_xor]
    rw [hargument]
  have hdu : du = 0#32 := by
    by_contra hne
    obtain ⟨u, hu, hmoves⟩ := exists_zucBoxes_ne hne 0 dv
    rw [zero_xor] at hmoves
    exact hmoves (hinner u hu)
  have hdv := hinner 0 (isZucCell_initialization 0)
  rw [hdu, BitVec.xor_zero, BitVec.xor_self] at hdv
  exact ⟨hdu, hdv.symm⟩

/-! ### Parameters -/

theorem zucLfsrInitialization_eq_iff {x y : Word} :
    zucLfsrInitialization x = zucLfsrInitialization y ↔ x.toNat % 2 ^ 31 = y.toNat % 2 ^ 31 := by
  have htoNat : ∀ x, (zucLfsrInitialization x).toNat = x.toNat % 2 ^ 31 := by
    intro x
    rw [zucLfsrInitialization, BitVec.toNat_and]
    exact Nat.and_two_pow_sub_one_eq_mod x.toNat 31
  rw [← htoNat, ← htoNat]
  exact ⟨congrArg _, BitVec.eq_of_toNat_eq⟩

theorem zucLoad_congr {params params' : PdcpCipherParams}
    (hcount : zucLfsrInitialization params.count = zucLfsrInitialization params'.count)
    (hbearer : params.bearer = params'.bearer) (hdirection : params.direction = params'.direction)
    (key : Vector Byte 16) : zucLoad key params = zucLoad key params' := by
  simp only [zucLoad, blockWord_packIv, hcount, hbearer, hdirection]

theorem bearer_direction_of_load {bearer bearer' : Nat} {direction direction' : Byte}
    (hbearer : bearer < 32) (hbearer' : bearer' < 32)
    (h : zucLfsrInitialization (beWord (BitVec.ofNat 8 bearer) direction 0 0)
      = zucLfsrInitialization (beWord (BitVec.ofNat 8 bearer') direction' 0 0)) :
    bearer = bearer' ∧ direction = direction' := by
  have hfit : ∀ b < 32, (BitVec.ofNat 8 b &&& byteOf 0x7fffffff 3).toNat = b := by decide
  have hfull : ∀ d : Byte, d &&& byteOf 0x7fffffff 2 = d := by decide +kernel
  constructor
  · have hbyte := congrArg (byteOf · 3) h
    simp only [zucLfsrInitialization, byteOf_and, byteOf_beWord_three] at hbyte
    rw [← hfit bearer hbearer, hbyte, hfit bearer' hbearer']
  · have hbyte := congrArg (byteOf · 2) h
    simp only [zucLfsrInitialization, byteOf_and, byteOf_beWord_two, hfull] at hbyte
    exact hbyte

section Params

variable {params params' : PdcpCipherParams}

theorem zucLoad_key (key : Vector Byte 16) (params : PdcpCipherParams) :
    zucLoaded key params 0 = zucLfsrInitialization (blockWord key 0)
      ∧ zucLoaded key params 1 = zucLfsrInitialization (blockWord key 1)
      ∧ zucLoaded key params 2 = zucLfsrInitialization (blockWord key 2)
      ∧ zucLoaded key params 3
        = zucLfsrInitialization (blockWord key 3) :=
  ⟨rfl, rfl, rfl, rfl⟩

theorem zucLoad_params (key : Vector Byte 16) (params : PdcpCipherParams) :
    zucLoaded key params 4 = zucLfsrInitialization params.count
      ∧ zucLoaded key params 5
        = zucLfsrInitialization (beWord params.bearer params.direction 0 0) :=
  ⟨congrArg zucLfsrInitialization (blockWord_packIv params).1, rfl⟩

def zucKey (k0 k1 : Word) : Vector Byte 16 :=
  #v[byteOf k0 3, byteOf k0 2, byteOf k0 1, byteOf k0 0, byteOf k1 3, byteOf k1 2, byteOf k1 1,
    byteOf k1 0, 0, 0, 0, 0, 0, 0, 0, 0]

theorem zucLoad_zucKey {k0 k1 : Word} (h0 : IsZucCell k0) (h1 : IsZucCell k1)
    (params : PdcpCipherParams) :
    zucLoaded (zucKey k0 k1) params 0 = k0 ∧ zucLoaded (zucKey k0 k1) params 1 = k1
      ∧ zucLoaded (zucKey k0 k1) params 2 = 0#32
      ∧ zucLoaded (zucKey k0 k1) params 3 = 0#32 := by
  have hzero : zucLfsrInitialization (beWord 0 0 0 0) = 0#32 := by decide
  refine ⟨?_, ?_, hzero, hzero⟩
  · exact (congrArg zucLfsrInitialization (beWord_byteOf k0)).trans h0
  · exact (congrArg zucLfsrInitialization (beWord_byteOf k1)).trans h1

/-- **COUNT, bearer and direction move the keystream of some key**, save for what is cut off when
they are loaded. -/
theorem zucParams_of_words
    (h : ∀ key k, 2 ≤ k → Keystream.word zucGenerateKeystream (zucInitContext key params) k
      = Keystream.word zucGenerateKeystream (zucInitContext key params') k) :
    zucLfsrInitialization params.count = zucLfsrInitialization params'.count
      ∧ zucLfsrInitialization (beWord params.bearer params.direction 0 0)
        = zucLfsrInitialization (beWord params'.bearer params'.direction 0 0) := by
  set c := zucLfsrInitialization params.count with hc
  set c' := zucLfsrInitialization params'.count with hc'
  set b := zucLfsrInitialization (beWord params.bearer params.direction 0 0) with hb
  set b' := zucLfsrInitialization (beWord params'.bearer params'.direction 0 0) with hb'
  have hcell : IsZucCell c := isZucCell_initialization _
  have hbell : IsZucCell b := isZucCell_initialization _
  -- the key is free to set the two arguments of the state machine's function
  have hfunction : ∀ u v, IsZucCell u → IsZucCell v →
      zucBoxes (zucBoxes u ^^^ v)
        ^^^ zucBoxes (zucBoxes (u ^^^ (b ^^^ b')) ^^^ (v ^^^ (c ^^^ c' ^^^ (b ^^^ b'))))
          = b ^^^ b' := by
    intro u v hu hv
    set k0 := v ^^^ c ^^^ b
    set k1 := u ^^^ b
    have hk0 : IsZucCell k0 := (hv.xor hcell).xor hbell
    have hk1 : IsZucCell k1 := hu.xor hbell
    have hthree := congrArg₂ (· ^^^ ·) (congrArg₂ (· ^^^ ·) (h (zucKey k0 k1) 4 (by decide))
      (h (zucKey k0 k1) 3 (by decide))) (h (zucKey k0 k1) 2 (by decide))
    simp only [zuc_three_words] at hthree
    obtain ⟨e0, e1, e2, e3⟩ := zucLoad_zucKey hk0 hk1 params
    obtain ⟨e0', e1', e2', e3'⟩ := zucLoad_zucKey hk0 hk1 params'
    rw [e0, e1, e2, e3, e0', e1', e2', e3', (zucLoad_params _ params).1, (zucLoad_params _ params).2,
      (zucLoad_params _ params').1, (zucLoad_params _ params').2, ← hc, ← hc', ← hb, ← hb'] at hthree
    have hu' : k1 ^^^ b = u := xor_xor_cancel_right u b
    have hv' : k0 ^^^ c ^^^ b = v := by
      calc v ^^^ c ^^^ b ^^^ c ^^^ b = v ^^^ (c ^^^ c) ^^^ (b ^^^ b) := by ac_rfl
        _ = v := by simp only [BitVec.xor_self, BitVec.xor_zero]
    have hdv : k0 ^^^ c' ^^^ b' = v ^^^ (c ^^^ c' ^^^ (b ^^^ b')) := by
      calc v ^^^ c ^^^ b ^^^ c' ^^^ b' = v ^^^ (c ^^^ c') ^^^ (b ^^^ b') := by ac_rfl
        _ = v ^^^ (c ^^^ c' ^^^ (b ^^^ b')) := BitVec.xor_assoc _ _ _
    have hdu : k1 ^^^ b' = u ^^^ (b ^^^ b') := BitVec.xor_assoc u b b'
    simp only [BitVec.xor_zero, hu', hv', hdu, hdv] at hthree
    rw [BitVec.xor_assoc k0, BitVec.xor_assoc k0] at hthree
    exact xor_eq_xor_of_xor_eq_xor (xor_left_cancel hthree)
  obtain ⟨hdb, hdc⟩ := eq_zero_of_zucBoxes hfunction
  rw [hdb, BitVec.xor_zero] at hdc
  exact ⟨xor_eq_zero.mp hdc, xor_eq_zero.mp hdb⟩

theorem zucBoxes_ne_xor_one (x : Word) : zucBoxes x ≠ zucBoxes (x ^^^ 1#32) := by
  have hcheck : ByteTable.check zucS1 zucS1 (fun s1 _ b => s1 b != s1 (b ^^^ 1)) = true := by
    decide +kernel
  intro h
  have hbyte := congrArg (byteOf · 0) h
  simp only [byteOf_zucBoxes _ (by decide : 0 < 4), byteOf_xor] at hbyte
  exact bne_iff_ne.mp (ByteTable.of_check hcheck (byteOf x 0)) hbyte

theorem exists_zuc_word_ne (key : Vector Byte 16) (bearer direction : Byte) :
    ∃ k, 2 ≤ k ∧ k < 5
      ∧ Keystream.word zucGenerateKeystream (zucInitContext key ⟨1, bearer, direction⟩) k
        ≠ Keystream.word zucGenerateKeystream (zucInitContext key ⟨0, bearer, direction⟩) k := by
  by_contra hcontra
  simp only [not_exists, not_and, not_not] at hcontra
  have hthree := congrArg₂ (· ^^^ ·) (congrArg₂ (· ^^^ ·) (hcontra 4 (by decide) (by decide))
    (hcontra 3 (by decide) (by decide))) (hcontra 2 (by decide) (by decide))
  have hone : zucLfsrInitialization 1 = 1#32 := by decide
  have hzero : zucLfsrInitialization 0 = 0#32 := by decide
  simp only [zuc_three_words, zucLoad_key, zucLoad_params, hone, hzero, BitVec.xor_zero] at hthree
  exact zucBoxes_ne_xor_one _ ((xor_left_cancel hthree).symm.trans (congrArg zucBoxes (by ac_rfl)))

end Params

end Uesim
