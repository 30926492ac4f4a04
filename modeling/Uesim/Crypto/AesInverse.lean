import Uesim.Crypto.Aes
import Uesim.Library.ByteTable
import Mathlib.Data.Fintype.Pi

/-!
# Encryption against decryption

`aes_decrypt_block` inverts the cipher of the standard, and `aes_encrypt_block` is not that cipher:
the last row of its column mixing adds `s3` once more than the standard does, so that three times `s3`
stands there for twice `s3`. The two agree on a column exactly when its bottom byte is zero, which is
to say when the bottom row of the state that enters the round is `0x52`, the byte the substitution
sends to zero.
-/

namespace Uesim

open Bytes

/-! ### Arithmetic on bytes -/

/-- Multiplication by two in the field of the standard. -/
def aesDouble (b : Byte) : Byte := (b <<< 1) ^^^ aesReduction b

theorem aesReduction_eq (b : Byte) : aesReduction b = if b.getLsbD 7 then 0x1b else 0 := by
  revert b
  decide +kernel

theorem aesReduction_xor (a b : Byte) :
    aesReduction (a ^^^ b) = aesReduction a ^^^ aesReduction b := by
  rw [aesReduction_eq, aesReduction_eq, aesReduction_eq, BitVec.getLsbD_xor]
  cases a.getLsbD 7 <;> cases b.getLsbD 7 <;> rfl

theorem aesDouble_xor (a b : Byte) : aesDouble (a ^^^ b) = aesDouble a ^^^ aesDouble b := by
  rw [aesDouble, aesReduction_xor, BitVec.shiftLeft_xor_distrib, xor_xor_xor_comm]
  rfl

theorem aesDouble_eq (b : Byte) :
    (if b &&& 0x80 ≠ 0 then (b <<< 1) ^^^ 0x1b else b <<< 1) = aesDouble b := by
  unfold aesDouble aesReduction
  split <;> simp

theorem aesMultiplyLoop_xor (n : Nat) (result result' temp temp' y : Byte) :
    aesMultiplyLoop n (result ^^^ result') (temp ^^^ temp') y
      = aesMultiplyLoop n result temp y ^^^ aesMultiplyLoop n result' temp' y := by
  induction n generalizing result result' temp temp' y with
  | zero => rfl
  | succ n ih =>
      simp only [aesMultiplyLoop, aesDouble_eq, aesDouble_xor]
      split
      · rw [xor_xor_xor_comm, ih]
      · rw [ih]

/-- `multiply` is additive in its first argument, so its values on any byte follow from the loop
alone and what is left of a matrix product is one sum for each coefficient. -/
theorem aesMultiply_xor (a b y : Byte) :
    aesMultiply (a ^^^ b) y = aesMultiply a y ^^^ aesMultiply b y := by
  have h := aesMultiplyLoop_xor 8 0 0 a b y
  rwa [BitVec.xor_self] at h

/-! ### Mixing of the standard -/

def standardMixColumn (c : AesColumn) : AesColumn where
  s0 := aesDouble c.s0 ^^^ (c.s1 ^^^ aesDouble c.s1) ^^^ c.s2 ^^^ c.s3
  s1 := c.s0 ^^^ aesDouble c.s1 ^^^ (c.s2 ^^^ aesDouble c.s2) ^^^ c.s3
  s2 := c.s0 ^^^ c.s1 ^^^ aesDouble c.s2 ^^^ (c.s3 ^^^ aesDouble c.s3)
  s3 := (c.s0 ^^^ aesDouble c.s0) ^^^ c.s1 ^^^ c.s2 ^^^ aesDouble c.s3

theorem aesMixColumn_eq (c : AesColumn) :
    aesMixColumn c = { standardMixColumn c with s3 := (standardMixColumn c).s3 ^^^ c.s3 } := by
  ext : 1 <;> simp only [aesMixColumn, standardMixColumn, aesDouble] <;> ac_rfl

theorem aesInvSubByte_aesSubByte (b : Byte) : aesInvSubByte (aesSubByte b) = b := by
  have hcheck : ByteTable.check aesSbox aesInvSbox (fun sub inv b => inv (sub b) == b) = true := by
    decide +kernel
  exact beq_iff_eq.mp (ByteTable.of_check hcheck b)

theorem aesSubByte_eq_zero_iff (b : Byte) : aesSubByte b = 0 ↔ b = 0x52 := by
  constructor
  · intro h
    rw [← aesInvSubByte_aesSubByte b, h]
    decide
  · rintro rfl
    decide

/-- What the byte `b` in one row of a column contributes to a sum of the four mixed rows with the
weights `k0` to `k3`, the first of which stands at the row of `b`. -/
def aesMixWeight (k0 k1 k2 k3 b : Byte) : Byte :=
  aesMultiply (aesDouble b) k0 ^^^ aesMultiply b k1 ^^^ aesMultiply b k2
    ^^^ aesMultiply (b ^^^ aesDouble b) k3

theorem standardMixColumn_weights (c : AesColumn) (k0 k1 k2 k3 : Byte) :
    aesMultiply (standardMixColumn c).s0 k0 ^^^ aesMultiply (standardMixColumn c).s1 k1
        ^^^ aesMultiply (standardMixColumn c).s2 k2 ^^^ aesMultiply (standardMixColumn c).s3 k3
      = aesMixWeight k0 k1 k2 k3 c.s0 ^^^ aesMixWeight k1 k2 k3 k0 c.s1
        ^^^ aesMixWeight k2 k3 k0 k1 c.s2 ^^^ aesMixWeight k3 k0 k1 k2 c.s3 := by
  simp only [standardMixColumn, aesMixWeight, aesMultiply_xor]
  ac_rfl

theorem aesMixWeight_isAdditive (k0 k1 k2 k3 : Byte) : IsAdditive (aesMixWeight k0 k1 k2 k3) := by
  intro a b
  simp only [aesMixWeight, aesDouble_xor, aesMultiply_xor]
  ac_rfl

theorem aesMixWeight_inv (b : Byte) :
    aesMixWeight 0x0e 0x0b 0x0d 0x09 b = b ∧ aesMixWeight 0x0b 0x0d 0x09 0x0e b = 0
      ∧ aesMixWeight 0x0d 0x09 0x0e 0x0b b = 0 ∧ aesMixWeight 0x09 0x0e 0x0b 0x0d b = 0 := by
  refine ⟨?_, ?_, ?_, ?_⟩
  · exact (aesMixWeight_isAdditive _ _ _ _).ext isAdditive_id (by decide +kernel) b
  · exact (aesMixWeight_isAdditive _ _ _ _).ext isAdditive_zero (by decide +kernel) b
  · exact (aesMixWeight_isAdditive _ _ _ _).ext isAdditive_zero (by decide +kernel) b
  · exact (aesMixWeight_isAdditive _ _ _ _).ext isAdditive_zero (by decide +kernel) b

/-- **`aes_inv_mix_columns` inverts the mixing of the standard.** -/
theorem aesInvMixColumn_standardMixColumn (c : AesColumn) :
    aesInvMixColumn (standardMixColumn c) = c := by
  obtain ⟨h00, h01, h02, h03⟩ := aesMixWeight_inv c.s0
  obtain ⟨h10, h11, h12, h13⟩ := aesMixWeight_inv c.s1
  obtain ⟨h20, h21, h22, h23⟩ := aesMixWeight_inv c.s2
  obtain ⟨h30, h31, h32, h33⟩ := aesMixWeight_inv c.s3
  ext : 1 <;> rw [aesInvMixColumn] <;> dsimp only <;> rw [standardMixColumn_weights]
  · rw [h00, h11, h22, h33]
    simp
  · rw [h03, h10, h21, h32]
    simp
  · rw [h02, h13, h20, h31]
    simp
  · rw [h01, h12, h23, h30]
    simp

/-- Only the last byte of two columns can be in question when the source mixes one to what the
standard mixes the other to. -/
theorem aesMixColumn_eq_standardMixColumn {c d : AesColumn} (h0 : c.s0 = d.s0) (h1 : c.s1 = d.s1)
    (h2 : c.s2 = d.s2) (h : aesMixColumn c = standardMixColumn d) : c = d ∧ d.s3 = 0 := by
  rw [aesMixColumn_eq] at h
  have hfirst := congrArg AesColumn.s0 h
  have hlast := congrArg AesColumn.s3 h
  simp only [standardMixColumn, h0, h1, h2] at hfirst hlast
  have h3 : c.s3 = d.s3 := xor_left_cancel hfirst
  refine ⟨AesColumn.ext h0 h1 h2 h3, ?_⟩
  rw [h3] at hlast
  exact xor_left_cancel (hlast.trans BitVec.xor_zero.symm)

theorem aesInvMixColumn_aesMixColumn (c : AesColumn) :
    aesInvMixColumn (aesMixColumn c)
      = ⟨c.s0 ^^^ aesMultiply c.s3 0x09, c.s1 ^^^ aesMultiply c.s3 0x0d,
        c.s2 ^^^ aesMultiply c.s3 0x0b, c.s3 ^^^ aesMultiply c.s3 0x0e⟩ := by
  have h := aesInvMixColumn_standardMixColumn c
  rw [aesMixColumn_eq]
  ext : 1 <;> simp only [aesInvMixColumn, aesMultiply_xor, ← BitVec.xor_assoc]
  · exact congrArg (fun x => x.s0 ^^^ aesMultiply c.s3 0x09) h
  · exact congrArg (fun x => x.s1 ^^^ aesMultiply c.s3 0x0d) h
  · exact congrArg (fun x => x.s2 ^^^ aesMultiply c.s3 0x0b) h
  · exact congrArg (fun x => x.s3 ^^^ aesMultiply c.s3 0x0e) h

private theorem aesMultiply_last (b : Byte) :
    aesMultiply (b ^^^ aesMultiply b 0x0e) 0xc7 = b := by
  have hlast : IsAdditive fun b => aesMultiply (b ^^^ aesMultiply b 0x0e) 0xc7 := by
    intro a b
    simp only [aesMultiply_xor]
    ac_rfl
  exact hlast.ext isAdditive_id (by decide +kernel) b

/-- The mixing of the source loses nothing: what it does to a column can be read off its last byte,
and that byte survives. -/
theorem aesMixColumn_injective : Function.Injective aesMixColumn := by
  intro c d h
  have hinv := congrArg aesInvMixColumn h
  rw [aesInvMixColumn_aesMixColumn, aesInvMixColumn_aesMixColumn] at hinv
  simp only [AesColumn.mk.injEq] at hinv
  obtain ⟨h0, h1, h2, h3⟩ := hinv
  have hs3 : c.s3 = d.s3 := by
    rw [← aesMultiply_last c.s3, h3, aesMultiply_last]
  rw [hs3] at h0 h1 h2
  exact AesColumn.ext (xor_right_cancel h0) (xor_right_cancel h1) (xor_right_cancel h2) hs3

/-! ### The cipher of the standard -/

def standardMixColumns (state : AesState) : AesState := state.mapColumns standardMixColumn

def standardRound (roundKey : AesRoundKey) (state : AesState) : AesState :=
  aesAddRoundKey (standardMixColumns (aesShiftRows (aesSubBytes state))) roundKey

/-- The state that enters round `n + 1` of the standard. -/
def standardRounds (ctx : AesContext) (state : AesState) : Nat → AesState
  | 0 => aesAddRoundKey state (ctx.roundKeyAt 0)
  | n + 1 => standardRound (ctx.roundKeyAt (n + 1)) (standardRounds ctx state n)

def standardEncryptBlock (ctx : AesContext) (plaintext : AesBlock) : AesBlock :=
  let state := standardRounds ctx (aesLoadState plaintext) (aesRounds - 1)
  aesStoreState (aesAddRoundKey (aesShiftRows (aesSubBytes state)) (ctx.roundKeyAt aesRounds))

theorem aesAddRoundKey_aesAddRoundKey (state : AesState) (roundKey : AesRoundKey) :
    aesAddRoundKey (aesAddRoundKey state roundKey) roundKey = state := by
  simp [aesAddRoundKey, AesColumn.addKeyWord]

theorem aesInvShiftRows_aesShiftRows (state : AesState) :
    aesInvShiftRows (aesShiftRows state) = state := rfl

theorem aesInvSubBytes_aesSubBytes (state : AesState) :
    aesInvSubBytes (aesSubBytes state) = state := by
  simp [aesInvSubBytes, aesSubBytes, AesState.mapColumns, AesColumn.map, aesInvSubByte_aesSubByte]

theorem aesInvMixColumns_standardMixColumns (state : AesState) :
    aesInvMixColumns (standardMixColumns state) = state := by
  simp [aesInvMixColumns, standardMixColumns, AesState.mapColumns,
    aesInvMixColumn_standardMixColumn]

theorem aesLoadState_aesStoreState (state : AesState) :
    aesLoadState (aesStoreState state) = state := rfl

theorem aesStoreState_aesLoadState (block : AesBlock) :
    aesStoreState (aesLoadState block) = block := by
  apply Vector.ext
  intro i hi
  match i with
  | 0 | 1 | 2 | 3 | 4 | 5 | 6 | 7 | 8 | 9 | 10 | 11 | 12 | 13 | 14 | 15 => rfl
  | i + 16 => omega

/-- One round of decryption takes one round of the standard back, a substitution and a row shift
further on. -/
theorem aesDecryptRound_standardRound (roundKey : AesRoundKey) (state : AesState) :
    aesDecryptRound roundKey (aesShiftRows (aesSubBytes (standardRound roundKey state)))
      = aesShiftRows (aesSubBytes state) := by
  rw [aesDecryptRound, aesInvShiftRows_aesShiftRows, aesInvSubBytes_aesSubBytes, standardRound,
    aesAddRoundKey_aesAddRoundKey, aesInvMixColumns_standardMixColumns]

theorem aesDecryptRounds_standardRounds (ctx : AesContext) (state : AesState) (n : Nat) :
    aesDecryptRounds ctx n (aesShiftRows (aesSubBytes (standardRounds ctx state n)))
      = aesShiftRows (aesSubBytes (standardRounds ctx state 0)) := by
  induction n with
  | zero => rfl
  | succ n ih =>
      rw [aesDecryptRounds, ← ih]
      exact congrArg _ (aesDecryptRound_standardRound _ _)

/-- **`aes_decrypt_block` inverts the cipher of the standard.** -/
theorem aesDecryptBlock_standardEncryptBlock (ctx : AesContext) (plaintext : AesBlock) :
    aesDecryptBlock ctx (standardEncryptBlock ctx plaintext) = plaintext := by
  simp only [standardEncryptBlock, aesDecryptBlock]
  rw [aesLoadState_aesStoreState, aesAddRoundKey_aesAddRoundKey, aesDecryptRounds_standardRounds,
    aesInvShiftRows_aesShiftRows, aesInvSubBytes_aesSubBytes, standardRounds,
    aesAddRoundKey_aesAddRoundKey, aesStoreState_aesLoadState]

/-! ### Nothing is lost -/

theorem aesAddRoundKey_injective (roundKey : AesRoundKey) :
    Function.Injective fun state => aesAddRoundKey state roundKey :=
  Function.LeftInverse.injective (g := fun state => aesAddRoundKey state roundKey)
    fun state => aesAddRoundKey_aesAddRoundKey state roundKey

theorem aesShiftRows_aesSubBytes_injective :
    Function.Injective fun state => aesShiftRows (aesSubBytes state) :=
  Function.LeftInverse.injective (g := fun state => aesInvSubBytes (aesInvShiftRows state))
    fun state => aesInvSubBytes_aesSubBytes state

theorem aesMixColumns_injective : Function.Injective aesMixColumns := by
  intro s t h
  simp only [aesMixColumns, AesState.mapColumns, AesState.mk.injEq] at h
  obtain ⟨h0, h1, h2, h3⟩ := h
  exact AesState.ext (aesMixColumn_injective h0) (aesMixColumn_injective h1)
    (aesMixColumn_injective h2) (aesMixColumn_injective h3)

theorem aesEncryptRound_injective (roundKey : AesRoundKey) :
    Function.Injective (aesEncryptRound roundKey) := by
  intro s t h
  exact aesShiftRows_aesSubBytes_injective
    (aesMixColumns_injective (aesAddRoundKey_injective roundKey h))

theorem aesEncryptRounds_injective (ctx : AesContext) (n : Nat) :
    Function.Injective fun state => aesEncryptRounds ctx state n := by
  induction n with
  | zero => exact aesAddRoundKey_injective _
  | succ n ih => exact (aesEncryptRound_injective _).comp ih

theorem aesLoadState_injective : Function.Injective aesLoadState :=
  Function.LeftInverse.injective aesStoreState_aesLoadState

theorem aesStoreState_injective : Function.Injective aesStoreState :=
  Function.LeftInverse.injective aesLoadState_aesStoreState

theorem aesLastStep_injective (ctx : AesContext) :
    Function.Injective fun state => aesStoreState
      (aesAddRoundKey (aesShiftRows (aesSubBytes state)) (ctx.roundKeyAt aesRounds)) := by
  intro s t h
  exact aesShiftRows_aesSubBytes_injective
    (aesAddRoundKey_injective _ (aesStoreState_injective h))

/-- **Encryption is injective**, for all that decryption does not invert it. -/
theorem aesEncryptBlock_injective (ctx : AesContext) : Function.Injective (aesEncryptBlock ctx) := by
  intro p q h
  exact aesLoadState_injective (aesEncryptRounds_injective ctx _ (aesLastStep_injective ctx h))

/-- Decryption gives a block back exactly when encryption made of it what the standard does: the
standard reaches every block, and decryption tells its blocks apart. -/
theorem aesDecryptBlock_eq_iff (ctx : AesContext) (plaintext : AesBlock) :
    aesDecryptBlock ctx (aesEncryptBlock ctx plaintext) = plaintext
      ↔ aesEncryptBlock ctx plaintext = standardEncryptBlock ctx plaintext := by
  constructor
  · intro h
    have hfinite : Finite AesBlock := by
      refine Finite.of_injective (fun (block : AesBlock) (i : Fin 16) => block[i].toFin) ?_
      intro p q hpq
      apply Vector.ext
      intro i hi
      exact BitVec.toFin_inj.mp (congrFun hpq ⟨i, hi⟩)
    have hinjective : Function.Injective (standardEncryptBlock ctx) :=
      Function.LeftInverse.injective (aesDecryptBlock_standardEncryptBlock ctx)
    obtain ⟨q, hq⟩ := Finite.surjective_of_injective hinjective (aesEncryptBlock ctx plaintext)
    have hplain : q = plaintext := by
      rw [← h, ← hq, aesDecryptBlock_standardEncryptBlock]
    rw [← hq, hplain]
  · intro h
    rw [h, aesDecryptBlock_standardEncryptBlock]

/-! ### When the error does not show -/

/-- The bottom row of a state holds the byte that the substitution sends to zero. -/
def AesState.BottomRowVanishes (state : AesState) : Prop :=
  state.c0.s3 = 0x52 ∧ state.c1.s3 = 0x52 ∧ state.c2.s3 = 0x52 ∧ state.c3.s3 = 0x52

instance (state : AesState) : Decidable state.BottomRowVanishes :=
  inferInstanceAs (Decidable (_ ∧ _ ∧ _ ∧ _))

def AesState.clearBottomRow (state : AesState) : AesState :=
  state.mapColumns fun c => { c with s3 := 0 }

theorem aesMixColumn_of_s3_eq_zero {c : AesColumn} (h : c.s3 = 0) :
    aesMixColumn c = standardMixColumn c := by
  simp [aesMixColumn_eq, h]

/-- One round of the source against one round of the standard, from states that differ at most in
their bottom rows. -/
theorem aesEncryptRound_eq_standardRound_iff {roundKey : AesRoundKey} {s t : AesState}
    (hrows : s.clearBottomRow = t.clearBottomRow) :
    aesEncryptRound roundKey s = standardRound roundKey t ↔ s = t ∧ t.BottomRowVanishes := by
  constructor
  · intro h
    have hmix := aesAddRoundKey_injective roundKey h
    simp only [aesMixColumns, standardMixColumns, AesState.mapColumns, AesState.mk.injEq] at hmix
    obtain ⟨h0, h1, h2, h3⟩ := hmix
    simp only [AesState.clearBottomRow, AesState.mapColumns, AesState.mk.injEq,
      AesColumn.mk.injEq, and_true] at hrows
    obtain ⟨⟨h00, h01, h02⟩, ⟨h10, h11, h12⟩, ⟨h20, h21, h22⟩, ⟨h30, h31, h32⟩⟩ := hrows
    obtain ⟨e0, z0⟩ := aesMixColumn_eq_standardMixColumn (congrArg aesSubByte h00)
      (congrArg aesSubByte h11) (congrArg aesSubByte h22) h0
    obtain ⟨e1, z1⟩ := aesMixColumn_eq_standardMixColumn (congrArg aesSubByte h10)
      (congrArg aesSubByte h21) (congrArg aesSubByte h32) h1
    obtain ⟨e2, z2⟩ := aesMixColumn_eq_standardMixColumn (congrArg aesSubByte h20)
      (congrArg aesSubByte h31) (congrArg aesSubByte h02) h2
    obtain ⟨e3, z3⟩ := aesMixColumn_eq_standardMixColumn (congrArg aesSubByte h30)
      (congrArg aesSubByte h01) (congrArg aesSubByte h12) h3
    -- the row shift takes the bottom byte of each column from the column before it
    exact ⟨aesShiftRows_aesSubBytes_injective (AesState.ext e0 e1 e2 e3),
      (aesSubByte_eq_zero_iff _).mp z1, (aesSubByte_eq_zero_iff _).mp z2,
      (aesSubByte_eq_zero_iff _).mp z3, (aesSubByte_eq_zero_iff _).mp z0⟩
  · rintro ⟨rfl, h0, h1, h2, h3⟩
    have hcolumns : aesMixColumns (aesShiftRows (aesSubBytes s))
        = standardMixColumns (aesShiftRows (aesSubBytes s)) := by
      apply AesState.ext
      · exact aesMixColumn_of_s3_eq_zero ((aesSubByte_eq_zero_iff _).mpr h3)
      · exact aesMixColumn_of_s3_eq_zero ((aesSubByte_eq_zero_iff _).mpr h0)
      · exact aesMixColumn_of_s3_eq_zero ((aesSubByte_eq_zero_iff _).mpr h1)
      · exact aesMixColumn_of_s3_eq_zero ((aesSubByte_eq_zero_iff _).mpr h2)
    rw [aesEncryptRound, standardRound, hcolumns]

theorem aesEncryptRound_of_bottomRowVanishes {state : AesState} (h : state.BottomRowVanishes)
    (roundKey : AesRoundKey) : aesEncryptRound roundKey state = standardRound roundKey state :=
  (aesEncryptRound_eq_standardRound_iff rfl).mpr ⟨rfl, h⟩

theorem clearBottomRow_aesEncryptRound (roundKey : AesRoundKey) (state : AesState) :
    (aesEncryptRound roundKey state).clearBottomRow
      = (standardRound roundKey state).clearBottomRow := by
  simp [aesEncryptRound, standardRound, aesMixColumns, standardMixColumns, aesAddRoundKey,
    AesState.clearBottomRow, AesState.mapColumns, AesColumn.addKeyWord, aesMixColumn_eq]

/-- Two rounds agree with the standard only if neither of them went wrong: an error of the first
reaches the top row in the second, and the second can only change the bottom row. -/
theorem bottomRowVanishes_of_two_rounds {roundKey roundKey' : AesRoundKey} {state : AesState}
    (h : aesEncryptRound roundKey' (aesEncryptRound roundKey state)
      = standardRound roundKey' (standardRound roundKey state)) :
    state.BottomRowVanishes ∧ (standardRound roundKey state).BottomRowVanishes := by
  have hsecond := (aesEncryptRound_eq_standardRound_iff
    (clearBottomRow_aesEncryptRound roundKey state)).mp h
  exact ⟨((aesEncryptRound_eq_standardRound_iff rfl).mp hsecond.1).2, hsecond.2⟩

section Rounds

variable {ctx : AesContext} {state : AesState}

theorem aesEncryptRounds_eq_standardRounds {n : Nat}
    (h : ∀ r < n, (standardRounds ctx state r).BottomRowVanishes) :
    aesEncryptRounds ctx state n = standardRounds ctx state n := by
  induction n with
  | zero => rfl
  | succ n ih =>
      rw [aesEncryptRounds, ih fun r hr => h r (by omega),
        aesEncryptRound_of_bottomRowVanishes (h n (by omega)), standardRounds]

theorem aesEncryptRounds_eq_of_later {m n : Nat} (hmn : m ≤ n)
    (hlater : ∀ r, m ≤ r → r < n → (standardRounds ctx state r).BottomRowVanishes)
    (h : aesEncryptRounds ctx state n = standardRounds ctx state n) :
    aesEncryptRounds ctx state m = standardRounds ctx state m := by
  induction n with
  | zero =>
      obtain rfl : m = 0 := by omega
      exact h
  | succ n ih =>
      rcases Nat.lt_or_ge n m with hlt | hge
      · obtain rfl : m = n + 1 := by omega
        exact h
      · rw [aesEncryptRounds, standardRounds,
          ← aesEncryptRound_of_bottomRowVanishes (hlater n hge (by omega))] at h
        exact ih hge (fun r hr hrn => hlater r hr (by omega)) (aesEncryptRound_injective _ h)

end Rounds

/-- **What decryption makes of encryption**, for any round keys. A block is given back exactly when
encryption agreed with the standard on it. This is so when the bottom row vanishes in all nine states
of the standard that a column mixing is entered from; and where it does so from the third state on,
the first two states must have it too. -/
theorem aesDecryptBlock_aesEncryptBlock (ctx : AesContext) (plaintext : AesBlock) :
    let entering := standardRounds ctx (aesLoadState plaintext)
    (aesDecryptBlock ctx (aesEncryptBlock ctx plaintext) = plaintext
        ↔ aesEncryptBlock ctx plaintext = standardEncryptBlock ctx plaintext)
      ∧ ((∀ r < 9, (entering r).BottomRowVanishes) →
        aesDecryptBlock ctx (aesEncryptBlock ctx plaintext) = plaintext)
      ∧ ((∀ r, 2 ≤ r → r < 9 → (entering r).BottomRowVanishes) →
        aesDecryptBlock ctx (aesEncryptBlock ctx plaintext) = plaintext →
        ∀ r < 9, (entering r).BottomRowVanishes) := by
  intro entering
  refine ⟨aesDecryptBlock_eq_iff ctx plaintext, ?_, ?_⟩
  · intro hall
    rw [aesDecryptBlock_eq_iff]
    simp only [aesEncryptBlock, standardEncryptBlock]
    rw [aesEncryptRounds_eq_standardRounds (n := aesRounds - 1) hall]
  · intro hlater hback r hr
    rw [aesDecryptBlock_eq_iff] at hback
    have hlast : aesEncryptRounds ctx (aesLoadState plaintext) 9
        = standardRounds ctx (aesLoadState plaintext) 9 := aesLastStep_injective ctx hback
    have htwo := aesEncryptRounds_eq_of_later (m := 2) (by omega) hlater hlast
    have hfirst := bottomRowVanishes_of_two_rounds htwo
    match r with
    | 0 => exact hfirst.1
    | 1 => exact hfirst.2
    | r + 2 => exact hlater (r + 2) (by omega) hr

/-- The upper rows of these round keys are those of an expanded key; their bottom rows bring the bottom
row of every state but the last to `0x52`. No key is known whose own expansion does so. -/
theorem aesDecryptBlock_aesEncryptBlock_forced :
    let ctx : AesContext :=
      { roundKey := #v[⟨0x00010261, 0x04050625, 0x08090ae9, 0x0c0d0ead⟩,
          ⟨0xd6aa7444, 0xd2af72c8, 0xdaa678d9, 0xd6ab769d⟩,
          ⟨0xb692cf50, 0x643dbd07, 0xbe9bc55f, 0x6830b3c4⟩,
          ⟨0xb6ff7467, 0xd2c2c9bb, 0x6c590cc5, 0x0469bf05⟩,
          ⟨0x47f7f7d7, 0x95353ea8, 0xf96c32a0, 0xfd058de4⟩,
          ⟨0x3caaa345, 0xa99f9d68, 0x50f3af1c, 0xadf622ce⟩,
          ⟨0x5e390f7c, 0xf7a69203, 0xa7553da0, 0x0aa31f8b⟩,
          ⟨0x14f970b0, 0xe35fe2a4, 0x440adfdf, 0x4ea9c018⟩,
          ⟨0x4743870d, 0xa41c6581, 0xe016bad6, 0xaebf7a0c⟩,
          ⟨0x549932d1, 0xf0855768, 0x1093ed9c, 0xbe2c974e⟩,
          ⟨0x13111d7f, 0xe3944a17, 0xf307a78b, 0x4d2b30c5⟩]
        key := #v[0x00, 0x01, 0x02, 0x03, 0x04, 0x05, 0x06, 0x07, 0x08, 0x09, 0x0a, 0x0b, 0x0c, 0x0d,
          0x0e, 0x0f] }
    let plaintext : AesBlock := #v[0x00, 0x11, 0x22, 0x33, 0x44, 0x55, 0x66, 0x77, 0x88, 0x99, 0xaa,
      0xbb, 0xcc, 0xdd, 0xee, 0xff]
    aesDecryptBlock ctx (aesEncryptBlock ctx plaintext) = plaintext :=
  (aesDecryptBlock_aesEncryptBlock _ _).2.1 (by decide +kernel)

theorem aesDecryptBlock_aesEncryptBlock_zero :
    ¬ ∀ (key : Vector Byte 16) (plaintext : AesBlock),
      aesDecryptBlock (aesInitContext key) (aesEncryptBlock (aesInitContext key) plaintext)
        = plaintext := by
  intro h
  exact absurd (h (Vector.replicate 16 0) (Vector.replicate 16 0)) (by decide +kernel)

end Uesim
