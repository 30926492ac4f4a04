import Uesim.Crypto.Snow3g
import Uesim.Library.CarrySums

/-!
# What the SNOW 3G keystream gives away

The state machine runs through the same states whatever the key, so a keystream word is a register
cell plus a word that everybody knows. The register is a linear recurrence in which the oldest cell
feeds back, and its tail determines the whole of it. Hence two runs with the same key and the same
keystream, from some word on, were given the same parameters.

As the machine adds its word to the cell with carries, a sum of keystream words may still depend on
the key when the cells cancel. It does not when every combination of cells stands an even number of
times beside every word, and only then.
-/

namespace Uesim

open Bytes

def snow3gSequence (ctx : Snow3gContext) (k : Nat) : Word :=
  Lfsr.oldest snow3gClock Snow3gContext.lfsr ctx k

theorem snow3gClock_lfsr (ctx : Snow3gContext) :
    (snow3gClock ctx).lfsr = Lfsr.shiftIn ctx.lfsr (snow3gLfsrFeedback ctx.lfsr) := rfl

theorem snow3gClock_iterate_lfsr (ctx : Snow3gContext) (k : Nat) {i : Nat} (hi : i < 16) :
    cell (snow3gClock^[k] ctx).lfsr i = snow3gSequence ctx (k + i) :=
  (cell_of_lt _ hi).trans (Lfsr.getElem_cells_iterate (n := 15) snow3gClock_lfsr ctx k i hi)

theorem snow3gSequence_isLinRec (ctx : Snow3gContext) :
    Lfsr.IsLinRec 16 [0, 2, 5, 11] (snow3gSequence ctx) := by
  intro k
  have hfeedback : snow3gSequence ctx (k + 16) = snow3gLfsrFeedback (snow3gClock^[k] ctx).lfsr :=
    Lfsr.oldest_add_length (n := 15) snow3gClock_lfsr ctx k
  rw [hfeedback, snow3gLfsrFeedback]
  simp only [snow3gClock_iterate_lfsr, Nat.reduceLT]
  simp [BitVec.xor_assoc]

theorem snow3gClock_iterate_fsm (ctx : Snow3gContext) (k : Nat) :
    (snow3gClock^[k] ctx).fsm = snow3gFsmNext^[k] ctx.fsm := by
  induction k with
  | zero => rfl
  | succ k ih =>
      rw [Function.iterate_succ_apply', Function.iterate_succ_apply', ← ih]
      rfl

theorem word_snow3gGenerateKeystream (ctx : Snow3gContext) (k : Nat) :
    Keystream.word snow3gGenerateKeystream ctx k
      = snow3gSequence ctx (k + 16) + (snow3gFsmNext^[k + 1] ctx.fsm).r0 := by
  have hword : Keystream.word snow3gGenerateKeystream ctx k
      = cell (snow3gClock^[k + 1] ctx).lfsr 15 + (snow3gClock^[k + 1] ctx).fsm.r0 := by
    rw [Function.iterate_succ_apply']
    rfl
  rw [hword, snow3gClock_iterate_lfsr _ _ (by decide : 15 < 16), snow3gClock_iterate_fsm,
    Nat.add_assoc]

theorem snow3gInitContext_fsm (key : Vector Byte 16) (params : PdcpCipherParams) :
    (snow3gInitContext key params).fsm = snow3gFsmNext^[32] ⟨0, 0, 0⟩ :=
  snow3gClock_iterate_fsm (snow3gLoad key params) 32

theorem snow3gSequence_initContext (key : Vector Byte 16) (params : PdcpCipherParams) (k : Nat) :
    snow3gSequence (snow3gInitContext key params) k = snow3gSequence (snow3gLoad key params) (k + 32) := by
  rw [snow3gSequence, snow3gInitContext, Lfsr.oldest, ← Function.iterate_add_apply]
  rfl

theorem snow3gLoad_params (key : Vector Byte 16) (params : PdcpCipherParams) :
    cell (snow3gLoad key params).lfsr 4 = params.count
      ∧ cell (snow3gLoad key params).lfsr 5 = beWord params.bearer params.direction 0 0 :=
  ⟨(blockWord_packIv params).1, rfl⟩

/-- **Parameters can be read off the keystream.** For one key, runs that agree from some word on have
the same parameters. -/
theorem snow3gParams_eq_of_words {key : Vector Byte 16} {params params' : PdcpCipherParams} {m : Nat}
    (h : ∀ k, m ≤ k → Keystream.word snow3gGenerateKeystream (snow3gInitContext key params) k
      = Keystream.word snow3gGenerateKeystream (snow3gInitContext key params') k) :
    params = params' := by
  have htail : ∀ k, m + 48 ≤ k → snow3gSequence (snow3gLoad key params) k
      = snow3gSequence (snow3gLoad key params') k := by
    intro k hk
    have hword := h (k - 48) (by omega)
    rw [word_snow3gGenerateKeystream, word_snow3gGenerateKeystream, snow3gInitContext_fsm,
      snow3gInitContext_fsm] at hword
    have hcell := add_right_cancel hword
    rwa [snow3gSequence_initContext, snow3gSequence_initContext,
      show k - 48 + 16 + 32 = k by omega] at hcell
  have hsequence : snow3gSequence (snow3gLoad key params) = snow3gSequence (snow3gLoad key params') :=
    Lfsr.IsLinRec.eq_of_tail (by decide) (by decide) (snow3gSequence_isLinRec _)
      (snow3gSequence_isLinRec _) htail
  have hcells : ∀ i < 16, cell (snow3gLoad key params).lfsr i = cell (snow3gLoad key params').lfsr i := by
    intro i hi
    have hcell := snow3gClock_iterate_lfsr (snow3gLoad key params) 0 hi
    have hcell' := snow3gClock_iterate_lfsr (snow3gLoad key params') 0 hi
    rw [Function.iterate_zero_apply] at hcell hcell'
    rw [hcell, hcell', hsequence]
  have hcount := hcells 4 (by decide)
  have hrest := hcells 5 (by decide)
  rw [(snow3gLoad_params key params).1, (snow3gLoad_params key params').1] at hcount
  rw [(snow3gLoad_params key params).2, (snow3gLoad_params key params').2] at hrest
  have hbearer : params.bearer = params'.bearer := by
    simpa using congrArg (byteOf · 3) hrest
  have hdirection : params.direction = params'.direction := by
    simpa using congrArg (byteOf · 2) hrest
  cases params
  cases params'
  simp_all

theorem exists_snow3gComputeMac_ne (key : Vector Byte 16) {params params' : PdcpCipherParams}
    (h : params ≠ params') :
    ∃ message, message ≠ []
      ∧ snow3gComputeMac key message params ≠ snow3gComputeMac key message params' := by
  by_contra hcontra
  simp only [not_exists, not_and, not_not] at hcontra
  exact h (snow3gParams_eq_of_words (Keystream.word_eq_of_tag_eq _ _ hcontra))

/-! ### Keystream words as sums -/

/-- Cell `i` of the register as it is loaded. -/
def snow3gLoaded (key : Vector Byte 16) (params : PdcpCipherParams) (i : Nat) : Word :=
  cell (snow3gLoad key params).lfsr i

/-- Keystream word `k`: the exclusive or of some of the six loaded cells, and a word of the state machine
that everybody knows. -/
def snow3gTerm (k : Nat) : CarrySums.Term 6 where
  cells := (Lfsr.coeff 16 [0, 2, 5, 11] (k + 48)).setWidth 6
  known := (snow3gFsmNext^[k + 33] ⟨0, 0, 0⟩).r0

theorem word_eq_value (key : Vector Byte 16) (params : PdcpCipherParams) (k : Nat) :
    Keystream.word snow3gGenerateKeystream (snow3gInitContext key params) k
      = (snow3gTerm k).value (snow3gLoaded key params) := by
  have hempty : ∀ i, 6 ≤ i → i < 16 → snow3gSequence (snow3gLoad key params) i = 0 := by
    intro i hi hlt
    rw [← Nat.zero_add i, ← snow3gClock_iterate_lfsr _ 0 hlt]
    match i with
    | 6 | 7 => exact (by decide : beWord 0 0 0 0 = 0)
    | 8 | 9 | 10 | 11 | 12 | 13 | 14 | 15 => rfl
    | 0 | 1 | 2 | 3 | 4 | 5 => omega
    | i + 16 => omega
  have hfirst : ∀ i < 6, snow3gSequence (snow3gLoad key params) i = snow3gLoaded key params i := by
    intro i hi
    have hcell := snow3gClock_iterate_lfsr (snow3gLoad key params) 0 (show i < 16 by omega)
    rw [Nat.zero_add] at hcell
    exact hcell.symm
  have hcells : snow3gSequence (snow3gLoad key params) (k + 48)
      = Lfsr.select (snow3gTerm k).cells (snow3gLoaded key params) := by
    rw [(snow3gSequence_isLinRec (snow3gLoad key params)).eq_select (by decide) (k + 48),
      Lfsr.select_setWidth (by decide : 6 ≤ 16) _ hempty, snow3gTerm]
    exact Lfsr.select_congr hfirst
  rw [word_snow3gGenerateKeystream, snow3gSequence_initContext, snow3gInitContext_fsm,
    ← Function.iterate_add_apply, hcells]
  rfl

theorem fits_snow3gLoaded (key : Vector Byte 16) (params : PdcpCipherParams) :
    CarrySums.Fits 5 (snow3gLoaded key params) := by
  have hcell : snow3gLoaded key params 5 = beWord params.bearer params.direction 0 0 := rfl
  rw [CarrySums.fits_iff, hcell]
  exact ⟨byteOf_beWord_zero _ _ _ _, byteOf_beWord_one _ _ _ _⟩

/-- Key, COUNT, bearer and direction fill the six cells with anything that fits. -/
theorem exists_snow3gLoaded {x : Nat → Word} (hx : CarrySums.Fits 5 x) :
    ∃ key params, ∀ i < 6, snow3gLoaded key params i = x i := by
  obtain ⟨hzero, hone⟩ := CarrySums.fits_iff.mp hx
  refine ⟨keyOfWords x, ⟨x 4, byteOf (x 5) 3, byteOf (x 5) 2⟩, fun i hi => ?_⟩
  match i with
  | 0 | 1 | 2 | 3 => exact blockWord_keyOfWords x (by decide)
  | 4 => exact (blockWord_packIv _).1
  | 5 =>
      have hcell := beWord_byteOf (x 5)
      rw [hzero, hone] at hcell
      exact hcell
  | i + 6 => omega

/-! ### The words of the state machine -/

/-- Words whose two halves are alike, with a low byte that is a multiple of sixty-four. -/
structure IsTwin (word : Word) : Prop where
  upper : byteOf word 3 = byteOf word 1
  lower : byteOf word 2 = byteOf word 0
  even : byteOf word 0 &&& 0x3f = 0

theorem IsTwin.next {fsm : Snow3gFsm} (h1 : IsTwin fsm.r1) (h2 : IsTwin fsm.r2) :
    IsTwin (snow3gFsmFunction fsm) := by
  have hbox : ∀ b : Byte, snow3gS2Box b &&& 0x3f = b &&& 0x3f := by decide +kernel
  refine ⟨?_, ?_, ?_⟩
  · simp only [snow3gFsmFunction, byteOf_xor, byteOf_beWord_three, byteOf_beWord_one, h1.upper, h2.upper]
  · simp only [snow3gFsmFunction, byteOf_xor, byteOf_beWord_two, byteOf_beWord_zero, h1.lower, h2.lower]
  · rw [snow3gFsmFunction, byteOf_xor, byteOf_beWord_zero, xor_and, hbox, h1.even, h2.even]
    rfl

theorem isTwin_iterate (k : Nat) :
    IsTwin (snow3gFsmNext^[k] ⟨0, 0, 0⟩).r0 ∧ IsTwin (snow3gFsmNext^[k] ⟨0, 0, 0⟩).r1
      ∧ IsTwin (snow3gFsmNext^[k] ⟨0, 0, 0⟩).r2 := by
  have hzero : IsTwin 0 := ⟨rfl, rfl, rfl⟩
  induction k with
  | zero => exact ⟨hzero, hzero, hzero⟩
  | succ k ih =>
      rw [Function.iterate_succ_apply']
      exact ⟨ih.2.1, ih.2.2, IsTwin.next ih.2.1 ih.2.2⟩

/-- The state machine's words are far enough from a power of two. -/
theorem IsTwin.exists_spread {word : Word} (h : IsTwin word) (hne : word &&& 0x7fffffff ≠ 0) :
    ∃ u, CarrySums.Spread 5 (0x80000000 - (word &&& 0x7fffffff)) u := by
  have hlow : ∀ b : Byte, b &&& 0x3f = 0 → b ∈ [(0 : Byte), 0x40, 0x80, 0xc0] := by decide +kernel
  have hbits : ∀ b ∈ [(0 : Byte), 0x40, 0x80, 0xc0], ∀ a : Byte, beWord a b a b &&& 0x7fffffff ≠ 0 →
      5 < ((List.range' 16 16).filter (0x80000000 - (beWord a b a b &&& 0x7fffffff)).getLsbD).length := by
    decide +kernel
  have hword : word = beWord (byteOf word 1) (byteOf word 0) (byteOf word 1) (byteOf word 0) := by
    conv_lhs => rw [← beWord_byteOf word, h.upper, h.lower]
  rw [hword] at hne ⊢
  exact CarrySums.exists_spread (hbits _ (hlow _ h.even) _ hne)

/-- **What SNOW 3G lets two messages share.** They have one tag under every key and all parameters exactly
when the keystream words that only the longer one takes in add up to a word that depends on neither, and
that word makes up for the difference of the messages. -/
theorem snow3gComputeMac_eq_iff (m m' : List Byte) :
    (∀ key params, snow3gComputeMac key m params = snow3gComputeMac key m' params)
      ↔ CarrySums.Settled ((Keystream.beyond (Keystream.loadWords m).length
          (Keystream.loadWords m').length).map snow3gTerm)
        ∧ xorSum (((Keystream.beyond (Keystream.loadWords m).length
          (Keystream.loadWords m').length).map snow3gTerm).map CarrySums.Term.known)
          = xorSum (Keystream.loadWords m) ^^^ xorSum (Keystream.loadWords m') := by
  set places := Keystream.beyond (Keystream.loadWords m).length (Keystream.loadWords m').length
  set difference := xorSum (Keystream.loadWords m) ^^^ xorSum (Keystream.loadWords m')
  have htag : ∀ key params, snow3gComputeMac key m params = snow3gComputeMac key m' params
      ↔ CarrySums.total (places.map snow3gTerm) (snow3gLoaded key params) = difference := by
    intro key params
    rw [snow3gComputeMac, snow3gComputeMac, Keystream.tag_eq_tag_iff, CarrySums.total, List.map_map]
    have hwords : places.map (Keystream.word snow3gGenerateKeystream (snow3gInitContext key params))
        = places.map (CarrySums.Term.value (snow3gLoaded key params) ∘ snow3gTerm) :=
      List.map_congr_left fun k _ => word_eq_value key params k
    rw [hwords]
  have hspread : ∀ k ∈ (places.map snow3gTerm).map CarrySums.Term.kind, k.cells ≠ CarrySums.lastAlone 5 →
      k.known ≠ 0 → ∃ u, CarrySums.Spread 5 k.gap u := by
    intro k hk hlast hknown
    obtain ⟨t, ht, rfl⟩ := List.mem_map.mp hk
    obtain ⟨place, -, rfl⟩ := List.mem_map.mp ht
    have hcells : (snow3gTerm place).cells ≠ CarrySums.lastAlone 5 := hlast
    have hkind : (snow3gTerm place).kind.known = (snow3gTerm place).known &&& 0x7fffffff := by
      rw [CarrySums.Term.kind, if_neg hcells]
    rw [CarrySums.Term.gap, hkind]
    exact (isTwin_iterate (place + 33)).1.exists_spread (hkind ▸ hknown)
  rw [← CarrySums.constant_iff hspread]
  constructor
  · intro h x hx
    obtain ⟨key, params, hloaded⟩ := exists_snow3gLoaded hx
    rw [← (htag key params).mp (h key params)]
    refine congrArg xorSum (List.map_congr_left fun t _ => ?_)
    rw [CarrySums.Term.value, CarrySums.Term.value, Lfsr.select_congr hloaded]
  · intro h key params
    exact (htag key params).mpr (h _ (fits_snow3gLoaded key params))

end Uesim
