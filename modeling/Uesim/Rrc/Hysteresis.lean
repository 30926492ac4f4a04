import Mathlib.Data.List.Basic
import Uesim.Rrc.MeasurementEvents

/-!
# Hysteresis in whole decibels

The hysteresis is configured in steps of half a decibel, and the evaluation takes half of it, rounded down.
Levels and thresholds are whole numbers, so that nothing is lost where both are on the same side of a strict
comparison: a whole number is above half of another one exactly if it is above the half rounded down.
-/

namespace Uesim

open Bytes

/-! ### The evaluation with 32 bits -/

/-- A sum that does not fit has no value. -/
def int32 (sum : Int) : Option Int := if -2 ^ 31 ≤ sum ∧ sum < 2 ^ 31 then some sum else none

def Int32 (sum : Int) : Prop := -2 ^ 31 ≤ sum ∧ sum < 2 ^ 31

namespace RrcMeasEventState

/-- `mn + ofn + ocn - hysteresis` -/
def leftInt32 (state : RrcMeasEventState) (result : RrcMeasResult) (i : Nat) : Option Int := do
  let withFreq ← int32 (rrcMeasGetQuantityValue result state.config.quantity + state.config.targetFreqOffset)
  let withCell ← int32 (withFreq + state.config.cellOffset i)
  int32 (withCell - state.hysteresis)

/-- The loop over the neighbors from number `i` on. Each round takes both sums. -/
def checkNeighbors (state : RrcMeasEventState) (right : Option Int) :
    List RrcMeasResult → Nat → Option (RrcMeasEventState × Bool)
  | [], _ => some (state, false)
  | result :: results, i => do
      let left ← state.leftInt32 result i
      let threshold ← right
      if left > threshold then some ({ state with triggeredNeighborIdx := i }, true)
      else state.checkNeighbors right results (i + 1)

/-- `mp + ofp + offset` -/
def rightInt32 (state : RrcMeasEventState) : Option Int := do
  let withFreq ← int32 (state.serving + state.config.freqOffset)
  int32 (withFreq + state.config.threshold1)

end RrcMeasEventState

def rrcMeasEvalA3Int32 (state : RrcMeasEventState) : Option (RrcMeasEventState × Bool) :=
  if !state.config.enabled then some (state, false)
  else state.checkNeighbors state.rightInt32 state.neighborResults 0

def rrcMeasEvalA4Int32 (state : RrcMeasEventState) : Option (RrcMeasEventState × Bool) :=
  if !state.config.enabled then some (state, false)
  else state.checkNeighbors (some state.config.threshold1) state.neighborResults 0

def rrcMeasEvalA5Int32 (state : RrcMeasEventState) : Option (RrcMeasEventState × Bool) :=
  if !state.config.enabled then some (state, false)
  else do
    let sum ← int32 (state.serving + state.hysteresis)
    if sum ≥ state.config.threshold1 then some (state, false)
    else state.checkNeighbors (some state.config.threshold2) state.neighborResults 0

/-! ### The documented conditions -/

namespace RrcMeasEventState

/-- Twice the level of a neighbor, with its offsets. -/
def neighborHalves (state : RrcMeasEventState) (result : RrcMeasResult) (i : Nat) : Int :=
  2 * (rrcMeasGetQuantityValue result state.config.quantity + state.config.targetFreqOffset
    + state.config.cellOffset i)

/-- The hysteresis in half decibels. -/
def hysteresisHalves (state : RrcMeasEventState) : Int := state.config.hysteresisDb.toNat

/-- Mn + Ofn + Ocn - Hys > Mp + Ofp + Ocp + Off -/
def A3Entry (state : RrcMeasEventState) (result : RrcMeasResult) (i : Nat) : Prop :=
  state.neighborHalves result i - state.hysteresisHalves
    > 2 * (state.serving + state.config.freqOffset + 0 + state.config.threshold1)

/-- Mn + Ofn + Ocn - Hys > Thresh -/
def A4Entry (state : RrcMeasEventState) (result : RrcMeasResult) (i : Nat) : Prop :=
  state.neighborHalves result i - state.hysteresisHalves > 2 * state.config.threshold1

/-- Mp + Hys < Thresh1 and Mn + Ofn + Ocn - Hys > Thresh2 -/
def A5Entry (state : RrcMeasEventState) (result : RrcMeasResult) (i : Nat) : Prop :=
  2 * state.serving + state.hysteresisHalves < 2 * state.config.threshold1
    ∧ state.neighborHalves result i - state.hysteresisHalves > 2 * state.config.threshold2

/-- No sum that the three evaluations can come to goes beyond 32 bits. -/
structure Fits (state : RrcMeasEventState) : Prop where
  withFreq : ∀ result ∈ state.neighborResults,
    Int32 (rrcMeasGetQuantityValue result state.config.quantity + state.config.targetFreqOffset)
  withCell : ∀ result i, state.neighborResults[i]? = some result →
    Int32 (rrcMeasGetQuantityValue result state.config.quantity + state.config.targetFreqOffset
      + state.config.cellOffset i)
  left : ∀ result i, state.neighborResults[i]? = some result → Int32 (state.neighborLevel result i)
  servingFreq : Int32 (state.serving + state.config.freqOffset)
  right : Int32 (state.serving + state.config.freqOffset + state.config.threshold1)
  servingHysteresis : Int32 (state.serving + state.hysteresis)

/-- The first neighbor that satisfies a condition. -/
def FirstToEnter (state : RrcMeasEventState) (entry : RrcMeasResult → Nat → Prop) (i : Nat) : Prop :=
  (∃ result, state.neighborResults[i]? = some result ∧ entry result i)
    ∧ ∀ j < i, ∀ result, state.neighborResults[j]? = some result → ¬entry result j

/-- An evaluation returns true if some neighbor satisfies the condition, and sets the index to the first that
does. Otherwise it changes nothing. -/
def Evaluates (state : RrcMeasEventState) (entry : RrcMeasResult → Nat → Prop)
    (outcome : Option (RrcMeasEventState × Bool)) : Prop :=
  ∃ after returned, outcome = some (after, returned)
    ∧ (returned = true ↔ ∃ i result, state.neighborResults[i]? = some result ∧ entry result i)
    ∧ (∀ i, state.FirstToEnter entry i → after = { state with triggeredNeighborIdx := i })
    ∧ (returned = false → after = state)

/-- What an evaluation leaves that finds this neighbor. -/
def entered (state : RrcMeasEventState) : Option Nat → RrcMeasEventState × Bool
  | some i => ({ state with triggeredNeighborIdx := i }, true)
  | none => (state, false)

/-! ### Without overflow -/

theorem int32_of_int32 {sum : Int} (h : Int32 sum) : int32 sum = some sum := if_pos h

variable {state : RrcMeasEventState}

theorem Fits.leftInt32 (h : state.Fits) {result : RrcMeasResult} {i : Nat}
    (hi : state.neighborResults[i]? = some result) :
    state.leftInt32 result i = some (state.neighborLevel result i) := by
  rw [RrcMeasEventState.leftInt32, int32_of_int32 (h.withFreq result (List.mem_of_getElem? hi)),
    Option.bind_eq_bind, Option.bind_some, int32_of_int32 (h.withCell result i hi),
    Option.bind_some]
  exact int32_of_int32 (h.left result i hi)

theorem Fits.rightInt32 (h : state.Fits) :
    state.rightInt32 = some (state.serving + state.config.freqOffset + state.config.threshold1) := by
  rw [RrcMeasEventState.rightInt32, int32_of_int32 h.servingFreq, Option.bind_eq_bind, Option.bind_some]
  exact int32_of_int32 h.right

theorem checkNeighbors_eq {results : List RrcMeasResult} {i : Nat}
    (hleft : ∀ k result, results[k]? = some result →
      state.leftInt32 result (i + k) = some (state.neighborLevel result (i + k))) (threshold : Int) :
    state.checkNeighbors (some threshold) results i
      = some (state.entered (((results.zipIdx i).find? fun neighbor =>
          decide (state.neighborLevel neighbor.1 neighbor.2 > threshold)).map Prod.snd)) := by
  induction results generalizing i with
  | nil => rfl
  | cons result results ih =>
      have hfirst : state.leftInt32 result i = some (state.neighborLevel result i) := hleft 0 result rfl
      rw [checkNeighbors, hfirst, List.zipIdx_cons, List.find?_cons]
      simp only [Option.bind_eq_bind, Option.bind_some]
      by_cases habove : state.neighborLevel result i > threshold
      · rw [if_pos habove, decide_eq_true habove]
        rfl
      · rw [if_neg habove, decide_eq_false habove]
        refine ih fun k later hk => ?_
        have hlater := hleft (k + 1) later hk
        rwa [← Nat.add_assoc, Nat.add_right_comm] at hlater

/-- The loop finds what the search over the levels finds. -/
theorem Fits.checkNeighbors (h : state.Fits) (threshold : Int) :
    state.checkNeighbors (some threshold) state.neighborResults 0
      = some (state.entered (state.neighborAbove threshold)) := by
  refine checkNeighbors_eq (fun k result hk => ?_) threshold
  rw [Nat.zero_add]
  exact h.leftInt32 hk

theorem getElem?_zipIdx_neighbors {i : Nat} {neighbor : RrcMeasResult × Nat} :
    state.neighborResults.zipIdx[i]? = some neighbor
      ↔ state.neighborResults[i]? = some neighbor.1 ∧ neighbor.2 = i := by
  rw [List.getElem?_zipIdx, Nat.zero_add, Option.map_eq_some_iff]
  constructor
  · rintro ⟨result, hresult, rfl⟩
    exact ⟨hresult, rfl⟩
  · rintro ⟨hresult, rfl⟩
    exact ⟨neighbor.1, hresult, rfl⟩

theorem neighborAbove_eq_some {threshold : Int} {i : Nat} (h : state.neighborAbove threshold = some i) :
    state.FirstToEnter (fun result i => state.neighborLevel result i > threshold) i := by
  obtain ⟨⟨result, j⟩, hfind, rfl⟩ := Option.map_eq_some_iff.mp h
  obtain ⟨habove, k, hk, hget, hbefore⟩ := List.find?_eq_some_iff_getElem.mp hfind
  obtain ⟨hresult, hindex⟩ :=
    getElem?_zipIdx_neighbors.mp (List.getElem?_eq_some_iff.mpr ⟨hk, hget⟩)
  dsimp only at hresult hindex
  subst hindex
  refine ⟨⟨result, hresult, of_decide_eq_true habove⟩, fun m hm other hother => ?_⟩
  have hpair : state.neighborResults.zipIdx[m]? = some (other, m) :=
    getElem?_zipIdx_neighbors.mpr ⟨hother, rfl⟩
  obtain ⟨hlt, hotherGet⟩ := List.getElem?_eq_some_iff.mp hpair
  have hnot := hbefore m hm
  rw [hotherGet] at hnot
  exact of_decide_eq_false (Bool.not_eq_true' _ ▸ hnot)

theorem neighborAbove_eq_none {threshold : Int} (h : state.neighborAbove threshold = none) {i : Nat}
    {result : RrcMeasResult} (hi : state.neighborResults[i]? = some result) :
    ¬state.neighborLevel result i > threshold := by
  have hnone := List.find?_eq_none.mp (Option.map_eq_none_iff.mp h) (result, i)
    (List.mem_of_getElem? (getElem?_zipIdx_neighbors.mpr ⟨hi, rfl⟩))
  exact fun habove => hnone (decide_eq_true habove)

/-- There is at most one first neighbor. -/
theorem FirstToEnter.unique {entry : RrcMeasResult → Nat → Prop} {i j : Nat}
    (hi : state.FirstToEnter entry i) (hj : state.FirstToEnter entry j) : i = j := by
  obtain ⟨⟨result, hresult, hentry⟩, hbefore⟩ := hi
  obtain ⟨⟨result', hresult', hentry'⟩, hbefore'⟩ := hj
  rcases Nat.lt_trichotomy i j with hlt | heq | hgt
  · exact absurd hentry (hbefore' i hlt result hresult)
  · exact heq
  · exact absurd hentry' (hbefore j hgt result' hresult')

/-- An evaluation that looks for a level above a threshold. -/
theorem Fits.evaluates (h : state.Fits) {entry : RrcMeasResult → Nat → Prop} {threshold : Int}
    (hentry : ∀ result i, entry result i ↔ state.neighborLevel result i > threshold) :
    state.Evaluates entry (state.checkNeighbors (some threshold) state.neighborResults 0) := by
  have hlevel : entry = fun result i => state.neighborLevel result i > threshold := by
    funext result i
    exact propext (hentry result i)
  rw [h.checkNeighbors, hlevel]
  cases hfound : state.neighborAbove threshold with
  | some i =>
      have hfirst := neighborAbove_eq_some hfound
      obtain ⟨result, hresult, habove⟩ := hfirst.1
      refine ⟨_, true, rfl, iff_of_true rfl ⟨i, result, hresult, habove⟩, fun j hj => ?_, fun hno => ?_⟩
      · rw [hfirst.unique hj]
      · cases hno
  | none =>
      refine ⟨_, false, rfl, iff_of_false Bool.false_ne_true ?_, fun j hj => ?_, fun _ => rfl⟩
      · rintro ⟨i, result, hresult, habove⟩
        exact neighborAbove_eq_none hfound hresult habove
      · obtain ⟨result, hresult, habove⟩ := hj.1
        exact absurd habove (neighborAbove_eq_none hfound hresult)

/-- An evaluation that looks at no neighbor, because none can satisfy the condition. -/
theorem evaluates_of_none {entry : RrcMeasResult → Nat → Prop} (h : ∀ result i, ¬entry result i) :
    state.Evaluates entry (some (state, false)) := by
  refine ⟨state, false, rfl, iff_of_false Bool.false_ne_true ?_, fun i hi => ?_, fun _ => rfl⟩
  · rintro ⟨i, result, -, hentry⟩
    exact h result i hentry
  · obtain ⟨result, -, hentry⟩ := hi.1
    exact absurd hentry (h result i)

/-- Three numbers of a quarter of the range fit into it, with a hysteresis. -/
def Small (value : Int) : Prop := -2 ^ 29 ≤ value ∧ value ≤ 2 ^ 29

theorem hysteresis_le (state : RrcMeasEventState) : 0 ≤ state.hysteresis ∧ state.hysteresis ≤ 127 := by
  have hsteps := state.config.hysteresisDb.isLt
  rw [hysteresis]
  omega

/-- No sum overflows where levels, thresholds and offsets are small. -/
theorem fits_of_small
    (hneighbors : ∀ result ∈ state.neighborResults,
      Small (rrcMeasGetQuantityValue result state.config.quantity))
    (hserving : Small state.serving) (hthreshold : Small state.config.threshold1)
    (hcell : ∀ i, Small (state.config.cellOffset i)) (hfreq : Small state.config.freqOffset)
    (htarget : Small state.config.targetFreqOffset) : state.Fits := by
  have hhysteresis := state.hysteresis_le
  simp only [Small] at hneighbors hserving hthreshold hcell hfreq htarget
  constructor
  · intro result hmem
    have hlevel := hneighbors result hmem
    rw [Int32]
    omega
  · intro result i hi
    have hlevel := hneighbors result (List.mem_of_getElem? hi)
    have hoffset := hcell i
    rw [Int32]
    omega
  · intro result i hi
    have hlevel := hneighbors result (List.mem_of_getElem? hi)
    have hoffset := hcell i
    rw [Int32, neighborLevel]
    omega
  · rw [Int32]
    omega
  · rw [Int32]
    omega
  · rw [Int32]
    omega

/-! ### Half decibels -/

/-- The half that is rounded away makes no difference to a whole number. -/
theorem hysteresisHalves_lt_iff (state : RrcMeasEventState) (gap : Int) :
    state.hysteresisHalves < 2 * gap ↔ state.hysteresis < gap := by
  rw [hysteresisHalves, hysteresis]
  omega

theorem neighborHalves_sub_gt_iff (state : RrcMeasEventState) (result : RrcMeasResult) (i : Nat)
    (threshold : Int) :
    state.neighborHalves result i - state.hysteresisHalves > 2 * threshold
      ↔ state.neighborLevel result i > threshold := by
  have hgap := state.hysteresisHalves_lt_iff
    (rrcMeasGetQuantityValue result state.config.quantity + state.config.targetFreqOffset
      + state.config.cellOffset i - threshold)
  rw [neighborHalves, neighborLevel]
  omega

theorem serving_add_lt_iff (state : RrcMeasEventState) (threshold : Int) :
    2 * state.serving + state.hysteresisHalves < 2 * threshold
      ↔ ¬state.serving + state.hysteresis ≥ threshold := by
  have hgap := state.hysteresisHalves_lt_iff (threshold - state.serving)
  omega

/-- An event satisfies no condition while it is disabled. -/
def Enabled (state : RrcMeasEventState) (entry : RrcMeasResult → Nat → Prop) :
    RrcMeasResult → Nat → Prop :=
  fun result i => state.config.enabled = true ∧ entry result i

theorem evaluates_of_disabled (h : state.config.enabled = false) (entry : RrcMeasResult → Nat → Prop) :
    state.Evaluates (state.Enabled entry) (some (state, false)) :=
  evaluates_of_none fun _ _ hentry => absurd (h.symm.trans hentry.1) (by decide)

theorem Fits.evaluates_a3 (h : state.Fits) :
    state.Evaluates (state.Enabled state.A3Entry) (rrcMeasEvalA3Int32 state) := by
  rw [rrcMeasEvalA3Int32]
  cases henabled : state.config.enabled with
  | false => exact evaluates_of_disabled henabled _
  | true =>
      rw [h.rightInt32]
      refine h.evaluates fun result i => ?_
      rw [Enabled, and_iff_right henabled, A3Entry, neighborHalves_sub_gt_iff, Int.add_zero]

theorem Fits.evaluates_a4 (h : state.Fits) :
    state.Evaluates (state.Enabled state.A4Entry) (rrcMeasEvalA4Int32 state) := by
  rw [rrcMeasEvalA4Int32]
  cases henabled : state.config.enabled with
  | false => exact evaluates_of_disabled henabled _
  | true =>
      refine h.evaluates fun result i => ?_
      rw [Enabled, and_iff_right henabled, A4Entry, neighborHalves_sub_gt_iff]

theorem Fits.evaluates_a5 (h : state.Fits) :
    state.Evaluates (state.Enabled state.A5Entry) (rrcMeasEvalA5Int32 state) := by
  rw [rrcMeasEvalA5Int32]
  cases henabled : state.config.enabled with
  | false => exact evaluates_of_disabled henabled _
  | true =>
      rw [if_neg (by decide), int32_of_int32 h.servingHysteresis, Option.bind_eq_bind, Option.bind_some]
      by_cases hserving : state.serving + state.hysteresis ≥ state.config.threshold1
      · rw [if_pos hserving]
        refine evaluates_of_none fun result i hentry => ?_
        exact (serving_add_lt_iff state _).mp hentry.2.1 hserving
      · rw [if_neg hserving]
        refine h.evaluates fun result i => ?_
        rw [Enabled, and_iff_right henabled, A5Entry, neighborHalves_sub_gt_iff,
          and_iff_right ((serving_add_lt_iff state _).mpr hserving)]

/-! ### The evaluation of the other modules -/

theorem Fits.evalA3_eq (h : state.Fits) :
    rrcMeasEvalA3Int32 state = some (state.entered (rrcMeasEvalA3 state)) := by
  rw [rrcMeasEvalA3Int32, rrcMeasEvalA3]
  split
  · rfl
  · rw [h.rightInt32, h.checkNeighbors]

theorem Fits.evalA4_eq (h : state.Fits) :
    rrcMeasEvalA4Int32 state = some (state.entered (rrcMeasEvalA4 state)) := by
  rw [rrcMeasEvalA4Int32, rrcMeasEvalA4]
  split
  · rfl
  · rw [h.checkNeighbors]

theorem Fits.evalA5_eq (h : state.Fits) :
    rrcMeasEvalA5Int32 state = some (state.entered (rrcMeasEvalA5 state)) := by
  rw [rrcMeasEvalA5Int32, rrcMeasEvalA5]
  split
  · rfl
  · rw [int32_of_int32 h.servingHysteresis, Option.bind_eq_bind, Option.bind_some, h.checkNeighbors]
    split
    · rfl
    · rfl

end RrcMeasEventState

/-- **The rounded hysteresis decides as the documented conditions do in half decibels.** An event that is
enabled is entered by the first neighbor that satisfies its condition. -/
theorem rrcMeasEval_exact {state : RrcMeasEventState} (h : state.Fits) :
    state.Evaluates (state.Enabled state.A3Entry) (rrcMeasEvalA3Int32 state)
      ∧ state.Evaluates (state.Enabled state.A4Entry) (rrcMeasEvalA4Int32 state)
      ∧ state.Evaluates (state.Enabled state.A5Entry) (rrcMeasEvalA5Int32 state) :=
  ⟨h.evaluates_a3, h.evaluates_a4, h.evaluates_a5⟩

/-- A serving cell at -100, a neighbor at -98 and one at -97, an offset of one and a hysteresis of three half
decibels. -/
def rrcMeasTwoNeighbors (enabled : Bool) : RrcMeasEventState :=
  { RrcMeasEventState.zero with
    config := { RrcMeasConfig.zero with enabled, hysteresisDb := 3, threshold1 := 1 }
    servingResult := ⟨-100, 0, 0⟩
    neighborResults := [⟨-98, 0, 0⟩, ⟨-97, 0, 0⟩] }

theorem rrcMeasEval_exact_two :
    (rrcMeasTwoNeighbors true).Evaluates
        ((rrcMeasTwoNeighbors true).Enabled (rrcMeasTwoNeighbors true).A3Entry)
        (rrcMeasEvalA3Int32 (rrcMeasTwoNeighbors true))
      ∧ (rrcMeasTwoNeighbors true).Evaluates
        ((rrcMeasTwoNeighbors true).Enabled (rrcMeasTwoNeighbors true).A4Entry)
        (rrcMeasEvalA4Int32 (rrcMeasTwoNeighbors true))
      ∧ (rrcMeasTwoNeighbors true).Evaluates
        ((rrcMeasTwoNeighbors true).Enabled (rrcMeasTwoNeighbors true).A5Entry)
        (rrcMeasEvalA5Int32 (rrcMeasTwoNeighbors true)) :=
  rrcMeasEval_exact (RrcMeasEventState.fits_of_small (by unfold RrcMeasEventState.Small; decide)
    ⟨by decide, by decide⟩ ⟨by decide, by decide⟩
    (fun _ => show RrcMeasEventState.Small 0 from ⟨by decide, by decide⟩) ⟨by decide, by decide⟩
    ⟨by decide, by decide⟩)

/-- The second neighbor satisfies the condition, and the event is disabled. -/
theorem rrcMeasEval_not_exact :
    ¬(rrcMeasTwoNeighbors false).Evaluates (rrcMeasTwoNeighbors false).A3Entry
      (rrcMeasEvalA3Int32 (rrcMeasTwoNeighbors false)) := by
  rintro ⟨after, returned, houtcome, hreturned, -⟩
  obtain ⟨-, rfl⟩ := Prod.mk.inj (Option.some.inj houtcome)
  exact absurd (hreturned.mpr ⟨1, ⟨-97, 0, 0⟩, rfl, by unfold RrcMeasEventState.A3Entry; decide⟩) (by decide)

end Uesim
