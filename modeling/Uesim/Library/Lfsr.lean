import Uesim.Library.Bytes

/-!
# Linear recurrences over words

A shift register whose feedback is the exclusive or of some of its cells emits a sequence in which
every term is the exclusive or of terms a fixed distance back. Three facts about such sequences are
used again and again. They add up term by term; a sequence is determined by any of its tails as soon
as the oldest cell takes part in the feedback; and every term is the exclusive or of some of the
first `n`, the same ones whatever the initial cells hold.
-/

namespace Lfsr

open Bytes

variable {w n : Nat} {taps : List Nat} {x y : Nat → BitVec w}

/-- `x` obeys the recurrence of order `n` with the given feedback taps. -/
def IsLinRec (n : Nat) (taps : List Nat) (x : Nat → BitVec w) : Prop :=
  ∀ k, x (k + n) = xorSum (taps.map fun t => x (k + t))

/-- **Tails determine the whole sequence.** If the oldest cell feeds back, two sequences that agree
from some point on agree from the start. -/
theorem IsLinRec.eq_of_tail {rest : List Nat} (hpos : ∀ t ∈ rest, 0 < t) (hn : 0 < n)
    (hx : IsLinRec n (0 :: rest) x) (hy : IsLinRec n (0 :: rest) y) {m : Nat}
    (htail : ∀ k, m ≤ k → x k = y k) : x = y := by
  induction m with
  | zero => funext k; exact htail k (Nat.zero_le k)
  | succ m ih =>
      refine ih fun k hk => ?_
      rcases Nat.eq_or_lt_of_le hk with rfl | hlt
      · have hrest : rest.map (fun t => x (m + t)) = rest.map fun t => y (m + t) :=
          List.map_congr_left fun t ht => htail _ (by have := hpos t ht; omega)
        have hxm := hx m
        have hym := hy m
        simp only [List.map_cons, Nat.add_zero, xorSum_cons] at hxm hym
        rw [hrest, htail (m + n) (by omega), hym] at hxm
        exact (xor_right_cancel hxm).symm
      · exact htail k hlt

/-! ### Registers -/

def shiftIn {α : Type} (register : Vector α n) (new : α) : Vector α n :=
  Vector.ofFn fun i => if h : i.val + 1 < n then register[i.val + 1] else new

@[simp]
theorem getElem_shiftIn {α : Type} (register : Vector α n) (new : α) (i : Nat) (hi : i < n) :
    (shiftIn register new)[i] = if h : i + 1 < n then register[i + 1] else new := by
  simp [shiftIn]

section Cells

variable {σ : Type} (step : σ → σ) (cells : σ → Vector (BitVec w) (n + 1))

/-- The sequence of oldest cells while a machine runs. -/
def oldest (s : σ) (k : Nat) : BitVec w := (cells (step^[k] s))[0]

variable {step cells} {feedback : σ → BitVec w}
  (hstep : ∀ s, cells (step s) = shiftIn (cells s) (feedback s))

include hstep

/-- Cell `i` after `k` steps is the oldest cell after `k + i` steps. -/
theorem getElem_cells_iterate (s : σ) (k i : Nat) (hi : i < n + 1) :
    (cells (step^[k] s))[i] = oldest step cells s (k + i) := by
  induction i generalizing k with
  | zero => rfl
  | succ i ih =>
      have hnext := ih (k + 1) (by omega)
      rw [Function.iterate_succ_apply'] at hnext
      simp only [hstep, getElem_shiftIn, hi, ↓reduceDIte] at hnext
      rw [hnext, Nat.add_right_comm, Nat.add_assoc]

theorem oldest_add_length (s : σ) (k : Nat) :
    oldest step cells s (k + (n + 1)) = feedback (step^[k] s) := by
  have hlast := getElem_cells_iterate hstep s (k + 1) n (by omega)
  rw [Function.iterate_succ_apply'] at hlast
  simp only [hstep, getElem_shiftIn, Nat.lt_irrefl, ↓reduceDIte] at hlast
  rw [hlast, Nat.add_right_comm, Nat.add_assoc]

end Cells

/-! ### Superposition -/

/-- The exclusive or of the initial terms that a coefficient vector selects. -/
def select (v : BitVec n) (x : Nat → BitVec w) : BitVec w :=
  xorSum ((List.range n).map fun i => if v.getLsbD i then x i else 0)

theorem select_zero (x : Nat → BitVec w) : select (0 : BitVec n) x = 0 := by
  unfold select
  generalize List.range n = l
  induction l with
  | nil => rfl
  | cons i l ih => simpa using ih

theorem select_xor (u v : BitVec n) (x : Nat → BitVec w) :
    select (u ^^^ v) x = select u x ^^^ select v x := by
  unfold select
  rw [← xorSum_map_xor]
  congr 1
  refine List.map_congr_left fun i _ => ?_
  rw [BitVec.getLsbD_xor]
  cases u.getLsbD i <;> cases v.getLsbD i <;> simp

theorem select_xorSum (vs : List (BitVec n)) (x : Nat → BitVec w) :
    select (xorSum vs) x = xorSum (vs.map fun v => select v x) := by
  induction vs with
  | nil => exact select_zero x
  | cons v vs ih => rw [xorSum_cons, select_xor, ih, List.map_cons, xorSum_cons]

private theorem xorSum_range_single (a : Nat → BitVec w) {i m : Nat} (hi : i < m) :
    xorSum ((List.range m).map fun j => if j = i then a j else 0) = a i := by
  induction m with
  | zero => omega
  | succ m ih =>
      rw [List.range_succ, List.map_append, xorSum_append]
      rcases Nat.lt_succ_iff_lt_or_eq.mp hi with hlt | rfl
      · rw [ih hlt]
        simp [show m ≠ i by omega]
      · have hzero : (List.range i).map (fun j => if j = i then a j else 0)
            = (List.range i).map fun _ => (0 : BitVec w) :=
          List.map_congr_left fun j hj => if_neg (by have := List.mem_range.mp hj; omega)
        have hsum : ∀ l : List Nat, xorSum (l.map fun _ => (0 : BitVec w)) = 0 := by
          intro l
          induction l with
          | nil => rfl
          | cons _ l ih => simpa using ih
        rw [hzero, hsum]
        simp

theorem select_twoPow (x : Nat → BitVec w) {i : Nat} (hi : i < n) :
    select (BitVec.twoPow n i) x = x i := by
  unfold select
  rw [← xorSum_range_single x hi]
  congr 1
  refine List.map_congr_left fun j hj => ?_
  have hj := List.mem_range.mp hj
  by_cases hji : j = i
  · simp [hji, hi]
  · simp [BitVec.getLsbD_twoPow, hji, Ne.symm hji]

theorem select_congr {v : BitVec n} (h : ∀ i < n, x i = y i) : select v x = select v y := by
  refine congrArg xorSum (List.map_congr_left fun i hi => ?_)
  rw [h i (List.mem_range.mp hi)]

/-- Initial terms that are empty need not be selected. -/
theorem select_setWidth {m : Nat} (hm : m ≤ n) (v : BitVec n) (h : ∀ i, m ≤ i → i < n → x i = 0) :
    select v x = select (v.setWidth m) x := by
  obtain ⟨k, rfl⟩ := Nat.exists_eq_add_of_le hm
  have hempty : ∀ l : List Nat, (∀ i ∈ l, x (m + i) = 0) →
      xorSum (l.map fun i => if v.getLsbD (m + i) then x (m + i) else 0) = 0 := by
    intro l
    induction l with
    | nil => exact fun _ => rfl
    | cons i l ih =>
        intro hl
        rw [List.map_cons, xorSum_cons, ih fun j hj => hl j (List.mem_cons_of_mem _ hj),
          hl i List.mem_cons_self, ite_self]
        exact BitVec.xor_zero
  have hrest := hempty (List.range k) fun i hi =>
    h _ (Nat.le_add_right m i) (Nat.add_lt_add_left (List.mem_range.mp hi) m)
  rw [select, List.range_add, List.map_append, List.map_map, xorSum_append]
  have hfirst : (List.range m).map (fun i => if v.getLsbD i then x i else 0)
      = (List.range m).map fun i => if (v.setWidth m).getLsbD i then x i else 0 := by
    apply List.map_congr_left
    intro i hi
    rw [BitVec.getLsbD_setWidth, decide_eq_true (List.mem_range.mp hi), Bool.true_and]
  exact (congrArg₂ (· ^^^ ·) (congrArg xorSum hfirst) hrest).trans BitVec.xor_zero

/-- One initial term holds a word and the others are empty. -/
def single (i : Nat) (word : BitVec w) (j : Nat) : BitVec w := if j = i then word else 0

theorem select_single (v : BitVec n) {i : Nat} (hi : i < n) (word : BitVec w) :
    select v (single i word) = if v.getLsbD i then word else 0 := by
  have hswap : ∀ j, (if v.getLsbD j then single i word j else 0)
      = if j = i then (if v.getLsbD j then word else 0) else 0 := by
    intro j
    rw [single]
    split <;> split <;> rfl
  rw [select, funext hswap, xorSum_range_single _ hi]

theorem select_map_xor (v : BitVec n) (x y : Nat → BitVec w) :
    select v (fun i => x i ^^^ y i) = select v x ^^^ select v y := by
  unfold select
  rw [← xorSum_map_xor]
  congr 1
  refine List.map_congr_left fun i _ => ?_
  cases v.getLsbD i <;> simp

/-- Selecting from what has been selected. -/
theorem select_select {m : Nat} (v : BitVec n) (y : Nat → BitVec m) (z : Nat → BitVec w) :
    select (select v y) z = select v fun i => select (y i) z := by
  rw [select.eq_def v y, select_xorSum, List.map_map]
  refine congrArg xorSum (List.map_congr_left fun i _ => ?_)
  rw [Function.comp_apply]
  split
  · rfl
  · exact select_zero z

theorem select_append_zero {m : Nat} (v : BitVec m) (x : Nat → BitVec w) :
    select (v ++ (0 : BitVec n)) x = select v fun i => x (n + i) := by
  have hwide : IsAdditive fun v : BitVec m => select (v ++ (0 : BitVec n)) x := by
    intro a b
    rw [← select_xor, BitVec.xor_append, BitVec.xor_self]
    rfl
  have hnarrow : IsAdditive fun v : BitVec m => select v fun i => x (n + i) :=
    fun a b => select_xor a b _
  refine hwide.ext hnarrow (fun i hi => ?_) v
  have hpow : BitVec.twoPow m i ++ (0 : BitVec n) = BitVec.twoPow (m + n) (n + i) := by
    apply BitVec.eq_of_getLsbD_eq
    intro bit hbit
    simp only [BitVec.getLsbD_append, BitVec.getLsbD_twoPow]
    grind
  simp only [hpow, select_twoPow x (by omega : n + i < m + n), select_twoPow _ hi]

/-- Selecting goes past an additive function. -/
theorem map_select {v : Nat} {f : BitVec w → BitVec v} (hf : IsAdditive f) (s : BitVec n)
    (x : Nat → BitVec w) : f (select s x) = select s fun i => f (x i) := by
  rw [select, hf.map_xorSum, List.map_map]
  refine congrArg xorSum (List.map_congr_left fun i _ => ?_)
  rw [Function.comp_apply]
  split
  · rfl
  · exact hf.map_zero

theorem select_twoPow_self (v : BitVec n) : select v (BitVec.twoPow n) = v := (eq_xorSum_twoPow v).symm

/-- One step of a register kept as a list, oldest cell first. -/
def clock (taps : List Nat) (register : List (BitVec w)) : List (BitVec w) :=
  register.tail ++ [xorSum (taps.map fun t => register.getD t 0)]

def stream (taps : List Nat) (register : List (BitVec w)) (k : Nat) : BitVec w :=
  ((clock taps)^[k] register).getD 0 0

/-- Which initial cells term `k` is the exclusive or of. -/
def coeff (n : Nat) (taps : List Nat) (k : Nat) : BitVec n :=
  stream taps ((List.range n).map (BitVec.twoPow n)) k

theorem length_iterate_clock (taps : List Nat) {register : List (BitVec w)} (hpos : 0 < register.length)
    (k : Nat) : ((clock taps)^[k] register).length = register.length := by
  induction k with
  | zero => rfl
  | succ k ih =>
      rw [Function.iterate_succ_apply', clock, List.length_append, List.length_tail, ih]
      simp only [List.length_singleton]
      omega

theorem getD_iterate_clock (taps : List Nat) (register : List (BitVec w)) (k i : Nat)
    (hi : i < register.length) :
    ((clock taps)^[k] register).getD i 0 = stream taps register (k + i) := by
  induction i generalizing k with
  | zero => rfl
  | succ i ih =>
      have hlen := length_iterate_clock taps (by omega : 0 < register.length) k
      have hstep := ih (k + 1) (by omega)
      rw [Function.iterate_succ_apply', clock, List.getD_eq_getElem?_getD, List.getElem?_append_left
        (by rw [List.length_tail, hlen]; omega), List.getElem?_tail, ← List.getD_eq_getElem?_getD] at hstep
      rw [hstep, Nat.add_right_comm, Nat.add_assoc]

theorem stream_isLinRec (taps : List Nat) (register : List (BitVec w))
    (hlt : ∀ t ∈ taps, t < register.length) (hpos : 0 < register.length) :
    IsLinRec register.length taps (stream taps register) := by
  intro k
  obtain ⟨m, hm⟩ : ∃ m, register.length = m + 1 := ⟨register.length - 1, by omega⟩
  have hlen := length_iterate_clock taps hpos k
  have hlast := getD_iterate_clock taps register (k + 1) m (by omega)
  rw [Function.iterate_succ_apply', clock, List.getD_eq_getElem?_getD, List.getElem?_append_right
    (by rw [List.length_tail, hlen]; omega)] at hlast
  simp only [List.length_tail, hlen, hm, Nat.add_sub_cancel, Nat.sub_self, List.getElem?_cons_zero,
    Option.getD_some] at hlast
  rw [hm, ← Nat.add_assoc, Nat.add_right_comm, ← hlast]
  exact congrArg xorSum (List.map_congr_left fun t ht => getD_iterate_clock taps register k t (hlt t ht))

theorem coeff_of_lt {i : Nat} (hi : i < n) : coeff n taps i = BitVec.twoPow n i := by
  have hcell := getD_iterate_clock taps ((List.range n).map (BitVec.twoPow n)) 0 i (by simpa using hi)
  rw [Nat.zero_add] at hcell
  rw [coeff, ← hcell]
  simp [List.getD_eq_getElem?_getD, hi]

/-- **Superposition.** Term `k` is the exclusive or of the initial terms its coefficients select. -/
theorem IsLinRec.eq_select (hlt : ∀ t ∈ taps, t < n) (hx : IsLinRec n taps x) (k : Nat) :
    x k = select (coeff n taps k) x := by
  induction k using Nat.strong_induction_on with
  | _ k ih =>
      rcases Nat.lt_or_ge k n with hk | hk
      · rw [coeff_of_lt hk, select_twoPow x hk]
      · obtain ⟨m, rfl⟩ : ∃ m, k = m + n := ⟨k - n, by omega⟩
        rcases Nat.eq_zero_or_pos n with rfl | hn
        · have htaps : taps = [] := List.eq_nil_iff_forall_not_mem.mpr fun t ht =>
            Nat.not_lt_zero t (hlt t ht)
          have hzero : x (m + 0) = 0 := by rw [hx m, htaps]; rfl
          simpa [select] using hzero
        · have hcoeff := stream_isLinRec taps ((List.range n).map (BitVec.twoPow n))
            (by simpa using hlt) (by simpa using hn) m
          simp only [List.length_map, List.length_range] at hcoeff
          rw [coeff, hcoeff, select_xorSum, List.map_map, hx m]
          refine congrArg xorSum (List.map_congr_left fun t ht => ?_)
          exact ih (m + t) (by have := hlt t ht; omega)

end Lfsr
