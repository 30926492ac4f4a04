import Mathlib.Algebra.BigOperators.Ring.Finset
import Mathlib.Algebra.Ring.Parity
import Uesim.Library.Lfsr

/-!
# Sums of unknown cells and known words

A term adds a known word to the exclusive or of some unknown cells, and terms are collected by exclusive or.
Which collections come to one word whatever the cells hold? Those in which the cells cancel and in which the
carries cancel as well: every combination of cells, with every known word that can send a carry on, is there
an even number of times.

That these are the only ones is seen at the top bit. A kind of term carries into it from some value of its
cells on. Among the kinds that are there an odd number of times take one that does so from the smallest
value on, and fill the cells so that its own reach that value and the others stay below it.
-/

namespace CarrySums

open Bytes

section Parity

variable {α : Type} [DecidableEq α] {l : List α} {p : α → Bool} {w : Nat}

theorem even_countP (h : ∀ a ∈ l, p a = true → Even (l.count a)) : Even (l.countP p) := by
  rw [List.countP_eq_length_filter, ← List.sum_toFinset_count_eq_length, even_iff_two_dvd]
  apply Finset.dvd_sum
  intro a ha
  obtain ⟨hmem, hp⟩ := List.mem_filter.mp (List.mem_toFinset.mp ha)
  rw [List.count_filter hp]
  exact (h a hmem hp).two_dvd

/-- One odd element among even ones. -/
theorem odd_countP {a₀ : α} (hp₀ : p a₀ = true) (hodd : Odd (l.count a₀))
    (h : ∀ a ∈ l, p a = true → a ≠ a₀ → Even (l.count a)) : Odd (l.countP p) := by
  have hrest : Even (l.countP fun a => p a && !(a == a₀)) := by
    apply even_countP
    intro a hmem hpa
    rw [Bool.and_eq_true, Bool.not_eq_true', beq_eq_false_iff_ne] at hpa
    exact h a hmem hpa.1 hpa.2
  have hone : l.countP (fun a => p a && a == a₀) = l.count a₀ := by
    rw [List.count_eq_countP]
    apply List.countP_congr
    intro a _
    rw [Bool.and_eq_true, beq_iff_eq]
    exact ⟨And.right, fun heq => ⟨heq ▸ hp₀, heq⟩⟩
  rw [List.countP_eq_countP_filter_add l p (· == a₀), List.countP_filter, List.countP_filter, hone]
  exact hodd.add_even hrest

theorem getLsbD_xorSum (words : List (BitVec w)) (i : Nat) :
    (xorSum words).getLsbD i = decide (Odd (words.countP (·.getLsbD i))) := by
  induction words with
  | nil => simp
  | cons word words ih =>
      rw [xorSum_cons, BitVec.getLsbD_xor, ih, List.countP_cons]
      cases word.getLsbD i
      · simp
      · simp [Nat.odd_add_one, -Nat.not_odd_iff_even]

/-- What comes an even number of times cancels. -/
theorem xorSum_map_eq_zero {f : α → BitVec w} (h : ∀ a ∈ l, f a ≠ 0 → Even (l.count a)) :
    xorSum (l.map f) = 0 := by
  apply BitVec.eq_of_getLsbD_eq
  intro i _
  have hbit : (0 : BitVec w).getLsbD i = false := BitVec.getLsbD_zero
  rw [getLsbD_xorSum, List.countP_map, hbit, decide_eq_false_iff_not, Nat.not_odd_iff_even]
  apply even_countP
  intro a hmem ha
  refine h a hmem fun hzero => ?_
  rw [Function.comp_apply, hzero, hbit] at ha
  exact Bool.false_ne_true ha

end Parity

/-- Cells to be added up, and a known word that is added to their exclusive or. -/
@[ext]
structure Term (n : Nat) where
  cells : BitVec n
  known : Word
  deriving DecidableEq

variable {n : Nat} {x : Nat → Word}

def Term.value (x : Nat → Word) (t : Term n) : Word := Lfsr.select t.cells x + t.known

def total (l : List (Term n)) (x : Nat → Word) : Word := xorSum (l.map (Term.value x))

/-- What the carries of the addition put into a term. -/
def Term.carried (x : Nat → Word) (t : Term n) : Word :=
  t.value x ^^^ (Lfsr.select t.cells x ^^^ t.known)

theorem getLsbD_carried (x : Nat → Word) (t : Term n) {i : Nat} (hi : i < 32) :
    (t.carried x).getLsbD i
      = decide (2 ^ i ≤ (Lfsr.select t.cells x).toNat % 2 ^ i + t.known.toNat % 2 ^ i) := by
  have hcarry : BitVec.carry i (Lfsr.select t.cells x) t.known false
      = decide (2 ^ i ≤ (Lfsr.select t.cells x).toNat % 2 ^ i + t.known.toNat % 2 ^ i) := rfl
  rw [Term.carried, Term.value, BitVec.getLsbD_xor, BitVec.getLsbD_xor, BitVec.getLsbD_add hi, hcarry]
  cases (Lfsr.select t.cells x).getLsbD i <;> cases t.known.getLsbD i <;> simp

theorem value_eq (x : Nat → Word) (t : Term n) :
    t.value x = Lfsr.select t.cells x ^^^ (t.known ^^^ t.carried x) := by
  rw [Term.carried, ← BitVec.xor_assoc, BitVec.xor_comm (t.value x), ← BitVec.xor_assoc, BitVec.xor_self,
    BitVec.zero_xor]

/-- The cells, the known words and the carries add up on their own. -/
theorem total_eq (l : List (Term n)) (x : Nat → Word) :
    total l x = Lfsr.select (xorSum (l.map Term.cells)) x
      ^^^ (xorSum (l.map Term.known) ^^^ xorSum (l.map (Term.carried x))) := by
  rw [total, Lfsr.select_xorSum, List.map_map, ← xorSum_map_xor, ← xorSum_map_xor]
  exact congrArg xorSum (List.map_congr_left fun t _ => value_eq x t)

/-! ### Kinds of terms -/

/-- The last cell has nothing in its lower half. -/
def Fits (n : Nat) (x : Nat → Word) : Prop := (x n).toNat % 2 ^ 16 = 0

theorem fits_iff : Fits n x ↔ byteOf (x n) 0 = 0 ∧ byteOf (x n) 1 = 0 := by
  have hbyte : ∀ i, byteOf (x n) i = 0 ↔ (x n).toNat / 2 ^ (8 * i) % 2 ^ 8 = 0 := by
    intro i
    rw [byteOf, ← BitVec.toNat_inj, BitVec.extractLsb'_toNat, Nat.shiftRight_eq_div_pow]
    rfl
  rw [Fits, hbyte, hbyte]
  omega

/-- The last cell on its own. -/
def lastAlone (n : Nat) : BitVec (n + 1) := BitVec.twoPow (n + 1) n

/-- Of the known word only the bits count that can send a carry on. -/
def Term.kind (t : Term (n + 1)) : Term (n + 1) :=
  { t with known := t.known &&& if t.cells = lastAlone n then 0x7fff0000 else 0x7fffffff }

theorem toNat_and_low (y : Word) : (y &&& 0x7fffffff).toNat = y.toNat % 2 ^ 31 := by
  rw [BitVec.toNat_and]
  exact Nat.and_two_pow_sub_one_eq_mod y.toNat 31

theorem toNat_and_upper (y : Word) : (y &&& 0x7fff0000).toNat = 2 ^ 16 * (y.toNat % 2 ^ 31 / 2 ^ 16) := by
  have hmask : (0x7fff0000 : Word).toNat = 2 ^ 16 * (2 ^ 15 - 1) := rfl
  rw [BitVec.toNat_and, hmask]
  apply Nat.eq_of_testBit_eq
  intro i
  rw [Nat.testBit_and, Nat.testBit_two_pow_mul, Nat.testBit_two_pow_mul, Nat.testBit_two_pow_sub_one,
    Nat.testBit_div_two_pow, Nat.testBit_mod_two_pow]
  by_cases hi : 16 ≤ i
  · have hback : i - 16 + 16 = i := by omega
    have hlow : i - 16 < 15 ↔ i < 31 := by omega
    simp only [hi, hback, hlow, decide_true, Bool.true_and]
    exact Bool.and_comm _ _
  · simp only [hi, decide_false, Bool.false_and, Bool.and_false]

/-- Where one of two numbers has an empty lower half, the lower half of the other sends on no carry. -/
theorem carries_upper {y f i : Nat} (hy : y % 2 ^ 16 = 0) (hi : i ≤ 31) :
    2 ^ i ≤ y % 2 ^ i + 2 ^ 16 * (f % 2 ^ 31 / 2 ^ 16) % 2 ^ i ↔ 2 ^ i ≤ y % 2 ^ i + f % 2 ^ i := by
  obtain ⟨y, rfl⟩ := Nat.dvd_of_mod_eq_zero hy
  rcases Nat.le_total i 16 with hlow | hhigh
  · have hdvd : 2 ^ i ∣ 2 ^ 16 * y := Dvd.dvd.mul_right (pow_dvd_pow 2 hlow) y
    have hpos : 0 < 2 ^ i := Nat.two_pow_pos i
    have hmod := Nat.mod_lt f hpos
    have hmod' := Nat.mod_lt (2 ^ 16 * (f % 2 ^ 31 / 2 ^ 16)) hpos
    rw [Nat.mod_eq_zero_of_dvd hdvd]
    omega
  · obtain ⟨j, rfl⟩ := Nat.exists_eq_add_of_le hhigh
    have hcut : f % 2 ^ 31 / 2 ^ 16 % 2 ^ j = f / 2 ^ 16 % 2 ^ j := by
      rw [show 2 ^ 31 = 2 ^ 16 * 2 ^ 15 by decide, Nat.mod_mul_right_div_self,
        Nat.mod_mod_of_dvd _ (pow_dvd_pow 2 (by omega))]
    rw [pow_add, Nat.mul_mod_mul_left, Nat.mul_mod_mul_left, hcut, Nat.mod_mul]
    have hrest := Nat.mod_lt f (Nat.two_pow_pos 16)
    generalize y % 2 ^ j = a
    generalize f / 2 ^ 16 % 2 ^ j = b
    generalize 2 ^ j = m
    omega

theorem carried_of_cells_eq_zero {t : Term n} (h : t.cells = 0) : t.carried x = 0 := by
  have hselect : Lfsr.select t.cells x = 0#32 := h ▸ Lfsr.select_zero x
  rw [Term.carried, Term.value, hselect, BitVec.zero_add, BitVec.zero_xor, BitVec.xor_self]
  rfl

theorem carried_of_known_eq_zero {t : Term n} (h : t.known = 0) : t.carried x = 0 := by
  rw [Term.carried, Term.value, h]
  simp

theorem carried_kind {x : Nat → Word} (hx : Fits n x) (t : Term (n + 1)) :
    t.kind.carried x = t.carried x := by
  apply BitVec.eq_of_getLsbD_eq
  intro i hi
  have hcells : t.kind.cells = t.cells := rfl
  rw [getLsbD_carried x _ hi, getLsbD_carried x _ hi, hcells, decide_eq_decide]
  have hdvd : 2 ^ i ∣ 2 ^ 31 := pow_dvd_pow 2 (by omega)
  by_cases hlast : t.cells = lastAlone n
  · have hselect : Lfsr.select t.cells x = x n := by
      rw [hlast]
      exact Lfsr.select_twoPow x (Nat.lt_succ_self n)
    have hknown : t.kind.known.toNat = 2 ^ 16 * (t.known.toNat % 2 ^ 31 / 2 ^ 16) := by
      rw [Term.kind, if_pos hlast, toNat_and_upper]
    rw [hselect, hknown]
    exact carries_upper hx (by omega)
  · have hknown : t.kind.known.toNat = t.known.toNat % 2 ^ 31 := by
      rw [Term.kind, if_neg hlast, toNat_and_low]
    rw [hknown, Nat.mod_mod_of_dvd _ hdvd]

/-- The exclusive or of all cells is empty, and every kind of term that can send a carry on is there an
even number of times. -/
structure Settled (l : List (Term (n + 1))) : Prop where
  cells : xorSum (l.map Term.cells) = 0
  even : ∀ k ∈ l.map Term.kind, k.cells ≠ 0 → k.known ≠ 0 → Even ((l.map Term.kind).count k)

instance (l : List (Term (n + 1))) : Decidable (Settled l) :=
  decidable_of_iff (xorSum (l.map Term.cells) = 0 ∧ ∀ k ∈ l.map Term.kind, k.cells ≠ 0 → k.known ≠ 0 →
    Even ((l.map Term.kind).count k)) ⟨fun h => ⟨h.1, h.2⟩, fun h => ⟨h.cells, h.even⟩⟩

section

variable {l : List (Term (n + 1))}

theorem xorSum_carried_kind (hx : Fits n x) :
    xorSum ((l.map Term.kind).map (Term.carried x)) = xorSum (l.map (Term.carried x)) := by
  rw [List.map_map]
  exact congrArg xorSum (List.map_congr_left fun t _ => carried_kind hx t)

theorem Settled.total_eq (h : Settled l) (hx : Fits n x) : total l x = xorSum (l.map Term.known) := by
  have hcarried : xorSum (l.map (Term.carried x)) = 0 := by
    rw [← xorSum_carried_kind hx]
    apply xorSum_map_eq_zero
    intro k hk hne
    exact h.even k hk (fun hcells => hne (carried_of_cells_eq_zero hcells))
      (fun hknown => hne (carried_of_known_eq_zero hknown))
  rw [CarrySums.total_eq, h.cells, Lfsr.select_zero, hcarried, Bytes.zero_xor]
  exact BitVec.xor_zero

end

/-! ### One cell at a time -/

section

variable {l : List (Term (n + 1))} {d : Word}

theorem fits_single (i : Nat) {word : Word} (hword : word.toNat % 2 ^ 16 = 0) :
    Fits n (Lfsr.single i word) := by
  rw [Fits, Lfsr.single]
  split
  · exact hword
  · rfl

/-- Where no cell has anything in its lower half, nothing is carried into the upper one. -/
theorem getLsbD_total_single (l : List (Term (n + 1))) {i : Nat} (hi : i < n + 1) (word : Word)
    (hword : word.toNat % 2 ^ 16 = 0) :
    (total l (Lfsr.single i word)).getLsbD 16
      = ((if (xorSum (l.map Term.cells)).getLsbD i then word else 0)
          ^^^ xorSum (l.map Term.known)).getLsbD 16 := by
  have hcarried : (xorSum (l.map (Term.carried (Lfsr.single i word)))).getLsbD 16 = false := by
    rw [getLsbD_xorSum, decide_eq_false_iff_not, Nat.not_odd_iff_even, List.countP_map]
    apply even_countP
    intro t _ ht
    rw [Function.comp_apply, getLsbD_carried _ _ (by decide), Lfsr.select_single _ hi,
      decide_eq_true_eq] at ht
    have hempty : (if t.cells.getLsbD i then word else 0).toNat % 2 ^ 16 = 0 := by
      split
      · exact hword
      · rfl
    have hmod := Nat.mod_lt t.known.toNat (Nat.two_pow_pos 16)
    omega
  rw [total_eq, ← BitVec.xor_assoc, BitVec.getLsbD_xor, hcarried, Bool.xor_false,
    Lfsr.select_single _ hi]

theorem cells_eq_zero_of_constant (h : ∀ x, Fits n x → total l x = d) :
    xorSum (l.map Term.cells) = 0 := by
  apply BitVec.eq_of_getLsbD_eq
  intro i hi
  have hone := getLsbD_total_single l hi 0x10000 rfl
  have hzero := getLsbD_total_single l hi 0 rfl
  have hfits : ∀ word : Word, word.toNat % 2 ^ 16 = 0 → Fits n (Lfsr.single i word) := fun _ => fits_single i
  rw [h _ (hfits _ rfl), ← h _ (hfits 0 rfl), hzero, BitVec.getLsbD_xor, BitVec.getLsbD_xor] at hone
  rw [show (0 : BitVec (n + 1)).getLsbD i = false from BitVec.getLsbD_zero]
  by_contra hset
  rw [Bool.not_eq_false] at hset
  rw [if_pos hset, if_pos hset] at hone
  simp at hone

/-- Whether the sum carries into the topmost bit. -/
def Term.reaches (x : Nat → Word) (t : Term n) : Bool := (t.carried x).getLsbD 31

theorem reaches_iff {t : Term n} :
    t.reaches x = true
      ↔ 2 ^ 31 ≤ (Lfsr.select t.cells x).toNat % 2 ^ 31 + t.known.toNat % 2 ^ 31 := by
  rw [Term.reaches, getLsbD_carried _ _ (by decide), decide_eq_true_eq]

theorem even_reaches (h : ∀ x, Fits n x → total l x = d) (hx : Fits n x) :
    Even ((l.map Term.kind).countP (Term.reaches x)) := by
  have hcarried : ∀ x, Fits n x → xorSum (l.map (Term.carried x)) = d ^^^ xorSum (l.map Term.known) := by
    intro x hx
    have htotal := total_eq l x
    rw [h x hx, cells_eq_zero_of_constant h, Lfsr.select_zero, Bytes.zero_xor] at htotal
    rw [htotal, BitVec.xor_comm, ← BitVec.xor_assoc, BitVec.xor_self, BitVec.zero_xor]
  have hfits : Fits n (Lfsr.single 0 0) := fits_single 0 rfl
  have hempty : xorSum (l.map (Term.carried (Lfsr.single 0 0))) = 0 := by
    apply xorSum_map_eq_zero
    intro t _ hne
    refine absurd ?_ hne
    rw [Term.carried, Term.value, Lfsr.select_single _ (Nat.succ_pos n), ite_self]
    simp
  have hzero : xorSum ((l.map Term.kind).map (Term.carried x)) = 0 := by
    rw [xorSum_carried_kind hx, hcarried x hx, ← hcarried _ hfits, hempty]
  have hbit : (xorSum ((l.map Term.kind).map (Term.carried x))).getLsbD 31 = false := by
    rw [hzero]
    rfl
  rwa [getLsbD_xorSum, decide_eq_false_iff_not, Nat.not_odd_iff_even, List.countP_map] at hbit

end

/-! ### Cells that only one combination adds up to a given word -/

/-- Each cell has a bit of its own in the word, in the upper half. -/
structure Spread (n : Nat) (θ : Word) (u : Nat → Nat) : Prop where
  upper : ∀ i ≤ n, 16 ≤ u i
  bit : ∀ i ≤ n, θ.getLsbD (u i) = true
  inj : ∀ i ≤ n, ∀ j ≤ n, u i = u j → i = j

/-- Every cell but `p` holds its own bit. -/
def others (u : Nat → Nat) (p j : Nat) : Word := if j = p then 0 else BitVec.twoPow 32 (u j)

/-- Cell `p` is such that the cells `c` add up to the word. -/
def aimed (u : Nat → Nat) (p : Nat) (c : BitVec (n + 1)) (θ : Word) (j : Nat) : Word :=
  others u p j ^^^ Lfsr.single p (θ ^^^ Lfsr.select c (others u p)) j

section Spread

variable {θ : Word} {u : Nat → Nat} {p : Nat}

theorem Spread.lt (hu : Spread n θ u) {i : Nat} (hi : i ≤ n) : u i < 32 :=
  BitVec.lt_of_getLsbD (hu.bit i hi)

theorem getLsbD_select_others (hu : Spread n θ u) (v : BitVec (n + 1)) (b : Nat) :
    (Lfsr.select v (others u p)).getLsbD b = true
      ↔ ∃ j ≤ n, j ≠ p ∧ v.getLsbD j = true ∧ u j = b := by
  have hbit : ∀ j ≤ n, (if v.getLsbD j then others u p j else 0).getLsbD b = true
      ↔ j ≠ p ∧ v.getLsbD j = true ∧ u j = b := by
    intro j hj
    have hlt := hu.lt hj
    rw [others]
    by_cases hv : v.getLsbD j = true <;> by_cases hjp : j = p <;> simp [hv, hjp, hlt, BitVec.getLsbD_twoPow]
  rw [Lfsr.select, getLsbD_xorSum, decide_eq_true_eq, List.countP_map]
  constructor
  · intro hodd
    by_contra hnone
    refine absurd hodd (Nat.not_odd_iff_even.mpr (even_countP fun j hj hset => ?_))
    have hle : j ≤ n := Nat.le_of_lt_succ (List.mem_range.mp hj)
    exact absurd ⟨j, hle, (hbit j hle).mp hset⟩ hnone
  · rintro ⟨j, hj, hset⟩
    have hmem : j ∈ List.range (n + 1) := List.mem_range.mpr (Nat.lt_succ_of_le hj)
    refine odd_countP ((hbit j hj).mpr hset) ?_ fun i hi hset' hne => ?_
    · rw [List.count_eq_one_of_mem List.nodup_range hmem]
      exact odd_one
    · have hle : i ≤ n := Nat.le_of_lt_succ (List.mem_range.mp hi)
      exact absurd (hu.inj i hle j hj (((hbit i hle).mp hset').2.2.trans hset.2.2.symm)) hne

theorem getLsbD_of_select_others (hu : Spread n θ u) {v : BitVec (n + 1)}
    (hzero : Lfsr.select v (others u p) = 0) {j : Nat} (hj : j ≤ n) (hjp : j ≠ p) : v.getLsbD j = false := by
  rw [← Bool.not_eq_true]
  intro hset
  have hbit := (getLsbD_select_others hu v (u j)).mpr ⟨j, hj, hjp, hset, rfl⟩
  rw [hzero] at hbit
  exact Bool.false_ne_true (BitVec.getLsbD_zero.symm.trans hbit)

/-- Nothing is set that the word does not set. -/
theorem select_others_and (hu : Spread n θ u) (v : BitVec (n + 1)) :
    Lfsr.select v (others u p) &&& θ = Lfsr.select v (others u p) := by
  apply BitVec.eq_of_getLsbD_eq
  intro b _
  rw [BitVec.getLsbD_and]
  by_cases hset : (Lfsr.select v (others u p)).getLsbD b = true
  · obtain ⟨j, hj, -, -, rfl⟩ := (getLsbD_select_others hu v b).mp hset
    rw [hu.bit j hj, Bool.and_true]
  · rw [Bool.not_eq_true] at hset
    rw [hset, Bool.false_and]

theorem toNat_le_of_and_eq {a θ : Word} (h : a &&& θ = a) : a.toNat ≤ θ.toNat := by
  rw [← h, BitVec.toNat_and]
  exact Nat.and_le_right

theorem toNat_lt_of_and_eq {a θ : Word} (h : a &&& θ = a) (hne : a ≠ θ) : a.toNat < θ.toNat :=
  lt_of_le_of_ne (toNat_le_of_and_eq h) fun heq => hne (BitVec.eq_of_toNat_eq heq)

theorem select_aimed (c v : BitVec (n + 1)) (hp : p ≤ n) :
    Lfsr.select v (aimed u p c θ)
      = if v.getLsbD p then θ ^^^ Lfsr.select (v ^^^ c) (others u p) else Lfsr.select v (others u p) := by
  have hsum : Lfsr.select v (aimed u p c θ) = Lfsr.select v (others u p)
      ^^^ Lfsr.select v (Lfsr.single p (θ ^^^ Lfsr.select c (others u p))) :=
    Lfsr.select_map_xor v _ _
  rw [hsum, Lfsr.select_single _ (Nat.lt_succ_of_le hp)]
  split
  · rw [Lfsr.select_xor, ← BitVec.xor_assoc, ← BitVec.xor_assoc, BitVec.xor_comm _ θ]
  · exact BitVec.xor_zero

theorem select_aimed_self {c : BitVec (n + 1)} (hc : c.getLsbD p = true) (hp : p ≤ n) :
    Lfsr.select c (aimed u p c θ) = θ := by
  have hzero : Lfsr.select (0 : BitVec (n + 1)) (others u p) = 0#32 := Lfsr.select_zero _
  rw [select_aimed c c hp, if_pos hc, BitVec.xor_self]
  exact (congrArg (θ ^^^ ·) hzero).trans BitVec.xor_zero

/-- **Only the cells aimed at reach the word**, and all others stay below it. -/
theorem select_aimed_lt (hu : Spread n θ u) {c v : BitVec (n + 1)} (hc : c.getLsbD p = true) (hp : p ≤ n)
    (hne : v ≠ c) : (Lfsr.select v (aimed u p c θ)).toNat < θ.toNat := by
  rw [select_aimed c v hp]
  split
  · rename_i hv
    have hand := select_others_and (p := p) hu (v ^^^ c)
    apply toNat_lt_of_and_eq
    · rw [xor_and, BitVec.and_self, hand]
    · intro heq
      have hzero : Lfsr.select (v ^^^ c) (others u p) = 0 := by
        apply xor_left_cancel (a := θ)
        rw [heq]
        exact BitVec.xor_zero.symm
      apply hne
      apply BitVec.eq_of_getLsbD_eq
      intro j hj
      by_cases hjp : j = p
      · rw [hjp, hv, hc]
      · have hsame := getLsbD_of_select_others hu hzero (Nat.le_of_lt_succ hj) hjp
        rw [BitVec.getLsbD_xor] at hsame
        exact bne_eq_false_iff_eq.mp hsame
  · apply toNat_lt_of_and_eq (select_others_and hu v)
    intro heq
    have hbit := hu.bit p hp
    rw [← heq, getLsbD_select_others hu] at hbit
    obtain ⟨j, hj, hjp, -, huj⟩ := hbit
    exact hjp (hu.inj j hj p hp huj)

end Spread

theorem exists_spread {θ : Word} (h : n < ((List.range' 16 16).filter θ.getLsbD).length) :
    ∃ u, Spread n θ u := by
  have hmem : ∀ i ≤ n, ((List.range' 16 16).filter θ.getLsbD).getD i 0
      ∈ (List.range' 16 16).filter θ.getLsbD := by
    intro i hi
    rw [← List.getElem_eq_getD (h := by omega)]
    exact List.getElem_mem _
  refine ⟨fun i => ((List.range' 16 16).filter θ.getLsbD).getD i 0, ?_, ?_, ?_⟩
  · intro i hi
    exact (List.mem_range'_1.mp (List.mem_filter.mp (hmem i hi)).1).1
  · intro i hi
    exact (List.mem_filter.mp (hmem i hi)).2
  · intro i hi j hj heq
    have hnodup : ((List.range' 16 16).filter θ.getLsbD).Nodup := List.Nodup.filter _ (List.nodup_range' 1)
    rw [← List.getElem_eq_getD (h := by omega), ← List.getElem_eq_getD (h := by omega)] at heq
    exact (hnodup.getElem_inj_iff).mp heq

section Constant

variable {l : List (Term (n + 1))} {d : Word}

/-- What a kind lacks to the top bit. -/
def Term.gap (k : Term n) : Word := 0x80000000 - k.known

theorem toNat_known_kind {k : Term (n + 1)} (hk : k ∈ l.map Term.kind) : k.known.toNat < 2 ^ 31 := by
  obtain ⟨t, -, rfl⟩ := List.mem_map.mp hk
  rw [Term.kind]
  split
  · rw [toNat_and_upper]
    omega
  · rw [toNat_and_low]
    exact Nat.mod_lt _ (Nat.two_pow_pos 31)

theorem toNat_gap {k : Term n} (hlt : k.known.toNat < 2 ^ 31) (hne : k.known ≠ 0) :
    k.gap.toNat + k.known.toNat = 2 ^ 31 ∧ k.gap.toNat < 2 ^ 31 := by
  have hpos : k.known.toNat ≠ 0 := fun hzero => hne (BitVec.eq_of_toNat_eq hzero)
  have htop : (0x80000000 : Word).toNat = 2 ^ 31 := rfl
  rw [Term.gap, BitVec.toNat_sub, htop]
  omega

/-- A kind reaches the top bit if its cells fill the gap. -/
theorem gap_le_of_reaches {k : Term (n + 1)} (hlt : k.known.toNat < 2 ^ 31) (hreaches : k.reaches x = true) :
    k.cells ≠ 0 ∧ k.known ≠ 0 ∧ k.gap.toNat ≤ (Lfsr.select k.cells x).toNat := by
  rw [reaches_iff, Nat.mod_eq_of_lt hlt] at hreaches
  have hmod := Nat.mod_lt (Lfsr.select k.cells x).toNat (Nat.two_pow_pos 31)
  have hle := Nat.mod_le (Lfsr.select k.cells x).toNat (2 ^ 31)
  have hknown : k.known ≠ 0 := by
    intro hzero
    rw [hzero, show (0 : Word).toNat = 0 from rfl] at hreaches
    omega
  have hgap := toNat_gap hlt hknown
  refine ⟨fun hcells => ?_, hknown, by omega⟩
  have hselect : Lfsr.select k.cells x = 0#32 := hcells ▸ Lfsr.select_zero x
  rw [hselect, show (0#32).toNat = 0 from rfl] at hreaches
  omega

theorem reaches_of_gap_eq {k : Term (n + 1)} (hlt : k.known.toNat < 2 ^ 31) (hne : k.known ≠ 0)
    (hselect : Lfsr.select k.cells x = k.gap) : k.reaches x = true := by
  have hgap := toNat_gap hlt hne
  rw [reaches_iff, hselect, Nat.mod_eq_of_lt hlt, Nat.mod_eq_of_lt hgap.2]
  omega

theorem eq_of_gap_eq {k k' : Term n} (hcells : k.cells = k'.cells) (hgap : k.gap = k'.gap) : k = k' := by
  rw [Term.gap, Term.gap, BitVec.sub_right_inj] at hgap
  exact Term.ext hcells hgap

theorem exists_cell {c : BitVec (n + 1)} (hzero : c ≠ 0) (hlast : c ≠ lastAlone n) :
    ∃ p < n, c.getLsbD p = true := by
  by_contra hnone
  simp only [not_exists, not_and, Bool.not_eq_true] at hnone
  by_cases hn : c.getLsbD n = true
  · apply hlast
    apply BitVec.eq_of_getLsbD_eq
    intro i hi
    rw [lastAlone, BitVec.getLsbD_twoPow]
    rcases Nat.lt_succ_iff_lt_or_eq.mp hi with hlt | rfl
    · simp [hnone i hlt, Nat.ne_of_gt hlt]
    · simp [hn]
  · apply hzero
    apply BitVec.eq_of_getLsbD_eq
    intro i hi
    rcases Nat.lt_succ_iff_lt_or_eq.mp hi with hlt | rfl
    · exact (hnone i hlt).trans BitVec.getLsbD_zero.symm
    · exact (Bool.not_eq_true _ ▸ hn).trans BitVec.getLsbD_zero.symm

theorem fits_aimed {θ : Word} {u : Nat → Nat} {p : Nat} (hu : Spread n θ u) (hp : p < n)
    (c : BitVec (n + 1)) :
    aimed u p c θ n = BitVec.twoPow 32 (u n) ∧ (BitVec.twoPow 32 (u n)).toNat % 2 ^ 16 = 0 := by
  have hne : n ≠ p := Nat.ne_of_gt hp
  constructor
  · rw [aimed, others, Lfsr.single, if_neg hne, if_neg hne]
    exact BitVec.xor_zero
  · rw [BitVec.toNat_twoPow_of_lt (hu.lt le_rfl)]
    exact Nat.mod_eq_zero_of_dvd (pow_dvd_pow 2 (hu.upper n le_rfl))

/-- The last cell's own bit does not fill the gap. -/
theorem Spread.toNat_twoPow_lt {θ : Word} {u : Nat → Nat} {p : Nat} (hu : Spread n θ u) (hp : p < n) :
    (BitVec.twoPow 32 (u n)).toNat < θ.toNat := by
  apply toNat_lt_of_and_eq
  · apply BitVec.eq_of_getLsbD_eq
    intro i _
    rw [BitVec.getLsbD_and, BitVec.getLsbD_twoPow]
    by_cases hi : u n = i
    · rw [← hi, hu.bit n le_rfl, Bool.and_true]
    · simp [hi]
  · intro heq
    have hbit := hu.bit p hp.le
    rw [← heq, BitVec.getLsbD_twoPow, Bool.and_eq_true, decide_eq_true_eq, decide_eq_true_eq] at hbit
    exact Nat.ne_of_gt hp (hu.inj n le_rfl p hp.le hbit.2)

theorem exists_least (kinds : List (Term n)) (p : Term n → Prop) (h : ∃ k ∈ kinds, p k) :
    ∃ k ∈ kinds, p k ∧ ∀ k' ∈ kinds, p k' → k.gap.toNat ≤ k'.gap.toNat := by
  obtain ⟨k, ⟨hk, hpk⟩, hleast⟩ := (measure fun k : Term n => k.gap.toNat).wf.has_min
    {k | k ∈ kinds ∧ p k} h
  exact ⟨k, hk, hpk, fun k' hk' hpk' => Nat.not_lt.mp (hleast k' ⟨hk', hpk'⟩)⟩

/-- All kinds but those of the last cell on its own. -/
def rest (kinds : List (Term (n + 1))) : List (Term (n + 1)) :=
  kinds.filter fun k => !(k.cells == lastAlone n)

theorem mem_rest_iff {kinds : List (Term (n + 1))} {k : Term (n + 1)} :
    k ∈ rest kinds ↔ k ∈ kinds ∧ k.cells ≠ lastAlone n := by
  rw [rest, List.mem_filter, Bool.not_eq_true', beq_eq_false_iff_ne]

theorem count_rest {kinds : List (Term (n + 1))} {k : Term (n + 1)} (hlast : k.cells ≠ lastAlone n) :
    (rest kinds).count k = kinds.count k :=
  List.count_filter ((Bool.not_eq_true' _).mpr (beq_eq_false_iff_ne.mpr hlast))

/-- What the last cell does on its own, it does whatever the others hold. -/
theorem even_reaches_rest_iff (h : ∀ x, Fits n x → total l x = d) {y : Nat → Word} (hx : Fits n x)
    (hy : Fits n y) (hlast : x n = y n) :
    Even ((rest (l.map Term.kind)).countP (Term.reaches x))
      ↔ Even ((rest (l.map Term.kind)).countP (Term.reaches y)) := by
  have hevenx := even_reaches h hx
  have heveny := even_reaches h hy
  have hcommon : ((l.map Term.kind).filter (·.cells == lastAlone n)).countP (Term.reaches x)
      = ((l.map Term.kind).filter (·.cells == lastAlone n)).countP (Term.reaches y) := by
    apply List.countP_congr
    intro k hk
    have hcells : k.cells = lastAlone n := beq_iff_eq.mp (List.mem_filter.mp hk).2
    rw [reaches_iff, reaches_iff, hcells, lastAlone, Lfsr.select_twoPow x (Nat.lt_succ_self n),
      Lfsr.select_twoPow y (Nat.lt_succ_self n), hlast]
  rw [List.countP_eq_countP_filter_add _ _ (·.cells == lastAlone n), Nat.even_add, hcommon] at hevenx
  rw [List.countP_eq_countP_filter_add _ _ (·.cells == lastAlone n), Nat.even_add] at heveny
  exact hevenx.symm.trans heveny

/-- The kinds are in even number, but for those of the last cell on its own. -/
theorem even_of_not_last (hspread : ∀ k ∈ l.map Term.kind, k.cells ≠ lastAlone n → k.known ≠ 0 →
      ∃ u, Spread n k.gap u) (h : ∀ x, Fits n x → total l x = d) {k : Term (n + 1)}
    (hk : k ∈ l.map Term.kind) (hcells : k.cells ≠ 0) (hlast : k.cells ≠ lastAlone n) (hknown : k.known ≠ 0) :
    Even ((l.map Term.kind).count k) := by
  by_contra hodd
  -- an odd kind with the least gap
  obtain ⟨k₀, hk₀, ⟨hcells₀, hlast₀, hknown₀, hodd₀⟩, hleast⟩ := exists_least (l.map Term.kind)
    (fun k => k.cells ≠ 0 ∧ k.cells ≠ lastAlone n ∧ k.known ≠ 0 ∧ ¬ Even ((l.map Term.kind).count k))
    ⟨k, hk, hcells, hlast, hknown, hodd⟩
  obtain ⟨u, hu⟩ := hspread k₀ hk₀ hlast₀ hknown₀
  obtain ⟨p, hp, hcell⟩ := exists_cell hcells₀ hlast₀
  obtain ⟨hlastCell, hempty⟩ := fits_aimed hu hp k₀.cells
  have heven : ∀ x, ∀ k ∈ rest (l.map Term.kind), k.reaches x = true → k.gap.toNat < k₀.gap.toNat →
      Even ((rest (l.map Term.kind)).count k) := by
    intro x k hk hreaches hlt
    obtain ⟨hmem, hlast⟩ := mem_rest_iff.mp hk
    obtain ⟨hcells, hknown, -⟩ := gap_le_of_reaches (toNat_known_kind hmem) hreaches
    rw [count_rest hlast]
    by_contra hodd
    exact absurd (hleast k hmem ⟨hcells, hlast, hknown, hodd⟩) (Nat.not_le.mpr hlt)
  have hatx : Odd ((rest (l.map Term.kind)).countP (Term.reaches (aimed u p k₀.cells k₀.gap))) := by
    have hself := select_aimed_self (u := u) (θ := k₀.gap) hcell hp.le
    refine odd_countP (reaches_of_gap_eq (toNat_known_kind hk₀) hknown₀ hself) ?_
      fun k hk hreaches hne => heven _ k hk hreaches ?_
    · rw [count_rest hlast₀]
      exact Nat.not_even_iff_odd.mp hodd₀
    · have hgap := (gap_le_of_reaches (toNat_known_kind (mem_rest_iff.mp hk).1) hreaches).2.2
      by_cases hsame : k.cells = k₀.cells
      · rw [hsame, hself] at hgap
        exact lt_of_le_of_ne hgap fun heq => hne (eq_of_gap_eq hsame (BitVec.eq_of_toNat_eq heq))
      · exact lt_of_le_of_lt hgap (select_aimed_lt hu hcell hp.le hsame)
  have haty : Even ((rest (l.map Term.kind)).countP
      (Term.reaches (Lfsr.single n (BitVec.twoPow 32 (u n))))) := by
    refine even_countP fun k hk hreaches => heven _ k hk hreaches ?_
    have hgap := (gap_le_of_reaches (toNat_known_kind (mem_rest_iff.mp hk).1) hreaches).2.2
    have hlt := hu.toNat_twoPow_lt hp
    rw [Lfsr.select_single _ (Nat.lt_succ_self n)] at hgap
    split at hgap
    · exact lt_of_le_of_lt hgap hlt
    · exact lt_of_le_of_lt hgap (Nat.zero_lt_of_lt hlt)
  refine Nat.not_even_iff_odd.mpr hatx ((even_reaches_rest_iff h ?_ (fits_single n hempty) ?_).mpr haty)
  · rwa [Fits, hlastCell]
  · rw [hlastCell, Lfsr.single, if_pos rfl]

/-- The same for the last cell, once the other kinds are in even number. -/
theorem even_of_last (h : ∀ x, Fits n x → total l x = d)
    (hrest : ∀ k ∈ l.map Term.kind, k.cells ≠ 0 → k.cells ≠ lastAlone n → k.known ≠ 0 →
      Even ((l.map Term.kind).count k)) {k : Term (n + 1)} (hk : k ∈ l.map Term.kind)
    (hlast : k.cells = lastAlone n) (hknown : k.known ≠ 0) : Even ((l.map Term.kind).count k) := by
  by_contra hodd
  obtain ⟨k₀, hk₀, ⟨hlast₀, hknown₀, hodd₀⟩, hleast⟩ := exists_least (l.map Term.kind)
    (fun k => k.cells = lastAlone n ∧ k.known ≠ 0 ∧ ¬ Even ((l.map Term.kind).count k))
    ⟨k, hk, hlast, hknown, hodd⟩
  have hempty : k₀.gap.toNat % 2 ^ 16 = 0 := by
    obtain ⟨t, -, rfl⟩ := List.mem_map.mp hk₀
    have hgap := (toNat_gap (toNat_known_kind hk₀) hknown₀).1
    have hupper : t.kind.known.toNat = 2 ^ 16 * (t.known.toNat % 2 ^ 31 / 2 ^ 16) := by
      have hcells : t.cells = lastAlone n := hlast₀
      rw [Term.kind, if_pos hcells, toNat_and_upper]
    omega
  have hself : Lfsr.select k₀.cells (Lfsr.single n k₀.gap) = k₀.gap := by
    rw [hlast₀, lastAlone, Lfsr.select_twoPow _ (Nat.lt_succ_self n), Lfsr.single, if_pos rfl]
  have hatk₀ : Odd ((l.map Term.kind).countP (Term.reaches (Lfsr.single n k₀.gap))) := by
    refine odd_countP (reaches_of_gap_eq (toNat_known_kind hk₀) hknown₀ hself)
      (Nat.not_even_iff_odd.mp hodd₀) fun k hk hreaches hne => ?_
    obtain ⟨hcells, hknown, hgap⟩ := gap_le_of_reaches (toNat_known_kind hk) hreaches
    by_cases hlast : k.cells = lastAlone n
    · by_contra hodd
      have hle := hleast k hk ⟨hlast, hknown, hodd⟩
      rw [hlast, ← hlast₀, hself] at hgap
      exact hne (eq_of_gap_eq (hlast.trans hlast₀.symm) (BitVec.eq_of_toNat_eq (le_antisymm hgap hle)))
    · exact hrest k hk hcells hlast hknown
  exact Nat.not_even_iff_odd.mpr hatk₀ (even_reaches h (fits_single n hempty))

/-- **Terms that add up to one word, whatever the cells hold**: the cells cancel, and so does every kind
of term that can send a carry on. -/
theorem constant_iff (hspread : ∀ k ∈ l.map Term.kind, k.cells ≠ lastAlone n → k.known ≠ 0 →
      ∃ u, Spread n k.gap u) :
    (∀ x, Fits n x → total l x = d) ↔ Settled l ∧ xorSum (l.map Term.known) = d := by
  constructor
  · intro h
    have hsettled : Settled l := by
      refine ⟨cells_eq_zero_of_constant h, fun k hk hcells hknown => ?_⟩
      have hrest : ∀ k ∈ l.map Term.kind, k.cells ≠ 0 → k.cells ≠ lastAlone n → k.known ≠ 0 →
          Even ((l.map Term.kind).count k) := fun k hk => even_of_not_last hspread h hk
      by_cases hlast : k.cells = lastAlone n
      · exact even_of_last h hrest hk hlast hknown
      · exact hrest k hk hcells hlast hknown
    have hfits : Fits n (Lfsr.single 0 0) := fits_single 0 rfl
    exact ⟨hsettled, (hsettled.total_eq hfits).symm.trans (h _ hfits)⟩
  · rintro ⟨hsettled, rfl⟩ x hx
    exact hsettled.total_eq hx

end Constant

end CarrySums
