import Mathlib.Data.Nat.ModEq
import Mathlib.Logic.Function.Iterate

/-!
# Loops that need not end

A `while` loop is a step and a test that ends it. It is run on fuel, and it terminates when some
amount of fuel is enough. A loop that moves a pointer round a circle and tests what it points at ends
exactly when the test succeeds somewhere on the circle.
-/

namespace Loop

variable {σ : Type} (step : σ → σ) (stop : σ → Bool)

/-- Run a loop on so many evaluations of its test. -/
def run : Nat → σ → Option σ
  | 0, _ => none
  | fuel + 1, s => if stop s then some s else run fuel (step s)

theorem exists_iterate_of_run {fuel : Nat} {s t : σ} (h : run step stop fuel s = some t) :
    ∃ n, t = step^[n] s ∧ stop t = true := by
  induction fuel generalizing s with
  | zero => cases h
  | succ fuel ih =>
      rw [run] at h
      by_cases hstop : stop s = true
      · rw [if_pos hstop] at h
        obtain rfl := Option.some.inj h
        exact ⟨0, rfl, hstop⟩
      · rw [if_neg hstop] at h
        obtain ⟨n, hn, ht⟩ := ih h
        exact ⟨n + 1, hn, ht⟩

/-- What a loop returns is what it comes to in the first round in which its test ends it. -/
theorem exists_first_of_run {fuel : Nat} {s t : σ} (h : run step stop fuel s = some t) :
    ∃ n, t = step^[n] s ∧ stop (step^[n] s) = true ∧ ∀ m < n, stop (step^[m] s) = false := by
  induction fuel generalizing s with
  | zero => cases h
  | succ fuel ih =>
      rw [run] at h
      cases hstop : stop s with
      | true =>
          rw [if_pos hstop] at h
          exact ⟨0, (Option.some.inj h).symm, hstop, fun m hm => absurd hm (Nat.not_lt_zero m)⟩
      | false =>
          rw [if_neg (by simp [hstop])] at h
          obtain ⟨n, hn, hends, hgo⟩ := ih h
          refine ⟨n + 1, hn, hends, fun m hm => ?_⟩
          cases m with
          | zero => exact hstop
          | succ m => exact hgo m (Nat.lt_of_succ_lt_succ hm)

/-- A loop that keeps more than another returns more. -/
theorem map_run {τ : Type} (π : τ → σ) {step' : τ → τ} {stop' : τ → Bool} (hstep : ∀ t, π (step' t) = step (π t))
    (hstop : ∀ t, stop' t = stop (π t)) (fuel : Nat) (t : τ) :
    (run step' stop' fuel t).map π = run step stop fuel (π t) := by
  induction fuel generalizing t with
  | zero => rfl
  | succ fuel ih =>
      rw [run, run, hstop]
      split
      · rfl
      · rw [ih, hstep]

theorem run_induction {P : σ → Prop} (hstep : ∀ s, P s → P (step s)) {fuel : Nat} {s t : σ}
    (hs : P s) (h : run step stop fuel s = some t) : P t := by
  obtain ⟨n, rfl, -⟩ := exists_iterate_of_run step stop h
  exact Function.Iterate.rec P hs hstep n

/-- **A loop terminates exactly when it reaches a state that ends it.** -/
theorem exists_run_isSome_iff (s : σ) :
    (∃ fuel, (run step stop fuel s).isSome) ↔ ∃ n, stop (step^[n] s) = true := by
  constructor
  · rintro ⟨fuel, h⟩
    obtain ⟨t, ht⟩ := Option.isSome_iff_exists.mp h
    obtain ⟨n, rfl, hstop⟩ := exists_iterate_of_run step stop ht
    exact ⟨n, hstop⟩
  · rintro ⟨n, h⟩
    refine ⟨n + 1, ?_⟩
    induction n generalizing s with
    | zero => simpa [run] using h
    | succ n ih =>
        rw [run]
        by_cases hstop : stop s = true
        · rw [if_pos hstop]
          rfl
        · rw [if_neg hstop]
          exact ih (step s) h

theorem run_eq_iterate {n fuel : Nat} {s : σ} (hfuel : n < fuel) (hstop : stop (step^[n] s) = true)
    (hgo : ∀ m < n, stop (step^[m] s) = false) : run step stop fuel s = some (step^[n] s) := by
  induction n generalizing fuel s with
  | zero =>
      obtain ⟨fuel, rfl⟩ := Nat.exists_eq_succ_of_ne_zero (Nat.ne_of_gt hfuel)
      exact if_pos hstop
  | succ n ih =>
      obtain ⟨fuel, rfl⟩ := Nat.exists_eq_succ_of_ne_zero (Nat.ne_of_gt (Nat.zero_lt_of_lt hfuel))
      have hfirst : stop s = false := hgo 0 (Nat.succ_pos n)
      rw [run, if_neg (by simp [hfirst])]
      exact ih (Nat.lt_of_succ_lt_succ hfuel) hstop fun m hm => hgo (m + 1) (Nat.succ_lt_succ hm)

/-- A measure that every round lowers bounds the rounds. -/
theorem isSome_run_of_measure (μ : σ → Nat) (hμ : ∀ s, stop s = false → μ (step s) < μ s)
    {fuel : Nat} {s : σ} (h : μ s < fuel) : (run step stop fuel s).isSome := by
  induction fuel generalizing s with
  | zero => exact absurd h (Nat.not_lt_zero _)
  | succ fuel ih =>
      rw [run]
      cases hstop : stop s with
      | true => rfl
      | false => exact ih (Nat.lt_of_lt_of_le (hμ s hstop) (Nat.le_of_lt_succ h))

/-! ### Round a circle -/

theorem iterate_succ_mod {M p : Nat} (hp : p < M) (n : Nat) :
    (fun q => (q + 1) % M)^[n] p = (p + n) % M := by
  induction n with
  | zero => exact (Nat.mod_eq_of_lt hp).symm
  | succ n ih => rw [Function.iterate_succ_apply', ih, Nat.mod_add_mod, Nat.add_assoc]

/-- **A pointer that steps round a circle sees every place on it.** -/
theorem exists_iterate_succ_mod_iff {M p : Nat} (hp : p < M) (P : Nat → Prop) :
    (∃ n, P ((fun q => (q + 1) % M)^[n] p)) ↔ ∃ i < M, P i := by
  constructor
  · rintro ⟨n, h⟩
    rw [iterate_succ_mod hp] at h
    exact ⟨_, Nat.mod_lt _ (by omega), h⟩
  · rintro ⟨i, hi, h⟩
    refine ⟨i + M - p, ?_⟩
    have hplace : (p + (i + M - p)) % M = i := by
      rw [show p + (i + M - p) = i + M by omega, Nat.add_mod_right, Nat.mod_eq_of_lt hi]
    rwa [iterate_succ_mod hp, hplace]

end Loop
