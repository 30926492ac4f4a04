import Mathlib.Algebra.Order.Ring.Int

/-!
# Conditions that hold for some time

A condition is looked at now and then, and someone notes since when it has held without a report. A report
that waits for the condition to have held long enough is right, and if every look comes to something before
long, nothing that is due is missed.
-/

namespace HoldTimer

/-- The condition holds at every look of an interval. -/
def HeldOn (cond : Nat → Prop) (first last : Nat) : Prop := ∀ n, first ≤ n → n ≤ last → cond n

/-- Before every look it is noted whether the condition was met at the last one and not reported, and since
when. -/
structure Tracks (cond reported entered : Nat → Prop) (since now : Nat → Int) : Prop where
  start : ¬entered 0
  next : ∀ n, entered (n + 1) ↔ cond n ∧ ¬reported n
  fresh : ∀ n, cond n → ¬reported n → ¬entered n → since (n + 1) = now n
  kept : ∀ n, cond n → ¬reported n → entered n → since (n + 1) = since n

variable {cond reported entered : Nat → Prop} {since now : Nat → Int}

namespace Tracks

/-- What is noted began at some look, and the condition has held ever since. -/
theorem exists_start (h : Tracks cond reported entered since now) {n : Nat} (hentered : entered n) :
    ∃ j, j < n ∧ since n = now j ∧ ∀ k, j ≤ k → k < n → cond k ∧ ¬reported k := by
  induction n with
  | zero => exact absurd hentered h.start
  | succ n ih =>
      obtain ⟨hcond, hquiet⟩ := (h.next n).mp hentered
      by_cases hbefore : entered n
      · obtain ⟨j, hj, hsince, hheld⟩ := ih hbefore
        refine ⟨j, Nat.lt_succ_of_lt hj, (h.kept n hcond hquiet hbefore).trans hsince, fun k hjk hkn => ?_⟩
        rcases Nat.lt_succ_iff_lt_or_eq.mp hkn with hlt | rfl
        · exact hheld k hjk hlt
        · exact ⟨hcond, hquiet⟩
      · refine ⟨n, Nat.lt_succ_self n, h.fresh n hcond hquiet hbefore, fun k hnk hkn => ?_⟩
        obtain rfl := Nat.le_antisymm hnk (Nat.le_of_lt_succ hkn)
        exact ⟨hcond, hquiet⟩

/-- What has held longer is noted: the note is not younger than any look since which the condition has held
without a report. -/
theorem since_le (h : Tracks cond reported entered since now) (hmono : ∀ m n, m ≤ n → now m ≤ now n)
    {j n : Nat} (hj : j ≤ n) (hheld : ∀ k, j ≤ k → k ≤ n → cond k ∧ ¬reported k) :
    entered (n + 1) ∧ since (n + 1) ≤ now j := by
  induction n, hj using Nat.le_induction with
  | base =>
      obtain ⟨hcond, hquiet⟩ := hheld j le_rfl le_rfl
      refine ⟨(h.next j).mpr ⟨hcond, hquiet⟩, ?_⟩
      by_cases hbefore : entered j
      · obtain ⟨i, hi, hsince, -⟩ := h.exists_start hbefore
        rw [h.kept j hcond hquiet hbefore, hsince]
        exact hmono i j hi.le
      · exact (h.fresh j hcond hquiet hbefore).le
  | succ n hjn ih =>
      obtain ⟨hbefore, hle⟩ := ih fun k hjk hkn => hheld k hjk (Nat.le_succ_of_le hkn)
      obtain ⟨hcond, hquiet⟩ := hheld (n + 1) (Nat.le_succ_of_le hjn) le_rfl
      exact ⟨(h.next (n + 1)).mpr ⟨hcond, hquiet⟩, (h.kept (n + 1) hcond hquiet hbefore).trans_le hle⟩

/-- **A report that waits is right.** -/
theorem exists_heldOn (h : Tracks cond reported entered since now) {n : Nat} {wait : Int} (hcond : cond n)
    (hentered : entered n) (hwait : wait ≤ now n - since n) :
    ∃ j, j ≤ n ∧ HeldOn cond j n ∧ wait ≤ now n - now j := by
  obtain ⟨j, hj, hsince, hheld⟩ := h.exists_start hentered
  refine ⟨j, hj.le, fun k hjk hkn => ?_, hsince ▸ hwait⟩
  rcases Nat.lt_or_eq_of_le hkn with hlt | rfl
  · exact (hheld k hjk hlt).1
  · exact hcond

section Due

variable (h : Tracks cond reported entered since now) (hmono : ∀ m n, m ≤ n → now m ≤ now n) {wait : Int}
  (rank : Nat → Nat)
  (hgoes : ∀ n, entered (n + 1) → wait ≤ now n - since (n + 1) → cond (n + 1))
  (hcloser : ∀ n, cond n → entered n → wait ≤ now n - since n → ¬reported n → rank (n + 1) < rank n)

include h hmono hgoes hcloser

theorem exists_reported_of_due {bound n : Nat} (hbound : rank (n + 1) < bound) (hentered : entered (n + 1))
    (hdue : wait ≤ now n - since (n + 1)) : ∃ m, n < m ∧ reported m ∧ HeldOn cond (n + 1) m := by
  induction bound generalizing n with
  | zero => exact absurd hbound (Nat.not_lt_zero _)
  | succ bound ih =>
      have hcond := hgoes n hentered hdue
      have hlater : now n ≤ now (n + 1) := hmono n (n + 1) (Nat.le_succ n)
      by_cases hreported : reported (n + 1)
      · refine ⟨n + 1, Nat.lt_succ_self n, hreported, fun k hnk hkn => ?_⟩
        obtain rfl := Nat.le_antisymm hnk hkn
        exact hcond
      · have hless := hcloser (n + 1) hcond hentered (by omega) hreported
        have hkept := h.kept (n + 1) hcond hreported hentered
        obtain ⟨m, hm, hmreported, hheld⟩ :=
          ih (n := n + 1) (by omega) ((h.next (n + 1)).mpr ⟨hcond, hreported⟩) (by omega)
        refine ⟨m, by omega, hmreported, fun k hnk hkm => ?_⟩
        rcases Nat.lt_or_eq_of_le hnk with hlt | rfl
        · exact hheld k hlt hkm
        · exact hcond

/-- **What is due is reported**, if a condition that is due goes on at the next look, and every look that
passes it over brings the report closer. -/
theorem exists_reported {j i : Nat} (hji : j ≤ i) (hheld : HeldOn cond j i)
    (hquiet : ∀ k, j ≤ k → k < i → ¬reported k) (hwait : wait ≤ now i - now j) :
    ∃ m, i ≤ m ∧ reported m ∧ HeldOn cond i m := by
  by_cases hnow : reported i
  · exact ⟨i, le_rfl, hnow, fun k hik hki => hheld k (hji.trans hik) hki⟩
  · have hall : ∀ k, j ≤ k → k ≤ i → cond k ∧ ¬reported k := by
      intro k hjk hki
      refine ⟨hheld k hjk hki, ?_⟩
      rcases Nat.lt_or_eq_of_le hki with hlt | rfl
      · exact hquiet k hjk hlt
      · exact hnow
    obtain ⟨hentered, hsince⟩ := h.since_le hmono hji hall
    obtain ⟨m, hm, hreported, hlater⟩ := exists_reported_of_due h hmono rank hgoes hcloser
      (Nat.lt_succ_self _) hentered (by omega)
    refine ⟨m, hm.le, hreported, fun k hik hkm => ?_⟩
    rcases Nat.lt_or_eq_of_le hik with hlt | rfl
    · exact hlater k hlt hkm
    · exact hheld i hji le_rfl

end Due

end Tracks

end HoldTimer
