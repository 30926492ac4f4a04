import Mathlib.Algebra.BigOperators.Group.Finset.Piecewise
import Mathlib.Algebra.Order.BigOperators.Group.Finset
import Mathlib.Data.Fintype.BigOperators

/-!
# How many entries of a table pass

A table is a function on finitely many places. A counter that is kept up to date beside it goes up by one
where an entry passes that did not before, and down by one where one does not any more.
-/

namespace Counting

variable {ι α : Type} [Fintype ι] (p : α → Bool) (table : ι → α)

def count : Nat := ∑ i, (p (table i)).toNat

theorem count_eq_card : count p table = (Finset.univ.filter fun i => p (table i) = true).card := by
  rw [Finset.card_filter]
  refine Finset.sum_congr rfl fun i _ => ?_
  cases p (table i) <;> rfl

theorem count_eq_zero_of_forall (h : ∀ i, p (table i) = false) : count p table = 0 := by
  refine Finset.sum_eq_zero fun i _ => ?_
  rw [h i]
  rfl

theorem count_le_card : count p table ≤ Fintype.card ι := by
  rw [count_eq_card]
  exact Finset.card_le_univ _

variable {p table} {i : ι}

theorem count_congr {table' : ι → α} (h : ∀ i, p (table' i) = p (table i)) :
    count p table' = count p table := by
  refine Finset.sum_congr rfl fun i _ => ?_
  rw [h i]

/-- Where one does not pass, there is room for one more. -/
theorem count_lt_card (h : p (table i) = false) : count p table < Fintype.card ι := by
  rw [count_eq_card]
  refine Finset.card_lt_univ_of_notMem (x := i) ?_
  rw [Finset.mem_filter, h]
  exact fun hmem => by cases hmem.2

theorem exists_of_count_pos (h : 0 < count p table) : ∃ i, p (table i) = true := by
  by_contra hnone
  rw [count_eq_zero_of_forall p table fun i => Bool.eq_false_iff.mpr fun hi => hnone ⟨i, hi⟩] at h
  exact absurd h (Nat.lt_irrefl 0)

theorem count_pos (h : p (table i) = true) : 0 < count p table := by
  rw [count_eq_card]
  exact Finset.card_pos.mpr ⟨i, Finset.mem_filter.mpr ⟨Finset.mem_univ i, h⟩⟩

theorem count_update_add [DecidableEq ι] (p : α → Bool) (table : ι → α) (i : ι) (a : α) :
    count p (Function.update table i a) + (p (table i)).toNat = count p table + (p a).toNat := by
  have hupdate : (fun j => (p (Function.update table i a j)).toNat)
      = Function.update (fun j => (p (table j)).toNat) i (p a).toNat := by
    funext j
    by_cases heq : j = i
    · rw [heq, Function.update_self, Function.update_self]
    · rw [Function.update_of_ne heq, Function.update_of_ne heq]
  have hrest := Finset.sum_erase_add Finset.univ (fun j => (p (table j)).toNat) (Finset.mem_univ i)
  rw [count, hupdate, Finset.sum_update_of_mem (Finset.mem_univ i), Finset.sdiff_singleton_eq_erase, count]
  omega

end Counting
