import Mathlib.Data.List.Perm.Basic
import Mathlib.Order.Lattice

/-!
# Sorting by exchange of neighbours

A pass goes along a list and exchanges two neighbours where the first has the larger key. It takes the
largest to its end, and each round of a sort is one pass that is shorter by one. What has the same key is
never exchanged.
-/

namespace ExchangeSort

variable {α κ : Type} [LinearOrder κ] (key : α → κ)

/-- So many comparisons. -/
def pass : Nat → List α → List α
  | comparisons + 1, first :: second :: rest =>
      if key first > key second then second :: pass comparisons (first :: rest)
      else first :: pass comparisons (second :: rest)
  | _, xs => xs

/-- So many rounds, the first of as many comparisons. -/
def sort : Nat → List α → List α
  | 0, xs => xs
  | rounds + 1, xs => sort rounds (pass key (rounds + 1) xs)

/-- The same entries, and those of the same key in the same order. -/
structure Rearranges (xs ys : List α) : Prop where
  perm : ys.Perm xs
  stable : ∀ k, ys.filter (fun a => key a = k) = xs.filter (fun a => key a = k)

namespace Rearranges

variable {key} {xs ys zs : List α}

theorem refl (xs : List α) : Rearranges key xs xs := ⟨.refl xs, fun _ => rfl⟩

theorem trans (h : Rearranges key xs ys) (h' : Rearranges key ys zs) : Rearranges key xs zs :=
  ⟨h'.perm.trans h.perm, fun k => (h'.stable k).trans (h.stable k)⟩

theorem cons (h : Rearranges key xs ys) (a : α) : Rearranges key (a :: xs) (a :: ys) := by
  refine ⟨h.perm.cons a, fun k => ?_⟩
  rw [List.filter_cons, List.filter_cons, h.stable k]

theorem append_right (h : Rearranges key xs ys) (zs : List α) : Rearranges key (xs ++ zs) (ys ++ zs) := by
  refine ⟨h.perm.append_right zs, fun k => ?_⟩
  rw [List.filter_append, List.filter_append, h.stable k]

/-- Neighbours of different keys may change places. -/
theorem swap {a b : α} (hne : key a ≠ key b) (xs : List α) :
    Rearranges key (a :: b :: xs) (b :: a :: xs) := by
  refine ⟨.swap a b xs, fun k => ?_⟩
  by_cases hk : key a = k
  · have hother : ¬key b = k := fun h => hne (hk.trans h.symm)
    simp [hk, hother]
  · simp only [List.filter_cons, hk, decide_false, Bool.false_eq_true, if_false]

end Rearranges

section Passes

theorem pass_rearranges (comparisons : Nat) (xs : List α) : Rearranges key xs (pass key comparisons xs) := by
  fun_induction pass key comparisons xs with
  | case1 comparisons first second rest hswap ih =>
      exact (Rearranges.swap (ne_of_gt hswap) rest).trans (ih.cons second)
  | case2 comparisons first second rest hswap ih => exact ih.cons first
  | case3 comparisons xs => exact .refl xs

theorem sort_rearranges (rounds : Nat) (xs : List α) : Rearranges key xs (sort key rounds xs) := by
  induction rounds generalizing xs with
  | zero => exact .refl xs
  | succ rounds ih => exact (pass_rearranges key (rounds + 1) xs).trans (ih _)

/-- A pass does not come to what lies behind its comparisons. -/
theorem pass_append {comparisons : Nat} {xs : List α} (h : comparisons < xs.length) (rest : List α) :
    pass key comparisons (xs ++ rest) = pass key comparisons xs ++ rest := by
  induction comparisons generalizing xs with
  | zero => rw [pass.eq_2, pass.eq_2] <;> simp
  | succ comparisons ih =>
      cases xs with
      | nil => exact absurd h (Nat.not_lt_zero _)
      | cons first xs =>
        cases xs with
        | nil => exact absurd h (by simp)
        | cons second xs =>
            rw [List.length_cons] at h
            have hlength : comparisons < xs.length + 1 := Nat.lt_of_succ_lt_succ h
            rw [List.cons_append, List.cons_append, pass, pass]
            split
            · exact congrArg (second :: ·) (@ih (first :: xs) hlength)
            · exact congrArg (first :: ·) (@ih (second :: xs) hlength)

theorem length_pass (comparisons : Nat) (xs : List α) : (pass key comparisons xs).length = xs.length :=
  (pass_rearranges key comparisons xs).perm.length_eq

theorem sort_append {rounds : Nat} {xs : List α} (h : rounds ≤ xs.length - 1) (rest : List α) :
    sort key rounds (xs ++ rest) = sort key rounds xs ++ rest := by
  induction rounds generalizing xs with
  | zero => rfl
  | succ rounds ih =>
      rw [sort, sort, pass_append key (by omega), ih]
      rw [length_pass]
      omega

/-- A pass over all of a list takes one of the largest keys to its end. -/
theorem pass_last {comparisons : Nat} {xs : List α} (h : xs.length = comparisons + 1) :
    ∃ front last, pass key comparisons xs = front ++ [last] ∧ ∀ a ∈ front, key a ≤ key last := by
  induction comparisons generalizing xs with
  | zero =>
      obtain ⟨a, rfl⟩ := List.length_eq_one_iff.mp h
      exact ⟨[], a, rfl, List.forall_mem_nil _⟩
  | succ comparisons ih =>
      obtain ⟨first, second, xs, rfl⟩ : ∃ first second rest, xs = first :: second :: rest := by
        match xs, h with
        | first :: second :: rest, _ => exact ⟨first, second, rest, rfl⟩
      rw [List.length_cons, List.length_cons] at h
      -- the one that goes on is no smaller than the one that stays
      have hround : ∀ stays goes, key stays ≤ key goes → ∃ front last,
          stays :: pass key comparisons (goes :: xs) = front ++ [last] ∧ ∀ a ∈ front, key a ≤ key last := by
        intro stays goes hle
        obtain ⟨front, last, hpass, hlast⟩ := @ih (goes :: xs) (Nat.succ_inj.mp h)
        refine ⟨stays :: front, last, congrArg (stays :: ·) hpass, List.forall_mem_cons.mpr ⟨?_, hlast⟩⟩
        have hgoes : goes ∈ front ++ [last] := by
          rw [← hpass]
          exact (pass_rearranges key comparisons (goes :: xs)).perm.mem_iff.mpr List.mem_cons_self
        rcases List.mem_append.mp hgoes with hfront | hend
        · exact hle.trans (hlast goes hfront)
        · exact hle.trans (le_of_eq (congrArg key (List.mem_singleton.mp hend)))
      rw [pass]
      split
      · rename_i hswap
        exact hround second first (le_of_lt hswap)
      · rename_i hswap
        exact hround first second (not_lt.mp hswap)

/-- **With a round less than it has entries a list is sorted.** -/
theorem sort_pairwise {rounds : Nat} {xs : List α} (h : rounds = xs.length - 1) :
    (sort key rounds xs).Pairwise (key · ≤ key ·) := by
  induction rounds generalizing xs with
  | zero =>
      match xs, h with
      | [], _ => exact .nil
      | [a], _ => exact List.pairwise_singleton _ a
  | succ rounds ih =>
      obtain ⟨front, last, hpass, hlast⟩ := @pass_last _ _ _ key (rounds + 1) xs (by omega)
      have hlength := length_pass key (rounds + 1) xs
      rw [hpass, List.length_append, List.length_singleton] at hlength
      have hrounds : rounds = front.length - 1 := by omega
      rw [sort, hpass, sort_append key (Nat.le_of_eq hrounds), List.pairwise_append]
      refine ⟨ih hrounds, List.pairwise_singleton _ last, fun a ha b hb => ?_⟩
      rw [List.mem_singleton] at hb
      subst hb
      exact hlast a ((sort_rearranges key rounds front).perm.mem_iff.mp ha)

end Passes

end ExchangeSort
