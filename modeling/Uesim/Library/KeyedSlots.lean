import Mathlib.Data.List.FinRange
import Uesim.Library.Counting

/-!
# Slots that hold entries with keys

A table has a fixed number of slots, some of them live. An entry is put into the first slot that is free, and
is meant to be the only live one with its key.
-/

namespace KeyedSlots

variable {α κ : Type} {n : Nat}

/-- The first slot whose entry passes. -/
def first (p : α → Bool) (table : Fin n → α) : Option (Fin n) := (List.finRange n).find? fun i => p (table i)

/-- No two live entries have the same key. -/
def Distinct (live : α → Bool) (key : α → κ) (table : Fin n → α) : Prop :=
  ∀ i j, live (table i) = true → live (table j) = true → key (table i) = key (table j) → i = j

section First

variable {p : α → Bool} {table : Fin n → α} {i : Fin n}

theorem first_eq_none_iff : first p table = none ↔ ∀ i, p (table i) = false := by
  rw [first, List.find?_eq_none]
  constructor
  · exact fun h i => Bool.eq_false_iff.mpr (h i (List.mem_finRange i))
  · exact fun h i _ => Bool.eq_false_iff.mp (h i)

theorem passes_of_first (h : first p table = some i) : p (table i) = true := by
  have hpasses := List.find?_some h
  exact hpasses

/-- No slot before the first one passes. -/
theorem first_eq_some_iff : first p table = some i ↔ p (table i) = true ∧ ∀ j < i, p (table j) = false := by
  rw [first, List.find?_eq_some_iff_getElem]
  refine and_congr_right fun _ => ?_
  constructor
  · rintro ⟨place, hplace, rfl, hbefore⟩ j hj
    have hfalse := hbefore j (by simpa [Fin.lt_def] using hj)
    rw [List.getElem_finRange, Bool.not_eq_true'] at hfalse
    exact hfalse
  · intro hbefore
    refine ⟨i, by simp, by simp, fun j hj => ?_⟩
    rw [List.getElem_finRange, Bool.not_eq_true']
    exact hbefore _ hj

end First

attribute [irreducible] first

section Distinct

variable {live : α → Bool} {key : α → κ} {table : Fin n → α} {i : Fin n}

theorem distinct_of_forall (h : ∀ i, live (table i) = false) : Distinct live key table :=
  fun i _ hi => absurd hi (Bool.eq_false_iff.mp (h i))

/-- A property of every live entry survives a write of an entry that has it if live. -/
theorem forall_live_update {P : α → Prop} {a : α} (h : ∀ j, live (table j) = true → P (table j))
    (ha : live a = true → P a) (j : Fin n) (hj : live (Function.update table i a j) = true) :
    P (Function.update table i a j) := by
  by_cases heq : j = i
  · rw [heq, Function.update_self] at hj ⊢
    exact ha hj
  · rw [Function.update_of_ne heq] at hj ⊢
    exact h j hj

/-- A slot that is not live afterwards does not share its key. -/
theorem Distinct.update_free (h : Distinct live key table) {a : α} (ha : live a = false) :
    Distinct live key (Function.update table i a) := by
  intro j k hj hk hkey
  have hother (j : Fin n) (hj : live (Function.update table i a j) = true) : j ≠ i := by
    rintro rfl
    rw [Function.update_self, ha] at hj
    cases hj
  have hji := hother j hj
  have hki := hother k hk
  rw [Function.update_of_ne hji] at hj hkey
  rw [Function.update_of_ne hki] at hk hkey
  exact h j k hj hk hkey

/-- **An entry that is put into a free slot keeps the keys distinct exactly when its key is not in use.** -/
theorem Distinct.update_live_iff (h : Distinct live key table) (hfree : live (table i) = false) {a : α}
    (ha : live a = true) :
    Distinct live key (Function.update table i a) ↔ ∀ j, live (table j) = true → key (table j) ≠ key a := by
  have hother (j : Fin n) (hj : live (table j) = true) : j ≠ i := by
    rintro rfl
    rw [hfree] at hj
    cases hj
  constructor
  · intro hdistinct j hj hkey
    refine hother j hj (hdistinct j i ?_ ?_ ?_)
    · rw [Function.update_of_ne (hother j hj), hj]
    · rw [Function.update_self, ha]
    · rw [Function.update_of_ne (hother j hj), Function.update_self, hkey]
  · intro hfresh j k hj hk hkey
    by_cases hji : j = i
    · by_cases hki : k = i
      · rw [hji, hki]
      · rw [Function.update_of_ne hki] at hk hkey
        rw [hji, Function.update_self] at hkey
        exact absurd hkey.symm (hfresh k hk)
    · rw [Function.update_of_ne hji] at hj hkey
      by_cases hki : k = i
      · rw [hki, Function.update_self] at hkey
        exact absurd hkey (hfresh j hj)
      · rw [Function.update_of_ne hki] at hk hkey
        exact h j k hj hk hkey

end Distinct

end KeyedSlots
