import Mathlib.Data.List.Dedup
import Uesim.Library.KeyedSlots

/-!
# Tables that only fill

If no entry is ever let go, the entries of a table stand side by side from the first slot on, in the order in
which they came. Such a table is the list of its keys. What looks for a key before it takes a slot keeps the
first keys that differ, up to its capacity.
-/

namespace Admissions

open KeyedSlots

variable {α κ : Type} {n : Nat}

/-- The live entries are the first ones, with these keys. -/
structure Admitted (live : α → Bool) (key : α → κ) (table : Fin n → α) (known : List κ) : Prop where
  length_le : known.length ≤ n
  live_iff : ∀ i : Fin n, live (table i) = true ↔ (i : Nat) < known.length
  key_eq : ∀ i : Fin n, (i : Nat) < known.length → known[(i : Nat)]? = some (key (table i))

section Admitted

variable {live : α → Bool} {key : α → κ} {table : Fin n → α} {known : List κ} {i : Fin n} {a : α}

theorem admitted_of_dead (h : ∀ i, live (table i) = false) : Admitted live key table [] := by
  refine ⟨Nat.zero_le n, fun i => ?_, fun i hi => absurd hi (Nat.not_lt_zero i)⟩
  rw [h i]
  exact iff_of_false Bool.false_ne_true (Nat.not_lt_zero i)

theorem Admitted.dead_iff (h : Admitted live key table known) (i : Fin n) :
    live (table i) = false ↔ known.length ≤ i := by
  rw [← Bool.not_eq_true, h.live_iff, Nat.not_lt]

/-- The first free slot is the one behind the entries. -/
theorem Admitted.first_free_eq_some (h : Admitted live key table known)
    (hi : first (fun a => !live a) table = some i) : (i : Nat) = known.length := by
  obtain ⟨hfree, hbefore⟩ := first_eq_some_iff.mp hi
  have hle : known.length ≤ i := (h.dead_iff i).mp ((Bool.not_eq_true' _).mp hfree)
  refine le_antisymm (Nat.not_lt.mp fun hlt => ?_) hle
  have hlive := hbefore ⟨known.length, hlt.trans i.isLt⟩ hlt
  rw [Bool.not_eq_false', h.live_iff] at hlive
  exact absurd hlive (Nat.lt_irrefl _)

theorem Admitted.first_free_eq_none_iff (h : Admitted live key table known) :
    first (fun a => !live a) table = none ↔ known.length = n := by
  rw [first_eq_none_iff]
  constructor
  · intro hall
    refine le_antisymm h.length_le (Nat.not_lt.mp fun hlt => ?_)
    have hlive := hall ⟨known.length, hlt⟩
    rw [Bool.not_eq_false', h.live_iff] at hlive
    exact absurd hlive (Nat.lt_irrefl _)
  · intro hfull i
    rw [Bool.not_eq_false', h.live_iff, hfull]
    exact i.isLt

/-- An entry behind the others. -/
theorem Admitted.push (h : Admitted live key table known) (hi : (i : Nat) = known.length) (ha : live a = true) :
    Admitted live key (Function.update table i a) (known ++ [key a]) := by
  have hlength : (known ++ [key a]).length = known.length + 1 := by
    rw [List.length_append, List.length_singleton]
  refine ⟨?_, fun j => ?_, fun j hj => ?_⟩
  · have hlt := i.isLt
    omega
  · by_cases hji : j = i
    · rw [hji, Function.update_self, hlength]
      exact iff_of_true ha (by omega)
    · have hne : (j : Nat) ≠ i := fun heq => hji (Fin.ext heq)
      rw [Function.update_of_ne hji, h.live_iff, hlength]
      omega
  · by_cases hji : j = i
    · rw [hji, Function.update_self, hi, List.getElem?_concat_length]
    · have hne : (j : Nat) ≠ i := fun heq => hji (Fin.ext heq)
      have hlt : (j : Nat) < known.length := by omega
      rw [Function.update_of_ne hji, List.getElem?_append_left hlt]
      exact h.key_eq j hlt

/-- A write that leaves the key of a live entry as it is. -/
theorem Admitted.rewrite (h : Admitted live key table known) (hlive : live a = live (table i))
    (hkey : key a = key (table i)) : Admitted live key (Function.update table i a) known := by
  refine ⟨h.length_le, fun j => ?_, fun j hj => ?_⟩
  · by_cases hji : j = i
    · rw [hji, Function.update_self, hlive]
      exact h.live_iff i
    · rw [Function.update_of_ne hji]
      exact h.live_iff j
  · by_cases hji : j = i
    · rw [hji] at hj ⊢
      rw [Function.update_self, hkey]
      exact h.key_eq i hj
    · rw [Function.update_of_ne hji]
      exact h.key_eq j hj

theorem Admitted.mem_iff (h : Admitted live key table known) {k : κ} :
    k ∈ known ↔ ∃ i, live (table i) = true ∧ key (table i) = k := by
  rw [List.mem_iff_getElem?]
  constructor
  · rintro ⟨place, hplace⟩
    obtain ⟨hlt, -⟩ := List.getElem?_eq_some_iff.mp hplace
    refine ⟨⟨place, hlt.trans_le h.length_le⟩, (h.live_iff _).mpr hlt, ?_⟩
    have hkey := h.key_eq ⟨place, hlt.trans_le h.length_le⟩ hlt
    exact Option.some.inj (hkey.symm.trans hplace)
  · rintro ⟨i, hi, rfl⟩
    exact ⟨i, h.key_eq i ((h.live_iff i).mp hi)⟩

theorem Admitted.first_key_eq_none_iff [DecidableEq κ] (h : Admitted live key table known) {k : κ} :
    first (fun a => live a && key a == k) table = none ↔ k ∉ known := by
  rw [first_eq_none_iff, h.mem_iff, not_exists]
  refine forall_congr' fun i => ?_
  rw [← Bool.not_eq_true, Bool.and_eq_true, beq_iff_eq]

end Admitted

/-! ### Keys that are asked for again -/

variable [DecidableEq κ]

/-- A key that is known is found, and another one is added while there is room. -/
def letIn (capacity : Nat) (known : List κ) (k : κ) : List κ :=
  if k ∈ known ∨ known.length = capacity then known else known ++ [k]

/-- The keys in the order in which they come first. -/
def firstSeen (keys : List κ) : List κ := keys.reverse.dedup.reverse

theorem firstSeen_append_singleton (keys : List κ) (k : κ) :
    firstSeen (keys ++ [k]) = if k ∈ keys then firstSeen keys else firstSeen keys ++ [k] := by
  rw [firstSeen, List.reverse_append, List.reverse_singleton, List.singleton_append]
  split
  · rename_i hmem
    rw [List.dedup_cons_of_mem (List.mem_reverse.mpr hmem), firstSeen]
  · rename_i hmem
    rw [List.dedup_cons_of_notMem (fun h => hmem (List.mem_reverse.mp h)), List.reverse_cons, firstSeen]

theorem mem_firstSeen {keys : List κ} {k : κ} : k ∈ firstSeen keys ↔ k ∈ keys := by
  rw [firstSeen, List.mem_reverse, List.mem_dedup, List.mem_reverse]

/-- **The known keys are the first ones that differ.** -/
theorem foldl_letIn (capacity : Nat) (keys : List κ) :
    keys.foldl (letIn capacity) [] = (firstSeen keys).take capacity := by
  induction keys using List.reverseRecOn with
  | nil => exact List.take_nil.symm
  | append_singleton keys k ih =>
      rw [List.foldl_append, List.foldl_cons, List.foldl_nil, ih, firstSeen_append_singleton, letIn,
        List.length_take]
      by_cases hseen : k ∈ keys
      · -- a key that has been left out has been left out for want of room
        rw [if_pos hseen]
        refine if_pos (or_iff_not_imp_left.mpr fun hout => ?_)
        refine min_eq_left (Nat.not_lt.mp fun hshort => hout ?_)
        rw [List.take_of_length_le hshort.le]
        exact mem_firstSeen.mpr hseen
      · have hout : k ∉ (firstSeen keys).take capacity := fun hmem =>
          hseen (mem_firstSeen.mp (List.mem_of_mem_take hmem))
        rw [if_neg hseen]
        rcases Nat.lt_or_ge (firstSeen keys).length capacity with hroom | hfull
        · rw [if_neg (not_or.mpr ⟨hout, by omega⟩), List.take_of_length_le hroom.le, List.take_of_length_le]
          rw [List.length_append, List.length_singleton]
          exact hroom
        · rw [if_pos (.inr (min_eq_left hfull)), List.take_append_of_le_length hfull]

end Admissions
