import Mathlib.Algebra.BigOperators.Group.Finset.Basic
import Mathlib.Algebra.Order.Group.Multiset
import Uesim.Library.KeyedSlots

/-!
# Tables that keep a bag of keys

A table has a fixed number of slots. What is put in goes into the first slot that is free, and what is taken
out is the first entry with the key. If nobody looks whether a key is in use, such a table is a bag of keys:
a key that has been put in twice has to be taken out twice.
-/

namespace SlotBag

open KeyedSlots

variable {α κ : Type} {n : Nat} (live : α → Bool) (key : α → κ)

/-- What one entry puts into the bag. -/
def entry (a : α) : Multiset κ := if live a then {key a} else 0

def bag (table : Fin n → α) : Multiset κ := ∑ i, entry live key (table i)

/-- What happens to a bag that holds up to `capacity` keys. -/
inductive Op (κ : Type) where
  | put (k : κ)
  | take (k : κ)
  | clear
  | keep

def Op.apply [DecidableEq κ] (capacity : Nat) (held : Multiset κ) : Op κ → Multiset κ
  | put k => if Multiset.card held < capacity then k ::ₘ held else held
  | take k => held.erase k
  | clear => 0
  | keep => held

variable {live key} {table : Fin n → α} {i : Fin n} {a : α} {k : κ}

theorem entry_of_live (h : live a = true) : entry live key a = {key a} := if_pos h

theorem entry_of_dead (h : live a = false) : entry live key a = 0 := if_neg (Bool.eq_false_iff.mp h)

theorem mem_bag : k ∈ bag live key table ↔ ∃ i, live (table i) = true ∧ key (table i) = k := by
  rw [bag, Multiset.mem_sum]
  constructor
  · rintro ⟨i, -, hi⟩
    rw [entry] at hi
    split at hi
    · rename_i hlive
      exact ⟨i, hlive, (Multiset.mem_singleton.mp hi).symm⟩
    · exact absurd hi (Multiset.notMem_zero k)
  · rintro ⟨i, hlive, rfl⟩
    refine ⟨i, Finset.mem_univ i, ?_⟩
    rw [entry_of_live hlive]
    exact Multiset.mem_singleton_self _

theorem bag_eq_zero_of_dead (h : ∀ i, live (table i) = false) : bag live key table = 0 :=
  Finset.sum_eq_zero fun i _ => entry_of_dead (h i)

theorem card_bag : Multiset.card (bag live key table) = Counting.count live table := by
  rw [bag, Multiset.card_sum, Counting.count]
  refine Finset.sum_congr rfl fun i _ => ?_
  cases hlive : live (table i) with
  | true => rw [entry_of_live hlive]; rfl
  | false => rw [entry_of_dead hlive]; rfl

theorem card_bag_le : Multiset.card (bag live key table) ≤ n := by
  rw [card_bag]
  exact (Counting.count_le_card live table).trans_eq (Fintype.card_fin n)

variable (live key) in
/-- What a write changes: the old entry goes, the new one comes. -/
theorem bag_update_add (table : Fin n → α) (i : Fin n) (a : α) :
    bag live key (Function.update table i a) + entry live key (table i)
      = bag live key table + entry live key a := by
  have hupdate : (fun j => entry live key (Function.update table i a j))
      = Function.update (fun j => entry live key (table j)) i (entry live key a) := by
    funext j
    by_cases heq : j = i
    · rw [heq, Function.update_self, Function.update_self]
    · rw [Function.update_of_ne heq, Function.update_of_ne heq]
  have hrest := Finset.sum_erase_add Finset.univ (fun j => entry live key (table j)) (Finset.mem_univ i)
  calc bag live key (Function.update table i a) + entry live key (table i)
      = entry live key a + ∑ j ∈ Finset.univ.erase i, entry live key (table j)
          + entry live key (table i) := by
        rw [bag, hupdate, Finset.sum_update_of_mem (Finset.mem_univ i), Finset.sdiff_singleton_eq_erase]
    _ = bag live key table + entry live key a := by
        rw [add_assoc, hrest, add_comm]
        rfl

/-- **The first free slot is looked for in vain exactly when the bag is full.** -/
theorem first_free_eq_none_iff :
    first (fun a => !live a) table = none ↔ n ≤ Multiset.card (bag live key table) := by
  rw [first_eq_none_iff, card_bag]
  constructor
  · intro hall
    have hpass : (Finset.univ.filter fun i => live (table i) = true) = Finset.univ :=
      Finset.filter_true_of_mem fun i _ => (Bool.not_eq_false' _).mp (hall i)
    rw [Counting.count_eq_card, hpass, Finset.card_univ, Fintype.card_fin]
  · intro hfull i
    by_contra hfree
    rw [Bool.not_eq_false, Bool.not_eq_true'] at hfree
    have hlt := Counting.count_lt_card hfree
    rw [Fintype.card_fin] at hlt
    omega

theorem bag_fill (h : first (fun a => !live a) table = some i) (ha : live a = true) :
    bag live key (Function.update table i a) = key a ::ₘ bag live key table := by
  have hfree : live (table i) = false := (Bool.not_eq_true' _).mp (passes_of_first h)
  have hadd := bag_update_add live key table i a
  rwa [entry_of_dead hfree, add_zero, entry_of_live ha, add_comm, Multiset.singleton_add] at hadd

section Key

variable [DecidableEq κ]

theorem first_key_eq_none_iff :
    first (fun a => live a && key a == k) table = none ↔ k ∉ bag live key table := by
  rw [first_eq_none_iff, mem_bag, not_exists]
  refine forall_congr' fun i => ?_
  rw [← Bool.not_eq_true, Bool.and_eq_true, beq_iff_eq]

theorem bag_empty_slot (h : first (fun a => live a && key a == k) table = some i) (ha : live a = false) :
    bag live key (Function.update table i a) = (bag live key table).erase k := by
  have hpasses : (live (table i) && key (table i) == k) = true :=
    passes_of_first (p := fun a => live a && key a == k) h
  obtain ⟨hlive, hkey⟩ := (Bool.and_eq_true _ _).mp hpasses
  have hadd := bag_update_add live key table i a
  rw [entry_of_live hlive, beq_iff_eq.mp hkey, entry_of_dead ha, add_zero, add_comm,
    Multiset.singleton_add] at hadd
  rw [← hadd, Multiset.erase_cons_head]

theorem isSome_first_key_iff :
    (first (fun a => live a && key a == k) table).isSome = true ↔ k ∈ bag live key table := by
  rw [← not_iff_not, ← first_key_eq_none_iff, Bool.not_eq_true, Option.isSome_eq_false_iff,
    Option.isNone_iff_eq_none]

theorem bag_put_none (h : first (fun a => !live a) table = none) (k : κ) :
    bag live key table = Op.apply n (bag live key table) (.put k) :=
  (if_neg (Nat.not_lt.mpr (first_free_eq_none_iff.mp h))).symm

theorem bag_put_some (h : first (fun a => !live a) table = some i) (ha : live a = true) :
    bag live key (Function.update table i a) = Op.apply n (bag live key table) (.put (key a)) := by
  have hroom : Multiset.card (bag live key table) < n := by
    rw [← Nat.not_le, ← first_free_eq_none_iff, h]
    exact Option.some_ne_none i
  rw [bag_fill h ha]
  exact (if_pos hroom).symm

theorem bag_take_none (h : first (fun a => live a && key a == k) table = none) :
    bag live key table = Op.apply n (bag live key table) (.take k) :=
  (Multiset.erase_of_notMem (first_key_eq_none_iff.mp h)).symm

theorem bag_take_some (h : first (fun a => live a && key a == k) table = some i) (ha : live a = false) :
    bag live key (Function.update table i a) = Op.apply n (bag live key table) (.take k) :=
  bag_empty_slot h ha

end Key

/-! ### A counter beside the table -/

/-- The table keeps the bag, and a counter of `w` bits counts its keys. -/
structure Tracked {w : Nat} (live : α → Bool) (key : α → κ) (table : Fin n → α) (counter : BitVec w)
    (held : Multiset κ) : Prop where
  bag : SlotBag.bag live key table = held
  counter : counter.toNat = Multiset.card held

theorem toNat_one {w : Nat} (h : 1 < 2 ^ w) : (1 : BitVec w).toNat = 1 :=
  (BitVec.toNat_ofNat 1 w).trans (Nat.mod_eq_of_lt h)

section Tracked

variable {w : Nat} {counter : BitVec w} {held : Multiset κ}

theorem tracked_of_dead (h : ∀ i, live (table i) = false) : Tracked live key table (0 : BitVec w) 0 :=
  ⟨bag_eq_zero_of_dead h, BitVec.toNat_zero⟩

theorem Tracked.card_le (h : Tracked live key table counter held) : Multiset.card held ≤ n := by
  rw [← h.bag]
  exact card_bag_le

theorem Tracked.first_free_eq_none_iff (h : Tracked live key table counter held) :
    first (fun a => !live a) table = none ↔ n ≤ Multiset.card held := by
  rw [← h.bag]
  exact SlotBag.first_free_eq_none_iff

theorem Tracked.card_lt (h : Tracked live key table counter held)
    (hsome : first (fun a => !live a) table = some i) : Multiset.card held < n := by
  by_contra hge
  rw [h.first_free_eq_none_iff.mpr (Nat.not_lt.mp hge)] at hsome
  cases hsome

variable [DecidableEq κ]

theorem Tracked.first_key_isSome_iff (h : Tracked live key table counter held) :
    (first (fun a => live a && key a == k) table).isSome = true ↔ k ∈ held := by
  rw [← h.bag]
  exact isSome_first_key_iff

theorem Tracked.put_none (h : Tracked live key table counter held)
    (hnone : first (fun a => !live a) table = none) (k : κ) : Op.apply n held (.put k) = held :=
  if_neg (Nat.not_lt.mpr (h.first_free_eq_none_iff.mp hnone))

theorem Tracked.apply_put (h : Tracked live key table counter held)
    (hsome : first (fun a => !live a) table = some i) (k : κ) : Op.apply n held (.put k) = k ::ₘ held :=
  if_pos (h.card_lt hsome)

theorem Tracked.put_some (h : Tracked live key table counter held) (hw : n < 2 ^ w)
    (hsome : first (fun a => !live a) table = some i) (ha : live a = true) :
    Tracked live key (Function.update table i a) (counter + 1) (Op.apply n held (.put (key a))) := by
  have hbag : SlotBag.bag live key (Function.update table i a) = key a ::ₘ held := by
    rw [bag_fill hsome ha, h.bag]
  have hle := @card_bag_le _ _ _ live key (Function.update table i a)
  rw [hbag, Multiset.card_cons] at hle
  rw [h.apply_put hsome]
  refine ⟨hbag, ?_⟩
  rw [Multiset.card_cons, BitVec.toNat_add, h.counter, toNat_one (by omega)]
  exact Nat.mod_eq_of_lt (by omega)

theorem Tracked.take_none (h : Tracked live key table counter held)
    (hnone : first (fun a => live a && key a == k) table = none) : Op.apply n held (.take k) = held := by
  have habsent := first_key_eq_none_iff.mp hnone
  rw [h.bag] at habsent
  exact Multiset.erase_of_notMem habsent

theorem Tracked.card_take (h : Tracked live key table counter held)
    (hsome : first (fun a => live a && key a == k) table = some i) :
    Multiset.card (Op.apply n held (.take k)) + 1 = Multiset.card held := by
  refine Multiset.card_erase_add_one ?_
  rw [← h.first_key_isSome_iff, hsome]
  rfl

theorem Tracked.take_some (h : Tracked live key table counter held) (hw : n < 2 ^ w)
    (hsome : first (fun a => live a && key a == k) table = some i) (ha : live a = false) :
    Tracked live key (Function.update table i a) (counter - 1) (Op.apply n held (.take k)) := by
  have hcard := h.card_take hsome
  have hle := h.card_le
  refine ⟨?_, ?_⟩
  · rw [bag_empty_slot hsome ha, h.bag]
    rfl
  · rw [BitVec.toNat_sub, h.counter, toNat_one (by omega)]
    have hsum : 2 ^ w - 1 + Multiset.card held = Multiset.card (Op.apply n held (.take k)) + 2 ^ w := by omega
    rw [hsum, Nat.add_mod_right]
    exact Nat.mod_eq_of_lt (by omega)

end Tracked

/-! ### Numbers that the table gives out -/

/-- The numbers that have been given out go up to `count`, and no two entries have the same. -/
structure Numbered {w : Nat} (live : α → Bool) (number : α → BitVec w) (table : Fin n → α) (next : BitVec w)
    (count : Nat) : Prop where
  next : next.toNat = count + 1
  le_count : ∀ i, live (table i) = true → (number (table i)).toNat ≤ count
  distinct : Distinct live number table

section Numbered

variable {w : Nat} {number : α → BitVec w} {next : BitVec w} {count : Nat}

theorem Numbered.of_dead (h : Numbered live number table next count) {table' : Fin n → α}
    (hdead : ∀ i, live (table' i) = false) : Numbered live number table' next count := by
  refine ⟨h.next, fun i hi => ?_, distinct_of_forall hdead⟩
  rw [hdead i] at hi
  cases hi

/-- An entry that is let go does not disturb the others. -/
theorem Numbered.drop (h : Numbered live number table next count) (ha : live a = false) :
    Numbered live number (Function.update table i a) next count := by
  refine ⟨h.next, ?_, h.distinct.update_free ha⟩
  refine @forall_live_update _ _ live table i (fun a => (number a).toNat ≤ count) a h.le_count fun hlive => ?_
  rw [ha] at hlive
  cases hlive

theorem Numbered.put (h : Numbered live number table next count) (hcount : count + 2 < 2 ^ w)
    (hsome : first (fun a => !live a) table = some i) (ha : live a = true) (hnumber : number a = next) :
    Numbered live number (Function.update table i a) (next + 1) (count + 1) := by
  have hfree : live (table i) = false := (Bool.not_eq_true' _).mp (passes_of_first hsome)
  have hid : (number a).toNat = count + 1 := hnumber ▸ h.next
  have hle (j : Fin n) (hj : live (table j) = true) : (number (table j)).toNat ≤ count + 1 :=
    (h.le_count j hj).trans (Nat.le_succ count)
  refine ⟨?_, @forall_live_update _ _ live table i (fun a => (number a).toNat ≤ count + 1) a hle fun _ => hid.le,
    ?_⟩
  · rw [BitVec.toNat_add, h.next, toNat_one (by omega)]
    exact Nat.mod_eq_of_lt hcount
  · rw [h.distinct.update_live_iff hfree ha]
    intro j hj hsame
    have hle := h.le_count j hj
    rw [hsame, hid] at hle
    omega

end Numbered

end SlotBag
