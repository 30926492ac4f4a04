import Mathlib.Data.List.Nodup
import Mathlib.Logic.Function.Basic

/-!
# Arrays with a count

An array of a fixed size of which the first so many cells are in use. What is put in goes behind them, and
where something is taken out the cells behind it move down. What is in use is a list, and as long as no two
of its entries have the same key it is a finite map to everyone who takes the first entry with a key.
-/

/-- The first `count` cells are in use. -/
structure CountedArray (α : Type) (n : Nat) where
  cells : Vector α n
  count : Nat
  count_le : count ≤ n
  deriving DecidableEq

namespace CountedArray

variable {α κ : Type} {n : Nat}

def empty (n : Nat) (a : α) : CountedArray α n := ⟨Vector.replicate n a, 0, Nat.zero_le n⟩

def toList (array : CountedArray α n) : List α := array.cells.toList.take array.count

/-- Put in behind what is in use, if there is a cell. -/
def push (array : CountedArray α n) (a : α) : Option (CountedArray α n) :=
  if h : array.count < n then some ⟨array.cells.set array.count a, array.count + 1, h⟩ else none

/-- The first cell in use that passes. -/
def indexOf (p : α → Bool) (array : CountedArray α n) : Option Nat := array.toList.findIdx? p

/-- So many cells from `i` on take over what is in the next one, one after the other. -/
def shiftDown : Vector α n → Nat → Nat → Vector α n
  | cells, _, 0 => cells
  | cells, i, steps + 1 =>
      shiftDown (if h : i + 1 < n then cells.set i cells[i + 1] else cells) (i + 1) steps

def removeAt (array : CountedArray α n) (i : Nat) : CountedArray α n :=
  ⟨shiftDown array.cells i (array.count - 1 - i), array.count - 1,
    Nat.le_trans (Nat.sub_le _ _) array.count_le⟩

def setAt (array : CountedArray α n) (i : Nat) (a : α) : CountedArray α n :=
  { array with cells := array.cells.setIfInBounds i a }

/-! ### What is in use -/

@[simp]
theorem length_toList (array : CountedArray α n) : array.toList.length = array.count := by
  rw [toList, List.length_take, Vector.length_toList]
  exact Nat.min_eq_left array.count_le

theorem lt_of_lt_length {array : CountedArray α n} {i : Nat} (h : i < array.toList.length) : i < n :=
  Nat.lt_of_lt_of_le (array.length_toList ▸ h) array.count_le

theorem getElem_toList (array : CountedArray α n) {i : Nat} (h : i < array.toList.length) (hn : i < n) :
    array.toList[i] = array.cells[i] := by
  simp [toList]

theorem push_eq_none_iff {array : CountedArray α n} {a : α} :
    array.push a = none ↔ array.count = n := by
  have hle := array.count_le
  unfold push
  split
  · exact iff_of_false (Option.some_ne_none _) (by omega)
  · exact iff_of_true rfl (by omega)

theorem toList_push {array array' : CountedArray α n} {a : α} (h : array.push a = some array') :
    array'.toList = array.toList ++ [a] := by
  unfold push at h
  split at h
  · rename_i hroom
    rw [← Option.some.inj h]
    apply List.ext_getElem
    · simp
    · intro i hi hi'
      have hn := lt_of_lt_length hi
      rw [length_toList] at hi
      rw [getElem_toList _ _ hn]
      by_cases heq : i = array.count
      · subst heq
        simp
      · have hlt : i < array.count := by
          dsimp only at hi
          omega
        rw [List.getElem_append_left (by simpa using hlt), getElem_toList]
        exact Vector.getElem_set_ne hroom _ (Ne.symm heq)
  · cases h

theorem getElem_shiftDown (cells : Vector α n) (i steps : Nat) {k : Nat} (hk : k < n)
    (hsteps : i + steps < n) : (shiftDown cells i steps)[k]
      = if h : i ≤ k ∧ k < i + steps then cells[k + 1] else cells[k] := by
  induction steps generalizing cells i with
  | zero => rw [dif_neg (by omega), shiftDown]
  | succ steps ih =>
      have hnext : i + 1 < n := by omega
      rw [shiftDown, dif_pos hnext, ih _ _ (by omega)]
      rcases Nat.lt_trichotomy k i with hlt | rfl | hgt
      · rw [dif_neg (by omega), dif_neg (by omega)]
        exact Vector.getElem_set_ne _ _ (by omega)
      · rw [dif_neg (by omega), dif_pos (by omega)]
        exact Vector.getElem_set_self _
      · by_cases hlast : k < i + 1 + steps
        · rw [dif_pos ⟨hgt, hlast⟩, dif_pos (by omega)]
          exact Vector.getElem_set_ne _ _ (by omega)
        · rw [dif_neg (by omega), dif_neg (by omega)]
          exact Vector.getElem_set_ne _ _ (by omega)

/-- **Moving the cells down takes one entry out of the list.** -/
theorem toList_removeAt (array : CountedArray α n) {i : Nat} (h : i < array.count) :
    (array.removeAt i).toList = array.toList.eraseIdx i := by
  have hle := array.count_le
  apply List.ext_getElem
  · rw [List.length_eraseIdx_of_lt (by simpa using h), length_toList, length_toList]
    rfl
  · intro k hk hk'
    rw [length_toList] at hk
    have hkcount : k < array.count - 1 := hk
    rw [getElem_toList, List.getElem_eraseIdx]
    have hmoved := getElem_shiftDown array.cells i (array.count - 1 - i) (k := k) (by omega) (by omega)
    refine hmoved.trans ?_
    by_cases hki : k < i
    · rw [dif_neg (by omega), dif_pos hki, getElem_toList]
    · rw [dif_pos (by omega), dif_neg hki, getElem_toList]

theorem toList_setAt (array : CountedArray α n) (i : Nat) (a : α) :
    (array.setAt i a).toList = array.toList.set i a := by
  apply List.ext_getElem
  · rw [List.length_set, length_toList, length_toList]
    rfl
  · intro k hk hk'
    rw [getElem_toList _ _ (lt_of_lt_length hk), List.getElem_set]
    by_cases hik : i = k
    · subst hik
      rw [if_pos rfl]
      exact Vector.getElem_setIfInBounds_self _
    · rw [if_neg hik, getElem_toList]
      exact Vector.getElem_setIfInBounds_ne _ hik

theorem indexOf_eq_none_iff {p : α → Bool} {array : CountedArray α n} :
    array.indexOf p = none ↔ ∀ a ∈ array.toList, p a = false := by
  rw [indexOf, List.findIdx?_eq_none_iff]

theorem toList_removeAt_indexOf {p : α → Bool} {array : CountedArray α n} {i : Nat}
    (h : array.indexOf p = some i) : (array.removeAt i).toList = array.toList.eraseP p := by
  obtain ⟨hi, -, -⟩ := List.findIdx?_eq_some_iff_getElem.mp h
  have hindex : array.toList.findIdx? p = some i := h
  rw [toList_removeAt array (by simpa using hi), List.eraseP_eq_eraseIdx, hindex]

/-! ### Reading by a key -/

section Key

variable (key : α → κ) [DecidableEq κ]

def hasKey (k : κ) (a : α) : Bool := key a = k

/-- The first entry with a key. -/
def get (l : List α) (k : κ) : Option α := l.find? (hasKey key k)

/-- No two entries have the same key. -/
def Distinct (l : List α) : Prop := (l.map key).Nodup

variable {key} {l : List α} {a b : α} {k : κ}

theorem get_eq_none_iff : get key l k = none ↔ k ∉ l.map key := by
  simp [get, hasKey]

theorem get_cons_self : get key (a :: l) (key a) = some a := by
  simp [get, hasKey]

theorem get_cons_of_ne (h : key a ≠ k) : get key (a :: l) k = get key l k := by
  simp [get, hasKey, h]

omit [DecidableEq κ] in
theorem distinct_cons : Distinct key (a :: l) ↔ key a ∉ l.map key ∧ Distinct key l := by
  rw [Distinct, List.map_cons, List.nodup_cons]
  rfl

theorem Distinct.get_eq (h : Distinct key l) (ha : a ∈ l) : get key l (key a) = some a := by
  induction l with
  | nil => cases ha
  | cons b l ih =>
      obtain ⟨hb, hl⟩ := distinct_cons.mp h
      rcases List.mem_cons.mp ha with rfl | ha
      · exact get_cons_self
      · have hne : key b ≠ key a := fun heq => hb (heq ▸ List.mem_map_of_mem ha)
        rw [get_cons_of_ne hne, ih hl ha]

omit [DecidableEq κ] in
theorem distinct_append_iff : Distinct key (l ++ [a]) ↔ Distinct key l ∧ key a ∉ l.map key := by
  rw [Distinct, List.map_append, List.map_singleton, List.nodup_append']
  simp [Distinct, List.disjoint_singleton]

/-- **Putting in behind everything is an update**, if the key is new. -/
theorem get_append (h : key a ∉ l.map key) :
    get key (l ++ [a]) = Function.update (get key l) (key a) (some a) := by
  funext k
  by_cases hk : k = key a
  · subst hk
    have hnone : l.find? (hasKey key (key a)) = none := get_eq_none_iff.mpr h
    rw [Function.update_self, get, List.find?_append, hnone]
    simp [hasKey]
  · rw [Function.update_of_ne hk, get, List.find?_append]
    simp [get, hasKey, Ne.symm hk]

omit [DecidableEq κ] in
theorem Distinct.eraseP (h : Distinct key l) (p : α → Bool) : Distinct key (l.eraseP p) :=
  List.Nodup.sublist (List.eraseP_sublist.map key) h

/-- **Taking out the first entry with a key is an update**, if the keys are distinct. -/
theorem Distinct.get_eraseP (h : Distinct key l) (k : κ) :
    get key (l.eraseP (hasKey key k)) = Function.update (get key l) k none := by
  induction l with
  | nil =>
      funext k'
      by_cases hk : k' = k
      · subst hk
        rw [Function.update_self]
        rfl
      · rw [Function.update_of_ne hk]
        rfl
  | cons a l ih =>
      obtain ⟨ha, hl⟩ := distinct_cons.mp h
      funext k'
      by_cases hkey : key a = k
      · rw [List.eraseP_cons_of_pos (by simpa [hasKey] using hkey)]
        by_cases hk : k' = k
        · rw [hk, Function.update_self, get_eq_none_iff, ← hkey]
          exact ha
        · rw [Function.update_of_ne hk, get_cons_of_ne fun heq => hk (heq.symm.trans hkey)]
      · rw [List.eraseP_cons_of_neg (by simpa [hasKey] using hkey)]
        by_cases hk : k' = k
        · subst hk
          rw [Function.update_self, get_cons_of_ne hkey, ih hl, Function.update_self]
        · rw [Function.update_of_ne hk]
          by_cases hself : key a = k'
          · rw [← hself, get_cons_self, get_cons_self]
          · rw [get_cons_of_ne hself, get_cons_of_ne hself, ih hl, Function.update_of_ne hk]

theorem map_set_of_findIdx? {i : Nat} (hi : l.findIdx? (hasKey key (key a)) = some i) :
    (l.set i a).map key = l.map key := by
  obtain ⟨hlt, hkey, -⟩ := List.findIdx?_eq_some_iff_getElem.mp hi
  have hlt' : i < (l.map key).length := by simpa using hlt
  have hsame : key a = (l.map key)[i] := by
    rw [List.getElem_map]
    exact (of_decide_eq_true hkey).symm
  rw [List.map_set, hsame, List.set_getElem_self]

/-- **Writing over the first entry with a key is an update.** -/
theorem get_set_of_findIdx? {i : Nat} (hi : l.findIdx? (hasKey key (key a)) = some i) :
    get key (l.set i a) = Function.update (get key l) (key a) (some a) := by
  induction l generalizing i with
  | nil => cases hi
  | cons b l ih =>
      rw [List.findIdx?_cons] at hi
      funext k
      by_cases hb : key b = key a
      · have hzero : i = 0 := by
          simpa [hasKey, hb] using hi.symm
        rw [hzero, List.set_cons_zero]
        by_cases hk : k = key a
        · rw [hk, Function.update_self, get_cons_self]
        · rw [Function.update_of_ne hk, get_cons_of_ne (Ne.symm hk),
            get_cons_of_ne fun heq => hk (heq.symm.trans hb)]
      · obtain ⟨j, hj, rfl⟩ : ∃ j, l.findIdx? (hasKey key (key a)) = some j ∧ j + 1 = i := by
          simpa [hasKey, hb] using hi
        rw [List.set_cons_succ]
        by_cases hself : key b = k
        · have hk : k ≠ key a := fun heq => hb (hself.trans heq)
          rw [Function.update_of_ne hk, ← hself, get_cons_self, get_cons_self]
        · rw [get_cons_of_ne hself, ih hj]
          by_cases hk : k = key a
          · rw [hk, Function.update_self, Function.update_self]
          · rw [Function.update_of_ne hk, Function.update_of_ne hk, get_cons_of_ne hself]

/-- Take out the first entry with a key, if there is one. -/
def removeKey (key : α → κ) (array : CountedArray α n) (k : κ) : Option (CountedArray α n) :=
  (array.indexOf (hasKey key k)).map array.removeAt

/-- Write over the first entry with the key of `a`, if there is one. -/
def replaceKey (key : α → κ) (array : CountedArray α n) (a : α) : Option (CountedArray α n) :=
  (array.indexOf (hasKey key (key a))).map fun i => array.setAt i a

variable {array array' : CountedArray α n}

theorem indexOf_hasKey_eq_none_iff :
    array.indexOf (hasKey key k) = none ↔ k ∉ array.toList.map key := by
  rw [indexOf_eq_none_iff]
  simp [hasKey]

theorem removeKey_eq_none_iff : removeKey key array k = none ↔ k ∉ array.toList.map key := by
  rw [removeKey, Option.map_eq_none_iff, indexOf_hasKey_eq_none_iff]

theorem replaceKey_eq_none_iff : replaceKey key array a = none ↔ key a ∉ array.toList.map key := by
  rw [replaceKey, Option.map_eq_none_iff, indexOf_hasKey_eq_none_iff]

theorem toList_removeKey (h : removeKey key array k = some array') :
    array'.toList = array.toList.eraseP (hasKey key k) := by
  obtain ⟨i, hi, rfl⟩ := Option.map_eq_some_iff.mp h
  exact toList_removeAt_indexOf hi

omit [DecidableEq κ] in
theorem distinct_push_iff (h : array.push a = some array') (hdistinct : Distinct key array.toList) :
    Distinct key array'.toList ↔ key a ∉ array.toList.map key := by
  rw [toList_push h, distinct_append_iff]
  exact and_iff_right hdistinct

theorem get_push (h : array.push a = some array') (hnew : key a ∉ array.toList.map key) :
    get key array'.toList = Function.update (get key array.toList) (key a) (some a) := by
  rw [toList_push h, get_append hnew]

theorem distinct_removeKey (h : removeKey key array k = some array')
    (hdistinct : Distinct key array.toList) : Distinct key array'.toList := by
  rw [toList_removeKey h]
  exact hdistinct.eraseP _

theorem get_removeKey (h : removeKey key array k = some array') (hdistinct : Distinct key array.toList) :
    get key array'.toList = Function.update (get key array.toList) k none := by
  rw [toList_removeKey h, hdistinct.get_eraseP]

/-- Writing over an entry leaves the keys, and changes what is read under one of them. -/
theorem replaceKey_spec (h : replaceKey key array a = some array') :
    array'.toList.map key = array.toList.map key
      ∧ get key array'.toList = Function.update (get key array.toList) (key a) (some a) := by
  obtain ⟨i, hi, rfl⟩ := Option.map_eq_some_iff.mp h
  rw [toList_setAt]
  exact ⟨map_set_of_findIdx? hi, get_set_of_findIdx? hi⟩

end Key

end CountedArray
