import Mathlib.Data.List.Basic
import Mathlib.Data.Nat.ModEq

/-!
# Streams through a ring of cells

What is at position `i` of a stream is in cell `i` modulo the size of the ring. The ring holds the part of
the stream between two positions that are not further apart than it has cells. Copying the next items into
the cells behind that part leaves it, and reading the cells gives the stream in its order.
-/

namespace Ring

variable {α : Type} {size lo hi : Nat} {cells : Nat → α} {stream items : List α}

/-- The cells with these items copied to `start`. -/
def store (cells : Nat → α) (start : Nat) (items : List α) : Nat → α := fun i =>
  if start ≤ i then (items[i - start]?).getD (cells i) else cells i

def load (cells : Nat → α) (start len : Nat) : List α := (List.range len).map fun k => cells (start + k)

/-- The cells hold the stream between two positions. -/
def Holds (size : Nat) (cells : Nat → α) (stream : List α) (lo hi : Nat) : Prop :=
  ∀ i, lo ≤ i → i < hi → stream[i]? = some (cells (i % size))

theorem holds_self (size : Nat) (cells : Nat → α) (stream : List α) (i : Nat) :
    Holds size cells stream i i :=
  fun _ hlo hhi => absurd hhi (Nat.not_lt.mpr hlo)

theorem Holds.mono (h : Holds size cells stream lo hi) {lo' hi' : Nat} (hlo : lo ≤ lo') (hhi : hi' ≤ hi) :
    Holds size cells stream lo' hi' :=
  fun i hi₁ hi₂ => h i (Nat.le_trans hlo hi₁) (Nat.lt_of_lt_of_le hi₂ hhi)

theorem Holds.append (h : Holds size cells stream lo hi) (more : List α) :
    Holds size cells (stream ++ more) lo hi := by
  intro i hlo hhi
  have hsome := h i hlo hhi
  have hlt : i < stream.length := by
    by_contra hge
    rw [List.getElem?_eq_none (Nat.not_lt.mp hge)] at hsome
    cases hsome
  rw [List.getElem?_append_left hlt, hsome]

/-! ### Positions and cells -/

/-- Positions less than a round apart are in different cells. -/
theorem mod_ne {i j : Nat} (hlt : i < j) (hnear : j < i + size) : i % size ≠ j % size := by
  intro h
  have hdvd : size ∣ j - i := (Nat.modEq_iff_dvd' (Nat.le_of_lt hlt)).mp h
  have hle := Nat.le_of_dvd (Nat.sub_pos_of_lt hlt) hdvd
  omega

theorem mod_add_eq {i k : Nat} (h : i % size + k < size) : (i + k) % size = i % size + k := by
  rw [← Nat.mod_add_mod, Nat.mod_eq_of_lt h]

/-- The next position is in the first cell when the last one was reached. -/
theorem mod_add_eq_zero {i k : Nat} (h : i % size + k = size) : (i + k) % size = 0 := by
  rw [← Nat.mod_add_mod, h, Nat.mod_self]

theorem mod_add_cases {i k : Nat} (hk : k < size) :
    (i % size + k < size ∧ (i + k) % size = i % size + k)
      ∨ (size ≤ i % size + k ∧ (i + k) % size = i % size + k - size) := by
  have hlt : i % size < size := Nat.mod_lt _ (Nat.zero_lt_of_lt hk)
  rcases Nat.lt_or_ge (i % size + k) size with hin | hout
  · exact .inl ⟨hin, mod_add_eq hin⟩
  · refine .inr ⟨hout, ?_⟩
    rw [← Nat.mod_add_mod, Nat.mod_eq_sub_mod hout, Nat.mod_eq_of_lt (by omega)]

/-- How far two positions are apart, from their cells. -/
theorem distance_eq {i k : Nat} (hk : k < size) :
    (if (i + k) % size ≥ i % size then (i + k) % size - i % size else size - i % size + (i + k) % size)
      = k := by
  have hlt : i % size < size := Nat.mod_lt _ (Nat.zero_lt_of_lt hk)
  rcases mod_add_cases (i := i) hk with ⟨hin, heq⟩ | ⟨hout, heq⟩
  · rw [if_pos (by omega)]
    omega
  · rw [if_neg (by omega)]
    omega

/-- How much there is left of the ring, from the cells. -/
theorem room_eq {i k : Nat} (hk : k < size) :
    (if (i + k) % size ≥ i % size then size - ((i + k) % size - i % size) - 1
      else i % size - (i + k) % size - 1) = size - 1 - k := by
  have hlt : i % size < size := Nat.mod_lt _ (Nat.zero_lt_of_lt hk)
  rcases mod_add_cases (i := i) hk with ⟨hin, heq⟩ | ⟨hout, heq⟩
  · rw [if_pos (by omega)]
    omega
  · rw [if_neg (by omega)]
    omega

/-! ### Copying -/

theorem store_of_mem {start k : Nat} (hk : k < items.length) :
    some (store cells start items (start + k)) = items[k]? := by
  rw [store, if_pos (Nat.le_add_right start k), Nat.add_sub_cancel_left, List.getElem?_eq_getElem hk]
  rfl

theorem store_of_not_mem {start i : Nat} (h : i < start ∨ start + items.length ≤ i) :
    store cells start items i = cells i := by
  rw [store]
  split
  · rw [List.getElem?_eq_none (by omega)]
    rfl
  · rfl

theorem store_nil (cells : Nat → α) (start : Nat) : store cells start [] = cells :=
  funext fun i => store_of_not_mem (Nat.lt_or_ge i start)

/-- The cells behind what is held are not those of what is held. -/
theorem cell_not_mem {i len : Nat} (hlo : lo ≤ i) (hhi : i < hi) (hroom : hi + len ≤ lo + size)
    (hcontiguous : hi % size + len ≤ size) : ¬(hi % size ≤ i % size ∧ i % size < hi % size + len) := by
  rintro ⟨hle, hlt⟩
  have hcell : (hi + (i % size - hi % size)) % size = i % size := by
    rw [mod_add_eq (by omega)]
    omega
  have hne : i % size ≠ (hi + (i % size - hi % size)) % size := mod_ne (by omega) (by omega)
  exact hne hcell.symm

/-- **Copying the next items of the stream behind what is held makes the cells hold them too.** -/
theorem Holds.store (h : Holds size cells stream lo hi) (hroom : hi + items.length ≤ lo + size)
    (hcontiguous : hi % size + items.length ≤ size)
    (hitems : ∀ k < items.length, stream[hi + k]? = items[k]?) :
    Holds size (store cells (hi % size) items) stream lo (hi + items.length) := by
  intro i hlo hhi
  rcases Nat.lt_or_ge i hi with hbefore | hbehind
  · have hnot := cell_not_mem hlo hbefore hroom hcontiguous
    rw [store_of_not_mem (by omega)]
    exact h i hlo hbefore
  · obtain ⟨k, rfl⟩ := Nat.exists_eq_add_of_le hbehind
    have hk : k < items.length := by omega
    rw [mod_add_eq (by omega), store_of_mem hk, hitems k hk]

/-- **One item more**, in the cell behind the others. -/
theorem Holds.push (h : Holds size cells stream lo hi) (hroom : hi < lo + size) {item : α}
    (hitem : stream[hi]? = some item) :
    Holds size (Function.update cells (hi % size) item) stream lo (hi + 1) := by
  intro i hlo hhi
  rcases Nat.lt_or_eq_of_le (Nat.le_of_lt_succ hhi) with hbefore | rfl
  · have hcell : i % size ≠ hi % size := mod_ne hbefore (by omega)
    rw [Function.update_of_ne hcell]
    exact h i hlo hbefore
  · rw [Function.update_self]
    exact hitem

@[simp]
theorem length_load (cells : Nat → α) (start len : Nat) : (load cells start len).length = len := by
  simp [load]

/-- **Reading the cells gives what they hold.** -/
theorem Holds.load (h : Holds size cells stream lo hi) {len : Nat} (hlen : lo + len ≤ hi)
    (hcontiguous : lo % size + len ≤ size) :
    load cells (lo % size) len = (stream.drop lo).take len := by
  apply List.ext_getElem?
  intro k
  rw [List.getElem?_take]
  split
  · rename_i hk
    rw [List.getElem?_drop, h (lo + k) (Nat.le_add_right lo k) (by omega), mod_add_eq (by omega), Ring.load,
      List.getElem?_map, List.getElem?_range hk]
    rfl
  · rename_i hk
    exact List.getElem?_eq_none (by rw [length_load]; omega)

end Ring
