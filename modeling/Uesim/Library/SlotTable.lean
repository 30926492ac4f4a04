import Mathlib.Data.List.Nodup

/-!
# Tables that find entries by a slot

Every key has a slot, and an entry goes in front of what the slot of its key holds. Reading by key
looks at the slot only and returns the entry in front. Such a table is a finite map from keys to
entries as long as no key that it holds shares its slot with another key.
-/

namespace SlotTable

variable {α κ ι : Type} (key : α → κ) (index : κ → ι)

/-- What the slots hold after entries have been put in, each in front of its slot. -/
def Holds [DecidableEq ι] (slot : ι → List α) (entries : List α) : Prop :=
  ∀ i, slot i = (entries.filter fun a => index (key a) = i).reverse

def get (slot : ι → List α) (k : κ) : Option α := (slot (index k)).head?

/-- Reading by the keys of a space is the finite map of these entries: an entry whose key is inside is
found, a key that no entry has is not, and what is found has the key it was asked for. -/
structure IsMap (read : κ → Option α) (space inside : κ → Prop) (entries : List α) : Prop where
  found : ∀ a ∈ entries, inside (key a) → read (key a) = some a
  absent : ∀ k, space k → (∀ a ∈ entries, key a ≠ k) → read k = none
  key_found : ∀ k, space k → ∀ a, read k = some a → key a = k

section Holds

variable {key index} [DecidableEq ι] {slot : ι → List α} {entries : List α}

theorem holds_nil (h : ∀ i, slot i = []) : Holds key index slot [] := by
  intro i
  rw [h i]
  rfl

theorem Holds.push (h : Holds key index slot entries) {slot' : ι → List α} (a : α)
    (hself : slot' (index (key a)) = a :: slot (index (key a)))
    (hother : ∀ i, i ≠ index (key a) → slot' i = slot i) :
    Holds key index slot' (entries ++ [a]) := by
  intro i
  rw [List.filter_append, List.reverse_append]
  by_cases hi : index (key a) = i
  · subst hi
    rw [hself, h]
    simp
  · rw [hother i (Ne.symm hi), h]
    simp [hi]

theorem Holds.mem_of_get (h : Holds key index slot entries) {k : κ} {a : α}
    (hget : get index slot k = some a) : a ∈ entries ∧ index (key a) = index k := by
  have hmem : a ∈ slot (index k) := List.mem_of_mem_head? hget
  rw [h, List.mem_reverse, List.mem_filter] at hmem
  exact ⟨hmem.1, of_decide_eq_true hmem.2⟩

theorem Holds.exists_get (h : Holds key index slot entries) {a : α} (ha : a ∈ entries) {k : κ}
    (hk : index k = index (key a)) : ∃ b, get index slot k = some b := by
  have hmem : a ∈ slot (index k) := by
    rw [h, List.mem_reverse, List.mem_filter]
    exact ⟨ha, by simp [hk]⟩
  obtain ⟨b, rest, hslot⟩ := List.exists_cons_of_ne_nil (List.ne_nil_of_mem hmem)
  exact ⟨b, by rw [get, hslot]; rfl⟩

/-- **Such a table is a finite map exactly when the keys it holds have their slots to themselves.** -/
theorem Holds.isMap_iff (h : Holds key index slot entries) (hnodup : (entries.map key).Nodup)
    {space : κ → Prop} (hspace : ∀ a ∈ entries, space (key a)) (inside : κ → Prop) :
    IsMap key (get index slot) space inside entries
      ↔ ∀ a ∈ entries, ∀ k, space k → index k = index (key a) → k = key a := by
  constructor
  · intro hmap a ha k hkspace hk
    obtain ⟨b, hb⟩ := h.exists_get ha hk
    have hb' : get index slot (key a) = some b := by
      rw [← hb]
      unfold get
      rw [hk]
    calc k = key b := (hmap.key_found k hkspace b hb).symm
      _ = key a := hmap.key_found (key a) (hspace a ha) b hb'
  · intro halone
    have hkey : ∀ k, space k → ∀ a, get index slot k = some a → key a = k := by
      intro k hkspace a hget
      obtain ⟨ha, hindex⟩ := h.mem_of_get hget
      exact (halone a ha k hkspace hindex.symm).symm
    refine ⟨?_, ?_, hkey⟩
    · intro a ha _
      obtain ⟨b, hb⟩ := h.exists_get ha (k := key a) rfl
      have hbmem := (h.mem_of_get hb).1
      rw [hb, List.inj_on_of_nodup_map hnodup hbmem ha (hkey _ (hspace a ha) b hb)]
    · intro k hkspace hk
      cases hget : get index slot k with
      | none => rfl
      | some a => exact absurd (hkey k hkspace a hget) (hk a (h.mem_of_get hget).1)

end Holds

end SlotTable
