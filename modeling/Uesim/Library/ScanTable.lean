import Mathlib.Data.Finset.Card
import Mathlib.Logic.Function.Basic
import Mathlib.Data.List.Nodup

/-!
# Tables that are scanned

A table of a fixed number of entries, some of them in use. What is put in goes to the first entry that is
not in use, and what is asked for by a key is the first entry in use with that key. As long as no two entries
in use have the same key, this is a finite map, and there is room for every new key if there are as many
entries as keys.
-/

namespace ScanTable

variable {α κ : Type}

/-- The first entry that passes, replaced by what `f` makes of it. -/
def replaceFirst (p : α → Bool) (f : α → α) : List α → Option (List α)
  | [] => none
  | a :: as => if p a then some (f a :: as) else (replaceFirst p f as).map (a :: ·)

section ReplaceFirst

variable {p : α → Bool} {f : α → α} {l l' : List α}

theorem replaceFirst_eq_none_iff : replaceFirst p f l = none ↔ ∀ a ∈ l, p a = false := by
  induction l with
  | nil => exact iff_of_true rfl fun a ha => absurd ha List.not_mem_nil
  | cons a l ih =>
      rw [replaceFirst, List.forall_mem_cons]
      cases p a with
      | true => exact iff_of_false (fun h => Option.some_ne_none _ h) fun h => Bool.noConfusion h.1
      | false =>
          rw [if_neg Bool.false_ne_true, Option.map_eq_none_iff, ih]
          exact (and_iff_right rfl).symm

/-- One entry that passes is found and replaced, and the others stay. -/
theorem exists_perm_of_replaceFirst (h : replaceFirst p f l = some l') :
    ∃ a rest, l.find? p = some a ∧ l.Perm (a :: rest) ∧ l'.Perm (f a :: rest) := by
  induction l generalizing l' with
  | nil => cases h
  | cons first l ih =>
      rw [replaceFirst] at h
      cases hp : p first with
      | true =>
          rw [hp, if_pos rfl] at h
          cases h
          exact ⟨first, l, List.find?_cons_of_pos hp, .refl _, .refl _⟩
      | false =>
          have hskip : ¬p first = true := fun htrue => Bool.false_ne_true (hp.symm.trans htrue)
          rw [if_neg hskip] at h
          obtain ⟨m, hm, rfl⟩ := Option.map_eq_some_iff.mp h
          obtain ⟨a, rest, hfind, hbefore, hafter⟩ := ih hm
          refine ⟨a, first :: rest, (List.find?_cons_of_neg hskip).trans hfind, ?_, ?_⟩
          · exact (hbefore.cons first).trans (.swap a first rest)
          · exact (hafter.cons first).trans (.swap (f a) first rest)

theorem length_replaceFirst (h : replaceFirst p f l = some l') : l'.length = l.length := by
  obtain ⟨a, rest, -, hbefore, hafter⟩ := exists_perm_of_replaceFirst h
  rw [hbefore.length_eq, hafter.length_eq]
  rfl

end ReplaceFirst

/-! ### Entries in use -/

section Held

variable (used : α → Bool) (key : α → κ)

def held (l : List α) : List α := l.filter used

/-- No two entries in use have the same key. -/
def Distinct (l : List α) : Prop := ((held used l).map key).Nodup

def get [DecidableEq κ] (l : List α) (k : κ) : Option α := l.find? fun a => used a && key a = k

variable {used key} {l l' : List α} {f : α → α}

theorem held_perm (h : l.Perm l') : (held used l).Perm (held used l') := h.filter used

theorem held_cons_of_used {a : α} (h : used a = true) : held used (a :: l) = a :: held used l :=
  List.filter_cons_of_pos h

theorem held_cons_of_unused {a : α} (h : used a = false) : held used (a :: l) = held used l :=
  List.filter_cons_of_neg fun htrue => Bool.false_ne_true (h.symm.trans htrue)

theorem Distinct.of_perm_cons {a : α} (h : (held used l).Perm (a :: held used l'))
    (hdistinct : Distinct used key l) : Distinct used key l' := by
  have hnodup := (h.map key).nodup_iff.mp hdistinct
  exact (List.nodup_cons.mp hnodup).2

theorem distinct_of_perm_cons_iff {a : α} (h : (held used l').Perm (a :: held used l))
    (hdistinct : Distinct used key l) :
    Distinct used key l' ↔ key a ∉ (held used l).map key := by
  rw [Distinct, (h.map key).nodup_iff, List.map_cons, List.nodup_cons]
  exact and_iff_left hdistinct

/-- What is put in is in use from then on, besides what was. -/
theorem held_put {a : α} (ha : used a = true)
    (h : replaceFirst (fun b => !used b) (fun _ => a) l = some l') :
    (held used l').Perm (a :: held used l) := by
  obtain ⟨b, rest, hfind, hbefore, hafter⟩ := exists_perm_of_replaceFirst h
  have hunused : used b = false := by
    simpa using List.find?_some hfind
  have hrest : (held used l).Perm (held used rest) := by
    have hperm : (held used l).Perm (held used (b :: rest)) := held_perm hbefore
    rwa [held_cons_of_unused hunused] at hperm
  have hput : (held used l').Perm (held used (a :: rest)) := held_perm hafter
  rw [held_cons_of_used ha] at hput
  exact hput.trans (hrest.symm.cons a)

section Get

variable [DecidableEq κ] {k : κ} {a : α}

theorem mem_of_get (h : get used key l k = some a) : a ∈ held used l ∧ key a = k := by
  have hpass : used a = true ∧ key a = k := by
    simpa using List.find?_some h
  exact ⟨List.mem_filter.mpr ⟨List.mem_of_find?_eq_some h, hpass.1⟩, hpass.2⟩

theorem get_eq_none_iff : get used key l k = none ↔ k ∉ (held used l).map key := by
  rw [get, List.find?_eq_none]
  constructor
  · intro h hmem
    obtain ⟨b, hb, hkey⟩ := List.mem_map.mp hmem
    obtain ⟨hb, hused⟩ := List.mem_filter.mp hb
    exact h b hb (by simp [hused, hkey])
  · intro h b hb hpass
    have hpass : used b = true ∧ key b = k := by
      simpa using hpass
    exact h (List.mem_map.mpr ⟨b, List.mem_filter.mpr ⟨hb, hpass.1⟩, hpass.2⟩)

theorem Distinct.get_eq_some_iff (hdistinct : Distinct used key l) :
    get used key l k = some a ↔ a ∈ held used l ∧ key a = k := by
  refine ⟨mem_of_get, ?_⟩
  rintro ⟨ha, rfl⟩
  cases hget : get used key l (key a) with
  | none => exact absurd (List.mem_map.mpr ⟨a, ha, rfl⟩) (get_eq_none_iff.mp hget)
  | some b =>
      obtain ⟨hb, hkey⟩ := mem_of_get hget
      rw [List.inj_on_of_nodup_map hdistinct hb ha hkey]

theorem Distinct.get_of_perm_cons (hdistinct : Distinct used key l')
    (h : (held used l').Perm (a :: held used l)) :
    get used key l' = Function.update (get used key l) (key a) (some a) := by
  have hdistinct' : Distinct used key l := hdistinct.of_perm_cons h
  have hnew : key a ∉ (held used l).map key := (distinct_of_perm_cons_iff h hdistinct').mp hdistinct
  funext k
  by_cases hk : k = key a
  · subst hk
    rw [Function.update_self, hdistinct.get_eq_some_iff]
    exact ⟨h.mem_iff.mpr List.mem_cons_self, rfl⟩
  · rw [Function.update_of_ne hk]
    apply Option.ext
    intro b
    rw [hdistinct.get_eq_some_iff, hdistinct'.get_eq_some_iff, h.mem_iff, List.mem_cons]
    constructor
    · rintro ⟨rfl | hb, hkey⟩
      · exact absurd hkey.symm hk
      · exact ⟨hb, hkey⟩
    · exact fun hb => ⟨.inr hb.1, hb.2⟩

theorem Distinct.change {b : α} {rest : List α} (hdistinct : Distinct used key l)
    (hbefore : (held used l).Perm (a :: held used rest))
    (hafter : (held used l').Perm (b :: held used rest)) (hkey : key b = key a) :
    Distinct used key l'
      ∧ get used key l' = Function.update (get used key l) (key a) (some b) := by
  have hrest : Distinct used key rest := hdistinct.of_perm_cons hbefore
  have hdistinct' : Distinct used key l' := by
    rw [distinct_of_perm_cons_iff hafter hrest, hkey]
    exact (distinct_of_perm_cons_iff hbefore hrest).mp hdistinct
  refine ⟨hdistinct', ?_⟩
  rw [hdistinct.get_of_perm_cons hbefore, hdistinct'.get_of_perm_cons hafter, hkey,
    Function.update_idem]

theorem get_eq_none_of_replaceFirst
    (h : replaceFirst (fun b => used b && key b = k) f l = none) : get used key l k = none := by
  rw [get, List.find?_eq_none]
  exact fun b hb hpass => Bool.false_ne_true ((replaceFirst_eq_none_iff.mp h b hb).symm.trans hpass)

/-- **The entry that a key finds is dropped from those in use.** -/
theorem exists_held_drop (h : replaceFirst (fun b => used b && key b = k) f l = some l')
    (hf : ∀ b, used (f b) = false) :
    ∃ a, get used key l k = some a ∧ (held used l).Perm (a :: held used l') := by
  obtain ⟨a, rest, hfind, hbefore, hafter⟩ := exists_perm_of_replaceFirst h
  have hused : used a = true := (List.mem_filter.mp (mem_of_get hfind).1).2
  have hkept : (held used l).Perm (held used (a :: rest)) := held_perm hbefore
  have hrest : (held used l').Perm (held used (f a :: rest)) := held_perm hafter
  rw [held_cons_of_used hused] at hkept
  rw [held_cons_of_unused (hf a)] at hrest
  exact ⟨a, hfind, hkept.trans (hrest.symm.cons a)⟩

/-- **The entry that a key finds is changed among those in use.** -/
theorem exists_held_change (h : replaceFirst (fun b => used b && key b = k) f l = some l')
    (hf : ∀ b, used (f b) = used b) :
    ∃ a rest, get used key l k = some a ∧ (held used l).Perm (a :: held used rest)
      ∧ (held used l').Perm (f a :: held used rest) := by
  obtain ⟨a, rest, hfind, hbefore, hafter⟩ := exists_perm_of_replaceFirst h
  have hused : used a = true := (List.mem_filter.mp (mem_of_get hfind).1).2
  have hkept : (held used l).Perm (held used (a :: rest)) := held_perm hbefore
  have hchanged : (held used l').Perm (held used (f a :: rest)) := held_perm hafter
  rw [held_cons_of_used hused] at hkept
  rw [held_cons_of_used ((hf a).trans hused)] at hchanged
  exact ⟨a, rest, hfind, hkept, hchanged⟩

end Get

/-- **There is room for a new key if there are as many entries as keys.** -/
theorem Distinct.exists_put [DecidableEq κ] (hdistinct : Distinct used key l) {keys : Finset κ}
    (hkeys : ∀ a ∈ held used l, key a ∈ keys) (hroom : keys.card ≤ l.length) {k : κ} (hk : k ∈ keys)
    (hnew : k ∉ (held used l).map key) (a : α) :
    ∃ l', replaceFirst (fun b => !used b) (fun _ => a) l = some l' := by
  cases hput : replaceFirst (fun b => !used b) (fun _ => a) l with
  | some l' => exact ⟨l', rfl⟩
  | none =>
      have hall : held used l = l := by
        rw [held, List.filter_eq_self]
        intro b hb
        simpa using replaceFirst_eq_none_iff.mp hput b hb
      have hsub : insert k ((held used l).map key).toFinset ⊆ keys := by
        intro other hother
        rcases Finset.mem_insert.mp hother with rfl | hother
        · exact hk
        · obtain ⟨b, hb, rfl⟩ := List.mem_map.mp (List.mem_toFinset.mp hother)
          exact hkeys b hb
      have hcard := Finset.card_le_card hsub
      rw [Finset.card_insert_of_notMem (fun h => hnew (List.mem_toFinset.mp h)),
        List.toFinset_card_of_nodup hdistinct, List.length_map, hall] at hcard
      omega

end Held

end ScanTable
