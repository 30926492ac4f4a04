import Uesim.Library.Reading

/-!
# Looking for a tag in a message

Elements lie one behind the other, each with a tag in its header, and how far one reaches may be read off its
header. A search goes from the begin on until it comes to the tag that it looks for. So it finds what is among
the tags of the elements, and it reads headers only.
-/

namespace TagSearch

open Bytes BitMemory Reading

/-- How elements are laid out: how many bytes a header takes, how its tag is read, and where the next element is.
Where less is left than `limit` allows there may be none. -/
structure Layout (τ : Type) where
  header : Nat
  tag : Nat → Reading τ
  next : Nat → Nat → Reading (Option Nat)
  tag_within : ∀ mem limit place, place + header ≤ limit → (tag place).Within mem limit
  next_within : ∀ mem limit place, place + header ≤ limit → (next limit place).Within mem limit
  lt_next : ∀ mem limit place after, (next limit place).run mem = some after → place < after

variable {τ : Type} (layout : Layout τ)

/-- The tags of the elements that a walk comes to, with so many steps at most. -/
def tags (mem : Memory) (limit : Nat) : Nat → Nat → List τ
  | 0, _ => []
  | steps + 1, place =>
      if place + layout.header ≤ limit then
        (layout.tag place).run mem ::
          (((layout.next limit place).run mem).elim [] fun after => tags mem limit steps after)
      else []

def search [DecidableEq τ] (wanted : τ) (limit : Nat) : Nat → Nat → Reading Bool
  | 0, _ => pure false
  | steps + 1, place =>
      if place + layout.header ≤ limit then do
        let found ← layout.tag place
        if found = wanted then pure true
        else
          let after ← layout.next limit place
          after.elim (pure false) fun after => search wanted limit steps after
      else pure false

variable {layout} {mem : Memory} {limit : Nat}

/-- **A search finds exactly the tags that a walk comes to.** -/
theorem run_search [DecidableEq τ] (wanted : τ) (steps place : Nat) :
    (search layout wanted limit steps place).run mem = decide (wanted ∈ tags layout mem limit steps place) := by
  induction steps generalizing place with
  | zero => rfl
  | succ steps ih =>
      rw [search, tags]
      by_cases hheader : place + layout.header ≤ limit
      · rw [if_pos hheader, if_pos hheader, run_bind]
        by_cases hfound : (layout.tag place).run mem = wanted
        · rw [if_pos hfound, hfound]
          simp
        · rw [if_neg hfound, run_bind]
          have hne : wanted ≠ (layout.tag place).run mem := Ne.symm hfound
          cases (layout.next limit place).run mem with
          | none => simp [hne]
          | some after => simpa [hne] using ih after
      · rw [if_neg hheader, if_neg hheader]
        rfl

theorem within_search [DecidableEq τ] (wanted : τ) (steps place : Nat) :
    (search layout wanted limit steps place).Within mem limit := by
  induction steps generalizing place with
  | zero => exact within_pure mem limit false
  | succ steps ih =>
      rw [search]
      split
      · rename_i hheader
        refine within_bind.mpr ⟨layout.tag_within mem limit place hheader, ?_⟩
        split
        · exact within_pure mem limit true
        · refine within_bind.mpr ⟨layout.next_within mem limit place hheader, ?_⟩
          cases (layout.next limit place).run mem with
          | none => exact within_pure mem limit false
          | some after => exact ih after
      · exact within_pure mem limit false

/-- One search after the other, until a tag is not found. -/
def demand [DecidableEq τ] {σ : Type} (layout : Layout τ) (limit steps place : Nat) (passed : σ) (missing : τ → σ) :
    List τ → Reading σ
  | [] => pure passed
  | wanted :: rest => do
      let found ← search layout wanted limit steps place
      if found then demand layout limit steps place passed missing rest else pure (missing wanted)

section Demand

variable [DecidableEq τ] {σ : Type} {passed : σ} {missing : τ → σ}

/-- **What is missing is the first tag that no element has.** -/
theorem run_demand (steps place : Nat) (wanted : List τ) :
    (demand layout limit steps place passed missing wanted).run mem
      = (wanted.find? fun tag => tag ∉ tags layout mem limit steps place).elim passed missing := by
  induction wanted with
  | nil => rfl
  | cons tag rest ih =>
      rw [demand, run_bind, run_search, List.find?_cons]
      by_cases hmem : tag ∈ tags layout mem limit steps place
      · simpa [hmem] using ih
      · simp [hmem]

theorem within_demand (steps place : Nat) (wanted : List τ) :
    (demand layout limit steps place passed missing wanted).Within mem limit := by
  induction wanted with
  | nil => exact within_pure mem limit passed
  | cons tag rest ih =>
      rw [demand]
      refine within_bind.mpr ⟨within_search tag steps place, ?_⟩
      split
      · exact ih
      · exact within_pure mem limit _

theorem run_demand_cases (steps place : Nat) (wanted : List τ) :
    ((∀ tag ∈ wanted, tag ∈ tags layout mem limit steps place)
        ∧ (demand layout limit steps place passed missing wanted).run mem = passed)
      ∨ ∃ tag ∈ wanted, tag ∉ tags layout mem limit steps place
        ∧ (demand layout limit steps place passed missing wanted).run mem = missing tag := by
  rw [run_demand]
  cases hfind : wanted.find? fun tag => tag ∉ tags layout mem limit steps place with
  | none =>
      refine Or.inl ⟨fun tag hmem => ?_, rfl⟩
      have hnot := List.find?_eq_none.mp hfind tag hmem
      simpa using hnot
  | some tag =>
      have hmissing := List.find?_some hfind
      exact Or.inr ⟨tag, List.mem_of_find?_eq_some hfind, of_decide_eq_true hmissing, rfl⟩

end Demand

/-- A list of tags is that of a message if each is where its element is, and nothing follows the last. -/
inductive Lies (layout : Layout τ) (mem : Memory) (limit : Nat) : Nat → List τ → Prop
  | nil {place : Nat} (hout : limit < place + layout.header) : Lies layout mem limit place []
  | last {place : Nat} {tag : τ} (hheader : place + layout.header ≤ limit)
      (htag : (layout.tag place).run mem = tag) (hnext : (layout.next limit place).run mem = none) :
      Lies layout mem limit place [tag]
  | cons {place after : Nat} {tag : τ} {rest : List τ} (hheader : place + layout.header ≤ limit)
      (htag : (layout.tag place).run mem = tag) (hnext : (layout.next limit place).run mem = some after)
      (hrest : Lies layout mem limit after rest) : Lies layout mem limit place (tag :: rest)

theorem Lies.tags_eq {place : Nat} {list : List τ} (h : Lies layout mem limit place list) {steps : Nat}
    (hsteps : limit < place + steps) : tags layout mem limit steps place = list := by
  induction h generalizing steps with
  | nil hout =>
      cases steps with
      | zero => rfl
      | succ steps => rw [tags, if_neg (by omega)]
  | last hheader htag hnext =>
      cases steps with
      | zero => omega
      | succ steps =>
          rw [tags, if_pos hheader, htag, hnext]
          rfl
  | cons hheader htag hnext hrest ih =>
      have hlt := layout.lt_next _ _ _ _ hnext
      cases steps with
      | zero => omega
      | succ steps =>
          rw [tags, if_pos hheader, htag, hnext]
          exact congrArg _ (ih (by omega))

end TagSearch
