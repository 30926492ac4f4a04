import Mathlib.Data.Finset.Basic
import Mathlib.Logic.Relation

/-!
# Leases

What has been taken is passed on or returned before it is taken again. A register knows what is taken at the
moment and logs what happens. As long as nothing is taken out of the register without an entry in the log,
everything that is taken is passed on or returned once; what has been taken out so is never returned.
-/

namespace Leases

inductive Kind where
  | taken
  | passed
  | returned
  deriving DecidableEq, Repr

variable {κ : Type} [DecidableEq κ]

/-- The log up to the next time that this is taken. -/
def untilTaken (k : κ) (log : List (κ × Kind)) : List (κ × Kind) :=
  log.takeWhile fun event => event ≠ (k, .taken)

/-- What has been taken and is not passed on before it is taken again is returned once. -/
def ReturnedOnce (log : List (κ × Kind)) : Prop :=
  ∀ before k after, log = before ++ (k, .taken) :: after →
    (k, .passed) ∉ untilTaken k after → (untilTaken k after).count (k, .returned) = 1

/-- Between two returns it is taken. -/
def NotReturnedTwice (log : List (κ × Kind)) : Prop :=
  ∀ before k between after, log = before ++ (k, .returned) :: (between ++ (k, .returned) :: after) →
    (k, .taken) ∈ between

/-- Taking, and giving away, in turn. -/
def turn : Bool → Kind → Option Bool
  | false, .taken => some true
  | true, .passed => some false
  | true, .returned => some false
  | true, .taken => none
  | false, .passed => none
  | false, .returned => none

def step (k : κ) (held : Bool) (event : κ × Kind) : Option Bool :=
  if event.1 = k then turn held event.2 else some held

/-- Whether it is held after this log, if everything happens in turn. -/
def heldAfter (k : κ) (held : Bool) (log : List (κ × Kind)) : Option Bool := log.foldlM (step k) held

section Log

variable {k : κ} {held result : Bool} {event : κ × Kind} {log after between : List (κ × Kind)}

theorem heldAfter_cons : heldAfter k held (event :: log) = (step k held event).bind (heldAfter k · log) :=
  List.foldlM_cons

theorem heldAfter_append (before after : List (κ × Kind)) :
    heldAfter k held (before ++ after) = (heldAfter k held before).bind (heldAfter k · after) :=
  List.foldlM_append

theorem step_self (held : Bool) (kind : Kind) : step k held (k, kind) = turn held kind := if_pos rfl

theorem step_of_ne (h : event.1 ≠ k) : step k held event = some held := if_neg h

theorem untilTaken_cons_of_ne (h : event ≠ (k, .taken)) :
    untilTaken k (event :: log) = event :: untilTaken k log := by
  rw [untilTaken, List.takeWhile_cons, if_pos (decide_eq_true h)]
  rfl

theorem untilTaken_taken : untilTaken k ((k, .taken) :: log) = [] := by
  rw [untilTaken, List.takeWhile_cons, if_neg]
  exact fun h => of_decide_eq_true h rfl

/-- What is not held is not returned before it is taken. -/
theorem count_returned_eq_zero (h : heldAfter k false after = some result) :
    (untilTaken k after).count (k, .returned) = 0 := by
  induction after with
  | nil => rfl
  | cons event rest ih =>
      obtain ⟨key, kind⟩ := event
      rw [heldAfter_cons] at h
      by_cases hkey : key = k
      · subst hkey
        cases kind with
        | taken =>
            rw [untilTaken_taken]
            rfl
        | passed | returned =>
            rw [step_self] at h
            cases h
      · rw [step_of_ne hkey] at h
        rw [untilTaken_cons_of_ne fun heq => hkey (congrArg Prod.fst heq),
          List.count_cons_of_ne fun heq => hkey (congrArg Prod.fst heq)]
        exact ih h

theorem count_returned_eq_one (h : heldAfter k true after = some false)
    (hpassed : (k, .passed) ∉ untilTaken k after) : (untilTaken k after).count (k, .returned) = 1 := by
  induction after with
  | nil => cases h
  | cons event rest ih =>
      obtain ⟨key, kind⟩ := event
      rw [heldAfter_cons] at h
      by_cases hkey : key = k
      · subst hkey
        rw [step_self] at h
        cases kind with
        | taken => cases h
        | passed =>
            rw [untilTaken_cons_of_ne (by simp)] at hpassed
            exact absurd List.mem_cons_self hpassed
        | returned =>
            rw [untilTaken_cons_of_ne (by simp), List.count_cons_self, count_returned_eq_zero h]
      · rw [step_of_ne hkey] at h
        rw [untilTaken_cons_of_ne fun heq => hkey (congrArg Prod.fst heq)] at hpassed ⊢
        rw [List.count_cons_of_ne fun heq => hkey (congrArg Prod.fst heq)]
        exact ih h fun hmem => hpassed (List.mem_cons_of_mem _ hmem)

theorem taken_mem_of_returned (h : heldAfter k false (between ++ (k, .returned) :: after) = some result) :
    (k, .taken) ∈ between := by
  induction between with
  | nil =>
      rw [List.nil_append, heldAfter_cons, step_self] at h
      cases h
  | cons event rest ih =>
      obtain ⟨key, kind⟩ := event
      rw [List.cons_append, heldAfter_cons] at h
      by_cases hkey : key = k
      · subst hkey
        cases kind with
        | taken => exact List.mem_cons_self
        | passed | returned =>
            rw [step_self] at h
            cases h
      · rw [step_of_ne hkey] at h
        exact List.mem_cons_of_mem _ (ih h)

/-- What is held has been taken, and nothing has happened to it since. -/
theorem exists_taken_of_heldAfter (h : heldAfter k false log = some true) :
    ∃ before after, log = before ++ (k, .taken) :: after ∧ ∀ event ∈ after, event.1 ≠ k := by
  induction log using List.reverseRecOn with
  | nil => cases h
  | append_singleton log event ih =>
      obtain ⟨key, kind⟩ := event
      rw [heldAfter_append] at h
      obtain ⟨held, hheld, hstep⟩ := Option.bind_eq_some_iff.mp h
      by_cases hkey : key = k
      · subst hkey
        refine ⟨log, [], ?_, fun _ hmem => absurd hmem List.not_mem_nil⟩
        rw [heldAfter_cons, step_self] at hstep
        cases held with
        | false =>
            cases kind with
            | taken => rfl
            | passed | returned => cases hstep
        | true =>
            cases kind with
            | taken | passed | returned => cases hstep
      · rw [heldAfter_cons, step_of_ne hkey] at hstep
        cases hstep
        obtain ⟨before, after, rfl, hafter⟩ := ih hheld
        refine ⟨before, after ++ [(key, kind)], ?_, ?_⟩
        · rw [List.append_assoc]
          rfl
        · intro event hmem
          rcases List.mem_append.mp hmem with hold | hnew
          · exact hafter event hold
          · rw [List.mem_singleton.mp hnew]
            exact hkey

end Log

structure Register (κ : Type) [DecidableEq κ] where
  active : Finset κ
  log : List (κ × Kind)

/-- One entry in the log, and the register changed by it. -/
inductive Kept : Register κ → Register κ → Prop where
  | take (r : Register κ) (k : κ) (h : k ∉ r.active) :
      Kept r ⟨insert k r.active, r.log ++ [(k, .taken)]⟩
  | give (r : Register κ) (k : κ) (kind : Kind) (hkind : kind ≠ .taken) (h : k ∈ r.active) :
      Kept r ⟨r.active.erase k, r.log ++ [(k, kind)]⟩

/-- The log says what the register holds. -/
def Balanced (r : Register κ) : Prop :=
  ∀ k, heldAfter k false r.log = some (decide (k ∈ r.active))

/-- Something has been taken that is neither in the register nor in the log any more before it is taken
again. -/
def Gone (r : Register κ) : Prop :=
  ∃ before k after, r.log = before ++ (k, .taken) :: after ∧ (∀ event ∈ untilTaken k after, event.1 ≠ k)
    ∧ ((k, .taken) ∈ after ∨ k ∉ r.active)

variable {r r' : Register κ}

theorem Balanced.kept (h : Balanced r) (hkept : Kept r r') : Balanced r' := by
  intro k
  cases hkept with
  | take k' hfresh =>
      rw [heldAfter_append, h k]
      change heldAfter k _ [(k', .taken)] = some (decide (k ∈ insert k' r.active))
      rw [heldAfter_cons]
      by_cases hkey : k' = k
      · subst hkey
        rw [decide_eq_false hfresh, step_self, decide_eq_true (Finset.mem_insert_self k' _)]
        rfl
      · rw [step_of_ne hkey]
        change some _ = some _
        rw [decide_eq_decide.mpr]
        rw [Finset.mem_insert, or_iff_right (Ne.symm hkey)]
  | give k' kind hkind hheld =>
      rw [heldAfter_append, h k]
      change heldAfter k _ [(k', kind)] = some (decide (k ∈ r.active.erase k'))
      rw [heldAfter_cons]
      by_cases hkey : k' = k
      · subst hkey
        rw [decide_eq_true hheld, step_self, decide_eq_false (Finset.notMem_erase k' _)]
        cases kind with
        | taken => exact absurd rfl hkind
        | passed | returned => rfl
      · rw [step_of_ne hkey]
        change some _ = some _
        rw [decide_eq_decide.mpr]
        rw [Finset.mem_erase, and_iff_right (Ne.symm hkey)]

theorem Balanced.of_reflTransGen (h : Balanced r) (hkept : Relation.ReflTransGen Kept r r') :
    Balanced r' := by
  induction hkept with
  | refl => exact h
  | tail _ hstep ih => exact ih.kept hstep

/-- **Where everything happens in turn and nothing is held in the end, all that has been taken and not passed
on has been returned once.** -/
theorem Balanced.returnedOnce (h : Balanced r) (hempty : r.active = ∅) : ReturnedOnce r.log := by
  intro before k after hlog hpassed
  have hheld := h k
  rw [hempty, decide_eq_false (Finset.notMem_empty k), hlog, heldAfter_append] at hheld
  obtain ⟨held, -, hrest⟩ := Option.bind_eq_some_iff.mp hheld
  rw [heldAfter_cons, step_self] at hrest
  cases held with
  | true => cases hrest
  | false => exact count_returned_eq_one hrest hpassed

theorem Balanced.notReturnedTwice (h : Balanced r) : NotReturnedTwice r.log := by
  intro before k between after hlog
  have hheld := h k
  rw [hlog, heldAfter_append] at hheld
  obtain ⟨held, -, hrest⟩ := Option.bind_eq_some_iff.mp hheld
  rw [heldAfter_cons, step_self] at hrest
  cases held with
  | false => cases hrest
  | true => exact taken_mem_of_returned hrest

/-- What leaves the register without an entry in the log is gone. -/
theorem Balanced.gone (h : Balanced r) {k : κ} (hheld : k ∈ r.active) (hlost : k ∉ r'.active)
    (hlog : r'.log = r.log) : Gone r' := by
  have hk := h k
  rw [decide_eq_true hheld] at hk
  obtain ⟨before, after, hsplit, hafter⟩ := exists_taken_of_heldAfter hk
  exact ⟨before, k, after, hlog.trans hsplit,
    fun event hmem => hafter event ((List.takeWhile_sublist _).subset hmem), .inr hlost⟩

theorem untilTaken_append_of_mem {k : κ} {after : List (κ × Kind)} (h : (k, .taken) ∈ after)
    (more : List (κ × Kind)) : untilTaken k (after ++ more) = untilTaken k after := by
  induction after with
  | nil => cases h
  | cons event rest ih =>
      by_cases hevent : event = (k, .taken)
      · rw [hevent, List.cons_append, untilTaken_taken, untilTaken_taken]
      · rw [List.cons_append, untilTaken_cons_of_ne hevent, untilTaken_cons_of_ne hevent]
        rw [ih ((List.mem_cons.mp h).resolve_left (Ne.symm hevent))]

theorem untilTaken_append_of_notMem {k : κ} {after : List (κ × Kind)} (h : (k, .taken) ∉ after)
    (more : List (κ × Kind)) : untilTaken k (after ++ more) = after ++ untilTaken k more := by
  induction after with
  | nil => rfl
  | cons event rest ih =>
      obtain ⟨hevent, hrest⟩ := not_or.mp (List.mem_cons.not.mp h)
      rw [List.cons_append, untilTaken_cons_of_ne (Ne.symm hevent), ih hrest]
      rfl

/-- An entry about something else, or the next taking, changes nothing about what is gone. -/
theorem Gone.append (h : Gone r) {event : κ × Kind} (hlog : r'.log = r.log ++ [event])
    (hevent : ∀ k ∉ r.active, event = (k, .taken) ∨ event.1 ≠ k ∧ k ∉ r'.active) : Gone r' := by
  obtain ⟨before, k, after, hsplit, hafter, hgone⟩ := h
  refine ⟨before, k, after ++ [event], ?_, ?_, ?_⟩
  · rw [hlog, hsplit, List.append_assoc]
    rfl
  · by_cases hmem : (k, .taken) ∈ after
    · rwa [untilTaken_append_of_mem hmem]
    · have hnot := hgone.resolve_left hmem
      intro other hother
      have hold : untilTaken k after = after := by
        have hsame := untilTaken_append_of_notMem hmem []
        rwa [List.append_nil, untilTaken, untilTaken, List.takeWhile_nil, List.append_nil] at hsame
      rw [untilTaken_append_of_notMem hmem] at hother
      rw [hold] at hafter
      rcases List.mem_append.mp hother with hbefore | hnew
      · exact hafter other hbefore
      · rcases hevent k hnot with htaken | hne
        · rw [htaken, untilTaken_taken] at hnew
          cases hnew
        · rw [List.mem_singleton.mp ((List.takeWhile_sublist _).subset hnew)]
          exact hne.1
  · rcases hgone with hmem | hnot
    · exact .inl (List.mem_append_left _ hmem)
    · rcases hevent k hnot with htaken | hne
      · exact .inl (List.mem_append_right _ (List.mem_singleton.mpr htaken.symm))
      · exact .inr hne.2

theorem Gone.kept (h : Gone r) (hkept : Kept r r') : Gone r' := by
  cases hkept with
  | take k' hfresh =>
      refine h.append rfl fun k hk => ?_
      by_cases hkey : k' = k
      · exact .inl (by rw [hkey])
      · refine .inr ⟨hkey, fun hmem => ?_⟩
        exact hk ((Finset.mem_insert.mp hmem).resolve_left (Ne.symm hkey))
  | give k' kind hkind hheld =>
      refine h.append rfl fun k hk => .inr ⟨?_, fun hmem => hk (Finset.mem_of_mem_erase hmem)⟩
      rintro rfl
      exact hk hheld

theorem Gone.of_subset (h : Gone r) (hactive : r'.active ⊆ r.active) (hlog : r'.log = r.log) : Gone r' := by
  obtain ⟨before, k, after, hsplit, hafter, hgone⟩ := h
  refine ⟨before, k, after, hlog.trans hsplit, hafter, hgone.imp_right fun hnot hmem => ?_⟩
  exact hnot (hactive hmem)

theorem Gone.of_reflTransGen (h : Gone r) (hkept : Relation.ReflTransGen Kept r r') : Gone r' := by
  induction hkept with
  | refl => exact h
  | tail _ hstep ih => exact ih.kept hstep

/-- **What is gone is not returned.** -/
theorem Gone.not_returnedOnce (h : Gone r) : ¬ReturnedOnce r.log := by
  obtain ⟨before, k, after, hsplit, hafter, -⟩ := h
  intro honce
  have hcount := honce before k after hsplit fun hmem => hafter _ hmem rfl
  rw [List.count_eq_zero.mpr fun hmem => hafter _ hmem rfl] at hcount
  exact absurd hcount Nat.zero_ne_one

end Leases
