import Mathlib.Logic.Function.Basic

/-!
# Descriptors and who holds them

Descriptors are opened and closed, and a descriptor that is opened is fresh. They are in good hands if each
one that is open is held in exactly one place, and each one that is held is open: then none is lost, and none
is closed twice.
-/

/-- The open descriptors, and whether one was closed that was not open. -/
structure Descriptors where
  isOpen : Nat → Bool
  twice : Bool

namespace Descriptors

variable {ι : Type} {fds : Descriptors} {slot : ι → Option Nat} {i : ι} {fd : Nat}

def none : Descriptors := { isOpen := fun _ => false, twice := false }

def opened (fds : Descriptors) (fd : Nat) : Descriptors :=
  { fds with isOpen := Function.update fds.isOpen fd true }

/-- The answer is no descriptor at all if that one is already open. -/
def openNew (fds : Descriptors) (answer : Option Nat) : Descriptors × Option Nat :=
  match answer with
  | .none => (fds, .none)
  | some fd =>
      if fds.isOpen fd then (fds, .none)
      else (fds.opened fd, some fd)

def close (fds : Descriptors) (fd : Nat) : Descriptors :=
  if fds.isOpen fd then { fds with isOpen := Function.update fds.isOpen fd false }
  else { fds with twice := true }

/-- What is held in a place is closed, if there is something. -/
def release (fds : Descriptors) : Option Nat → Descriptors
  | .none => fds
  | some fd => fds.close fd

theorem openNew_cases (fds : Descriptors) (answer : Option Nat) :
    fds.openNew answer = (fds, .none) ∨ ∃ fd, fds.isOpen fd = false ∧
      fds.openNew answer = (fds.opened fd, some fd) := by
  cases answer with
  | none => exact .inl rfl
  | some fd =>
      unfold openNew
      cases hopen : fds.isOpen fd with
      | true => exact .inl (by simp [hopen])
      | false => exact .inr ⟨fd, hopen, by simp [hopen]⟩

theorem isOpen_opened_self (fds : Descriptors) (fd : Nat) : (fds.opened fd).isOpen fd = true :=
  Function.update_self ..

theorem isOpen_opened (h : fds.isOpen fd = true) (fd' : Nat) : (fds.opened fd').isOpen fd = true := by
  by_cases heq : fd = fd'
  · rw [heq]
    exact isOpen_opened_self fds fd'
  · unfold opened
    dsimp only
    rw [Function.update_of_ne heq, h]

/-- What was just opened can be closed, and all is as before. -/
theorem close_opened (hfresh : fds.isOpen fd = false) : (fds.opened fd).close fd = fds := by
  unfold close opened
  rw [if_pos (Function.update_self ..), Function.update_idem, ← hfresh, Function.update_eq_self]

/-- Each open descriptor is held in exactly one place. -/
structure Owned (fds : Descriptors) (slot : ι → Option Nat) : Prop where
  isOpen : ∀ i fd, slot i = some fd → fds.isOpen fd = true
  held : ∀ fd, fds.isOpen fd = true → ∃ i, slot i = some fd
  unique : ∀ i j fd, slot i = some fd → slot j = some fd → i = j
  once : fds.twice = false

theorem owned_none : none.Owned fun _ : ι => .none :=
  { isOpen := fun _ _ h => by cases h
    held := fun _ h => by cases h
    unique := fun _ _ _ h => by cases h
    once := rfl }

namespace Owned

variable [DecidableEq ι]

theorem release (h : fds.Owned slot) (i : ι) :
    (fds.release (slot i)).Owned (Function.update slot i .none) := by
  cases hi : slot i with
  | none =>
      rw [← hi, Function.update_eq_self, hi]
      exact h
  | some fd =>
      have hopen := h.isOpen i fd hi
      have hclose : fds.release (some fd) = { fds with isOpen := Function.update fds.isOpen fd false } :=
        if_pos hopen
      rw [hclose]
      exact
        { isOpen := by
            intro j fd' hj
            by_cases hji : j = i
            · rw [hji, Function.update_self] at hj
              cases hj
            · rw [Function.update_of_ne hji] at hj
              have hne : fd' ≠ fd := by
                rintro rfl
                exact hji (h.unique j i fd' hj hi)
              change Function.update fds.isOpen fd false fd' = true
              rw [Function.update_of_ne hne]
              exact h.isOpen j fd' hj
          held := by
            intro fd' hfd'
            change Function.update fds.isOpen fd false fd' = true at hfd'
            by_cases hfd : fd' = fd
            · rw [hfd, Function.update_self] at hfd'
              cases hfd'
            · rw [Function.update_of_ne hfd] at hfd'
              obtain ⟨j, hj⟩ := h.held fd' hfd'
              have hji : j ≠ i := by
                rintro rfl
                exact hfd (Option.some.inj (hj.symm.trans hi))
              exact ⟨j, by rw [Function.update_of_ne hji]; exact hj⟩
          unique := by
            intro j k fd' hj hk
            by_cases hji : j = i
            · rw [hji, Function.update_self] at hj
              cases hj
            by_cases hki : k = i
            · rw [hki, Function.update_self] at hk
              cases hk
            rw [Function.update_of_ne hji] at hj
            rw [Function.update_of_ne hki] at hk
            exact h.unique j k fd' hj hk
          once := h.once }

theorem acquire (h : fds.Owned slot) (hi : slot i = .none) (hfresh : fds.isOpen fd = false) :
    (fds.opened fd).Owned (Function.update slot i (some fd)) := by
  have hheld : ∀ j, slot j ≠ some fd := by
    intro j hj
    rw [h.isOpen j fd hj] at hfresh
    cases hfresh
  exact
    { isOpen := by
        intro j fd' hj
        change Function.update fds.isOpen fd true fd' = true
        by_cases hfd : fd' = fd
        · rw [hfd, Function.update_self]
        · rw [Function.update_of_ne hfd]
          by_cases hji : j = i
          · rw [hji, Function.update_self] at hj
            exact absurd (Option.some.inj hj).symm hfd
          · rw [Function.update_of_ne hji] at hj
            exact h.isOpen j fd' hj
      held := by
        intro fd' hfd'
        change Function.update fds.isOpen fd true fd' = true at hfd'
        by_cases hfd : fd' = fd
        · exact ⟨i, by rw [hfd, Function.update_self]⟩
        · rw [Function.update_of_ne hfd] at hfd'
          obtain ⟨j, hj⟩ := h.held fd' hfd'
          have hji : j ≠ i := by
            rintro rfl
            rw [hi] at hj
            cases hj
          exact ⟨j, by rw [Function.update_of_ne hji]; exact hj⟩
      unique := by
        intro j k fd' hj hk
        by_cases hji : j = i
        · by_cases hki : k = i
          · rw [hji, hki]
          · rw [hji, Function.update_self] at hj
            rw [Function.update_of_ne hki, ← Option.some.inj hj] at hk
            exact absurd hk (hheld k)
        · rw [Function.update_of_ne hji] at hj
          by_cases hki : k = i
          · rw [hki, Function.update_self] at hk
            rw [← Option.some.inj hk] at hj
            exact absurd hj (hheld j)
          · rw [Function.update_of_ne hki] at hk
            exact h.unique j k fd' hj hk
      once := h.once }

end Owned

end Descriptors
