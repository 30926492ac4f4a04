import Mathlib.Data.Finset.Basic

/-!
# Mutexes in a call

A computation and what it does to mutexes, in the order in which it does, as if every mutex were granted. A
mutex that is not recursive is not granted to the one who holds it, so such a call does not come back. A call
is clean if that never happens and if it gives back what it has taken.
-/

inductive LockEvent (M : Type) where
  | lock (m : M)
  | unlock (m : M)
  deriving DecidableEq

/-- A value and the log of the mutexes. -/
structure Locked (M α : Type) where
  value : α
  log : List (LockEvent M)

namespace Locked

variable {M α β : Type}

instance : Monad (Locked M) where
  pure a := ⟨a, []⟩
  bind x f := ⟨(f x.value).value, x.log ++ (f x.value).log⟩

def lock (m : M) : Locked M Unit := ⟨(), [.lock m]⟩

def unlock (m : M) : Locked M Unit := ⟨(), [.unlock m]⟩

@[simp]
theorem value_pure (a : α) : (pure a : Locked M α).value = a := rfl

@[simp]
theorem value_bind (x : Locked M α) (f : α → Locked M β) : (x >>= f).value = (f x.value).value := rfl

@[simp]
theorem log_bind (x : Locked M α) (f : α → Locked M β) : (x >>= f).log = x.log ++ (f x.value).log := rfl

section Held

variable [DecidableEq M] {held : Finset M} {m : M} {log more : List (LockEvent M)}

/-- What is held after an event, if it can happen. -/
def afterEvent (held : Finset M) : LockEvent M → Option (Finset M)
  | .lock m => if m ∈ held then none else some (insert m held)
  | .unlock m => if m ∈ held then some (held.erase m) else none

def after (held : Finset M) (log : List (LockEvent M)) : Option (Finset M) := log.foldlM afterEvent held

/-- Whoever holds these can make the call, and holds them again after it. -/
def Clean (held : Finset M) (x : Locked M α) : Prop := after held x.log = some held

instance (held : Finset M) (x : Locked M α) : Decidable (Clean held x) :=
  inferInstanceAs (Decidable (after held x.log = some held))

/-- What the call comes to for someone who holds nothing. It comes to nothing if it does not come back. -/
def outcome (x : Locked M α) : Option α := (after ∅ x.log).map fun _ => x.value

theorem after_append (held : Finset M) (log more : List (LockEvent M)) :
    after held (log ++ more) = (after held log).bind fun held => after held more :=
  List.foldlM_append

theorem after_lock_of_mem (h : m ∈ held) (log : List (LockEvent M)) :
    after held (.lock m :: log) = none := by
  rw [after, List.foldlM_cons, afterEvent, if_pos h]
  rfl

theorem after_lock (h : m ∉ held) (log : List (LockEvent M)) :
    after held (.lock m :: log) = after (insert m held) log := by
  rw [after, List.foldlM_cons, afterEvent, if_neg h]
  rfl

theorem after_unlock (h : m ∈ held) (log : List (LockEvent M)) :
    after held (.unlock m :: log) = after (held.erase m) log := by
  rw [after, List.foldlM_cons, afterEvent, if_pos h]
  rfl

/-- **Taking a mutex, a clean call, and giving the mutex back** leaves what is held. -/
theorem after_bracket (h : m ∉ held) (hlog : after (insert m held) log = some (insert m held))
    (more : List (LockEvent M)) :
    after held (.lock m :: (log ++ .unlock m :: more)) = after held more := by
  rw [after_lock h, after_append, hlog, Option.bind_some, after_unlock (Finset.mem_insert_self m held),
    Finset.erase_insert h]

/-- A mutex that is only taken for an assignment. -/
theorem after_lock_unlock (h : m ∉ held) (more : List (LockEvent M)) :
    after held (.lock m :: .unlock m :: more) = after held more :=
  after_bracket h (rfl : after (insert m held) [] = _) more

theorem clean_pure (held : Finset M) (a : α) : Clean held (pure a : Locked M α) := rfl

theorem Clean.after_append {x : Locked M α} (h : Clean held x) (more : List (LockEvent M)) :
    after held (x.log ++ more) = after held more := by
  rw [Locked.after_append, h, Option.bind_some]

theorem Clean.bind {x : Locked M α} (h : Clean held x) {f : α → Locked M β} (hf : Clean held (f x.value)) :
    Clean held (x >>= f) := by
  rw [Clean, log_bind, h.after_append]
  exact hf

theorem Clean.outcome {x : Locked M α} (h : Clean ∅ x) : x.outcome = some x.value := by
  rw [Locked.outcome, h, Option.map_some]

end Held

end Locked
