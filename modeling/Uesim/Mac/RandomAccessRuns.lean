import Uesim.Library.Runs
import Uesim.Mac.RandomAccess

/-!
# Random access over whole runs

A response without an answer asks for a retry, and leaves the procedure active so that there is none. The
attempts are counted, and no procedure begins to count anew. So a run is as it should be as long as no
response is without an answer.
-/

namespace Uesim

open Bytes BitMemory

inductive MacRachOp where
  | sendRachPreamble (preambleIndex : Byte)
  | initiateRandomAccess
  | receiveRachResponse (response : Memory) (length : Nat) (rand : Word)

/-- The entity, and of its last procedure whether it came after one that had ended, and how many responses
it has had without an answer. -/
structure MacRachHistory where
  entity : MacEntity
  follows : Bool
  unmatched : Nat

namespace MacRachHistory

def Ended (history : MacRachHistory) : Prop :=
  history.entity.rachState = .success ∨ history.entity.rachState = .failed

instance (history : MacRachHistory) : Decidable history.Ended := inferInstanceAs (Decidable (_ ∨ _))

def start (entity : MacEntity) : MacRachHistory := { entity, follows := false, unmatched := 0 }

/-- A preamble that is sent begins a procedure. -/
def sent (history : MacRachHistory) (result : MacEntity × Except UesimError Unit) : MacRachHistory :=
  if result.2 = .ok () then { entity := result.1, follows := history.Ended, unmatched := 0 }
  else { history with entity := result.1 }

def received (history : MacRachHistory) (result : MacEntity × Except UesimError Unit) : MacRachHistory :=
  { history with
    entity := result.1
    unmatched :=
      if result.2 = .error .retry ∨ result.2 = .error .maxRetries then history.unmatched + 1
      else history.unmatched }

end MacRachHistory

def macRachStep (history : MacRachHistory) : MacRachOp → MacRachHistory
  | .sendRachPreamble preambleIndex => history.sent (macSendRachPreamble history.entity preambleIndex)
  | .initiateRandomAccess => history.sent (macInitiateRandomAccess history.entity)
  | .receiveRachResponse response length rand =>
      history.received (macReceiveRachResponse history.entity response length rand)

namespace MacRachHistory

/-- A procedure after one that has ended begins with the initial power. -/
def Begins (history : MacRachHistory) (result : MacEntity × Except UesimError Unit) : Prop :=
  result.2 = .ok () → history.Ended →
    result.1.rachPower = result.1.config.rachConfig.preambleInitialRxTargetPower

/-- Where a retry is asked for, there can be one, and a procedure after one that has ended fails after
enough responses of its own. -/
def Goes (history : MacRachHistory) (result : MacEntity × Except UesimError Unit) : Prop :=
  (result.2 = .error .retry →
      ∀ preambleIndex < 64, (macSendRachPreamble result.1 preambleIndex).2 = .ok ())
    ∧ (result.2 = .error .maxRetries → history.follows →
        result.1.config.rachConfig.preambleTransMax.toNat ≤ history.unmatched + 1)

def KeepsRach (history : MacRachHistory) : MacRachOp → Prop
  | .sendRachPreamble preambleIndex => history.Begins (macSendRachPreamble history.entity preambleIndex)
  | .initiateRandomAccess => history.Begins (macInitiateRandomAccess history.entity)
  | .receiveRachResponse response length rand =>
      history.Goes (macReceiveRachResponse history.entity response length rand)

/-- After a procedure that has ended nothing is left of its attempts, or the power happens to be raised to
the initial one. -/
def Anew (history : MacRachHistory) : Prop :=
  history.Ended →
    history.entity.rachAttempt = 0
      ∨ history.entity.rachPower + history.entity.config.rachConfig.powerRampingStep / 10
        = history.entity.config.rachConfig.preambleInitialRxTargetPower

/-- No response is without an answer, or it is one to the first procedure and too many attempts are
already counted. -/
def Answered (history : MacRachHistory) : MacRachOp → Prop
  | .sendRachPreamble preambleIndex => preambleIndex < 64 → history.Anew
  | .initiateRandomAccess => history.Anew
  | .receiveRachResponse response length _ =>
      history.entity.rachState = .active → 5 ≤ length →
        macFindRar history.entity.rachPreambleIndex response length = .notFound →
          history.follows = false
            ∧ history.entity.config.rachConfig.preambleTransMax ≤ history.entity.rachAttempt + 1

structure Sound (history : MacRachHistory) : Prop where
  active : history.entity.active
  transMax : 2 ≤ history.entity.config.rachConfig.preambleTransMax
  unmatched : history.follows → history.unmatched = 0

end MacRachHistory

/-! ### Single calls -/

section Calls

variable {entity : MacEntity}

theorem macReceiveRachResponse_keeps (entity : MacEntity) (response : Memory) (length : Nat) (rand : Word) :
    (macReceiveRachResponse entity response length rand).1.active = entity.active
      ∧ (macReceiveRachResponse entity response length rand).1.config.rachConfig
        = entity.config.rachConfig := by
  rw [macReceiveRachResponse]
  split
  · exact ⟨rfl, rfl⟩
  split
  · split
    · exact ⟨rfl, rfl⟩
    split
    · exact ⟨rfl, rfl⟩
    split
    · exact ⟨rfl, rfl⟩
    · dsimp only
      split
      · exact ⟨rfl, rfl⟩
      · exact ⟨rfl, rfl⟩
    · exact ⟨rfl, rfl⟩
  · exact ⟨rfl, rfl⟩

theorem macReceiveRachResponse_counted {response : Memory} {length : Nat} {rand : Word}
    (h : (macReceiveRachResponse entity response length rand).2 = .error .retry
      ∨ (macReceiveRachResponse entity response length rand).2 = .error .maxRetries) :
    entity.rachState = .active ∧ 5 ≤ length
      ∧ macFindRar entity.rachPreambleIndex response length = .notFound := by
  rw [macReceiveRachResponse] at h
  split at h
  · simp at h
  split at h
  · split at h
    · simp at h
    rename_i hstate
    split at h
    · simp at h
    rename_i hlength
    split at h
    · simp at h
    · rename_i hfind
      exact ⟨not_not.mp hstate, Nat.le_of_not_lt hlength, hfind⟩
    · simp at h
  · simp at h

end Calls

namespace MacRachHistory

variable {history : MacRachHistory}

theorem Sound.sent (h : history.Sound) {result : MacEntity × Except UesimError Unit}
    (hactive : result.1.active = history.entity.active)
    (hconfig : result.1.config.rachConfig = history.entity.config.rachConfig) :
    (history.sent result).Sound := by
  have hkept := h.active
  have htransMax := h.transMax
  rw [← hactive] at hkept
  rw [← hconfig] at htransMax
  rw [MacRachHistory.sent]
  split
  · exact ⟨hkept, htransMax, fun _ => rfl⟩
  · exact ⟨hkept, htransMax, h.unmatched⟩

theorem Sound.step (h : history.Sound) (op : MacRachOp) (hanswered : history.Answered op) :
    (macRachStep history op).Sound := by
  cases op with
  | sendRachPreamble preambleIndex =>
      obtain ⟨hactive, hconfig⟩ := macSendRachPreamble_keeps history.entity preambleIndex
      exact h.sent hactive (congrArg _ hconfig)
  | initiateRandomAccess =>
      obtain ⟨hactive, hconfig⟩ := macSendRachPreamble_keeps history.entity 1
      rw [macRachStep, macInitiateRandomAccess_eq h.active]
      exact h.sent hactive (congrArg _ hconfig)
  | receiveRachResponse response length rand =>
      obtain ⟨hactive, hconfig⟩ := macReceiveRachResponse_keeps history.entity response length rand
      have htransMax := h.transMax
      rw [← hconfig] at htransMax
      rw [macRachStep, received]
      refine ⟨hactive.trans h.active, htransMax, fun hfollows => ?_⟩
      · dsimp only
        rw [if_neg, h.unmatched hfollows]
        intro hcounted
        obtain ⟨hstate, hlength, hfind⟩ := macReceiveRachResponse_counted hcounted
        exact Bool.noConfusion (hfollows.symm.trans (hanswered hstate hlength hfind).1)

theorem begins_iff (hactive : history.entity.active) (preambleIndex : Byte) :
    history.Begins (macSendRachPreamble history.entity preambleIndex)
      ↔ (preambleIndex < 64 → history.Anew) := by
  have hconfig := (macSendRachPreamble_keeps history.entity preambleIndex).2
  have hready : history.Ended → history.entity.rachState ≠ .active := by
    rintro (hsuccess | hfailed)
    · rw [hsuccess]
      exact nofun
    · rw [hfailed]
      exact nofun
  constructor
  · intro hbegins hlt hended
    have hok := (macSendRachPreamble_ok_iff hactive preambleIndex).mpr ⟨hlt, hready hended⟩
    have hpower := hbegins hok hended
    rw [rachPower_macSendRachPreamble hok, hconfig] at hpower
    split at hpower
    · exact .inr hpower
    · rename_i hattempt
      exact .inl (BitVec.le_zero_iff.mp (BitVec.not_lt.mp hattempt))
  · intro hanew hok hended
    rw [rachPower_macSendRachPreamble hok, hconfig]
    split
    · rename_i hattempt
      rcases hanew ((macSendRachPreamble_ok_iff hactive preambleIndex).mp hok).1 hended with hzero | hpower
      · rw [hzero] at hattempt
        exact absurd hattempt (BitVec.lt_irrefl 0)
      · exact hpower
    · rfl

/-- A response without an answer ends in a retry that there cannot be, or in a failure. -/
theorem Sound.goes_iff (h : history.Sound) (response : Memory) (length : Nat) (rand : Word) :
    history.Goes (macReceiveRachResponse history.entity response length rand)
      ↔ history.Answered (.receiveRachResponse response length rand) := by
  constructor
  · intro hgoes hstate hlength hfind
    rw [macReceiveRachResponse_notFound h.active hstate hlength hfind rand] at hgoes
    split at hgoes
    · rename_i hmany
      refine ⟨Bool.eq_false_iff.mpr fun hfollows => ?_, hmany⟩
      have hown := hgoes.2 rfl hfollows
      have htransMax : 2 ≤ history.entity.config.rachConfig.preambleTransMax.toNat := h.transMax
      rw [h.unmatched hfollows] at hown
      exact absurd hown (Nat.not_le.mpr htransMax)
    · have haccepted := hgoes.1 rfl 0 (by decide)
      exact absurd hstate ((macSendRachPreamble_ok_iff (by exact h.active) 0).mp haccepted).2
  · intro hanswered
    constructor
    · intro hretry
      obtain ⟨hstate, hlength, hfind⟩ := macReceiveRachResponse_counted (.inl hretry)
      rw [macReceiveRachResponse_notFound h.active hstate hlength hfind rand,
        if_pos (hanswered hstate hlength hfind).2] at hretry
      cases hretry
    · intro hmax hfollows
      obtain ⟨hstate, hlength, hfind⟩ := macReceiveRachResponse_counted (.inr hmax)
      exact Bool.noConfusion (hfollows.symm.trans (hanswered hstate hlength hfind).1)

theorem Sound.keepsRach_iff (h : history.Sound) (op : MacRachOp) :
    history.KeepsRach op ↔ history.Answered op := by
  cases op with
  | sendRachPreamble preambleIndex => exact begins_iff h.active preambleIndex
  | initiateRandomAccess =>
      rw [KeepsRach, macInitiateRandomAccess_eq h.active]
      exact (begins_iff h.active 1).trans (forall_prop_of_true (by decide))
  | receiveRachResponse response length rand => exact h.goes_iff response length rand

end MacRachHistory

/-- **Procedures are retried, begin anew and fail only after enough responses of their own exactly if no
response is without an answer, up to what the attempts of before leave.** -/
theorem macRach_keepsRach_iff (entity : MacEntity) (hactive : entity.active)
    (htransMax : 2 ≤ entity.config.rachConfig.preambleTransMax) (ops : List MacRachOp) :
    Runs.Always macRachStep MacRachHistory.KeepsRach (.start entity) ops
      ↔ Runs.Always macRachStep MacRachHistory.Answered (.start entity) ops := by
  have hsound : (MacRachHistory.start entity).Sound := ⟨hactive, htransMax, nofun⟩
  exact Runs.always_iff (fun _ op h => h.keepsRach_iff op) (fun _ op h hanswered => h.step op hanswered)
    hsound ops

/-- A preamble, its answer, and the next preamble. -/
theorem macRach_keepsRach_answered :
    Runs.Always macRachStep MacRachHistory.KeepsRach (.start (macActivateEntity (macCreateEntity none)))
      [.sendRachPreamble 1, .receiveRachResponse (ofBytes [0x41, 0, 8, 0, 0, 0x56, 0x78]) 7 0,
        .initiateRandomAccess] := by
  refine (macRach_keepsRach_iff _ rfl (by decide) _).mpr ⟨?_, ?_, ?_, trivial⟩
  · rintro - (hsuccess | hfailed)
    · cases hsuccess
    · cases hfailed
  · intro _ _ hfind
    exact absurd hfind (by decide)
  · exact fun _ => .inl rfl

def macRachUnmatched : MacRachOp := .receiveRachResponse (ofBytes [0x42, 0, 8, 0, 0, 0x56, 0x78]) 7 0

/-- A retry is asked for and refused. And after seven responses without an answer, the next procedure begins
with more power than the initial one, and has failed after one. -/
theorem macRach_not_keepsRach :
    ¬Runs.Always macRachStep MacRachHistory.KeepsRach (.start (macActivateEntity (macCreateEntity none)))
        [.sendRachPreamble 1, macRachUnmatched]
      ∧ let failed := (.sendRachPreamble 1 :: List.replicate 7 macRachUnmatched).foldl macRachStep
          (.start (macActivateEntity (macCreateEntity none)))
        ¬failed.KeepsRach (.sendRachPreamble 1)
          ∧ ¬(macRachStep failed (.sendRachPreamble 1)).KeepsRach macRachUnmatched := by
  refine ⟨fun hkeeps => ?_, fun hkeeps => ?_, fun hkeeps => ?_⟩
  · exact absurd (hkeeps.2.1.1 (by decide) 1 (by decide)) (by decide)
  · exact absurd (hkeeps (by decide) (by decide)) (by decide)
  · exact absurd (hkeeps.2 (by decide) (by decide)) (by decide)

end Uesim
