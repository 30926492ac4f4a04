import Uesim.Utils.RingBuffer

/-!
# Lost wake-ups

A side that finds nothing goes to sleep under its own lock, and the other side moves its index and signals
under another one. So a signal can come when there is nobody asleep yet, and if it is the last one of its call
there is no other.
-/

namespace Uesim

open Bytes

/-- A side that is neither idle nor asleep, nor about to be asleep. -/
def RingBufferStage.busy : RingBufferStage → Bool
  | .idle => false
  | .wait => false
  | .asleep => false
  | _ => true

namespace RingBufferSystem

def stage (s : RingBufferSystem) (side : RingBufferSide) : RingBufferStage := (s.call side).stage

/-- A side is asleep although there is something for it, and the other side has returned. -/
def LostWakeUp (s : RingBufferSystem) (side : RingBufferSide) : Prop :=
  s.stage side = .asleep ∧ s.room side ≠ 0 ∧ s.stage side.other = .idle

/-- The last signal of a call does not come between the look with which the other side has found nothing and
its sleep, if there is something for it by now. -/
def SignalHeard (s : RingBufferSystem) : RingBufferAction → Prop
  | .step side =>
      s.stage side = .signal → (s.call side).length ≤ (s.call side).done → s.stage side.other = .wait →
        s.room side.other = 0
  | _ => True

/-- Whoever sleeps, or is about to, has nothing to wait for, or the other side is in a call. -/
def Awaited (s : RingBufferSystem) : Prop :=
  ∀ side, s.stage side = .wait ∨ s.stage side = .asleep → s.room side ≠ 0 → s.stage side.other ≠ .idle

/-! ### What a step changes -/

section Step

variable (s : RingBufferSystem) (side : RingBufferSide)

theorem stage_setStage_self (stage : RingBufferStage) : (s.setStage side stage).stage side = stage := by
  cases side <;> rfl

theorem call_setCall_other (call : RingBufferCall) :
    (s.setCall side call).call side.other = s.call side.other := by
  cases side <;> rfl

theorem call_setLock_other (locked : Bool) :
    (s.setLock side locked).call side.other = s.call side.other := by
  cases side <;> rfl

theorem call_copy_other : (s.copy side).call side.other = s.call side.other := by
  cases side <;> rfl

theorem call_moveIndex_other : (s.moveIndex side).call side.other = s.call side.other := by
  cases side <;> rfl

theorem room_setCall (call : RingBufferCall) (t : RingBufferSide) :
    (s.setCall side call).room t = s.room t := by
  cases side <;> cases t <;> rfl

theorem room_setLock (locked : Bool) (t : RingBufferSide) :
    (s.setLock side locked).room t = s.room t := by
  cases side <;> cases t <;> rfl

theorem room_wake (t : RingBufferSide) : (s.wake side).room t = s.room t := by
  rw [wake]
  split
  · exact s.room_setCall side _ t
  · rfl

theorem stage_wake_self :
    (s.wake side).stage side = if s.stage side = .asleep then .relock else s.stage side := by
  have hwake : s.wake side = if s.stage side = .asleep then s.setStage side .relock else s := rfl
  rw [hwake]
  split
  · exact s.stage_setStage_self side _
  · rfl

/-- What a step that is no signal makes of a state: nothing; or the side goes on with its call; or it is about
to sleep because it has found nothing; or it falls asleep. -/
inductive Moves (s' : RingBufferSystem) : Prop where
  | same (heq : s' = s)
  | goesOn (hother : s'.call side.other = s.call side.other) (hstage : (s'.stage side).busy = true)
  | findsNothing (hother : s'.call side.other = s.call side.other) (hroom : s'.room = s.room)
      (hnothing : s.room side = 0) (hstage : s'.stage side = .wait)
  | sleeps (hother : s'.call side.other = s.call side.other) (hroom : s'.room = s.room)
      (hwait : s.stage side = .wait) (hstage : s'.stage side = .asleep)

variable {s side} in
theorem moves_setCall {s₀ : RingBufferSystem} (hother : s₀.call side.other = s.call side.other)
    {call : RingBufferCall} (hstage : call.stage.busy = true) : s.Moves side (s₀.setCall side call) := by
  refine .goesOn ((s₀.call_setCall_other side call).trans hother) ?_
  cases side <;> exact hstage

theorem step_moves (hsignal : s.stage side ≠ .signal) : s.Moves side (ringBufferStep side s) := by
  have hlock : (s.setLock side true).call side.other = s.call side.other := s.call_setLock_other side true
  have hunlock : (s.setLock side false).call side.other = s.call side.other := s.call_setLock_other side false
  rw [ringBufferStep]
  cases hstage : (s.call side).stage with
  | idle => exact .same rfl
  | lock =>
      dsimp only
      split
      · exact .same rfl
      · exact moves_setCall hlock rfl
  | check =>
      dsimp only
      split
      · rename_i hnothing
        exact .findsNothing (s.call_setCall_other side _) (funext (s.room_setCall side _)) hnothing
          (s.stage_setStage_self side _)
      · exact moves_setCall rfl rfl
  | wait =>
      refine .sleeps ((call_setCall_other _ side _).trans hunlock) ?_ hstage (stage_setStage_self _ side _)
      exact funext fun t => (room_setCall _ side _ t).trans (s.room_setLock side false t)
  | asleep => exact .same rfl
  | relock =>
      dsimp only
      split
      · exact .same rfl
      · exact moves_setCall hlock rfl
  | recheck =>
      dsimp only
      split
      · exact moves_setCall rfl rfl
      · exact moves_setCall rfl rfl
  | retry => exact moves_setCall hunlock rfl
  | copyFirst => exact moves_setCall (s.call_copy_other side) rfl
  | copySecond => exact moves_setCall (s.call_copy_other side) rfl
  | update => exact moves_setCall (s.call_moveIndex_other side) rfl
  | unlock => exact moves_setCall hunlock rfl
  | signal => exact absurd hstage hsignal

/-- A signal wakes the other side, and the side returns unless there is more to do. -/
theorem step_signal (hsignal : s.stage side = .signal) :
    (ringBufferStep side s).room = s.room
      ∧ (ringBufferStep side s).stage side.other
        = (if s.stage side.other = .asleep then .relock else s.stage side.other)
      ∧ (ringBufferStep side s).stage side
        = if (s.call side).done < (s.call side).length then .lock else .idle := by
  have hstep : ringBufferStep side s = (s.wake side.other).setStage side
      (if (s.call side).done < (s.call side).length then .lock else .idle) := by
    rw [stage] at hsignal
    rw [ringBufferStep, hsignal]
  rw [hstep]
  refine ⟨funext fun t => (room_setCall _ side _ t).trans (s.room_wake side.other t), ?_,
    stage_setStage_self _ side _⟩
  exact (congrArg RingBufferCall.stage (call_setCall_other _ side _)).trans (s.stage_wake_self side.other)

end Step

/-! ### Whoever sleeps is awaited -/

section Awaited

variable {s : RingBufferSystem}

theorem forall_side_iff (side : RingBufferSide) {P : RingBufferSide → Prop} :
    (∀ t, P t) ↔ P side ∧ P side.other := by
  refine ⟨fun h => ⟨h side, h side.other⟩, fun h t => ?_⟩
  cases side <;> cases t
  · exact h.1
  · exact h.2
  · exact h.2
  · exact h.1

theorem other_other (side : RingBufferSide) : side.other.other = side := by
  cases side <;> rfl

theorem awaited_of_busy {side : RingBufferSide} (hbusy : (s.stage side).busy = true) : s.Awaited := by
  rw [Awaited, forall_side_iff side]
  constructor
  · rintro (hwait | hasleep) - -
    · rw [hwait] at hbusy
      cases hbusy
    · rw [hasleep] at hbusy
      cases hbusy
  · rintro - - hidle
    rw [other_other] at hidle
    rw [hidle] at hbusy
    cases hbusy

theorem awaited_setCall (s : RingBufferSystem) (side : RingBufferSide) {call : RingBufferCall}
    (hbusy : call.stage.busy = true) : (s.setCall side call).Awaited := by
  have hself : ((s.setCall side call).stage side).busy = true := by
    cases side <;> exact hbusy
  exact awaited_of_busy hself

theorem Awaited.not_lostWakeUp_step (h : s.Awaited) (side : RingBufferSide) :
    ∀ t, ¬(ringBufferStep side s).LostWakeUp t := by
  rw [forall_side_iff side]
  by_cases hsignal : s.stage side = .signal
  · obtain ⟨hroom, hother, hself⟩ := s.step_signal side hsignal
    constructor
    · rintro ⟨hasleep, -, -⟩
      rw [hself] at hasleep
      split at hasleep <;> cases hasleep
    · rintro ⟨hasleep, -, -⟩
      rw [hother] at hasleep
      split at hasleep
      · cases hasleep
      · contradiction
  · cases s.step_moves side hsignal with
    | same heq =>
        rw [heq]
        exact ⟨fun hlost => h side (.inr hlost.1) hlost.2.1 hlost.2.2,
          fun hlost => h side.other (.inr hlost.1) hlost.2.1 hlost.2.2⟩
    | goesOn hother hstage =>
        constructor
        · rintro ⟨hasleep, -, -⟩
          rw [hasleep] at hstage
          cases hstage
        · rintro ⟨-, -, hidle⟩
          rw [other_other] at hidle
          rw [hidle] at hstage
          cases hstage
    | findsNothing hother hroom hnothing hstage =>
        constructor
        · rintro ⟨hasleep, -, -⟩
          rw [hstage] at hasleep
          cases hasleep
        · rintro ⟨-, -, hidle⟩
          rw [other_other, hstage] at hidle
          cases hidle
    | sleeps hother hroom hwait hstage =>
        constructor
        · rintro ⟨-, hsome, hidle⟩
          rw [hroom] at hsome
          rw [stage, hother] at hidle
          exact h side (.inl hwait) hsome hidle
        · rintro ⟨-, -, hidle⟩
          rw [other_other, hstage] at hidle
          cases hidle

/-- **A step keeps whoever sleeps awaited unless it is a signal that is not heard.** -/
theorem Awaited.step (h : s.Awaited) {side : RingBufferSide} (hheard : s.SignalHeard (.step side)) :
    (ringBufferStep side s).Awaited := by
  by_cases hsignal : s.stage side = .signal
  · obtain ⟨hroom, hother, hself⟩ := s.step_signal side hsignal
    rw [Awaited, forall_side_iff side]
    constructor
    · rintro (hwait | hasleep) - -
      · rw [hself] at hwait
        split at hwait <;> cases hwait
      · rw [hself] at hasleep
        split at hasleep <;> cases hasleep
    · rintro hsleepy hsome hidle
      rw [other_other, hself] at hidle
      rw [hroom] at hsome
      rw [hother] at hsleepy
      split at hsleepy
      · rcases hsleepy with hwait | hasleep
        · cases hwait
        · cases hasleep
      · rename_i hawake
        have hdone : (s.call side).length ≤ (s.call side).done := by
          by_contra hmore
          rw [if_pos (Nat.not_le.mp hmore)] at hidle
          cases hidle
        exact hsome (hheard hsignal hdone (hsleepy.resolve_right hawake))
  · cases s.step_moves side hsignal with
    | same heq =>
        rw [heq]
        exact h
    | goesOn hother hstage => exact awaited_of_busy hstage
    | findsNothing hother hroom hnothing hstage =>
        rw [Awaited, forall_side_iff side]
        constructor
        · rintro - hsome -
          rw [hroom] at hsome
          exact hsome hnothing
        · rintro - - hidle
          rw [other_other, hstage] at hidle
          cases hidle
    | sleeps hother hroom hwait hstage =>
        rw [Awaited, forall_side_iff side]
        constructor
        · rintro - hsome hidle
          rw [hroom] at hsome
          rw [stage, hother] at hidle
          exact h side (.inl hwait) hsome hidle
        · rintro - - hidle
          rw [other_other, hstage] at hidle
          cases hidle

theorem lostWakeUp_of_not_heard {side : RingBufferSide} (hunheard : ¬s.SignalHeard (.step side)) :
    (ringBufferStep side.other (ringBufferStep side s)).LostWakeUp side.other := by
  rw [SignalHeard] at hunheard
  push Not at hunheard
  obtain ⟨hsignal, hdone, hwait, hsome⟩ := hunheard
  obtain ⟨hroom, hother, hself⟩ := s.step_signal side hsignal
  rw [hwait, if_neg (by decide)] at hother
  rw [if_neg (Nat.not_lt.mpr hdone)] at hself
  generalize ringBufferStep side s = s' at hroom hother hself ⊢
  have hstep : ringBufferStep side.other s' = (s'.setLock side.other false).setStage side.other .asleep := by
    rw [stage] at hother
    rw [ringBufferStep, hother]
  rw [hstep]
  refine ⟨stage_setStage_self _ _ _, ?_, ?_⟩
  · rw [setStage, room_setCall, room_setLock, hroom]
    exact hsome
  · have hcall := (call_setCall_other (s'.setLock side.other false) side.other
      { (s'.setLock side.other false).call side.other with stage := .asleep }).trans
      (s'.call_setLock_other side.other false)
    rw [other_other] at hcall ⊢
    exact (congrArg RingBufferCall.stage hcall).trans hself

theorem Awaited.run (h : s.Awaited) {action : RingBufferAction} (hheard : s.SignalHeard action) :
    (ringBufferRun s action).Awaited := by
  cases action with
  | write data =>
      rw [ringBufferRun]
      split
      · have hstarted : (s.start .writer data.length).Awaited := s.awaited_setCall .writer rfl
        exact hstarted
      · exact h
  | read length =>
      rw [ringBufferRun]
      split
      · exact s.awaited_setCall _ rfl
      · exact h
  | step side => cases side <;> exact h.step hheard
  | wakeUp side =>
      rw [ringBufferRun, wake]
      split
      · exact s.awaited_setCall _ rfl
      · exact h

end Awaited

/-- Nobody has lost a wake-up, nor has anybody after the next step of either side. -/
def NoLostWakeUp (s : RingBufferSystem) : Prop :=
  (∀ side, ¬s.LostWakeUp side) ∧ ∀ next side, ¬(ringBufferStep next s).LostWakeUp side

theorem Awaited.noLostWakeUp {s : RingBufferSystem} (h : s.Awaited) : s.NoLostWakeUp :=
  ⟨fun side hlost => h side (.inr hlost.1) hlost.2.1 hlost.2.2, h.not_lostWakeUp_step⟩

theorem Awaited.noLostWakeUp_run_iff {s : RingBufferSystem} (h : s.Awaited) (action : RingBufferAction) :
    (ringBufferRun s action).NoLostWakeUp ↔ s.SignalHeard action := by
  refine ⟨fun hnone => ?_, fun hheard => (h.run hheard).noLostWakeUp⟩
  cases action with
  | write data => trivial
  | read length => trivial
  | wakeUp side => trivial
  | step side =>
      by_contra hunheard
      cases side <;> exact hnone.2 _ _ (lostWakeUp_of_not_heard hunheard)

end RingBufferSystem

/-- **Nobody loses a wake-up in a run, nor in the step after it, exactly when the last signal of no call comes
between the other side's look and its sleep.** -/
theorem ringBuffer_noLostWakeUp_iff (buffer : BitMemory.Memory) (size : Nat)
    (actions : List RingBufferAction) :
    Runs.Throughout ringBufferRun RingBufferSystem.NoLostWakeUp (.init buffer size) actions
      ↔ Runs.Always ringBufferRun RingBufferSystem.SignalHeard (.init buffer size) actions := by
  have hinit : (RingBufferSystem.init buffer size).Awaited := by
    intro side hsleepy
    cases side <;> rcases hsleepy with hwait | hasleep
    · cases hwait
    · cases hasleep
    · cases hwait
    · cases hasleep
  exact Runs.throughout_iff (fun _ h => h.noLostWakeUp) (fun _ action h => h.noLostWakeUp_run_iff action)
    (fun _ _ h hheard => h.run hheard) hinit actions

/-- The reader looks and finds nothing; the writer writes one byte, signals and returns; the reader falls
asleep. -/
theorem ringBuffer_lostWakeUp :
    ((.read 1 :: .write [1] :: List.replicate 2 (.step .reader) ++ List.replicate 7 (.step .writer)
      ++ [.step .reader] : List RingBufferAction).foldl ringBufferRun (.init BitMemory.zeros 2)).LostWakeUp
        .reader :=
  ⟨rfl, by decide, rfl⟩

end Uesim
