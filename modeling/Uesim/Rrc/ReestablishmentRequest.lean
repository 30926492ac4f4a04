import Uesim.Rrc.SyncIndications

/-!
# The request of a reestablishment

A failure is declared of a UE in CONNECTED, and its recovery begins with a change to CONNECTING. There is no
such transition, so no request is ever sent: whatever is tried ends in CONNECTED or in IDLE.
-/

namespace Uesim

open Bytes

/-- Whether a reestablishment gets as far as its first call of `rrc_send_message`. -/
def rrcHandsRequest (ue : UeContext) (input : RrcProcedureInput) : Bool :=
  ue.currentState ≠ .idle && input.contextAllocated && input.contextInitialized
    && rrcIsValidStateTransition ue.currentState .connecting && input.requestAllocated

/-- The RRC layer of `rrc.c`, with what its procedures meet from outside. -/
def rrcLayer (input : RrcProcedureInput) : RrcLayer :=
  { changeState := rrcChangeState
    executeReestablishment := fun ue => rrcExecuteReestablishment ue input
    hands := fun ue => rrcHandsRequest ue input }

inductive RlfLinkEvent where
  | indication (clock : RlfClock) (indication : SyncIndication)
  | timerCheck (input : RrcProcedureInput) (clock : RlfClock)

def rlfLinkStep (s : RlfUe) : RlfLinkEvent → RlfUe
  | .indication clock indication => (rlfHandleSyncIndication s clock indication).1
  | .timerCheck input clock => (rlfCheckTimers s (rrcLayer input) clock).1

def rlfLinkRun (s : RlfUe) (events : List RlfLinkEvent) : RlfUe := events.foldl rlfLinkStep s

/-! ### What a reestablishment does -/

theorem rrcExecuteReestablishment_of_hands {ue : UeContext} {input : RrcProcedureInput}
    (h : rrcHandsRequest ue input = true) :
    rrcExecuteReestablishment ue input
      = let tried := rrcTryAgain .reestablishmentRequest input.attempts rrcN311Max 0
          { ue with currentState := .connecting } (.initial .reestablishment)
        if tried.result = .ok () ∧ tried.ctx.success then (tried.ue, .ok ())
        else
          let cause := if tried.result = .error .timeout then .timeout else .maxRetries
          ((rrcHandleProcedureFailure tried.ue tried.ctx cause).1, tried.result) := by
  simp only [rrcHandsRequest, Bool.and_eq_true, decide_eq_true_eq] at h
  obtain ⟨⟨⟨⟨hstate, hallocated⟩, hinitialized⟩, hvalid⟩, hrequest⟩ := h
  have hstart : rrcStartProcedure .reestablishment input = .ok (.initial .reestablishment) := by
    rw [rrcStartProcedure, if_pos hallocated, if_pos hinitialized]
  have hchange : rrcChangeState ue .connecting = ({ ue with currentState := .connecting }, .ok ()) :=
    if_pos hvalid
  rw [rrcExecuteReestablishment, if_neg hstate, rrcExecuteRequest, hstart, hchange]
  exact if_pos hrequest

theorem rrcExecuteReestablishment_of_not_hands {ue : UeContext} {input : RrcProcedureInput}
    (h : rrcHandsRequest ue input = false) :
    (rrcExecuteReestablishment ue input).1.sent = ue.sent
      ∧ (rrcExecuteReestablishment ue input).2 ≠ .ok () := by
  by_cases hstate : ue.currentState = .idle
  · simp [rrcExecuteReestablishment, hstate]
  · by_cases hallocated : input.contextAllocated = true
    · by_cases hinitialized : input.contextInitialized = true
      · by_cases hvalid : rrcIsValidStateTransition ue.currentState .connecting = true
        · have hrequest : ¬input.requestAllocated = true := by
            intro hrequest
            simp [rrcHandsRequest, hstate, hallocated, hinitialized, hvalid, hrequest] at h
          simp [rrcExecuteReestablishment, rrcExecuteRequest, rrcStartProcedure, rrcChangeState,
            RrcAnswer.andThen, hstate, hallocated, hinitialized, hvalid, hrequest]
        · simp [rrcExecuteReestablishment, rrcExecuteRequest, rrcStartProcedure, rrcChangeState,
            RrcAnswer.andThen, hstate, hallocated, hinitialized, hvalid]
      · simp [rrcExecuteReestablishment, rrcExecuteRequest, rrcStartProcedure, hstate, hallocated,
          hinitialized]
    · simp [rrcExecuteReestablishment, rrcExecuteRequest, rrcStartProcedure, hstate, hallocated]

/-- Of the states in which it does not refuse at once, only INACTIVE can move to CONNECTING. -/
theorem rrcChangeState_connecting_iff {ue : UeContext} (h : ue.currentState ≠ .idle) :
    (rrcChangeState ue .connecting).2 = .ok () ↔ ue.currentState = .inactive := by
  unfold rrcChangeState
  cases hstate : ue.currentState with
  | idle => exact absurd hstate h
  | connected => simp [rrcIsValidStateTransition]
  | inactive => simp [rrcIsValidStateTransition]
  | connecting => simp [rrcIsValidStateTransition]

/-! ### UEs that cannot ask -/

/-- No request was handed over, and the UE is where none can be. -/
structure RlfUe.Unheard (s : RlfUe) : Prop where
  handed : s.handed = false
  currentState : s.ue.currentState = .connected ∨ s.ue.currentState = .idle

section Unheard

variable {s : RlfUe} (input : RrcProcedureInput) (clock : RlfClock)

theorem RlfUe.Unheard.of_same {s s' : RlfUe} (h : s.Unheard) (hue : s'.ue = s.ue)
    (hhanded : s'.handed = s.handed) : s'.Unheard :=
  ⟨hhanded.trans h.handed, by rw [hue]; exact h.currentState⟩

theorem RlfUe.Unheard.not_hands (h : s.Unheard) : rrcHandsRequest s.ue input = false := by
  rcases h.currentState with hstate | hstate <;> simp [rrcHandsRequest, hstate, rrcIsValidStateTransition]

theorem RlfUe.Unheard.executeReestablishment (h : s.Unheard) :
    (rrcExecuteReestablishment s.ue input).1 = s.ue := by
  rcases h.currentState with hstate | hstate
  · have hchange : rrcChangeState s.ue .connecting = (s.ue, .error .protocol) := by
      simp [rrcChangeState, hstate, rrcIsValidStateTransition]
    have hother : s.ue.currentState ≠ .idle := by
      rw [hstate]
      decide
    rw [rrcExecuteReestablishment, if_neg hother, rrcExecuteRequest, hchange]
    split
    · rfl
    · rfl
  · rw [rrcExecuteReestablishment, if_pos hstate]

theorem RlfUe.Unheard.goToIdle (h : s.Unheard) : (rlfGoToIdle s (rrcLayer input)).1.Unheard := by
  rw [rlfGoToIdle_eq]
  rcases h.currentState with hstate | hstate
  · have hchange : (rrcLayer input).changeState s.ue .idle
        = ({ s.ue with currentState := .idle }, .ok ()) := by
      simp [rrcLayer, rrcChangeState, hstate, rrcIsValidStateTransition]
    rw [hchange]
    exact ⟨h.handed, Or.inr rfl⟩
  · have hchange : (rrcLayer input).changeState s.ue .idle = (s.ue, .error .protocol) := by
      simp [rrcLayer, rrcChangeState, hstate, rrcIsValidStateTransition]
    rw [hchange]
    exact h

theorem RlfUe.Unheard.abortRecovery (h : s.Unheard) (result : RlfReestResult) :
    (rlfAbortRecovery s (rrcLayer input) result).1.Unheard := by
  cases hlocked : s.locked with
  | true =>
      rw [rlfAbortRecovery_locked hlocked]
      exact h
  | false =>
      rw [rlfAbortRecovery_eq hlocked]
      have haborted : { s with ctx := s.ctx.abort result }.Unheard := h.of_same rfl rfl
      exact haborted.goToIdle input

theorem RlfUe.Unheard.startReestablishment (h : s.Unheard) :
    (rlfStartReestablishment s (rrcLayer input) clock).1.Unheard := by
  cases hlocked : s.locked with
  | true =>
      rw [rlfStartReestablishment_locked hlocked]
      exact h
  | false =>
      rw [rlfStartReestablishment_eq hlocked]
      refine h.of_same (h.executeReestablishment input) ?_
      change (s.handed || rrcHandsRequest s.ue input) = s.handed
      rw [h.not_hands input, Bool.or_false]

theorem RlfUe.Unheard.declareFailure (h : s.Unheard) :
    (rlfDeclareFailure s (rrcLayer input) clock).1.Unheard := by
  cases hlocked : s.locked with
  | true =>
      rw [rlfDeclareFailure_locked hlocked]
      exact h
  | false =>
      rw [rlfDeclareFailure_eq hlocked]
      exact RlfUe.Unheard.startReestablishment input clock (h.of_same rfl rfl)

theorem RlfUe.Unheard.handleExpiry (h : s.Unheard) (handler : Option RlfTimer) :
    (rlfHandleExpiry s (rrcLayer input) clock handler).1.Unheard := by
  cases handler with
  | none => exact h
  | some timer =>
      cases timer with
      | t310 => exact h.declareFailure input clock
      | t311 => exact h.abortRecovery input .t311Expiry
      | t301 =>
          change (rlfHandleT301Expiry s (rrcLayer input) clock).1.Unheard
          unfold rlfHandleT301Expiry
          split
          · exact h.startReestablishment input clock
          · exact h.abortRecovery input .t301Expiry

theorem RlfUe.Unheard.checkTimers (h : s.Unheard) :
    (rlfCheckTimers s (rrcLayer input) clock).1.Unheard := by
  unfold rlfCheckTimers
  split
  · exact h
  · split
    · exact h
    · rename_i timer _
      have hstopped : { s with ctx := s.ctx.stop timer }.Unheard := h.of_same rfl rfl
      exact hstopped.handleExpiry input clock _

theorem RlfUe.Unheard.syncIndication (h : s.Unheard) (indication : SyncIndication) :
    (rlfHandleSyncIndication s clock indication).1.Unheard := by
  unfold rlfHandleSyncIndication
  split
  · exact h
  · rename_i hfree
    rw [Bool.not_eq_true] at hfree
    cases indication with
    | outOfSync =>
        dsimp only
        rw [rlfHandleOutOfSync_eq hfree]
        refine h.of_same ?_ ?_ <;> split_ifs <;> rfl
    | inSync =>
        dsimp only
        rw [rlfHandleInSync_eq]
        refine h.of_same ?_ ?_ <;> split_ifs <;> rfl

end Unheard

theorem RlfUe.Unheard.step {s : RlfUe} (h : s.Unheard) (event : RlfLinkEvent) :
    (rlfLinkStep s event).Unheard := by
  cases event with
  | indication clock indication => exact h.syncIndication clock indication
  | timerCheck input clock => exact h.checkTimers input clock

theorem RlfUe.Unheard.run {s : RlfUe} (h : s.Unheard) (events : List RlfLinkEvent) :
    (rlfLinkRun s events).Unheard :=
  List.foldlRecOn events rlfLinkStep h fun _ hstate event _ => hstate.step event

/-- **No failure of a UE in CONNECTED is followed by a request**, whatever indications and checks of the
timers come, and of the states in which a reestablishment is not refused only INACTIVE can move on. -/
theorem rlfLinkRun_not_handed {s : RlfUe} (hconnected : s.ue.currentState = .connected)
    (hhanded : s.handed = false) (events : List RlfLinkEvent) :
    (rlfLinkRun s events).handed = false
      ∧ ∀ ue : UeContext, ue.currentState ≠ .idle →
          ((rrcChangeState ue .connecting).2 = .ok () ↔ ue.currentState = .inactive) := by
  have hunheard : s.Unheard := ⟨hhanded, Or.inl hconnected⟩
  exact ⟨(hunheard.run events).handed, fun ue h => rrcChangeState_connecting_iff h⟩

/-- Procedures that get all the memory they want, and whose sends succeed. -/
def rrcLuckyInput : RrcProcedureInput :=
  { contextAllocated := true
    contextInitialized := true
    requestAllocated := true
    attempts := fun _ => { send := none, wait := { events := [], ending := .timedOut } } }

/-- An indication out of sync starts T310, which expires a second later. -/
def rlfExpiry : List RlfLinkEvent :=
  [.indication rlfNoon .outOfSync, .timerCheck rrcLuckyInput { rlfNoon with check := 1000 }]

theorem rlfExpiry_not_handed :
    (rlfLinkRun (rlfTwoUe 1 2) rlfExpiry).handed = false
      ∧ ∀ ue : UeContext, ue.currentState ≠ .idle →
          ((rrcChangeState ue .connecting).2 = .ok () ↔ ue.currentState = .inactive) :=
  rlfLinkRun_not_handed rfl rfl rlfExpiry

/-- A failure is declared, and no request is handed over. -/
theorem rlfExpiry_declared_not_handed :
    ¬((rlfLinkRun (rlfTwoUe 1 2) rlfExpiry).declared = true →
      (rlfLinkRun (rlfTwoUe 1 2) rlfExpiry).handed = true) := by
  intro h
  exact Bool.false_ne_true (h rfl)

end Uesim
