import Uesim.Library.Runs
import Uesim.Rrc.Procedures

/-!
# The state in which a procedure leaves the UE

A registration takes the UE to CONNECTING, and from there only the messages that come in or the fallback to
IDLE take it on. The fallback comes for every failure but a timeout. So what counts is how the last attempt
ends, and if it times out, which message came last.
-/

namespace Uesim

/-! ### One message -/

/-- The state to which the handling of a message leads, if it leads to one. -/
def RrcIncomingMessage.target (response : RrcIncomingMessage) (outcome : RrcOutcome) : Option RrcState :=
  match response.messageType with
  | .setup =>
      if response.data.isSome ∧ outcome.allocated ∧ outcome.sent.isNone then some .connected else none
  | .reestablishment => if response.data.isSome ∧ outcome.sent.isNone then some .connected else none
  | .connectionRelease => some .idle
  | _ => none

theorem currentState_rrcSendMessage (ue : UeContext) (message : RrcMessageType)
    (sent : Option RrcSendError) : (rrcSendMessage ue message sent).1.currentState = ue.currentState := by
  cases sent <;> rfl

theorem currentState_uesimConnectGnb (ue : UeContext) (gnb : Nat) (connected : Except UesimError Unit) :
    (uesimConnectGnb ue gnb connected).1.currentState = ue.currentState := by
  unfold uesimConnectGnb
  split
  · rfl
  · cases connected <;> rfl

theorem currentState_uesimSwitchServingGnb (ue : UeContext) (newGnb : Nat) :
    (uesimSwitchServingGnb ue newGnb).1.currentState = ue.currentState := by
  unfold uesimSwitchServingGnb
  split
  · rfl
  · cases ue.servingGnb with
    | none => rfl
    | some old =>
        dsimp only
        split <;> rfl

theorem currentState_uesimDisconnectServing (ue : UeContext) :
    (uesimDisconnectServing ue).currentState = ue.currentState := by
  unfold uesimDisconnectServing
  split <;> rfl

theorem RrcAnswer.currentState_andThen {answer : RrcAnswer} {next : UeContext → RrcAnswer}
    (h : ∀ ue, (next ue).1.currentState = ue.currentState) :
    (answer.andThen next).1.currentState = answer.1.currentState := by
  unfold RrcAnswer.andThen
  split
  · rfl
  · exact h answer.1

/-- The UE gets to CONNECTED and to IDLE from wherever it is, if it is not there already. -/
theorem currentState_rrcChangeState (ue : UeContext) {state : RrcState}
    (hstate : state = .connected ∨ state = .idle) : (rrcChangeState ue state).1.currentState = state := by
  unfold rrcChangeState
  split
  · rfl
  · rename_i hinvalid
    rcases hstate with rfl | rfl <;> cases hcurrent : ue.currentState <;>
      simp [rrcIsValidStateTransition, hcurrent] at hinvalid ⊢

theorem currentState_send_change (ue : UeContext) (message : RrcMessageType) (sent : Option RrcSendError) :
    ((rrcSendMessage ue message sent).andThen fun ue => rrcChangeState ue .connected).1.currentState
      = if sent.isNone then .connected else ue.currentState := by
  cases sent with
  | none => exact currentState_rrcChangeState _ (Or.inl rfl)
  | some failure => rfl

theorem currentState_rrcHandleHandoverCommand (ue : UeContext) (response : RrcIncomingMessage)
    (outcome : RrcOutcome) :
    (rrcHandleHandoverCommand ue response outcome).1.currentState = ue.currentState := by
  unfold rrcHandleHandoverCommand
  split
  · rfl
  dsimp only
  split
  · rfl
  rename_i target _
  refine (RrcAnswer.currentState_andThen fun ue => ?_).trans (currentState_uesimConnectGnb ue target _)
  refine (RrcAnswer.currentState_andThen fun ue => ?_).trans (currentState_rrcSendMessage ue _ _)
  exact currentState_uesimSwitchServingGnb ue target

theorem currentState_rrcHandleSetupResponse (ue : UeContext) (response : RrcIncomingMessage)
    (outcome : RrcOutcome) :
    (rrcHandleSetupResponse ue response outcome).1.currentState
      = if response.data.isSome ∧ outcome.allocated ∧ outcome.sent.isNone then .connected
        else ue.currentState := by
  unfold rrcHandleSetupResponse rrcSendSetupComplete
  cases response.data with
  | none => rfl
  | some data =>
      cases outcome.allocated with
      | false => rfl
      | true => simpa using currentState_send_change ue .setupComplete outcome.sent

theorem currentState_rrcHandleReestablishmentResponse (ue : UeContext) (response : RrcIncomingMessage)
    (outcome : RrcOutcome) :
    (rrcHandleReestablishmentResponse ue response outcome).1.currentState
      = if response.data.isSome ∧ outcome.sent.isNone then .connected else ue.currentState := by
  unfold rrcHandleReestablishmentResponse rrcSendReestComplete
  cases response.data with
  | none => rfl
  | some data => simpa using currentState_send_change ue .reestablishmentComplete outcome.sent

theorem currentState_rrcHandleReconfigurationResponse (ue : UeContext) (response : RrcIncomingMessage)
    (outcome : RrcOutcome) :
    (rrcHandleReconfigurationResponse ue response outcome).1.currentState = ue.currentState := by
  unfold rrcHandleReconfigurationResponse rrcSendReconfigComplete
  split
  · rfl
  · exact currentState_rrcSendMessage ue _ _

theorem currentState_rrcHandleCapabilityEnquiry (ue : UeContext) (outcome : RrcOutcome) :
    (rrcHandleCapabilityEnquiry ue outcome).1.currentState = ue.currentState := by
  unfold rrcHandleCapabilityEnquiry rrcSendCapabilityInfo
  split
  · exact currentState_rrcSendMessage ue _ _
  · rfl

theorem currentState_rrcHandleConnectionRelease (ue : UeContext) :
    (rrcHandleConnectionRelease ue).1.currentState = .idle := by
  have hidle : (rrcChangeState ue .idle).1.currentState = .idle :=
    currentState_rrcChangeState ue (Or.inr rfl)
  rw [← hidle]
  exact RrcAnswer.currentState_andThen currentState_uesimDisconnectServing

/-- **What a message does to the state**: it leads to one, or leaves the state as it is. -/
theorem currentState_rrcHandleProcedureResponse (ue : UeContext) (response : RrcIncomingMessage)
    (outcome : RrcOutcome) :
    (rrcHandleProcedureResponse ue response outcome).1.currentState
      = (response.target outcome).getD ue.currentState := by
  have hgetD (p : Prop) [Decidable p] (state : RrcState) :
      (if p then some state else none).getD ue.currentState = if p then state else ue.currentState := by
    split <;> rfl
  unfold rrcHandleProcedureResponse RrcIncomingMessage.target
  cases response.messageType with
  | setup => exact (currentState_rrcHandleSetupResponse ue response outcome).trans (hgetD _ _).symm
  | reestablishment =>
      exact (currentState_rrcHandleReestablishmentResponse ue response outcome).trans (hgetD _ _).symm
  | reconfiguration => exact currentState_rrcHandleReconfigurationResponse ue response outcome
  | handoverCommand => exact currentState_rrcHandleHandoverCommand ue response outcome
  | ueCapabilityEnquiry => exact currentState_rrcHandleCapabilityEnquiry ue outcome
  | connectionRelease => exact currentState_rrcHandleConnectionRelease ue
  | _ => rfl

/-! ### A wait -/

namespace RrcWaitEvent

def target : RrcWaitEvent → Option RrcState
  | message response outcome => response.target outcome
  | abort => none
  | wake => none

def isAbort : RrcWaitEvent → Bool
  | message _ _ => false
  | abort => true
  | wake => false

end RrcWaitEvent

/-- The state to which the last message led that led to one. -/
def rrcLastTarget (events : List RrcWaitEvent) : Option RrcState :=
  (events.filterMap RrcWaitEvent.target).getLast?

def rrcAborts (events : List RrcWaitEvent) : Bool := events.any RrcWaitEvent.isAbort

def rrcWakesCompleted : Bool → List RrcWaitEvent → Bool
  | _, [] => false
  | completed, .message _ _ :: events => rrcWakesCompleted completed events
  | _, .abort :: events => rrcWakesCompleted true events
  | completed, .wake :: events => completed || rrcWakesCompleted completed events

def RrcWaitEnding.result : RrcWaitEnding → Except UesimError Unit
  | timedOut => .error .timeout
  | failed => .error .thread

theorem rrcLastTarget_append (events more : List RrcWaitEvent) (state : RrcState) :
    (rrcLastTarget (events ++ more)).getD state
      = (rrcLastTarget more).getD ((rrcLastTarget events).getD state) := by
  unfold rrcLastTarget
  rw [List.filterMap_append, List.getLast?_append]
  cases (more.filterMap RrcWaitEvent.target).getLast? <;> rfl

theorem rrcLastTarget_cons (event : RrcWaitEvent) (events : List RrcWaitEvent) (state : RrcState) :
    (rrcLastTarget (event :: events)).getD state
      = (rrcLastTarget events).getD (event.target.getD state) := by
  have hone : rrcLastTarget [event] = event.target := by
    unfold rrcLastTarget
    cases h : event.target <;> simp [h]
  rw [← hone, ← rrcLastTarget_append, List.singleton_append]

section Wait

variable (ending : RrcWaitEnding) (ue : UeContext) (ctx : RrcProcedureContext)

theorem success_rrcWaitLoop (events : List RrcWaitEvent) :
    (rrcWaitLoop ending ue ctx events).ctx.success = ctx.success := by
  induction events generalizing ue ctx with
  | nil => cases ending <;> rfl
  | cons event events ih =>
      cases event with
      | message response outcome => exact ih _ ctx
      | abort => exact ih ue (rrcAbortProcedure ctx)
      | wake =>
          rw [rrcWaitLoop]
          split
          · rfl
          · exact ih ue ctx

theorem completed_rrcWaitLoop (events : List RrcWaitEvent) :
    (rrcWaitLoop ending ue ctx events).ctx.completed = (ctx.completed || rrcAborts events) := by
  induction events generalizing ue ctx with
  | nil => cases ending <;> exact (Bool.or_false _).symm
  | cons event events ih =>
      cases event with
      | message response outcome => exact ih _ ctx
      | abort => exact (ih ue (rrcAbortProcedure ctx)).trans (Bool.or_true _).symm
      | wake =>
          rw [rrcWaitLoop]
          split
          · rename_i hcompleted
            rw [hcompleted, Bool.true_or]
          · exact ih ue ctx

theorem result_rrcWaitLoop (events : List RrcWaitEvent) :
    (rrcWaitLoop ending ue ctx events).result
      = if rrcWakesCompleted ctx.completed events then .ok () else ending.result := by
  induction events generalizing ue ctx with
  | nil => cases ending <;> rfl
  | cons event events ih =>
      cases event with
      | message response outcome => exact ih _ ctx
      | abort => exact ih ue (rrcAbortProcedure ctx)
      | wake =>
          rw [rrcWaitLoop, rrcWakesCompleted]
          split
          · rename_i hcompleted
            rw [hcompleted, Bool.true_or, if_pos rfl]
          · rename_i hcompleted
            rw [ih ue ctx, Bool.eq_false_iff.mpr hcompleted, Bool.false_or]

theorem currentState_rrcWaitLoop {events : List RrcWaitEvent}
    (h : rrcWakesCompleted ctx.completed events = false) :
    (rrcWaitLoop ending ue ctx events).ue.currentState
      = (rrcLastTarget events).getD ue.currentState := by
  induction events generalizing ue ctx with
  | nil => cases ending <;> rfl
  | cons event events ih =>
      rw [rrcLastTarget_cons]
      cases event with
      | message response outcome =>
          rw [rrcWaitLoop, ih _ ctx h, currentState_rrcHandleProcedureResponse]
          rfl
      | abort => exact ih ue (rrcAbortProcedure ctx) h
      | wake =>
          rw [rrcWakesCompleted, Bool.or_eq_false_iff] at h
          rw [rrcWaitLoop, if_neg (Bool.eq_false_iff.mp h.1)]
          exact ih ue ctx h.2

end Wait

/-! ### The attempts of a procedure -/

/-- What goes on in an attempt. There is no wait if the request is not sent. -/
def RrcAttempt.events (attempt : RrcAttempt) : List RrcWaitEvent :=
  if attempt.send = none then attempt.wait.events else []

def rrcEvents (attempts : Nat → RrcAttempt) (count : Nat) : List RrcWaitEvent :=
  (List.range count).flatMap fun retry => (attempts retry).events

theorem rrcEvents_succ (attempts : Nat → RrcAttempt) (count : Nat) :
    rrcEvents attempts (count + 1) = rrcEvents attempts count ++ (attempts count).events := by
  rw [rrcEvents, List.range_succ, List.flatMap_append, List.flatMap_singleton, rrcEvents]

theorem rrcAborts_append (events more : List RrcWaitEvent) :
    rrcAborts (events ++ more) = (rrcAborts events || rrcAborts more) := List.any_append

def rrcTries (request : RrcMessageType) (attempts : Nat → RrcAttempt) (ue : UeContext)
    (ctx : RrcProcedureContext) : Nat → RrcProgress
  | 0 => ⟨ue, ctx, .error .protocol⟩
  | count + 1 =>
      let before := rrcTries request attempts ue ctx count
      rrcTry request (attempts count) count before.ue before.ctx

section Attempts

variable (request : RrcMessageType) (attempt : RrcAttempt) (retry : Nat) (ue : UeContext)
  (ctx : RrcProcedureContext)

theorem rrcTry_of_send_error {failure : RrcSendError} (h : attempt.send = some failure) :
    rrcTry request attempt retry ue ctx
      = ⟨ue, { ctx with retryCount := retry }, .error failure.error⟩ := by
  rw [rrcTry, h]
  rfl

theorem rrcTry_of_sent (h : attempt.send = none) :
    rrcTry request attempt retry ue ctx
      = rrcWaitProcedureComplete { ue with sent := ue.sent ++ [request] } { ctx with retryCount := retry }
          attempt.wait := by
  rw [rrcTry, h]
  rfl

/-- What no wait changes in the context, no attempt changes, but for its number. -/
theorem rrcTry_ctx_congr {α : Type} {field : RrcProcedureContext → α}
    (hwait : ∀ ending ue ctx events, field (rrcWaitLoop ending ue ctx events).ctx = field ctx) :
    field (rrcTry request attempt retry ue ctx).ctx = field { ctx with retryCount := retry } := by
  cases hsend : attempt.send with
  | some failure => rw [rrcTry_of_send_error request attempt retry ue ctx hsend]
  | none =>
      rw [rrcTry_of_sent request attempt retry ue ctx hsend, rrcWaitProcedureComplete]
      split
      · rfl
      · exact hwait _ _ _ _

theorem success_rrcTry : (rrcTry request attempt retry ue ctx).ctx.success = ctx.success :=
  rrcTry_ctx_congr request attempt retry ue ctx success_rrcWaitLoop

theorem completed_rrcTry :
    (rrcTry request attempt retry ue ctx).ctx.completed = (ctx.completed || rrcAborts attempt.events) := by
  cases hsend : attempt.send with
  | some failure =>
      rw [rrcTry_of_send_error request attempt retry ue ctx hsend, RrcAttempt.events, hsend]
      exact (Bool.or_false _).symm
  | none =>
      rw [rrcTry_of_sent request attempt retry ue ctx hsend, rrcWaitProcedureComplete, RrcAttempt.events,
        if_pos hsend]
      split
      · rename_i hcompleted
        exact (congrArg (· || rrcAborts attempt.wait.events) hcompleted).symm ▸ hcompleted
      · exact completed_rrcWaitLoop _ _ _ _

theorem result_rrcTry_of_sent (h : attempt.send = none) :
    (rrcTry request attempt retry ue ctx).result
      = if ctx.completed ∨ rrcWakesCompleted false attempt.wait.events then .ok ()
        else attempt.wait.ending.result := by
  rw [rrcTry_of_sent request attempt retry ue ctx h, rrcWaitProcedureComplete]
  cases hcompleted : ctx.completed with
  | true => rfl
  | false =>
      rw [if_neg Bool.false_ne_true, result_rrcWaitLoop]
      simp

theorem currentState_rrcTry (h : ctx.completed = false)
    (hwakes : attempt.send = none → rrcWakesCompleted false attempt.wait.events = false) :
    (rrcTry request attempt retry ue ctx).ue.currentState
      = (rrcLastTarget attempt.events).getD ue.currentState := by
  cases hsend : attempt.send with
  | some failure =>
      rw [rrcTry_of_send_error request attempt retry ue ctx hsend, RrcAttempt.events, hsend]
      rfl
  | none =>
      rw [rrcTry_of_sent request attempt retry ue ctx hsend, rrcWaitProcedureComplete, RrcAttempt.events,
        if_pos hsend, if_neg (Bool.eq_false_iff.mp h)]
      apply currentState_rrcWaitLoop
      exact (congrArg (rrcWakesCompleted · _) h).trans (hwakes hsend)

theorem rrcWakesCompleted_of_not_aborts {events : List RrcWaitEvent} (h : rrcAborts events = false) :
    rrcWakesCompleted false events = false := by
  induction events with
  | nil => rfl
  | cons event events ih =>
      cases event with
      | message response outcome => exact ih h
      | abort => cases h
      | wake => exact ih h

variable (attempts : Nat → RrcAttempt)

theorem success_rrcTries (count : Nat) :
    (rrcTries request attempts ue ctx count).ctx.success = ctx.success := by
  induction count with
  | zero => rfl
  | succ count ih => exact (success_rrcTry _ _ _ _ _).trans ih

theorem completed_rrcTries (h : ctx.completed = false) (count : Nat) :
    (rrcTries request attempts ue ctx count).ctx.completed = rrcAborts (rrcEvents attempts count) := by
  induction count with
  | zero => exact h
  | succ count ih =>
      rw [rrcEvents_succ, rrcAborts_append, ← ih]
      exact completed_rrcTry _ _ _ _ _

theorem currentState_rrcTries (h : ctx.completed = false) {count : Nat}
    (haborts : rrcAborts (rrcEvents attempts count) = false) :
    (rrcTries request attempts ue ctx count).ue.currentState
      = (rrcLastTarget (rrcEvents attempts count)).getD ue.currentState := by
  induction count with
  | zero => rfl
  | succ count ih =>
      rw [rrcEvents_succ, rrcAborts_append, Bool.or_eq_false_iff] at haborts
      rw [rrcEvents_succ, rrcLastTarget_append, ← ih haborts.1]
      apply currentState_rrcTry
      · exact (completed_rrcTries request ue ctx attempts h count).trans haborts.1
      · intro hsend
        have hevents := haborts.2
        rw [RrcAttempt.events, if_pos hsend] at hevents
        exact rrcWakesCompleted_of_not_aborts hevents

theorem rrcTryAgain_eq_rrcTries (h : ctx.success = false) (left retry : Nat) :
    rrcTryAgain request attempts left retry (rrcTries request attempts ue ctx retry).ue
        (rrcTries request attempts ue ctx retry).ctx
      = rrcTries request attempts ue ctx (retry + left + 1) := by
  induction left generalizing retry with
  | zero => rfl
  | succ left ih =>
      have hfailed : (rrcTries request attempts ue ctx (retry + 1)).ctx.success = false :=
        (success_rrcTries request ue ctx attempts (retry + 1)).trans h
      rw [rrcTryAgain]
      calc
        _ = rrcTryAgain request attempts left (retry + 1) (rrcTries request attempts ue ctx (retry + 1)).ue
              (rrcTries request attempts ue ctx (retry + 1)).ctx :=
          if_neg fun hdone => Bool.false_ne_true (hfailed.symm.trans hdone.2)
        _ = rrcTries request attempts ue ctx (retry + 1 + left + 1) := ih (retry + 1)
        _ = rrcTries request attempts ue ctx (retry + (left + 1) + 1) := by
          rw [Nat.add_right_comm retry 1 left, Nat.add_assoc retry left 1]

end Attempts

/-! ### A procedure -/

namespace RrcProcedureInput

variable (input : RrcProcedureInput) (retries : Nat)

/-- There is memory for the context of the procedure, and its mutex can be had. -/
def Starts : Prop := input.contextAllocated ∧ input.contextInitialized

/-- The last request is sent, and the procedure was aborted before its wait or wakes up aborted in it. -/
def Aborted : Prop :=
  (input.attempts retries).send = none
    ∧ (rrcAborts (rrcEvents input.attempts retries)
      ∨ rrcWakesCompleted false (input.attempts retries).wait.events)

/-- The last request is sent, and its wait goes on until the time is over. -/
def TimesOut : Prop :=
  (input.attempts retries).send = none ∧ ¬input.Aborted retries
    ∧ (input.attempts retries).wait.ending = .timedOut

instance : Decidable (input.Aborted retries) := inferInstanceAs (Decidable (_ ∧ _))

instance : Decidable (input.TimesOut retries) := inferInstanceAs (Decidable (_ ∧ _))

/-- If the last wait is over without an answer, the last message that led anywhere led to IDLE. -/
def LeftIdle : Prop :=
  input.TimesOut retries → rrcLastTarget (rrcEvents input.attempts (retries + 1)) = some .idle

end RrcProcedureInput

section Procedure

variable (request : RrcMessageType) (ue : UeContext) {ctx : RrcProcedureContext}
  (input : RrcProcedureInput) (retries : Nat)

theorem result_rrcTries_of_send_error (ctx : RrcProcedureContext) {failure : RrcSendError}
    (hsend : (input.attempts retries).send = some failure) :
    (rrcTries request input.attempts ue ctx (retries + 1)).result = .error failure.error :=
  congrArg RrcProgress.result (rrcTry_of_send_error request (input.attempts retries) retries _ _ hsend)

theorem result_rrcTries_of_sent (hcompleted : ctx.completed = false)
    (hsend : (input.attempts retries).send = none) :
    (rrcTries request input.attempts ue ctx (retries + 1)).result
      = if rrcAborts (rrcEvents input.attempts retries)
            ∨ rrcWakesCompleted false (input.attempts retries).wait.events then .ok ()
        else (input.attempts retries).wait.ending.result := by
  have hbefore := completed_rrcTries request ue ctx input.attempts hcompleted retries
  rw [← hbefore]
  exact result_rrcTry_of_sent _ _ _ _ _ hsend

theorem rrcTries_eq_ok_iff (hcompleted : ctx.completed = false) :
    (rrcTries request input.attempts ue ctx (retries + 1)).result = .ok () ↔ input.Aborted retries := by
  cases hsend : (input.attempts retries).send with
  | some failure =>
      have hresult := result_rrcTries_of_send_error request ue input retries ctx hsend
      refine iff_of_false (fun hok => ?_) fun haborted => ?_
      · cases hresult.symm.trans hok
      · cases hsend.symm.trans haborted.1
  | none =>
      rw [result_rrcTries_of_sent request ue input retries hcompleted hsend]
      split
      · rename_i hwoken
        exact iff_of_true rfl ⟨hsend, hwoken⟩
      · rename_i hwoken
        refine iff_of_false ?_ fun haborted => hwoken haborted.2
        cases (input.attempts retries).wait.ending <;> exact fun h => by cases h

theorem rrcTries_eq_timeout_iff (hcompleted : ctx.completed = false) :
    (rrcTries request input.attempts ue ctx (retries + 1)).result = .error .timeout
      ↔ input.TimesOut retries := by
  cases hsend : (input.attempts retries).send with
  | some failure =>
      have hresult := result_rrcTries_of_send_error request ue input retries ctx hsend
      refine iff_of_false (fun htimeout => ?_) fun htimesOut => ?_
      · exact failure.ne_timeout (Except.error.inj (hresult.symm.trans htimeout))
      · cases hsend.symm.trans htimesOut.1
  | none =>
      rw [result_rrcTries_of_sent request ue input retries hcompleted hsend]
      split
      · rename_i hwoken
        exact iff_of_false (fun h => by cases h) fun htimesOut => htimesOut.2.1 ⟨hsend, hwoken⟩
      · rename_i hwoken
        have hnot : ¬input.Aborted retries := fun haborted => hwoken haborted.2
        cases hending : (input.attempts retries).wait.ending with
        | timedOut => exact iff_of_true rfl ⟨hsend, hnot, hending⟩
        | failed =>
            refine iff_of_false (fun h => by cases h) fun htimesOut => ?_
            cases hending.symm.trans htimesOut.2.2

theorem currentState_rrcTries_of_timesOut (hcompleted : ctx.completed = false)
    (h : input.TimesOut retries) :
    (rrcTries request input.attempts ue ctx (retries + 1)).ue.currentState
      = (rrcLastTarget (rrcEvents input.attempts (retries + 1))).getD ue.currentState := by
  obtain ⟨hsend, hnot, -⟩ := h
  have hquiet : ¬(rrcAborts (rrcEvents input.attempts retries)
      ∨ rrcWakesCompleted false (input.attempts retries).wait.events) := fun h => hnot ⟨hsend, h⟩
  rw [not_or, Bool.not_eq_true, Bool.not_eq_true] at hquiet
  have hbefore := currentState_rrcTries request ue ctx input.attempts hcompleted hquiet.1
  rw [rrcEvents_succ, rrcLastTarget_append, ← hbefore]
  apply currentState_rrcTry
  · exact (completed_rrcTries request ue ctx input.attempts hcompleted retries).trans hquiet.1
  · exact fun _ => hquiet.2

theorem currentState_rrcHandleProcedureFailure (ctx : RrcProcedureContext) (result : Except UesimError Unit) :
    (rrcHandleProcedureFailure ue ctx
        (if result = .error .timeout then .timeout else .maxRetries)).1.currentState
      = if result = .error .timeout then ue.currentState else .idle := by
  unfold rrcHandleProcedureFailure rrcFallbackToIdle
  by_cases htimeout : result = .error .timeout
  · simp [htimeout]
  · simpa [htimeout] using currentState_rrcChangeState _ (Or.inr rfl)

end Procedure

theorem rrcExecuteRequest_of_starts (procedure : RrcProcedure) (request : RrcMessageType) (retries : Nat)
    (ue : UeContext) (input : RrcProcedureInput)
    (hstate : rrcIsValidStateTransition ue.currentState .connecting = true) (hstarts : input.Starts) :
    rrcExecuteRequest procedure request retries ue input
      = if input.requestAllocated then
          let tried := rrcTries request input.attempts { ue with currentState := .connecting }
            (.initial procedure) (retries + 1)
          ((rrcHandleProcedureFailure tried.ue tried.ctx
              (if tried.result = .error .timeout then .timeout else .maxRetries)).1, tried.result)
        else ({ ue with currentState := .connecting }, .error .memory) := by
  have hstart : rrcStartProcedure procedure input = .ok (.initial procedure) := by
    rw [rrcStartProcedure, if_pos hstarts.1, if_pos hstarts.2]
  have hchange : rrcChangeState ue .connecting = ({ ue with currentState := .connecting }, .ok ()) := by
    rw [rrcChangeState, if_pos hstate]
  have htries : rrcTryAgain request input.attempts retries 0 { ue with currentState := .connecting }
      (.initial procedure) = rrcTries request input.attempts { ue with currentState := .connecting }
        (.initial procedure) (retries + 1) := by
    have hall := rrcTryAgain_eq_rrcTries request { ue with currentState := .connecting }
      (.initial procedure) input.attempts rfl retries 0
    rw [Nat.zero_add] at hall
    exact hall
  have hfailed := success_rrcTries request { ue with currentState := .connecting } (.initial procedure)
    input.attempts (retries + 1)
  rw [rrcExecuteRequest, hstart]
  dsimp only
  rw [hchange]
  dsimp only [RrcAnswer.andThen]
  split
  · rw [htries, if_neg fun hdone => Bool.false_ne_true (hfailed.symm.trans hdone.2)]
  · rfl

/-- **How a procedure with requests ends** that has got to CONNECTING: as a success exactly if it was
aborted, and in IDLE unless it times out. -/
theorem rrcExecuteRequest_spec (procedure : RrcProcedure) (request : RrcMessageType) (retries : Nat)
    (ue : UeContext) (input : RrcProcedureInput)
    (hstate : rrcIsValidStateTransition ue.currentState .connecting = true) (hstarts : input.Starts)
    (hrequest : input.requestAllocated = true) :
    ((rrcExecuteRequest procedure request retries ue input).2 = .ok () ↔ input.Aborted retries)
      ∧ (rrcExecuteRequest procedure request retries ue input).1.currentState
        = if input.TimesOut retries then
            (rrcLastTarget (rrcEvents input.attempts (retries + 1))).getD .connecting
          else .idle := by
  rw [rrcExecuteRequest_of_starts procedure request retries ue input hstate hstarts, if_pos hrequest]
  refine ⟨rrcTries_eq_ok_iff request _ input retries rfl, ?_⟩
  dsimp only
  rw [currentState_rrcHandleProcedureFailure]
  have hfresh : (RrcProcedureContext.initial procedure).completed = false := rfl
  have htimeout := rrcTries_eq_timeout_iff request { ue with currentState := .connecting } input retries
    hfresh
  by_cases h : input.TimesOut retries
  · rw [if_pos h, if_pos (htimeout.mpr h)]
    exact currentState_rrcTries_of_timesOut request _ input retries rfl h
  · rw [if_neg h, if_neg (h ∘ htimeout.mp)]

/-! ### A handover -/

theorem RrcIncomingMessage.target_eq_some {response : RrcIncomingMessage} {outcome : RrcOutcome}
    {state : RrcState} (h : response.target outcome = some state) : state = .connected ∨ state = .idle := by
  unfold RrcIncomingMessage.target at h
  split at h
  · split at h
    · exact Or.inl (Option.some.inj h).symm
    · cases h
  · split at h
    · exact Or.inl (Option.some.inj h).symm
    · cases h
  · exact Or.inr (Option.some.inj h).symm
  · cases h

theorem rrcLastTarget_eq_some {events : List RrcWaitEvent} {state : RrcState}
    (h : rrcLastTarget events = some state) : state = .connected ∨ state = .idle := by
  obtain ⟨event, -, hevent⟩ := List.mem_filterMap.mp (List.mem_of_getLast? h)
  cases event with
  | message response outcome => exact RrcIncomingMessage.target_eq_some hevent
  | abort => cases hevent
  | wake => cases hevent

theorem currentState_rrcWaitLoop_mem (ending : RrcWaitEnding) {ue : UeContext} (ctx : RrcProcedureContext)
    (events : List RrcWaitEvent) (h : ue.currentState = .connected ∨ ue.currentState = .idle) :
    (rrcWaitLoop ending ue ctx events).ue.currentState = .connected
      ∨ (rrcWaitLoop ending ue ctx events).ue.currentState = .idle := by
  induction events generalizing ue ctx with
  | nil => cases ending <;> exact h
  | cons event events ih =>
      cases event with
      | message response outcome =>
          refine ih ctx ?_
          rw [currentState_rrcHandleProcedureResponse]
          cases htarget : response.target outcome with
          | none => exact h
          | some state => exact RrcIncomingMessage.target_eq_some htarget
      | abort => exact ih (rrcAbortProcedure ctx) h
      | wake =>
          rw [rrcWaitLoop]
          split
          · exact h
          · exact ih ctx h

theorem rrcHandleProcedureFailure_handover (ue : UeContext) (ctx : RrcProcedureContext)
    (result : Except UesimError Unit) :
    (rrcHandleProcedureFailure ue ctx
      (if result = .error .timeout then .timeout else .handoverFailed)).1 = ue := by
  unfold rrcHandleProcedureFailure
  by_cases htimeout : result = .error .timeout <;> simp [htimeout]

/-- A handover leaves the UE as it is, and connected as long as nothing that comes in takes it to IDLE. -/
theorem currentState_rrcExecuteHandover (ue : UeContext) (input : RrcProcedureInput) :
    (rrcExecuteHandover ue input).1.currentState = ue.currentState
      ∨ (rrcExecuteHandover ue input).1.currentState = .idle := by
  unfold rrcExecuteHandover
  split
  · exact Or.inl rfl
  rename_i hconnected
  have hstate : ue.currentState = .connected := not_not.mp hconnected
  split
  · exact Or.inl rfl
  split
  · exact Or.inl rfl
  rename_i ctx _
  split
  · exact Or.inl rfl
  split
  · cases (input.attempts 0).send with
    | some failure => exact Or.inl rfl
    | none =>
        have hwaited : ∀ sent : UeContext, sent.currentState = .connected →
            (rrcWaitProcedureComplete sent ctx (input.attempts 0).wait).ue.currentState = .connected
              ∨ (rrcWaitProcedureComplete sent ctx (input.attempts 0).wait).ue.currentState = .idle := by
          intro sent hsent
          rw [rrcWaitProcedureComplete]
          split
          · exact Or.inl hsent
          · exact currentState_rrcWaitLoop_mem _ ctx _ (Or.inl hsent)
        have hend := hwaited { ue with sent := ue.sent ++ [.handoverPreparation] } hstate
        rw [hstate]
        dsimp only [RrcAnswer.andThen, rrcSendMessage]
        split
        · exact hend
        · rw [rrcHandleProcedureFailure_handover]
          exact hend
  · exact Or.inl rfl

/-! ### Runs -/

inductive RrcProcedureOp where
  | registration (input : RrcProcedureInput)
  | reestablishment (input : RrcProcedureInput)
  | handover (input : RrcProcedureInput)

def rrcExecute (ue : UeContext) : RrcProcedureOp → RrcAnswer
  | .registration input => rrcExecuteRegistration ue input
  | .reestablishment input => rrcExecuteReestablishment ue input
  | .handover input => rrcExecuteHandover ue input

def rrcProcedureStep (ue : UeContext) (op : RrcProcedureOp) : UeContext := (rrcExecute ue op).1

/-- A procedure that fails leaves the UE idle or as it was, and never in CONNECTING. -/
def RrcAnswer.Recovers (before : UeContext) (answer : RrcAnswer) : Prop :=
  ∀ e, answer.2 = .error e →
    answer.1.currentState = .idle
      ∨ answer.1.currentState = before.currentState ∧ answer.1.currentState ≠ .connecting

/-- And a registration is a success in CONNECTED only. -/
def RrcProcedureOp.LeavesUeAble (ue : UeContext) : RrcProcedureOp → Prop
  | .registration input =>
      (rrcExecuteRegistration ue input).Recovers ue
        ∧ ((rrcExecuteRegistration ue input).2 = .ok () →
          (rrcExecuteRegistration ue input).1.currentState = .connected)
  | .reestablishment input => (rrcExecuteReestablishment ue input).Recovers ue
  | .handover input => (rrcExecuteHandover ue input).Recovers ue

/-- There is memory for the request, nothing that leads away from IDLE comes in a procedure that times out,
and no registration is aborted. -/
def RrcProcedureOp.EndsWell (ue : UeContext) : RrcProcedureOp → Prop
  | .registration input =>
      ue.currentState ≠ .connecting
        ∧ (ue.currentState = .idle → input.Starts →
          input.requestAllocated ∧ ¬input.Aborted rrcN300Max ∧ input.LeftIdle rrcN300Max)
  | .reestablishment input =>
      ue.currentState ≠ .connecting
        ∧ (ue.currentState = .inactive → input.Starts →
          input.requestAllocated ∧ input.LeftIdle rrcN311Max)
  | .handover _ => ue.currentState ≠ .connecting

theorem RrcAnswer.recovers_refused_iff (ue : UeContext) (e : UesimError) :
    RrcAnswer.Recovers ue (ue, .error e) ↔ ue.currentState ≠ .connecting := by
  constructor
  · intro h
    rcases h e rfl with hidle | ⟨-, hnot⟩
    · exact fun hconnecting => RrcState.noConfusion (hidle.symm.trans hconnecting)
    · exact hnot
  · exact fun hnot e' _ => Or.inr ⟨rfl, hnot⟩

/-- A procedure with requests that has begun recovers exactly if there is memory for its request and it is
left in IDLE, since nothing takes the UE back to where it was. -/
theorem rrcExecuteRequest_recovers_iff (procedure : RrcProcedure) (request : RrcMessageType) (retries : Nat)
    (ue : UeContext) (input : RrcProcedureInput)
    (hstate : rrcIsValidStateTransition ue.currentState .connecting = true) (hstarts : input.Starts) :
    (rrcExecuteRequest procedure request retries ue input).Recovers ue
      ↔ input.requestAllocated = true ∧ input.LeftIdle retries := by
  have hbefore : ue.currentState ≠ .connected ∧ ue.currentState ≠ .connecting := by
    constructor <;> intro hcurrent <;> simp [hcurrent, rrcIsValidStateTransition] at hstate
  by_cases hrequest : input.requestAllocated = true
  · obtain ⟨hok, hend⟩ :=
      rrcExecuteRequest_spec procedure request retries ue input hstate hstarts hrequest
    rw [and_iff_right hrequest]
    by_cases htimesOut : input.TimesOut retries
    · rw [if_pos htimesOut] at hend
      obtain ⟨e, herror⟩ :
          ∃ e, (rrcExecuteRequest procedure request retries ue input).2 = .error e := by
        cases hresult : (rrcExecuteRequest procedure request retries ue input).2 with
        | error e => exact ⟨e, rfl⟩
        | ok _ => exact absurd (hok.mp hresult) htimesOut.2.1
      constructor
      · intro hrecovers _
        have hwhere := hrecovers e herror
        rw [hend] at hwhere
        cases hlast : rrcLastTarget (rrcEvents input.attempts (retries + 1)) with
        | none =>
            rw [hlast] at hwhere
            rcases hwhere with hidle | ⟨-, hnot⟩
            · cases hidle
            · exact absurd rfl hnot
        | some state =>
            rw [hlast] at hwhere
            rcases rrcLastTarget_eq_some hlast with rfl | rfl
            · rcases hwhere with hidle | ⟨hsame, -⟩
              · cases hidle
              · exact absurd hsame.symm hbefore.1
            · rfl
      · intro hleft e' _
        rw [hend, hleft htimesOut]
        exact Or.inl rfl
    · rw [if_neg htimesOut] at hend
      exact iff_of_true (fun _ _ => Or.inl hend) fun h => absurd h htimesOut
  · refine iff_of_false (fun hrecovers => ?_) fun h => hrequest h.1
    rw [rrcExecuteRequest_of_starts procedure request retries ue input hstate hstarts, if_neg hrequest]
      at hrecovers
    rcases hrecovers .memory rfl with hidle | ⟨-, hnot⟩
    · cases hidle
    · exact hnot rfl

theorem rrcExecuteRequest_of_not_starts (procedure : RrcProcedure) (request : RrcMessageType)
    (retries : Nat) (ue : UeContext) {input : RrcProcedureInput} (h : ¬input.Starts) :
    ∃ e, rrcExecuteRequest procedure request retries ue input = (ue, .error e) := by
  unfold rrcExecuteRequest rrcStartProcedure
  by_cases hallocated : input.contextAllocated = true
  · have hinitialized : ¬input.contextInitialized = true :=
      fun hinitialized => h ⟨hallocated, hinitialized⟩
    exact ⟨.thread, by rw [if_pos hallocated, if_neg hinitialized]⟩
  · exact ⟨.memory, by rw [if_neg hallocated]⟩

theorem rrcExecuteRequest_success_iff (procedure : RrcProcedure) (request : RrcMessageType) (retries : Nat)
    (ue : UeContext) (input : RrcProcedureInput)
    (hstate : rrcIsValidStateTransition ue.currentState .connecting = true) (hstarts : input.Starts)
    (hrequest : input.requestAllocated = true) :
    ((rrcExecuteRequest procedure request retries ue input).2 = .ok () →
        (rrcExecuteRequest procedure request retries ue input).1.currentState = .connected)
      ↔ ¬input.Aborted retries := by
  obtain ⟨hok, hend⟩ := rrcExecuteRequest_spec procedure request retries ue input hstate hstarts hrequest
  constructor
  · intro hconnected haborted
    rw [if_neg fun htimesOut => htimesOut.2.1 haborted] at hend
    cases hend.symm.trans (hconnected (hok.mpr haborted))
  · exact fun hnot hsuccess => absurd (hok.mp hsuccess) hnot

theorem rrcExecuteRegistration_leavesUeAble_iff (ue : UeContext) (input : RrcProcedureInput) :
    (RrcProcedureOp.registration input).LeavesUeAble ue
      ↔ (RrcProcedureOp.registration input).EndsWell ue := by
  dsimp only [RrcProcedureOp.LeavesUeAble, RrcProcedureOp.EndsWell]
  unfold rrcExecuteRegistration
  by_cases hidle : ue.currentState = .idle
  · have hnot : ue.currentState ≠ .connecting := fun h => RrcState.noConfusion (hidle.symm.trans h)
    have hstate : rrcIsValidStateTransition ue.currentState .connecting = true := by rw [hidle]; rfl
    rw [if_neg (not_not.mpr hidle), and_iff_right hnot]
    by_cases hstarts : input.Starts
    · have hrecovers := rrcExecuteRequest_recovers_iff .registration .setupRequest rrcN300Max ue input
        hstate hstarts
      have hsuccess := rrcExecuteRequest_success_iff .registration .setupRequest rrcN300Max ue input
        hstate hstarts
      rw [hrecovers]
      constructor
      · rintro ⟨⟨hrequest, hleft⟩, hconnected⟩ _ _
        exact ⟨hrequest, (hsuccess hrequest).mp hconnected, hleft⟩
      · intro h
        obtain ⟨hrequest, hnotAborted, hleft⟩ := h hidle hstarts
        exact ⟨⟨hrequest, hleft⟩, (hsuccess hrequest).mpr hnotAborted⟩
    · obtain ⟨e, hrefused⟩ := rrcExecuteRequest_of_not_starts .registration .setupRequest rrcN300Max ue
        hstarts
      rw [hrefused, RrcAnswer.recovers_refused_iff]
      exact iff_of_true ⟨hnot, fun h => by cases h⟩ fun _ h => absurd h hstarts
  · rw [if_pos hidle, RrcAnswer.recovers_refused_iff]
    exact and_congr_right fun _ => iff_of_true (fun h => by cases h) fun h => absurd h hidle

theorem rrcExecuteReestablishment_leavesUeAble_iff (ue : UeContext) (input : RrcProcedureInput) :
    (RrcProcedureOp.reestablishment input).LeavesUeAble ue
      ↔ (RrcProcedureOp.reestablishment input).EndsWell ue := by
  dsimp only [RrcProcedureOp.LeavesUeAble, RrcProcedureOp.EndsWell]
  unfold rrcExecuteReestablishment
  by_cases hidle : ue.currentState = .idle
  · rw [if_pos hidle, RrcAnswer.recovers_refused_iff]
    refine (and_iff_left fun h => ?_).symm
    cases hidle.symm.trans h
  rw [if_neg hidle]
  by_cases hstarts : input.Starts
  · by_cases hinactive : ue.currentState = .inactive
    · have hnot : ue.currentState ≠ .connecting := fun h => RrcState.noConfusion (hinactive.symm.trans h)
      have hstate : rrcIsValidStateTransition ue.currentState .connecting = true := by rw [hinactive]; rfl
      rw [rrcExecuteRequest_recovers_iff .reestablishment .reestablishmentRequest rrcN311Max ue input hstate
        hstarts]
      exact ⟨fun h => ⟨hnot, fun _ _ => h⟩, fun h => h.2 hinactive hstarts⟩
    · have hinvalid : ¬rrcIsValidStateTransition ue.currentState .connecting = true := by
        cases hcurrent : ue.currentState <;> simp [hcurrent, rrcIsValidStateTransition] at hidle hinactive ⊢
      have hrefused : rrcExecuteRequest .reestablishment .reestablishmentRequest rrcN311Max ue input
          = (ue, .error .protocol) := by
        rw [rrcExecuteRequest, rrcStartProcedure, if_pos hstarts.1, if_pos hstarts.2, rrcChangeState,
          if_neg hinvalid]
        rfl
      rw [hrefused, RrcAnswer.recovers_refused_iff]
      exact (and_iff_left fun h => absurd h hinactive).symm
  · obtain ⟨e, hrefused⟩ := rrcExecuteRequest_of_not_starts .reestablishment .reestablishmentRequest
      rrcN311Max ue hstarts
    rw [hrefused, RrcAnswer.recovers_refused_iff]
    exact (and_iff_left fun _ h => absurd h hstarts).symm

theorem rrcExecuteHandover_leavesUeAble_iff (ue : UeContext) (input : RrcProcedureInput) :
    (RrcProcedureOp.handover input).LeavesUeAble ue ↔ (RrcProcedureOp.handover input).EndsWell ue := by
  dsimp only [RrcProcedureOp.LeavesUeAble, RrcProcedureOp.EndsWell]
  by_cases hconnecting : ue.currentState = .connecting
  · unfold rrcExecuteHandover
    rw [if_pos (hconnecting ▸ RrcState.noConfusion), RrcAnswer.recovers_refused_iff]
  · refine iff_of_true (fun _ _ => ?_) hconnecting
    rcases currentState_rrcExecuteHandover ue input with hsame | hidle
    · exact Or.inr ⟨hsame, hsame ▸ hconnecting⟩
    · exact Or.inl hidle

/-- **In every run the procedures leave the UE able to try again exactly if they all end well.** -/
theorem rrcProcedureRun_leavesUeAble_iff (ue : UeContext) (ops : List RrcProcedureOp) :
    Runs.Always rrcProcedureStep (fun ue op => op.LeavesUeAble ue) ue ops
      ↔ Runs.Always rrcProcedureStep (fun ue op => op.EndsWell ue) ue ops := by
  refine Runs.always_iff (fun ue op (_ : True) => ?_) (fun _ _ _ _ => trivial) trivial ops
  cases op with
  | registration input => exact rrcExecuteRegistration_leavesUeAble_iff ue input
  | reestablishment input => exact rrcExecuteReestablishment_leavesUeAble_iff ue input
  | handover input => exact rrcExecuteHandover_leavesUeAble_iff ue input

def rrcIdleUe : UeContext :=
  { currentState := .idle
    gnbs := fun _ => { state := .unknown, cellId := 0, rsrp := 0, isServing := false }
    servingGnb := none
    candidateGnbs := []
    sent := [] }

/-- Requests that all go out, and to which nothing comes. -/
def rrcUnanswered : RrcProcedureInput :=
  { contextAllocated := true
    contextInitialized := true
    requestAllocated := true
    attempts := fun _ => { send := none, wait := { events := [], ending := .timedOut } } }

/-- A registration without an answer leaves the UE in CONNECTING, and so every further one fails. -/
theorem rrcRegistration_unanswered_not_leavesUeAble :
    ¬Runs.Always rrcProcedureStep (fun ue op => op.LeavesUeAble ue) rrcIdleUe
      [.registration rrcUnanswered] := by
  intro h
  have hrecovers := h.1.1 .timeout rfl
  revert hrecovers
  decide

end Uesim
