import Uesim.Rrc.ProcedureRecovery

/-!
# What an answer does to the procedure that waits for it

The handler of a Setup or a Reestablishment takes the UE to CONNECTED. It has no procedure to tell, and
nothing else sets the flag for which the loop looks. So the requests go out as if nobody had answered.
-/

namespace Uesim

inductive RrcRequesting where
  | registration
  | reestablishment
  deriving DecidableEq

namespace RrcRequesting

def procedure : RrcRequesting → RrcProcedure
  | registration => .registration
  | reestablishment => .reestablishment

def request : RrcRequesting → RrcMessageType
  | registration => .setupRequest
  | reestablishment => .reestablishmentRequest

def answer : RrcRequesting → RrcMessageType
  | registration => .setup
  | reestablishment => .reestablishment

def retries : RrcRequesting → Nat
  | registration => rrcN300Max
  | reestablishment => rrcN311Max

def execute : RrcRequesting → UeContext → RrcProcedureInput → RrcAnswer
  | registration => rrcExecuteRegistration
  | reestablishment => rrcExecuteReestablishment

def origin : RrcRequesting → RrcState
  | registration => .idle
  | reestablishment => .inactive

def tried (kind : RrcRequesting) (ue : UeContext) (input : RrcProcedureInput) : RrcProgress :=
  rrcTryAgain kind.request input.attempts kind.retries 0 { ue with currentState := .connecting }
    (.initial kind.procedure)

def before (kind : RrcRequesting) (ue : UeContext) (input : RrcProcedureInput) (retry : Nat) : RrcProgress :=
  rrcTries kind.request input.attempts { ue with currentState := .connecting } (.initial kind.procedure) retry

/-- The UE in the wait of an attempt, after so much of what comes in. -/
def reached (kind : RrcRequesting) (ue : UeContext) (input : RrcProcedureInput) (retry : Nat)
    (earlier : List RrcWaitEvent) : UeContext :=
  let before := kind.before ue input retry
  (rrcWaitLoop .failed (rrcSendMessage before.ue kind.request none).1 before.ctx earlier).ue

end RrcRequesting

/-- A procedure that has got to the wait of an attempt, in which the answer to its request comes while the UE
is in CONNECTING and is handled with success. -/
structure RrcRequesting.Answered (kind : RrcRequesting) (ue : UeContext) (input : RrcProcedureInput)
    (retry : Nat) (earlier later : List RrcWaitEvent) (response : RrcIncomingMessage) (outcome : RrcOutcome) :
    Prop where
  origin : ue.currentState = kind.origin
  starts : input.Starts
  requestAllocated : input.requestAllocated = true
  retry_le : retry ≤ kind.retries
  sent : (input.attempts retry).send = none
  waits : (kind.before ue input retry).ctx.completed = false
  events : (input.attempts retry).wait.events = earlier ++ .message response outcome :: later
  sleeps : rrcWakesCompleted false earlier = false
  answer : response.messageType = kind.answer
  connecting : (kind.reached ue input retry earlier).currentState = .connecting
  handled : (rrcHandleProcedureResponse (kind.reached ue input retry earlier) response outcome).2 = .ok ()

/-- The procedure is completed with success, and so its attempt is the last one. -/
structure RrcRequesting.Completes (kind : RrcRequesting) (ue : UeContext) (input : RrcProcedureInput)
    (retry : Nat) : Prop where
  completed : (kind.tried ue input).ctx.completed = true
  success : (kind.tried ue input).ctx.success = true
  result : (kind.execute ue input).2 = .ok ()
  noFurther : (kind.tried ue input).ctx.retryCount = retry

theorem retryCount_rrcWaitLoop (ending : RrcWaitEnding) (ue : UeContext) (ctx : RrcProcedureContext)
    (events : List RrcWaitEvent) :
    (rrcWaitLoop ending ue ctx events).ctx.retryCount = ctx.retryCount := by
  induction events generalizing ue ctx with
  | nil => cases ending <;> rfl
  | cons event events ih =>
      cases event with
      | message response outcome => exact ih _ ctx
      | abort => exact ih ue (rrcAbortProcedure ctx)
      | wake =>
          rw [rrcWaitLoop]
          split
          · rfl
          · exact ih ue ctx

theorem retryCount_rrcTry (request : RrcMessageType) (attempt : RrcAttempt) (retry : Nat) (ue : UeContext)
    (ctx : RrcProcedureContext) : (rrcTry request attempt retry ue ctx).ctx.retryCount = retry :=
  rrcTry_ctx_congr request attempt retry ue ctx retryCount_rrcWaitLoop

namespace RrcRequesting

variable (kind : RrcRequesting) (ue : UeContext) (input : RrcProcedureInput)

theorem tried_eq_before : kind.tried ue input = kind.before ue input (kind.retries + 1) := by
  have hall := rrcTryAgain_eq_rrcTries kind.request { ue with currentState := .connecting }
    (.initial kind.procedure) input.attempts rfl kind.retries 0
  rw [Nat.zero_add] at hall
  exact hall

theorem success_tried : (kind.tried ue input).ctx.success = false := by
  rw [tried_eq_before]
  exact success_rrcTries _ _ _ _ _

theorem retryCount_tried : (kind.tried ue input).ctx.retryCount = kind.retries := by
  rw [tried_eq_before]
  exact retryCount_rrcTry _ _ _ _ _

theorem execute_eq_ok_iff (horigin : ue.currentState = kind.origin) (hstarts : input.Starts)
    (hrequest : input.requestAllocated = true) :
    (kind.execute ue input).2 = .ok () ↔ input.Aborted kind.retries := by
  cases kind with
  | registration =>
      have hidle : ue.currentState = .idle := horigin
      have hstate : rrcIsValidStateTransition ue.currentState .connecting = true := by rw [hidle]; rfl
      have hspec := rrcExecuteRequest_spec .registration .setupRequest rrcN300Max ue input hstate hstarts
        hrequest
      rw [execute, rrcExecuteRegistration, if_neg (not_not.mpr hidle)]
      exact hspec.1
  | reestablishment =>
      have hinactive : ue.currentState = .inactive := horigin
      have hstate : rrcIsValidStateTransition ue.currentState .connecting = true := by rw [hinactive]; rfl
      have hspec := rrcExecuteRequest_spec .reestablishment .reestablishmentRequest rrcN311Max ue input hstate
        hstarts hrequest
      rw [execute, rrcExecuteReestablishment, if_neg fun hidle => by cases hinactive.symm.trans hidle]
      exact hspec.1

/-- **No answer completes a procedure**, and all its attempts are made. It is a success only by an abort. -/
theorem not_completes_of_answered {retry : Nat} {earlier later : List RrcWaitEvent}
    {response : RrcIncomingMessage} {outcome : RrcOutcome}
    (h : kind.Answered ue input retry earlier later response outcome) :
    ¬kind.Completes ue input retry
      ∧ (kind.tried ue input).ctx.retryCount = kind.retries
      ∧ ((kind.execute ue input).2 = .ok () ↔ input.Aborted kind.retries) := by
  refine ⟨fun hcompletes => ?_, kind.retryCount_tried ue input, ?_⟩
  · exact Bool.false_ne_true ((kind.success_tried ue input).symm.trans hcompletes.success)
  · exact kind.execute_eq_ok_iff ue input h.origin h.starts h.requestAllocated

end RrcRequesting

def rrcSetup : RrcIncomingMessage := { messageType := .setup, data := some { targetPci := 0 } }

def rrcAllSent : RrcOutcome := { allocated := true, connected := .ok (), sent := none }

def rrcAnswered : RrcProcedureInput :=
  { contextAllocated := true
    contextInitialized := true
    requestAllocated := true
    attempts := fun _ =>
      { send := none, wait := { events := [.message rrcSetup rrcAllSent, .wake], ending := .timedOut } } }

theorem rrcAnswered_answered :
    RrcRequesting.registration.Answered rrcIdleUe rrcAnswered 0 [] [.wake] rrcSetup rrcAllSent where
  origin := rfl
  starts := ⟨rfl, rfl⟩
  requestAllocated := rfl
  retry_le := Nat.zero_le _
  sent := rfl
  waits := rfl
  events := rfl
  sleeps := rfl
  answer := rfl
  connecting := rfl
  handled := rfl

theorem rrcRegistration_not_completed : ¬RrcRequesting.registration.Completes rrcIdleUe rrcAnswered 0 :=
  (RrcRequesting.not_completes_of_answered .registration rrcIdleUe rrcAnswered rrcAnswered_answered).1

/-- A registration that is answered at once goes on to a timeout, and leaves the UE connected. -/
theorem rrcRegistration_answered_timeout :
    RrcRequesting.registration.Answered rrcIdleUe rrcAnswered 0 [] [.wake] rrcSetup rrcAllSent
      ∧ (rrcExecuteRegistration rrcIdleUe rrcAnswered).2 = .error .timeout
      ∧ (rrcExecuteRegistration rrcIdleUe rrcAnswered).1.currentState = .connected
      ∧ ¬RrcRequesting.registration.Completes rrcIdleUe rrcAnswered 0 := by
  refine ⟨rrcAnswered_answered, rfl, rfl, fun h => ?_⟩
  cases h.success

end Uesim
