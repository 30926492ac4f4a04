import Uesim.Types

/-!
# RRC procedures of a UE

A procedure sends its request and waits until its context says that it is completed or the time is over.
The messages that come in while it waits go to handlers of their own, which know the UE and not the
procedure. What does not depend on the UE comes from outside: how a send ends, whether memory is there, which
messages come, and how a wait ends. The mutexes are ordinary ones, and locking one does not fail.
-/

namespace Uesim

open Bytes

inductive RrcState where
  | idle
  | connected
  | inactive
  | connecting
  deriving DecidableEq, Repr

inductive RrcProcedure where
  | registration
  | establishment
  | reestablishment
  | handover
  deriving DecidableEq

inductive RrcMessageType where
  | setupRequest
  | setup
  | setupComplete
  | reestablishmentRequest
  | reestablishment
  | reestablishmentComplete
  | reconfiguration
  | reconfigurationComplete
  | measurementReport
  | handoverPreparation
  | handoverCommand
  | handoverConfirmation
  | ueCapabilityEnquiry
  | ueCapabilityInformation
  | connectionRelease
  | securityModeCommand
  | securityModeComplete
  deriving DecidableEq

inductive RrcProcStatus where
  | idle
  | ongoing
  | success
  | timeout
  | failed
  | retry
  deriving DecidableEq

inductive RrcErrorCause where
  | success
  | timeout
  | maxRetries
  | networkFailure
  | radioLinkFailure
  | handoverFailed
  | reconfigurationFailed
  | securityFailed
  | invalidState
  deriving DecidableEq

inductive GnbState where
  | unknown
  | connected
  | disconnected
  | handoverCandidate
  | connecting
  deriving DecidableEq

structure GnbContext where
  state : GnbState
  cellId : BitVec 16
  rsrp : Int
  isServing : Bool
  deriving DecidableEq

def rrcN300Max : Nat := 3
def rrcN311Max : Nat := 3
def maxGnbCandidates : Nat := 8

/-- A UE points to its gNBs. What it has sent is kept, the oldest message first. -/
structure UeContext where
  currentState : RrcState
  gnbs : Nat → GnbContext
  servingGnb : Option Nat
  candidateGnbs : List (Option Nat)
  sent : List RrcMessageType

/-- What the handlers read of the data of a message, if it has any. -/
structure RrcMessageData where
  targetPci : BitVec 16

structure RrcIncomingMessage where
  messageType : RrcMessageType
  data : Option RrcMessageData

/-- How encoding and sending a message can fail. Neither of them waits. -/
structure RrcSendError where
  error : UesimError
  ne_timeout : error ≠ .timeout

/-- What a handler meets: memory for its answer, a connection to a gNB, and how its answer is sent. -/
structure RrcOutcome where
  allocated : Bool
  connected : Except UesimError Unit
  sent : Option RrcSendError

abbrev RrcAnswer := UeContext × Except UesimError Unit

def RrcAnswer.andThen (answer : RrcAnswer) (next : UeContext → RrcAnswer) : RrcAnswer :=
  match answer.2 with
  | .error e => (answer.1, .error e)
  | .ok () => next answer.1

/-! ### States -/

def rrcIsValidStateTransition : RrcState → RrcState → Bool
  | .idle, state => state = .connected ∨ state = .connecting
  | .connected, state => state = .idle ∨ state = .inactive
  | .inactive, state => state = .idle ∨ state = .connected ∨ state = .connecting
  | .connecting, state => state = .idle ∨ state = .connected

def rrcChangeState (ue : UeContext) (newState : RrcState) : RrcAnswer :=
  if rrcIsValidStateTransition ue.currentState newState then ({ ue with currentState := newState }, .ok ())
  else (ue, .error .protocol)

def rrcSendMessage (ue : UeContext) (message : RrcMessageType) (sent : Option RrcSendError) : RrcAnswer :=
  match sent with
  | none => ({ ue with sent := ue.sent ++ [message] }, .ok ())
  | some failure => (ue, .error failure.error)

/-! ### gNBs -/

def UeContext.setGnb (ue : UeContext) (gnb : Nat) (context : GnbContext) : UeContext :=
  { ue with gnbs := fun other => if other = gnb then context else ue.gnbs other }

def uesimConnectGnb (ue : UeContext) (gnb : Nat) (connected : Except UesimError Unit) : RrcAnswer :=
  if (ue.gnbs gnb).state = .connected then (ue, .ok ())
  else
    match connected with
    | .error e => (ue.setGnb gnb { ue.gnbs gnb with state := .disconnected }, .error e)
    | .ok () =>
        (ue.setGnb gnb
          { ue.gnbs gnb with
            state := if (ue.gnbs gnb).isServing then .connected else .handoverCandidate }, .ok ())

def uesimDisconnectGnb (ue : UeContext) (gnb : Nat) : UeContext :=
  ue.setGnb gnb { ue.gnbs gnb with state := .disconnected }

/-- The gNB that has been serving goes to the end of the candidates if there is room, and the new one is
taken out from among them. -/
def uesimSwitchServingGnb (ue : UeContext) (newGnb : Nat) : RrcAnswer :=
  match ue.candidateGnbs.findIdx? (· = some newGnb) with
  | none => (ue, .error .notFound)
  | some found =>
      let ue := match ue.servingGnb with
        | none => ue
        | some old =>
            let ue := ue.setGnb old
              { ue.gnbs old with isServing := false, state := .handoverCandidate }
            if ue.candidateGnbs.length < maxGnbCandidates then
              { ue with candidateGnbs := ue.candidateGnbs ++ [some old] }
            else ue
      let ue := ue.setGnb newGnb { ue.gnbs newGnb with isServing := true, state := .connected }
      ({ ue with servingGnb := some newGnb, candidateGnbs := ue.candidateGnbs.eraseIdx found }, .ok ())

/-! ### Handlers of what comes in -/

def rrcSendSetupComplete (ue : UeContext) (outcome : RrcOutcome) : RrcAnswer :=
  if outcome.allocated then rrcSendMessage ue .setupComplete outcome.sent else (ue, .error .memory)

def rrcSendReestComplete (ue : UeContext) (outcome : RrcOutcome) : RrcAnswer :=
  rrcSendMessage ue .reestablishmentComplete outcome.sent

def rrcSendReconfigComplete (ue : UeContext) (outcome : RrcOutcome) : RrcAnswer :=
  rrcSendMessage ue .reconfigurationComplete outcome.sent

def rrcSendHandoverConfirm (ue : UeContext) (outcome : RrcOutcome) : RrcAnswer :=
  rrcSendMessage ue .handoverConfirmation outcome.sent

def rrcSendCapabilityInfo (ue : UeContext) (outcome : RrcOutcome) : RrcAnswer :=
  if outcome.allocated then rrcSendMessage ue .ueCapabilityInformation outcome.sent else (ue, .error .memory)

def rrcHandleSetupResponse (ue : UeContext) (response : RrcIncomingMessage) (outcome : RrcOutcome) :
    RrcAnswer :=
  match response.data with
  | none => (ue, .error .protocol)
  | some _ => (rrcSendSetupComplete ue outcome).andThen fun ue => rrcChangeState ue .connected

def rrcHandleReestablishmentResponse (ue : UeContext) (response : RrcIncomingMessage) (outcome : RrcOutcome) :
    RrcAnswer :=
  match response.data with
  | none => (ue, .error .protocol)
  | some _ => (rrcSendReestComplete ue outcome).andThen fun ue => rrcChangeState ue .connected

def rrcHandleReconfigurationResponse (ue : UeContext) (response : RrcIncomingMessage) (outcome : RrcOutcome) :
    RrcAnswer :=
  match response.data with
  | none => (ue, .error .protocol)
  | some _ => rrcSendReconfigComplete ue outcome

def rrcHandleHandoverCommand (ue : UeContext) (response : RrcIncomingMessage) (outcome : RrcOutcome) :
    RrcAnswer :=
  match response.data with
  | none => (ue, .error .protocol)
  | some command =>
      let hasPci (gnb : Nat) : Bool := (ue.gnbs gnb).cellId = command.targetPci
      match ue.candidateGnbs.reduceOption.find? hasPci with
      | none => (ue, .error .notFound)
      | some target =>
          (uesimConnectGnb ue target outcome.connected).andThen fun ue =>
            (rrcSendHandoverConfirm ue outcome).andThen fun ue => uesimSwitchServingGnb ue target

def rrcHandleCapabilityEnquiry (ue : UeContext) (outcome : RrcOutcome) : RrcAnswer :=
  rrcSendCapabilityInfo ue outcome

def uesimDisconnectServing (ue : UeContext) : UeContext :=
  match ue.servingGnb with
  | none => ue
  | some gnb => uesimDisconnectGnb ue gnb

def rrcHandleConnectionRelease (ue : UeContext) : RrcAnswer :=
  (rrcChangeState ue .idle).andThen fun ue => (uesimDisconnectServing ue, .ok ())

def rrcHandleProcedureResponse (ue : UeContext) (response : RrcIncomingMessage) (outcome : RrcOutcome) :
    RrcAnswer :=
  match response.messageType with
  | .setup => rrcHandleSetupResponse ue response outcome
  | .reestablishment => rrcHandleReestablishmentResponse ue response outcome
  | .reconfiguration => rrcHandleReconfigurationResponse ue response outcome
  | .handoverCommand => rrcHandleHandoverCommand ue response outcome
  | .ueCapabilityEnquiry => rrcHandleCapabilityEnquiry ue outcome
  | .connectionRelease => rrcHandleConnectionRelease ue
  | _ => (ue, .error .protocol)

/-! ### The context of a procedure -/

structure RrcProcedureContext where
  procedureType : RrcProcedure
  retryCount : Nat
  status : RrcProcStatus
  errorCause : RrcErrorCause
  completed : Bool
  success : Bool
  deriving DecidableEq

def RrcProcedureContext.initial (procedure : RrcProcedure) : RrcProcedureContext :=
  { procedureType := procedure
    retryCount := 0
    status := .ongoing
    errorCause := .success
    completed := false
    success := false }

/-- What goes on while a procedure waits: a message is handled, the procedure is aborted, or the waiting
thread wakes up and looks whether it is completed. -/
inductive RrcWaitEvent where
  | message (response : RrcIncomingMessage) (outcome : RrcOutcome)
  | abort
  | wake

/-- How a wait ends that no completed procedure ends. -/
inductive RrcWaitEnding where
  | timedOut
  | failed
  deriving DecidableEq

structure RrcWait where
  events : List RrcWaitEvent
  ending : RrcWaitEnding

structure RrcAttempt where
  send : Option RrcSendError
  wait : RrcWait

structure RrcProcedureInput where
  contextAllocated : Bool
  contextInitialized : Bool
  requestAllocated : Bool
  attempts : Nat → RrcAttempt

structure RrcProgress where
  ue : UeContext
  ctx : RrcProcedureContext
  result : Except UesimError Unit

def rrcStartProcedure (procedure : RrcProcedure) (input : RrcProcedureInput) :
    Except UesimError RrcProcedureContext :=
  if input.contextAllocated then
    if input.contextInitialized then .ok (.initial procedure) else .error .thread
  else .error .memory

def rrcAbortProcedure (ctx : RrcProcedureContext) : RrcProcedureContext :=
  { ctx with status := .failed, errorCause := .networkFailure, completed := true }

/-- The loop of the waiting thread, with what goes on meanwhile. -/
def rrcWaitLoop (ending : RrcWaitEnding) (ue : UeContext) (ctx : RrcProcedureContext) :
    List RrcWaitEvent → RrcProgress
  | [] =>
      match ending with
      | .timedOut => ⟨ue, { ctx with status := .timeout, errorCause := .timeout }, .error .timeout⟩
      | .failed => ⟨ue, ctx, .error .thread⟩
  | .message response outcome :: events =>
      rrcWaitLoop ending (rrcHandleProcedureResponse ue response outcome).1 ctx events
  | .abort :: events => rrcWaitLoop ending ue (rrcAbortProcedure ctx) events
  | .wake :: events => if ctx.completed then ⟨ue, ctx, .ok ()⟩ else rrcWaitLoop ending ue ctx events

/-- A procedure that is completed already does not wait at all. -/
def rrcWaitProcedureComplete (ue : UeContext) (ctx : RrcProcedureContext) (wait : RrcWait) : RrcProgress :=
  if ctx.completed then ⟨ue, ctx, .ok ()⟩ else rrcWaitLoop wait.ending ue ctx wait.events

def rrcFallbackToIdle (ue : UeContext) : RrcAnswer := rrcChangeState (uesimDisconnectServing ue) .idle

/-- Only two of the causes take the UE back to where it can begin again. -/
def rrcHandleProcedureFailure (ue : UeContext) (ctx : RrcProcedureContext) (cause : RrcErrorCause) :
    UeContext × RrcProcedureContext :=
  (if cause = .maxRetries ∨ cause = .radioLinkFailure then (rrcFallbackToIdle ue).1 else ue,
    { ctx with status := .failed, errorCause := cause, completed := true, success := false })

/-! ### Procedures -/

/-- One pass of the loop that sends a request: a send that fails leaves nothing to wait for. -/
def rrcTry (request : RrcMessageType) (attempt : RrcAttempt) (retry : Nat) (ue : UeContext)
    (ctx : RrcProcedureContext) : RrcProgress :=
  let ctx := { ctx with retryCount := retry }
  let sent := rrcSendMessage ue request attempt.send
  match sent.2 with
  | .error e => ⟨sent.1, ctx, .error e⟩
  | .ok () => rrcWaitProcedureComplete sent.1 ctx attempt.wait

/-- Send and wait until the procedure has succeeded or no retry is left. -/
def rrcTryAgain (request : RrcMessageType) (attempts : Nat → RrcAttempt) :
    Nat → Nat → UeContext → RrcProcedureContext → RrcProgress
  | 0, retry, ue, ctx => rrcTry request (attempts retry) retry ue ctx
  | left + 1, retry, ue, ctx =>
      let tried := rrcTry request (attempts retry) retry ue ctx
      if tried.result = .ok () ∧ tried.ctx.success then tried
      else rrcTryAgain request attempts left (retry + 1) tried.ue tried.ctx

/-- What registration and reestablishment do once the state is checked. -/
def rrcExecuteRequest (procedure : RrcProcedure) (request : RrcMessageType) (retries : Nat) (ue : UeContext)
    (input : RrcProcedureInput) : RrcAnswer :=
  match rrcStartProcedure procedure input with
  | .error e => (ue, .error e)
  | .ok ctx =>
      (rrcChangeState ue .connecting).andThen fun ue =>
        if input.requestAllocated then
          let tried := rrcTryAgain request input.attempts retries 0 ue ctx
          if tried.result = .ok () ∧ tried.ctx.success then (tried.ue, .ok ())
          else
            let cause := if tried.result = .error .timeout then .timeout else .maxRetries
            ((rrcHandleProcedureFailure tried.ue tried.ctx cause).1, tried.result)
        else (ue, .error .memory)

def rrcExecuteRegistration (ue : UeContext) (input : RrcProcedureInput) : RrcAnswer :=
  if ue.currentState ≠ .idle then (ue, .error .protocol)
  else rrcExecuteRequest .registration .setupRequest rrcN300Max ue input

def rrcExecuteReestablishment (ue : UeContext) (input : RrcProcedureInput) : RrcAnswer :=
  if ue.currentState = .idle then (ue, .error .protocol)
  else rrcExecuteRequest .reestablishment .reestablishmentRequest rrcN311Max ue input

/-- The candidate that is received best, the first of several, if any is received at all. -/
def rrcBestCandidate (ue : UeContext) : Option Nat :=
  (ue.candidateGnbs.foldl
    (fun best candidate =>
      match candidate with
      | none => best
      | some gnb => if best.2 < (ue.gnbs gnb).rsrp then (some gnb, (ue.gnbs gnb).rsrp) else best)
    ((none, -140) : Option Nat × Int)).1

/-- There is one attempt, and what fails before the wait is not handled as a failure. -/
def rrcExecuteHandover (ue : UeContext) (input : RrcProcedureInput) : RrcAnswer :=
  if ue.currentState ≠ .connected then (ue, .error .protocol)
  else if ue.candidateGnbs.length = 0 then (ue, .error .notFound)
  else
    match rrcStartProcedure .handover input with
    | .error e => (ue, .error e)
    | .ok ctx =>
        match rrcBestCandidate ue with
        | none => (ue, .error .notFound)
        | some _ =>
            if input.requestAllocated then
              (rrcSendMessage ue .handoverPreparation (input.attempts 0).send).andThen fun ue =>
                let waited := rrcWaitProcedureComplete ue ctx (input.attempts 0).wait
                if waited.result = .ok () ∧ waited.ctx.success then (waited.ue, .ok ())
                else
                  let cause := if waited.result = .error .timeout then .timeout else .handoverFailed
                  ((rrcHandleProcedureFailure waited.ue waited.ctx cause).1, waited.result)
            else (ue, .error .memory)

end Uesim
