import Uesim.Rrc.RejectedMessages

/-!
# Radio link failure

Indications of the physical layer are counted, and timers are checked from time to time. A failure that is
declared is answered by a reestablishment, which belongs to the RRC layer: what that does to the UE is a
parameter. A call that locks a mutex which is held does not come back, and leaves it held.
-/

namespace Uesim

open Bytes

inductive RlfState where
  | normal
  | outOfSync
  | t310Running
  | inSyncRecovery
  | detected
  | reestablishing
  | recovered
  | failed
  deriving DecidableEq

inductive RlfCause where
  | none
  | t310Expiry
  | randomAccessFailure
  | rlcMaxRetx
  | handoverFailure
  | t304Expiry
  | connectionRelease
  | physicalLayerError
  deriving DecidableEq

inductive RlfReestResult where
  | success
  | t301Expiry
  | t311Expiry
  | cellReselection
  | connectionRelease
  | noSuitableCell
  | networkReject
  deriving DecidableEq

inductive SyncIndication where
  | outOfSync
  | inSync
  deriving DecidableEq

inductive RlfTimer where
  | t310
  | t311
  | t301
  deriving DecidableEq

/-- `rlf_context_t` without its mutex and the members that nothing reads. -/
structure RlfContext where
  currentState : RlfState
  detectionCause : RlfCause
  outOfSyncCount : Byte
  inSyncCount : Byte
  t310StartTime : Word
  t311StartTime : Word
  t301StartTime : Word
  t310Running : Bool
  t311Running : Bool
  t301Running : Bool
  t310ValueMs : Word
  t311ValueMs : Word
  t301ValueMs : Word
  n310Threshold : Byte
  n311Threshold : Byte
  reestAttemptCount : Byte
  maxReestAttempts : Byte
  lastReestResult : RlfReestResult
  preRlfState : RrcState
  totalRlfCount : BitVec 64
  successfulRecoveryCount : BitVec 64
  failedRecoveryCount : BitVec 64
  totalOutOfSyncIndications : BitVec 64
  totalInSyncIndications : BitVec 64

def rlfCreateContext : RlfContext :=
  { currentState := .normal
    detectionCause := .none
    outOfSyncCount := 0
    inSyncCount := 0
    t310StartTime := 0
    t311StartTime := 0
    t301StartTime := 0
    t310Running := false
    t311Running := false
    t301Running := false
    t310ValueMs := 1000
    t311ValueMs := 3000
    t301ValueMs := 1000
    n310Threshold := 1
    n311Threshold := 2
    reestAttemptCount := 0
    maxReestAttempts := 3
    lastReestResult := .success
    preRlfState := .idle
    totalRlfCount := 0
    successfulRecoveryCount := 0
    failedRecoveryCount := 0
    totalOutOfSyncIndications := 0
    totalInSyncIndications := 0 }

/-- The arguments of `rlf_configure`. -/
structure RlfConfig where
  t310Ms : Word
  t311Ms : Word
  t301Ms : Word
  n310 : Byte
  n311 : Byte

def RlfContext.configured (ctx : RlfContext) (config : RlfConfig) : RlfContext :=
  { ctx with
    t310ValueMs := config.t310Ms
    t311ValueMs := config.t311Ms
    t301ValueMs := config.t301Ms
    n310Threshold := config.n310
    n311Threshold := config.n311 }

/-- A UE with its RLF context. `locked` says that some call holds the mutex and does not come back. That a
failure was declared, and that a request was handed to `rrc_send_message`, is only noted. -/
structure RlfUe where
  ue : UeContext
  ctx : RlfContext
  locked : Bool
  declared : Bool
  handed : Bool

def rlfInit (ue : UeContext) (config : RlfConfig) : RlfUe :=
  { ue, ctx := rlfCreateContext.configured config, locked := false, declared := false, handed := false }

/-- What the RRC layer does when it is called, and whether a reestablishment gets as far as to hand its
request to `rrc_send_message`. -/
structure RrcLayer where
  changeState : UeContext → RrcState → RrcAnswer
  executeReestablishment : UeContext → RrcAnswer
  hands : UeContext → Bool

/-- What `uesim_get_time_ms` returns in one operation: to the check of the timers, and where each of them is
started. -/
structure RlfClock where
  check : Word
  t310 : Word
  t311 : Word
  t301 : Word

/-- The state that a call leaves, and how it ends if it comes back. -/
abbrev RlfAnswer := RlfUe × Option (Except UesimError Unit)

namespace RlfAnswer

def success (s : RlfUe) : RlfAnswer := (s, some (.ok ()))

def andThen (answer : RlfAnswer) (next : RlfUe → RlfAnswer) : RlfAnswer :=
  match answer.2 with
  | some (.ok ()) => next answer.1
  | _ => answer

/-- Go on whatever the result is. -/
def ignoring (answer : RlfAnswer) (next : RlfUe → RlfAnswer) : RlfAnswer :=
  match answer.2 with
  | some _ => next answer.1
  | none => answer

end RlfAnswer

open RlfAnswer

namespace RlfUe

def withLock (s : RlfUe) (body : RlfContext → RlfContext) : RlfAnswer :=
  if s.locked then (s, none) else success { s with ctx := body s.ctx }

end RlfUe

def rlfConfigure (s : RlfUe) (config : RlfConfig) : RlfAnswer := s.withLock fun ctx => ctx.configured config

/-! ### Timers -/

def RlfContext.startT310 (ctx : RlfContext) (now : Word) : RlfContext :=
  { ctx with t310StartTime := now, t310Running := true, currentState := .t310Running }

def rlfStartT310 (s : RlfUe) (now : Word) : RlfAnswer := s.withLock fun ctx => ctx.startT310 now

def rlfStopT310 (s : RlfUe) : RlfAnswer :=
  s.withLock fun ctx => { ctx with t310Running := false, outOfSyncCount := 0 }

def rlfStartT311 (s : RlfUe) (now : Word) : RlfAnswer :=
  s.withLock fun ctx => { ctx with t311StartTime := now, t311Running := true }

def rlfStopT311 (s : RlfUe) : RlfAnswer := s.withLock fun ctx => { ctx with t311Running := false }

def rlfStartT301 (s : RlfUe) (now : Word) : RlfAnswer :=
  s.withLock fun ctx => { ctx with t301StartTime := now, t301Running := true }

def rlfStopT301 (s : RlfUe) : RlfAnswer := s.withLock fun ctx => { ctx with t301Running := false }

/-! ### Indications -/

def rlfHandleOutOfSync (s : RlfUe) (clock : RlfClock) : RlfAnswer :=
  let ctx := { s.ctx with totalOutOfSyncIndications := s.ctx.totalOutOfSyncIndications + 1 }
  if s.ue.currentState ≠ .connected then success { s with ctx }
  else
    let ctx := { ctx with inSyncCount := 0 }
    if ctx.currentState = .normal ∨ ctx.currentState = .inSyncRecovery then
      let ctx := { ctx with outOfSyncCount := ctx.outOfSyncCount + 1, currentState := .outOfSync }
      if ctx.outOfSyncCount ≥ ctx.n310Threshold ∧ !ctx.t310Running then
        (rlfStartT310 { s with ctx } clock.t310).ignoring success
      else success { s with ctx }
    else success { s with ctx }

/-- T310 is stopped while the mutex is held. -/
def rlfHandleInSync (s : RlfUe) : RlfAnswer :=
  let ctx :=
    { s.ctx with totalInSyncIndications := s.ctx.totalInSyncIndications + 1, outOfSyncCount := 0 }
  if ctx.currentState = .t310Running then
    let ctx := { ctx with inSyncCount := ctx.inSyncCount + 1, currentState := .inSyncRecovery }
    if ctx.inSyncCount ≥ ctx.n311Threshold then
      (rlfStopT310 { s with ctx, locked := true }).ignoring fun s =>
        success { s with ctx := { s.ctx with currentState := .normal }, locked := false }
    else success { s with ctx }
  else success { s with ctx }

def rlfHandleSyncIndication (s : RlfUe) (clock : RlfClock) (indication : SyncIndication) : RlfAnswer :=
  if s.locked then (s, none)
  else
    match indication with
    | .outOfSync => rlfHandleOutOfSync s clock
    | .inSync => rlfHandleInSync s

/-! ### Recovery -/

namespace RlfContext

def idle (ctx : RlfContext) : RlfContext :=
  { ctx with currentState := .normal, outOfSyncCount := 0, inSyncCount := 0, reestAttemptCount := 0 }

def stopAll (ctx : RlfContext) : RlfContext :=
  { ctx with t310Running := false, t311Running := false, t301Running := false }

def complete (ctx : RlfContext) : RlfContext :=
  { ctx.stopAll with
    currentState := .recovered
    successfulRecoveryCount := ctx.successfulRecoveryCount + 1
    reestAttemptCount := 0 }

def abort (ctx : RlfContext) (result : RlfReestResult) : RlfContext :=
  { ctx.stopAll with
    currentState := .failed
    failedRecoveryCount := ctx.failedRecoveryCount + 1
    lastReestResult := result }

def attempt (ctx : RlfContext) : RlfContext :=
  { ctx with currentState := .reestablishing, reestAttemptCount := ctx.reestAttemptCount + 1 }

/-- The cause is always the expiry of T310. -/
def declare (ctx : RlfContext) (preRlfState : RrcState) : RlfContext :=
  { ctx with
    t310Running := false
    currentState := .detected
    detectionCause := .t310Expiry
    totalRlfCount := ctx.totalRlfCount + 1
    preRlfState }

end RlfContext

/-- The context is reset without the mutex. -/
def rlfGoToIdle (s : RlfUe) (rrc : RrcLayer) : RlfAnswer :=
  match rrc.changeState s.ue .idle with
  | (ue, .error e) => ({ s with ue }, some (.error e))
  | (ue, .ok ()) => success { s with ue, ctx := s.ctx.idle }

def rlfTriggerCellReselection (s : RlfUe) (rrc : RrcLayer) : RlfAnswer := rlfGoToIdle s rrc

/-- The last assignment is made without the mutex. -/
def rlfCompleteRecovery (s : RlfUe) : RlfAnswer :=
  (s.withLock RlfContext.complete).andThen fun s =>
    success { s with ctx := { s.ctx with currentState := .normal } }

def rlfAbortRecovery (s : RlfUe) (rrc : RrcLayer) (result : RlfReestResult) : RlfAnswer :=
  (s.withLock fun ctx => ctx.abort result).andThen fun s => rlfGoToIdle s rrc

def rlfStartReestablishment (s : RlfUe) (rrc : RrcLayer) (clock : RlfClock) : RlfAnswer :=
  (s.withLock RlfContext.attempt).andThen fun s =>
    (rlfStartT301 s clock.t301).ignoring fun s =>
      let answer := rrc.executeReestablishment s.ue
      ({ s with ue := answer.1, handed := s.handed || rrc.hands s.ue }, some answer.2)

def rlfInitiateRecovery (s : RlfUe) (rrc : RrcLayer) (clock : RlfClock) : RlfAnswer :=
  (rlfStartT311 s clock.t311).andThen fun s => rlfStartReestablishment s rrc clock

def rlfDeclareFailure (s : RlfUe) (rrc : RrcLayer) (clock : RlfClock) : RlfAnswer :=
  (s.withLock fun ctx => ctx.declare s.ue.currentState).andThen fun s =>
    rlfInitiateRecovery { s with declared := true } rrc clock

/-- The cause is not looked at. -/
def rlfDetectFailure (s : RlfUe) (rrc : RrcLayer) (clock : RlfClock) (_cause : RlfCause) : RlfAnswer :=
  rlfDeclareFailure s rrc clock

def rlfHandleReestablishmentResponse (s : RlfUe) (rrc : RrcLayer) (success : Bool) : RlfAnswer :=
  if success then rlfCompleteRecovery s else rlfAbortRecovery s rrc .networkReject

def rlfBackupState (s : RlfUe) : RlfAnswer :=
  s.withLock fun ctx => { ctx with preRlfState := s.ue.currentState }

def rlfRestoreState (s : RlfUe) (rrc : RrcLayer) : RlfAnswer :=
  let (ue, result) := rrc.changeState s.ue s.ctx.preRlfState
  ({ s with ue }, some result)

/-! ### Expiry -/

def rlfHandleT310Expiry (s : RlfUe) (rrc : RrcLayer) (clock : RlfClock) : RlfAnswer :=
  rlfDeclareFailure s rrc clock

def rlfHandleT311Expiry (s : RlfUe) (rrc : RrcLayer) : RlfAnswer := rlfAbortRecovery s rrc .t311Expiry

def rlfHandleT301Expiry (s : RlfUe) (rrc : RrcLayer) (clock : RlfClock) : RlfAnswer :=
  if s.ctx.reestAttemptCount < s.ctx.maxReestAttempts then rlfStartReestablishment s rrc clock
  else rlfAbortRecovery s rrc .t301Expiry

namespace RlfContext

def running (ctx : RlfContext) : RlfTimer → Bool
  | .t310 => ctx.t310Running
  | .t311 => ctx.t311Running
  | .t301 => ctx.t301Running

def startTime (ctx : RlfContext) : RlfTimer → Word
  | .t310 => ctx.t310StartTime
  | .t311 => ctx.t311StartTime
  | .t301 => ctx.t301StartTime

def valueMs (ctx : RlfContext) : RlfTimer → Word
  | .t310 => ctx.t310ValueMs
  | .t311 => ctx.t311ValueMs
  | .t301 => ctx.t301ValueMs

def stop (ctx : RlfContext) : RlfTimer → RlfContext
  | .t310 => { ctx with t310Running := false }
  | .t311 => { ctx with t311Running := false }
  | .t301 => { ctx with t301Running := false }

def expired (ctx : RlfContext) (now : Word) (timer : RlfTimer) : Bool :=
  ctx.running timer && decide (now - ctx.startTime timer ≥ ctx.valueMs timer)

/-- The timer that `rlf_check_timers` finds, the first of several. -/
def firstExpired (ctx : RlfContext) (now : Word) : Option RlfTimer :=
  [RlfTimer.t310, .t311, .t301].find? (ctx.expired now)

/-- Whose handler is called. Only the expiry of T310 is kept as a cause, and the other two are told apart by
what the context looks like after the timer is stopped. -/
def handlerOf (ctx : RlfContext) : RlfTimer → Option RlfTimer
  | .t310 => some .t310
  | _ =>
      if ctx.t311StartTime > 0 ∧ !ctx.t311Running then some .t311
      else if ctx.t301StartTime > 0 ∧ !ctx.t301Running then some .t301
      else none

end RlfContext

def rlfHandleExpiry (s : RlfUe) (rrc : RrcLayer) (clock : RlfClock) : Option RlfTimer → RlfAnswer
  | some .t310 => rlfHandleT310Expiry s rrc clock
  | some .t311 => rlfHandleT311Expiry s rrc
  | some .t301 => rlfHandleT301Expiry s rrc clock
  | none => success s

def rlfCheckTimers (s : RlfUe) (rrc : RrcLayer) (clock : RlfClock) : RlfAnswer :=
  if s.locked then (s, none)
  else
    match s.ctx.firstExpired clock.check with
    | none => success s
    | some timer =>
        let ctx := s.ctx.stop timer
        rlfHandleExpiry { s with ctx } rrc clock (ctx.handlerOf timer)

/-! ### Statistics -/

def rlfResetStats (s : RlfUe) : RlfAnswer :=
  s.withLock fun ctx =>
    { ctx with
      totalRlfCount := 0
      successfulRecoveryCount := 0
      failedRecoveryCount := 0
      totalOutOfSyncIndications := 0
      totalInSyncIndications := 0 }

def rlfGetStats (s : RlfUe) : RlfAnswer := s.withLock id

/-! ### Calls that find the mutex free -/

@[simp]
theorem andThen_success (s : RlfUe) (next : RlfUe → RlfAnswer) : (success s).andThen next = next s := rfl

@[simp]
theorem ignoring_success (s : RlfUe) (next : RlfUe → RlfAnswer) : (success s).ignoring next = next s := rfl

namespace RlfContext

def begin (ctx : RlfContext) (now : Word) : RlfContext :=
  { ctx.attempt with t301StartTime := now, t301Running := true }

def countOutOfSync (ctx : RlfContext) : RlfContext :=
  { ctx with
    totalOutOfSyncIndications := ctx.totalOutOfSyncIndications + 1
    inSyncCount := 0
    outOfSyncCount := ctx.outOfSyncCount + 1
    currentState := .outOfSync }

def countInSync (ctx : RlfContext) : RlfContext :=
  { ctx with
    totalInSyncIndications := ctx.totalInSyncIndications + 1
    outOfSyncCount := 0
    inSyncCount := ctx.inSyncCount + 1
    currentState := .inSyncRecovery }

/-- The context of a failure that is declared, with T311 started. -/
def recovering (ctx : RlfContext) (preRlfState : RrcState) (now : Word) : RlfContext :=
  { ctx.declare preRlfState with t311StartTime := now, t311Running := true }

theorem handlerOf_ne {ctx : RlfContext} {timer : RlfTimer} (h : timer ≠ .t310) :
    ctx.handlerOf timer ≠ some .t310 := by
  cases timer with
  | t310 => exact absurd rfl h
  | t311 | t301 =>
      change (if _ then some RlfTimer.t311 else if _ then some RlfTimer.t301 else none) ≠ some .t310
      split
      · decide
      · split <;> decide

end RlfContext

theorem rlfHandleInSync_eq :
    rlfHandleInSync s
      = if s.ctx.currentState = .t310Running then
          if s.ctx.inSyncCount + 1 ≥ s.ctx.n311Threshold then
            ({ s with ctx := s.ctx.countInSync, locked := true }, none)
          else success { s with ctx := s.ctx.countInSync }
        else
          success { s with ctx := { s.ctx with
            totalInSyncIndications := s.ctx.totalInSyncIndications + 1
            outOfSyncCount := 0 } } := rfl

theorem rlfGoToIdle_eq (rrc : RrcLayer) :
    rlfGoToIdle s rrc
      = ({ s with
            ue := (rrc.changeState s.ue .idle).1
            ctx := if (rrc.changeState s.ue .idle).2 = .ok () then s.ctx.idle else s.ctx },
          some (rrc.changeState s.ue .idle).2) := by
  unfold rlfGoToIdle
  split
  · rename_i hchange
    rw [hchange, if_neg (by simp)]
  · rename_i hchange
    rw [hchange, if_pos rfl]
    rfl

section Unlocked

variable {s : RlfUe} (h : s.locked = false) (rrc : RrcLayer) (clock : RlfClock)

include h

theorem withLock_eq (body : RlfContext → RlfContext) :
    s.withLock body = success { s with ctx := body s.ctx } := by
  rw [RlfUe.withLock, h]
  rfl

theorem rlfAbortRecovery_eq (result : RlfReestResult) :
    rlfAbortRecovery s rrc result = rlfGoToIdle { s with ctx := s.ctx.abort result } rrc := by
  rw [rlfAbortRecovery, withLock_eq h, andThen_success]

theorem rlfCompleteRecovery_eq :
    rlfCompleteRecovery s = success { s with ctx := { s.ctx.complete with currentState := .normal } } := by
  rw [rlfCompleteRecovery, withLock_eq h, andThen_success]

theorem rlfStartReestablishment_eq :
    rlfStartReestablishment s rrc clock
      = ({ s with
            ue := (rrc.executeReestablishment s.ue).1
            ctx := s.ctx.begin clock.t301
            handed := s.handed || rrc.hands s.ue }, some (rrc.executeReestablishment s.ue).2) := by
  have hattempt : { s with ctx := s.ctx.attempt }.locked = false := h
  rw [rlfStartReestablishment, withLock_eq h, andThen_success, rlfStartT301, withLock_eq hattempt,
    ignoring_success]
  rfl

theorem rlfDeclareFailure_eq :
    rlfDeclareFailure s rrc clock
      = rlfStartReestablishment
          { s with ctx := s.ctx.recovering s.ue.currentState clock.t311, declared := true } rrc clock := by
  have hdeclared :
      { s with ctx := s.ctx.declare s.ue.currentState, declared := true }.locked = false := h
  rw [rlfDeclareFailure, withLock_eq h, andThen_success, rlfInitiateRecovery, rlfStartT311,
    withLock_eq hdeclared, andThen_success]
  rfl

theorem rlfDeclareFailure_ctx :
    (rlfDeclareFailure s rrc clock).1.ctx
      = (s.ctx.recovering s.ue.currentState clock.t311).begin clock.t301 := by
  have hrecovering :
      { s with ctx := s.ctx.recovering s.ue.currentState clock.t311, declared := true }.locked = false := h
  rw [rlfDeclareFailure_eq h, rlfStartReestablishment_eq hrecovering]

theorem rlfHandleOutOfSync_eq :
    rlfHandleOutOfSync s clock
      = if s.ue.currentState ≠ .connected then
          success { s with ctx := { s.ctx with
            totalOutOfSyncIndications := s.ctx.totalOutOfSyncIndications + 1 } }
        else if s.ctx.currentState = .normal ∨ s.ctx.currentState = .inSyncRecovery then
          if s.ctx.outOfSyncCount + 1 ≥ s.ctx.n310Threshold ∧ !s.ctx.t310Running then
            success { s with ctx := s.ctx.countOutOfSync.startT310 clock.t310 }
          else success { s with ctx := s.ctx.countOutOfSync }
        else
          success { s with ctx := { s.ctx with
            totalOutOfSyncIndications := s.ctx.totalOutOfSyncIndications + 1
            inSyncCount := 0 } } := by
  have hcounted : { s with ctx := s.ctx.countOutOfSync }.locked = false := h
  unfold rlfHandleOutOfSync rlfStartT310
  dsimp only
  split
  · rfl
  · split
    · split
      · exact congrArg (RlfAnswer.ignoring · success) (withLock_eq hcounted _)
      · rfl
    · rfl

end Unlocked

/-! ### Calls that find the mutex held -/

section Locked

variable {s : RlfUe} (h : s.locked = true) (rrc : RrcLayer) (clock : RlfClock)

include h

theorem withLock_locked (body : RlfContext → RlfContext) : s.withLock body = (s, none) := if_pos h

theorem rlfAbortRecovery_locked (result : RlfReestResult) : rlfAbortRecovery s rrc result = (s, none) := by
  rw [rlfAbortRecovery, withLock_locked h]
  rfl

theorem rlfCompleteRecovery_locked : rlfCompleteRecovery s = (s, none) := by
  rw [rlfCompleteRecovery, withLock_locked h]
  rfl

theorem rlfStartReestablishment_locked : rlfStartReestablishment s rrc clock = (s, none) := by
  rw [rlfStartReestablishment, withLock_locked h]
  rfl

theorem rlfDeclareFailure_locked : rlfDeclareFailure s rrc clock = (s, none) := by
  rw [rlfDeclareFailure, withLock_locked h]
  rfl

end Locked

end Uesim
