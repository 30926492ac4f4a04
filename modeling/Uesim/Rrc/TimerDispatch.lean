import Uesim.Rrc.SyncIndications

/-!
# Locks and the dispatch of timers

The mutex is not recursive: an indication that stops T310 locks what its caller holds. And the timer that has
expired is guessed from what the context looks like once it is stopped, where T311 comes before T301 whether
or not it was the one.
-/

namespace Uesim

open Bytes

/-- The public operations on a context, with what the RRC layer does and the time. Between them the UE may be
changed by others. -/
inductive RlfCall where
  | configure (config : RlfConfig)
  | syncIndication (clock : RlfClock) (indication : SyncIndication)
  | startT310 (now : Word)
  | stopT310
  | startT311 (now : Word)
  | stopT311
  | startT301 (now : Word)
  | stopT301
  | t310Expiry (rrc : RrcLayer) (clock : RlfClock)
  | t311Expiry (rrc : RrcLayer)
  | t301Expiry (rrc : RrcLayer) (clock : RlfClock)
  | detectFailure (rrc : RrcLayer) (clock : RlfClock) (cause : RlfCause)
  | declareFailure (rrc : RrcLayer) (clock : RlfClock)
  | initiateRecovery (rrc : RrcLayer) (clock : RlfClock)
  | startReestablishment (rrc : RrcLayer) (clock : RlfClock)
  | reestablishmentResponse (rrc : RrcLayer) (success : Bool)
  | completeRecovery
  | abortRecovery (rrc : RrcLayer) (result : RlfReestResult)
  | backupState
  | restoreState (rrc : RrcLayer)
  | triggerCellReselection (rrc : RrcLayer)
  | goToIdle (rrc : RrcLayer)
  | checkTimers (rrc : RrcLayer) (clock : RlfClock)
  | resetStats
  | getStats
  | ueChanges (ue : UeContext)

namespace RlfCall

def answer (s : RlfUe) : RlfCall → RlfAnswer
  | .configure config => rlfConfigure s config
  | .syncIndication clock indication => rlfHandleSyncIndication s clock indication
  | .startT310 now => rlfStartT310 s now
  | .stopT310 => rlfStopT310 s
  | .startT311 now => rlfStartT311 s now
  | .stopT311 => rlfStopT311 s
  | .startT301 now => rlfStartT301 s now
  | .stopT301 => rlfStopT301 s
  | .t310Expiry rrc clock => rlfHandleT310Expiry s rrc clock
  | .t311Expiry rrc => rlfHandleT311Expiry s rrc
  | .t301Expiry rrc clock => rlfHandleT301Expiry s rrc clock
  | .detectFailure rrc clock cause => rlfDetectFailure s rrc clock cause
  | .declareFailure rrc clock => rlfDeclareFailure s rrc clock
  | .initiateRecovery rrc clock => rlfInitiateRecovery s rrc clock
  | .startReestablishment rrc clock => rlfStartReestablishment s rrc clock
  | .reestablishmentResponse rrc success => rlfHandleReestablishmentResponse s rrc success
  | .completeRecovery => rlfCompleteRecovery s
  | .abortRecovery rrc result => rlfAbortRecovery s rrc result
  | .backupState => rlfBackupState s
  | .restoreState rrc => rlfRestoreState s rrc
  | .triggerCellReselection rrc => rlfTriggerCellReselection s rrc
  | .goToIdle rrc => rlfGoToIdle s rrc
  | .checkTimers rrc clock => rlfCheckTimers s rrc clock
  | .resetStats => rlfResetStats s
  | .getStats => rlfGetStats s
  | .ueChanges ue => RlfAnswer.success { s with ue }

def step (s : RlfUe) (call : RlfCall) : RlfUe := (call.answer s).1

end RlfCall

def RlfContext.OnlyExpired (ctx : RlfContext) (now : Word) (timer : RlfTimer) : Prop :=
  ∀ other, ctx.expired now other = true ↔ other = timer

/-- A single expired timer is stopped and its own handler called. -/
def RlfUe.DispatchesRight (s : RlfUe) (rrc : RrcLayer) (clock : RlfClock) : Prop :=
  ∀ timer, s.ctx.OnlyExpired clock.check timer →
    rlfCheckTimers s rrc clock
      = rlfHandleExpiry { s with ctx := s.ctx.stop timer } rrc clock (some timer)

namespace RlfCall

/-- A call that finds the mutex free comes back, which it does not if it locks a mutex that it holds, and a
check of the timers finds the right handler. -/
def Good (s : RlfUe) (call : RlfCall) : Prop :=
  s.locked = false → (call.answer s).2 ≠ none ∧
    match call with
    | .checkTimers rrc clock => s.DispatchesRight rrc clock
    | _ => True

/-- An indication does not stop T310. Of an expired T311 the start is not at time 0, and of an expired T301
neither, and then no T311 stands behind it that was started and stopped. -/
def Safe (s : RlfUe) (call : RlfCall) : Prop :=
  s.locked = false →
    match call with
    | .syncIndication _ .inSync =>
        s.ctx.currentState = .t310Running → s.ctx.inSyncCount + 1 < s.ctx.n311Threshold
    | .checkTimers _ clock =>
        (s.ctx.OnlyExpired clock.check .t311 → s.ctx.t311StartTime > 0)
          ∧ (s.ctx.OnlyExpired clock.check .t301 →
              s.ctx.t301StartTime > 0 ∧ ¬(s.ctx.t311StartTime > 0 ∧ s.ctx.t311Running = false))
    | _ => True

end RlfCall

/-! ### Calls that come back -/

section Returns

variable {s : RlfUe} (h : s.locked = false) (rrc : RrcLayer) (clock : RlfClock)

include h

theorem withLock_returns (body : RlfContext → RlfContext) : (s.withLock body).2 ≠ none := by
  rw [withLock_eq h]
  exact Option.some_ne_none _

omit h in
theorem rlfGoToIdle_returns : (rlfGoToIdle s rrc).2 ≠ none := by
  rw [rlfGoToIdle_eq]
  exact Option.some_ne_none _

theorem rlfAbortRecovery_returns (result : RlfReestResult) : (rlfAbortRecovery s rrc result).2 ≠ none := by
  rw [rlfAbortRecovery_eq h]
  exact rlfGoToIdle_returns rrc

theorem rlfCompleteRecovery_returns : (rlfCompleteRecovery s).2 ≠ none := by
  rw [rlfCompleteRecovery_eq h]
  exact Option.some_ne_none _

theorem rlfStartReestablishment_returns : (rlfStartReestablishment s rrc clock).2 ≠ none := by
  rw [rlfStartReestablishment_eq h]
  exact Option.some_ne_none _

theorem rlfInitiateRecovery_returns : (rlfInitiateRecovery s rrc clock).2 ≠ none := by
  rw [rlfInitiateRecovery, rlfStartT311, withLock_eq h, andThen_success, rlfStartReestablishment_eq]
  · exact Option.some_ne_none _
  · exact h

theorem rlfDeclareFailure_returns : (rlfDeclareFailure s rrc clock).2 ≠ none := by
  rw [rlfDeclareFailure_eq h, rlfStartReestablishment_eq]
  · exact Option.some_ne_none _
  · exact h

theorem rlfHandleT301Expiry_returns : (rlfHandleT301Expiry s rrc clock).2 ≠ none := by
  unfold rlfHandleT301Expiry
  split
  · exact rlfStartReestablishment_returns h rrc clock
  · exact rlfAbortRecovery_returns h rrc .t301Expiry

theorem rlfHandleExpiry_returns (handler : Option RlfTimer) :
    (rlfHandleExpiry s rrc clock handler).2 ≠ none := by
  cases handler with
  | none => exact Option.some_ne_none _
  | some timer =>
      cases timer with
      | t310 => exact rlfDeclareFailure_returns h rrc clock
      | t311 => exact rlfAbortRecovery_returns h rrc .t311Expiry
      | t301 => exact rlfHandleT301Expiry_returns h rrc clock

theorem rlfCheckTimers_of_none (hnone : s.ctx.firstExpired clock.check = none) :
    rlfCheckTimers s rrc clock = RlfAnswer.success s := by
  unfold rlfCheckTimers
  rw [if_neg (by simp [h]), hnone]

theorem rlfCheckTimers_of_some {timer : RlfTimer} (hsome : s.ctx.firstExpired clock.check = some timer) :
    rlfCheckTimers s rrc clock
      = rlfHandleExpiry { s with ctx := s.ctx.stop timer } rrc clock
          ((s.ctx.stop timer).handlerOf timer) := by
  unfold rlfCheckTimers
  rw [if_neg (by simp [h]), hsome]

theorem rlfCheckTimers_returns : (rlfCheckTimers s rrc clock).2 ≠ none := by
  cases hexpired : s.ctx.firstExpired clock.check with
  | none =>
      rw [rlfCheckTimers_of_none h rrc clock hexpired]
      exact Option.some_ne_none _
  | some timer =>
      rw [rlfCheckTimers_of_some h rrc clock hexpired]
      have hfree : { s with ctx := s.ctx.stop timer }.locked = false := h
      exact rlfHandleExpiry_returns hfree rrc clock _

/-- The only call that locks again is that of an indication in sync that has T310 stopped. -/
theorem rlfHandleSyncIndication_returns_iff (indication : SyncIndication) :
    (rlfHandleSyncIndication s clock indication).2 ≠ none
      ↔ (indication = .inSync → s.ctx.currentState = .t310Running →
          s.ctx.inSyncCount + 1 < s.ctx.n311Threshold) := by
  cases indication with
  | outOfSync =>
      have hstep : rlfHandleSyncIndication s clock .outOfSync = rlfHandleOutOfSync s clock :=
        if_neg (by simp [h])
      rw [hstep, rlfHandleOutOfSync_eq h]
      refine iff_of_true ?_ (by intro hindication; cases hindication)
      split_ifs <;> exact Option.some_ne_none _
  | inSync =>
      have hstep : rlfHandleSyncIndication s clock .inSync = rlfHandleInSync s := if_neg (by simp [h])
      rw [hstep, rlfHandleInSync_eq, imp_iff_right rfl]
      split
      · rename_i hrunning
        rw [imp_iff_right hrunning]
        split
        · rename_i hreached
          exact iff_of_false (not_not.mpr rfl) (BitVec.not_lt.mpr hreached)
        · rename_i hbelow
          exact iff_of_true (Option.some_ne_none _) (BitVec.not_le.mp hbelow)
      · rename_i hother
        exact iff_of_true (Option.some_ne_none _) fun hrunning => absurd hrunning hother

end Returns

/-! ### Handlers told apart by what they leave -/

section Handlers

variable {s : RlfUe} (h : s.locked = false) (rrc : RrcLayer) (clock : RlfClock)

theorem rlfGoToIdle_kept :
    (rlfGoToIdle s rrc).1.ctx.failedRecoveryCount = s.ctx.failedRecoveryCount
      ∧ (rlfGoToIdle s rrc).1.ctx.lastReestResult = s.ctx.lastReestResult := by
  rw [rlfGoToIdle_eq]
  dsimp only
  split
  · exact ⟨rfl, rfl⟩
  · exact ⟨rfl, rfl⟩

include h

theorem rlfAbortRecovery_kept (result : RlfReestResult) :
    (rlfAbortRecovery s rrc result).1.ctx.failedRecoveryCount = s.ctx.failedRecoveryCount + 1
      ∧ (rlfAbortRecovery s rrc result).1.ctx.lastReestResult = result := by
  rw [rlfAbortRecovery_eq h]
  exact rlfGoToIdle_kept rrc

/-- The handler of T311 counts a failure, so it does something. -/
theorem rlfHandleT311Expiry_ne : rlfHandleT311Expiry s rrc ≠ RlfAnswer.success s := by
  intro heq
  have hkept := (rlfAbortRecovery_kept h rrc .t311Expiry).1
  change (rlfHandleT311Expiry s rrc).1.ctx.failedRecoveryCount = _ at hkept
  rw [heq] at hkept
  change s.ctx.failedRecoveryCount = s.ctx.failedRecoveryCount + 1 at hkept
  bv_omega

theorem rlfHandleT301Expiry_ne : rlfHandleT301Expiry s rrc clock ≠ RlfAnswer.success s := by
  intro heq
  unfold rlfHandleT301Expiry at heq
  split at heq
  · rw [rlfStartReestablishment_eq h] at heq
    have hkept := congrArg (fun answer => answer.1.ctx.reestAttemptCount) heq
    change s.ctx.reestAttemptCount + 1 = s.ctx.reestAttemptCount at hkept
    bv_omega
  · have hkept := (rlfAbortRecovery_kept h rrc .t301Expiry).1
    rw [heq] at hkept
    change s.ctx.failedRecoveryCount = s.ctx.failedRecoveryCount + 1 at hkept
    bv_omega

theorem rlfHandleT301Expiry_ne_t311 : rlfHandleT301Expiry s rrc clock ≠ rlfHandleT311Expiry s rrc := by
  intro heq
  obtain ⟨hcount, hresult⟩ := rlfAbortRecovery_kept h rrc .t311Expiry
  change (rlfHandleT311Expiry s rrc).1.ctx.failedRecoveryCount = _ at hcount
  change (rlfHandleT311Expiry s rrc).1.ctx.lastReestResult = _ at hresult
  rw [← heq] at hcount hresult
  unfold rlfHandleT301Expiry at hcount hresult
  split at hcount
  · rw [rlfStartReestablishment_eq h] at hcount
    change s.ctx.failedRecoveryCount = s.ctx.failedRecoveryCount + 1 at hcount
    bv_omega
  · rename_i hleft
    rw [if_neg hleft, (rlfAbortRecovery_kept h rrc .t301Expiry).2] at hresult
    cases hresult

/-- Two handlers of T311 and T301, or none of them, do the same only if they are one. -/
theorem rlfHandleExpiry_eq_iff {handler : Option RlfTimer} {timer : RlfTimer}
    (hhandler : handler ≠ some .t310) (htimer : timer ≠ .t310) :
    rlfHandleExpiry s rrc clock handler = rlfHandleExpiry s rrc clock (some timer)
      ↔ handler = some timer := by
  refine ⟨fun heq => ?_, fun hsame => hsame ▸ rfl⟩
  cases timer with
  | t310 => exact absurd rfl htimer
  | t311 =>
      cases handler with
      | none => exact absurd heq.symm (rlfHandleT311Expiry_ne h rrc)
      | some found =>
          cases found with
          | t310 => exact absurd rfl hhandler
          | t311 => rfl
          | t301 => exact absurd heq (rlfHandleT301Expiry_ne_t311 h rrc clock)
  | t301 =>
      cases handler with
      | none => exact absurd heq.symm (rlfHandleT301Expiry_ne h rrc clock)
      | some found =>
          cases found with
          | t310 => exact absurd rfl hhandler
          | t311 => exact absurd heq.symm (rlfHandleT301Expiry_ne_t311 h rrc clock)
          | t301 => rfl

end Handlers

/-! ### Dispatch -/

namespace RlfContext

theorem OnlyExpired.firstExpired {ctx : RlfContext} {now : Word} {timer : RlfTimer}
    (h : ctx.OnlyExpired now timer) : ctx.firstExpired now = some timer := by
  have hother : ∀ other, other ≠ timer → ctx.expired now other = false := fun other hne =>
    Bool.not_eq_true _ ▸ fun hexpired => hne ((h other).mp hexpired)
  have hself := (h timer).mpr rfl
  rw [RlfContext.firstExpired]
  cases timer with
  | t310 => simp [hself]
  | t311 => simp [hself, hother .t310 (by decide)]
  | t301 => simp [hself, hother .t310 (by decide), hother .t311 (by decide)]

theorem handlerOf_t311_iff (ctx : RlfContext) :
    (ctx.stop .t311).handlerOf .t311 = some .t311 ↔ ctx.t311StartTime > 0 := by
  change (if ctx.t311StartTime > 0 ∧ (!false) = true then some RlfTimer.t311
    else if ctx.t301StartTime > 0 ∧ (!ctx.t301Running) = true then some .t301 else none) = some .t311 ↔ _
  split
  · rename_i hstarted
    exact iff_of_true rfl hstarted.1
  · rename_i hnot
    refine iff_of_false ?_ fun hstarted => hnot ⟨hstarted, rfl⟩
    split
    · decide
    · decide

theorem handlerOf_t301_iff (ctx : RlfContext) :
    (ctx.stop .t301).handlerOf .t301 = some .t301
      ↔ ctx.t301StartTime > 0 ∧ ¬(ctx.t311StartTime > 0 ∧ ctx.t311Running = false) := by
  change (if ctx.t311StartTime > 0 ∧ (!ctx.t311Running) = true then some RlfTimer.t311
    else if ctx.t301StartTime > 0 ∧ (!false) = true then some .t301 else none) = some .t301 ↔ _
  simp only [Bool.not_eq_true']
  split
  · rename_i hstale
    refine iff_of_false (by decide) fun hright => hright.2 hstale
  · rename_i hfresh
    split
    · rename_i hstarted
      exact iff_of_true rfl ⟨hstarted.1, hfresh⟩
    · rename_i hnot
      refine iff_of_false (by decide) fun hright => hnot ⟨hright.1, trivial⟩

end RlfContext

theorem rlfDispatchesRight_iff {s : RlfUe} (h : s.locked = false) (rrc : RrcLayer) (clock : RlfClock) :
    s.DispatchesRight rrc clock
      ↔ (s.ctx.OnlyExpired clock.check .t311 → s.ctx.t311StartTime > 0)
        ∧ (s.ctx.OnlyExpired clock.check .t301 →
            s.ctx.t301StartTime > 0 ∧ ¬(s.ctx.t311StartTime > 0 ∧ s.ctx.t311Running = false)) := by
  have hright : ∀ timer, timer ≠ .t310 → s.ctx.OnlyExpired clock.check timer →
      (rlfCheckTimers s rrc clock
          = rlfHandleExpiry { s with ctx := s.ctx.stop timer } rrc clock (some timer)
        ↔ (s.ctx.stop timer).handlerOf timer = some timer) := by
    intro timer hother honly
    have hfree : { s with ctx := s.ctx.stop timer }.locked = false := h
    rw [rlfCheckTimers_of_some h rrc clock honly.firstExpired]
    exact rlfHandleExpiry_eq_iff hfree rrc clock (RlfContext.handlerOf_ne hother) hother
  constructor
  · intro hdispatch
    refine ⟨fun honly => ?_, fun honly => ?_⟩
    · exact (RlfContext.handlerOf_t311_iff _).mp ((hright .t311 (by decide) honly).mp (hdispatch _ honly))
    · exact (RlfContext.handlerOf_t301_iff _).mp ((hright .t301 (by decide) honly).mp (hdispatch _ honly))
  · rintro ⟨ht311, ht301⟩ timer honly
    cases timer with
    | t310 => rw [rlfCheckTimers_of_some h rrc clock honly.firstExpired]; rfl
    | t311 =>
        exact (hright .t311 (by decide) honly).mpr ((RlfContext.handlerOf_t311_iff _).mpr (ht311 honly))
    | t301 =>
        exact (hright .t301 (by decide) honly).mpr ((RlfContext.handlerOf_t301_iff _).mpr (ht301 honly))

theorem RlfCall.good_iff (s : RlfUe) (call : RlfCall) : call.Good s ↔ call.Safe s := by
  refine forall_congr' fun hfree => ?_
  have hlock := withLock_returns hfree
  cases call with
  | configure config => exact iff_of_true ⟨hlock _, trivial⟩ trivial
  | syncIndication clock indication =>
      rw [and_iff_left trivial]
      refine (rlfHandleSyncIndication_returns_iff hfree clock indication).trans ?_
      cases indication with
      | outOfSync => exact iff_of_true (by intro hindication; cases hindication) trivial
      | inSync => exact imp_iff_right rfl
  | startT310 now => exact iff_of_true ⟨hlock _, trivial⟩ trivial
  | stopT310 => exact iff_of_true ⟨hlock _, trivial⟩ trivial
  | startT311 now => exact iff_of_true ⟨hlock _, trivial⟩ trivial
  | stopT311 => exact iff_of_true ⟨hlock _, trivial⟩ trivial
  | startT301 now => exact iff_of_true ⟨hlock _, trivial⟩ trivial
  | stopT301 => exact iff_of_true ⟨hlock _, trivial⟩ trivial
  | t310Expiry rrc clock => exact iff_of_true ⟨rlfDeclareFailure_returns hfree rrc clock, trivial⟩ trivial
  | t311Expiry rrc => exact iff_of_true ⟨rlfAbortRecovery_returns hfree rrc _, trivial⟩ trivial
  | t301Expiry rrc clock => exact iff_of_true ⟨rlfHandleT301Expiry_returns hfree rrc clock, trivial⟩ trivial
  | detectFailure rrc clock cause =>
      exact iff_of_true ⟨rlfDeclareFailure_returns hfree rrc clock, trivial⟩ trivial
  | declareFailure rrc clock =>
      exact iff_of_true ⟨rlfDeclareFailure_returns hfree rrc clock, trivial⟩ trivial
  | initiateRecovery rrc clock =>
      exact iff_of_true ⟨rlfInitiateRecovery_returns hfree rrc clock, trivial⟩ trivial
  | startReestablishment rrc clock =>
      exact iff_of_true ⟨rlfStartReestablishment_returns hfree rrc clock, trivial⟩ trivial
  | reestablishmentResponse rrc success =>
      refine iff_of_true ⟨?_, trivial⟩ trivial
      cases success with
      | true => exact rlfCompleteRecovery_returns hfree
      | false => exact rlfAbortRecovery_returns hfree rrc _
  | completeRecovery => exact iff_of_true ⟨rlfCompleteRecovery_returns hfree, trivial⟩ trivial
  | abortRecovery rrc result =>
      exact iff_of_true ⟨rlfAbortRecovery_returns hfree rrc result, trivial⟩ trivial
  | backupState => exact iff_of_true ⟨hlock _, trivial⟩ trivial
  | restoreState rrc => exact iff_of_true ⟨Option.some_ne_none _, trivial⟩ trivial
  | triggerCellReselection rrc => exact iff_of_true ⟨rlfGoToIdle_returns rrc, trivial⟩ trivial
  | goToIdle rrc => exact iff_of_true ⟨rlfGoToIdle_returns rrc, trivial⟩ trivial
  | checkTimers rrc clock =>
      exact (and_iff_right (rlfCheckTimers_returns hfree rrc clock)).trans
        (rlfDispatchesRight_iff hfree rrc clock)
  | resetStats => exact iff_of_true ⟨hlock _, trivial⟩ trivial
  | getStats => exact iff_of_true ⟨hlock _, trivial⟩ trivial
  | ueChanges ue => exact iff_of_true ⟨Option.some_ne_none _, trivial⟩ trivial

/-- **All calls of a run are good exactly when all of them are safe**, in the states in which they come. -/
theorem rlfCalls_good_iff (ue : UeContext) (config : RlfConfig) (calls : List RlfCall) :
    Runs.Always RlfCall.step (fun s call => call.Good s) (rlfInit ue config) calls
      ↔ Runs.Always RlfCall.step (fun s call => call.Safe s) (rlfInit ue config) calls :=
  Runs.always_congr RlfCall.good_iff _ calls

/-- With N311 of one the second indication does not come back. And once T311 was started and stopped, the
expiry of T301 is handled as that of T311. -/
theorem rlfCalls_not_good :
    ¬Runs.Always RlfCall.step (fun s call => call.Good s) (rlfTwoUe 1 1)
        [.syncIndication rlfNoon .outOfSync, .syncIndication rlfNoon .inSync]
      ∧ ¬Runs.Always RlfCall.step (fun s call => call.Good s) (rlfTwoUe 1 2)
          [.startT311 100, .stopT311, .startT301 200,
            .checkTimers ⟨rrcChangeState, fun ue => (ue, .ok ()), fun _ => true⟩
              { rlfNoon with check := 1200 }] := by
  constructor
  · intro h
    exact (h.2.1 rfl).1 rfl
  · intro h
    have hright := ((RlfCall.good_iff _ _).mp h.2.2.2.1 rfl).2
    refine (hright fun other => ?_).2 ⟨by decide, rfl⟩
    cases other with
    | t310 => decide
    | t311 => decide
    | t301 => decide

end Uesim
