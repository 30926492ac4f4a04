import Uesim.Rrc.SyncIndications

/-!
# The life cycle of a radio link failure

A context watches the link, recovers from a failure, or has given up. The counts and the timers fit these
phases as long as a failure is declared only where attempts are left and none is under way, a response comes
only while one is, and the UE does not go to IDLE with T310 running or in the middle of a recovery.
-/

namespace Uesim

open Bytes

/-- The calls of the radio link failure interface, with what the RRC layer does and the time. Between them the
UE may be changed by others. -/
inductive RlfOp where
  | syncIndication (clock : RlfClock) (indication : SyncIndication)
  | detectFailure (rrc : RrcLayer) (clock : RlfClock) (cause : RlfCause)
  | reestablishmentResponse (rrc : RrcLayer) (success : Bool)
  | triggerCellReselection (rrc : RrcLayer)
  | goToIdle (rrc : RrcLayer)
  | checkTimers (rrc : RrcLayer) (clock : RlfClock)
  | ueChanges (ue : UeContext)

def rlfAnswerTo (s : RlfUe) : RlfOp → RlfAnswer
  | .syncIndication clock indication => rlfHandleSyncIndication s clock indication
  | .detectFailure rrc clock cause => rlfDetectFailure s rrc clock cause
  | .reestablishmentResponse rrc success => rlfHandleReestablishmentResponse s rrc success
  | .triggerCellReselection rrc => rlfTriggerCellReselection s rrc
  | .goToIdle rrc => rlfGoToIdle s rrc
  | .checkTimers rrc clock => rlfCheckTimers s rrc clock
  | .ueChanges ue => RlfAnswer.success { s with ue }

def rlfStep (s : RlfUe) (op : RlfOp) : RlfUe := (rlfAnswerTo s op).1

/-- `rlf_is_detected`: a failure is declared and neither recovered from nor given up. -/
def RlfContext.IsDetected (ctx : RlfContext) : Prop :=
  ctx.currentState = .detected ∨ ctx.currentState = .reestablishing

instance (ctx : RlfContext) : Decidable ctx.IsDetected := inferInstanceAs (Decidable (_ ∨ _))

/-- What the state of a context says about its timers and counts. -/
structure RlfContext.LifeCycle (ctx : RlfContext) : Prop where
  t310 : ctx.t310Running = true →
    ctx.currentState = .outOfSync ∨ ctx.currentState = .t310Running ∨ ctx.currentState = .inSyncRecovery
  recovery : ctx.t311Running = true ∨ ctx.t301Running = true → ctx.IsDetected
  attempts : ctx.reestAttemptCount ≤ ctx.maxReestAttempts
  balance : ctx.totalRlfCount = ctx.successfulRecoveryCount + ctx.failedRecoveryCount
    + if ctx.IsDetected then 1 else 0

/-- The operations that keep the life cycle. One that finds the mutex held does nothing, but going to IDLE
does not look at the mutex. -/
def RlfOp.Safe (s : RlfUe) : RlfOp → Prop
  | .detectFailure _ _ _ =>
      s.locked = false → ¬s.ctx.IsDetected ∧ s.ctx.reestAttemptCount < s.ctx.maxReestAttempts
  | .reestablishmentResponse _ _ => s.locked = false → s.ctx.IsDetected
  | .triggerCellReselection rrc | .goToIdle rrc =>
      (rrc.changeState s.ue .idle).2 = .ok () → s.ctx.t310Running = false ∧ ¬s.ctx.IsDetected
  | .syncIndication _ _ | .checkTimers _ _ | .ueChanges _ => True

/-! ### Phases -/

namespace RlfContext

/-- No failure is declared, or the last one is recovered from. -/
structure Watching (ctx : RlfContext) : Prop where
  maxReestAttempts : ctx.maxReestAttempts = 3
  attempts : ctx.reestAttemptCount = 0
  t311 : ctx.t311Running = false
  t301 : ctx.t301Running = false
  t310 : ctx.t310Running = true → ctx.currentState ≠ .normal
  currentState : ctx.currentState = .normal ∨ ctx.currentState = .outOfSync
    ∨ ctx.currentState = .t310Running ∨ ctx.currentState = .inSyncRecovery
  balance : ctx.totalRlfCount = ctx.successfulRecoveryCount + ctx.failedRecoveryCount

/-- A reestablishment is under way. -/
structure Recovering (ctx : RlfContext) : Prop where
  maxReestAttempts : ctx.maxReestAttempts = 3
  attempts : ctx.reestAttemptCount ≤ 3
  t310 : ctx.t310Running = false
  currentState : ctx.currentState = .reestablishing
  balance : ctx.totalRlfCount = ctx.successfulRecoveryCount + ctx.failedRecoveryCount + 1

/-- A recovery was aborted, and the UE did not get to IDLE. -/
structure Abandoned (ctx : RlfContext) : Prop where
  maxReestAttempts : ctx.maxReestAttempts = 3
  attempts : ctx.reestAttemptCount ≤ 3
  t310 : ctx.t310Running = false
  t311 : ctx.t311Running = false
  t301 : ctx.t301Running = false
  currentState : ctx.currentState = .failed
  balance : ctx.totalRlfCount = ctx.successfulRecoveryCount + ctx.failedRecoveryCount

def Regular (ctx : RlfContext) : Prop := ctx.Watching ∨ ctx.Recovering ∨ ctx.Abandoned

variable {ctx : RlfContext}

theorem Watching.not_isDetected (h : ctx.Watching) : ¬ctx.IsDetected := by
  rintro (hdetected | hdetected) <;>
    rcases h.currentState with hstate | hstate | hstate | hstate <;>
      exact absurd (hdetected.symm.trans hstate) (by decide)

theorem Abandoned.not_isDetected (h : ctx.Abandoned) : ¬ctx.IsDetected := by
  rintro (hdetected | hdetected) <;> exact absurd (hdetected.symm.trans h.currentState) (by decide)

theorem Recovering.isDetected (h : ctx.Recovering) : ctx.IsDetected := Or.inr h.currentState

theorem balance_of_not_isDetected (h : ctx.LifeCycle) (hnot : ¬ctx.IsDetected) :
    ctx.totalRlfCount = ctx.successfulRecoveryCount + ctx.failedRecoveryCount := by
  have hbalance := h.balance
  rw [if_neg hnot] at hbalance
  exact hbalance.trans (BitVec.add_zero _)

theorem Watching.lifeCycle (h : ctx.Watching) : ctx.LifeCycle where
  t310 hrunning := h.currentState.resolve_left (h.t310 hrunning)
  recovery htimer := by
    rw [h.t311, h.t301] at htimer
    exact absurd htimer (by decide)
  attempts := by
    rw [h.attempts, h.maxReestAttempts]
    decide
  balance := by
    rw [if_neg h.not_isDetected]
    exact h.balance.trans (BitVec.add_zero _).symm

theorem Recovering.lifeCycle (h : ctx.Recovering) : ctx.LifeCycle where
  t310 hrunning := absurd (h.t310.symm.trans hrunning) Bool.false_ne_true
  recovery _ := h.isDetected
  attempts := by
    rw [h.maxReestAttempts]
    exact h.attempts
  balance := by
    rw [if_pos h.isDetected]
    exact h.balance

theorem Abandoned.lifeCycle (h : ctx.Abandoned) : ctx.LifeCycle where
  t310 hrunning := absurd (h.t310.symm.trans hrunning) Bool.false_ne_true
  recovery htimer := by
    rw [h.t311, h.t301] at htimer
    exact absurd htimer (by decide)
  attempts := by
    rw [h.maxReestAttempts]
    exact h.attempts
  balance := by
    rw [if_neg h.not_isDetected]
    exact h.balance.trans (BitVec.add_zero _).symm

theorem Regular.lifeCycle (h : ctx.Regular) : ctx.LifeCycle := by
  rcases h with hwatching | hrecovering | habandoned
  · exact hwatching.lifeCycle
  · exact hrecovering.lifeCycle
  · exact habandoned.lifeCycle

/-! ### From phase to phase -/

theorem Watching.moves (h : ctx.Watching) {state : RlfState}
    (hstate : state = .outOfSync ∨ state = .t310Running ∨ state = .inSyncRecovery) (start : Word)
    (running : Bool) :
    { ctx with currentState := state, t310StartTime := start, t310Running := running }.Watching where
  maxReestAttempts := h.maxReestAttempts
  attempts := h.attempts
  t311 := h.t311
  t301 := h.t301
  t310 _ := by
    change state ≠ .normal
    rcases hstate with rfl | rfl | rfl <;> decide
  currentState := Or.inr hstate
  balance := h.balance

theorem Watching.ofIndications (h : ctx.Watching) (outOfSyncCount inSyncCount : Byte)
    (totalOutOfSync totalInSync : BitVec 64) :
    { ctx with
      outOfSyncCount, inSyncCount
      totalOutOfSyncIndications := totalOutOfSync
      totalInSyncIndications := totalInSync }.Watching :=
  ⟨h.maxReestAttempts, h.attempts, h.t311, h.t301, h.t310, h.currentState, h.balance⟩

theorem Watching.countOutOfSync (h : ctx.Watching) : ctx.countOutOfSync.Watching :=
  (h.moves (Or.inl rfl) ctx.t310StartTime ctx.t310Running).ofIndications _ _ _ ctx.totalInSyncIndications

theorem Watching.startT310 (h : ctx.Watching) (now : Word) : (ctx.startT310 now).Watching :=
  h.moves (Or.inr (Or.inl rfl)) now true

theorem Watching.countInSync (h : ctx.Watching) : ctx.countInSync.Watching :=
  (h.moves (Or.inr (Or.inr rfl)) ctx.t310StartTime ctx.t310Running).ofIndications _ _
    ctx.totalOutOfSyncIndications _

theorem Regular.ofIndications (h : ctx.Regular) (outOfSyncCount inSyncCount : Byte)
    (totalOutOfSync totalInSync : BitVec 64) :
    { ctx with
      outOfSyncCount, inSyncCount
      totalOutOfSyncIndications := totalOutOfSync
      totalInSyncIndications := totalInSync }.Regular := by
  rcases h with h | h | h
  · exact Or.inl (h.ofIndications outOfSyncCount inSyncCount totalOutOfSync totalInSync)
  · exact Or.inr (Or.inl ⟨h.maxReestAttempts, h.attempts, h.t310, h.currentState, h.balance⟩)
  · exact Or.inr (Or.inr
      ⟨h.maxReestAttempts, h.attempts, h.t310, h.t311, h.t301, h.currentState, h.balance⟩)

theorem Regular.watching (h : ctx.Regular)
    (hstate : ctx.currentState = .normal ∨ ctx.currentState = .t310Running
      ∨ ctx.currentState = .inSyncRecovery) : ctx.Watching := by
  rcases h with hwatching | hrecovering | habandoned
  · exact hwatching
  · rw [hrecovering.currentState] at hstate
    exact absurd hstate (by decide)
  · rw [habandoned.currentState] at hstate
    exact absurd hstate (by decide)

theorem Recovering.completed (h : ctx.Recovering) :
    { ctx.complete with currentState := .normal }.Watching where
  maxReestAttempts := h.maxReestAttempts
  attempts := rfl
  t311 := rfl
  t301 := rfl
  t310 hrunning := absurd hrunning Bool.false_ne_true
  currentState := Or.inl rfl
  balance := by
    change ctx.totalRlfCount = ctx.successfulRecoveryCount + 1 + ctx.failedRecoveryCount
    rw [h.balance]
    ac_rfl

theorem Recovering.aborted (h : ctx.Recovering) (result : RlfReestResult) :
    (ctx.abort result).Abandoned where
  maxReestAttempts := h.maxReestAttempts
  attempts := h.attempts
  t310 := rfl
  t311 := rfl
  t301 := rfl
  currentState := rfl
  balance := by
    change ctx.totalRlfCount = ctx.successfulRecoveryCount + (ctx.failedRecoveryCount + 1)
    rw [h.balance]
    ac_rfl

theorem Abandoned.idle (h : ctx.Abandoned) : ctx.idle.Watching where
  maxReestAttempts := h.maxReestAttempts
  attempts := rfl
  t311 := h.t311
  t301 := h.t301
  t310 hrunning := absurd (h.t310.symm.trans hrunning) Bool.false_ne_true
  currentState := Or.inl rfl
  balance := h.balance

theorem Watching.idle (h : ctx.Watching) (hstopped : ctx.t310Running = false) : ctx.idle.Watching where
  maxReestAttempts := h.maxReestAttempts
  attempts := rfl
  t311 := h.t311
  t301 := h.t301
  t310 hrunning := absurd (hstopped.symm.trans hrunning) Bool.false_ne_true
  currentState := Or.inl rfl
  balance := h.balance

theorem attempts_succ {count max : Byte} (hmax : max = 3) (hless : count < max) : count + 1 ≤ 3 := by
  subst hmax
  bv_omega

theorem Recovering.begin (h : ctx.Recovering) (hleft : ctx.reestAttemptCount < ctx.maxReestAttempts)
    (now : Word) : (ctx.begin now).Recovering where
  maxReestAttempts := h.maxReestAttempts
  attempts := attempts_succ h.maxReestAttempts hleft
  t310 := h.t310
  currentState := rfl
  balance := h.balance

theorem Regular.recovering (h : ctx.Regular) (hdetected : ctx.IsDetected) : ctx.Recovering := by
  rcases h with hwatching | hrecovering | habandoned
  · exact absurd hdetected hwatching.not_isDetected
  · exact hrecovering
  · exact absurd hdetected habandoned.not_isDetected

theorem Regular.maxReestAttempts (h : ctx.Regular) : ctx.maxReestAttempts = 3 := by
  rcases h with h | h | h <;> exact h.maxReestAttempts

theorem Regular.attempts_le (h : ctx.Regular) : ctx.reestAttemptCount ≤ 3 := by
  have hattempts := h.lifeCycle.attempts
  rwa [h.maxReestAttempts] at hattempts

theorem Regular.declared (h : ctx.Regular) (hnot : ¬ctx.IsDetected)
    (hleft : ctx.reestAttemptCount < ctx.maxReestAttempts) (preRlfState : RrcState) (t311 t301 : Word) :
    ((ctx.recovering preRlfState t311).begin t301).Recovering := by
  exact
    { maxReestAttempts := h.maxReestAttempts
      attempts := attempts_succ h.maxReestAttempts hleft
      t310 := rfl
      currentState := rfl
      balance := congrArg (· + 1) (balance_of_not_isDetected h.lifeCycle hnot) }

theorem Watching.stop (h : ctx.Watching) : (ctx.stop .t310).Watching where
  maxReestAttempts := h.maxReestAttempts
  attempts := h.attempts
  t311 := h.t311
  t301 := h.t301
  t310 hrunning := absurd hrunning Bool.false_ne_true
  currentState := h.currentState
  balance := h.balance

theorem Recovering.stop (h : ctx.Recovering) (timer : RlfTimer) : (ctx.stop timer).Recovering := by
  cases timer with
  | t310 => exact ⟨h.maxReestAttempts, h.attempts, rfl, h.currentState, h.balance⟩
  | t311 => exact ⟨h.maxReestAttempts, h.attempts, h.t310, h.currentState, h.balance⟩
  | t301 => exact ⟨h.maxReestAttempts, h.attempts, h.t310, h.currentState, h.balance⟩

theorem Watching.hasAttempts (h : ctx.Watching) : ctx.reestAttemptCount < ctx.maxReestAttempts := by
  rw [h.attempts, h.maxReestAttempts]
  decide

end RlfContext

/-! ### Operations -/

section Operations

open RlfContext

variable {s : RlfUe} (rrc : RrcLayer) (clock : RlfClock)

theorem rlfHandleSyncIndication_regular (h : s.ctx.Regular) (indication : SyncIndication) :
    (rlfHandleSyncIndication s clock indication).1.ctx.Regular := by
  unfold rlfHandleSyncIndication
  split
  · exact h
  · rename_i hfree
    rw [Bool.not_eq_true] at hfree
    cases indication with
    | outOfSync =>
        dsimp only
        rw [rlfHandleOutOfSync_eq hfree]
        split
        · exact h.ofIndications s.ctx.outOfSyncCount s.ctx.inSyncCount _ s.ctx.totalInSyncIndications
        · split
          · rename_i hstate
            have hwatching := h.watching (hstate.imp_right Or.inr)
            split
            · exact Or.inl (hwatching.countOutOfSync.startT310 clock.t310)
            · exact Or.inl hwatching.countOutOfSync
          · exact h.ofIndications s.ctx.outOfSyncCount 0 _ s.ctx.totalInSyncIndications
    | inSync =>
        dsimp only
        rw [rlfHandleInSync_eq]
        split
        · rename_i hstate
          have hwatching := h.watching (Or.inr (Or.inl hstate))
          split
          · exact Or.inl hwatching.countInSync
          · exact Or.inl hwatching.countInSync
        · exact h.ofIndications 0 s.ctx.inSyncCount s.ctx.totalOutOfSyncIndications _

theorem rlfGoToIdle_ctx_of_ok (hok : (rrc.changeState s.ue .idle).2 = .ok ()) :
    (rlfGoToIdle s rrc).1.ctx = s.ctx.idle := by
  rw [rlfGoToIdle_eq]
  exact if_pos hok

theorem rlfGoToIdle_ctx_of_not_ok (hnot : (rrc.changeState s.ue .idle).2 ≠ .ok ()) :
    (rlfGoToIdle s rrc).1.ctx = s.ctx := by
  rw [rlfGoToIdle_eq]
  exact if_neg hnot

theorem rlfGoToIdle_regular (h : s.ctx.Regular)
    (hsafe : (rrc.changeState s.ue .idle).2 = .ok () →
      s.ctx.t310Running = false ∧ ¬s.ctx.IsDetected) : (rlfGoToIdle s rrc).1.ctx.Regular := by
  by_cases hok : (rrc.changeState s.ue .idle).2 = .ok ()
  · obtain ⟨hstopped, hnot⟩ := hsafe hok
    rw [rlfGoToIdle_ctx_of_ok rrc hok]
    rcases h with hwatching | hrecovering | habandoned
    · exact Or.inl (hwatching.idle hstopped)
    · exact absurd hrecovering.isDetected hnot
    · exact Or.inl habandoned.idle
  · rw [rlfGoToIdle_ctx_of_not_ok rrc hok]
    exact h

/-- Whoever is in IDLE is in NORMAL, where no timer runs and no recovery is under way. -/
theorem safe_of_idle_lifeCycle (h : s.ctx.Regular) (hlife : (rlfGoToIdle s rrc).1.ctx.LifeCycle)
    (hok : (rrc.changeState s.ue .idle).2 = .ok ()) : s.ctx.t310Running = false ∧ ¬s.ctx.IsDetected := by
  rw [rlfGoToIdle_ctx_of_ok rrc hok] at hlife
  have hnormal : ¬s.ctx.idle.IsDetected := by
    rintro (hstate | hstate) <;> cases hstate
  constructor
  · by_contra hrunning
    rw [Bool.not_eq_false] at hrunning
    rcases hlife.t310 hrunning with hstate | hstate | hstate <;> cases hstate
  · intro hdetected
    have hbefore := h.lifeCycle.balance
    rw [if_pos hdetected] at hbefore
    have hafter := balance_of_not_isDetected hlife hnormal
    change s.ctx.totalRlfCount = s.ctx.successfulRecoveryCount + s.ctx.failedRecoveryCount at hafter
    bv_omega

theorem rlfAbortRecovery_regular (h : s.ctx.Recovering) (hfree : s.locked = false)
    (result : RlfReestResult) : (rlfAbortRecovery s rrc result).1.ctx.Regular := by
  rw [rlfAbortRecovery_eq hfree]
  have habandoned := h.aborted result
  refine rlfGoToIdle_regular rrc (Or.inr (Or.inr habandoned)) fun _ => ?_
  exact ⟨habandoned.t310, habandoned.not_isDetected⟩

theorem rlfAbortRecovery_balance (hfree : s.locked = false) (result : RlfReestResult)
    (hlife : (rlfAbortRecovery s rrc result).1.ctx.LifeCycle) :
    s.ctx.totalRlfCount = s.ctx.successfulRecoveryCount + (s.ctx.failedRecoveryCount + 1) := by
  rw [rlfAbortRecovery_eq hfree] at hlife
  by_cases hok : (rrc.changeState s.ue .idle).2 = .ok ()
  · rw [rlfGoToIdle_ctx_of_ok (s := { s with ctx := s.ctx.abort result }) rrc hok] at hlife
    have hnot : ¬(s.ctx.abort result).idle.IsDetected := by
      rintro (hstate | hstate) <;> cases hstate
    exact balance_of_not_isDetected hlife hnot
  · rw [rlfGoToIdle_ctx_of_not_ok (s := { s with ctx := s.ctx.abort result }) rrc hok] at hlife
    have hnot : ¬(s.ctx.abort result).IsDetected := by
      rintro (hstate | hstate) <;> cases hstate
    exact balance_of_not_isDetected hlife hnot

theorem rlfResponse_regular (h : s.ctx.Regular) (hsafe : s.locked = false → s.ctx.IsDetected)
    (success : Bool) : (rlfHandleReestablishmentResponse s rrc success).1.ctx.Regular := by
  cases hlocked : s.locked with
  | true =>
      cases success with
      | true =>
          change (rlfCompleteRecovery s).1.ctx.Regular
          rw [rlfCompleteRecovery_locked hlocked]
          exact h
      | false =>
          change (rlfAbortRecovery s rrc .networkReject).1.ctx.Regular
          rw [rlfAbortRecovery_locked hlocked]
          exact h
  | false =>
      have hrecovering := h.recovering (hsafe hlocked)
      cases success with
      | true =>
          change (rlfCompleteRecovery s).1.ctx.Regular
          rw [rlfCompleteRecovery_eq hlocked]
          exact Or.inl hrecovering.completed
      | false => exact rlfAbortRecovery_regular rrc hrecovering hlocked .networkReject

theorem safe_of_response_lifeCycle (h : s.ctx.Regular) {success : Bool}
    (hlife : (rlfHandleReestablishmentResponse s rrc success).1.ctx.LifeCycle) (hfree : s.locked = false) :
    s.ctx.IsDetected := by
  by_contra hnot
  have hbefore := balance_of_not_isDetected h.lifeCycle hnot
  cases success with
  | true =>
      change (rlfCompleteRecovery s).1.ctx.LifeCycle at hlife
      rw [rlfCompleteRecovery_eq hfree] at hlife
      have hnormal : ¬{ s.ctx.complete with currentState := .normal }.IsDetected := by
        rintro (hstate | hstate) <;> cases hstate
      have hafter := balance_of_not_isDetected hlife hnormal
      change s.ctx.totalRlfCount = s.ctx.successfulRecoveryCount + 1 + s.ctx.failedRecoveryCount at hafter
      bv_omega
  | false =>
      have hafter := rlfAbortRecovery_balance rrc hfree .networkReject hlife
      bv_omega

theorem rlfDeclareFailure_regular (h : s.ctx.Regular)
    (hsafe : s.locked = false → ¬s.ctx.IsDetected ∧ s.ctx.reestAttemptCount < s.ctx.maxReestAttempts) :
    (rlfDeclareFailure s rrc clock).1.ctx.Regular := by
  cases hlocked : s.locked with
  | true =>
      rw [rlfDeclareFailure_locked hlocked]
      exact h
  | false =>
      obtain ⟨hnot, hleft⟩ := hsafe hlocked
      rw [rlfDeclareFailure_ctx hlocked]
      exact Or.inr (Or.inl (h.declared hnot hleft s.ue.currentState clock.t311 clock.t301))

theorem safe_of_declare_lifeCycle (h : s.ctx.Regular)
    (hlife : (rlfDeclareFailure s rrc clock).1.ctx.LifeCycle) (hfree : s.locked = false) :
    ¬s.ctx.IsDetected ∧ s.ctx.reestAttemptCount < s.ctx.maxReestAttempts := by
  rw [rlfDeclareFailure_ctx hfree] at hlife
  obtain ⟨-, -, hattempts, hafter⟩ := hlife
  have hdetected : ((s.ctx.recovering s.ue.currentState clock.t311).begin clock.t301).IsDetected := Or.inr rfl
  rw [if_pos hdetected] at hafter
  change s.ctx.totalRlfCount + 1 = s.ctx.successfulRecoveryCount + s.ctx.failedRecoveryCount + 1 at hafter
  change s.ctx.reestAttemptCount + 1 ≤ s.ctx.maxReestAttempts at hattempts
  constructor
  · intro hdetected
    have hbefore := h.lifeCycle.balance
    rw [if_pos hdetected] at hbefore
    bv_omega
  · have hbound := h.attempts_le
    rw [h.maxReestAttempts] at hattempts ⊢
    bv_omega

theorem rlfHandleExpiry_regular (h : s.ctx.Recovering) (hfree : s.locked = false) :
    ∀ handler, handler ≠ some .t310 → (rlfHandleExpiry s rrc clock handler).1.ctx.Regular := by
  intro handler hhandler
  cases handler with
  | none => exact Or.inr (Or.inl h)
  | some timer =>
      cases timer with
      | t310 => exact absurd rfl hhandler
      | t311 => exact rlfAbortRecovery_regular rrc h hfree .t311Expiry
      | t301 =>
          change (rlfHandleT301Expiry s rrc clock).1.ctx.Regular
          unfold rlfHandleT301Expiry
          split
          · rename_i hleft
            rw [rlfStartReestablishment_eq hfree]
            exact Or.inr (Or.inl (h.begin hleft clock.t301))
          · exact rlfAbortRecovery_regular rrc h hfree .t301Expiry

theorem rlfCheckTimers_regular (h : s.ctx.Regular) : (rlfCheckTimers s rrc clock).1.ctx.Regular := by
  unfold rlfCheckTimers
  split
  · exact h
  · rename_i hfree
    rw [Bool.not_eq_true] at hfree
    split
    · exact h
    · rename_i timer hexpired
      have hrunning : s.ctx.running timer = true := by
        have hfound := List.find?_some hexpired
        exact (Bool.and_eq_true_iff.mp hfound).1
      rcases h with hwatching | hrecovering | habandoned
      · cases timer with
        | t310 =>
            have hstopped := hwatching.stop
            exact rlfDeclareFailure_regular (s := { s with ctx := s.ctx.stop .t310 }) rrc clock
              (Or.inl hstopped) fun _ => ⟨hstopped.not_isDetected, hstopped.hasAttempts⟩
        | t311 => exact absurd (hwatching.t311.symm.trans hrunning) Bool.false_ne_true
        | t301 => exact absurd (hwatching.t301.symm.trans hrunning) Bool.false_ne_true
      · cases timer with
        | t310 => exact absurd (hrecovering.t310.symm.trans hrunning) Bool.false_ne_true
        | t311 =>
            exact rlfHandleExpiry_regular (s := { s with ctx := s.ctx.stop .t311 }) rrc clock
              (hrecovering.stop .t311) hfree _ (handlerOf_ne (by decide))
        | t301 =>
            exact rlfHandleExpiry_regular (s := { s with ctx := s.ctx.stop .t301 }) rrc clock
              (hrecovering.stop .t301) hfree _ (handlerOf_ne (by decide))
      · cases timer with
        | t310 => exact absurd (habandoned.t310.symm.trans hrunning) Bool.false_ne_true
        | t311 => exact absurd (habandoned.t311.symm.trans hrunning) Bool.false_ne_true
        | t301 => exact absurd (habandoned.t301.symm.trans hrunning) Bool.false_ne_true

theorem rlfStep_regular (op : RlfOp) (h : s.ctx.Regular) (hsafe : op.Safe s) :
    (rlfStep s op).ctx.Regular := by
  cases op with
  | syncIndication clock indication => exact rlfHandleSyncIndication_regular clock h indication
  | detectFailure rrc clock cause => exact rlfDeclareFailure_regular rrc clock h hsafe
  | reestablishmentResponse rrc success => exact rlfResponse_regular rrc h hsafe success
  | triggerCellReselection rrc => exact rlfGoToIdle_regular rrc h hsafe
  | goToIdle rrc => exact rlfGoToIdle_regular rrc h hsafe
  | checkTimers rrc clock => exact rlfCheckTimers_regular rrc clock h
  | ueChanges ue => exact h

theorem rlfStep_lifeCycle_iff (op : RlfOp) (h : s.ctx.Regular) :
    (rlfStep s op).ctx.LifeCycle ↔ op.Safe s := by
  constructor
  · intro hlife
    cases op with
    | syncIndication clock indication => trivial
    | detectFailure rrc clock cause => exact safe_of_declare_lifeCycle rrc clock h hlife
    | reestablishmentResponse rrc success => exact safe_of_response_lifeCycle rrc h hlife
    | triggerCellReselection rrc => exact safe_of_idle_lifeCycle rrc h hlife
    | goToIdle rrc => exact safe_of_idle_lifeCycle rrc h hlife
    | checkTimers rrc clock => trivial
    | ueChanges ue => trivial
  · exact fun hsafe => (rlfStep_regular op h hsafe).lifeCycle

end Operations

theorem rlfInit_regular (ue : UeContext) (config : RlfConfig) : (rlfInit ue config).ctx.Regular :=
  Or.inl ⟨rfl, rfl, rfl, rfl, fun hrunning => absurd hrunning Bool.false_ne_true, Or.inl rfl, rfl⟩

/-- **The life cycle is kept throughout a run exactly when every operation is safe where it comes.** -/
theorem rlfLifeCycle_throughout_iff (ue : UeContext) (config : RlfConfig) (ops : List RlfOp) :
    Runs.Throughout rlfStep (fun s => s.ctx.LifeCycle) (rlfInit ue config) ops
      ↔ Runs.Always rlfStep RlfOp.Safe (rlfInit ue config) ops := by
  have hlife : ∀ s : RlfUe, s.ctx.Regular → s.ctx.LifeCycle := fun s h => h.lifeCycle
  exact Runs.throughout_iff hlife (fun s op h => rlfStep_lifeCycle_iff op h)
    (fun s op h hsafe => rlfStep_regular op h hsafe) (rlfInit_regular ue config) ops

def rlfRrcLayer : RrcLayer :=
  { changeState := rrcChangeState, executeReestablishment := fun ue => (ue, .ok ()), hands := fun _ => true }

/-- T310 still runs when the UE has gone to IDLE, with the thresholds of a new context. -/
theorem rlfCellReselection_not_lifeCycle :
    ¬Runs.Throughout rlfStep (fun s => s.ctx.LifeCycle) (rlfTwoUe 1 2)
      [.syncIndication rlfNoon .outOfSync, .triggerCellReselection rlfRrcLayer] := by
  rintro ⟨-, -, hlife⟩
  rcases hlife.t310 rfl with hstate | hstate | hstate
  · cases hstate
  · cases hstate
  · cases hstate

end Uesim
