import Uesim.Library.Runs
import Uesim.Library.Streaks
import Uesim.Rrc.RadioLinkFailure

/-!
# When T310 runs

T310 is meant to start behind N310 consecutive out-of-sync indications, and to stop behind N311 consecutive
ones in sync. But each state takes no more than one indication: the first one out of sync decides whether T310
is ever started, and nothing stops it.
-/

namespace Uesim

open Bytes Streaks

/-- T310 as the two thresholds have it, with the count of the indications towards its next change. -/
structure T310 where
  running : Bool
  count : Nat

namespace T310

def awaited (running : Bool) : SyncIndication := if running then .inSync else .outOfSync

def next (threshold : Bool → Nat) (t310 : T310) (indication : SyncIndication) : T310 :=
  if indication ≠ awaited t310.running then { t310 with count := 0 }
  else if t310.count + 1 < threshold t310.running then { t310 with count := t310.count + 1 }
  else { running := !t310.running, count := 0 }

end T310

/-- N311 of a timer that runs, N310 of one that does not. -/
def RlfContext.threshold (ctx : RlfContext) (running : Bool) : Nat :=
  (if running then ctx.n311Threshold else ctx.n310Threshold).toNat

/-- The context and T310 as it should be take an indication each, the former at some time. -/
def rlfSyncStep (threshold : Bool → Nat) (s : RlfUe × T310) (event : RlfClock × SyncIndication) :
    RlfUe × T310 :=
  ((rlfHandleSyncIndication s.1 event.1 event.2).1, s.2.next threshold event.2)

def RlfUe.FollowsThresholds (s : RlfUe) (events : List (RlfClock × SyncIndication)) : Prop :=
  Runs.Throughout (rlfSyncStep s.ctx.threshold) (fun s => s.1.ctx.t310Running = s.2.running)
    (s, { running := false, count := 0 }) events

/-! ### States that ignore indications -/

/-- T310 is as it is, and no indication changes that. -/
structure RlfUe.Settled (s : RlfUe) (running : Bool) : Prop where
  t310Running : s.ctx.t310Running = running
  currentState : s.ctx.currentState = .outOfSync
    ∨ running = true ∧ (s.ctx.currentState = .t310Running ∨ s.ctx.currentState = .inSyncRecovery)

theorem RlfUe.Settled.step {s : RlfUe} {running : Bool} (h : s.Settled running) (clock : RlfClock)
    (indication : SyncIndication) : (rlfHandleSyncIndication s clock indication).1.Settled running := by
  obtain ⟨hrunning, hstate⟩ := h
  unfold rlfHandleSyncIndication
  split
  · exact ⟨hrunning, hstate⟩
  · rename_i hfree
    rw [Bool.not_eq_true] at hfree
    cases indication with
    | outOfSync =>
        dsimp only
        rw [rlfHandleOutOfSync_eq hfree]
        split
        · exact ⟨hrunning, hstate⟩
        · split
          · rename_i hcounts
            split
            · rename_i hstart
              rcases hstate with hout | ⟨rfl, -⟩
              · rw [hout] at hcounts
                rcases hcounts with hcounts | hcounts <;> cases hcounts
              · rw [hrunning] at hstart
                cases hstart.2
            · exact ⟨hrunning, Or.inl rfl⟩
          · exact ⟨hrunning, hstate⟩
    | inSync =>
        dsimp only
        rw [rlfHandleInSync_eq]
        split
        · rename_i htimer
          have hyes : running = true := by
            rcases hstate with hout | ⟨hyes, -⟩
            · rw [hout] at htimer
              cases htimer
            · exact hyes
          split
          · exact ⟨hrunning, Or.inr ⟨hyes, Or.inr rfl⟩⟩
          · exact ⟨hrunning, Or.inr ⟨hyes, Or.inr rfl⟩⟩
        · exact ⟨hrunning, hstate⟩

theorem not_throughout_of_ne {threshold : Bool → Nat} {s : RlfUe} {t310 : T310}
    {events : List (RlfClock × SyncIndication)} (hne : s.ctx.t310Running ≠ t310.running) :
    ¬Runs.Throughout (rlfSyncStep threshold) (fun s => s.1.ctx.t310Running = s.2.running) (s, t310) events :=
  fun hthroughout => hne ((Runs.throughout_iff_always _ _ _).mp hthroughout).1

/-- **In a settled state T310 is right as long as what should change it does not come.** -/
theorem RlfUe.Settled.throughout_iff {threshold : Bool → Nat} {running : Bool} {s : RlfUe} {count : Nat}
    (h : s.Settled running) (hcount : count < threshold running) (events : List (RlfClock × SyncIndication)) :
    Runs.Throughout (rlfSyncStep threshold) (fun s => s.1.ctx.t310Running = s.2.running)
        (s, { running, count }) events
      ↔ ¬Streak (threshold running) (T310.awaited running)
          (List.replicate count (T310.awaited running) ++ events.map Prod.snd) := by
  induction events generalizing s count with
  | nil =>
      rw [List.map_nil, List.append_nil]
      exact iff_of_true h.t310Running (not_streak_replicate hcount)
  | cons event events ih =>
      obtain ⟨clock, indication⟩ := event
      have hnext := h.step clock indication
      rw [Runs.Throughout, and_iff_right h.t310Running, List.map_cons, rlfSyncStep, T310.next]
      dsimp only
      by_cases hawaited : indication = T310.awaited running
      · rw [if_neg (not_not.mpr hawaited), hawaited, replicate_append_cons]
        rw [hawaited] at hnext
        split
        · rename_i hbelow
          exact ih hnext hbelow
        · rename_i hreached
          have hfull : count + 1 = threshold running := by omega
          rw [hfull]
          have hne :
              (rlfHandleSyncIndication s clock (T310.awaited running)).1.ctx.t310Running ≠ !running := by
            rw [hnext.t310Running]
            exact (Bool.not_ne_self running).symm
          exact iff_of_false (not_throughout_of_ne hne) (not_not.mpr (streak_replicate_append _))
      · rw [if_pos hawaited, streak_replicate_append_cons_iff hawaited hcount]
        have hrest := ih hnext (Nat.zero_lt_of_lt hcount)
        rwa [List.replicate_zero, List.nil_append] at hrest

/-! ### States that wait for the first indication out of sync -/

/-- NORMAL in CONNECTED, with the mutex free and T310 stopped. -/
structure RlfUe.Waiting (s : RlfUe) : Prop where
  currentState : s.ctx.currentState = .normal
  connected : s.ue.currentState = .connected
  free : s.locked = false
  stopped : s.ctx.t310Running = false

theorem RlfUe.Waiting.inSync {s : RlfUe} (h : s.Waiting) (clock : RlfClock) :
    (rlfHandleSyncIndication s clock .inSync).1.Waiting
      ∧ (rlfHandleSyncIndication s clock .inSync).1.ctx.threshold = s.ctx.threshold
      ∧ (rlfHandleSyncIndication s clock .inSync).1.ctx.outOfSyncCount = 0 := by
  have hother : s.ctx.currentState ≠ .t310Running := by
    rw [h.currentState]
    decide
  have hstep : rlfHandleSyncIndication s clock .inSync = rlfHandleInSync s := if_neg (by simp [h.free])
  rw [hstep, rlfHandleInSync_eq, if_neg hother]
  exact ⟨⟨h.currentState, h.connected, h.free, h.stopped⟩, rfl, rfl⟩

theorem RlfUe.Waiting.outOfSync {s : RlfUe} (h : s.Waiting) (clock : RlfClock) :
    (rlfHandleSyncIndication s clock .outOfSync).1.Settled
      (decide (s.ctx.threshold false ≤ (s.ctx.outOfSyncCount + 1).toNat)) := by
  have hstep : rlfHandleSyncIndication s clock .outOfSync = rlfHandleOutOfSync s clock :=
    if_neg (by simp [h.free])
  rw [hstep, rlfHandleOutOfSync_eq h.free, if_neg (not_not.mpr h.connected), if_pos (Or.inl h.currentState)]
  split
  · rename_i hstart
    have hreached : s.ctx.threshold false ≤ (s.ctx.outOfSyncCount + 1).toNat := hstart.1
    rw [decide_eq_true hreached]
    exact ⟨rfl, Or.inr ⟨rfl, Or.inl rfl⟩⟩
  · rename_i hbelow
    have hmissed : ¬s.ctx.threshold false ≤ (s.ctx.outOfSyncCount + 1).toNat := fun hreached =>
      hbelow ⟨hreached, by rw [h.stopped]; rfl⟩
    rw [decide_eq_false hmissed]
    exact ⟨h.stopped, Or.inl rfl⟩

/-- The count that the first indication out of sync finds, with itself, if it comes at all. -/
def rlfFirstCount (count : Byte) (indications : List SyncIndication) : Byte :=
  if indications.head? = some .outOfSync then count + 1 else 1

/-- Indications that T310 handles right: if the first one out of sync starts it, it should, and nothing
should stop it; and otherwise nothing should start it. -/
def RlfHandledRight (threshold : Bool → Nat) (count : Byte) (indications : List SyncIndication) : Prop :=
  if threshold false ≤ (rlfFirstCount count indications).toNat then
    .outOfSync ∈ indications → threshold false = 1 ∧ ∀ before after,
      indications = before ++ .outOfSync :: after → ¬Streak (threshold true) .inSync after
  else ¬Streak (threshold false) .outOfSync indications

theorem forall_split_outOfSync_iff {n : Nat} {rest : List SyncIndication} :
    (∀ before after, SyncIndication.outOfSync :: rest = before ++ .outOfSync :: after →
        ¬Streak n .inSync after) ↔ ¬Streak n .inSync rest := by
  constructor
  · exact fun h => h [] rest rfl
  · intro h before after hsplit hstreak
    refine h (hstreak.trans ?_)
    cases before with
    | nil =>
        obtain ⟨-, rfl⟩ := List.cons.inj hsplit
        exact List.infix_refl _
    | cons first before =>
        obtain ⟨-, rfl⟩ := List.cons.inj hsplit
        exact List.infix_append_of_infix_right (List.infix_cons (List.infix_refl after))

theorem forall_split_inSync_iff {n : Nat} {rest : List SyncIndication} :
    (∀ before after, SyncIndication.inSync :: rest = before ++ .outOfSync :: after → ¬Streak n .inSync after)
      ↔ ∀ before after, rest = before ++ .outOfSync :: after → ¬Streak n .inSync after := by
  constructor
  · intro h before after hsplit
    exact h (.inSync :: before) after (congrArg (SyncIndication.inSync :: ·) hsplit)
  · intro h before after hsplit
    cases before with
    | nil => cases hsplit
    | cons first before =>
        obtain ⟨-, hrest⟩ := List.cons.inj hsplit
        exact h before after hrest

theorem rlfHandledRight_inSync_iff {threshold : Bool → Nat} (hpos : 0 < threshold false) (count : Byte)
    (rest : List SyncIndication) :
    RlfHandledRight threshold count (.inSync :: rest) ↔ RlfHandledRight threshold 0 rest := by
  have hother : SyncIndication.inSync ≠ SyncIndication.outOfSync := by decide
  have hfirst : rlfFirstCount 0 rest = rlfFirstCount count (.inSync :: rest) := by
    have hnot : (SyncIndication.inSync :: rest).head? ≠ some .outOfSync := by simp
    rw [rlfFirstCount, rlfFirstCount, if_neg hnot]
    split <;> rfl
  have hmem : SyncIndication.outOfSync ∈ SyncIndication.inSync :: rest ↔ .outOfSync ∈ rest := by simp
  have hstreak : Streak (threshold false) .outOfSync (.inSync :: rest)
      ↔ Streak (threshold false) .outOfSync rest := streak_replicate_append_cons_iff hother hpos
  rw [RlfHandledRight, RlfHandledRight, hfirst, hmem, hstreak, forall_split_inSync_iff]

theorem rlfHandledRight_outOfSync_iff (threshold : Bool → Nat) (count : Byte) (rest : List SyncIndication) :
    RlfHandledRight threshold count (.outOfSync :: rest)
      ↔ if threshold false ≤ (count + 1).toNat then
          threshold false = 1 ∧ ¬Streak (threshold true) .inSync rest
        else ¬Streak (threshold false) .outOfSync (.outOfSync :: rest) := by
  have hfirst : rlfFirstCount count (.outOfSync :: rest) = count + 1 := if_pos rfl
  rw [RlfHandledRight, hfirst, forall_split_outOfSync_iff, imp_iff_right List.mem_cons_self]

theorem RlfUe.Waiting.throughout_iff {threshold : Bool → Nat} {s : RlfUe} (h : s.Waiting)
    (hthreshold : s.ctx.threshold = threshold) (hpos : ∀ running, 0 < threshold running)
    (events : List (RlfClock × SyncIndication)) :
    Runs.Throughout (rlfSyncStep threshold) (fun s => s.1.ctx.t310Running = s.2.running)
        (s, { running := false, count := 0 }) events
      ↔ RlfHandledRight threshold s.ctx.outOfSyncCount (events.map Prod.snd) := by
  induction events generalizing s with
  | nil =>
      refine iff_of_true h.stopped ?_
      rw [RlfHandledRight]
      split
      · exact fun hmem => absurd hmem List.not_mem_nil
      · exact not_streak_replicate (hpos false)
  | cons event events ih =>
      obtain ⟨clock, indication⟩ := event
      rw [Runs.Throughout, and_iff_right h.stopped, List.map_cons, rlfSyncStep, T310.next]
      dsimp only
      cases indication with
      | inSync =>
          obtain ⟨hwaiting, hsame, hcount⟩ := h.inSync clock
          rw [if_pos (by decide), rlfHandledRight_inSync_iff (hpos false), ← hcount]
          exact ih hwaiting (hsame.trans hthreshold)
      | outOfSync =>
          have hsettled := h.outOfSync clock
          have hreaches : ¬0 + 1 < threshold false → threshold false = 1 := by
            have hfalse := hpos false
            omega
          rw [hthreshold] at hsettled
          rw [if_neg (by decide), rlfHandledRight_outOfSync_iff]
          by_cases hstarts : threshold false ≤ (s.ctx.outOfSyncCount + 1).toNat
          · rw [decide_eq_true hstarts] at hsettled
            rw [if_pos hstarts]
            split
            · rename_i hbelow
              have hmore : threshold false ≠ 1 := Nat.ne_of_gt hbelow
              exact iff_of_false (not_throughout_of_ne (by simp [hsettled.t310Running]))
                fun hone => hmore hone.1
            · rename_i hreached
              have hone : threshold false = 1 := hreaches hreached
              rw [and_iff_right hone]
              exact hsettled.throughout_iff (hpos true) events
          · rw [decide_eq_false hstarts] at hsettled
            rw [if_neg hstarts]
            split
            · rename_i hbelow
              exact hsettled.throughout_iff hbelow events
            · rename_i hreached
              have hone : threshold false = 1 := hreaches hreached
              have hstreak : Streak (threshold false) .outOfSync (.outOfSync :: events.map Prod.snd) := by
                rw [hone]
                exact streak_replicate_append _
              exact iff_of_false (not_throughout_of_ne (by simp [hsettled.t310Running])) (not_not.mpr hstreak)

/-- **T310 runs when it should exactly in the traces that are handled right**, from whatever count a context
in NORMAL begins with. -/
theorem RlfUe.followsThresholds_iff {s : RlfUe} (h : s.Waiting) (hn310 : 1 ≤ s.ctx.n310Threshold.toNat)
    (hn311 : 1 ≤ s.ctx.n311Threshold.toNat) (events : List (RlfClock × SyncIndication)) :
    s.FollowsThresholds events
      ↔ RlfHandledRight s.ctx.threshold s.ctx.outOfSyncCount (events.map Prod.snd) := by
  refine h.throughout_iff rfl (fun running => ?_) events
  cases running with
  | false => exact hn310
  | true => exact hn311

/-- A UE in CONNECTED whose context is new, with these thresholds. -/
def rlfTwoUe (n310 n311 : Byte) : RlfUe :=
  rlfInit { rrcIdleUe with currentState := .connected } ⟨1000, 3000, 1000, n310, n311⟩

def rlfNoon : RlfClock := { check := 0, t310 := 0, t311 := 0, t301 := 0 }

/-- One indication out of sync between others in sync. -/
theorem rlfTwoUe_followsThresholds :
    (rlfTwoUe 2 2).FollowsThresholds [(rlfNoon, .inSync), (rlfNoon, .outOfSync), (rlfNoon, .inSync)] := by
  refine (RlfUe.followsThresholds_iff ⟨rfl, rfl, rfl, rfl⟩ (by decide) (by decide) _).mpr ?_
  rw [RlfHandledRight, if_neg (by decide)]
  decide

/-- N310 is two, and T310 does not run behind two indications out of sync. -/
theorem rlfTwoUe_not_followsThresholds :
    ¬(rlfTwoUe 2 2).FollowsThresholds [(rlfNoon, .outOfSync), (rlfNoon, .outOfSync)] := by
  intro h
  exact Bool.false_ne_true h.2.2

end Uesim
