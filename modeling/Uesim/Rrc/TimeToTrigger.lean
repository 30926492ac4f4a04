import Uesim.Library.HoldTimer
import Uesim.Rrc.MeasurementEvents

/-!
# Time to trigger

An event is to be reported when its entry condition has been met for as long as its time to trigger, and only
then. A call that reports an event does not look at the ones behind it, so these miss it if their condition
begins or ends there.
-/

namespace Uesim

open Bytes HoldTimer

/-! ### What an evaluation does to an event -/

namespace RrcMeasEventState

/-- The entry condition of an event is met by what was copied into it. -/
def met (state : RrcMeasEventState) (event : RrcMeasEvent) : Bool :=
  match rrcMeasEntry event with
  | some entry => (entry state).isSome
  | none => false

def due (state : RrcMeasEventState) (event : RrcMeasEvent) (now : Int) : Bool :=
  state.met event && state.eventEntered && decide (state.elapsedMs now ≥ state.config.timeToTrigger)
    && !state.eventTriggered

def next (state : RrcMeasEventState) (event : RrcMeasEvent) (now : Int) : RrcMeasEventState :=
  if !state.config.enabled then state
  else
    match rrcMeasEntry event with
    | some entry => (state.evaluated (entry state) now).1
    | none => state

end RrcMeasEventState

def RrcMeasEvent.earlier (event : RrcMeasEvent) (events : List RrcMeasEvent) : List RrcMeasEvent :=
  events.takeWhile fun other => other ≠ event

/-- An event is reported before the loop comes to this one. -/
def RrcMeasContext.Overtaken (ctx : RrcMeasContext) (now : Int) (event : RrcMeasEvent)
    (events : List RrcMeasEvent) : Prop :=
  ∃ other ∈ event.earlier events, (ctx.events other).due other now = true

theorem rrcMeasEntry_enabled {event : RrcMeasEvent} {entry : RrcMeasEventState → Option Nat}
    (h : rrcMeasEntry event = some entry) {state : RrcMeasEventState}
    (hdisabled : state.config.enabled = false) : entry state = none := by
  cases event with
  | a3 | a4 | a5 =>
      obtain rfl := Option.some.inj h
      exact if_pos (by rw [hdisabled]; rfl)
  | _ => cases h

theorem RrcMeasEventState.met_eq {event : RrcMeasEvent} {entry : RrcMeasEventState → Option Nat}
    (h : rrcMeasEntry event = some entry) (state : RrcMeasEventState) :
    state.met event = (entry state).isSome := by
  rw [met, h]

theorem RrcMeasEventState.evaluated_reported (state : RrcMeasEventState) (entry : Option Nat) (now : Int) :
    (state.evaluated entry now).2
      = (entry.isSome && state.eventEntered && decide (state.elapsedMs now ≥ state.config.timeToTrigger)
          && !state.eventTriggered) := by
  cases entry with
  | none => rfl
  | some neighbor =>
      unfold evaluated
      dsimp only
      cases hentered : state.eventEntered with
      | false => simp
      | true =>
          change (if state.elapsedMs now ≥ state.config.timeToTrigger ∧ (!state.eventTriggered) = true then _
            else _ : RrcMeasEventState × Bool).2 = _
          split
          · rename_i hreported
            simp [hreported]
          · rename_i hwaits
            simp only [Option.isSome_some, Bool.true_and]
            rw [not_and] at hwaits
            by_cases helapsed : state.elapsedMs now ≥ state.config.timeToTrigger
            · simp [helapsed, hwaits helapsed]
            · simp [helapsed]

theorem RrcMeasContext.setEvent_self (ctx : RrcMeasContext) (event : RrcMeasEvent) :
    ctx.setEvent event (ctx.events event) = ctx := by
  rw [setEvent, Function.update_eq_self]

theorem RrcMeasEventState.met_of_not_looked {state : RrcMeasEventState} {event : RrcMeasEvent}
    (h : state.config.enabled = false ∨ rrcMeasEntry event = none) : state.met event = false := by
  unfold met
  split
  · rename_i entry hentry
    rcases h with hdisabled | hnone
    · rw [rrcMeasEntry_enabled hentry hdisabled, Option.isSome_none]
    · rw [hentry] at hnone
      cases hnone
  · rfl

theorem RrcMeasEventState.not_due {state : RrcMeasEventState} {event : RrcMeasEvent}
    (h : state.config.enabled = false ∨ rrcMeasEntry event = none) (now : Int) :
    state.due event now = false := by
  rw [due, met_of_not_looked h]
  rfl

theorem rrcMeasEvaluateLoop_cons (now : Int) (event : RrcMeasEvent) (events : List RrcMeasEvent)
    (ctx : RrcMeasContext) :
    rrcMeasEvaluateLoop now (event :: events) ctx
      = if (ctx.events event).due event now then
          (ctx.setEvent event ((ctx.events event).next event now),
            some (event, ((ctx.events event).next event now).triggeredNeighborIdx))
        else
          rrcMeasEvaluateLoop now events (ctx.setEvent event ((ctx.events event).next event now)) := by
  rw [rrcMeasEvaluateLoop]
  cases henabled : (ctx.events event).config.enabled with
  | false =>
      have hnext : (ctx.events event).next event now = ctx.events event := if_pos (by rw [henabled]; rfl)
      rw [RrcMeasEventState.not_due (Or.inl henabled), hnext, ctx.setEvent_self]
      rfl
  | true =>
      have hon : ¬(!(ctx.events event).config.enabled) = true := by
        rw [henabled]
        decide
      rw [if_neg (by decide)]
      cases hentry : rrcMeasEntry event with
      | none =>
          have hnext : (ctx.events event).next event now = ctx.events event := by
            rw [RrcMeasEventState.next, if_neg hon, hentry]
          rw [RrcMeasEventState.not_due (Or.inr hentry), hnext, ctx.setEvent_self]
          rfl
      | some entry =>
          have hnext : (ctx.events event).next event now
              = ((ctx.events event).evaluated (entry (ctx.events event)) now).1 := by
            rw [RrcMeasEventState.next, if_neg hon, hentry]
          have hdue : (ctx.events event).due event now
              = ((ctx.events event).evaluated (entry (ctx.events event)) now).2 := by
            rw [RrcMeasEventState.evaluated_reported, RrcMeasEventState.due, RrcMeasEventState.met_eq hentry]
          rw [hdue, hnext]

theorem rrcMeasEvaluateLoop_of_notMem (now : Int) {event : RrcMeasEvent} {events : List RrcMeasEvent}
    (h : event ∉ events) (ctx : RrcMeasContext) :
    (rrcMeasEvaluateLoop now events ctx).1.events event = ctx.events event
      ∧ (rrcMeasEvaluateLoop now events ctx).2.map Prod.fst ≠ some event := by
  induction events generalizing ctx with
  | nil => exact ⟨rfl, by intro hsome; cases hsome⟩
  | cons first rest ih =>
      obtain ⟨hne, hrest⟩ := not_or.mp (mt List.mem_cons.mpr h)
      rw [rrcMeasEvaluateLoop_cons]
      have hkept : (ctx.setEvent first ((ctx.events first).next first now)).events event = ctx.events event :=
        Function.update_of_ne hne _ _
      split
      · exact ⟨hkept, fun hsome => hne (Option.some.inj hsome).symm⟩
      · have hlater := ih hrest (ctx.setEvent first ((ctx.events first).next first now))
        exact ⟨hlater.1.trans hkept, hlater.2⟩

namespace RrcMeasContext

variable {ctx : RrcMeasContext} {now : Int} {event first : RrcMeasEvent} {rest : List RrcMeasEvent}

theorem not_overtaken_self : ¬ctx.Overtaken now event (event :: rest) := by
  rintro ⟨other, hother, -⟩
  rw [RrcMeasEvent.earlier, List.takeWhile_cons_of_neg (by simp)] at hother
  exact List.not_mem_nil hother

theorem overtaken_cons_iff (hne : event ≠ first) :
    ctx.Overtaken now event (first :: rest)
      ↔ (ctx.events first).due first now = true ∨ ctx.Overtaken now event rest := by
  have hearlier : event.earlier (first :: rest) = first :: event.earlier rest :=
    List.takeWhile_cons_of_pos (by simpa using hne.symm)
  rw [Overtaken, hearlier, List.exists_mem_cons_iff, Overtaken]

theorem overtaken_setEvent_iff (hfirst : first ∉ rest) (state : RrcMeasEventState) :
    (ctx.setEvent first state).Overtaken now event rest ↔ ctx.Overtaken now event rest := by
  refine exists_congr fun other => and_congr_right fun hother => ?_
  have hne : other ≠ first := fun hfound => hfirst (hfound ▸ (List.takeWhile_sublist _).mem hother)
  have hkept : (ctx.setEvent first state).events other = ctx.events other := Function.update_of_ne hne _ _
  rw [hkept]

end RrcMeasContext

/-- **An event is looked at unless it is overtaken**, and reported if it is due then. -/
theorem rrcMeasEvaluateLoop_spec {now : Int} {event : RrcMeasEvent} {events : List RrcMeasEvent}
    (hnodup : events.Nodup) (hmem : event ∈ events) (ctx : RrcMeasContext) :
    (ctx.Overtaken now event events →
        (rrcMeasEvaluateLoop now events ctx).1.events event = ctx.events event
          ∧ (rrcMeasEvaluateLoop now events ctx).2.map Prod.fst ≠ some event)
      ∧ (¬ctx.Overtaken now event events →
        (rrcMeasEvaluateLoop now events ctx).1.events event = (ctx.events event).next event now
          ∧ ((rrcMeasEvaluateLoop now events ctx).2.map Prod.fst = some event
            ↔ (ctx.events event).due event now = true)) := by
  induction events generalizing ctx with
  | nil => exact absurd hmem List.not_mem_nil
  | cons first rest ih =>
      obtain ⟨hfirst, hrest⟩ := List.nodup_cons.mp hnodup
      rw [rrcMeasEvaluateLoop_cons]
      set ctx' := ctx.setEvent first ((ctx.events first).next first now)
      by_cases heq : event = first
      · subst heq
        have hself : ctx'.events event = (ctx.events event).next event now := Function.update_self _ _ _
        refine ⟨fun hovertaken => absurd hovertaken RrcMeasContext.not_overtaken_self, fun _ => ?_⟩
        split
        · rename_i hdue
          exact ⟨hself, iff_of_true rfl hdue⟩
        · rename_i hwaits
          obtain ⟨hkept, hother⟩ := rrcMeasEvaluateLoop_of_notMem now hfirst ctx'
          exact ⟨hkept.trans hself, iff_of_false hother hwaits⟩
      · have hkept : ctx'.events event = ctx.events event := Function.update_of_ne heq _ _
        rw [RrcMeasContext.overtaken_cons_iff heq]
        split
        · rename_i hdue
          exact ⟨fun _ => ⟨hkept, fun hsome => heq (Option.some.inj hsome).symm⟩,
            fun hnot => absurd (Or.inl hdue) hnot⟩
        · rename_i hwaits
          rw [or_iff_right hwaits, ← RrcMeasContext.overtaken_setEvent_iff hfirst, ← hkept]
          exact ih hrest (List.mem_of_ne_of_mem heq hmem) ctx'

namespace RrcMeasEventState

/-- Events that are not looked at are not entered. -/
def Quiet (state : RrcMeasEventState) (event : RrcMeasEvent) : Prop :=
  state.eventTriggered = false
    ∧ (state.config.enabled = false ∨ rrcMeasEntry event = none → state.eventEntered = false)

theorem next_eq {state : RrcMeasEventState} {event : RrcMeasEvent}
    {entry : RrcMeasEventState → Option Nat} (henabled : state.config.enabled = true)
    (hentry : rrcMeasEntry event = some entry) (now : Int) :
    state.next event now = (state.evaluated (entry state) now).1 := by
  rw [next, if_neg (by rw [henabled]; decide), hentry]

theorem next_of_not_looked {state : RrcMeasEventState} {event : RrcMeasEvent}
    (h : state.config.enabled = false ∨ rrcMeasEntry event = none) (now : Int) :
    state.next event now = state := by
  unfold next
  split
  · rfl
  · rename_i hon
    rcases h with hdisabled | hnone
    · rw [hdisabled] at hon
      exact absurd rfl hon
    · rw [hnone]

/-- What a look at an event leaves: it is entered if its condition is met and it is not reported, and since
when only changes where it was not. -/
structure Steps (state after : RrcMeasEventState) (event : RrcMeasEvent) (now : Int) : Prop where
  config : after.config = state.config
  eventTriggered : after.eventTriggered = false
  eventEntered : after.eventEntered = (state.met event && !state.due event now)
  fresh : state.met event = true → state.eventEntered = false → after.enterTime = now
  kept : state.met event = true → state.eventEntered = true → after.enterTime = state.enterTime

theorem evaluated_steps {state : RrcMeasEventState} {event : RrcMeasEvent}
    {entry : RrcMeasEventState → Option Nat} (hentry : rrcMeasEntry event = some entry)
    (htriggered : state.eventTriggered = false) (now : Int) :
    state.Steps (state.evaluated (entry state) now).1 event now := by
  have hmet := met_eq hentry state
  have hdue : state.due event now
      = (state.met event && state.eventEntered
          && decide (state.elapsedMs now ≥ state.config.timeToTrigger)) := by
    rw [due, htriggered, Bool.not_false, Bool.and_true]
  unfold evaluated
  cases hresult : entry state with
  | none =>
      rw [hresult, Option.isSome_none] at hmet
      exact
        { config := rfl
          eventTriggered := rfl
          eventEntered := by rw [hmet]; rfl
          fresh := fun hyes => absurd (hmet.symm.trans hyes) Bool.false_ne_true
          kept := fun hyes => absurd (hmet.symm.trans hyes) Bool.false_ne_true }
  | some neighbor =>
      rw [hresult, Option.isSome_some] at hmet
      rw [hmet, Bool.true_and] at hdue
      dsimp only
      split
      · rename_i hbefore
        rw [Bool.not_eq_true'] at hbefore
        exact
          { config := rfl
            eventTriggered := rfl
            eventEntered := by rw [hmet, hdue, hbefore]; rfl
            fresh := fun _ _ => rfl
            kept := fun _ hentered => absurd (hbefore.symm.trans hentered) Bool.false_ne_true }
      · rename_i hbefore
        have hentered : state.eventEntered = true := by simpa using hbefore
        split
        · rename_i hreport
          have helapsed : state.elapsedMs now ≥ state.config.timeToTrigger := hreport.1
          exact
            { config := rfl
              eventTriggered := rfl
              eventEntered := by rw [hmet, hdue, hentered, decide_eq_true helapsed]; rfl
              fresh := fun _ hnot => absurd (hnot.symm.trans hentered) Bool.false_ne_true
              kept := fun _ _ => rfl }
        · rename_i hwaits
          have helapsed : ¬state.elapsedMs now ≥ state.config.timeToTrigger := fun hover =>
            hwaits ⟨hover, by rw [htriggered]; rfl⟩
          exact
            { config := rfl
              eventTriggered := htriggered
              eventEntered := by
                rw [hmet, hdue, decide_eq_false helapsed, Bool.and_false]
                exact hentered
              fresh := fun _ hnot => absurd (hnot.symm.trans hentered) Bool.false_ne_true
              kept := fun _ _ => rfl }

theorem Quiet.steps {state : RrcMeasEventState} {event : RrcMeasEvent} (h : state.Quiet event) (now : Int) :
    state.Steps (state.next event now) event now := by
  by_cases hlooked : state.config.enabled = false ∨ rrcMeasEntry event = none
  · rw [next_of_not_looked hlooked]
    have hmet := met_of_not_looked hlooked
    exact
      { config := rfl
        eventTriggered := h.1
        eventEntered := by rw [hmet, h.2 hlooked]; rfl
        fresh := fun hyes => absurd (hmet.symm.trans hyes) Bool.false_ne_true
        kept := fun hyes => absurd (hmet.symm.trans hyes) Bool.false_ne_true }
  · obtain ⟨henabled, hsome⟩ := not_or.mp hlooked
    obtain ⟨entry, hentry⟩ := Option.ne_none_iff_exists'.mp hsome
    rw [Bool.not_eq_false] at henabled
    rw [next_eq henabled hentry]
    exact evaluated_steps hentry h.1 now

theorem Quiet.next {state : RrcMeasEventState} {event : RrcMeasEvent} (h : state.Quiet event) (now : Int) :
    (state.next event now).Quiet event := by
  have hsteps := h.steps now
  refine ⟨hsteps.eventTriggered, fun hlooked => ?_⟩
  rw [hsteps.config] at hlooked
  rw [next_of_not_looked hlooked]
  exact h.2 hlooked

end RrcMeasEventState

/-! ### Calls -/

/-- A call, with what the gNBs are received like and what was measured of the serving cell otherwise. -/
structure RrcMeasCall where
  now : Int
  ue : RrcMeasUe
  serving : Option RrcMeasResult

def RrcMeasContext.updated (ctx : RrcMeasContext) (call : RrcMeasCall) : RrcMeasContext :=
  match call.serving with
  | some result => rrcMeasUpdateServingResult ctx result
  | none => ctx

/-- The context that the loop of a call begins with. -/
def RrcMeasContext.measured (ctx : RrcMeasContext) (call : RrcMeasCall) : RrcMeasContext :=
  (rrcMeasPerformMeasurement (ctx.updated call) call.ue).copyMeasurements

def rrcMeasAnswer (ctx : RrcMeasContext) (call : RrcMeasCall) : RrcMeasContext × RrcMeasReport :=
  rrcMeasEvaluateEvents (ctx.updated call) call.ue call.now

/-- Calls at times that do not go back, from a context in which no event is entered. -/
structure RrcMeasRun where
  start : RrcMeasContext
  calls : Nat → RrcMeasCall
  notEntered : ∀ event,
    (start.events event).eventTriggered = false ∧ (start.events event).eventEntered = false
  times : ∀ m n, m ≤ n → (calls m).now ≤ (calls n).now

theorem RrcMeasContext.measured_events (ctx : RrcMeasContext) (call : RrcMeasCall) (event : RrcMeasEvent) :
    ∃ servingResult neighborResults,
      (ctx.measured call).events event = { ctx.events event with servingResult, neighborResults } := by
  have hevents : (rrcMeasPerformMeasurement (ctx.updated call) call.ue).events = ctx.events := by
    unfold updated
    split <;> rfl
  unfold measured copyMeasurements
  rw [hevents]
  dsimp only
  split
  · exact ⟨_, _, rfl⟩
  · exact ⟨_, _, rfl⟩

namespace RrcMeasRun

def state (run : RrcMeasRun) : Nat → RrcMeasContext
  | 0 => run.start
  | n + 1 => (rrcMeasAnswer (run.state n) (run.calls n)).1

variable (run : RrcMeasRun) (event : RrcMeasEvent)

def looked (n : Nat) : RrcMeasContext := (run.state n).measured (run.calls n)

def Met (n : Nat) : Prop := ((run.looked n).events event).met event = true

def Reported (n : Nat) : Prop := (rrcMeasAnswer (run.state n) (run.calls n)).2.map Prod.fst = some event

def Entered (n : Nat) : Prop := ((run.state n).events event).eventEntered = true

def clock (n : Nat) : Int := 1000 * (run.calls n).now

/-- Since when the event is entered before a call, in milliseconds. -/
def since (n : Nat) : Int := 1000 * ((run.state n).events event).enterTime

def timeToTrigger : Int := ((run.start.events event).config.timeToTrigger.toNat : Int)

/-- An event that is reported was met at every call for its time to trigger, and one that was met for that
time since its last report is reported, at the latest while it is still met. -/
structure Honours : Prop where
  sound : ∀ n, run.Reported event n →
    ∃ j, j ≤ n ∧ HeldOn (run.Met event) j n ∧ run.timeToTrigger event ≤ run.clock n - run.clock j
  complete : ∀ j i, j ≤ i → HeldOn (run.Met event) j i → (∀ k, j ≤ k → k < i → ¬run.Reported event k) →
    run.timeToTrigger event ≤ run.clock i - run.clock j →
    ∃ m, i ≤ m ∧ run.Reported event m ∧ HeldOn (run.Met event) i m

/-- What keeps a call from going wrong: an event behind the one that is reported would be as it is if the call
looked at it, an event that is left due is met at the next call, and the 32 bits of the elapsed time do not
hide that it is over. -/
structure SafeAt (n : Nat) : Prop where
  overtaken : ∀ event, (run.looked n).Overtaken (run.calls n).now event RrcMeasEvent.all →
    (run.Met event n ↔ run.Entered event n)
  goesOn : ∀ event, run.Entered event (n + 1) →
    run.timeToTrigger event ≤ run.clock n - run.since event (n + 1) → run.Met event (n + 1)
  elapsed : ∀ event, run.Met event n → run.Entered event n →
    run.timeToTrigger event ≤ run.clock n - run.since event n →
    run.timeToTrigger event ≤ (((run.state n).events event).elapsedMs (run.calls n).now).toNat

/-! ### What runs keep -/

theorem rrcMeasEvents_nodup : RrcMeasEvent.all.Nodup := by decide

theorem mem_rrcMeasEvents (event : RrcMeasEvent) : event ∈ RrcMeasEvent.all := by
  cases event <;> decide

/-- **One call**: an event is looked at unless it is overtaken. -/
theorem state_succ (n : Nat) :
    ((run.looked n).Overtaken (run.calls n).now event RrcMeasEvent.all →
        (run.state (n + 1)).events event = (run.looked n).events event ∧ ¬run.Reported event n)
      ∧ (¬(run.looked n).Overtaken (run.calls n).now event RrcMeasEvent.all →
        (run.state (n + 1)).events event = ((run.looked n).events event).next event (run.calls n).now
          ∧ (run.Reported event n ↔ ((run.looked n).events event).due event (run.calls n).now = true)) :=
  rrcMeasEvaluateLoop_spec rrcMeasEvents_nodup (mem_rrcMeasEvents event) (run.looked n)

theorem quiet (n : Nat) : ((run.state n).events event).Quiet event
    ∧ ((run.state n).events event).config = (run.start.events event).config := by
  induction n with
  | zero => exact ⟨⟨(run.notEntered event).1, fun _ => (run.notEntered event).2⟩, rfl⟩
  | succ n ih =>
      obtain ⟨hquiet, hconfig⟩ := ih
      obtain ⟨servingResult, neighborResults, heq⟩ := (run.state n).measured_events (run.calls n) event
      obtain ⟨hovertaken, hlooked⟩ := run.state_succ event n
      have hmeasured : ((run.looked n).events event).Quiet event := by
        rw [looked, heq]
        exact hquiet
      have hsame : ((run.looked n).events event).config = (run.start.events event).config := by
        rw [looked, heq]
        exact hconfig
      by_cases hby : (run.looked n).Overtaken (run.calls n).now event RrcMeasEvent.all
      · rw [(hovertaken hby).1]
        exact ⟨hmeasured, hsame⟩
      · rw [(hlooked hby).1]
        exact ⟨hmeasured.next _, (hmeasured.steps _).config.trans hsame⟩

theorem looked_eq (n : Nat) :
    ((run.looked n).events event).config = (run.start.events event).config
      ∧ ((run.looked n).events event).Quiet event
      ∧ ((run.looked n).events event).eventEntered = ((run.state n).events event).eventEntered
      ∧ ((run.looked n).events event).enterTime = ((run.state n).events event).enterTime := by
  obtain ⟨servingResult, neighborResults, heq⟩ := (run.state n).measured_events (run.calls n) event
  obtain ⟨hquiet, hconfig⟩ := run.quiet event n
  rw [looked, heq]
  exact ⟨hconfig, hquiet, rfl, rfl⟩

theorem steps {n : Nat} (h : ¬(run.looked n).Overtaken (run.calls n).now event RrcMeasEvent.all) :
    ((run.looked n).events event).Steps ((run.state (n + 1)).events event) event (run.calls n).now := by
  rw [((run.state_succ event n).2 h).1]
  exact (run.looked_eq event n).2.1.steps _

theorem tracks {run : RrcMeasRun} (h : ∀ n, run.SafeAt n) (event : RrcMeasEvent) :
    Tracks (run.Met event) (run.Reported event) (run.Entered event) (run.since event) run.clock where
  start hentered := absurd ((run.notEntered event).2.symm.trans hentered) Bool.false_ne_true
  next n := by
    by_cases hby : (run.looked n).Overtaken (run.calls n).now event RrcMeasEvent.all
    · obtain ⟨hstate, hquiet⟩ := (run.state_succ event n).1 hby
      rw [and_iff_left hquiet, (h n).overtaken event hby, Entered, hstate, (run.looked_eq event n).2.2.1]
      rfl
    · rw [((run.state_succ event n).2 hby).2, Entered, (run.steps event hby).eventEntered,
        Bool.and_eq_true, Bool.not_eq_true', Bool.not_eq_true]
      rfl
  fresh n hmet hquiet hbefore := by
    by_cases hby : (run.looked n).Overtaken (run.calls n).now event RrcMeasEvent.all
    · exact absurd (((h n).overtaken event hby).mp hmet) hbefore
    · have hnot : ((run.looked n).events event).eventEntered = false := by
        rw [(run.looked_eq event n).2.2.1]
        exact Bool.not_eq_true _ ▸ hbefore
      rw [since, (run.steps event hby).fresh hmet hnot, clock]
  kept n hmet hquiet hbefore := by
    by_cases hby : (run.looked n).Overtaken (run.calls n).now event RrcMeasEvent.all
    · rw [since, ((run.state_succ event n).1 hby).1, (run.looked_eq event n).2.2.2, since]
    · have hentered : ((run.looked n).events event).eventEntered = true :=
        (run.looked_eq event n).2.2.1.trans hbefore
      rw [since, (run.steps event hby).kept hmet hentered, (run.looked_eq event n).2.2.2, since]

theorem clock_le (m n : Nat) (hle : m ≤ n) : run.clock m ≤ run.clock n :=
  Int.mul_le_mul_of_nonneg_left (run.times m n hle) (by decide)

theorem elapsedMs_le {state : RrcMeasEventState} {now : Int} (h : state.enterTime ≤ now) :
    ((state.elapsedMs now).toNat : Int) ≤ 1000 * now - 1000 * state.enterTime := by
  obtain ⟨seconds, hseconds⟩ := Int.le.dest h
  have hdiff : now - state.enterTime = (seconds : Int) := by omega
  rw [RrcMeasEventState.elapsedMs, hdiff, BitVec.ofInt_natCast, BitVec.toNat_mul, BitVec.toNat_ofNat]
  have hsmall : seconds % 2 ^ 32 * 1000 % 2 ^ 32 ≤ seconds * 1000 :=
    (Nat.mod_le _ _).trans (Nat.mul_le_mul_right _ (Nat.mod_le _ _))
  change ((seconds % 2 ^ 32 * 1000 % 2 ^ 32 : Nat) : Int) ≤ _
  omega

theorem due_iff (n : Nat) :
    ((run.looked n).events event).due event (run.calls n).now = true
      ↔ run.Met event n ∧ run.Entered event n
        ∧ run.timeToTrigger event
            ≤ (((run.state n).events event).elapsedMs (run.calls n).now).toNat := by
  obtain ⟨hconfig, hquiet, hentered, htime⟩ := run.looked_eq event n
  have helapsed : ((run.looked n).events event).elapsedMs (run.calls n).now
      = ((run.state n).events event).elapsedMs (run.calls n).now := by
    rw [RrcMeasEventState.elapsedMs, htime, RrcMeasEventState.elapsedMs]
  rw [RrcMeasEventState.due, hentered, helapsed, hconfig, hquiet.1, Bool.not_false, Bool.and_true,
    Bool.and_eq_true, Bool.and_eq_true, decide_eq_true_eq, and_assoc]
  refine and_congr_right fun _ => and_congr_right fun _ => ?_
  rw [timeToTrigger, Int.ofNat_le]
  rfl

/-- **A report is right.** -/
theorem sound {run : RrcMeasRun} (h : ∀ n, run.SafeAt n) {event : RrcMeasEvent} {n : Nat}
    (hreported : run.Reported event n) :
    ∃ j, j ≤ n ∧ HeldOn (run.Met event) j n ∧ run.timeToTrigger event ≤ run.clock n - run.clock j := by
  have htracks := tracks h event
  have hby : ¬(run.looked n).Overtaken (run.calls n).now event RrcMeasEvent.all := fun hby =>
    ((run.state_succ event n).1 hby).2 hreported
  obtain ⟨hmet, hentered, helapsed⟩ :=
    (run.due_iff event n).mp (((run.state_succ event n).2 hby).2.mp hreported)
  obtain ⟨j, hj, hsince, -⟩ := htracks.exists_start hentered
  have hbefore : ((run.state n).events event).enterTime ≤ (run.calls n).now := by
    have hmono := run.clock_le j n hj.le
    rw [← hsince] at hmono
    unfold since clock at hmono
    omega
  exact htracks.exists_heldOn hmet hentered (helapsed.trans (elapsedMs_le hbefore))

/-! ### Who overtakes whom -/

/-- How many more calls may overtake an event: each of the earlier ones has to be entered first. -/
def rank (n : Nat) : Nat :=
  match event with
  | .a4 => ((run.state n).events .a3).eventEntered.toNat
  | .a5 => ((run.state n).events .a3).eventEntered.toNat + 2 * ((run.state n).events .a4).eventEntered.toNat
  | _ => 0

theorem not_overtaken_a3 (n : Nat) :
    ¬(run.looked n).Overtaken (run.calls n).now .a3 RrcMeasEvent.all := by
  rintro ⟨other, hother, hdue⟩
  have hnone : rrcMeasEntry other = none := by
    change other ∈ [RrcMeasEvent.a1, .a2] at hother
    rcases List.mem_pair.mp hother with rfl | rfl <;> rfl
  rw [RrcMeasEventState.not_due (Or.inr hnone)] at hdue
  cases hdue

theorem overtaken_a4_iff (n : Nat) :
    (run.looked n).Overtaken (run.calls n).now .a4 RrcMeasEvent.all
      ↔ ((run.looked n).events .a3).due .a3 (run.calls n).now = true := by
  constructor
  · rintro ⟨other, hother, hdue⟩
    change other ∈ [RrcMeasEvent.a1, .a2, .a3] at hother
    simp only [List.mem_cons, List.not_mem_nil, or_false] at hother
    rcases hother with rfl | rfl | rfl
    · exact absurd hdue (by rw [RrcMeasEventState.not_due (Or.inr rfl)]; decide)
    · exact absurd hdue (by rw [RrcMeasEventState.not_due (Or.inr rfl)]; decide)
    · exact hdue
  · exact fun hdue => ⟨.a3, by decide, hdue⟩

theorem overtaken_a5_iff (n : Nat) :
    (run.looked n).Overtaken (run.calls n).now .a5 RrcMeasEvent.all
      ↔ ((run.looked n).events .a3).due .a3 (run.calls n).now = true
        ∨ ((run.looked n).events .a4).due .a4 (run.calls n).now = true := by
  constructor
  · rintro ⟨other, hother, hdue⟩
    change other ∈ [RrcMeasEvent.a1, .a2, .a3, .a4] at hother
    simp only [List.mem_cons, List.not_mem_nil, or_false] at hother
    rcases hother with rfl | rfl | rfl | rfl
    · exact absurd hdue (by rw [RrcMeasEventState.not_due (Or.inr rfl)]; decide)
    · exact absurd hdue (by rw [RrcMeasEventState.not_due (Or.inr rfl)]; decide)
    · exact Or.inl hdue
    · exact Or.inr hdue
  · rintro (hdue | hdue)
    · exact ⟨.a3, by decide, hdue⟩
    · exact ⟨.a4, by decide, hdue⟩

theorem entered_of_due {n : Nat} (hby : ¬(run.looked n).Overtaken (run.calls n).now event RrcMeasEvent.all)
    (hdue : ((run.looked n).events event).due event (run.calls n).now = true) :
    ((run.state n).events event).eventEntered = true
      ∧ ((run.state (n + 1)).events event).eventEntered = false := by
  refine ⟨((run.due_iff event n).mp hdue).2.1, ?_⟩
  rw [(run.steps event hby).eventEntered, hdue, Bool.not_true, Bool.and_false]

/-- **An event is not overtaken for ever.** -/
theorem rank_lt {event : RrcMeasEvent} {n : Nat} (hlooked : rrcMeasEntry event ≠ none)
    (hby : (run.looked n).Overtaken (run.calls n).now event RrcMeasEvent.all) :
    run.rank event (n + 1) < run.rank event n := by
  cases event with
  | a3 => exact absurd hby (run.not_overtaken_a3 n)
  | a4 =>
      obtain ⟨hbefore, hafter⟩ :=
        run.entered_of_due .a3 (run.not_overtaken_a3 n) ((run.overtaken_a4_iff n).mp hby)
      rw [rank, rank, hbefore, hafter]
      decide
  | a5 =>
      unfold rank
      dsimp only
      by_cases hfirst : ((run.looked n).events .a3).due .a3 (run.calls n).now = true
      · obtain ⟨hbefore, hafter⟩ := run.entered_of_due .a3 (run.not_overtaken_a3 n) hfirst
        have hsecond := ((run.state_succ .a4 n).1 ((run.overtaken_a4_iff n).mpr hfirst)).1
        rw [hbefore, hafter, hsecond, (run.looked_eq .a4 n).2.2.1]
        exact Nat.add_lt_add_right Nat.zero_lt_one _
      · have hsecond := ((run.overtaken_a5_iff n).mp hby).resolve_left hfirst
        obtain ⟨hbefore, hafter⟩ := run.entered_of_due .a4 (mt (run.overtaken_a4_iff n).mp hfirst) hsecond
        rw [hbefore, hafter]
        have hle := Bool.toNat_le ((run.state (n + 1)).events .a3).eventEntered
        change _ + 2 * 0 < _ + 2 * 1
        omega
  | _ => exact absurd rfl hlooked

theorem not_met_of_disabled {run : RrcMeasRun} {event : RrcMeasEvent}
    (h : (run.start.events event).config.enabled = false) (n : Nat) :
    ¬run.Met event n ∧ ¬run.Entered event n := by
  have hquiet := run.quiet event n
  have hlooked : ((run.looked n).events event).config.enabled = false := by
    rw [(run.looked_eq event n).1]
    exact h
  have hmet : ((run.looked n).events event).met event = false :=
    RrcMeasEventState.met_of_not_looked (Or.inl hlooked)
  refine ⟨fun hyes => Bool.false_ne_true (hmet.symm.trans hyes), fun hyes => ?_⟩
  have hnot := hquiet.1.2 (Or.inl (by rw [hquiet.2]; exact h))
  exact Bool.false_ne_true (hnot.symm.trans hyes)

theorem not_met_of_no_candidate {run : RrcMeasRun} {n : Nat} (h : (run.calls n).ue.candidateGnbs = []) :
    ¬run.Met .a4 n := by
  have hcopied : ∀ ctx : RrcMeasContext, (ctx.copyMeasurements.events .a4).config.enabled = false
      ∨ (ctx.copyMeasurements.events .a4).neighborResults = ctx.neighborMeas := by
    intro ctx
    unfold RrcMeasContext.copyMeasurements
    dsimp only
    split
    · exact Or.inr rfl
    · exact Or.inl (Bool.not_eq_true _ ▸ ‹_›)
  have hnone : (rrcMeasPerformMeasurement ((run.state n).updated (run.calls n)) (run.calls n).ue).neighborMeas
      = [] := by
    unfold rrcMeasPerformMeasurement
    rw [h]
    rfl
  intro hmet
  rcases hcopied _ with hdisabled | hresults
  · have hidle : ((run.looked n).events .a4).met .a4 = false :=
      RrcMeasEventState.met_of_not_looked (Or.inl hdisabled)
    exact Bool.false_ne_true (hidle.symm.trans hmet)
  · rw [hnone] at hresults
    unfold Met looked RrcMeasContext.measured RrcMeasEventState.met at hmet
    unfold rrcMeasEntry rrcMeasEvalA4 RrcMeasEventState.neighborAbove at hmet
    dsimp only at hmet
    rw [hresults] at hmet
    split at hmet <;> cases hmet

end RrcMeasRun

/-! ### Two runs -/

/-- A call every second, with a weak serving cell and at most one neighbor. -/
def rrcMeasEverySecond (level : Nat → Option Int) (n : Nat) : RrcMeasCall :=
  { now := (n : Int)
    ue :=
      { gnbs := fun gnb => if gnb = 0 then ⟨-120, -15⟩ else ⟨(level n).getD 0, -10⟩
        servingGnb := some 0
        candidateGnbs := (level n).toList.map fun _ => some 1 }
    serving := none }

def rrcMeasConfigured (configs : List RrcMeasConfig) : RrcMeasContext :=
  configs.foldl (fun ctx config => (rrcMeasConfigureEvent ctx config).1) rrcMeasNewContext

def rrcMeasPassingRun : RrcMeasRun :=
  { start := rrcMeasConfigured [rrcMeasGetDefaultA4Config]
    calls := rrcMeasEverySecond fun n => if n < 2 then some (-90) else none
    notEntered := by intro event; cases event <;> exact ⟨rfl, rfl⟩
    times := fun _ _ hle => Int.ofNat_le.mpr hle }

/-- All three defaults, and a neighbor that is weak at the second call. -/
def rrcMeasFadingRun : RrcMeasRun :=
  { start := rrcMeasConfigured
      [rrcMeasGetDefaultA3Config, rrcMeasGetDefaultA4Config, rrcMeasGetDefaultA5Config]
    calls := rrcMeasEverySecond fun n => some (if n = 1 then -105 else -90)
    notEntered := by intro event; cases event <;> exact ⟨rfl, rfl⟩
    times := fun _ _ hle => Int.ofNat_le.mpr hle }

theorem rrcMeasPassingRun_not_met (n : Nat) : ¬rrcMeasPassingRun.Met .a4 (n + 2) :=
  RrcMeasRun.not_met_of_no_candidate rfl

theorem rrcMeasPassingRun_disabled {event : RrcMeasEvent} (h : event ≠ .a4) :
    (rrcMeasPassingRun.start.events event).config.enabled = false := by
  cases event with
  | a4 => exact absurd rfl h
  | _ => rfl

theorem rrcMeasPassingRun_not_overtaken (n : Nat) :
    ¬(rrcMeasPassingRun.looked n).Overtaken (rrcMeasPassingRun.calls n).now .a4 RrcMeasEvent.all := by
  rw [RrcMeasRun.overtaken_a4_iff, RrcMeasRun.due_iff]
  exact fun hdue =>
    (RrcMeasRun.not_met_of_disabled (rrcMeasPassingRun_disabled (by decide)) n).1 hdue.1

/-- A4 is entered at the first call and reported at the second, which is when its condition ends. -/
theorem rrcMeasPassingRun_entered (n : Nat) : rrcMeasPassingRun.Entered .a4 n ↔ n = 1 := by
  rcases n with _ | _ | _ | n
  · exact iff_of_false (by unfold RrcMeasRun.Entered; decide) (by decide)
  · exact iff_of_true rfl rfl
  · exact iff_of_false (by unfold RrcMeasRun.Entered; decide) (by decide)
  · refine iff_of_false (fun hentered => ?_) (by omega)
    have hsteps := rrcMeasPassingRun.steps .a4 (rrcMeasPassingRun_not_overtaken (n + 2))
    rw [RrcMeasRun.Entered, hsteps.eventEntered, Bool.and_eq_true] at hentered
    exact rrcMeasPassingRun_not_met n hentered.1

theorem rrcMeasPassingRun_safe (n : Nat) : rrcMeasPassingRun.SafeAt n where
  overtaken event hby := by
    by_cases heq : event = .a4
    · exact absurd (heq ▸ hby) (rrcMeasPassingRun_not_overtaken n)
    · have hidle := RrcMeasRun.not_met_of_disabled (rrcMeasPassingRun_disabled heq) n
      exact iff_of_false hidle.1 hidle.2
  goesOn event hentered _ := by
    by_cases heq : event = .a4
    · subst heq
      obtain rfl : n = 0 := Nat.succ.inj ((rrcMeasPassingRun_entered (n + 1)).mp hentered)
      rfl
    · exact absurd hentered (RrcMeasRun.not_met_of_disabled (rrcMeasPassingRun_disabled heq) (n + 1)).2
  elapsed event _ hentered _ := by
    by_cases heq : event = .a4
    · subst heq
      obtain rfl := (rrcMeasPassingRun_entered n).mp hentered
      decide
    · exact absurd hentered (RrcMeasRun.not_met_of_disabled (rrcMeasPassingRun_disabled heq) n).2

end Uesim
