import Mathlib.Logic.Function.Basic
import Uesim.Types

/-!
# Measurement events

A UE has a table of events, each with its configuration and with what is known about its entry condition. An
evaluation measures, and then goes through the table until an event is reported, so the events behind that
one are not looked at.
-/

namespace Uesim

open Bytes

inductive RrcMeasEvent where
  | a1
  | a2
  | a3
  | a4
  | a5
  | a6
  | b1
  | b2
  deriving DecidableEq

def RrcMeasEvent.all : List RrcMeasEvent := [.a1, .a2, .a3, .a4, .a5, .a6, .b1, .b2]

inductive RrcQuantity where
  | rsrp
  | rsrq
  | sinr
  deriving DecidableEq

/-- `rrc_meas_config_t` without the members that nothing reads. The number of an event may be none of an
event. -/
structure RrcMeasConfig where
  eventId : Option RrcMeasEvent
  measId : Byte
  enabled : Bool
  hysteresisDb : Byte
  timeToTrigger : Word
  threshold1 : Int
  threshold2 : Int
  quantity : RrcQuantity
  cellOffset : Nat → Int
  freqOffset : Int
  targetFreqOffset : Int

structure RrcMeasResult where
  rsrp : Int
  rsrq : Int
  sinr : Int

/-- The neighbors are those that are counted. Times are in seconds. -/
structure RrcMeasEventState where
  config : RrcMeasConfig
  eventEntered : Bool
  eventTriggered : Bool
  enterTime : Int
  triggerTime : Int
  servingResult : RrcMeasResult
  neighborResults : List RrcMeasResult
  triggeredNeighborIdx : Nat

structure RrcMeasContext where
  nextMeasId : Byte
  events : RrcMeasEvent → RrcMeasEventState
  numActiveEvents : Byte
  servingMeas : RrcMeasResult
  neighborMeas : List RrcMeasResult

/-! ### Zeroed memory -/

def RrcMeasConfig.zero : RrcMeasConfig :=
  { eventId := some .a1
    measId := 0
    enabled := false
    hysteresisDb := 0
    timeToTrigger := 0
    threshold1 := 0
    threshold2 := 0
    quantity := .rsrp
    cellOffset := fun _ => 0
    freqOffset := 0
    targetFreqOffset := 0 }

def RrcMeasEventState.zero : RrcMeasEventState :=
  { config := .zero
    eventEntered := false
    eventTriggered := false
    enterTime := 0
    triggerTime := 0
    servingResult := ⟨0, 0, 0⟩
    neighborResults := []
    triggeredNeighborIdx := 0 }

/-- The context that `rrc_meas_get_context` makes for a UE. -/
def rrcMeasNewContext : RrcMeasContext :=
  { nextMeasId := 0
    events := fun _ => .zero
    numActiveEvents := 0
    servingMeas := ⟨0, 0, 0⟩
    neighborMeas := [] }

def RrcMeasContext.setEvent (ctx : RrcMeasContext) (event : RrcMeasEvent) (state : RrcMeasEventState) :
    RrcMeasContext :=
  { ctx with events := Function.update ctx.events event state }

/-! ### Configuration -/

/-- What the three default configurations share. -/
def rrcMeasDefaultConfig (event : RrcMeasEvent) (threshold1 threshold2 : Int) : RrcMeasConfig :=
  { RrcMeasConfig.zero with
    eventId := some event
    enabled := true
    hysteresisDb := 1
    timeToTrigger := 640
    threshold1
    threshold2
    quantity := .rsrp }

def rrcMeasGetDefaultA3Config : RrcMeasConfig := rrcMeasDefaultConfig .a3 3 0

def rrcMeasGetDefaultA4Config : RrcMeasConfig := rrcMeasDefaultConfig .a4 (-100) 0

def rrcMeasGetDefaultA5Config : RrcMeasConfig := rrcMeasDefaultConfig .a5 (-110) (-100)

/-- The configuration is copied, with the number that is next, and the rest reset. -/
def RrcMeasEventState.configured (state : RrcMeasEventState) (config : RrcMeasConfig) (measId : Byte) :
    RrcMeasEventState :=
  { state with
    config := { config with measId }
    eventEntered := false
    eventTriggered := false
    enterTime := 0
    triggerTime := 0
    neighborResults := []
    triggeredNeighborIdx := 0xFF }

/-- The flag of the configuration is compared with that of its copy. -/
def rrcMeasConfigureEvent (ctx : RrcMeasContext) (config : RrcMeasConfig) :
    RrcMeasContext × Except UesimError Unit :=
  match config.eventId with
  | none => (ctx, .error .invalidParam)
  | some event =>
      let state := (ctx.events event).configured config ctx.nextMeasId
      let active :=
        if config.enabled ∧ !state.config.enabled then ctx.numActiveEvents + 1
        else if !config.enabled ∧ state.config.enabled then ctx.numActiveEvents - 1
        else ctx.numActiveEvents
      ({ ctx.setEvent event state with nextMeasId := ctx.nextMeasId + 1, numActiveEvents := active },
        .ok ())

def rrcMeasRemoveEvent (ctx : RrcMeasContext) (event : Option RrcMeasEvent) :
    RrcMeasContext × Except UesimError Unit :=
  match event with
  | none => (ctx, .error .invalidParam)
  | some event =>
      let active :=
        if (ctx.events event).config.enabled then ctx.numActiveEvents - 1 else ctx.numActiveEvents
      ({ ctx.setEvent event .zero with numActiveEvents := active }, .ok ())

def rrcMeasEnableEvent (ctx : RrcMeasContext) (event : Option RrcMeasEvent) (enable : Bool) :
    RrcMeasContext × Except UesimError Unit :=
  match event with
  | none => (ctx, .error .invalidParam)
  | some event =>
      let state := ctx.events event
      if state.config.enabled ≠ enable then
        let state := { state with config := { state.config with enabled := enable } }
        if enable then
          ({ ctx.setEvent event state with numActiveEvents := ctx.numActiveEvents + 1 }, .ok ())
        else
          ({ ctx.setEvent event { state with eventEntered := false, eventTriggered := false } with
              numActiveEvents := ctx.numActiveEvents - 1 }, .ok ())
      else (ctx, .ok ())

/-! ### Measurements -/

structure RrcMeasGnb where
  rsrp : Int
  rsrq : Int

structure RrcMeasUe where
  gnbs : Nat → RrcMeasGnb
  servingGnb : Option Nat
  candidateGnbs : List (Option Nat)

def rrcMaxGnbCandidates : Nat := 8

def RrcMeasGnb.result (gnb : RrcMeasGnb) : RrcMeasResult :=
  { rsrp := gnb.rsrp, rsrq := gnb.rsrq, sinr := gnb.rsrp + 10 }

/-- Without a serving gNB what was measured of one remains. -/
def rrcMeasPerformMeasurement (ctx : RrcMeasContext) (ue : RrcMeasUe) : RrcMeasContext :=
  { ctx with
    servingMeas :=
      match ue.servingGnb with
      | some gnb => (ue.gnbs gnb).result
      | none => ctx.servingMeas
    neighborMeas := (ue.candidateGnbs.take rrcMaxGnbCandidates).filterMap fun candidate =>
      if candidate = ue.servingGnb then none else candidate.map fun gnb => (ue.gnbs gnb).result }

def rrcMeasUpdateServingResult (ctx : RrcMeasContext) (result : RrcMeasResult) : RrcMeasContext :=
  { ctx with servingMeas := result }

/-! ### Entry conditions -/

def rrcMeasGetQuantityValue (result : RrcMeasResult) : RrcQuantity → Int
  | .rsrp => result.rsrp
  | .rsrq => result.rsrq
  | .sinr => result.sinr

namespace RrcMeasEventState

/-- Half of the configured number, rounded down. -/
def hysteresis (state : RrcMeasEventState) : Int := ((state.config.hysteresisDb.toNat / 2 : Nat) : Int)

def serving (state : RrcMeasEventState) : Int :=
  rrcMeasGetQuantityValue state.servingResult state.config.quantity

def neighborLevel (state : RrcMeasEventState) (result : RrcMeasResult) (i : Nat) : Int :=
  rrcMeasGetQuantityValue result state.config.quantity + state.config.targetFreqOffset
    + state.config.cellOffset i - state.hysteresis

def neighborAbove (state : RrcMeasEventState) (threshold : Int) : Option Nat :=
  (state.neighborResults.zipIdx.find? fun neighbor =>
    decide (state.neighborLevel neighbor.1 neighbor.2 > threshold)).map Prod.snd

end RrcMeasEventState

/-- The neighbor that meets the entry condition of A3, if one does. -/
def rrcMeasEvalA3 (state : RrcMeasEventState) : Option Nat :=
  if !state.config.enabled then none
  else state.neighborAbove (state.serving + state.config.freqOffset + state.config.threshold1)

def rrcMeasEvalA4 (state : RrcMeasEventState) : Option Nat :=
  if !state.config.enabled then none else state.neighborAbove state.config.threshold1

def rrcMeasEvalA5 (state : RrcMeasEventState) : Option Nat :=
  if !state.config.enabled then none
  else if state.serving + state.hysteresis ≥ state.config.threshold1 then none
  else state.neighborAbove state.config.threshold2

/-! ### Evaluation -/

/-- The measurements are copied into the events that are enabled. -/
def RrcMeasContext.copyMeasurements (ctx : RrcMeasContext) : RrcMeasContext :=
  { ctx with
    events := fun event =>
      if (ctx.events event).config.enabled then
        { ctx.events event with
          servingResult := ctx.servingMeas
          neighborResults := ctx.neighborMeas }
      else ctx.events event }

def RrcMeasEventState.elapsedMs (state : RrcMeasEventState) (now : Int) : Word :=
  BitVec.ofInt 32 (now - state.enterTime) * 1000

/-- What is known of an event once its entry condition is evaluated, and whether it is reported. -/
def RrcMeasEventState.evaluated (state : RrcMeasEventState) (entry : Option Nat) (now : Int) :
    RrcMeasEventState × Bool :=
  match entry with
  | some neighbor =>
      let state := { state with triggeredNeighborIdx := neighbor }
      if !state.eventEntered then
        ({ state with eventEntered := true, enterTime := now, eventTriggered := false }, false)
      else if state.elapsedMs now ≥ state.config.timeToTrigger ∧ !state.eventTriggered then
        ({ state with triggerTime := now, eventEntered := false, eventTriggered := false }, true)
      else (state, false)
  | none => ({ state with eventEntered := false, eventTriggered := false }, false)

/-- The conditions that are evaluated at all. -/
def rrcMeasEntry : RrcMeasEvent → Option (RrcMeasEventState → Option Nat)
  | .a3 => some rrcMeasEvalA3
  | .a4 => some rrcMeasEvalA4
  | .a5 => some rrcMeasEvalA5
  | _ => none

abbrev RrcMeasReport := Option (RrcMeasEvent × Nat)

def rrcMeasEvaluateLoop (now : Int) : List RrcMeasEvent → RrcMeasContext → RrcMeasContext × RrcMeasReport
  | [], ctx => (ctx, none)
  | event :: events, ctx =>
      if !(ctx.events event).config.enabled then rrcMeasEvaluateLoop now events ctx
      else
        match rrcMeasEntry event with
        | none => rrcMeasEvaluateLoop now events ctx
        | some entry =>
            let (state, reported) := (ctx.events event).evaluated (entry (ctx.events event)) now
            if reported then (ctx.setEvent event state, some (event, state.triggeredNeighborIdx))
            else rrcMeasEvaluateLoop now events (ctx.setEvent event state)

def rrcMeasEvaluateEvents (ctx : RrcMeasContext) (ue : RrcMeasUe) (now : Int) :
    RrcMeasContext × RrcMeasReport :=
  rrcMeasEvaluateLoop now RrcMeasEvent.all (rrcMeasPerformMeasurement ctx ue).copyMeasurements

end Uesim
