import Mathlib.Data.Fintype.OfMap
import Uesim.Library.Counting
import Uesim.Library.Runs
import Uesim.Rrc.MeasurementEvents

/-!
# The table of measurement events

The number of active events is kept up to date when an event is enabled, disabled or removed. A configuration
replaces the flag of its event without a change of the number.
-/

namespace Uesim

open Bytes

instance : Fintype RrcMeasEvent :=
  .ofList RrcMeasEvent.all fun event => by cases event <;> decide

inductive RrcMeasOp where
  | configureEvent (config : RrcMeasConfig)
  | removeEvent (event : Option RrcMeasEvent)
  | enableEvent (event : Option RrcMeasEvent) (enable : Bool)

def rrcMeasStep (ctx : RrcMeasContext) : RrcMeasOp → RrcMeasContext
  | .configureEvent config => (rrcMeasConfigureEvent ctx config).1
  | .removeEvent event => (rrcMeasRemoveEvent ctx event).1
  | .enableEvent event enable => (rrcMeasEnableEvent ctx event enable).1

namespace RrcMeasContext

def enabledCount (ctx : RrcMeasContext) : Nat := ∑ event, (ctx.events event).config.enabled.toNat

/-- The number of active events is that of the enabled ones, and of a disabled event nothing is known. -/
structure Consistent (ctx : RrcMeasContext) : Prop where
  numActiveEvents : ctx.numActiveEvents.toNat = ctx.enabledCount
  disabled : ∀ event, (ctx.events event).config.enabled = false →
    (ctx.events event).eventEntered = false ∧ (ctx.events event).eventTriggered = false

end RrcMeasContext

/-- A configuration that is accepted leaves its event as enabled as it was. -/
def RrcMeasOp.Safe (ctx : RrcMeasContext) : RrcMeasOp → Prop
  | .configureEvent config =>
      ∀ event, config.eventId = some event → config.enabled = (ctx.events event).config.enabled
  | .removeEvent _ | .enableEvent _ _ => True

/-! ### Counting -/

namespace RrcMeasContext

variable (ctx : RrcMeasContext) (event : RrcMeasEvent) (state : RrcMeasEventState)

theorem enabledCount_setEvent_add :
    (ctx.setEvent event state).enabledCount + (ctx.events event).config.enabled.toNat
      = ctx.enabledCount + state.config.enabled.toNat :=
  Counting.count_update_add (fun state : RrcMeasEventState => state.config.enabled) ctx.events event state

theorem enabledCount_le : ctx.enabledCount ≤ 8 :=
  Counting.count_le_card (fun state : RrcMeasEventState => state.config.enabled) ctx.events

theorem events_setEvent_of_ne {event other : RrcMeasEvent} (h : other ≠ event) :
    (ctx.setEvent event state).events other = ctx.events other := Function.update_of_ne h _ _

@[simp]
theorem events_setEvent_self : (ctx.setEvent event state).events event = state :=
  Function.update_self _ _ _

/-- What an event is set to is consistent if the number is right and the event quiet where it is disabled. -/
theorem Consistent.setEvent {ctx : RrcMeasContext} (h : ctx.Consistent) {active measId : Byte}
    (hactive : active.toNat + (ctx.events event).config.enabled.toNat
      = ctx.numActiveEvents.toNat + state.config.enabled.toNat)
    (hquiet : state.config.enabled = false → state.eventEntered = false ∧ state.eventTriggered = false) :
    { ctx.setEvent event state with nextMeasId := measId, numActiveEvents := active }.Consistent where
  numActiveEvents := by
    have hcount := ctx.enabledCount_setEvent_add event state
    have hbefore := h.numActiveEvents
    change active.toNat = (ctx.setEvent event state).enabledCount
    omega
  disabled other hdisabled := by
    by_cases heq : other = event
    · subst heq
      change ((ctx.setEvent other state).events other).eventEntered = false ∧
        ((ctx.setEvent other state).events other).eventTriggered = false
      change ((ctx.setEvent other state).events other).config.enabled = false at hdisabled
      rw [events_setEvent_self] at hdisabled ⊢
      exact hquiet hdisabled
    · change ((ctx.setEvent event state).events other).eventEntered = false ∧
        ((ctx.setEvent event state).events other).eventTriggered = false
      change ((ctx.setEvent event state).events other).config.enabled = false at hdisabled
      rw [events_setEvent_of_ne ctx state heq] at hdisabled ⊢
      exact h.disabled other hdisabled

end RrcMeasContext

/-! ### Operations -/

theorem bool_toNat_injective {a b : Bool} (h : a.toNat = b.toNat) : a = b := by
  cases a <;> cases b <;> first | rfl | cases h

section Operations

open RrcMeasContext

variable {ctx : RrcMeasContext}

theorem rrcMeasConfigureEvent_numActiveEvents (ctx : RrcMeasContext) (config : RrcMeasConfig) :
    (rrcMeasConfigureEvent ctx config).1.numActiveEvents = ctx.numActiveEvents := by
  unfold rrcMeasConfigureEvent
  split
  · rfl
  · change (if config.enabled = true ∧ (!config.enabled) = true then ctx.numActiveEvents + 1
      else if (!config.enabled) = true ∧ config.enabled = true then ctx.numActiveEvents - 1
      else ctx.numActiveEvents) = ctx.numActiveEvents
    cases config.enabled <;> rfl

theorem rrcMeasConfigureEvent_consistent (h : ctx.Consistent) (config : RrcMeasConfig)
    (hsame : ∀ event, config.eventId = some event → config.enabled = (ctx.events event).config.enabled) :
    (rrcMeasConfigureEvent ctx config).1.Consistent := by
  have hnumber := rrcMeasConfigureEvent_numActiveEvents ctx config
  unfold rrcMeasConfigureEvent at hnumber ⊢
  split at hnumber
  · exact h
  · rename_i event hevent
    dsimp only at hnumber ⊢
    refine h.setEvent event _ ?_ fun _ => ⟨rfl, rfl⟩
    rw [hnumber, ← hsame event hevent]
    rfl

theorem rrcMeasConfigureEvent_same (h : ctx.Consistent) {config : RrcMeasConfig}
    (hafter : (rrcMeasConfigureEvent ctx config).1.Consistent) {event : RrcMeasEvent}
    (hevent : config.eventId = some event) : config.enabled = (ctx.events event).config.enabled := by
  have hnumber := rrcMeasConfigureEvent_numActiveEvents ctx config
  have hbefore := h.numActiveEvents
  have hcount := hafter.numActiveEvents
  have hset := ctx.enabledCount_setEvent_add event ((ctx.events event).configured config ctx.nextMeasId)
  have hconfigured : (rrcMeasConfigureEvent ctx config).1.enabledCount
      = (ctx.setEvent event ((ctx.events event).configured config ctx.nextMeasId)).enabledCount := by
    unfold rrcMeasConfigureEvent
    rw [hevent]
    rfl
  rw [← hconfigured, ← hcount, hnumber, hbefore] at hset
  exact bool_toNat_injective (Nat.add_left_cancel hset).symm

theorem rrcMeasRemoveEvent_consistent (h : ctx.Consistent) (event : Option RrcMeasEvent) :
    (rrcMeasRemoveEvent ctx event).1.Consistent := by
  unfold rrcMeasRemoveEvent
  split
  · exact h
  · rename_i event
    dsimp only
    refine h.setEvent event .zero ?_ fun _ => ⟨rfl, rfl⟩
    change (if (ctx.events event).config.enabled = true then _ else _ : Byte).toNat + _ = _ + 0
    split
    · rename_i henabled
      have hcount := ctx.enabledCount_setEvent_add event .zero
      have hbefore := h.numActiveEvents
      rw [henabled] at hcount ⊢
      change _ + 1 = _ + 0 at hcount
      change (ctx.numActiveEvents - 1).toNat + 1 = _
      bv_omega
    · rename_i hdisabled
      rw [Bool.not_eq_true] at hdisabled
      rw [hdisabled]
      rfl

theorem rrcMeasEnableEvent_consistent (h : ctx.Consistent) (event : Option RrcMeasEvent) (enable : Bool) :
    (rrcMeasEnableEvent ctx event enable).1.Consistent := by
  unfold rrcMeasEnableEvent
  split
  · exact h
  · rename_i event
    dsimp only
    have hle := ctx.enabledCount_le
    have hbefore := h.numActiveEvents
    split
    · rename_i hdiffers
      split
      · rename_i henable
        subst henable
        have hdisabled : (ctx.events event).config.enabled = false := Bool.not_eq_true _ ▸ hdiffers
        refine h.setEvent event _ ?_ fun hfalse => absurd hfalse (by simp)
        rw [hdisabled]
        change (ctx.numActiveEvents + 1).toNat + 0 = ctx.numActiveEvents.toNat + 1
        bv_omega
      · rename_i hdisable
        rw [Bool.not_eq_true] at hdisable
        subst hdisable
        have henabled : (ctx.events event).config.enabled = true := Bool.not_eq_false _ ▸ hdiffers
        have hcount := ctx.enabledCount_setEvent_add event .zero
        refine h.setEvent event _ ?_ fun _ => ⟨rfl, rfl⟩
        rw [henabled] at hcount ⊢
        change _ + 1 = _ + 0 at hcount
        change (ctx.numActiveEvents - 1).toNat + 1 = ctx.numActiveEvents.toNat + 0
        bv_omega
    · exact h

theorem rrcMeasStep_consistent (op : RrcMeasOp) (h : ctx.Consistent) (hsafe : op.Safe ctx) :
    (rrcMeasStep ctx op).Consistent := by
  cases op with
  | configureEvent config => exact rrcMeasConfigureEvent_consistent h config hsafe
  | removeEvent event => exact rrcMeasRemoveEvent_consistent h event
  | enableEvent event enable => exact rrcMeasEnableEvent_consistent h event enable

theorem rrcMeasStep_consistent_iff (op : RrcMeasOp) (h : ctx.Consistent) :
    (rrcMeasStep ctx op).Consistent ↔ op.Safe ctx := by
  refine ⟨fun hafter => ?_, rrcMeasStep_consistent op h⟩
  cases op with
  | configureEvent config => exact fun event hevent => rrcMeasConfigureEvent_same h hafter hevent
  | removeEvent event => trivial
  | enableEvent event enable => trivial

end Operations

theorem rrcMeasNewContext_consistent : rrcMeasNewContext.Consistent :=
  ⟨rfl, fun _ _ => ⟨rfl, rfl⟩⟩

/-- **The table is consistent throughout a run exactly when no configuration changes whether its event is
enabled.** -/
theorem rrcMeasTable_throughout_iff (ops : List RrcMeasOp) :
    Runs.Throughout rrcMeasStep RrcMeasContext.Consistent rrcMeasNewContext ops
      ↔ Runs.Always rrcMeasStep (fun ctx op => op.Safe ctx) rrcMeasNewContext ops :=
  Runs.throughout_iff (fun _ h => h) (fun _ op h => rrcMeasStep_consistent_iff op h)
    (fun _ op h hsafe => rrcMeasStep_consistent op h hsafe) rrcMeasNewContext_consistent ops

/-- The first event that is configured and enabled is not counted. -/
theorem rrcMeasConfigure_not_consistent :
    ¬Runs.Throughout rrcMeasStep RrcMeasContext.Consistent rrcMeasNewContext
      [.configureEvent { RrcMeasConfig.zero with eventId := some .a3, enabled := true }] := by
  intro h
  exact absurd h.2.numActiveEvents (by decide)

end Uesim
