import Uesim.Library.Bytes
import Uesim.Library.Runs

/-!
# Discontinuous reception

The time and the offset are added with 32 bits and the sum is taken modulo the cycle. A cycle of 0 cannot be
divided by. A sum that wraps around is in another place of the cycle, unless the cycle divides `2 ^ 32`, and
where that place is on the other side of an edge of the on-duration, the on-duration is wrong.
-/

namespace Uesim

open Bytes Runs

structure MacDrxConfig where
  onDurationTimer : BitVec 16
  drxInactivityTimer : BitVec 16
  drxRetransmissionTimer : BitVec 16
  longDrxCycle : BitVec 16
  shortDrxCycle : BitVec 16
  drxStartOffset : BitVec 16
  shortCycleCount : Byte
  drxSlotOffset : BitVec 16
  drxActive : Bool
  onDuration : Bool
  useShortCycle : Bool
  currentCycle : BitVec 16
  nextOnDuration : Word
  lastActivityTime : Word
  harqActive : Fin 16 → Bool

/-- What an entity keeps of the configuration that it is given. -/
def macDrxConfig (config : MacDrxConfig) : MacDrxConfig :=
  { config with drxActive := false, onDuration := false }

def macDrxStart (drx : MacDrxConfig) : MacDrxConfig :=
  { drx with drxActive := true, currentCycle := 0 }

def macDrxOnDurationStart (drx : MacDrxConfig) : MacDrxConfig := { drx with onDuration := true }

def macDrxOnDurationEnd (drx : MacDrxConfig) : MacDrxConfig := { drx with onDuration := false }

def MacDrxConfig.cycle (drx : MacDrxConfig) : BitVec 16 :=
  if drx.useShortCycle then drx.shortDrxCycle else drx.longDrxCycle

/-- No result if the cycle is 0. -/
def macDrxUpdateTimers (drx : MacDrxConfig) (currentTimeMs : Word) : Option MacDrxConfig :=
  if drx.drxActive = false then some drx
  else if drx.cycle = 0 then none
  else
    let cyclePosition := (currentTimeMs + drx.drxStartOffset.setWidth 32) % drx.cycle.setWidth 32
    let updated :=
      if cyclePosition < drx.onDurationTimer.setWidth 32 then
        if drx.onDuration then drx else macDrxOnDurationStart drx
      else if drx.onDuration then macDrxOnDurationEnd drx
      else drx
    some { updated with lastActivityTime := currentTimeMs }

namespace MacDrxConfig

/-- Where in the cycle a time is. -/
def position (drx : MacDrxConfig) (time : Word) : Nat :=
  (time.toNat + drx.drxStartOffset.toNat) % drx.cycle.toNat

def InOnDuration (drx : MacDrxConfig) (time : Word) : Prop :=
  drx.position time < drx.onDurationTimer.toNat

instance (drx : MacDrxConfig) (time : Word) : Decidable (drx.InOnDuration time) :=
  inferInstanceAs (Decidable (_ < _))

/-- So close behind an edge of the on-duration that `2 ^ 32` milliseconds before it was in front of it. -/
def BehindEdge (drx : MacDrxConfig) (time : Word) : Prop :=
  (drx.position time < drx.onDurationTimer.toNat ∧ drx.position time < 2 ^ 32 % drx.cycle.toNat
      ∧ 2 ^ 32 % drx.cycle.toNat + drx.onDurationTimer.toNat ≤ drx.position time + drx.cycle.toNat)
    ∨ (drx.onDurationTimer.toNat ≤ drx.position time ∧ 2 ^ 32 % drx.cycle.toNat ≤ drx.position time
      ∧ drx.position time < 2 ^ 32 % drx.cycle.toNat + drx.onDurationTimer.toNat)

/-- There is a cycle, and the sum does not wrap around or is not behind an edge. -/
def Regular (drx : MacDrxConfig) (time : Word) : Prop :=
  drx.cycle ≠ 0 ∧ (time.toNat + drx.drxStartOffset.toNat < 2 ^ 32 ∨ ¬drx.BehindEdge time)

end MacDrxConfig

/-! ### One update -/

/-- Two moments that are `gap` apart, in a cycle with a window at its beginning. -/
theorem window_iff {moment gap cycle window : Nat} (hcycle : 0 < cycle) :
    (moment % cycle < window ↔ (gap + moment) % cycle < window)
      ↔ ¬((gap + moment) % cycle < window ∧ (gap + moment) % cycle < gap % cycle
            ∧ gap % cycle + window ≤ (gap + moment) % cycle + cycle
          ∨ window ≤ (gap + moment) % cycle ∧ gap % cycle ≤ (gap + moment) % cycle
            ∧ (gap + moment) % cycle < gap % cycle + window) := by
  have hgap := Nat.mod_lt gap hcycle
  have hmoment := Nat.mod_lt moment hcycle
  rw [Nat.add_mod_eq_ite]
  split <;> omega

namespace MacDrxConfig

variable {drx : MacDrxConfig}

theorem toNat_cyclePosition (drx : MacDrxConfig) (time : Word) :
    ((time + drx.drxStartOffset.setWidth 32) % drx.cycle.setWidth 32).toNat
      = (time.toNat + drx.drxStartOffset.toNat) % 2 ^ 32 % drx.cycle.toNat := by
  have hoffset := drx.drxStartOffset.isLt
  have hcycle := drx.cycle.isLt
  rw [BitVec.toNat_umod, BitVec.toNat_add, BitVec.toNat_setWidth, BitVec.toNat_setWidth,
    Nat.mod_eq_of_lt (Nat.lt_trans hoffset (by decide)), Nat.mod_eq_of_lt (Nat.lt_trans hcycle (by decide))]

theorem cyclePosition_lt_iff (drx : MacDrxConfig) (time : Word) :
    (time + drx.drxStartOffset.setWidth 32) % drx.cycle.setWidth 32 < drx.onDurationTimer.setWidth 32
      ↔ (time.toNat + drx.drxStartOffset.toNat) % 2 ^ 32 % drx.cycle.toNat < drx.onDurationTimer.toNat := by
  have htimer := drx.onDurationTimer.isLt
  rw [BitVec.lt_def, toNat_cyclePosition, BitVec.toNat_setWidth,
    Nat.mod_eq_of_lt (Nat.lt_trans htimer (by decide))]

/-- The sum that wraps around shows the on-duration exactly if the time is regular. -/
theorem cyclePosition_lt_iff_inOnDuration (hcycle : drx.cycle ≠ 0) (time : Word) :
    ((time + drx.drxStartOffset.setWidth 32) % drx.cycle.setWidth 32 < drx.onDurationTimer.setWidth 32
        ↔ drx.InOnDuration time) ↔ drx.Regular time := by
  have hpos : 0 < drx.cycle.toNat :=
    Nat.pos_of_ne_zero fun hzero => hcycle (BitVec.eq_of_toNat_eq hzero)
  rw [cyclePosition_lt_iff, Regular, and_iff_right hcycle]
  by_cases hfits : time.toNat + drx.drxStartOffset.toNat < 2 ^ 32
  · rw [Nat.mod_eq_of_lt hfits]
    exact iff_of_true Iff.rfl (.inl hfits)
  · rw [or_iff_right hfits]
    have htime := time.isLt
    have hoffset := drx.drxStartOffset.isLt
    have hwrapped : (time.toNat + drx.drxStartOffset.toNat) % 2 ^ 32
        = time.toNat + drx.drxStartOffset.toNat - 2 ^ 32 := by omega
    have hsum : time.toNat + drx.drxStartOffset.toNat
        = 2 ^ 32 + (time.toNat + drx.drxStartOffset.toNat - 2 ^ 32) := by omega
    rw [hwrapped, InOnDuration, BehindEdge, position, hsum, Nat.add_sub_cancel_left]
    exact window_iff hpos

end MacDrxConfig

theorem macDrxUpdateTimers_of_cycle_eq_zero {drx : MacDrxConfig} (hactive : drx.drxActive = true)
    (hcycle : drx.cycle = 0) (time : Word) : macDrxUpdateTimers drx time = none := by
  rw [macDrxUpdateTimers, if_neg (by rw [hactive]; decide), if_pos hcycle]

theorem update_onDuration_self {drx : MacDrxConfig} {on : Bool} (h : drx.onDuration = on) :
    { drx with onDuration := on } = drx := by
  rw [← h]

/-- It makes no difference that a flag is not written where it is right already. -/
theorem setOnDuration_eq (drx : MacDrxConfig) (on : Prop) [Decidable on] :
    (if on then if drx.onDuration then drx else macDrxOnDurationStart drx
      else if drx.onDuration then macDrxOnDurationEnd drx else drx)
      = { drx with onDuration := decide on } := by
  by_cases hon : on
  · rw [if_pos hon, decide_eq_true hon]
    cases hduration : drx.onDuration with
    | true => exact (update_onDuration_self hduration).symm
    | false => rfl
  · rw [if_neg hon, decide_eq_false hon]
    cases hduration : drx.onDuration with
    | true => rfl
    | false => exact (update_onDuration_self hduration).symm

theorem macDrxUpdateTimers_eq {drx : MacDrxConfig} (hactive : drx.drxActive = true) (hcycle : drx.cycle ≠ 0)
    (time : Word) :
    macDrxUpdateTimers drx time = some { drx with
      onDuration := decide ((time + drx.drxStartOffset.setWidth 32) % drx.cycle.setWidth 32
        < drx.onDurationTimer.setWidth 32)
      lastActivityTime := time } := by
  rw [macDrxUpdateTimers, if_neg (by rw [hactive]; decide), if_neg hcycle]
  dsimp only
  rw [setOnDuration_eq]

/-! ### Runs -/

def macDrxStep (state : Option MacDrxConfig) (time : Word) : Option MacDrxConfig :=
  state.bind fun drx => macDrxUpdateTimers drx time

/-- The update is defined, and the on-duration is as the configuration has it for this time. -/
def MacDrxConfig.OnTime (config : MacDrxConfig) (state : Option MacDrxConfig) (time : Word) : Prop :=
  ∃ drx, macDrxStep state time = some drx ∧ (drx.onDuration = true ↔ config.InOnDuration time)

/-- The configuration has been started, and only what an update writes is different. -/
def MacDrxConfig.Runs (config : MacDrxConfig) (state : Option MacDrxConfig) : Prop :=
  ∃ onDuration lastActivityTime,
    state = some { macDrxStart (macDrxConfig config) with onDuration, lastActivityTime }

namespace MacDrxConfig

variable {config : MacDrxConfig} {state : Option MacDrxConfig}

theorem macDrxStep_of_runs (h : config.Runs state) (time : Word) (hcycle : config.cycle ≠ 0) :
    macDrxStep state time = some { macDrxStart (macDrxConfig config) with
      onDuration := decide ((time + config.drxStartOffset.setWidth 32) % config.cycle.setWidth 32
        < config.onDurationTimer.setWidth 32)
      lastActivityTime := time } := by
  obtain ⟨onDuration, lastActivityTime, rfl⟩ := h
  rw [macDrxStep, Option.bind_some, macDrxUpdateTimers_eq]
  · rfl
  · rfl
  · exact hcycle

theorem macDrxStep_of_cycle_eq_zero (h : config.Runs state) (time : Word) (hcycle : config.cycle = 0) :
    macDrxStep state time = none := by
  obtain ⟨onDuration, lastActivityTime, rfl⟩ := h
  rw [macDrxStep, Option.bind_some, macDrxUpdateTimers_of_cycle_eq_zero]
  · rfl
  · exact hcycle

theorem onTime_iff (h : config.Runs state) (time : Word) :
    config.OnTime state time ↔ config.Regular time := by
  by_cases hcycle : config.cycle = 0
  · refine iff_of_false ?_ fun hregular => hregular.1 hcycle
    rintro ⟨drx, hstep, -⟩
    exact Option.some_ne_none drx (hstep.symm.trans (macDrxStep_of_cycle_eq_zero h time hcycle))
  · rw [← cyclePosition_lt_iff_inOnDuration hcycle, OnTime, macDrxStep_of_runs h time hcycle]
    simp only [Option.some.injEq, exists_eq_left', decide_eq_true_eq]

theorem Runs.step (h : config.Runs state) (time : Word) (hregular : config.Regular time) :
    config.Runs (macDrxStep state time) :=
  ⟨_, _, macDrxStep_of_runs h time hregular.1⟩

end MacDrxConfig

/-- **In every run of updates, each is defined and sets the on-duration as configured, exactly if there is a
cycle and no time wraps around behind an edge.** -/
theorem macDrx_onTime_iff (config : MacDrxConfig) (times : List Word) :
    Always macDrxStep config.OnTime (some (macDrxStart (macDrxConfig config))) times
      ↔ ∀ time ∈ times, config.Regular time := by
  have hstart : config.Runs (some (macDrxStart (macDrxConfig config))) :=
    ⟨false, config.lastActivityTime, rfl⟩
  have hruns := @always_iff _ _ macDrxStep config.Runs (fun _ time => config.Regular time) config.OnTime
    (fun _ time h => MacDrxConfig.onTime_iff h time) (fun _ time h => h.step time) _ hstart times
  exact hruns.trans (always_iff_forall _ times)

/-- A configuration of zeros but for these. -/
def MacDrxConfig.ofCycle (longDrxCycle onDurationTimer drxStartOffset : BitVec 16) : MacDrxConfig :=
  { onDurationTimer
    drxInactivityTimer := 0
    drxRetransmissionTimer := 0
    longDrxCycle
    shortDrxCycle := 0
    drxStartOffset
    shortCycleCount := 0
    drxSlotOffset := 0
    drxActive := false
    onDuration := false
    useShortCycle := false
    currentCycle := 0
    nextOnDuration := 0
    lastActivityTime := 0
    harqActive := fun _ => false }

/-- Without a cycle the first update divides by zero. With a cycle of ten, an on-duration of six and an offset
of ten, the second one is at position 3 of the cycle, and its sum wraps around to position 7. -/
theorem macDrx_not_onTime :
    (¬Always macDrxStep (MacDrxConfig.ofCycle 0 0 0).OnTime
        (some (macDrxStart (macDrxConfig (.ofCycle 0 0 0)))) [1])
      ∧ ¬Always macDrxStep (MacDrxConfig.ofCycle 10 6 10).OnTime
        (some (macDrxStart (macDrxConfig (.ofCycle 10 6 10)))) [4294967280, 4294967293] := by
  constructor
  · rintro ⟨⟨drx, hstep, -⟩, -⟩
    exact Option.some_ne_none drx hstep.symm
  · rintro ⟨-, ⟨drx, hstep, hon⟩, -⟩
    obtain rfl := Option.some.inj hstep
    exact absurd (hon.mpr (by decide)) (by decide)

end Uesim
