import Uesim.Library.Runs
import Uesim.Rrc.SystemInformation

/-!
# Valid system information

The update of the timers keeps what is exactly as old as it may be, which the other functions take for too
old. And it knows SIB2 and SIB3 only by the later of their times.
-/

namespace Uesim

open Bytes BitMemory

inductive RrcSiOp where
  | mib (data : Memory) (len : Nat)
  | sib1 (data : Memory) (len : Nat)
  | sib2 (data : Memory) (len : Nat)
  | sib3 (data : Memory) (len : Nat)
  | reset
  | updateTimers

/-- A context, with the time in milliseconds, which does not wrap around, and when the last SIB2 and SIB3
came. -/
structure RrcSiUe where
  ctx : RrcSiContext
  now : Nat
  sib2Received : Nat
  sib3Received : Nat

def rrcSiStart (now : Nat) : RrcSiUe := { ctx := rrcSiInit, now, sib2Received := 0, sib3Received := 0 }

/-- What `uesim_get_time_ms` returns. -/
def rrcSiClock (now : Nat) : Word := BitVec.ofNat 32 now

/-- An operation some time after the last one. -/
def rrcSiStep (s : RrcSiUe) (event : Nat × RrcSiOp) : RrcSiUe :=
  let now := s.now + event.1
  match event.2 with
  | .mib data len => { s with ctx := (rrcHandleMib s.ctx data len (rrcSiClock now)).1, now }
  | .sib1 data len => { s with ctx := (rrcHandleSib1 s.ctx data len (rrcSiClock now)).1, now }
  | .sib2 data len =>
      let handled := rrcHandleSib2 s.ctx data len (rrcSiClock now)
      { s with ctx := handled.1, now, sib2Received := if handled.2.isOk then now else s.sib2Received }
  | .sib3 data len =>
      let handled := rrcHandleSib3 s.ctx data len (rrcSiClock now)
      { s with ctx := handled.1, now, sib3Received := if handled.2.isOk then now else s.sib3Received }
  | .reset => { s with ctx := rrcSiReset s.ctx, now }
  | .updateTimers => { s with ctx := rrcUpdateSiTimers s.ctx (rrcSiClock now), now }

namespace RrcSiUe

/-- The two notions of valid information agree, and no block is used for too long. -/
structure Agrees (s : RrcSiUe) : Prop where
  siValid : rrcIsSiValid s.ctx = true
    ↔ rrcIsMibValid s.ctx (rrcSiClock s.now) = true ∧ rrcIsSib1Valid s.ctx (rrcSiClock s.now) = true
  sib2 : s.ctx.sib2Valid = true → s.now - s.sib2Received ≤ 1800000
  sib3 : s.ctx.sib3Valid = true → s.now - s.sib3Received ≤ 1800000

/-- Where the timers are updated, a MIB and a SIB1 that are both kept are not exactly as old as they may be,
and a SIB2 or SIB3 that is kept for the time that the two share is not too old itself. A SIB3 is kept without
a SIB2, too. -/
structure Timely (s : RrcSiUe) (now : Nat) : Prop where
  within : s.ctx.mibValid = true → s.ctx.sib1Valid = true → rrcSiClock now - s.ctx.lastMibTime ≤ 160 →
    rrcSiClock now - s.ctx.lastSib1Time ≤ 600000 →
    rrcSiClock now - s.ctx.lastMibTime ≠ 160 ∧ rrcSiClock now - s.ctx.lastSib1Time ≠ 600000
  sib2 : s.ctx.sib2Valid = true → rrcSiClock now - s.ctx.lastSiTime ≤ 1800000 →
    now - s.sib2Received ≤ 1800000
  sib3 : s.ctx.sib3Valid = true →
    (s.ctx.sib2Valid = true → rrcSiClock now - s.ctx.lastSiTime ≤ 1800000) →
    now - s.sib3Received ≤ 1800000

/-- Behind an update of the timers all is as it should be. -/
def Good (s : RrcSiUe) (event : Nat × RrcSiOp) : Prop :=
  match event.2 with
  | .updateTimers => (rrcSiStep s event).Agrees
  | _ => True

def Safe (s : RrcSiUe) (event : Nat × RrcSiOp) : Prop :=
  match event.2 with
  | .updateTimers => s.Timely (s.now + event.1)
  | _ => True

end RrcSiUe

/-! ### What an update leaves -/

section Update

variable (ctx : RrcSiContext) (now : Word)

omit ctx now in
theorem flag_eq (valid : Bool) (age limit : Word) :
    (if valid = true ∧ age > limit then false else valid) = (valid && decide (age ≤ limit)) := by
  by_cases hold : age ≤ limit
  · rw [decide_eq_true hold, Bool.and_true, if_neg fun hlate => BitVec.not_le.mpr hlate.2 hold]
  · rw [decide_eq_false hold, Bool.and_false]
    cases valid with
    | false => exact if_neg fun hlate => Bool.false_ne_true hlate.1
    | true => exact if_pos ⟨rfl, BitVec.not_le.mp hold⟩

theorem expireMib_eq :
    ctx.expireMib now
      = { ctx with mibValid := ctx.mibValid && decide (now - ctx.lastMibTime ≤ 160) } := by
  rw [← flag_eq, RrcSiContext.expireMib]
  split <;> rfl

theorem expireSib1_eq :
    ctx.expireSib1 now
      = { ctx with sib1Valid := ctx.sib1Valid && decide (now - ctx.lastSib1Time ≤ 600000) } := by
  rw [← flag_eq, RrcSiContext.expireSib1]
  split <;> rfl

theorem expireSi_eq :
    ctx.expireSi now
      = { ctx with
          sib2Valid := ctx.sib2Valid && decide (now - ctx.lastSiTime ≤ 1800000)
          sib3Valid := ctx.sib3Valid && (!ctx.sib2Valid || decide (now - ctx.lastSiTime ≤ 1800000)) } := by
  unfold RrcSiContext.expireSi
  split
  · rename_i hexpired
    rw [decide_eq_false (BitVec.not_le.mpr hexpired.2), hexpired.1, Bool.and_false, Bool.not_true,
      Bool.or_false, Bool.and_false]
  · rename_i hkept
    cases hvalid : ctx.sib2Valid with
    | false => rw [Bool.false_and, Bool.not_false, Bool.true_or, Bool.and_true, ← hvalid]
    | true =>
        have hold : now - ctx.lastSiTime ≤ 1800000 := BitVec.not_lt.mp fun hlate => hkept ⟨hvalid, hlate⟩
        rw [decide_eq_true hold, Bool.and_true, Bool.or_true, Bool.and_true, ← hvalid]

/-- The flags behind an update, each by its own time but for those of SIB2 and SIB3. -/
theorem rrcUpdateSiTimers_eq :
    rrcUpdateSiTimers ctx now
      = { ctx with
          mibValid := ctx.mibValid && decide (now - ctx.lastMibTime ≤ 160)
          sib1Valid := ctx.sib1Valid && decide (now - ctx.lastSib1Time ≤ 600000)
          sib2Valid := ctx.sib2Valid && decide (now - ctx.lastSiTime ≤ 1800000)
          sib3Valid := ctx.sib3Valid && (!ctx.sib2Valid || decide (now - ctx.lastSiTime ≤ 1800000)) } := by
  rw [rrcUpdateSiTimers, expireMib_eq, expireSib1_eq, expireSi_eq]

end Update

theorem and_le_lt_iff {mib sib1 : Bool} {a b limit limit' : Word} :
    (((mib && decide (a ≤ limit)) && (sib1 && decide (b ≤ limit'))) = true
        ↔ ((mib && decide (a ≤ limit)) && decide (a < limit)) = true
          ∧ ((sib1 && decide (b ≤ limit')) && decide (b < limit')) = true)
      ↔ (mib = true → sib1 = true → a ≤ limit → b ≤ limit' → a ≠ limit ∧ b ≠ limit') := by
  simp only [Bool.and_eq_true, decide_eq_true_eq]
  constructor
  · intro h hmib hsib1 ha hb
    obtain ⟨⟨-, hless⟩, -, hless'⟩ := h.mp ⟨⟨hmib, ha⟩, hsib1, hb⟩
    exact ⟨fun heq => BitVec.lt_irrefl _ (heq ▸ hless), fun heq => BitVec.lt_irrefl _ (heq ▸ hless')⟩
  · intro h
    constructor
    · rintro ⟨⟨hmib, ha⟩, hsib1, hb⟩
      obtain ⟨hne, hne'⟩ := h hmib hsib1 ha hb
      exact ⟨⟨⟨hmib, ha⟩, BitVec.lt_of_le_ne ha hne⟩, ⟨hsib1, hb⟩, BitVec.lt_of_le_ne hb hne'⟩
    · rintro ⟨⟨hmib, -⟩, hsib1, -⟩
      exact ⟨hmib, hsib1⟩

theorem RrcSiUe.agrees_iff (s : RrcSiUe) (delay : Nat) :
    (rrcSiStep s (delay, .updateTimers)).Agrees ↔ s.Timely (s.now + delay) := by
  have hstep : rrcSiStep s (delay, .updateTimers)
      = { s with ctx := rrcUpdateSiTimers s.ctx (rrcSiClock (s.now + delay)), now := s.now + delay } := rfl
  rw [hstep, rrcUpdateSiTimers_eq]
  constructor
  · intro h
    refine ⟨and_le_lt_iff.mp h.siValid, fun hsib2 hold => ?_, fun hsib3 hold => ?_⟩
    · exact h.sib2 (Bool.and_eq_true_iff.mpr ⟨hsib2, decide_eq_true hold⟩)
    · refine h.sib3 (Bool.and_eq_true_iff.mpr ⟨hsib3, ?_⟩)
      cases hsib2 : s.ctx.sib2Valid with
      | false => rfl
      | true => exact decide_eq_true (hold hsib2)
  · intro h
    refine ⟨and_le_lt_iff.mpr h.within, fun hsib2 => ?_, fun hsib3 => ?_⟩
    · obtain ⟨hvalid, hold⟩ := Bool.and_eq_true_iff.mp hsib2
      exact h.sib2 hvalid (of_decide_eq_true hold)
    · obtain ⟨hvalid, hkept⟩ := Bool.and_eq_true_iff.mp hsib3
      refine h.sib3 hvalid fun hsib2 => ?_
      rw [hsib2, Bool.not_true, Bool.false_or] at hkept
      exact of_decide_eq_true hkept

/-- **The two notions agree behind every update of a run exactly when every update comes in time**, from
whatever time on and however long it takes. -/
theorem rrcSiRun_good_iff (now : Nat) (events : List (Nat × RrcSiOp)) :
    Runs.Always rrcSiStep RrcSiUe.Good (rrcSiStart now) events
      ↔ Runs.Always rrcSiStep RrcSiUe.Safe (rrcSiStart now) events := by
  refine Runs.always_congr (fun s event => ?_) _ events
  obtain ⟨delay, op⟩ := event
  cases op with
  | updateTimers => exact s.agrees_iff delay
  | _ => exact Iff.rfl

def rrcSiZeros : Memory := fun _ => 0

/-- At 160 ms the MIB is flagged valid but too old to be used. And a SIB3 that comes 1000 s behind SIB2 keeps
it for 2000 s. -/
theorem rrcSiRun_not_good :
    ¬Runs.Always rrcSiStep RrcSiUe.Good (rrcSiStart 0)
        [(0, .mib rrcSiZeros 4), (0, .sib1 rrcSiZeros 8), (160, .updateTimers)]
      ∧ ¬Runs.Always rrcSiStep RrcSiUe.Good (rrcSiStart 0)
          [(0, .sib2 rrcSiZeros 4), (1000000, .sib3 rrcSiZeros 4), (1000000, .updateTimers)] := by
  constructor
  · rintro ⟨-, -, hgood, -⟩
    exact absurd (((RrcSiUe.agrees_iff _ 160).mp hgood).within rfl rfl (by decide) (by decide)).1 (by decide)
  · rintro ⟨-, -, hgood, -⟩
    exact absurd (((RrcSiUe.agrees_iff _ 1000000).mp hgood).sib2 rfl (by decide)) (by decide)

end Uesim
