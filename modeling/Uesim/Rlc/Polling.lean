import Uesim.Rlc.Entity

/-!
# Polling in acknowledged mode

Polling compares two counters with their thresholds, starts those over that have come to them, and then has a
status PDU written without a place for it, which is refused. What happens is kept in order, since a counter is
to be started over after the status PDU only.
-/

namespace Uesim

open Bytes BitMemory

/-- An entity with the thresholds of its configuration and the counters of its member for AM. -/
structure RlcPolledEntity where
  entity : RlcEntity
  pollPdu : Word
  pollByte : Word
  pollPduCounter : Word
  pollByteCounter : Word

namespace RlcPolledEntity

variable (polled : RlcPolledEntity)

def PduReached : Prop := polled.pollPdu ≤ polled.pollPduCounter

def ByteReached : Prop := polled.pollByte ≤ polled.pollByteCounter

instance : Decidable polled.PduReached := inferInstanceAs (Decidable (_ ≤ _))

instance : Decidable polled.ByteReached := inferInstanceAs (Decidable (_ ≤ _))

end RlcPolledEntity

inductive RlcPollEvent where
  | resetPdu
  | resetByte
  | generated (statusData : Memory) (statusLength : Nat)

/-- `rlc_am_generate_status_pdu`, which first looks whether the caller has places for the status PDU and for
its length. -/
def rlcAmGenerateStatusPduTo (fuel : Nat) (entity : RlcEntity) (statusData statusLength : Bool) :
    Option (Except RlcFault (Except UesimError (Memory × Nat))) :=
  if ¬ (statusData ∧ statusLength) then some (.ok (.error .invalidParam))
  else rlcAmGenerateStatusPdu fuel entity

/-- The counters that have come to their thresholds are started over. -/
def rlcAmResetPoll (polled : RlcPolledEntity) : RlcPolledEntity × List RlcPollEvent :=
  ({ polled with
      pollPduCounter := if polled.PduReached then 0 else polled.pollPduCounter
      pollByteCounter := if polled.ByteReached then 0 else polled.pollByteCounter },
    (if polled.PduReached then [.resetPdu] else []) ++ if polled.ByteReached then [.resetByte] else [])

/-- The entity afterwards, what happened, and what is returned. The lock of the entity may be refused. -/
def rlcAmPollEntity (fuel : Nat) (lock : Bool) (polled : RlcPolledEntity) :
    Option (Except RlcFault (RlcPolledEntity × List RlcPollEvent × Except UesimError Unit)) :=
  if polled.entity.mode ≠ .am then some (.ok (polled, [], .error .invalidParam))
  else
    match polled.entity.am with
    | .error fault => some (.error fault)
    | .ok _ =>
        if ¬ lock then some (.ok (polled, [], .error .thread))
        else
          let reset := rlcAmResetPoll polled
          if polled.PduReached ∨ polled.ByteReached then
            (rlcAmGenerateStatusPduTo fuel polled.entity false false).map fun generated =>
              generated.map fun
                | .ok (statusData, statusLength) =>
                    (reset.1, reset.2 ++ [.generated statusData statusLength], .ok ())
                | .error error => (reset.1, reset.2, .error error)
          else some (.ok (reset.1, reset.2, .ok ()))

/-- Before a counter is started over a status PDU is written. -/
def GeneratesFirst (events : List RlcPollEvent) : Prop :=
  ∀ before event after, events = before ++ event :: after → event = .resetPdu ∨ event = .resetByte →
    ∃ statusData statusLength, .generated statusData statusLength ∈ before

/-- Polling succeeds or leaves both counters, and writes the status PDU first. -/
def PollsAtomically (fuel : Nat) (lock : Bool) (polled : RlcPolledEntity) : Prop :=
  ∃ next events result, rlcAmPollEntity fuel lock polled = some (.ok (next, events, result))
    ∧ (result = .ok ()
      ∨ next.pollPduCounter = polled.pollPduCounter ∧ next.pollByteCounter = polled.pollByteCounter)
    ∧ GeneratesFirst events

theorem generatesFirst_nil : GeneratesFirst [] := by
  intro before event after hevents
  exact absurd hevents.symm (List.append_ne_nil_of_right_ne_nil before (List.cons_ne_nil event after))

/-- Where a threshold has been reached, a counter is started over before anything else. -/
theorem not_generatesFirst_resetPoll {polled : RlcPolledEntity}
    (hreached : polled.PduReached ∨ polled.ByteReached) : ¬ GeneratesFirst (rlcAmResetPoll polled).2 := by
  obtain ⟨event, after, hevents, hreset⟩ : ∃ event after, (rlcAmResetPoll polled).2 = [] ++ event :: after
      ∧ (event = .resetPdu ∨ event = .resetByte) := by
    by_cases hpdu : polled.PduReached
    · refine ⟨.resetPdu, if polled.ByteReached then [.resetByte] else [], ?_, .inl rfl⟩
      simp only [rlcAmResetPoll, if_pos hpdu]
      rfl
    · refine ⟨.resetByte, [], ?_, .inr rfl⟩
      simp only [rlcAmResetPoll, if_neg hpdu, if_pos (hreached.resolve_left hpdu)]
  intro hfirst
  obtain ⟨_, _, hmem⟩ := hfirst [] event after hevents hreset
  cases hmem

section AmEntity

variable {polled : RlcPolledEntity} {am : RlcAmEntity}

theorem rlcAmPollEntity_unlocked (fuel : Nat) (hmode : polled.entity.mode = .am)
    (ham : polled.entity.am = .ok am) :
    rlcAmPollEntity fuel false polled = some (.ok (polled, [], .error .thread)) := by
  rw [rlcAmPollEntity, if_neg (not_not.mpr hmode), ham]
  rfl

theorem rlcAmPollEntity_reached (fuel : Nat) (hmode : polled.entity.mode = .am)
    (ham : polled.entity.am = .ok am) (hreached : polled.PduReached ∨ polled.ByteReached) :
    rlcAmPollEntity fuel true polled
      = some (.ok ((rlcAmResetPoll polled).1, (rlcAmResetPoll polled).2, .error .invalidParam)) := by
  have hgenerate : rlcAmGenerateStatusPduTo fuel polled.entity false false
      = some (.ok (.error .invalidParam)) := rfl
  rw [rlcAmPollEntity, if_neg (not_not.mpr hmode), ham]
  dsimp only
  rw [if_neg (not_not.mpr rfl), if_pos hreached, hgenerate]
  rfl

theorem rlcAmPollEntity_below (fuel : Nat) (hmode : polled.entity.mode = .am)
    (ham : polled.entity.am = .ok am) (hpdu : ¬ polled.PduReached) (hbyte : ¬ polled.ByteReached) :
    rlcAmPollEntity fuel true polled = some (.ok (polled, [], .ok ())) := by
  have hreset : rlcAmResetPoll polled = (polled, []) := by
    rw [rlcAmResetPoll, if_neg hpdu, if_neg hbyte, if_neg hpdu, if_neg hbyte]
    rfl
  rw [rlcAmPollEntity, if_neg (not_not.mpr hmode), ham]
  dsimp only
  rw [if_neg (not_not.mpr rfl), if_neg (not_or.mpr ⟨hpdu, hbyte⟩), hreset]

/-- **Polling is atomic exactly when the lock is refused or neither threshold has been reached.** -/
theorem pollsAtomically_iff (fuel : Nat) (lock : Bool) (hmode : polled.entity.mode = .am)
    (ham : polled.entity.am = .ok am) :
    PollsAtomically fuel lock polled ↔ lock = false ∨ ¬ polled.PduReached ∧ ¬ polled.ByteReached := by
  cases lock with
  | false =>
      exact iff_of_true ⟨_, _, _, rlcAmPollEntity_unlocked fuel hmode ham, .inr ⟨rfl, rfl⟩,
        generatesFirst_nil⟩ (.inl rfl)
  | true =>
      rw [or_iff_right Bool.true_eq_false.mp, ← not_or]
      by_cases hreached : polled.PduReached ∨ polled.ByteReached
      · refine iff_of_false ?_ (not_not.mpr hreached)
        rintro ⟨next, events, result, hpoll, -, hfirst⟩
        rw [rlcAmPollEntity_reached fuel hmode ham hreached] at hpoll
        obtain ⟨-, rfl, -⟩ := hpoll
        exact not_generatesFirst_resetPoll hreached hfirst
      · obtain ⟨hpdu, hbyte⟩ := not_or.mp hreached
        exact iff_of_true ⟨_, _, _, rlcAmPollEntity_below fuel hmode ham hpdu hbyte, .inl rfl,
          generatesFirst_nil⟩ hreached

end AmEntity

/-- Three PDUs do not come to a threshold of four. -/
theorem pollsAtomically_three :
    ∃ entity, rlcCreateEntity 1 .am none = .ok entity
      ∧ PollsAtomically 0 true ⟨entity, 4, 1000, 3, 0⟩ := by
  have hcreate : rlcCreateEntity 1 .am none = .ok _ := rfl
  exact ⟨_, hcreate, (pollsAtomically_iff 0 true rfl rfl).mpr (.inr (by decide))⟩

/-- Four PDUs do; the counter is started over, the caller is told that a parameter is invalid, and there is no
status PDU. -/
theorem not_pollsAtomically_four :
    ∃ entity next, rlcCreateEntity 1 .am none = .ok entity
      ∧ rlcAmPollEntity 0 true ⟨entity, 4, 1000, 4, 0⟩
        = some (.ok (next, [.resetPdu], .error .invalidParam))
      ∧ next.pollPduCounter = 0 ∧ ¬ PollsAtomically 0 true ⟨entity, 4, 1000, 4, 0⟩ := by
  obtain ⟨entity, am, hcreate, hmode, ham⟩ :
      ∃ entity am, rlcCreateEntity 1 .am none = .ok entity ∧ entity.mode = .am ∧ entity.am = .ok am :=
    ⟨_, _, rfl, rfl, rfl⟩
  have hreached : RlcPolledEntity.PduReached ⟨entity, 4, 1000, 4, 0⟩ := BitVec.le_refl (4 : Word)
  have hpoll := rlcAmPollEntity_reached 0 hmode ham (.inl hreached)
  refine ⟨entity, _, hcreate, hpoll, rfl, ?_⟩
  rintro ⟨next, events, result, hpolled, -, hfirst⟩
  rw [hpoll] at hpolled
  obtain ⟨-, rfl, -⟩ := hpolled
  exact not_generatesFirst_resetPoll (.inl hreached) hfirst

end Uesim
