import Uesim.Library.Runs
import Uesim.Types

/-!
# HARQ processes

A process holds a transport block until it is acknowledged or given up. Feedback is taken in every state:
a NACK without a block to wait for starts one all the same, and the count of NACKs is a byte.
-/

namespace Uesim

open Bytes

inductive MacHarqState where
  | idle
  | active
  | pending
  deriving DecidableEq

/-- The time of the transmission is left out. -/
structure MacHarqProcess where
  processId : Byte
  state : MacHarqState
  tbData : Option (List Byte)
  tbLength : BitVec 64
  rvidx : BitVec 16
  ndi : Byte
  harqAck : Byte
  tbSize : BitVec 16
  numRetransmissions : Byte
  maxRetransmissions : Byte

def macHarqInitProcess (processId : Byte) : MacHarqProcess :=
  { processId
    state := .idle
    tbData := none
    tbLength := 0
    rvidx := 0
    ndi := 0
    harqAck := 0
    tbSize := 0
    numRetransmissions := 0
    maxRetransmissions := 4 }

/-- The old block is freed before it is known whether there is memory for the new one. -/
def macHarqStartTransmission (process : MacHarqProcess) (data : List Byte) (allocated : Bool) :
    MacHarqProcess × Except UesimError Unit :=
  if data.length = 0 then (process, .error .invalidParam)
  else if allocated then
    ({ process with
        tbData := some data
        tbLength := BitVec.ofNat 64 data.length
        tbSize := BitVec.ofNat 16 data.length
        state := .active
        numRetransmissions := 0
        ndi := 1
        rvidx := 0 },
      .ok ())
  else ({ process with tbData := none }, .error .memory)

def macHarqProcessAck (process : MacHarqProcess) (ack : Byte) : MacHarqProcess :=
  let process := { process with harqAck := ack }
  if ack = 1 then { process with state := .idle }
  else
    let process := { process with numRetransmissions := process.numRetransmissions + 1 }
    if process.numRetransmissions < process.maxRetransmissions then { process with state := .pending }
    else { process with state := .idle }

def macHarqRetransmit (process : MacHarqProcess) : MacHarqProcess × Except UesimError Unit :=
  if process.state ≠ .pending then (process, .error .invalidParam)
  else if process.tbData = none then (process, .error .invalidParam)
  else
    ({ process with rvidx := (process.rvidx + 1) % 4, ndi := 0, state := .active }, .ok ())

def macHarqResetProcess (process : MacHarqProcess) : MacHarqProcess :=
  { process with
    tbData := none
    tbLength := 0
    tbSize := 0
    rvidx := 0
    ndi := 0
    harqAck := 0
    numRetransmissions := 0
    state := .idle }

/-! ### Runs -/

inductive MacHarqOp where
  | start (data : List Byte) (allocated : Bool)
  | ack (ack : Byte)
  | retransmit
  | reset

/-- A process, and the feedback since its block was started: whether there was an ACK, and how many
NACKs. -/
structure MacHarqHistory where
  process : MacHarqProcess
  acked : Bool
  nacks : Nat

def macHarqBegin (processId : Byte) : MacHarqHistory :=
  { process := macHarqInitProcess processId, acked := false, nacks := 0 }

def macHarqStep (history : MacHarqHistory) : MacHarqOp → MacHarqHistory
  | .start data allocated =>
      match macHarqStartTransmission history.process data allocated with
      | (process, .ok ()) => { process, acked := false, nacks := 0 }
      | (process, .error _) => { history with process }
  | .ack ack =>
      { process := macHarqProcessAck history.process ack
        acked := history.acked || ack == 1
        nacks := if ack = 1 then history.nacks else history.nacks + 1 }
  | .retransmit => { history with process := (macHarqRetransmit history.process).1 }
  | .reset => { history with process := macHarqResetProcess history.process }

namespace MacHarqHistory

variable {history : MacHarqHistory}

/-- The block was acknowledged, or has exhausted its retransmissions. -/
def Settled (history : MacHarqHistory) : Prop :=
  history.acked = true ∨ history.process.maxRetransmissions.toNat ≤ history.nacks

/-- A process that is waiting has a block and a retransmission left, and a block that is settled is not
sent again. -/
structure Sound (history : MacHarqHistory) : Prop where
  waiting : history.process.state ≠ .idle → history.process.tbData ≠ none
    ∧ history.process.numRetransmissions < history.process.maxRetransmissions
  settled : history.Settled → (macHarqRetransmit history.process).2 ≠ .ok ()

/-- A NACK comes to a process that waits for feedback, or counts beyond the last retransmission; and memory
for a block is short only while the process is idle. -/
def Expected (history : MacHarqHistory) : MacHarqOp → Prop
  | .start data allocated => data.length ≠ 0 → allocated = false → history.process.state = .idle
  | .ack ack => ack ≠ 1 → history.process.state ≠ .idle
      ∨ history.process.maxRetransmissions ≤ history.process.numRetransmissions + 1
  | .retransmit => True
  | .reset => True

/-- What runs of expected operations keep: a process that waits counts the NACKs of a block that is not
settled, and an idle one with a block has settled it. -/
structure Counts (history : MacHarqHistory) : Prop where
  max : history.process.maxRetransmissions = 4
  waiting : history.process.state ≠ .idle → history.process.tbData ≠ none
    ∧ history.process.numRetransmissions.toNat = history.nacks ∧ history.nacks < 4
    ∧ history.acked = false
  idle : history.process.state = .idle → history.process.tbData ≠ none → history.Settled

theorem Counts.settled_iff (h : history.Counts) :
    history.Settled ↔ history.acked = true ∨ 4 ≤ history.nacks := by
  rw [Settled, h.max]
  rfl

theorem retransmit_ok_iff (process : MacHarqProcess) :
    (macHarqRetransmit process).2 = .ok () ↔ process.state = .pending ∧ process.tbData ≠ none := by
  rw [macHarqRetransmit]
  split
  · rename_i hstate
    exact iff_of_false (by simp) fun h => hstate h.1
  rename_i hstate
  split
  · rename_i hdata
    exact iff_of_false (by simp) fun h => h.2 hdata
  · rename_i hdata
    exact iff_of_true rfl ⟨not_ne_iff.mp hstate, hdata⟩

theorem Counts.sound (h : history.Counts) : history.Sound := by
  constructor
  · intro hstate
    obtain ⟨hdata, hcount, hfew, -⟩ := h.waiting hstate
    refine ⟨hdata, ?_⟩
    rw [h.max, BitVec.lt_def, hcount]
    exact hfew
  · intro hsettled hok
    have hpending := ((retransmit_ok_iff _).mp hok).1
    obtain ⟨-, -, hfew, hacked⟩ := h.waiting (by rw [hpending]; decide)
    rcases h.settled_iff.mp hsettled with hack | hmany
    · rw [hacked] at hack
      cases hack
    · omega

end MacHarqHistory

theorem macHarqBegin_counts (processId : Byte) : (macHarqBegin processId).Counts :=
  ⟨rfl, fun h => absurd rfl h, fun _ h => absurd rfl h⟩

/-! ### One operation -/

section Nack

variable {process : MacHarqProcess} {ack : Byte}

theorem macHarqProcessAck_ack (hack : ack = 1) :
    macHarqProcessAck process ack = { process with harqAck := ack, state := .idle } :=
  if_pos hack

theorem macHarqProcessAck_nack (hack : ack ≠ 1) :
    macHarqProcessAck process ack
      = { process with
          harqAck := ack
          numRetransmissions := process.numRetransmissions + 1
          state := if process.numRetransmissions + 1 < process.maxRetransmissions then .pending
            else .idle } := by
  rw [macHarqProcessAck, if_neg hack]
  dsimp only
  split
  · rfl
  · rfl

end Nack

namespace MacHarqHistory

variable {history : MacHarqHistory}

theorem macHarqStep_ack {ack : Byte} (hack : ack = 1) :
    (macHarqStep history (.ack ack)).process
        = { history.process with harqAck := ack, state := .idle }
      ∧ (macHarqStep history (.ack ack)).acked = true := by
  subst hack
  exact ⟨rfl, Bool.or_true _⟩

theorem macHarqStep_nack {ack : Byte} (hack : ack ≠ 1) :
    macHarqStep history (.ack ack)
      = { process := macHarqProcessAck history.process ack
          acked := history.acked
          nacks := history.nacks + 1 } := by
  have hne : (ack == 1) = false := beq_false_of_ne hack
  rw [macHarqStep, hne, Bool.or_false, if_neg hack]

theorem Counts.nack_exhausted (h : history.Counts) {ack : Byte} (hack : ack ≠ 1)
    (hmany : history.process.maxRetransmissions ≤ history.process.numRetransmissions + 1) :
    (macHarqStep history (.ack ack)).Counts := by
  have hidle : ¬history.process.numRetransmissions + 1 < history.process.maxRetransmissions :=
    BitVec.not_lt.mpr hmany
  rw [macHarqStep_nack hack, macHarqProcessAck_nack hack, if_neg hidle]
  refine ⟨h.max, fun hstate => absurd rfl hstate, fun _ hdata => ?_⟩
  by_cases hstate : history.process.state = .idle
  · rcases h.settled_iff.mp (h.idle hstate hdata) with hacked | hnacks
    · exact .inl hacked
    · refine .inr ?_
      rw [h.max]
      exact Nat.le_succ_of_le hnacks
  · obtain ⟨-, hcount, hfew, -⟩ := h.waiting hstate
    refine .inr ?_
    rw [h.max, BitVec.le_def, BitVec.toNat_add, hcount] at hmany
    change 4 ≤ (history.nacks + 1) % 2 ^ 8 at hmany
    change history.process.maxRetransmissions.toNat ≤ history.nacks + 1
    rw [h.max]
    change 4 ≤ history.nacks + 1
    omega

theorem Counts.nack_waiting (h : history.Counts) {ack : Byte} (hack : ack ≠ 1)
    (hstate : history.process.state ≠ .idle)
    (hfew : history.process.numRetransmissions + 1 < history.process.maxRetransmissions) :
    (macHarqStep history (.ack ack)).Counts := by
  obtain ⟨hdata, hcount, hless, hacked⟩ := h.waiting hstate
  have hnext : (history.process.numRetransmissions + 1).toNat = history.nacks + 1 := by
    rw [BitVec.toNat_add, hcount]
    change (history.nacks + 1) % 2 ^ 8 = history.nacks + 1
    omega
  rw [macHarqStep_nack hack, macHarqProcessAck_nack hack, if_pos hfew]
  refine ⟨h.max, fun _ => ⟨hdata, hnext, ?_, hacked⟩, fun hidle => by cases hidle⟩
  rw [h.max, BitVec.lt_def, hnext] at hfew
  exact hfew

/-- A NACK for an idle process starts it without a block, or with one that is settled. -/
theorem Counts.nack_idle (h : history.Counts) {ack : Byte} (hack : ack ≠ 1)
    (hstate : history.process.state = .idle)
    (hfew : history.process.numRetransmissions + 1 < history.process.maxRetransmissions) :
    ¬(macHarqStep history (.ack ack)).Sound := by
  rw [macHarqStep_nack hack, macHarqProcessAck_nack hack, if_pos hfew]
  intro hsound
  have hdata : history.process.tbData ≠ none := (hsound.waiting (by simp)).1
  have hsettled : history.acked = true ∨ history.process.maxRetransmissions.toNat ≤ history.nacks :=
    h.idle hstate hdata
  refine hsound.settled (hsettled.imp id fun hnacks => Nat.le_succ_of_le hnacks) ?_
  exact (retransmit_ok_iff _).mpr ⟨rfl, hdata⟩

theorem Counts.start (h : history.Counts) {data : List Byte} {allocated : Bool}
    (hexpected : history.Expected (.start data allocated)) :
    (macHarqStep history (.start data allocated)).Counts := by
  rw [macHarqStep, macHarqStartTransmission]
  by_cases hempty : data.length = 0
  · rw [if_pos hempty]
    exact h
  rw [if_neg hempty]
  cases allocated with
  | true =>
      exact ⟨h.max, fun _ => ⟨by simp, rfl, Nat.succ_pos 3, rfl⟩, fun hidle => by cases hidle⟩
  | false =>
      have hidle := hexpected hempty rfl
      exact ⟨h.max, fun hstate => absurd hidle hstate, fun _ hdata => absurd rfl hdata⟩

theorem Counts.retransmit (h : history.Counts) : (macHarqStep history .retransmit).Counts := by
  rw [macHarqStep, macHarqRetransmit]
  split
  · exact h
  rename_i hstate
  split
  · exact h
  · have hpending : history.process.state ≠ .idle := by
      rw [not_ne_iff.mp hstate]
      decide
    exact ⟨h.max, fun _ => h.waiting hpending, fun hidle => by cases hidle⟩

theorem Counts.reset (h : history.Counts) : (macHarqStep history .reset).Counts :=
  ⟨h.max, fun hstate => absurd rfl hstate, fun _ hdata => absurd rfl hdata⟩

theorem Counts.ack (h : history.Counts) {ack : Byte} (hexpected : history.Expected (.ack ack)) :
    (macHarqStep history (.ack ack)).Counts := by
  by_cases hack : ack = 1
  · obtain ⟨hprocess, hacked⟩ := macHarqStep_ack hack
    refine ⟨?_, fun hstate => ?_, fun _ _ => .inl hacked⟩
    · rw [hprocess]
      exact h.max
    · rw [hprocess] at hstate
      exact absurd rfl hstate
  by_cases hfew : history.process.numRetransmissions + 1 < history.process.maxRetransmissions
  · rcases hexpected hack with hstate | hmany
    · exact h.nack_waiting hack hstate hfew
    · exact absurd hfew (BitVec.not_lt.mpr hmany)
  · exact h.nack_exhausted hack (BitVec.not_lt.mp hfew)

theorem Counts.step (h : history.Counts) (op : MacHarqOp) (hexpected : history.Expected op) :
    (macHarqStep history op).Counts := by
  cases op with
  | start data allocated => exact h.start hexpected
  | ack ack => exact h.ack hexpected
  | retransmit => exact h.retransmit
  | reset => exact h.reset

theorem Counts.sound_iff (h : history.Counts) (op : MacHarqOp) :
    (macHarqStep history op).Sound ↔ history.Expected op := by
  refine ⟨fun hsound => ?_, fun hexpected => (h.step op hexpected).sound⟩
  cases op with
  | start data allocated =>
      rintro hempty rfl
      by_contra hstate
      have hwaiting := hsound.waiting
      rw [macHarqStep, macHarqStartTransmission, if_neg hempty] at hwaiting
      exact (hwaiting hstate).1 rfl
  | ack ack =>
      intro hack
      by_contra hneither
      obtain ⟨hstate, hmany⟩ := not_or.mp hneither
      exact h.nack_idle hack (not_ne_iff.mp hstate) (BitVec.not_le.mp hmany) hsound
  | retransmit => trivial
  | reset => trivial

end MacHarqHistory

/-! ### Whole runs -/

/-- **A process is sound throughout exactly when no NACK starts it again and memory is never short while
it waits.** -/
theorem macHarq_sound_iff (processId : Byte) (ops : List MacHarqOp) :
    Runs.Throughout macHarqStep MacHarqHistory.Sound (macHarqBegin processId) ops
      ↔ Runs.Always macHarqStep MacHarqHistory.Expected (macHarqBegin processId) ops :=
  Runs.throughout_iff (fun _ h => h.sound) (fun _ op h => h.sound_iff op)
    (fun _ op h hexpected => h.step op hexpected) (macHarqBegin_counts processId) ops

/-- A block that was acknowledged is sent again after a NACK that comes late. -/
theorem macHarq_not_sound :
    ¬Runs.Throughout macHarqStep MacHarqHistory.Sound (macHarqBegin 0)
      [.start [0xA5] true, .ack 1, .ack 0] := by
  rintro ⟨-, -, -, hsound⟩
  exact hsound.settled (.inl rfl) rfl

end Uesim
