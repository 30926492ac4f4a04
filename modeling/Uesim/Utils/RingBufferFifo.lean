import Uesim.Utils.RingBuffer

/-!
# Bytes come out as they went in

The bytes between the two indices are those that were written and not read yet, also while either side is in
the middle of a chunk: the writer has copied some bytes in front of the index, and the reader has copied some
bytes behind its own.
-/

namespace Uesim

open Bytes

def RingBufferStage.pending (chunk : Nat) : RingBufferStage → Nat
  | .copyFirst => chunk
  | .copySecond => chunk
  | .update => chunk
  | _ => 0

def RingBufferStage.copied (first chunk : Nat) : RingBufferStage → Nat
  | .copySecond => first
  | .update => chunk
  | _ => 0

def RingBufferStage.copying (first chunk : Nat) : RingBufferStage → Nat
  | .copyFirst => first
  | .copySecond => chunk - first
  | _ => 0

namespace RingBufferSystem

def pending (s : RingBufferSystem) (side : RingBufferSide) : Nat :=
  (s.call side).stage.pending (s.call side).chunk

def copied (s : RingBufferSystem) (side : RingBufferSide) : Nat :=
  (s.call side).stage.copied (s.first side) (s.call side).chunk

def copying (s : RingBufferSystem) (side : RingBufferSide) : Nat :=
  (s.call side).stage.copying (s.first side) (s.call side).chunk

/-- What goes on between both sides: so many bytes are written, and so many of them read. -/
structure Streams (s : RingBufferSystem) (written read : Nat) : Prop where
  size_pos : 0 < s.rb.size
  head_eq : s.rb.head = written % s.rb.size
  tail_eq : s.rb.tail = read % s.rb.size
  writer_room : written + s.pending .writer < read + s.rb.size
  reader_room : read + s.pending .reader ≤ written
  length_eq : s.writer.length = s.data.length
  passed_length : s.passed.length + s.writer.done = written + s.data.length
  pending_le : s.writer.done + s.pending .writer ≤ s.data.length
  idle_done : s.writer.stage = .idle → s.writer.done = s.data.length
  rest : s.passed.drop written = s.data.drop s.writer.done
  holds : Ring.Holds s.rb.size s.rb.buffer s.passed read (written + s.copied .writer)
  delivered_eq : s.delivered = s.passed.take (read + s.copied .reader)

def Flowing (s : RingBufferSystem) : Prop := ∃ written read, s.Streams written read

/-- The delivered bytes are the first of those passed; the indices are inside; what is used and what is
available is all but one byte; and what is copied next goes where nothing unread is. -/
structure Fifo (s : RingBufferSystem) : Prop where
  inOrder : s.delivered <+: s.passed
  head_lt : s.rb.head < s.rb.size
  tail_lt : s.rb.tail < s.rb.size
  used_add_available : ringBufferUsed s.rb + ringBufferAvailable s.rb = s.rb.size - 1
  unread : ∀ k < ringBufferUsed s.rb,
    ¬(s.written.1 ≤ (s.rb.tail + k) % s.rb.size
      ∧ (s.rb.tail + k) % s.rb.size < s.written.1 + s.written.2.length)

variable {s : RingBufferSystem} {written read : Nat}

/-! ### What both sides see -/

theorem Streams.exists_used (h : s.Streams written read) :
    ∃ used < s.rb.size, written = read + used := by
  have hwriter := h.writer_room
  have hreader := h.reader_room
  exact ⟨written - read, by omega, by omega⟩

theorem Streams.used_eq (h : s.Streams written read) : read + ringBufferUsed s.rb = written := by
  obtain ⟨used, hused, rfl⟩ := h.exists_used
  rw [ringBufferUsed, h.head_eq, h.tail_eq, Ring.distance_eq hused]

theorem Streams.available_eq (h : s.Streams written read) :
    written + ringBufferAvailable s.rb + 1 = read + s.rb.size := by
  obtain ⟨used, hused, rfl⟩ := h.exists_used
  rw [ringBufferAvailable, h.head_eq, h.tail_eq, Ring.room_eq hused]
  omega

theorem first_le (s : RingBufferSystem) (side : RingBufferSide) : s.first side ≤ (s.call side).chunk :=
  Nat.min_le_left _ _

theorem copied_add_copying_le (s : RingBufferSystem) (side : RingBufferSide) :
    s.copied side + s.copying side ≤ s.pending side := by
  have hfirst := s.first_le side
  rw [copied, copying, pending]
  cases (s.call side).stage <;>
    simp only [RingBufferStage.copied, RingBufferStage.copying, RingBufferStage.pending] <;> omega

/-- The next copy begins where the last one has ended, and does not go over the end of the buffer. -/
theorem copying_start (s : RingBufferSystem) (side : RingBufferSide) (hsize : 0 < s.rb.size) {position : Nat}
    (hindex : s.index side = position % s.rb.size) (hle : s.pending side ≤ s.rb.size)
    (hsome : s.copying side ≠ 0) :
    (position + s.copied side) % s.rb.size + s.copying side ≤ s.rb.size
      ∧ (position + s.copied side) % s.rb.size
        = if (s.call side).stage = .copyFirst then s.index side else 0 := by
  have hlt : position % s.rb.size < s.rb.size := Nat.mod_lt _ hsize
  have hfirst : s.first side = min (s.call side).chunk (s.rb.size - s.index side) := rfl
  rw [copying] at hsome ⊢
  rw [copied]
  rw [pending] at hle
  cases hstage : (s.call side).stage with
  | copyFirst =>
      rw [if_pos rfl]
      simp only [RingBufferStage.copied, RingBufferStage.copying, Nat.add_zero]
      omega
  | copySecond =>
      rw [hstage] at hsome hle
      rw [if_neg (by decide)]
      simp only [RingBufferStage.copied, RingBufferStage.copying, RingBufferStage.pending] at hsome hle ⊢
      have hzero : (position + s.first side) % s.rb.size = 0 := Ring.mod_add_eq_zero (by omega)
      rw [hzero]
      omega
  | _ => rw [hstage] at hsome; exact absurd rfl hsome

theorem Streams.pending_lt (h : s.Streams written read) (side : RingBufferSide) :
    s.pending side < s.rb.size := by
  have hwriter := h.writer_room
  have hreader := h.reader_room
  cases side <;> omega

theorem Streams.written_eq (h : s.Streams written read) :
    s.written.2 = (s.passed.drop (written + s.copied .writer)).take (s.copying .writer)
      ∧ s.written.1 = if s.writer.stage = .copyFirst then s.rb.head else 0 := by
  have hrest := h.rest
  rw [copied, copying, call, RingBufferSystem.written]
  cases hstage : s.writer.stage with
  | copyFirst => exact ⟨by rw [← hrest]; rfl, rfl⟩
  | copySecond =>
      refine ⟨?_, rfl⟩
      simp only [RingBufferStage.copied, RingBufferStage.copying]
      rw [← List.drop_drop, ← hrest, List.drop_drop]
  | _ => exact ⟨List.take_zero.symm, rfl⟩

theorem Streams.length_written (h : s.Streams written read) :
    s.written.2.length = s.copying .writer := by
  have hlength := h.passed_length
  have hpending := h.pending_le
  have hcopied := s.copied_add_copying_le .writer
  rw [h.written_eq.1, List.length_take, List.length_drop]
  omega

theorem Streams.written_start (h : s.Streams written read) (hsome : s.copying .writer ≠ 0) :
    s.written.1 = (written + s.copied .writer) % s.rb.size
      ∧ (written + s.copied .writer) % s.rb.size + s.copying .writer ≤ s.rb.size := by
  obtain ⟨hle, hstart⟩ :=
    s.copying_start .writer h.size_pos h.head_eq (Nat.le_of_lt (h.pending_lt .writer)) hsome
  exact ⟨h.written_eq.2.trans hstart.symm, hle⟩

theorem Streams.read_eq (h : s.Streams written read) :
    s.read = (s.passed.drop (read + s.copied .reader)).take (s.copying .reader) := by
  rcases Nat.eq_zero_or_pos (s.copying .reader) with hnothing | hsome
  · rw [hnothing, List.take_zero]
    rw [copying, call] at hnothing
    rw [RingBufferSystem.read]
    cases hstage : s.reader.stage with
    | copyFirst =>
        rw [hstage] at hnothing
        exact List.eq_nil_of_length_eq_zero ((Ring.length_load _ _ _).trans hnothing)
    | copySecond =>
        rw [hstage] at hnothing
        exact List.eq_nil_of_length_eq_zero ((Ring.length_load _ _ _).trans hnothing)
    | _ => rfl
  · obtain ⟨hle, hstart⟩ := s.copying_start .reader h.size_pos h.tail_eq
      (Nat.le_of_lt (h.pending_lt .reader)) (Nat.ne_of_gt hsome)
    have hcopied := s.copied_add_copying_le .reader
    have hroom := h.reader_room
    have hholds : Ring.Holds s.rb.size s.rb.buffer s.passed (read + s.copied .reader) written :=
      h.holds.mono (Nat.le_add_right _ _) (Nat.le_add_right _ _)
    rw [← hholds.load (by omega) hle, hstart]
    rw [copying, call] at hsome ⊢
    rw [RingBufferSystem.read]
    cases hstage : s.reader.stage with
    | copyFirst => rfl
    | copySecond => rfl
    | _ => rw [hstage] at hsome; exact absurd hsome (Nat.lt_irrefl 0)

/-- **While so many bytes are written and read, they come out in order and none is lost.** -/
theorem Streams.fifo (h : s.Streams written read) : s.Fifo := by
  have hused := h.used_eq
  have havailable := h.available_eq
  have hroom := h.writer_room
  refine ⟨?_, ?_, ?_, by omega, fun k hk => ?_⟩
  · rw [h.delivered_eq]
    exact ⟨_, List.take_append_drop _ _⟩
  · rw [h.head_eq]
    exact Nat.mod_lt _ h.size_pos
  · rw [h.tail_eq]
    exact Nat.mod_lt _ h.size_pos
  · have hcell : (s.rb.tail + k) % s.rb.size = (read + k) % s.rb.size := by
      rw [h.tail_eq, Nat.mod_add_mod]
    rw [hcell]
    have hcopied := s.copied_add_copying_le .writer
    rw [h.length_written]
    rcases Nat.eq_zero_or_pos (s.copying .writer) with hnothing | hsome
    · omega
    · obtain ⟨hstart, hcontiguous⟩ := h.written_start (Nat.ne_of_gt hsome)
      rw [hstart]
      exact Ring.cell_not_mem (Nat.le_add_right read k) (by omega) (by omega) hcontiguous

/-! ### One step -/

theorem call_setLock (s : RingBufferSystem) (side : RingBufferSide) (locked : Bool) :
    (s.setLock side locked).call side = s.call side := by
  cases side <;> rfl

theorem call_wake_other (s : RingBufferSystem) (side : RingBufferSide) :
    (s.wake side.other).call side = s.call side := by
  rw [RingBufferSystem.wake]
  split
  · cases side <;> rfl
  · rfl

theorem pending_of_stage (s : RingBufferSystem) {side : RingBufferSide} {stage : RingBufferStage}
    (hstage : (s.call side).stage = stage) : s.pending side = stage.pending (s.call side).chunk := by
  rw [pending, hstage]

theorem copied_of_stage (s : RingBufferSystem) {side : RingBufferSide} {stage : RingBufferStage}
    (hstage : (s.call side).stage = stage) :
    s.copied side = stage.copied (s.first side) (s.call side).chunk := by
  rw [copied, hstage]

theorem Streams.setLock (h : s.Streams written read) (side : RingBufferSide) (locked : Bool) :
    (s.setLock side locked).Streams written read := by
  cases side <;>
    exact ⟨h.size_pos, h.head_eq, h.tail_eq, h.writer_room, h.reader_room, h.length_eq, h.passed_length,
      h.pending_le, h.idle_done, h.rest, h.holds, h.delivered_eq⟩

theorem Streams.setStage (h : s.Streams written read) {side : RingBufferSide} {stage : RingBufferStage}
    (hpending : (s.setStage side stage).pending side = s.pending side)
    (hcopied : (s.setStage side stage).copied side = s.copied side)
    (hidle : stage = .idle → (s.call side).length ≤ (s.call side).done) :
    (s.setStage side stage).Streams written read := by
  cases side with
  | writer =>
      have hlength := h.length_eq
      have hle := h.pending_le
      refine ⟨h.size_pos, h.head_eq, h.tail_eq, ?_, h.reader_room, h.length_eq, h.passed_length, ?_,
        fun hstage => ?_, h.rest, ?_, h.delivered_eq⟩
      · rw [hpending]
        exact h.writer_room
      · rw [hpending]
        exact h.pending_le
      · have hdone : s.writer.length ≤ s.writer.done := hidle hstage
        change s.writer.done = s.data.length
        omega
      · rw [hcopied]
        exact h.holds
  | reader =>
      refine ⟨h.size_pos, h.head_eq, h.tail_eq, h.writer_room, ?_, h.length_eq, h.passed_length,
        h.pending_le, h.idle_done, h.rest, h.holds, ?_⟩
      · rw [hpending]
        exact h.reader_room
      · rw [hcopied]
        exact h.delivered_eq

theorem Streams.wake (h : s.Streams written read) (side : RingBufferSide) :
    (s.wake side).Streams written read := by
  rw [RingBufferSystem.wake]
  split
  · rename_i hstage
    refine h.setStage ?_ ?_ (fun hidle => by cases hidle)
    · rw [s.pending_of_stage hstage]
      cases side <;> rfl
    · rw [s.copied_of_stage hstage]
      cases side <;> rfl
  · exact h

/-- The chunk is not more than what was found, and than what is left of the request. -/
theorem Streams.startChunk (h : s.Streams written read) {side : RingBufferSide}
    (hcopied : s.copied side = 0) : (s.startChunk side).Streams written read := by
  cases side with
  | writer =>
      have havailable := h.available_eq
      have hlength := h.length_eq
      have hle := h.pending_le
      have hpending : (s.startChunk .writer).pending .writer
          = min (s.writer.length - s.writer.done) (ringBufferAvailable s.rb) := rfl
      refine ⟨h.size_pos, h.head_eq, h.tail_eq, ?_, h.reader_room, h.length_eq, h.passed_length, ?_,
        (fun hstage => by cases hstage), h.rest, ?_, h.delivered_eq⟩
      · rw [hpending]
        change _ < read + s.rb.size
        omega
      · rw [hpending]
        change s.writer.done + _ ≤ s.data.length
        omega
      · have hholds := h.holds
        rwa [hcopied] at hholds
  | reader =>
      have hused := h.used_eq
      have hpending : (s.startChunk .reader).pending .reader
          = min (s.reader.length - s.reader.done) (ringBufferUsed s.rb) := rfl
      refine ⟨h.size_pos, h.head_eq, h.tail_eq, h.writer_room, ?_, h.length_eq, h.passed_length,
        h.pending_le, h.idle_done, h.rest, h.holds, ?_⟩
      · rw [hpending]
        omega
      · have hdelivered := h.delivered_eq
        rwa [hcopied] at hdelivered

theorem Streams.copy (h : s.Streams written read) {side : RingBufferSide} {stage : RingBufferStage}
    (hpending : (s.setStage side stage).pending side = s.pending side)
    (hcopied : (s.setStage side stage).copied side = s.copied side + s.copying side)
    (hidle : stage ≠ .idle) : ((s.copy side).setStage side stage).Streams written read := by
  have hle := s.copied_add_copying_le side
  cases side with
  | writer =>
      refine ⟨h.size_pos, h.head_eq, h.tail_eq, ?_, h.reader_room, h.length_eq, h.passed_length, ?_,
        (fun hstage => absurd hstage hidle), h.rest, ?_, h.delivered_eq⟩
      · exact Nat.lt_of_le_of_lt (Nat.le_of_eq (congrArg (written + ·) hpending)) h.writer_room
      · exact Nat.le_trans (Nat.le_of_eq (congrArg (s.writer.done + ·) hpending)) h.pending_le
      · change Ring.Holds s.rb.size (Ring.store s.rb.buffer s.written.1 s.written.2) s.passed read
          (written + (s.setStage .writer stage).copied .writer)
        rw [hcopied, ← Nat.add_assoc, ← h.length_written]
        rcases Nat.eq_zero_or_pos (s.copying .writer) with hnothing | hsome
        · have hnil : s.written.2 = [] :=
            List.eq_nil_of_length_eq_zero (h.length_written.trans hnothing)
          rw [hnil, Ring.store_nil]
          exact h.holds
        · obtain ⟨hstart, hcontiguous⟩ := h.written_start (Nat.ne_of_gt hsome)
          have hroom := h.writer_room
          rw [hstart]
          rw [← h.length_written] at hcontiguous hle
          refine h.holds.store (by omega) hcontiguous fun k hk => ?_
          rw [h.length_written] at hk
          rw [h.written_eq.1, List.getElem?_take_of_lt hk, List.getElem?_drop]
  | reader =>
      refine ⟨h.size_pos, h.head_eq, h.tail_eq, h.writer_room, ?_, h.length_eq, h.passed_length,
        h.pending_le, h.idle_done, h.rest, h.holds, ?_⟩
      · exact Nat.le_trans (Nat.le_of_eq (congrArg (read + ·) hpending)) h.reader_room
      · change s.delivered ++ s.read = s.passed.take (read + (s.setStage .reader stage).copied .reader)
        rw [hcopied, h.delivered_eq, h.read_eq, ← Nat.add_assoc]
        exact List.take_add.symm

theorem Streams.update (h : s.Streams written read) {side : RingBufferSide}
    (hstage : (s.call side).stage = .update) :
    ((s.moveIndex side).setCall side
      { s.call side with
        stage := .unlock
        done := (s.call side).done + (s.call side).chunk }).Flowing := by
  have hpending : s.pending side = (s.call side).chunk := by
    rw [pending, hstage]
    rfl
  have hcopied : s.copied side = (s.call side).chunk := by
    rw [copied, hstage]
    rfl
  have hwriter := h.writer_room
  have hreader := h.reader_room
  cases side with
  | writer =>
      have hle := h.pending_le
      have hlength := h.passed_length
      have hholds := h.holds
      rw [hpending] at hwriter hle
      rw [hcopied] at hholds
      refine ⟨written + s.writer.chunk, read, h.size_pos, ?_, h.tail_eq, hwriter, ?_, h.length_eq, ?_, hle,
        (fun hidle => by cases hidle), ?_, hholds, h.delivered_eq⟩
      · change (s.rb.head + s.writer.chunk) % s.rb.size = _
        rw [h.head_eq, Nat.mod_add_mod]
        rfl
      · exact Nat.le_trans hreader (Nat.le_add_right _ _)
      · change s.passed.length + (s.writer.done + s.writer.chunk)
          = written + s.writer.chunk + s.data.length
        omega
      · change s.passed.drop (written + s.writer.chunk) = s.data.drop (s.writer.done + s.writer.chunk)
        rw [← List.drop_drop, h.rest, List.drop_drop]
  | reader =>
      have hdelivered := h.delivered_eq
      rw [hpending] at hreader
      rw [hcopied] at hdelivered
      refine ⟨written, read + s.reader.chunk, h.size_pos, h.head_eq, ?_, ?_, hreader, h.length_eq,
        h.passed_length, h.pending_le, h.idle_done, h.rest, ?_, hdelivered⟩
      · change (s.rb.tail + s.reader.chunk) % s.rb.size = _
        rw [h.tail_eq, Nat.mod_add_mod]
        rfl
      · change written + s.pending .writer < read + s.reader.chunk + s.rb.size
        omega
      · exact h.holds.mono (Nat.le_add_right _ _) (Nat.le_refl _)

theorem Streams.goOn (h : s.Streams written read) {side : RingBufferSide} {stage stage' : RingBufferStage}
    (hstage : (s.call side).stage = stage)
    (hpending : ∀ chunk, stage'.pending chunk = stage.pending chunk)
    (hcopied : ∀ first chunk, stage'.copied first chunk = stage.copied first chunk)
    (hidle : stage' = .idle → (s.call side).length ≤ (s.call side).done) :
    (s.setStage side stage').Streams written read := by
  refine h.setStage ?_ ?_ hidle
  · rw [s.pending_of_stage hstage, ← hpending]
    cases side <;> rfl
  · rw [s.copied_of_stage hstage, ← hcopied]
    cases side <;> rfl

/-- A stage that takes or gives back the lock moves nothing. -/
theorem Streams.lockAndGoOn (h : s.Streams written read) (locked : Bool) {side : RingBufferSide}
    {stage stage' : RingBufferStage} (hstage : (s.call side).stage = stage)
    (hpending : ∀ chunk, stage'.pending chunk = stage.pending chunk)
    (hcopied : ∀ first chunk, stage'.copied first chunk = stage.copied first chunk)
    (hidle : stage' ≠ .idle) : ((s.setLock side locked).setStage side stage').Streams written read := by
  have hlocked : ((s.setLock side locked).call side).stage = stage := by rw [call_setLock, hstage]
  exact (h.setLock side locked).goOn hlocked hpending hcopied fun heq => absurd heq hidle

theorem Streams.step (h : s.Streams written read) (side : RingBufferSide) :
    (ringBufferStep side s).Flowing := by
  rw [ringBufferStep]
  cases hstage : (s.call side).stage with
  | idle => exact ⟨written, read, h⟩
  | lock =>
      dsimp only
      split
      · exact ⟨written, read, h⟩
      · exact ⟨written, read,
          h.lockAndGoOn true hstage (fun _ => rfl) (fun _ _ => rfl) RingBufferStage.noConfusion⟩
  | check =>
      dsimp only
      split
      · exact ⟨written, read, h.goOn hstage (fun _ => rfl) (fun _ _ => rfl) fun hidle => by cases hidle⟩
      · exact ⟨written, read, h.startChunk (s.copied_of_stage hstage)⟩
  | wait =>
      exact ⟨written, read,
        h.lockAndGoOn false hstage (fun _ => rfl) (fun _ _ => rfl) RingBufferStage.noConfusion⟩
  | asleep => exact ⟨written, read, h⟩
  | relock =>
      dsimp only
      split
      · exact ⟨written, read, h⟩
      · exact ⟨written, read,
          h.lockAndGoOn true hstage (fun _ => rfl) (fun _ _ => rfl) RingBufferStage.noConfusion⟩
  | recheck =>
      dsimp only
      split
      · exact ⟨written, read, h.goOn hstage (fun _ => rfl) (fun _ _ => rfl) fun hidle => by cases hidle⟩
      · exact ⟨written, read, h.startChunk (s.copied_of_stage hstage)⟩
  | retry =>
      exact ⟨written, read,
        h.lockAndGoOn false hstage (fun _ => rfl) (fun _ _ => rfl) RingBufferStage.noConfusion⟩
  | copyFirst =>
      refine ⟨written, read, h.copy ?_ ?_ (by decide)⟩
      · rw [s.pending_of_stage hstage]
        cases side <;> rfl
      · rw [s.copied_of_stage hstage, copying, hstage]
        cases side <;> exact (Nat.zero_add _).symm
  | copySecond =>
      refine ⟨written, read, h.copy ?_ ?_ (by decide)⟩
      · rw [s.pending_of_stage hstage]
        cases side <;> rfl
      · rw [s.copied_of_stage hstage, copying, hstage]
        have hfirst := s.first_le side
        cases side <;> exact (Nat.add_sub_of_le hfirst).symm
  | update => exact h.update hstage
  | unlock =>
      exact ⟨written, read,
        h.lockAndGoOn false hstage (fun _ => rfl) (fun _ _ => rfl) RingBufferStage.noConfusion⟩
  | signal =>
      have hcall := s.call_wake_other side
      refine ⟨written, read, (h.wake side.other).goOn ((congrArg RingBufferCall.stage hcall).trans hstage)
        (fun _ => ?_) (fun _ _ => ?_) fun hidle => ?_⟩
      · split <;> rfl
      · split <;> rfl
      · rw [hcall]
        by_contra hmore
        rw [if_pos (Nat.not_le.mp hmore)] at hidle
        cases hidle

/-- **Whatever happens next, so many bytes are written and so many read.** -/
theorem Streams.run (h : s.Streams written read) (action : RingBufferAction) :
    (ringBufferRun s action).Flowing := by
  cases action with
  | write data =>
      rw [ringBufferRun]
      split
      · rename_i hidle
        have hdone := h.idle_done hidle.1
        have hpassed : s.passed.length = written := by
          have hlength := h.passed_length
          omega
        have hstage : (s.call .writer).stage = .idle := hidle.1
        have hcopied : s.copied .writer = 0 := s.copied_of_stage hstage
        have hpending : s.pending .writer = 0 := s.pending_of_stage hstage
        have hroom := h.writer_room
        have hread := h.reader_room
        have hcopiedReader := s.copied_add_copying_le .reader
        have hholds := h.holds
        rw [hcopied] at hholds
        rw [hpending] at hroom
        refine ⟨written, read, h.size_pos, h.head_eq, h.tail_eq, hroom, hread, rfl, ?_,
          Nat.zero_le _, (fun hstage => by cases hstage), ?_, hholds.append data, ?_⟩
        · change (s.passed ++ data).length + 0 = written + data.length
          rw [List.length_append, hpassed]
          rfl
        · change (s.passed ++ data).drop written = data
          rw [← hpassed, List.drop_left]
        · change s.delivered = (s.passed ++ data).take (read + s.copied .reader)
          rw [h.delivered_eq, List.take_append_of_le_length (by omega)]
      · exact ⟨written, read, h⟩
  | read length =>
      rw [ringBufferRun]
      split
      · rename_i hidle
        have hstage : (s.call .reader).stage = .idle := hidle.1
        have hcopied : s.copied .reader = 0 := s.copied_of_stage hstage
        have hpending : s.pending .reader = 0 := s.pending_of_stage hstage
        have hread := h.reader_room
        have hdelivered := h.delivered_eq
        rw [hpending] at hread
        rw [hcopied] at hdelivered
        exact ⟨written, read, h.size_pos, h.head_eq, h.tail_eq, h.writer_room, hread, h.length_eq,
          h.passed_length, h.pending_le, h.idle_done, h.rest, h.holds, hdelivered⟩
      · exact ⟨written, read, h⟩
  | step side =>
      cases side with
      | writer => exact h.step .writer
      | reader => exact h.step .reader
  | wakeUp side => exact ⟨written, read, h.wake side⟩

theorem init_streams (buffer : BitMemory.Memory) {size : Nat} (hsize : 0 < size) :
    (init buffer size).Streams 0 0 :=
  ⟨hsize, (Nat.zero_mod _).symm, (Nat.zero_mod _).symm, Nat.lt_of_lt_of_le hsize (Nat.le_add_left _ _),
    Nat.le_refl _, rfl, rfl, Nat.le_refl _, fun _ => rfl, rfl, Ring.holds_self _ _ _ _, rfl⟩

end RingBufferSystem

/-- **A ring buffer of at least two bytes is a bounded queue, in whatever order both sides take their
steps.** -/
theorem ringBuffer_fifo {size : Nat} (hsize : 2 ≤ size) (buffer : BitMemory.Memory)
    (actions : List RingBufferAction) :
    Runs.Throughout ringBufferRun RingBufferSystem.Fifo (.init buffer size) actions := by
  have hinit : (RingBufferSystem.init buffer size).Flowing :=
    ⟨0, 0, RingBufferSystem.init_streams buffer (Nat.lt_of_lt_of_le Nat.zero_lt_two hsize)⟩
  have hstep : ∀ s action, s.Flowing → True → (ringBufferRun s action).Flowing := by
    rintro s action ⟨written, read, hstreams⟩ -
    exact hstreams.run action
  refine Runs.Throughout.of_invariant (fun s h => ?_) hstep hinit (Runs.always_of_forall (fun _ _ _ => trivial) _)
  obtain ⟨written, read, hstreams⟩ := h
  exact hstreams.fifo

/-- Three bytes go through a ring of two, while the reader asks for four. -/
theorem ringBuffer_fifo_two :
    Runs.Throughout ringBufferRun RingBufferSystem.Fifo (.init BitMemory.zeros 2)
      (.read 4 :: .write [1, 2, 3] :: List.replicate 8 (.step .writer) ++ List.replicate 8 (.step .reader)) :=
  ringBuffer_fifo (by decide) _ _

end Uesim
