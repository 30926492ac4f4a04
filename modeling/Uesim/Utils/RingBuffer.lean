import Uesim.Library.BitMemory
import Uesim.Library.Ring
import Uesim.Library.Runs

/-!
# The ring buffer

One writer and one reader share a ring of bytes, an index each, a lock each and two condition variables. What
either side does next is one step: taking its lock, looking at the indices, falling asleep, one of its two
copies, moving its index, giving the lock back, and waking the other side. Sizes are those of objects in
memory, so the sum of two of them does not wrap.
-/

namespace Uesim

open Bytes BitMemory

structure RingBuffer where
  buffer : Memory
  size : Nat
  head : Nat
  tail : Nat
  headLock : Bool
  tailLock : Bool

/-- `buffer` is what the allocator returns. -/
def ringBufferInit (buffer : Memory) (size : Nat) : RingBuffer :=
  { buffer, size, head := 0, tail := 0, headLock := false, tailLock := false }

def ringBufferAvailable (rb : RingBuffer) : Nat :=
  if rb.head ≥ rb.tail then rb.size - (rb.head - rb.tail) - 1 else rb.tail - rb.head - 1

def ringBufferUsed (rb : RingBuffer) : Nat :=
  if rb.head ≥ rb.tail then rb.head - rb.tail else rb.size - rb.tail + rb.head

inductive RingBufferSide where
  | writer
  | reader
  deriving DecidableEq

def RingBufferSide.other : RingBufferSide → RingBufferSide
  | .writer => .reader
  | .reader => .writer

inductive RingBufferStage where
  | idle
  | lock
  | check
  | wait
  | asleep
  | relock
  | recheck
  | retry
  | copyFirst
  | copySecond
  | update
  | unlock
  | signal
  deriving DecidableEq

/-- The local variables of a call of either side: `done` is what is written or read, and `chunk` the size of
what is written or read next. -/
structure RingBufferCall where
  stage : RingBufferStage
  length : Nat
  done : Nat
  chunk : Nat

/-- `data` is what the writer was called with. Besides, all that the writer was ever called with and all that
was ever copied for the reader. -/
structure RingBufferSystem where
  rb : RingBuffer
  writer : RingBufferCall
  reader : RingBufferCall
  data : List Byte
  passed : List Byte
  delivered : List Byte

namespace RingBufferSystem

def init (buffer : Memory) (size : Nat) : RingBufferSystem :=
  { rb := ringBufferInit buffer size
    writer := { stage := .idle, length := 0, done := 0, chunk := 0 }
    reader := { stage := .idle, length := 0, done := 0, chunk := 0 }
    data := []
    passed := []
    delivered := [] }

def call (s : RingBufferSystem) : RingBufferSide → RingBufferCall
  | .writer => s.writer
  | .reader => s.reader

def setCall (s : RingBufferSystem) (side : RingBufferSide) (call : RingBufferCall) : RingBufferSystem :=
  match side with
  | .writer => { s with writer := call }
  | .reader => { s with reader := call }

def setStage (s : RingBufferSystem) (side : RingBufferSide) (stage : RingBufferStage) : RingBufferSystem :=
  s.setCall side { s.call side with stage }

/-- The head lock is the writer's and the tail lock the reader's. -/
def locked (s : RingBufferSystem) : RingBufferSide → Bool
  | .writer => s.rb.headLock
  | .reader => s.rb.tailLock

def setLock (s : RingBufferSystem) (side : RingBufferSide) (locked : Bool) : RingBufferSystem :=
  match side with
  | .writer => { s with rb := { s.rb with headLock := locked } }
  | .reader => { s with rb := { s.rb with tailLock := locked } }

def room (s : RingBufferSystem) : RingBufferSide → Nat
  | .writer => ringBufferAvailable s.rb
  | .reader => ringBufferUsed s.rb

def index (s : RingBufferSystem) : RingBufferSide → Nat
  | .writer => s.rb.head
  | .reader => s.rb.tail

/-- A chunk is copied up to the end of the buffer first, and the rest from its begin. -/
def first (s : RingBufferSystem) (side : RingBufferSide) : Nat :=
  min (s.call side).chunk (s.rb.size - s.index side)

/-- What the writer copies next, and where to. -/
def written (s : RingBufferSystem) : Nat × List Byte :=
  match s.writer.stage with
  | .copyFirst => (s.rb.head, (s.data.drop s.writer.done).take (s.first .writer))
  | .copySecond =>
      (0, (s.data.drop (s.writer.done + s.first .writer)).take (s.writer.chunk - s.first .writer))
  | _ => (0, [])

def read (s : RingBufferSystem) : List Byte :=
  match s.reader.stage with
  | .copyFirst => Ring.load s.rb.buffer s.rb.tail (s.first .reader)
  | .copySecond => Ring.load s.rb.buffer 0 (s.reader.chunk - s.first .reader)
  | _ => []

def copy (s : RingBufferSystem) : RingBufferSide → RingBufferSystem
  | .writer => { s with rb := { s.rb with buffer := Ring.store s.rb.buffer s.written.1 s.written.2 } }
  | .reader => { s with delivered := s.delivered ++ s.read }

def startChunk (s : RingBufferSystem) (side : RingBufferSide) : RingBufferSystem :=
  s.setCall side
    { s.call side with
      stage := .copyFirst
      chunk := min ((s.call side).length - (s.call side).done) (s.room side) }

def moveIndex (s : RingBufferSystem) (side : RingBufferSide) : RingBufferSystem :=
  match side with
  | .writer => { s with rb := { s.rb with head := (s.rb.head + s.writer.chunk) % s.rb.size } }
  | .reader => { s with rb := { s.rb with tail := (s.rb.tail + s.reader.chunk) % s.rb.size } }

def wake (s : RingBufferSystem) (side : RingBufferSide) : RingBufferSystem :=
  if (s.call side).stage = .asleep then s.setStage side .relock else s

end RingBufferSystem

/-- The next step of either side. The two functions are the same up to the index that is moved, the lock, and
the direction of the copies. -/
def ringBufferStep (side : RingBufferSide) (s : RingBufferSystem) : RingBufferSystem :=
  match (s.call side).stage with
  | .idle => s
  | .lock => if s.locked side then s else (s.setLock side true).setStage side .check
  | .check => if s.room side = 0 then s.setStage side .wait else s.startChunk side
  | .wait => (s.setLock side false).setStage side .asleep
  | .asleep => s
  | .relock => if s.locked side then s else (s.setLock side true).setStage side .recheck
  | .recheck => if s.room side = 0 then s.setStage side .retry else s.startChunk side
  | .retry => (s.setLock side false).setStage side .lock
  | .copyFirst => (s.copy side).setStage side .copySecond
  | .copySecond => (s.copy side).setStage side .update
  | .update =>
      (s.moveIndex side).setCall side
        { s.call side with stage := .unlock, done := (s.call side).done + (s.call side).chunk }
  | .unlock => (s.setLock side false).setStage side .signal
  | .signal =>
      (s.wake side.other).setStage side
        (if (s.call side).done < (s.call side).length then .lock else .idle)

def ringBufferWrite : RingBufferSystem → RingBufferSystem := ringBufferStep .writer

def ringBufferRead : RingBufferSystem → RingBufferSystem := ringBufferStep .reader

/-- A side that is idle is called; a side that is in a call goes on; or a side that is asleep wakes up by
itself. -/
inductive RingBufferAction where
  | write (data : List Byte)
  | read (length : Nat)
  | step (side : RingBufferSide)
  | wakeUp (side : RingBufferSide)

/-- A call with nothing to write or read is refused. -/
def RingBufferSystem.start (s : RingBufferSystem) (side : RingBufferSide) (length : Nat) : RingBufferSystem :=
  s.setCall side { stage := .lock, length, done := 0, chunk := 0 }

def ringBufferRun (s : RingBufferSystem) : RingBufferAction → RingBufferSystem
  | .write data =>
      if s.writer.stage = .idle ∧ data.length ≠ 0 then
        { s.start .writer data.length with data, passed := s.passed ++ data }
      else s
  | .read length => if s.reader.stage = .idle ∧ length ≠ 0 then s.start .reader length else s
  | .step .writer => ringBufferWrite s
  | .step .reader => ringBufferRead s
  | .wakeUp side => s.wake side

end Uesim
