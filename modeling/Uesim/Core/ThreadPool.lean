import Uesim.Types
import Uesim.Library.Counting
import Mathlib.Logic.Function.Basic

/-!
# The thread pool

The threads of the pool, the callers of `thread_pool_submit` and those of `thread_pool_wait` share a queue,
two counters and two condition variables. One step is a critical section up to the unlock or the sleep, the
execution of a task, or a wake-up. Nothing is said about the order in which the threads take their steps.
-/

namespace Uesim

open Bytes

/-- `thread_pool_t` before shutdown. A task goes by the number of its submission. -/
structure ThreadPool where
  threadCount : Word
  taskQueue : List Nat
  taskCount : Word
  activeTasks : Word

def threadPoolCreate (threadCount : Word) : Except UesimError ThreadPool :=
  if threadCount = 0 then .error .invalidParam
  else .ok { threadCount, taskQueue := [], taskCount := 0, activeTasks := 0 }

/-- Where a thread stands in `thread_pool_worker`. -/
inductive WorkerStage where
  /-- before it takes the mutex at the head of the loop -/
  | ready
  | asleep
  /-- woken, but without the mutex yet -/
  | woken
  /-- a task taken from the queue, its function not called yet -/
  | holding (task : Nat)
  /-- the function has returned, `active_tasks` still counts the task -/
  | executed
  deriving DecidableEq, Repr

def WorkerStage.running : WorkerStage → Bool
  | .holding _ | .executed => true
  | .ready | .asleep | .woken => false

/-- Where a caller stands in `thread_pool_wait`, with the number of tasks submitted before the call. -/
inductive WaiterStage where
  | idle
  | called (before : Nat)
  | asleep (before : Nat)
  | woken (before : Nat)
  | returned (before : Nat)
  deriving DecidableEq, Repr

def WaiterStage.before : WaiterStage → Nat
  | .idle => 0
  | .called before | .asleep before | .woken before | .returned before => before

def WaiterStage.wake : WaiterStage → WaiterStage
  | .asleep before => .woken before
  | stage => stage

namespace ThreadPool

/-- The critical section of `thread_pool_submit`, less the signal. -/
def submit (pool : ThreadPool) (task : Nat) : ThreadPool :=
  { pool with taskQueue := pool.taskQueue ++ [task], taskCount := pool.taskCount + 1 }

/-- The first critical section of `thread_pool_worker`, where the queue is not empty. -/
def take (pool : ThreadPool) (rest : List Nat) : ThreadPool :=
  { pool with
    taskQueue := rest, taskCount := pool.taskCount - 1, activeTasks := pool.activeTasks + 1 }

/-- The second critical section of `thread_pool_worker`, less the broadcast. -/
def complete (pool : ThreadPool) : ThreadPool :=
  { pool with activeTasks := pool.activeTasks - 1 }

/-- The condition under which the caller of `thread_pool_wait` sleeps. -/
def Unfinished (pool : ThreadPool) : Prop :=
  0 < pool.activeTasks ∨ pool.taskQueue ≠ []

instance (pool : ThreadPool) : Decidable pool.Unfinished :=
  inferInstanceAs (Decidable (_ ∨ _))

end ThreadPool

/-- The pool, its threads and its callers, and what has been submitted, dequeued and executed so far. -/
structure ThreadPoolSystem (threads : Nat) where
  pool : ThreadPool
  worker : Fin threads → WorkerStage
  waiter : Nat → WaiterStage
  submitted : Nat
  dequeued : List Nat
  executed : List Nat

def ThreadPoolSystem.started (pool : ThreadPool) : ThreadPoolSystem pool.threadCount.toNat where
  pool := pool
  worker := fun _ => .ready
  waiter := fun _ => .idle
  submitted := 0
  dequeued := []
  executed := []

inductive ThreadPoolAction (threads : Nat) where
  /-- `thread_pool_submit`; its signal wakes the given threads of those that sleep -/
  | submit (signalled : Fin threads → Bool)
  | takeTask (w : Fin threads)
  | execute (w : Fin threads)
  | complete (w : Fin threads)
  | wakeWorker (w : Fin threads)
  | callWait (i : Nat)
  | checkWait (i : Nat)
  | wakeWaiter (i : Nat)

namespace ThreadPoolSystem

variable {threads : Nat}

/-- A signal wakes at least one thread if one sleeps. -/
def SignalWakes (worker : Fin threads → WorkerStage) (signalled : Fin threads → Bool) : Prop :=
  (∃ w, worker w = .asleep) → ∃ w, signalled w = true ∧ worker w = .asleep

instance (worker : Fin threads → WorkerStage) (signalled : Fin threads → Bool) :
    Decidable (SignalWakes worker signalled) :=
  inferInstanceAs (Decidable (_ → _))

def signal (worker : Fin threads → WorkerStage) (signalled : Fin threads → Bool) (w : Fin threads) :
    WorkerStage :=
  if signalled w = true ∧ worker w = .asleep then .woken else worker w

def submit (system : ThreadPoolSystem threads) (signalled : Fin threads → Bool) :
    ThreadPoolSystem threads :=
  if SignalWakes system.worker signalled then
    { system with
      pool := system.pool.submit system.submitted
      worker := signal system.worker signalled
      submitted := system.submitted + 1 }
  else system

def takeTask (system : ThreadPoolSystem threads) (w : Fin threads) : ThreadPoolSystem threads :=
  if system.worker w = .ready ∨ system.worker w = .woken then
    match system.pool.taskQueue with
    | [] => { system with worker := Function.update system.worker w .asleep }
    | task :: rest =>
        { system with
          pool := system.pool.take rest
          worker := Function.update system.worker w (.holding task)
          dequeued := system.dequeued ++ [task] }
  else system

def execute (system : ThreadPoolSystem threads) (w : Fin threads) : ThreadPoolSystem threads :=
  match system.worker w with
  | .holding task =>
      { system with
        worker := Function.update system.worker w .executed
        executed := system.executed ++ [task] }
  | _ => system

def complete (system : ThreadPoolSystem threads) (w : Fin threads) : ThreadPoolSystem threads :=
  if system.worker w = .executed then
    let pool := system.pool.complete
    { system with
      pool := pool
      worker := Function.update system.worker w .ready
      waiter := fun i =>
        if pool.activeTasks = 0 ∧ pool.taskQueue = [] then (system.waiter i).wake else system.waiter i }
  else system

/-- `pthread_cond_wait` may also return without a signal. -/
def wakeWorker (system : ThreadPoolSystem threads) (w : Fin threads) : ThreadPoolSystem threads :=
  if system.worker w = .asleep then
    { system with worker := Function.update system.worker w .woken }
  else system

def callWait (system : ThreadPoolSystem threads) (i : Nat) : ThreadPoolSystem threads :=
  match system.waiter i with
  | .idle | .returned _ =>
      { system with waiter := Function.update system.waiter i (.called system.submitted) }
  | _ => system

def checkWait (system : ThreadPoolSystem threads) (i : Nat) : ThreadPoolSystem threads :=
  match system.waiter i with
  | .called before | .woken before =>
      { system with
        waiter := Function.update system.waiter i
          (if system.pool.Unfinished then .asleep before else .returned before) }
  | _ => system

def wakeWaiter (system : ThreadPoolSystem threads) (i : Nat) : ThreadPoolSystem threads :=
  { system with waiter := Function.update system.waiter i (system.waiter i).wake }

end ThreadPoolSystem

/-- One step; a step that cannot be taken leaves everything as it is. -/
def threadPoolStep {threads : Nat} (system : ThreadPoolSystem threads) :
    ThreadPoolAction threads → ThreadPoolSystem threads
  | .submit signalled => system.submit signalled
  | .takeTask w => system.takeTask w
  | .execute w => system.execute w
  | .complete w => system.complete w
  | .wakeWorker w => system.wakeWorker w
  | .callWait i => system.callWait i
  | .checkWait i => system.checkWait i
  | .wakeWaiter i => system.wakeWaiter i

def threadPoolRun (pool : ThreadPool) (actions : List (ThreadPoolAction pool.threadCount.toNat)) :
    ThreadPoolSystem pool.threadCount.toNat :=
  actions.foldl threadPoolStep (.started pool)

end Uesim
