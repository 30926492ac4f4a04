import Uesim.Core.ThreadPool

/-!
# Tasks and sleepers of the thread pool

In every run of the pool the tasks leave the queue in the order of their submission, no task is executed
twice, and `active_tasks` is the number of running workers. A call of `thread_pool_wait` returns when all
tasks that were submitted before it are done, and nobody sleeps through what it waits for.
-/

namespace Uesim

open Bytes

/-- What holds between two steps. The queue is counted in 32 bits. -/
structure ThreadPoolSystem.Consistent {threads : Nat} (system : ThreadPoolSystem threads) : Prop where
  dequeued_in_order : system.dequeued ++ system.pool.taskQueue = List.range system.submitted
  executed_once : system.executed.Nodup
  executed_dequeued : ∀ task ∈ system.executed, task ∈ system.dequeued
  taskCount_eq : system.pool.taskCount = BitVec.ofNat 32 system.pool.taskQueue.length
  activeTasks_eq : system.pool.activeTasks.toNat = Counting.count WorkerStage.running system.worker
  wait_returned : ∀ i before, system.waiter i = .returned before → ∀ task < before, task ∈ system.executed
  waiter_asleep : ∀ i before, system.waiter i = .asleep before →
    system.pool.taskQueue ≠ [] ∨ ∃ w, (system.worker w).running = true
  worker_awake : system.pool.taskQueue ≠ [] → ∃ w, system.worker w ≠ .asleep

namespace ThreadPoolSystem

variable {threads : Nat}

/-- Every dequeued task is executed or held by one worker. -/
structure TasksAccounted (worker : Fin threads → WorkerStage) (dequeued executed : List Nat) : Prop where
  nodup : executed.Nodup
  executed_dequeued : ∀ task ∈ executed, task ∈ dequeued
  held : ∀ w task, worker w = .holding task → task ∈ dequeued ∧ task ∉ executed
  held_once : ∀ w v task, worker w = .holding task → worker v = .holding task → w = v
  accounted : ∀ task ∈ dequeued, task ∈ executed ∨ ∃ w, worker w = .holding task

/-- A caller sleeps only while something is queued or running, and has what it waited for when it returns. -/
structure WaitersServed (waiter : Nat → WaiterStage) (pool : ThreadPool) (submitted : Nat)
    (executed : List Nat) : Prop where
  before_le : ∀ i, (waiter i).before ≤ submitted
  returned : ∀ i before, waiter i = .returned before → ∀ task < before, task ∈ executed
  asleep : ∀ i before, waiter i = .asleep before → pool.Unfinished

structure Invariant (system : ThreadPoolSystem threads) : Prop where
  order : system.dequeued ++ system.pool.taskQueue = List.range system.submitted
  taskCount : system.pool.taskCount = BitVec.ofNat 32 system.pool.taskQueue.length
  tasks : TasksAccounted system.worker system.dequeued system.executed
  active : system.pool.activeTasks.toNat = Counting.count WorkerStage.running system.worker
  waiters : WaitersServed system.waiter system.pool system.submitted system.executed
  awake : system.pool.taskQueue ≠ [] → ∃ w, system.worker w ≠ .asleep

variable {worker : Fin threads → WorkerStage} {signalled : Fin threads → Bool} {w : Fin threads}
  {stage : WorkerStage} {waiter : Nat → WaiterStage} {pool : ThreadPool} {system : ThreadPoolSystem threads}
  {dequeued executed : List Nat} {submitted : Nat}

theorem signal_running (v : Fin threads) : (signal worker signalled v).running = (worker v).running := by
  unfold signal
  split
  · rename_i h
    rw [h.2]
    rfl
  · rfl

theorem signal_eq_holding_iff (v : Fin threads) (task : Nat) :
    signal worker signalled v = .holding task ↔ worker v = .holding task := by
  unfold signal
  split
  · rename_i h
    rw [h.2]
    exact iff_of_false WorkerStage.noConfusion WorkerStage.noConfusion
  · exact Iff.rfl

theorem update_eq_holding_iff (hold : ∀ task, worker w ≠ .holding task)
    (hstage : ∀ task, stage ≠ .holding task) (v : Fin threads) (task : Nat) :
    Function.update worker w stage v = .holding task ↔ worker v = .holding task := by
  by_cases heq : v = w
  · rw [heq, Function.update_self]
    exact iff_of_false (hstage task) (hold task)
  · rw [Function.update_of_ne heq]

theorem update_running (h : stage.running = (worker w).running) (v : Fin threads) :
    (Function.update worker w stage v).running = (worker v).running := by
  by_cases heq : v = w
  · rw [heq, Function.update_self, h]
  · rw [Function.update_of_ne heq]

theorem update_ne_asleep (hstage : stage ≠ .asleep) : ∃ v, Function.update worker w stage v ≠ .asleep :=
  ⟨w, by rwa [Function.update_self]⟩

namespace TasksAccounted

variable {worker' : Fin threads → WorkerStage}

/-- Who sleeps and who is between two tasks does not matter here. -/
theorem of_holding (h : TasksAccounted worker dequeued executed)
    (hsame : ∀ v task, worker' v = .holding task ↔ worker v = .holding task) :
    TasksAccounted worker' dequeued executed where
  nodup := h.nodup
  executed_dequeued := h.executed_dequeued
  held v task hv := h.held v task ((hsame v task).mp hv)
  held_once v u task hv hu := h.held_once v u task ((hsame v task).mp hv) ((hsame u task).mp hu)
  accounted task htask := by
    rcases h.accounted task htask with hdone | ⟨v, hv⟩
    · exact .inl hdone
    · exact .inr ⟨v, (hsame v task).mpr hv⟩

/-- The worker that takes a task was between two tasks. -/
theorem take (h : TasksAccounted worker dequeued executed) (hw : ∀ task, worker w ≠ .holding task)
    {task : Nat} (hfresh : task ∉ dequeued) :
    TasksAccounted (Function.update worker w (.holding task)) (dequeued ++ [task]) executed where
  nodup := h.nodup
  executed_dequeued other hother := List.mem_append_left _ (h.executed_dequeued other hother)
  held v other hv := by
    by_cases heq : v = w
    · rw [heq, Function.update_self] at hv
      cases hv
      exact ⟨List.mem_append_right _ (List.mem_singleton.mpr rfl),
        fun hdone => hfresh (h.executed_dequeued task hdone)⟩
    · rw [Function.update_of_ne heq] at hv
      have hheld := h.held v other hv
      exact ⟨List.mem_append_left _ hheld.1, hheld.2⟩
  held_once v u other hv hu := by
    by_cases hvw : v = w <;> by_cases huw : u = w
    · rw [hvw, huw]
    · rw [hvw, Function.update_self] at hv
      rw [Function.update_of_ne huw] at hu
      cases hv
      exact absurd (h.held u task hu).1 hfresh
    · rw [huw, Function.update_self] at hu
      rw [Function.update_of_ne hvw] at hv
      cases hu
      exact absurd (h.held v task hv).1 hfresh
    · rw [Function.update_of_ne hvw] at hv
      rw [Function.update_of_ne huw] at hu
      exact h.held_once v u other hv hu
  accounted other hother := by
    rcases List.mem_append.mp hother with hold | hnew
    · rcases h.accounted other hold with hdone | ⟨v, hv⟩
      · exact .inl hdone
      · have hne : v ≠ w := fun heq => hw other (by rw [← heq, hv])
        exact .inr ⟨v, by rw [Function.update_of_ne hne, hv]⟩
    · rw [List.mem_singleton.mp hnew]
      exact .inr ⟨w, Function.update_self ..⟩

theorem execute (h : TasksAccounted worker dequeued executed) {task : Nat} (hw : worker w = .holding task) :
    TasksAccounted (Function.update worker w .executed) dequeued (executed ++ [task]) where
  nodup := by
    rw [List.nodup_append']
    refine ⟨h.nodup, List.nodup_singleton task, ?_⟩
    rw [List.disjoint_singleton]
    exact (h.held w task hw).2
  executed_dequeued other hother := by
    rcases List.mem_append.mp hother with hold | hnew
    · exact h.executed_dequeued other hold
    · rw [List.mem_singleton.mp hnew]
      exact (h.held w task hw).1
  held v other hv := by
    by_cases heq : v = w
    · rw [heq, Function.update_self] at hv
      cases hv
    · rw [Function.update_of_ne heq] at hv
      refine ⟨(h.held v other hv).1, fun hmem => ?_⟩
      rcases List.mem_append.mp hmem with hold | hnew
      · exact (h.held v other hv).2 hold
      · rw [List.mem_singleton.mp hnew] at hv
        exact heq (h.held_once v w task hv hw)
  held_once v u other hv hu := by
    by_cases hvw : v = w
    · rw [hvw, Function.update_self] at hv
      cases hv
    · by_cases huw : u = w
      · rw [huw, Function.update_self] at hu
        cases hu
      · rw [Function.update_of_ne hvw] at hv
        rw [Function.update_of_ne huw] at hu
        exact h.held_once v u other hv hu
  accounted other hother := by
    rcases h.accounted other hother with hdone | ⟨v, hv⟩
    · exact .inl (List.mem_append_left _ hdone)
    · by_cases heq : v = w
      · rw [heq, hw] at hv
        cases hv
        exact .inl (List.mem_append_right _ (List.mem_singleton.mpr rfl))
      · exact .inr ⟨v, by rw [Function.update_of_ne heq, hv]⟩

end TasksAccounted

namespace WaitersServed

variable {pool' : ThreadPool} {submitted' : Nat} {executed' : List Nat} {i : Nat} {next : WaiterStage}

theorem mono (h : WaitersServed waiter pool submitted executed) (hsubmitted : submitted ≤ submitted')
    (hexecuted : ∀ task ∈ executed, task ∈ executed') (hpool : pool.Unfinished → pool'.Unfinished) :
    WaitersServed waiter pool' submitted' executed' where
  before_le i := Nat.le_trans (h.before_le i) hsubmitted
  returned i before hi task htask := hexecuted task (h.returned i before hi task htask)
  asleep i before hi := hpool (h.asleep i before hi)

theorem set (h : WaitersServed waiter pool submitted executed) (hbefore : next.before ≤ submitted)
    (hreturned : ∀ before, next = .returned before → ∀ task < before, task ∈ executed)
    (hasleep : ∀ before, next = .asleep before → pool.Unfinished) :
    WaitersServed (Function.update waiter i next) pool submitted executed where
  before_le j := by
    by_cases heq : j = i
    · rwa [heq, Function.update_self]
    · rw [Function.update_of_ne heq]
      exact h.before_le j
  returned j before hj := by
    by_cases heq : j = i
    · rw [heq, Function.update_self] at hj
      exact hreturned before hj
    · rw [Function.update_of_ne heq] at hj
      exact h.returned j before hj
  asleep j before hj := by
    by_cases heq : j = i
    · rw [heq, Function.update_self] at hj
      exact hasleep before hj
    · rw [Function.update_of_ne heq] at hj
      exact h.asleep j before hj

theorem wake_before (next : WaiterStage) : next.wake.before = next.before := by
  cases next <;> rfl

theorem eq_returned_of_wake {before : Nat} (h : next.wake = .returned before) : next = .returned before := by
  cases next with
  | asleep => cases h
  | idle | called | woken | returned => exact h

theorem wake_ne_asleep (next : WaiterStage) (before : Nat) : next.wake ≠ .asleep before := by
  cases next <;> exact WaiterStage.noConfusion

/-- The broadcast leaves nobody asleep, whatever becomes of the pool. -/
theorem wakeAll (h : WaitersServed waiter pool submitted executed) :
    WaitersServed (fun i => (waiter i).wake) pool' submitted executed where
  before_le i := by
    rw [wake_before]
    exact h.before_le i
  returned i before hi := h.returned i before (eq_returned_of_wake hi)
  asleep i before hi := absurd hi (wake_ne_asleep _ before)

end WaitersServed

namespace Invariant

theorem submit (h : system.Invariant) (hpos : 0 < threads) (signalled : Fin threads → Bool) :
    (system.submit signalled).Invariant := by
  unfold ThreadPoolSystem.submit
  split
  · rename_i hwakes
    exact {
      order := by
        change system.dequeued ++ (system.pool.taskQueue ++ [system.submitted]) = _
        rw [← List.append_assoc, h.order, List.range_succ]
      taskCount := by
        change system.pool.taskCount + 1 = BitVec.ofNat 32 (system.pool.taskQueue ++ [_]).length
        rw [h.taskCount, List.length_append, BitVec.ofNat_add]
        rfl
      tasks := h.tasks.of_holding signal_eq_holding_iff
      active := h.active.trans (Counting.count_congr signal_running).symm
      waiters := h.waiters.mono (Nat.le_succ _) (fun _ => id)
        fun _ => .inr (List.append_ne_nil_of_right_ne_nil _ (List.cons_ne_nil _ _))
      awake := fun _ => by
        -- If all workers sleep, the signal has woken one of them.
        by_cases hasleep : ∃ v, system.worker v = .asleep
        · obtain ⟨v, hv⟩ := hwakes hasleep
          refine ⟨v, ?_⟩
          change ThreadPoolSystem.signal system.worker signalled v ≠ .asleep
          rw [ThreadPoolSystem.signal, if_pos hv]
          exact WorkerStage.noConfusion
        · refine ⟨⟨0, hpos⟩, ?_⟩
          change ThreadPoolSystem.signal system.worker signalled _ ≠ .asleep
          rw [ThreadPoolSystem.signal, if_neg fun hv => hasleep ⟨_, hv.2⟩]
          exact fun hv => hasleep ⟨_, hv⟩ }
  · exact h

/-- The counter of the running tasks has room for a worker that is not running. -/
theorem toNat_activeTasks_add_one (h : system.Invariant) (hlt : threads < 2 ^ 32) {w : Fin threads}
    (hidle : (system.worker w).running = false) :
    (system.pool.activeTasks + 1).toNat = system.pool.activeTasks.toNat + 1 := by
  have hroom : Counting.count WorkerStage.running system.worker < threads := by
    have hcard := Counting.count_lt_card hidle
    rwa [Fintype.card_fin] at hcard
  rw [BitVec.toNat_add, h.active]
  exact Nat.mod_eq_of_lt (Nat.lt_of_le_of_lt hroom hlt)

theorem head_notMem_dequeued (h : system.Invariant) {task : Nat} {rest : List Nat}
    (hqueue : system.pool.taskQueue = task :: rest) : task ∉ system.dequeued := by
  have hnodup : (system.dequeued ++ task :: rest).Nodup := by
    rw [← hqueue, h.order]
    exact List.nodup_range
  exact fun hmem => (List.nodup_append'.mp hnodup).2.2 hmem List.mem_cons_self

theorem takeTask (h : system.Invariant) (hlt : threads < 2 ^ 32) (w : Fin threads) :
    (system.takeTask w).Invariant := by
  unfold ThreadPoolSystem.takeTask
  split
  · rename_i hstage
    have hold : ∀ task, system.worker w ≠ .holding task := by
      intro task heq
      rw [heq] at hstage
      rcases hstage with hready | hwoken
      · cases hready
      · cases hwoken
    have hidle : (system.worker w).running = false := by
      rcases hstage with hready | hwoken
      · rw [hready]; rfl
      · rw [hwoken]; rfl
    have hasleep : WorkerStage.asleep.running = (system.worker w).running := hidle.symm
    split
    · rename_i hqueue
      exact {
        order := h.order
        taskCount := h.taskCount
        tasks := h.tasks.of_holding (update_eq_holding_iff hold fun _ => WorkerStage.noConfusion)
        active := h.active.trans (Counting.count_congr (update_running hasleep)).symm
        waiters := h.waiters
        awake := fun hne => absurd hqueue hne }
    · rename_i task rest hqueue
      have horder := h.order
      rw [hqueue] at horder
      have hactive := h.toNat_activeTasks_add_one hlt hidle
      exact {
        order := by
          change system.dequeued ++ [task] ++ rest = _
          rw [List.append_assoc]
          exact horder
        taskCount := by
          change system.pool.taskCount - 1 = BitVec.ofNat 32 rest.length
          rw [h.taskCount, hqueue, List.length_cons, BitVec.ofNat_add]
          exact BitVec.add_sub_cancel _ _
        tasks := h.tasks.take hold (h.head_notMem_dequeued hqueue)
        active := by
          change (system.pool.activeTasks + 1).toNat = _
          have hcount := Counting.count_update_add WorkerStage.running system.worker w (.holding task)
          rw [hidle] at hcount
          rw [hactive, h.active]
          exact hcount.symm
        waiters := h.waiters.mono (Nat.le_refl _) (fun _ => id) fun _ => .inl <| by
          change (0 : Word).toNat < (system.pool.activeTasks + 1).toNat
          rw [hactive]
          exact Nat.succ_pos _
        awake := fun _ => update_ne_asleep WorkerStage.noConfusion }
  · exact h

theorem execute (h : system.Invariant) (w : Fin threads) : (system.execute w).Invariant := by
  unfold ThreadPoolSystem.execute
  split
  · rename_i task hw
    have hrunning : WorkerStage.executed.running = (system.worker w).running := by
      rw [hw]
      rfl
    exact {
      order := h.order
      taskCount := h.taskCount
      tasks := h.tasks.execute hw
      active := h.active.trans (Counting.count_congr (update_running hrunning)).symm
      waiters := h.waiters.mono (Nat.le_refl _) (fun _ => List.mem_append_left _) id
      awake := fun _ => update_ne_asleep WorkerStage.noConfusion }
  · exact h

theorem complete (h : system.Invariant) (w : Fin threads) : (system.complete w).Invariant := by
  unfold ThreadPoolSystem.complete
  split
  · rename_i hw
    have hrunning : (system.worker w).running = true := by
      rw [hw]
      rfl
    have hpos := Counting.count_pos hrunning
    have hcount := Counting.count_update_add WorkerStage.running system.worker w .ready
    rw [hrunning] at hcount
    exact {
      order := h.order
      taskCount := h.taskCount
      tasks := h.tasks.of_holding <| update_eq_holding_iff (fun task heq => by rw [hw] at heq; cases heq)
        fun _ => WorkerStage.noConfusion
      active := by
        change (system.pool.activeTasks - 1).toNat = _
        have hactive := h.active
        have hsub := BitVec.toNat_sub_of_le (x := system.pool.activeTasks) (y := 1)
          (by rw [BitVec.le_def, hactive]; exact hpos)
        rw [hsub, hactive]
        exact Nat.sub_eq_of_eq_add hcount.symm
      waiters := by
        by_cases hdone : system.pool.complete.activeTasks = 0 ∧ system.pool.complete.taskQueue = []
        · have hwake : (fun i => if system.pool.complete.activeTasks = 0 ∧ system.pool.complete.taskQueue = []
              then (system.waiter i).wake else system.waiter i) = fun i => (system.waiter i).wake :=
            funext fun i => if_pos hdone
          dsimp only
          rw [hwake]
          exact h.waiters.wakeAll
        · have hstay : (fun i => if system.pool.complete.activeTasks = 0 ∧ system.pool.complete.taskQueue = []
              then (system.waiter i).wake else system.waiter i) = system.waiter :=
            funext fun i => if_neg hdone
          dsimp only
          rw [hstay]
          refine h.waiters.mono (Nat.le_refl _) (fun _ => id) fun _ => ?_
          rcases not_and_or.mp hdone with hactive | hqueue
          · exact .inl ((BitVec.pos_iff_ne_zero _).mpr hactive)
          · exact .inr hqueue
      awake := fun _ => update_ne_asleep WorkerStage.noConfusion }
  · exact h

theorem wakeWorker (h : system.Invariant) (w : Fin threads) : (system.wakeWorker w).Invariant := by
  unfold ThreadPoolSystem.wakeWorker
  split
  · rename_i hw
    have hrunning : WorkerStage.woken.running = (system.worker w).running := by
      rw [hw]
      rfl
    exact {
      order := h.order
      taskCount := h.taskCount
      tasks := h.tasks.of_holding <| update_eq_holding_iff (fun task heq => by rw [hw] at heq; cases heq)
        fun _ => WorkerStage.noConfusion
      active := h.active.trans (Counting.count_congr (update_running hrunning)).symm
      waiters := h.waiters
      awake := fun _ => update_ne_asleep WorkerStage.noConfusion }
  · exact h

/-- Only the callers of `thread_pool_wait` move. -/
theorem setWaiter (h : system.Invariant)
    (hwaiters : WaitersServed waiter system.pool system.submitted system.executed) :
    { system with waiter := waiter }.Invariant where
  order := h.order
  taskCount := h.taskCount
  tasks := h.tasks
  active := h.active
  waiters := hwaiters
  awake := h.awake

theorem callWait (h : system.Invariant) (i : Nat) : (system.callWait i).Invariant := by
  have hserved : WaitersServed (Function.update system.waiter i (.called system.submitted)) system.pool
      system.submitted system.executed :=
    h.waiters.set (Nat.le_refl _) (fun _ heq => WaiterStage.noConfusion heq)
      fun _ heq => WaiterStage.noConfusion heq
  have hset := h.setWaiter hserved
  unfold ThreadPoolSystem.callWait
  split
  · exact hset
  · exact hset
  · exact h

/-- Where nothing is queued and nothing is running, everything that has been submitted is done. -/
theorem executed_of_not_unfinished (h : system.Invariant) (hdone : ¬system.pool.Unfinished) {task : Nat}
    (htask : task < system.submitted) : task ∈ system.executed := by
  have hqueue : system.pool.taskQueue = [] := by_contra fun hne => hdone (.inr hne)
  have hactive : Counting.count WorkerStage.running system.worker = 0 := by
    rw [← h.active]
    by_contra hne
    exact hdone (.inl (Nat.pos_of_ne_zero hne))
  have hmem : task ∈ system.dequeued := by
    have horder := h.order
    rw [hqueue, List.append_nil] at horder
    rw [horder]
    exact List.mem_range.mpr htask
  rcases h.tasks.accounted task hmem with hexecuted | ⟨w, hw⟩
  · exact hexecuted
  · have hpos : 0 < Counting.count WorkerStage.running system.worker :=
      Counting.count_pos (i := w) (by rw [hw]; rfl)
    rw [hactive] at hpos
    exact absurd hpos (Nat.lt_irrefl 0)

theorem waitersServed_checkWait (h : system.Invariant) {i before : Nat}
    (hbefore : before ≤ system.submitted) :
    WaitersServed (Function.update system.waiter i
        (if system.pool.Unfinished then .asleep before else .returned before))
      system.pool system.submitted system.executed := by
  split
  · rename_i hwork
    exact h.waiters.set hbefore (fun _ heq => WaiterStage.noConfusion heq) fun _ _ => hwork
  · rename_i hdone
    refine h.waiters.set hbefore (fun other heq task htask => ?_) fun _ heq => WaiterStage.noConfusion heq
    cases heq
    exact h.executed_of_not_unfinished hdone (Nat.lt_of_lt_of_le htask hbefore)

theorem checkWait (h : system.Invariant) (i : Nat) : (system.checkWait i).Invariant := by
  have hbefore := h.waiters.before_le i
  unfold ThreadPoolSystem.checkWait
  split
  · rename_i before hi
    rw [hi] at hbefore
    exact h.setWaiter (h.waitersServed_checkWait hbefore)
  · rename_i before hi
    rw [hi] at hbefore
    exact h.setWaiter (h.waitersServed_checkWait hbefore)
  · exact h

theorem wakeWaiter (h : system.Invariant) (i : Nat) : (system.wakeWaiter i).Invariant := by
  refine h.setWaiter (h.waiters.set ?_ ?_ ?_)
  · rw [WaitersServed.wake_before]
    exact h.waiters.before_le i
  · intro before heq
    exact h.waiters.returned i before (WaitersServed.eq_returned_of_wake heq)
  · intro before heq
    exact absurd heq (WaitersServed.wake_ne_asleep _ before)

theorem step (h : system.Invariant) (hpos : 0 < threads) (hlt : threads < 2 ^ 32)
    (action : ThreadPoolAction threads) : (threadPoolStep system action).Invariant := by
  cases action with
  | submit signalled => exact h.submit hpos signalled
  | takeTask w => exact h.takeTask hlt w
  | execute w => exact h.execute w
  | complete w => exact h.complete w
  | wakeWorker w => exact h.wakeWorker w
  | callWait i => exact h.callWait i
  | checkWait i => exact h.checkWait i
  | wakeWaiter i => exact h.wakeWaiter i

theorem consistent (h : system.Invariant) : system.Consistent where
  dequeued_in_order := h.order
  executed_once := h.tasks.nodup
  executed_dequeued := h.tasks.executed_dequeued
  taskCount_eq := h.taskCount
  activeTasks_eq := h.active
  wait_returned := h.waiters.returned
  waiter_asleep i before hi := by
    rcases h.waiters.asleep i before hi with hactive | hqueue
    · refine .inr (Counting.exists_of_count_pos ?_)
      rw [← h.active]
      exact hactive
    · exact .inl hqueue
  worker_awake := h.awake

end Invariant

theorem started_invariant {threadCount : Word} (h : threadPoolCreate threadCount = .ok pool) :
    (started pool).Invariant ∧ 0 < pool.threadCount.toNat := by
  unfold threadPoolCreate at h
  split at h
  · cases h
  · rename_i hcount
    cases h
    refine ⟨?_, Nat.pos_of_ne_zero fun heq => hcount (BitVec.eq_of_toNat_eq heq)⟩
    exact {
      order := rfl
      taskCount := rfl
      tasks := {
        nodup := List.nodup_nil
        executed_dequeued := fun _ htask => absurd htask List.not_mem_nil
        held := fun _ _ heq => WorkerStage.noConfusion heq
        held_once := fun _ _ _ heq => WorkerStage.noConfusion heq
        accounted := fun _ htask => absurd htask List.not_mem_nil }
      active := (Counting.count_eq_zero_of_forall _ _ fun _ => rfl).symm
      waiters := {
        before_le := fun _ => Nat.le_refl 0
        returned := fun _ _ heq => WaiterStage.noConfusion heq
        asleep := fun _ _ heq => WaiterStage.noConfusion heq }
      awake := fun hne => absurd rfl hne }

end ThreadPoolSystem

open ThreadPoolSystem

/-- **However the threads of a pool take their steps, no task is lost, executed twice or overtaken, nobody
returns from `thread_pool_wait` too early, and nobody sleeps without cause.** -/
theorem threadPoolRun_consistent {threadCount : Word} {pool : ThreadPool}
    (hcreate : threadPoolCreate threadCount = .ok pool)
    (actions : List (ThreadPoolAction pool.threadCount.toNat)) :
    (threadPoolRun pool actions).Consistent := by
  obtain ⟨hstart, hpos⟩ := started_invariant hcreate
  have hrun : (threadPoolRun pool actions).Invariant :=
    List.foldlRecOn actions threadPoolStep hstart
      fun _ h action _ => h.step hpos pool.threadCount.isLt action
  exact hrun.consistent

def threadPoolPair : ThreadPool := { threadCount := 2, taskQueue := [], taskCount := 0, activeTasks := 0 }

/-- A worker falls asleep and is woken by the first of two tasks; a caller sleeps until the last of them is
done. -/
def threadPoolPairActions : List (ThreadPoolAction 2) :=
  [.takeTask 0, .submit (· = 0), .submit fun _ => false, .callWait 5, .checkWait 5, .takeTask 1, .takeTask 0,
    .execute 0, .complete 0, .execute 1, .complete 1, .checkWait 5]

theorem threadPoolRun_consistent_pair :
    (threadPoolRun threadPoolPair threadPoolPairActions).Consistent
      ∧ (threadPoolRun threadPoolPair threadPoolPairActions).waiter 5 = .returned 2
      ∧ (threadPoolRun threadPoolPair threadPoolPairActions).executed = [1, 0] :=
  ⟨@threadPoolRun_consistent 2 threadPoolPair rfl threadPoolPairActions, by decide, by decide⟩

theorem submit_replicate {threads : Nat} (system : ThreadPoolSystem threads)
    (h : ∀ w, system.worker w = .ready) (tasks : Nat) :
    ((List.replicate tasks (.submit fun _ => false)).foldl threadPoolStep system).pool.taskQueue.length
        = system.pool.taskQueue.length + tasks
      ∧ ((List.replicate tasks (.submit fun _ => false)).foldl threadPoolStep system).pool.taskCount
        = system.pool.taskCount + BitVec.ofNat 32 tasks := by
  induction tasks generalizing system with
  | zero => exact ⟨rfl, (BitVec.add_zero _).symm⟩
  | succ tasks ih =>
      have hwakes : SignalWakes system.worker fun _ => false := by
        rintro ⟨w, hw⟩
        rw [h w] at hw
        cases hw
      have hstep : threadPoolStep system (.submit fun _ => false)
          = { system with
              pool := system.pool.submit system.submitted
              worker := signal system.worker fun _ => false
              submitted := system.submitted + 1 } := if_pos hwakes
      have hready : ∀ w, (threadPoolStep system (.submit fun _ => false)).worker w = .ready := by
        intro w
        rw [hstep]
        change signal system.worker (fun _ => false) w = .ready
        rw [signal, if_neg fun hwoken => Bool.false_ne_true hwoken.1]
        exact h w
      obtain ⟨hlength, hcount⟩ := ih _ hready
      rw [List.replicate_succ, List.foldl_cons, hlength, hcount, hstep]
      constructor
      · change (system.pool.taskQueue ++ [_]).length + tasks = _
        rw [List.length_append, List.length_singleton, Nat.add_assoc, Nat.add_comm 1]
      · change system.pool.taskCount + 1 + _ = _
        rw [BitVec.add_assoc, Nat.add_comm tasks, BitVec.ofNat_add]
        rfl

/-- With 2^32 tasks in the queue, `task_count` is zero again. -/
theorem threadPoolRun_not_counted :
    ¬∀ (threadCount : Word) (pool : ThreadPool), threadPoolCreate threadCount = .ok pool →
      ∀ actions, (threadPoolRun pool actions).pool.taskCount.toNat
        = (threadPoolRun pool actions).pool.taskQueue.length := by
  intro h
  have hrun := h 1 { threadCount := 1, taskQueue := [], taskCount := 0, activeTasks := 0 } rfl
    (List.replicate (2 ^ 32) (.submit fun _ => false))
  obtain ⟨hlength, hcount⟩ := submit_replicate
    (started { threadCount := 1, taskQueue := [], taskCount := 0, activeTasks := 0 }) (fun _ => rfl) (2 ^ 32)
  rw [threadPoolRun, hlength, hcount] at hrun
  exact absurd hrun (by decide)

end Uesim
