import Uesim.Phy.Harq

/-!
# The life cycle of PHY HARQ processes

A block that is started while its process is inactive is new, and has retransmissions of its own. That holds
as long as the count of retransmissions is back at zero by then: neither a failure nor a NACK that comes for
an inactive process sets it back.
-/

namespace Uesim

open Bytes

inductive PhyHarqOp where
  | init (numDl numUl : Byte)
  | tx (harqId : Byte) (data : Option (List Byte)) (isDownlink allocated : Bool)
  | rx (harqId : Byte) (wanted pduAllocated dataAllocated : Bool)
  | feedback (harqId : Byte) (ack : Bool)
  | retx (harqId : Byte)

/-- The context that a call leaves, if it does not divide by zero. -/
def PhyContext.call (ctx : PhyContext) : PhyHarqOp → Option PhyContext
  | .init numDl numUl => some (phyInitHarq ctx numDl numUl)
  | .tx harqId data isDownlink allocated => (phyHarqTx ctx harqId data isDownlink allocated).map Prod.fst
  | .rx harqId wanted pduAllocated dataAllocated =>
      (phyHarqRx ctx harqId wanted pduAllocated dataAllocated).map Prod.fst
  | .feedback harqId ack => (phyHarqFeedback ctx harqId ack).map Prod.fst
  | .retx harqId => (phyHarqRetx ctx harqId).map Prod.fst

/-- Besides the context, the NACKs that have come for the block of each downlink process, if that was started
while the process was inactive. -/
structure PhyHarqHistory where
  ctx : PhyContext
  own : Fin phyMaxHarqProc → Option Nat

def phyHarqBegin : PhyHarqHistory := { ctx := phyCreateContext, own := fun _ => none }

namespace PhyHarqHistory

def ownAfter (history : PhyHarqHistory) (op : PhyHarqOp) : Fin phyMaxHarqProc → Option Nat :=
  match op with
  | .tx harqId (some _) true true =>
      match history.ctx.harqDl.find harqId with
      | none => history.own
      | some i =>
          Function.update history.own i (if (history.ctx.harqDl.procs i).active then none else some 0)
  | .feedback harqId false =>
      match history.ctx.harqDl.find harqId with
      | none => history.own
      | some i => Function.update history.own i ((history.own i).map (· + 1))
  | _ => history.own

end PhyHarqHistory

/-- After a division by zero nothing changes any more. -/
def phyHarqStep (history : PhyHarqHistory) (op : PhyHarqOp) : PhyHarqHistory :=
  match history.ctx.call op with
  | none => history
  | some ctx => { ctx, own := history.ownAfter op }

/-- A process is active if and only if it holds the data of a block. -/
def PhyHarqArray.HoldsBlocks (array : PhyHarqArray) : Prop :=
  ∀ i, (array.procs i).active = (array.procs i).tbData.isSome

/-- `phy_get_available_harq` chooses among these. -/
def PhyContext.Available (ctx : PhyContext) (isDownlink : Bool) (i : Fin phyMaxHarqProc) : Prop :=
  i.val < (ctx.harq isDownlink).num.toNat ∧ ((ctx.harq isDownlink).procs i).active = false

namespace PhyHarqHistory

/-- What the intended life cycle asks of a single call: a block that is started while its process is inactive
is sent as a new one and is given up after `max_retx` NACKs of its own only, and an acknowledgement makes the
uplink process of its number available. -/
def Answered (history : PhyHarqHistory) (op : PhyHarqOp) (after : PhyContext) : Prop :=
  match op with
  | .tx harqId (some _) isDownlink true =>
      ∀ i, (history.ctx.harq isDownlink).find harqId = some i →
        ((history.ctx.harq isDownlink).procs i).active = false →
        ((after.harq isDownlink).procs i).ndi = 1
  | .feedback harqId true => ∀ i, history.ctx.harqUl.find harqId = some i → after.Available false i
  | .feedback harqId false =>
      ∀ i nacks, history.ctx.harqDl.find harqId = some i → (history.ctx.harqDl.procs i).active = true →
        history.own i = some nacks → (after.harqDl.procs i).active = false →
        (history.ctx.harqDl.procs i).maxRetx.toNat ≤ nacks + 1
  | _ => True

def Good (history : PhyHarqHistory) (op : PhyHarqOp) : Prop :=
  ∃ after, history.ctx.call op = some after ∧ (∀ isDownlink, (after.harq isDownlink).HoldsBlocks)
    ∧ history.Answered op after

/-- There are processes of the direction; memory is not short for an active process, and one that is inactive
has its count back at zero when a block is started; and no acknowledgement has the number of an active uplink
process. -/
def Safe (history : PhyHarqHistory) : PhyHarqOp → Prop
  | .init _ _ => True
  | .tx harqId data isDownlink allocated =>
      data ≠ none → ∃ i, (history.ctx.harq isDownlink).find harqId = some i ∧
        if allocated then
          ((history.ctx.harq isDownlink).procs i).active = false →
            ((history.ctx.harq isDownlink).procs i).retxCount = 0
        else ((history.ctx.harq isDownlink).procs i).active = false
  | .rx harqId wanted _ _ => wanted = true → history.ctx.harqDl.find harqId ≠ none
  | .feedback harqId ack =>
      history.ctx.harqDl.find harqId ≠ none ∧
        (ack = true → ∀ i, history.ctx.harqUl.find harqId = some i →
          (history.ctx.harqUl.procs i).active = false)
  | .retx harqId => history.ctx.harqUl.find harqId ≠ none

/-- What safe runs keep: the retransmissions of a new block are its own. -/
structure Sound (history : PhyHarqHistory) : Prop where
  blocks : ∀ isDownlink, (history.ctx.harq isDownlink).HoldsBlocks
  maxRetx : ∀ i, i.val < history.ctx.harqDl.num.toNat → (history.ctx.harqDl.procs i).maxRetx = 4
  counts : ∀ i nacks, (history.ctx.harqDl.procs i).active = true → history.own i = some nacks →
    (history.ctx.harqDl.procs i).retxCount.toNat = nacks ∧ nacks < 4

end PhyHarqHistory

theorem phyHarqBegin_sound : phyHarqBegin.Sound :=
  { blocks := by
      intro isDownlink i
      cases isDownlink <;> rfl
    maxRetx := fun _ h => absurd h (Nat.not_lt_zero _)
    counts := fun _ _ hactive => by cases hactive }

namespace PhyHarqProcess

variable {proc : PhyHarqProcess}

theorem retxCount_nack : proc.nack.retxCount = proc.retxCount + 1 := by
  unfold nack
  split <;> rfl

theorem toNat_retxCount_nack (hlt : proc.retxCount.toNat < 4) :
    proc.nack.retxCount.toNat = proc.retxCount.toNat + 1 := by
  rw [retxCount_nack, BitVec.toNat_add, show (1 : Byte).toNat = 1 from rfl]
  exact Nat.mod_eq_of_lt (by omega)

theorem active_nack_eq_false_iff (hactive : proc.active = true) (hmax : proc.maxRetx = 4)
    (hlt : proc.retxCount.toNat < 4) : proc.nack.active = false ↔ proc.retxCount.toNat + 1 = 4 := by
  have hcount := toNat_retxCount_nack hlt
  rw [retxCount_nack] at hcount
  unfold nack
  split
  · rename_i hge
    rw [hmax, ge_iff_le, BitVec.le_def, hcount, show (4 : Byte).toNat = 4 from rfl] at hge
    exact iff_of_true rfl (by omega)
  · rename_i hlt'
    rw [hmax, ge_iff_le, BitVec.le_def, hcount, show (4 : Byte).toNat = 4 from rfl] at hlt'
    refine iff_of_false ?_ (by omega)
    rw [hactive]
    decide

end PhyHarqProcess

/-! ### Processes of a direction -/

namespace PhyHarqArray

variable {array : PhyHarqArray} {harqId : Byte} {i : Fin phyMaxHarqProc}

theorem lt_num_of_find (h : array.find harqId = some i) : i.val < array.num.toNat := by
  unfold find at h
  split at h
  · rename_i hpos
    obtain rfl := Option.some.inj h
    exact Nat.mod_lt _ hpos
  · cases h

@[simp]
theorem num_set (proc : PhyHarqProcess) : (array.set i proc).num = array.num := rfl

@[simp]
theorem procs_set_self (proc : PhyHarqProcess) : (array.set i proc).procs i = proc :=
  Function.update_self ..

theorem procs_set_of_ne (proc : PhyHarqProcess) {j : Fin phyMaxHarqProc} (h : j ≠ i) :
    (array.set i proc).procs j = array.procs j :=
  Function.update_of_ne h ..

theorem HoldsBlocks.set_iff (h : array.HoldsBlocks) (proc : PhyHarqProcess) :
    (array.set i proc).HoldsBlocks ↔ proc.active = proc.tbData.isSome := by
  constructor
  · intro hset
    have hself := hset i
    rwa [procs_set_self] at hself
  · intro hproc j
    by_cases hj : j = i
    · subst hj
      rwa [procs_set_self]
    · rw [procs_set_of_ne proc hj]
      exact h j

theorem procs_init (num : Byte) (isDownlink : Bool) (j : Fin phyMaxHarqProc) :
    (array.init num isDownlink).procs j
      = if j.val < (array.init num isDownlink).num.toNat then
          { array.procs j with
            processId := BitVec.ofNat 8 j.val
            isDownlink
            active := false
            retxCount := 0
            maxRetx := 4
            tbData := none }
        else array.procs j := rfl

theorem HoldsBlocks.init (h : array.HoldsBlocks) (num : Byte) (isDownlink : Bool) :
    (array.init num isDownlink).HoldsBlocks := by
  intro j
  rw [procs_init]
  split
  · rfl
  · exact h j

theorem HoldsBlocks.ack (h : array.HoldsBlocks) : (array.set i (array.procs i).ack).HoldsBlocks :=
  (h.set_iff _).mpr rfl

theorem HoldsBlocks.nack (h : array.HoldsBlocks) : (array.set i (array.procs i).nack).HoldsBlocks := by
  rw [h.set_iff, PhyHarqProcess.nack]
  split
  · rfl
  · exact h i

end PhyHarqArray

theorem find?_finRange_eq_some_iff {n : Nat} {p : Fin n → Bool} {i : Fin n} :
    (List.finRange n).find? p = some i ↔ p i = true ∧ ∀ j < i, p j = false := by
  rw [List.find?_eq_some_iff_getElem]
  refine and_congr_right fun _ => ?_
  constructor
  · rintro ⟨k, hk, hi, hbefore⟩ j hj
    rw [List.getElem_finRange] at hi
    have hlt : j.val < k := by
      rw [← hi] at hj
      exact hj
    have hfree := hbefore j.val hlt
    rw [List.getElem_finRange] at hfree
    exact Bool.not_eq_true' _ |>.mp hfree
  · intro hbefore
    refine ⟨i.val, by rw [List.length_finRange]; exact i.isLt, List.getElem_finRange .., ?_⟩
    intro j hj
    rw [List.getElem_finRange, Bool.not_eq_true']
    exact hbefore _ hj

/-- **The process that `phy_get_available_harq` returns is the first one that is available.** -/
theorem phyGetAvailableHarq_eq_iff (ctx : PhyContext) (isDownlink : Bool) (i : Fin phyMaxHarqProc) :
    phyGetAvailableHarq ctx isDownlink = BitVec.ofNat 8 i.val
      ↔ ctx.Available isDownlink i ∧ ∀ j < i, ¬ctx.Available isDownlink j := by
  have hfree : ∀ j : Fin phyMaxHarqProc,
      (decide (j.val < (ctx.harq isDownlink).num.toNat) && !((ctx.harq isDownlink).procs j).active) = true
        ↔ ctx.Available isDownlink j := by
    intro j
    rw [Bool.and_eq_true, decide_eq_true_iff, Bool.not_eq_true']
    exact Iff.rfl
  have hfind := @find?_finRange_eq_some_iff phyMaxHarqProc
    (fun j => j.val < (ctx.harq isDownlink).num.toNat && !((ctx.harq isDownlink).procs j).active) i
  simp only [hfree, ← Bool.not_eq_true] at hfind
  rw [← hfind]
  unfold phyGetAvailableHarq
  dsimp only
  have hi := i.isLt
  unfold phyMaxHarqProc at hi
  split
  · rename_i k hk
    rw [hk, Option.some.injEq, Fin.ext_iff]
    have hk16 := k.isLt
    unfold phyMaxHarqProc at hk16
    constructor
    · intro heq
      have hnat := congrArg BitVec.toNat heq
      rwa [BitVec.toNat_ofNat, BitVec.toNat_ofNat, Nat.mod_eq_of_lt (by omega), Nat.mod_eq_of_lt (by omega)]
        at hnat
    · intro heq
      rw [heq]
  · rename_i hnone
    rw [hnone]
    refine iff_of_false ?_ (fun hsome => by cases hsome)
    intro heq
    have hnat := congrArg BitVec.toNat heq
    rw [BitVec.toNat_ofNat, Nat.mod_eq_of_lt (by omega)] at hnat
    have h255 : (0xFF : Byte).toNat = 255 := rfl
    omega

/-! ### One call -/

namespace PhyContext

variable {ctx : PhyContext} {harqId : Byte} {data : List Byte} {isDownlink : Bool} {i : Fin phyMaxHarqProc}

theorem call_tx_of_find_none (hfind : (ctx.harq isDownlink).find harqId = none) (allocated : Bool) :
    ctx.call (.tx harqId (some data) isDownlink allocated) = none := by
  unfold PhyContext.call phyHarqTx
  dsimp only
  rw [hfind]
  rfl

theorem call_tx_allocated (data : List Byte) (hfind : (ctx.harq isDownlink).find harqId = some i) :
    ∃ after, ctx.call (.tx harqId (some data) isDownlink true) = some after ∧
      after.harq isDownlink
        = (ctx.harq isDownlink).set i (((ctx.harq isDownlink).procs i).tx data isDownlink) ∧
      after.harq (!isDownlink) = ctx.harq (!isDownlink) := by
  unfold PhyContext.call phyHarqTx
  dsimp only
  rw [hfind]
  cases isDownlink <;> exact ⟨_, rfl, rfl, rfl⟩

theorem call_tx_refused (data : List Byte) (hfind : (ctx.harq isDownlink).find harqId = some i) :
    ∃ after, ctx.call (.tx harqId (some data) isDownlink false) = some after ∧
      after.harq isDownlink
        = (ctx.harq isDownlink).set i { (ctx.harq isDownlink).procs i with tbData := none } ∧
      after.harq (!isDownlink) = ctx.harq (!isDownlink) := by
  unfold PhyContext.call phyHarqTx
  dsimp only
  rw [hfind]
  cases isDownlink <;> exact ⟨_, rfl, rfl, rfl⟩

theorem call_rx (hfind : ctx.harqDl.find harqId = some i) (wanted pduAllocated dataAllocated : Bool) :
    ∃ after, ctx.call (.rx harqId wanted pduAllocated dataAllocated) = some after ∧
      after.harqDl = ctx.harqDl ∧ after.harqUl = ctx.harqUl := by
  rw [PhyContext.call, phyHarqRx, hfind]
  cases wanted with
  | false => exact ⟨_, rfl, rfl, rfl⟩
  | true =>
      rw [if_neg (by decide), Option.map_some, Option.map_some]
      refine ⟨_, rfl, ?_⟩
      dsimp only
      cases pduAllocated && dataAllocated <;> split <;> exact ⟨rfl, rfl⟩

theorem call_feedback (hfind : ctx.harqDl.find harqId = some i) (ack : Bool) :
    ∃ after, ctx.call (.feedback harqId ack) = some after ∧
      after.harqDl
        = ctx.harqDl.set i (if ack then (ctx.harqDl.procs i).ack else (ctx.harqDl.procs i).nack) ∧
      after.harqUl = ctx.harqUl := by
  rw [PhyContext.call, phyHarqFeedback, hfind]
  cases ack <;> exact ⟨_, rfl, rfl, rfl⟩

theorem call_retx (hfind : ctx.harqUl.find harqId = some i) :
    ∃ after, ctx.call (.retx harqId) = some after ∧ after.harqDl = ctx.harqDl ∧
      (after.harqUl = ctx.harqUl ∨ ∃ retxCount rv,
        after.harqUl = ctx.harqUl.set i { ctx.harqUl.procs i with retxCount, rv }) := by
  rw [PhyContext.call, phyHarqRetx, hfind, Option.map_some, Option.map_some]
  refine ⟨_, rfl, ?_⟩
  dsimp only
  split
  · exact ⟨rfl, .inl rfl⟩
  · exact ⟨rfl, .inr ⟨_, _, rfl⟩⟩

theorem holdsBlocks_of_harq_eq (isDownlink : Bool) {after : PhyContext} {array : PhyHarqArray}
    (h : ∀ isDownlink, (ctx.harq isDownlink).HoldsBlocks) (hself : after.harq isDownlink = array)
    (hother : after.harq (!isDownlink) = ctx.harq (!isDownlink)) :
    (∀ isDownlink, (after.harq isDownlink).HoldsBlocks) ↔ array.HoldsBlocks := by
  constructor
  · intro hafter
    rw [← hself]
    exact hafter isDownlink
  · intro harray direction
    by_cases hdirection : direction = isDownlink
    · rw [hdirection, hself]
      exact harray
    · rw [Bool.eq_not_of_ne hdirection, hother]
      exact h _

end PhyContext

namespace PhyHarqHistory

variable {history : PhyHarqHistory}

theorem Sound.good_tx_allocated_iff (h : history.Sound) {harqId : Byte} {isDownlink : Bool}
    {i : Fin phyMaxHarqProc} (hfind : (history.ctx.harq isDownlink).find harqId = some i) (data : List Byte) :
    history.Good (.tx harqId (some data) isDownlink true)
      ↔ history.Safe (.tx harqId (some data) isDownlink true) := by
  obtain ⟨after, hcall, hself, hother⟩ := PhyContext.call_tx_allocated data hfind
  have hholds := (PhyContext.holdsBlocks_of_harq_eq isDownlink h.blocks hself hother).mpr
    (((h.blocks isDownlink).set_iff _).mpr rfl)
  unfold Good Safe
  constructor
  · rintro ⟨after', hcall', -, hanswer⟩ -
    obtain rfl := Option.some.inj (hcall.symm.trans hcall')
    refine ⟨i, hfind, fun hinactive => ?_⟩
    have hndi := hanswer i hfind hinactive
    rw [hself, PhyHarqArray.procs_set_self, PhyHarqProcess.tx] at hndi
    by_contra hcount
    rw [if_neg hcount] at hndi
    cases hndi
  · intro hsafe
    obtain ⟨j, hj, hcount⟩ := hsafe (Option.some_ne_none data)
    refine ⟨after, hcall, hholds, fun k hk hinactive => ?_⟩
    obtain rfl := Option.some.inj (hj.symm.trans hk)
    obtain rfl := Option.some.inj (hfind.symm.trans hj)
    rw [hself, PhyHarqArray.procs_set_self, PhyHarqProcess.tx]
    exact if_pos (hcount hinactive)

theorem Sound.good_tx_refused_iff (h : history.Sound) {harqId : Byte} {isDownlink : Bool}
    {i : Fin phyMaxHarqProc} (hfind : (history.ctx.harq isDownlink).find harqId = some i) (data : List Byte) :
    history.Good (.tx harqId (some data) isDownlink false)
      ↔ history.Safe (.tx harqId (some data) isDownlink false) := by
  obtain ⟨after, hcall, hself, hother⟩ := PhyContext.call_tx_refused data hfind
  have hholds := PhyContext.holdsBlocks_of_harq_eq isDownlink h.blocks hself hother
  rw [(h.blocks isDownlink).set_iff] at hholds
  unfold Good Safe
  constructor
  · rintro ⟨after', hcall', hafter, -⟩ -
    obtain rfl := Option.some.inj (hcall.symm.trans hcall')
    exact ⟨i, hfind, hholds.mp hafter⟩
  · intro hsafe
    obtain ⟨j, hj, hinactive⟩ := hsafe (Option.some_ne_none data)
    obtain rfl := Option.some.inj (hfind.symm.trans hj)
    exact ⟨after, hcall, hholds.mpr hinactive, trivial⟩

theorem Sound.good_tx_iff (h : history.Sound) (harqId : Byte) (data : List Byte)
    (isDownlink allocated : Bool) :
    history.Good (.tx harqId (some data) isDownlink allocated)
      ↔ history.Safe (.tx harqId (some data) isDownlink allocated) := by
  cases hfind : (history.ctx.harq isDownlink).find harqId with
  | none =>
      unfold Good Safe
      rw [PhyContext.call_tx_of_find_none hfind]
      refine iff_of_false ?_ ?_
      · rintro ⟨_, hcall, -⟩
        cases hcall
      · intro hsafe
        obtain ⟨i, hi, -⟩ := hsafe (Option.some_ne_none data)
        rw [hfind] at hi
        cases hi
  | some i =>
      cases allocated with
      | true => exact h.good_tx_allocated_iff hfind data
      | false => exact h.good_tx_refused_iff hfind data

theorem Sound.good_feedback_iff (h : history.Sound) (harqId : Byte) (ack : Bool) :
    history.Good (.feedback harqId ack) ↔ history.Safe (.feedback harqId ack) := by
  unfold Good Safe
  cases hfind : history.ctx.harqDl.find harqId with
  | none =>
      rw [PhyContext.call, phyHarqFeedback, hfind]
      refine iff_of_false ?_ fun hsafe => hsafe.1 hfind
      rintro ⟨_, hcall, -⟩
      cases hcall
  | some i =>
      obtain ⟨after, hcall, hdl, hul⟩ := PhyContext.call_feedback hfind ack
      have hsome : history.ctx.harqDl.find harqId ≠ none := by
        rw [hfind]
        exact Option.some_ne_none i
      have hholds : ∀ isDownlink, (after.harq isDownlink).HoldsBlocks := by
        refine (PhyContext.holdsBlocks_of_harq_eq true h.blocks hdl hul).mpr ?_
        cases ack with
        | true => exact (h.blocks true).ack
        | false => exact (h.blocks true).nack
      cases ack with
      | true =>
          have havailable : ∀ j, history.ctx.harqUl.find harqId = some j →
              (after.Available false j ↔ (history.ctx.harqUl.procs j).active = false) := by
            intro j hj
            unfold PhyContext.Available PhyContext.harq
            rw [hul]
            exact and_iff_right (PhyHarqArray.lt_num_of_find hj)
          constructor
          · rintro ⟨after', hcall', -, hanswer⟩
            obtain rfl := Option.some.inj (hcall.symm.trans hcall')
            exact ⟨hsome, fun _ j hj => (havailable j hj).mp (hanswer j hj)⟩
          · rintro ⟨-, hfree⟩
            exact ⟨after, hcall, hholds, fun j hj => (havailable j hj).mpr (hfree rfl j hj)⟩
      | false =>
          refine iff_of_true ⟨after, hcall, hholds, ?_⟩ ⟨hsome, fun hack => by cases hack⟩
          intro j nacks hj hactive hown hinactive
          rw [hfind] at hj
          obtain rfl := Option.some.inj hj
          rw [hdl, PhyHarqArray.procs_set_self, if_neg (by decide)] at hinactive
          obtain ⟨hcount, hlt⟩ := h.counts i nacks hactive hown
          have hmax := h.maxRetx i (PhyHarqArray.lt_num_of_find hfind)
          rw [← hcount] at hlt
          rw [PhyHarqProcess.active_nack_eq_false_iff hactive hmax hlt, hcount] at hinactive
          rw [hmax, hinactive]
          exact Nat.le_refl _

theorem Sound.good_of_unchanged (h : history.Sound) {op : PhyHarqOp} {after : PhyContext}
    (hcall : history.ctx.call op = some after) (hdl : after.harqDl = history.ctx.harqDl)
    (hul : after.harqUl.HoldsBlocks) (hanswer : history.Answered op after) : history.Good op := by
  refine ⟨after, hcall, ?_, hanswer⟩
  intro isDownlink
  cases isDownlink with
  | true =>
      rw [PhyContext.harq, hdl]
      exact h.blocks true
  | false => exact hul

theorem Sound.good_rx_iff (h : history.Sound) (harqId : Byte) (wanted pduAllocated dataAllocated : Bool) :
    history.Good (.rx harqId wanted pduAllocated dataAllocated)
      ↔ history.Safe (.rx harqId wanted pduAllocated dataAllocated) := by
  cases hfind : history.ctx.harqDl.find harqId with
  | none =>
      cases wanted with
      | true =>
          unfold Good Safe
          rw [PhyContext.call, phyHarqRx, hfind]
          refine iff_of_false ?_ fun hsafe => hsafe rfl hfind
          rintro ⟨_, hcall, -⟩
          cases hcall
      | false =>
          exact iff_of_true (h.good_of_unchanged rfl rfl (h.blocks false) trivial) fun hwanted => by
            cases hwanted
  | some i =>
      obtain ⟨after, hcall, hdl, hul⟩ :=
        PhyContext.call_rx hfind wanted pduAllocated dataAllocated
      refine iff_of_true (h.good_of_unchanged hcall hdl ?_ trivial) fun _ => ?_
      · rw [hul]
        exact h.blocks false
      · rw [hfind]
        exact Option.some_ne_none i

theorem Sound.good_retx_iff (h : history.Sound) (harqId : Byte) :
    history.Good (.retx harqId) ↔ history.Safe (.retx harqId) := by
  cases hfind : history.ctx.harqUl.find harqId with
  | none =>
      unfold Good Safe
      rw [PhyContext.call, phyHarqRetx, hfind]
      refine iff_of_false ?_ fun hsafe => hsafe hfind
      rintro ⟨_, hcall, -⟩
      cases hcall
  | some i =>
      obtain ⟨after, hcall, hdl, hul⟩ := PhyContext.call_retx hfind
      refine iff_of_true (h.good_of_unchanged hcall hdl ?_ trivial) ?_
      · rcases hul with hul | ⟨retxCount, rv, hul⟩
        · rw [hul]
          exact h.blocks false
        · rw [hul]
          exact ((h.blocks false).set_iff _).mpr (h.blocks false i)
      · intro hnone
        rw [hfind] at hnone
        cases hnone

theorem Sound.good_iff (h : history.Sound) (op : PhyHarqOp) : history.Good op ↔ history.Safe op := by
  cases op with
  | init numDl numUl =>
      refine iff_of_true ⟨_, rfl, ?_, trivial⟩ trivial
      intro isDownlink
      cases isDownlink with
      | true => exact (h.blocks true).init numDl true
      | false => exact (h.blocks false).init numUl false
  | tx harqId data isDownlink allocated =>
      cases data with
      | none =>
          exact iff_of_true (h.good_of_unchanged rfl rfl (h.blocks false) trivial) fun hdata =>
            absurd rfl hdata
      | some data => exact h.good_tx_iff harqId data isDownlink allocated
  | rx harqId wanted pduAllocated dataAllocated =>
      exact h.good_rx_iff harqId wanted pduAllocated dataAllocated
  | feedback harqId ack => exact h.good_feedback_iff harqId ack
  | retx harqId => exact h.good_retx_iff harqId

theorem Sound.of_harqDl_eq (h : history.Sound) {after : PhyHarqHistory}
    (hblocks : ∀ isDownlink, (after.ctx.harq isDownlink).HoldsBlocks)
    (hdl : after.ctx.harqDl = history.ctx.harqDl) (hown : after.own = history.own) : after.Sound :=
  { blocks := hblocks
    maxRetx := by
      rw [hdl]
      exact h.maxRetx
    counts := by
      rw [hdl, hown]
      exact h.counts }

/-- One downlink process changes, and the record of its block with it. -/
theorem Sound.of_harqDl_set (h : history.Sound) {after : PhyHarqHistory} {i : Fin phyMaxHarqProc}
    {proc : PhyHarqProcess} {nacks : Option Nat}
    (hblocks : ∀ isDownlink, (after.ctx.harq isDownlink).HoldsBlocks)
    (hdl : after.ctx.harqDl = history.ctx.harqDl.set i proc)
    (hown : after.own = Function.update history.own i nacks)
    (hmax : proc.maxRetx = (history.ctx.harqDl.procs i).maxRetx)
    (hcount : ∀ count, proc.active = true → nacks = some count → proc.retxCount.toNat = count ∧ count < 4) :
    after.Sound :=
  { blocks := hblocks
    maxRetx := by
      intro j hj
      rw [hdl] at hj ⊢
      by_cases hji : j = i
      · subst hji
        rw [PhyHarqArray.procs_set_self, hmax]
        exact h.maxRetx j hj
      · rw [PhyHarqArray.procs_set_of_ne proc hji]
        exact h.maxRetx j hj
    counts := by
      intro j count hactive hj
      rw [hdl] at hactive ⊢
      rw [hown] at hj
      by_cases hji : j = i
      · subst hji
        rw [PhyHarqArray.procs_set_self] at hactive ⊢
        rw [Function.update_self] at hj
        exact hcount count hactive hj
      · rw [PhyHarqArray.procs_set_of_ne proc hji] at hactive ⊢
        rw [Function.update_of_ne hji] at hj
        exact h.counts j count hactive hj }

theorem Sound.init (h : history.Sound) {after : PhyHarqHistory} {numDl numUl : Byte}
    (hctx : after.ctx = phyInitHarq history.ctx numDl numUl) (hown : after.own = history.own) : after.Sound :=
  { blocks := by
      intro isDownlink
      rw [hctx]
      cases isDownlink with
      | true => exact (h.blocks true).init numDl true
      | false => exact (h.blocks false).init numUl false
    maxRetx := by
      intro i hi
      rw [hctx] at hi ⊢
      unfold phyInitHarq at hi ⊢
      rw [PhyHarqArray.procs_init, if_pos hi]
    counts := by
      intro i nacks hactive hi
      rw [hctx] at hactive ⊢
      rw [hown] at hi
      unfold phyInitHarq at hactive ⊢
      dsimp only at hactive ⊢
      rw [PhyHarqArray.procs_init] at hactive ⊢
      split at hactive
      · cases hactive
      · rename_i hnum
        rw [if_neg hnum]
        exact h.counts i nacks hactive hi }

/-- One downlink process changes, and the record stays. -/
theorem Sound.of_harqDl_set_same (h : history.Sound) {after : PhyHarqHistory} {i : Fin phyMaxHarqProc}
    {proc : PhyHarqProcess} (hblocks : ∀ isDownlink, (after.ctx.harq isDownlink).HoldsBlocks)
    (hdl : after.ctx.harqDl = history.ctx.harqDl.set i proc) (hown : after.own = history.own)
    (hmax : proc.maxRetx = (history.ctx.harqDl.procs i).maxRetx)
    (hcount : ∀ count, proc.active = true → history.own i = some count →
      proc.retxCount.toNat = count ∧ count < 4) : after.Sound := by
  refine h.of_harqDl_set hblocks hdl ?_ hmax hcount
  rw [Function.update_eq_self]
  exact hown

theorem Sound.tx_allocated (h : history.Sound) {harqId : Byte} {data : List Byte} {i : Fin phyMaxHarqProc}
    {after : PhyHarqHistory} (hfind : history.ctx.harqDl.find harqId = some i)
    (hcount : (history.ctx.harqDl.procs i).active = false → (history.ctx.harqDl.procs i).retxCount = 0)
    (hblocks : ∀ isDownlink, (after.ctx.harq isDownlink).HoldsBlocks)
    (hdl : after.ctx.harqDl = history.ctx.harqDl.set i ((history.ctx.harqDl.procs i).tx data true))
    (hown : after.own = history.ownAfter (.tx harqId (some data) true true)) : after.Sound := by
  unfold ownAfter at hown
  dsimp only at hown
  rw [hfind] at hown
  refine h.of_harqDl_set hblocks hdl hown rfl ?_
  intro count hactive hstarted
  cases hinactive : (history.ctx.harqDl.procs i).active with
  | true =>
      rw [hinactive] at hstarted
      cases hstarted
  | false =>
      rw [hinactive, if_neg (by decide)] at hstarted
      obtain rfl := Option.some.inj hstarted
      refine ⟨?_, by decide⟩
      change ((history.ctx.harqDl.procs i).retxCount).toNat = 0
      rw [hcount hinactive]
      rfl

theorem Sound.tx (h : history.Sound) {harqId : Byte} {data : List Byte} {isDownlink allocated : Bool}
    {after : PhyHarqHistory} (hsafe : history.Safe (.tx harqId (some data) isDownlink allocated))
    (hblocks : ∀ isDownlink, (after.ctx.harq isDownlink).HoldsBlocks)
    (hcall : history.ctx.call (.tx harqId (some data) isDownlink allocated) = some after.ctx)
    (hown : after.own = history.ownAfter (.tx harqId (some data) isDownlink allocated)) : after.Sound := by
  obtain ⟨i, hfind, hcount⟩ := hsafe (Option.some_ne_none data)
  cases allocated with
  | true =>
      obtain ⟨after', hcall', hself, hother⟩ := PhyContext.call_tx_allocated data hfind
      obtain rfl := Option.some.inj (hcall.symm.trans hcall')
      cases isDownlink with
      | true => exact h.tx_allocated hfind hcount hblocks hself hown
      | false => exact h.of_harqDl_eq hblocks hother hown
  | false =>
      obtain ⟨after', hcall', hself, hother⟩ := PhyContext.call_tx_refused data hfind
      obtain rfl := Option.some.inj (hcall.symm.trans hcall')
      cases isDownlink with
      | true => exact h.of_harqDl_set_same hblocks hself hown rfl (h.counts i)
      | false => exact h.of_harqDl_eq hblocks hother hown

theorem Sound.feedback (h : history.Sound) {harqId : Byte} {ack : Bool} {after : PhyHarqHistory}
    (hsafe : history.Safe (.feedback harqId ack))
    (hblocks : ∀ isDownlink, (after.ctx.harq isDownlink).HoldsBlocks)
    (hcall : history.ctx.call (.feedback harqId ack) = some after.ctx)
    (hown : after.own = history.ownAfter (.feedback harqId ack)) : after.Sound := by
  obtain ⟨i, hfind⟩ := Option.ne_none_iff_exists'.mp hsafe.1
  obtain ⟨after', hcall', hdl, -⟩ := PhyContext.call_feedback hfind ack
  rw [← Option.some.inj (hcall.symm.trans hcall')] at hdl
  cases ack with
  | true =>
      exact h.of_harqDl_set_same hblocks hdl hown rfl fun count hactive => by cases hactive
  | false =>
      rw [if_neg (by decide)] at hdl
      unfold ownAfter at hown
      dsimp only at hown
      rw [hfind] at hown
      refine h.of_harqDl_set hblocks hdl hown ?_ ?_
      · unfold PhyHarqProcess.nack
        split <;> rfl
      · intro count hactive hcount
        obtain ⟨nacks, hnacks, rfl⟩ := Option.map_eq_some_iff.mp hcount
        have hbefore : (history.ctx.harqDl.procs i).active = true := by
          cases hwas : (history.ctx.harqDl.procs i).active with
          | true => rfl
          | false =>
              unfold PhyHarqProcess.nack at hactive
              rw [hwas] at hactive
              split at hactive <;> cases hactive
        obtain ⟨hretx, hlt⟩ := h.counts i nacks hbefore hnacks
        have hmax := h.maxRetx i (PhyHarqArray.lt_num_of_find hfind)
        rw [← hretx] at hlt
        have hnot4 : nacks + 1 ≠ 4 := by
          rw [← hretx, ne_eq, ← PhyHarqProcess.active_nack_eq_false_iff hbefore hmax hlt, hactive]
          decide
        rw [PhyHarqProcess.toNat_retxCount_nack hlt, hretx]
        exact ⟨rfl, by omega⟩

end PhyHarqHistory

open PhyHarqHistory in
theorem phyHarqStep_sound {history : PhyHarqHistory} (h : history.Sound) {op : PhyHarqOp}
    (hsafe : history.Safe op) : (phyHarqStep history op).Sound := by
  obtain ⟨after, hcall, hblocks, -⟩ := (h.good_iff op).mpr hsafe
  have hstep : phyHarqStep history op = { ctx := after, own := history.ownAfter op } := by
    rw [phyHarqStep, hcall]
  rw [hstep]
  cases op with
  | init numDl numUl => exact h.init (Option.some.inj hcall).symm rfl
  | tx harqId data isDownlink allocated =>
      cases data with
      | none =>
          have hafter : after = history.ctx := (Option.some.inj hcall).symm
          exact h.of_harqDl_eq hblocks (congrArg PhyContext.harqDl hafter) rfl
      | some data => exact h.tx hsafe hblocks hcall rfl
  | rx harqId wanted pduAllocated dataAllocated =>
      refine h.of_harqDl_eq hblocks ?_ rfl
      cases wanted with
      | false => exact congrArg PhyContext.harqDl (Option.some.inj hcall).symm
      | true =>
          obtain ⟨i, hfind⟩ := Option.ne_none_iff_exists'.mp (hsafe rfl)
          obtain ⟨after', hcall', hdl, -⟩ := PhyContext.call_rx hfind true pduAllocated dataAllocated
          rw [Option.some.inj (hcall.symm.trans hcall')]
          exact hdl
  | feedback harqId ack => exact h.feedback hsafe hblocks hcall rfl
  | retx harqId =>
      refine h.of_harqDl_eq hblocks ?_ rfl
      obtain ⟨i, hfind⟩ := Option.ne_none_iff_exists'.mp hsafe
      obtain ⟨after', hcall', hdl, -⟩ := PhyContext.call_retx hfind
      rw [Option.some.inj (hcall.symm.trans hcall')]
      exact hdl

/-- **A run of the HARQ processes keeps to the intended life cycle exactly when it is safe.** -/
theorem phyHarqRun_good_iff (ops : List PhyHarqOp) :
    Runs.Always phyHarqStep PhyHarqHistory.Good phyHarqBegin ops
      ↔ Runs.Always phyHarqStep PhyHarqHistory.Safe phyHarqBegin ops :=
  @Runs.always_iff _ _ phyHarqStep PhyHarqHistory.Sound PhyHarqHistory.Safe PhyHarqHistory.Good
    (fun _ op h => h.good_iff op) (fun _ _ h hsafe => phyHarqStep_sound h hsafe) _ phyHarqBegin_sound ops

/-- Four NACKs fail the first block, and the next one is sent as a retransmission. -/
theorem phyHarqRun_not_good :
    ¬Runs.Always phyHarqStep PhyHarqHistory.Good phyHarqBegin
      [.init 1 1, .tx 0 (some [7]) true true, .feedback 0 false, .feedback 0 false, .feedback 0 false,
        .feedback 0 false, .tx 0 (some [8]) true true] := by
  rintro ⟨-, -, -, -, -, -, ⟨after, hcall, -, hanswer⟩, -⟩
  have hndi := hanswer ⟨0, by decide⟩ (by decide) (by decide)
  have hafter : ((after.harq true).procs ⟨0, by decide⟩).ndi = 0 := by
    rw [← Option.some.inj hcall]
    decide
  rw [hafter] at hndi
  cases hndi

end Uesim
