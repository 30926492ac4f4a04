import Uesim.Library.LinkedQueue
import Uesim.Library.Runs
import Uesim.Types

/-!
# Buffers of logical channels

A linked list of what was queued, with a count of its entries and one of its bytes. What is taken out is
what was put in, in the same order, and both counts are those of the list.
-/

namespace Uesim

open Bytes LinkedQueue

structure MacLchData where
  bytes : List Byte
  inMemory : bytes.length < 2 ^ 63

/-- The length as a `size_t`. -/
def MacLchData.length (data : MacLchData) : BitVec 64 := BitVec.ofNat 64 data.bytes.length

/-- An entry holds a copy of the data with its length, and the link to the next entry. -/
abbrev MacLchBufferEntry := Node MacLchData

/-- `entries` is the memory of the buffer's entries. -/
structure MacLchBuffer where
  entries : Heap MacLchData
  head : Option Nat
  tail : Option Nat
  entryCount : Word
  totalBytes : Word
  maxBytes : Word

/-- What the allocator answers: an address for the entry, which is free, and whether there is memory for
the copy of the data. -/
structure MacLchAllocation where
  entry : Heap MacLchData → Option Nat
  free : ∀ heap ptr, entry heap = some ptr → heap ptr = none
  copy : Bool

/-- The allocator that has this one address left for an entry. -/
def MacLchAllocation.only (ptr : Nat) : MacLchAllocation where
  entry heap := if (heap ptr).isNone then some ptr else none
  free heap ptr' h := by
    split at h
    · rename_i hnone
      cases h
      exact Option.isNone_iff_eq_none.mp hnone
    · cases h
  copy := true

def macLchBufferInit (maxBytes : Word) : MacLchBuffer :=
  { entries := fun _ => none, head := none, tail := none, entryCount := 0, totalBytes := 0, maxBytes }

/-- No result if the last entry is not in memory. -/
def macLchBufferEnqueue (buffer : MacLchBuffer) (data : MacLchData) (allocation : MacLchAllocation) :
    Option (MacLchBuffer × Except UesimError Unit) :=
  if data.length = 0 then some (buffer, .error .invalidParam)
  else if buffer.totalBytes.setWidth 64 + data.length > buffer.maxBytes.setWidth 64 then
    some (buffer, .error .memory)
  else
    match allocation.entry buffer.entries with
    | none => some (buffer, .error .memory)
    | some entry =>
        if allocation.copy then
          let entries := Function.update buffer.entries entry (some ⟨data, none⟩)
          let added := { buffer with
            entries
            tail := some entry
            entryCount := buffer.entryCount + 1
            totalBytes := buffer.totalBytes + data.length.setWidth 32 }
          match buffer.tail with
          | none => some ({ added with head := some entry }, .ok ())
          | some tail =>
              (buffer.entries tail).map fun last =>
                ({ added with
                    entries := Function.update entries tail (some { last with next := some entry }) },
                  .ok ())
        else some (buffer, .error .memory)

/-- No result if the first entry is not in memory. -/
def macLchBufferDequeue (buffer : MacLchBuffer) :
    Option (MacLchBuffer × Except UesimError MacLchData) :=
  match buffer.head with
  | none => some (buffer, .error .invalidParam)
  | some head =>
      (buffer.entries head).map fun entry =>
        ({ buffer with
            entries := Function.update buffer.entries head none
            head := entry.next
            tail := if entry.next = none then none else buffer.tail
            entryCount := buffer.entryCount - 1
            totalBytes := buffer.totalBytes - entry.value.length.setWidth 32 },
          .ok entry.value)

def macLchBufferGetBytes (buffer : MacLchBuffer) : Word := buffer.totalBytes

def macLchBufferPeek (buffer : MacLchBuffer) : Option MacLchData :=
  (buffer.head.bind buffer.entries).map (·.value)

/-! ### The queue that a buffer is -/

def macLchBytes (queue : List MacLchData) : Nat := (queue.map fun data => data.bytes.length).sum

@[simp]
theorem macLchBytes_cons (data : MacLchData) (queue : List MacLchData) :
    macLchBytes (data :: queue) = data.bytes.length + macLchBytes queue := rfl

theorem macLchBytes_append (queue : List MacLchData) (data : MacLchData) :
    macLchBytes (queue ++ [data]) = macLchBytes queue + data.bytes.length := by
  simp [macLchBytes]

/-- The buffer holds this queue, of data that is not empty. -/
structure MacLchBuffer.Holds (buffer : MacLchBuffer) (queue : List MacLchData) : Prop where
  linked : ∃ nodes, Queue buffer.entries buffer.head buffer.tail nodes ∧ nodes.map (·.2) = queue
  nonempty : ∀ data ∈ queue, 0 < data.bytes.length
  entryCount : buffer.entryCount.toNat = queue.length
  totalBytes : buffer.totalBytes.toNat = macLchBytes queue
  fits : macLchBytes queue ≤ buffer.maxBytes.toNat

theorem macLchBufferInit_holds (maxBytes : Word) : (macLchBufferInit maxBytes).Holds [] :=
  ⟨⟨[], queue_empty, rfl⟩, List.forall_mem_nil _, rfl, rfl, Nat.zero_le _⟩

/-- The data is not empty and fits, and the allocator has memory for it. -/
def MacLchBuffer.Accepts (buffer : MacLchBuffer) (data : MacLchData) (allocation : MacLchAllocation) :
    Prop :=
  0 < data.bytes.length ∧ buffer.totalBytes.toNat + data.bytes.length ≤ buffer.maxBytes.toNat
    ∧ allocation.entry buffer.entries ≠ none ∧ allocation.copy = true

theorem toNat_length (data : MacLchData) : data.length.toNat = data.bytes.length := by
  have hsmall := data.inMemory
  rw [MacLchData.length, BitVec.toNat_ofNat]
  omega

theorem length_eq_zero_iff (data : MacLchData) : data.length = 0 ↔ data.bytes.length = 0 := by
  rw [← toNat_length]
  exact ⟨fun h => by rw [h]; rfl, fun h => BitVec.eq_of_toNat_eq h⟩

theorem exceeds_iff (buffer : MacLchBuffer) (data : MacLchData) :
    buffer.totalBytes.setWidth 64 + data.length > buffer.maxBytes.setWidth 64
      ↔ buffer.maxBytes.toNat < buffer.totalBytes.toNat + data.bytes.length := by
  have hsmall := data.inMemory
  have htotal := buffer.totalBytes.isLt
  have hmax := buffer.maxBytes.isLt
  rw [gt_iff_lt, BitVec.lt_def, BitVec.toNat_add, BitVec.toNat_setWidth, BitVec.toNat_setWidth,
    toNat_length]
  omega

namespace MacLchBuffer

variable {buffer : MacLchBuffer} {queue : List MacLchData} {data : MacLchData}
  {allocation : MacLchAllocation}

theorem enqueue_of_not_accepts (h : ¬buffer.Accepts data allocation) :
    ∃ e, macLchBufferEnqueue buffer data allocation = some (buffer, .error e) := by
  rw [macLchBufferEnqueue]
  split
  · exact ⟨_, rfl⟩
  rename_i hlength
  split
  · exact ⟨_, rfl⟩
  rename_i hfits
  split
  · exact ⟨_, rfl⟩
  rename_i entry hentry
  split
  · rename_i hcopy
    rw [length_eq_zero_iff] at hlength
    rw [exceeds_iff] at hfits
    refine absurd ⟨Nat.pos_of_ne_zero hlength, Nat.le_of_not_lt hfits, ?_, hcopy⟩ h
    rw [hentry]
    exact Option.some_ne_none entry
  · exact ⟨_, rfl⟩

theorem Holds.length_le (h : buffer.Holds queue) : queue.length ≤ macLchBytes queue := by
  have hnonempty := h.nonempty
  clear h
  induction queue with
  | nil => exact Nat.le_refl 0
  | cons data queue ih =>
      obtain ⟨hfirst, hrest⟩ := List.forall_mem_cons.mp hnonempty
      have hqueue := ih hrest
      rw [macLchBytes_cons, List.length_cons]
      omega

theorem Holds.enqueue (h : buffer.Holds queue) (haccepts : buffer.Accepts data allocation) :
    ∃ buffer', macLchBufferEnqueue buffer data allocation = some (buffer', .ok ())
      ∧ buffer'.Holds (queue ++ [data]) ∧ buffer'.maxBytes = buffer.maxBytes := by
  obtain ⟨hpos, hfits, hentry, hcopy⟩ := haccepts
  obtain ⟨nodes, hqueue, hnodes⟩ := h.linked
  have hne : data.length ≠ 0 := fun hzero => Nat.ne_of_gt hpos ((length_eq_zero_iff data).mp hzero)
  have hroom : ¬buffer.totalBytes.setWidth 64 + data.length > buffer.maxBytes.setWidth 64 := by
    rw [exceeds_iff]
    exact Nat.not_lt.mpr hfits
  obtain ⟨entry, hentry⟩ := Option.ne_none_iff_exists'.mp hentry
  have hfree := allocation.free _ _ hentry
  have hmax := buffer.maxBytes.isLt
  have hcount : (buffer.entryCount + 1).toNat = (queue ++ [data]).length := by
    have hle := h.length_le
    have htotal := h.totalBytes
    rw [BitVec.toNat_add, h.entryCount, List.length_append]
    change (queue.length + 1) % 2 ^ 32 = queue.length + 1
    omega
  have hbytes : (buffer.totalBytes + data.length.setWidth 32).toNat = macLchBytes (queue ++ [data]) := by
    have htotal := h.totalBytes
    rw [BitVec.toNat_add, BitVec.toNat_setWidth, toNat_length, h.totalBytes, macLchBytes_append]
    omega
  have hlimit : macLchBytes (queue ++ [data]) ≤ buffer.maxBytes.toNat := by
    rw [macLchBytes_append, ← h.totalBytes]
    exact hfits
  have hnonempty : ∀ other ∈ queue ++ [data], 0 < other.bytes.length :=
    List.forall_mem_append.mpr ⟨h.nonempty, List.forall_mem_singleton.mpr hpos⟩
  have hvalues : (nodes ++ [(entry, data)]).map (·.2) = queue ++ [data] := by
    rw [List.map_append, hnodes]
    rfl
  rw [macLchBufferEnqueue, if_neg hne, if_neg hroom, hentry]
  simp only [if_pos hcopy]
  cases htail : buffer.tail with
  | none =>
      have hpushed := hqueue.push_first htail entry data
      exact ⟨_, rfl, ⟨⟨_, hpushed, hvalues⟩, hnonempty, hcount, hbytes, hlimit⟩, rfl⟩
  | some last =>
      obtain ⟨node, hnode, hpushed⟩ := hqueue.push htail hfree data
      simp only [hnode, Option.map_some]
      exact ⟨_, rfl, ⟨⟨_, hpushed, hvalues⟩, hnonempty, hcount, hbytes, hlimit⟩, rfl⟩

theorem Holds.dequeue_nil (h : buffer.Holds []) :
    macLchBufferDequeue buffer = some (buffer, .error .invalidParam) := by
  obtain ⟨nodes, hqueue, hnodes⟩ := h.linked
  have hhead : buffer.head = none := hqueue.head_eq_none_iff.mpr (List.map_eq_nil_iff.mp hnodes)
  rw [macLchBufferDequeue, hhead]

theorem Holds.dequeue_cons (h : buffer.Holds (data :: queue)) :
    ∃ buffer', macLchBufferDequeue buffer = some (buffer', .ok data)
      ∧ buffer'.Holds queue ∧ buffer'.maxBytes = buffer.maxBytes
      ∧ buffer'.totalBytes = buffer.totalBytes - data.length.setWidth 32 := by
  obtain ⟨nodes, hqueue, hnodes⟩ := h.linked
  cases hhead : buffer.head with
  | none =>
      rw [hqueue.head_eq_none_iff.mp hhead] at hnodes
      cases hnodes
  | some first =>
      obtain ⟨node, rest, hnode, rfl, hpopped⟩ := hqueue.pop hhead
      obtain ⟨rfl, rfl⟩ := List.cons.inj hnodes
      obtain ⟨hpos, hnonempty⟩ := List.forall_mem_cons.mp h.nonempty
      have hmax := buffer.maxBytes.isLt
      have hfits := h.fits
      have htotal := h.totalBytes
      have hcount := h.entryCount
      have hlength := h.length_le
      rw [macLchBytes_cons] at hfits htotal hlength
      rw [List.length_cons] at hcount hlength
      dsimp only at hfits htotal hlength
      have hone : (1 : Word).toNat = 1 := rfl
      rw [macLchBufferDequeue, hhead]
      simp only [hnode, Option.map_some]
      refine ⟨_, rfl, ⟨⟨rest, hpopped, rfl⟩, hnonempty, ?_, ?_, ?_⟩, rfl, rfl⟩
      · rw [BitVec.toNat_sub, hcount, hone]
        omega
      · rw [BitVec.toNat_sub, BitVec.toNat_setWidth, toNat_length, htotal]
        omega
      · exact Nat.le_trans (Nat.le_add_left _ _) hfits

end MacLchBuffer

namespace MacLchBuffer

variable {buffer : MacLchBuffer} {queue : List MacLchData}

theorem Holds.peek (h : buffer.Holds queue) : macLchBufferPeek buffer = queue.head? := by
  obtain ⟨nodes, hqueue, rfl⟩ := h.linked
  have hlinked := hqueue.linked
  cases nodes with
  | nil =>
      have hhead : buffer.head = none := hlinked
      rw [macLchBufferPeek, hhead]
      rfl
  | cons node nodes =>
      obtain ⟨hhead, next, hnode, -⟩ := hlinked
      rw [macLchBufferPeek, hhead, Option.bind_some, hnode]
      rfl

theorem Holds.enqueue_exists (h : buffer.Holds queue) (data : MacLchData)
    (allocation : MacLchAllocation) :
    ∃ outcome, macLchBufferEnqueue buffer data allocation = some outcome
      ∧ ∃ queue', outcome.1.Holds queue' := by
  by_cases haccepts : buffer.Accepts data allocation
  · obtain ⟨buffer', henqueue, hholds, -⟩ := h.enqueue haccepts
    exact ⟨_, henqueue, _, hholds⟩
  · obtain ⟨e, henqueue⟩ := enqueue_of_not_accepts haccepts
    exact ⟨_, henqueue, queue, h⟩

theorem Holds.dequeue_exists (h : buffer.Holds queue) :
    ∃ outcome, macLchBufferDequeue buffer = some outcome ∧ ∃ queue', outcome.1.Holds queue' := by
  cases queue with
  | nil => exact ⟨_, h.dequeue_nil, [], h⟩
  | cons data queue =>
      obtain ⟨buffer', hdequeue, hholds, -⟩ := h.dequeue_cons
      exact ⟨_, hdequeue, queue, hholds⟩

end MacLchBuffer

/-- A buffer as the operations leave it. They do not get stuck on it. -/
structure SoundMacLchBuffer where
  buffer : MacLchBuffer
  holds : ∃ queue, buffer.Holds queue

namespace SoundMacLchBuffer

def init (maxBytes : Word) : SoundMacLchBuffer :=
  ⟨macLchBufferInit maxBytes, [], macLchBufferInit_holds maxBytes⟩

theorem enqueue_exists (sound : SoundMacLchBuffer) (data : MacLchData)
    (allocation : MacLchAllocation) :
    ∃ outcome, macLchBufferEnqueue sound.buffer data allocation = some outcome
      ∧ ∃ queue, outcome.1.Holds queue :=
  sound.holds.elim fun _ h => h.enqueue_exists data allocation

theorem dequeue_exists (sound : SoundMacLchBuffer) :
    ∃ outcome, macLchBufferDequeue sound.buffer = some outcome ∧ ∃ queue, outcome.1.Holds queue :=
  sound.holds.elim fun _ h => h.dequeue_exists

def enqueue (sound : SoundMacLchBuffer) (data : MacLchData) (allocation : MacLchAllocation) :
    SoundMacLchBuffer × Except UesimError Unit :=
  match h : macLchBufferEnqueue sound.buffer data allocation with
  | some (buffer, result) => (⟨buffer, by
      obtain ⟨outcome, houtcome, hholds⟩ := sound.enqueue_exists data allocation
      rw [h] at houtcome
      cases houtcome
      exact hholds⟩, result)
  | none => (sound, .error .memory)

def dequeue (sound : SoundMacLchBuffer) : SoundMacLchBuffer × Except UesimError MacLchData :=
  match h : macLchBufferDequeue sound.buffer with
  | some (buffer, result) => (⟨buffer, by
      obtain ⟨outcome, houtcome, hholds⟩ := sound.dequeue_exists
      rw [h] at houtcome
      cases houtcome
      exact hholds⟩, result)
  | none => (sound, .error .memory)

variable {sound : SoundMacLchBuffer} {data : MacLchData} {allocation : MacLchAllocation}

theorem enqueue_eq {buffer : MacLchBuffer} {result : Except UesimError Unit}
    (h : macLchBufferEnqueue sound.buffer data allocation = some (buffer, result)) :
    (sound.enqueue data allocation).1.buffer = buffer
      ∧ (sound.enqueue data allocation).2 = result := by
  rw [enqueue]
  split
  · rename_i heq
    rw [h] at heq
    cases heq
    exact ⟨rfl, rfl⟩
  · rename_i heq
    rw [h] at heq
    cases heq

theorem dequeue_eq {buffer : MacLchBuffer} {result : Except UesimError MacLchData}
    (h : macLchBufferDequeue sound.buffer = some (buffer, result)) :
    sound.dequeue.1.buffer = buffer ∧ sound.dequeue.2 = result := by
  rw [dequeue]
  split
  · rename_i heq
    rw [h] at heq
    cases heq
    exact ⟨rfl, rfl⟩
  · rename_i heq
    rw [h] at heq
    cases heq

theorem enqueue_cases (sound : SoundMacLchBuffer) (data : MacLchData)
    (allocation : MacLchAllocation) :
    ((sound.enqueue data allocation).2 = .ok ()
        ∧ (sound.enqueue data allocation).1.buffer.totalBytes.toNat
          = sound.buffer.totalBytes.toNat + data.bytes.length)
      ∨ ((∃ e, (sound.enqueue data allocation).2 = .error e)
        ∧ (sound.enqueue data allocation).1.buffer = sound.buffer) := by
  obtain ⟨queue, hholds⟩ := sound.holds
  by_cases haccepts : sound.buffer.Accepts data allocation
  · obtain ⟨buffer, henqueue, hadded, -⟩ := hholds.enqueue haccepts
    obtain ⟨hbuffer, hresult⟩ := enqueue_eq henqueue
    refine .inl ⟨hresult, ?_⟩
    rw [hbuffer, hadded.totalBytes, macLchBytes_append, hholds.totalBytes]
  · obtain ⟨e, henqueue⟩ := MacLchBuffer.enqueue_of_not_accepts haccepts
    obtain ⟨hbuffer, hresult⟩ := enqueue_eq henqueue
    exact .inr ⟨⟨e, hresult⟩, hbuffer⟩

theorem dequeue_cases (sound : SoundMacLchBuffer) :
    (∃ data, macLchBufferPeek sound.buffer = some data ∧ sound.dequeue.2 = .ok data
        ∧ sound.dequeue.1.buffer.totalBytes.toNat + data.bytes.length
          = sound.buffer.totalBytes.toNat)
      ∨ (macLchBufferPeek sound.buffer = none ∧ (∃ e, sound.dequeue.2 = .error e)
        ∧ sound.dequeue.1.buffer = sound.buffer) := by
  obtain ⟨queue, hholds⟩ := sound.holds
  cases queue with
  | nil =>
      obtain ⟨hbuffer, hresult⟩ := dequeue_eq hholds.dequeue_nil
      exact .inr ⟨hholds.peek, ⟨_, hresult⟩, hbuffer⟩
  | cons data queue =>
      obtain ⟨buffer, hdequeue, hrest, -⟩ := hholds.dequeue_cons
      obtain ⟨hbuffer, hresult⟩ := dequeue_eq hdequeue
      refine .inl ⟨data, hholds.peek, hresult, ?_⟩
      rw [hbuffer, hrest.totalBytes, hholds.totalBytes, macLchBytes_cons, Nat.add_comm]

end SoundMacLchBuffer

/-! ### Runs -/

inductive MacLchOp where
  | enqueue (data : MacLchData) (allocation : MacLchAllocation)
  | dequeue

/-- A buffer with all that it has accepted and all that it has given out. -/
structure MacLchHistory where
  buffer : MacLchBuffer
  accepted : List MacLchData
  delivered : List MacLchData

def macLchStart (maxBytes : Word) : MacLchHistory :=
  { buffer := macLchBufferInit maxBytes, accepted := [], delivered := [] }

def macLchStep (history : MacLchHistory) : MacLchOp → Option MacLchHistory
  | .enqueue data allocation =>
      (macLchBufferEnqueue history.buffer data allocation).map fun (buffer, result) =>
        match result with
        | .ok () => { history with buffer, accepted := history.accepted ++ [data] }
        | .error _ => { history with buffer }
  | .dequeue =>
      (macLchBufferDequeue history.buffer).map fun (buffer, result) =>
        match result with
        | .ok data => { history with buffer, delivered := history.delivered ++ [data] }
        | .error _ => { history with buffer }

def MacLchHistory.Waits (maxBytes : Word) (history : MacLchHistory) : Prop :=
  history.buffer.maxBytes = maxBytes
    ∧ ∃ queue, history.buffer.Holds queue ∧ history.accepted = history.delivered ++ queue

theorem macLchStep_waits {maxBytes : Word} (history : MacLchHistory) (op : MacLchOp)
    (h : history.Waits maxBytes) :
    ∃ history', macLchStep history op = some history' ∧ history'.Waits maxBytes := by
  obtain ⟨hmax, queue, hholds, haccepted⟩ := h
  cases op with
  | enqueue data allocation =>
      by_cases haccepts : history.buffer.Accepts data allocation
      · obtain ⟨buffer', henqueue, hholds', hmax'⟩ := hholds.enqueue haccepts
        rw [macLchStep, henqueue]
        refine ⟨_, rfl, hmax'.trans hmax, queue ++ [data], hholds', ?_⟩
        change history.accepted ++ [data] = history.delivered ++ (queue ++ [data])
        rw [haccepted, List.append_assoc]
      · obtain ⟨e, henqueue⟩ := MacLchBuffer.enqueue_of_not_accepts haccepts
        rw [macLchStep, henqueue]
        exact ⟨_, rfl, hmax, queue, hholds, haccepted⟩
  | dequeue =>
      cases queue with
      | nil =>
          rw [macLchStep, hholds.dequeue_nil]
          exact ⟨_, rfl, hmax, [], hholds, haccepted⟩
      | cons data queue =>
          obtain ⟨buffer', hdequeue, hholds', hmax', -⟩ := hholds.dequeue_cons
          rw [macLchStep, hdequeue]
          refine ⟨_, rfl, hmax'.trans hmax, queue, hholds', ?_⟩
          change history.accepted = history.delivered ++ [data] ++ queue
          rw [haccepted, List.append_assoc, List.singleton_append]

/-- What a caller can see of a buffer that holds this queue. -/
structure MacLchBuffer.Shows (buffer : MacLchBuffer) (queue : List MacLchData) : Prop where
  entryCount : buffer.entryCount.toNat = queue.length
  totalBytes : buffer.totalBytes.toNat = macLchBytes queue
  within : buffer.totalBytes ≤ buffer.maxBytes
  head : buffer.head = none ↔ queue = []
  tail : buffer.tail = none ↔ queue = []
  /-- The next one out is the first one. -/
  dequeues : ∃ buffer', macLchBufferDequeue buffer
    = some (buffer', queue.head?.elim (.error .invalidParam) .ok)
  /-- What is rejected changes nothing. -/
  rejects : ∀ data allocation buffer' e,
    macLchBufferEnqueue buffer data allocation = some (buffer', .error e) → buffer' = buffer

theorem MacLchBuffer.Holds.shows {buffer : MacLchBuffer} {queue : List MacLchData}
    (h : buffer.Holds queue) : buffer.Shows queue := by
  obtain ⟨nodes, hqueue, hnodes⟩ := h.linked
  have hnil : nodes = [] ↔ queue = [] := by
    rw [← hnodes, List.map_eq_nil_iff]
  refine ⟨h.entryCount, h.totalBytes, ?_, hqueue.head_eq_none_iff.trans hnil,
    hqueue.tail_eq_none_iff.trans hnil, ?_, ?_⟩
  · rw [BitVec.le_def, h.totalBytes]
    exact h.fits
  · cases queue with
    | nil => exact ⟨_, h.dequeue_nil⟩
    | cons data queue =>
        obtain ⟨buffer', hdequeue, -⟩ := h.dequeue_cons
        exact ⟨buffer', hdequeue⟩
  · intro data allocation buffer' e hrejected
    by_cases haccepts : buffer.Accepts data allocation
    · obtain ⟨added, henqueue, -⟩ := h.enqueue haccepts
      rw [henqueue] at hrejected
      cases hrejected
    · obtain ⟨e', henqueue⟩ := enqueue_of_not_accepts haccepts
      rw [henqueue] at hrejected
      cases hrejected
      rfl

/-- **In every run what comes out is what went in, in order, and the rest is in the buffer.** -/
theorem macLchBuffer_fifo (maxBytes : Word) (ops : List MacLchOp) :
    ∃ history queue, ops.foldlM macLchStep (macLchStart maxBytes) = some history
      ∧ history.accepted = history.delivered ++ queue ∧ history.buffer.maxBytes = maxBytes
      ∧ history.buffer.Shows queue := by
  have hstart : (macLchStart maxBytes).Waits maxBytes :=
    ⟨rfl, [], macLchBufferInit_holds maxBytes, rfl⟩
  obtain ⟨history, hrun, hmax, queue, hholds, haccepted⟩ :=
    Runs.exists_foldlM macLchStep_waits hstart ops
  exact ⟨history, queue, hrun, haccepted, hmax, hholds.shows⟩

end Uesim
