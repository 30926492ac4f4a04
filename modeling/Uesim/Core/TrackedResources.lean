import Uesim.Core.ResourceTracker
import Uesim.Library.Runs
import Mathlib.Algebra.BigOperators.Group.List.Basic

/-!
# The set of active handles

To its callers the tracker is a bounded set of handles, with statistics of what is in the set. It is the
table that is bounded, though, and a state can be changed without the statistics.
-/

namespace Uesim

open Bytes

def memoryBytes (active : List ResourceEntry) : Nat :=
  ((active.filter (·.type.HoldsMemory)).map (·.size.toNat)).sum

/-- The statistics of these entries, in 32 bits. -/
structure ResourceStats.Of (active : List ResourceEntry) (stats : ResourceStats) : Prop where
  currentActive : stats.currentActive = BitVec.ofNat 32 active.length
  memoryBytesActive : stats.memoryBytesActive = BitVec.ofNat 32 (memoryBytes active)
  socketsOpen : stats.socketsOpen = BitVec.ofNat 32 (active.countP (·.type = .socket))
  threadsRunning : stats.threadsRunning = BitVec.ofNat 32 (active.countP (·.type = .thread))

section Counters

variable {active front back : List ResourceEntry} {entry : ResourceEntry} {stats : ResourceStats} {n : Word}

theorem memoryBytes_append (front back : List ResourceEntry) :
    memoryBytes (front ++ back) = memoryBytes front + memoryBytes back := by
  rw [memoryBytes, List.filter_append, List.map_append, List.sum_append]
  rfl

theorem memoryBytes_cons (entry : ResourceEntry) (back : List ResourceEntry) :
    memoryBytes (entry :: back)
      = (if entry.type.HoldsMemory then entry.size.toNat else 0) + memoryBytes back := by
  rw [memoryBytes, List.filter_cons]
  split
  · rename_i hmemory
    rw [if_pos (of_decide_eq_true hmemory), List.map_cons, List.sum_cons]
    rfl
  · rename_i hmemory
    rw [if_neg fun h => hmemory (decide_eq_true h), Nat.zero_add]
    rfl

theorem decrement_ofNat_succ {k : Nat} (hk : k + 1 < 2 ^ 32) :
    decrement (BitVec.ofNat 32 (k + 1)) = BitVec.ofNat 32 k := by
  have hpos : (0 : Word) < BitVec.ofNat 32 (k + 1) := by
    rw [BitVec.lt_def, BitVec.toNat_ofNat, Nat.mod_eq_of_lt hk]
    exact Nat.succ_pos k
  rw [decrement, if_pos hpos, BitVec.ofNat_add]
  exact BitVec.add_sub_cancel _ _

section Count

variable (p : ResourceEntry → Prop) [DecidablePred p]

theorem count_track (h : n = BitVec.ofNat 32 (active.countP fun entry => p entry)) :
    (if p entry then n + 1 else n) = BitVec.ofNat 32 ((active ++ [entry]).countP fun entry => p entry) := by
  rw [h, List.countP_append, List.countP_singleton, BitVec.ofNat_add]
  by_cases hp : p entry
  · rw [if_pos hp, if_pos (decide_eq_true hp)]
    rfl
  · rw [if_neg hp, if_neg fun htrue => hp (of_decide_eq_true htrue)]
    exact (BitVec.add_zero _).symm

theorem count_untrack (h : n = BitVec.ofNat 32 ((front ++ entry :: back).countP fun entry => p entry))
    (hlength : (front ++ entry :: back).length < 2 ^ 32) :
    (if p entry then decrement n else n) = BitVec.ofNat 32 ((front ++ back).countP fun entry => p entry) := by
  have hlt : (front ++ entry :: back).countP (fun entry => p entry) < 2 ^ 32 :=
    Nat.lt_of_le_of_lt List.countP_le_length hlength
  rw [h, List.countP_append]
  rw [List.countP_append, List.countP_cons] at hlt ⊢
  by_cases hp : p entry
  · rw [if_pos (decide_eq_true hp), ← Nat.add_assoc] at hlt ⊢
    rw [if_pos hp]
    exact decrement_ofNat_succ hlt
  · rw [if_neg hp, if_neg fun htrue => hp (of_decide_eq_true htrue), Nat.add_zero]

end Count

namespace ResourceStats.Of

theorem nil : ResourceStats.zero.Of [] :=
  ⟨rfl, rfl, rfl, rfl⟩

theorem track (h : stats.Of active) : (stats.track entry.type entry.size).Of (active ++ [entry]) where
  currentActive := by
    change stats.currentActive + 1 = _
    rw [h.currentActive, List.length_append, BitVec.ofNat_add]
    rfl
  memoryBytesActive := by
    change (if entry.type.HoldsMemory then _ else _) = _
    rw [h.memoryBytesActive, memoryBytes_append, memoryBytes_cons, BitVec.ofNat_add]
    by_cases hmemory : entry.type.HoldsMemory
    · rw [if_pos hmemory, if_pos hmemory]
      change _ = _ + BitVec.ofNat 32 entry.size.toNat
      rw [BitVec.ofNat_toNat, BitVec.setWidth_eq]
    · rw [if_neg hmemory, if_neg hmemory]
      exact (BitVec.add_zero _).symm
  socketsOpen := count_track (·.type = .socket) h.socketsOpen
  threadsRunning := count_track (·.type = .thread) h.threadsRunning

theorem memoryBytes_remove (h : stats.Of (front ++ entry :: back)) :
    (if entry.type.HoldsMemory then stats.memoryBytesActive - entry.size else stats.memoryBytesActive)
      = BitVec.ofNat 32 (memoryBytes (front ++ back)) := by
  rw [h.memoryBytesActive, memoryBytes_append, memoryBytes_append, memoryBytes_cons]
  by_cases hmemory : entry.type.HoldsMemory
  · rw [if_pos hmemory, if_pos hmemory, Nat.add_left_comm, BitVec.ofNat_add, BitVec.ofNat_toNat,
      BitVec.setWidth_eq, BitVec.add_comm]
    exact BitVec.add_sub_cancel _ _
  · rw [if_neg hmemory, if_neg hmemory, Nat.zero_add]

theorem currentActive_eq_add_one (h : stats.Of (front ++ entry :: back)) :
    stats.currentActive = BitVec.ofNat 32 ((front ++ back).length + 1) := by
  rw [h.currentActive, List.length_append, List.length_append, List.length_cons, Nat.add_assoc]

theorem release (h : stats.Of (front ++ entry :: back))
    (hlength : (front ++ entry :: back).length < 2 ^ 32) : (stats.release entry).Of (front ++ back) where
  currentActive := by
    change stats.currentActive - 1 = _
    rw [h.currentActive_eq_add_one, BitVec.ofNat_add]
    exact BitVec.add_sub_cancel _ _
  memoryBytesActive := h.memoryBytes_remove
  socketsOpen := count_untrack (·.type = .socket) h.socketsOpen hlength
  threadsRunning := count_untrack (·.type = .thread) h.threadsRunning hlength

/-- `resource_untrack` leaves the size in the sum where the sum has passed 2^32 and is smaller. -/
theorem untrack_iff (h : stats.Of (front ++ entry :: back))
    (hlength : (front ++ entry :: back).length < 2 ^ 32) :
    (stats.untrack entry).Of (front ++ back)
      ↔ (entry.type.HoldsMemory → entry.size ≤ stats.memoryBytesActive) := by
  constructor
  · intro huntrack hmemory
    by_contra hlt
    have hbytes : (stats.untrack entry).memoryBytesActive = stats.memoryBytesActive := by
      change (if entry.type.HoldsMemory then _ else _) = _
      rw [if_pos hmemory, if_neg hlt]
    have hremove := h.memoryBytes_remove
    rw [if_pos hmemory, ← huntrack.memoryBytesActive, hbytes] at hremove
    rw [BitVec.le_def] at hlt
    bv_omega
  · intro hroom
    exact {
      currentActive := by
        change decrement stats.currentActive = _
        rw [h.currentActive_eq_add_one]
        refine decrement_ofNat_succ ?_
        rw [List.length_append] at hlength ⊢
        exact hlength
      memoryBytesActive := by
        rw [← h.memoryBytes_remove]
        change (if entry.type.HoldsMemory then _ else _) = _
        by_cases hmemory : entry.type.HoldsMemory
        · rw [if_pos hmemory, if_pos hmemory, if_pos (hroom hmemory)]
        · rw [if_neg hmemory, if_neg hmemory]
      socketsOpen := count_untrack (·.type = .socket) h.socketsOpen hlength
      threadsRunning := count_untrack (·.type = .thread) h.threadsRunning hlength }

/-- The same statistics are those of no other number of entries. -/
theorem length_eq {active' : List ResourceEntry} (h : stats.Of active) (h' : stats.Of active')
    (hlength : active.length < 2 ^ 32) (hlength' : active'.length < 2 ^ 32) :
    active.length = active'.length := by
  have heq := congrArg BitVec.toNat (h.currentActive.symm.trans h'.currentActive)
  rwa [BitVec.toNat_ofNat, BitVec.toNat_ofNat, Nat.mod_eq_of_lt hlength, Nat.mod_eq_of_lt hlength'] at heq

end ResourceStats.Of

end Counters

namespace ResourceTracker

def activeEntries (tracker : ResourceTracker) : List ResourceEntry :=
  tracker.entries.filter ResourceEntry.IsActive

def activeHandles (tracker : ResourceTracker) : List Handle :=
  tracker.activeEntries.map ResourceEntry.handle

/-- The active handles are a set. -/
structure Sound (tracker : ResourceTracker) : Prop where
  initialized : tracker.initialized = true
  nodup : tracker.activeHandles.Nodup

/-- The active handles are a set, and the statistics are theirs. -/
structure Consistent (tracker : ResourceTracker) : Prop where
  nodup : tracker.activeHandles.Nodup
  stats : tracker.stats.Of tracker.activeEntries

structure Invariant (tracker : ResourceTracker) : Prop where
  sound : tracker.Sound
  stats : tracker.stats.Of tracker.activeEntries

variable {tracker : ResourceTracker} {handle : Handle}

theorem activeEntries_length_lt (tracker : ResourceTracker) : tracker.activeEntries.length < 2 ^ 32 := by
  have hle : tracker.activeEntries.length ≤ resourceTrackerMaxEntries :=
    Nat.le_trans (List.length_filter_le ..) tracker.length_le
  exact Nat.lt_of_le_of_lt hle (by decide)

theorem activeHandles_length (tracker : ResourceTracker) :
    tracker.activeHandles.length = tracker.activeEntries.length :=
  List.length_map _

theorem mem_activeHandles_iff :
    handle ∈ tracker.activeHandles
      ↔ ∃ entry ∈ tracker.entries, entry.IsActive = true ∧ entry.handle = handle := by
  unfold activeHandles activeEntries
  rw [List.mem_map]
  constructor
  · rintro ⟨entry, hmem, heq⟩
    rw [List.mem_filter] at hmem
    exact ⟨entry, hmem.1, hmem.2, heq⟩
  · rintro ⟨entry, hmem, hactive, heq⟩
    exact ⟨entry, List.mem_filter.mpr ⟨hmem, hactive⟩, heq⟩

theorem findResourceIndex_eq_none_iff :
    tracker.findResourceIndex handle = none ↔ handle ∉ tracker.activeHandles := by
  unfold findResourceIndex
  rw [List.findFinIdx?_eq_none_iff, mem_activeHandles_iff]
  constructor
  · rintro h ⟨entry, hmem, hactive, heq⟩
    refine h entry hmem ?_
    rw [hactive, decide_eq_true heq]
    rfl
  · intro h entry hmem hfound
    rw [Bool.and_eq_true, decide_eq_true_eq] at hfound
    exact h ⟨entry, hmem, hfound.2, hfound.1⟩

theorem findResourceIndex_isSome_iff :
    (tracker.findResourceIndex handle).isSome ↔ handle ∈ tracker.activeHandles := by
  rw [← Option.ne_none_iff_isSome, ne_eq, findResourceIndex_eq_none_iff, not_not]

theorem of_findResourceIndex {i : Fin tracker.entries.length}
    (h : tracker.findResourceIndex handle = some i) :
    (tracker.entries.get i).handle = handle ∧ (tracker.entries.get i).IsActive = true := by
  have hfound := (List.findFinIdx?_eq_some_iff.mp h).1
  rwa [Bool.and_eq_true, decide_eq_true_eq] at hfound

theorem released_ne_active : ResourceState.released ≠ .active := ResourceState.noConfusion

theorem filter_append_active (entries : List ResourceEntry) {entry : ResourceEntry}
    (hactive : entry.IsActive = true) :
    (entries ++ [entry]).filter ResourceEntry.IsActive
      = entries.filter ResourceEntry.IsActive ++ [entry] := by
  rw [List.filter_append, List.filter_singleton, hactive]
  rfl

theorem entries_split (tracker : ResourceTracker) (i : Fin tracker.entries.length) :
    tracker.entries.take i ++ tracker.entries.get i :: tracker.entries.drop (i + 1) = tracker.entries := by
  rw [List.get_eq_getElem, ← List.drop_eq_getElem_cons i.isLt, List.take_append_drop]

theorem entries_setState (tracker : ResourceTracker) (i : Fin tracker.entries.length)
    (state : ResourceState) :
    (tracker.setState i state).entries
      = tracker.entries.take i ++ (tracker.entries.get i).setState state :: tracker.entries.drop (i + 1) :=
  List.modify_eq_take_cons_drop i.isLt

/-- An entry that is no longer active is taken out of the active ones, the others stay as they are. -/
theorem activeEntries_setState {i : Fin tracker.entries.length}
    (hactive : (tracker.entries.get i).IsActive = true) {state : ResourceState} (hstate : state ≠ .active) :
    ∃ front back, tracker.activeEntries = front ++ tracker.entries.get i :: back
      ∧ (tracker.setState i state).activeEntries = front ++ back := by
  refine ⟨(tracker.entries.take i).filter ResourceEntry.IsActive,
    (tracker.entries.drop (i + 1)).filter ResourceEntry.IsActive, ?_, ?_⟩
  · refine (congrArg (List.filter ResourceEntry.IsActive) (tracker.entries_split i).symm).trans ?_
    rw [List.filter_append, List.filter_cons, if_pos hactive]
  · have hinactive : ((tracker.entries.get i).setState state).IsActive = false := decide_eq_false hstate
    rw [activeEntries, entries_setState, List.filter_append, List.filter_cons, hinactive]
    rfl

theorem activeEntries_setState_active {i : Fin tracker.entries.length}
    (hactive : (tracker.entries.get i).IsActive = true) :
    (tracker.setState i .active).activeEntries = tracker.activeEntries := by
  have hsame : (tracker.entries.get i).setState .active = tracker.entries.get i := by
    have hstate : (tracker.entries.get i).state = .active := of_decide_eq_true hactive
    rw [ResourceEntry.setState, ← hstate]
  rw [activeEntries, entries_setState, hsame, entries_split]
  rfl

/-- The rule for the clean-up loops. -/
theorem cleanupWhere_induction {P : ResourceTracker → Prop}
    (hrelease : ∀ tracker (i : Fin tracker.entries.length), P tracker →
      (tracker.entries.get i).IsActive = true → P (tracker.releaseResourceInternal i))
    (h : P tracker) (selects : ResourceEntry → Bool) (count : Nat) :
    P (tracker.cleanupWhere selects count).1 := by
  induction count with
  | zero => exact h
  | succ i ih =>
      rw [cleanupWhere]
      dsimp only
      split
      · split
        · rename_i hselect
          rw [Bool.and_eq_true] at hselect
          exact hrelease _ _ ih hselect.2
        · exact ih
      · exact ih

theorem releaseResourceInternal_eq {i : Fin tracker.entries.length}
    (hactive : (tracker.entries.get i).IsActive = true) :
    tracker.releaseResourceInternal i = { tracker.setState i .released with
      stats := tracker.stats.release (tracker.entries.get i)
      log := tracker.log ++ [.released (tracker.entries.get i).handle
        (releaseCalls (tracker.entries.get i).type (tracker.entries.get i).handle)] } :=
  if_pos hactive

theorem activeEntries_checkLeaks (tracker : ResourceTracker) (h : tracker.initialized = true) :
    (resourceCheckLeaks tracker).1.activeEntries = [] := by
  rw [resourceCheckLeaks, if_pos h, activeEntries, List.filter_eq_nil_iff]
  intro entry hmem hactive
  obtain ⟨old, -, rfl⟩ := List.mem_map.mp hmem
  split at hactive
  · exact absurd hactive Bool.false_ne_true
  · contradiction

namespace Sound

theorem setState (h : tracker.Sound) {i : Fin tracker.entries.length}
    (hactive : (tracker.entries.get i).IsActive = true) (state : ResourceState) :
    (tracker.setState i state).Sound where
  initialized := h.initialized
  nodup := by
    have hnodup := h.nodup
    rw [activeHandles] at hnodup ⊢
    by_cases hstate : state = .active
    · rw [hstate, activeEntries_setState_active hactive]
      exact hnodup
    · obtain ⟨front, back, hbefore, hafter⟩ := activeEntries_setState hactive hstate
      rw [hbefore] at hnodup
      rw [hafter]
      refine hnodup.sublist (List.Sublist.map _ ?_)
      exact List.Sublist.append (List.Sublist.refl front) (List.sublist_cons_self _ back)

theorem releaseResourceInternal (h : tracker.Sound) {i : Fin tracker.entries.length}
    (hactive : (tracker.entries.get i).IsActive = true) : (tracker.releaseResourceInternal i).Sound := by
  have hset := h.setState hactive .released
  rw [releaseResourceInternal_eq hactive]
  exact ⟨hset.initialized, hset.nodup⟩

theorem cleanupWhere (h : tracker.Sound) (selects : ResourceEntry → Bool) (count : Nat) :
    (tracker.cleanupWhere selects count).1.Sound :=
  cleanupWhere_induction (fun _ _ hsound hactive => hsound.releaseResourceInternal hactive) h selects count

theorem track (h : tracker.Sound) (type : ResourceType) (handle : Handle) (ownerId size : Word) :
    (resourceStep tracker (.track type handle ownerId size)).Sound := by
  rw [resourceStep, resourceTrack, if_neg (not_not.mpr h.initialized)]
  split
  · exact h
  · split
    · exact h
    · rename_i hfound
      rw [findResourceIndex_isSome_iff] at hfound
      split
      · refine ⟨h.initialized, ?_⟩
        change (((tracker.entries ++ [_]).filter ResourceEntry.IsActive).map _).Nodup
        rw [filter_append_active tracker.entries rfl, List.map_append, List.nodup_append']
        exact ⟨h.nodup, List.nodup_singleton _, List.disjoint_singleton.mpr hfound⟩
      · exact h

theorem step (h : tracker.Sound) (op : ResourceOp) : (resourceStep tracker op).Sound := by
  cases op with
  | track type handle ownerId size => exact h.track type handle ownerId size
  | untrack handle =>
      rw [resourceStep, resourceUntrack, if_neg (not_not.mpr h.initialized)]
      split
      · exact h
      · split
        · exact h
        · rename_i hfound
          have hset := h.setState (of_findResourceIndex hfound).2 .released
          exact ⟨hset.initialized, hset.nodup⟩
  | updateState handle state =>
      rw [resourceStep, resourceUpdateState, if_neg (not_not.mpr h.initialized)]
      split
      · exact h
      · split
        · exact h
        · rename_i hfound
          exact h.setState (of_findResourceIndex hfound).2 state
  | cleanupByOwner ownerId =>
      rw [resourceStep, resourceCleanupByOwner, if_pos h.initialized]
      exact h.cleanupWhere _ _
  | cleanupByType type =>
      rw [resourceStep, resourceCleanupByType, if_pos h.initialized]
      exact h.cleanupWhere _ _
  | release handle =>
      rw [resourceStep, resourceRelease, if_neg (not_not.mpr h.initialized)]
      split
      · exact h
      · split
        · exact h
        · rename_i hfound
          exact h.releaseResourceInternal (of_findResourceIndex hfound).2
  | checkLeaks =>
      refine ⟨?_, ?_⟩
      · rw [resourceStep, resourceCheckLeaks, if_pos h.initialized]
        exact h.initialized
      · change ((resourceCheckLeaks tracker).1.activeEntries.map _).Nodup
        rw [activeEntries_checkLeaks tracker h.initialized]
        exact List.nodup_nil

/-- In a set of handles an entry is known by its handle. -/
theorem eq_of_handle_eq (h : tracker.Sound) {i : Fin tracker.entries.length}
    (hactive : (tracker.entries.get i).IsActive = true) {entry : ResourceEntry}
    (hmem : entry ∈ tracker.activeEntries) (heq : entry.handle = (tracker.entries.get i).handle) :
    entry = tracker.entries.get i :=
  List.inj_on_of_nodup_map h.nodup hmem (List.mem_filter.mpr ⟨List.getElem_mem i.isLt, hactive⟩) heq

end Sound

/-- `resource_track` takes NULL for mutexes and condition variables only. -/
def ValidHandle (type : ResourceType) (handle : Handle) : Prop :=
  handle ≠ 0 ∨ type = .mutex ∨ type = .cond

/-- `resource_track` answers as a set with room for so many handles does. -/
def AnswersAsSet (tracker : ResourceTracker) : ResourceOp → Prop
  | .track type handle ownerId size => ValidHandle type handle →
      ((resourceTrack tracker type handle ownerId size).isOk = true
        ↔ handle ∉ tracker.activeHandles ∧ tracker.activeHandles.length < resourceTrackerMaxEntries)
  | _ => True

/-- A handle that is new finds a free entry if there is one, an active size is not above the sum of all, no
state is changed from outside, and nothing is left to be found as a leak. -/
def CountsRight (tracker : ResourceTracker) : ResourceOp → Prop
  | .track type handle _ _ => ValidHandle type handle → handle ∉ tracker.activeHandles →
      tracker.entries.length < resourceTrackerMaxEntries
        ∨ tracker.activeHandles.length = resourceTrackerMaxEntries
  | .untrack handle => handle ≠ 0 → ∀ entry ∈ tracker.activeEntries, entry.handle = handle →
      entry.type.HoldsMemory → entry.size ≤ tracker.stats.memoryBytesActive
  | .updateState handle state => handle = 0 ∨ handle ∉ tracker.activeHandles ∨ state = .active
  | .checkLeaks => tracker.activeHandles = []
  | .cleanupByOwner _ | .cleanupByType _ | .release _ => True

theorem invalid_iff {type : ResourceType} :
    (handle = 0 ∧ type ≠ .mutex ∧ type ≠ .cond) ↔ ¬ValidHandle type handle := by
  rw [ValidHandle, not_or, not_or, ne_eq, not_not]

theorem resourceTrack_isOk_iff (h : tracker.initialized = true) {type : ResourceType} {ownerId size : Word}
    (hvalid : ValidHandle type handle) :
    (resourceTrack tracker type handle ownerId size).isOk = true
      ↔ handle ∉ tracker.activeHandles ∧ tracker.entries.length < resourceTrackerMaxEntries := by
  rw [resourceTrack, if_neg (not_not.mpr h), if_neg fun hinvalid => invalid_iff.mp hinvalid hvalid]
  split
  · rename_i hfound
    exact iff_of_false Bool.false_ne_true fun hfresh => hfresh.1 (findResourceIndex_isSome_iff.mp hfound)
  · rename_i hfound
    rw [findResourceIndex_isSome_iff] at hfound
    split
    · rename_i hroom
      exact iff_of_true rfl ⟨hfound, hroom⟩
    · rename_i hfull
      exact iff_of_false Bool.false_ne_true fun hfresh => hfull hfresh.2

theorem answersAsSet_track_iff (h : tracker.initialized = true) {type : ResourceType} {ownerId size : Word} :
    tracker.AnswersAsSet (.track type handle ownerId size)
      ↔ tracker.CountsRight (.track type handle ownerId size) := by
  refine forall_congr' fun hvalid => ?_
  rw [resourceTrack_isOk_iff h hvalid]
  have hactive : tracker.activeHandles.length ≤ tracker.entries.length := by
    rw [activeHandles_length]
    exact List.length_filter_le ..
  have hentries := tracker.length_le
  constructor
  · intro hiff hfresh
    by_cases hroom : tracker.entries.length < resourceTrackerMaxEntries
    · exact .inl hroom
    · refine .inr (Nat.le_antisymm (Nat.le_trans hactive hentries) (Nat.le_of_not_lt fun hlt => ?_))
      exact hroom (hiff.mpr ⟨hfresh, hlt⟩).2
  · rintro hcount
    refine and_congr_right fun hfresh => ⟨fun hroom => Nat.lt_of_le_of_lt hactive hroom, fun hroom => ?_⟩
    rcases hcount hfresh with hfree | hfull
    · exact hfree
    · exact absurd hfull (Nat.ne_of_lt hroom)

namespace Invariant

theorem consistent_step_iff (h : tracker.Invariant) (op : ResourceOp) :
    (resourceStep tracker op).Consistent
      ↔ (resourceStep tracker op).stats.Of (resourceStep tracker op).activeEntries :=
  ⟨fun hconsistent => hconsistent.stats, fun hstats => ⟨(h.sound.step op).nodup, hstats⟩⟩

theorem releaseResourceInternal (h : tracker.Invariant) {i : Fin tracker.entries.length}
    (hactive : (tracker.entries.get i).IsActive = true) : (tracker.releaseResourceInternal i).Invariant := by
  refine ⟨h.sound.releaseResourceInternal hactive, ?_⟩
  obtain ⟨front, back, hbefore, hafter⟩ := activeEntries_setState hactive released_ne_active
  have hlength := tracker.activeEntries_length_lt
  have hstats := h.stats
  rw [hbefore] at hlength hstats
  rw [releaseResourceInternal_eq hactive]
  change (tracker.stats.release (tracker.entries.get i)).Of (tracker.setState i .released).activeEntries
  rw [hafter]
  exact hstats.release hlength

theorem cleanupWhere (h : tracker.Invariant) (selects : ResourceEntry → Bool) (count : Nat) :
    (tracker.cleanupWhere selects count).1.Invariant :=
  cleanupWhere_induction (fun _ _ hinv hactive => hinv.releaseResourceInternal hactive) h selects count

theorem stats_track (h : tracker.Invariant) (type : ResourceType) (handle : Handle) (ownerId size : Word) :
    (resourceStep tracker (.track type handle ownerId size)).stats.Of
      (resourceStep tracker (.track type handle ownerId size)).activeEntries := by
  rw [resourceStep, resourceTrack, if_neg (not_not.mpr h.sound.initialized)]
  split
  · exact h.stats
  · split
    · exact h.stats
    · split
      · have hstats : (tracker.stats.track type size).Of (tracker.entries.filter ResourceEntry.IsActive
            ++ [⟨type, .active, handle, ownerId, size⟩]) := h.stats.track
        rw [← filter_append_active tracker.entries rfl] at hstats
        exact hstats
      · exact h.stats

theorem release (h : tracker.Invariant) (handle : Handle) :
    (resourceStep tracker (.release handle)).Invariant := by
  rw [resourceStep, resourceRelease, if_neg (not_not.mpr h.sound.initialized)]
  split
  · exact h
  · split
    · exact h
    · rename_i hfound
      exact h.releaseResourceInternal (of_findResourceIndex hfound).2

theorem stats_untrack_iff (h : tracker.Invariant) (handle : Handle) :
    (resourceStep tracker (.untrack handle)).stats.Of (resourceStep tracker (.untrack handle)).activeEntries
      ↔ tracker.CountsRight (.untrack handle) := by
  rw [resourceStep, resourceUntrack, if_neg (not_not.mpr h.sound.initialized)]
  split
  · rename_i hnull
    exact iff_of_true h.stats fun hne => absurd hnull hne
  · rename_i hnull
    split
    · rename_i hfound
      rw [findResourceIndex_eq_none_iff] at hfound
      refine iff_of_true h.stats fun _ entry hmem heq => ?_
      exact absurd (List.mem_map.mpr ⟨entry, hmem, heq⟩) hfound
    · rename_i i hfound
      obtain ⟨hhandle, hactive⟩ := of_findResourceIndex hfound
      obtain ⟨front, back, hbefore, hafter⟩ := activeEntries_setState hactive released_ne_active
      have hlength := tracker.activeEntries_length_lt
      have hstats := h.stats
      rw [hbefore] at hlength hstats
      have huntrack := hstats.untrack_iff hlength
      rw [← hafter] at huntrack
      refine huntrack.trans ⟨fun hroom _ entry hmem heq => ?_, fun hcount => ?_⟩
      · rw [h.sound.eq_of_handle_eq hactive hmem (heq.trans hhandle.symm)]
        exact hroom
      · exact hcount hnull _ (List.mem_filter.mpr ⟨List.getElem_mem i.isLt, hactive⟩) hhandle

theorem stats_updateState_iff (h : tracker.Invariant) (handle : Handle) (state : ResourceState) :
    (resourceStep tracker (.updateState handle state)).stats.Of
        (resourceStep tracker (.updateState handle state)).activeEntries
      ↔ tracker.CountsRight (.updateState handle state) := by
  rw [resourceStep, resourceUpdateState, if_neg (not_not.mpr h.sound.initialized)]
  split
  · rename_i hnull
    exact iff_of_true h.stats (.inl hnull)
  · rename_i hnull
    split
    · rename_i hfound
      exact iff_of_true h.stats (.inr (.inl (findResourceIndex_eq_none_iff.mp hfound)))
    · rename_i i hfound
      have hactive := (of_findResourceIndex hfound).2
      have hmem : handle ∈ tracker.activeHandles :=
        findResourceIndex_isSome_iff.mp (by rw [hfound]; rfl)
      change tracker.stats.Of (tracker.setState i state).activeEntries ↔ _
      by_cases hstate : state = .active
      · refine iff_of_true ?_ (.inr (.inr hstate))
        rw [hstate, activeEntries_setState_active hactive]
        exact h.stats
      · obtain ⟨front, back, hbefore, hafter⟩ := activeEntries_setState hactive hstate
        refine iff_of_false (fun hstats => ?_) ?_
        · have hlength := h.stats.length_eq hstats (activeEntries_length_lt _) (activeEntries_length_lt _)
          rw [hbefore, hafter, List.length_append, List.length_append, List.length_cons] at hlength
          omega
        · rintro (heq | hfresh | hactivated)
          · exact hnull heq
          · exact hfresh hmem
          · exact hstate hactivated

theorem stats_checkLeaks_iff (h : tracker.Invariant) :
    (resourceStep tracker .checkLeaks).stats.Of (resourceStep tracker .checkLeaks).activeEntries
      ↔ tracker.CountsRight .checkLeaks := by
  have hof : (resourceCheckLeaks tracker).1.stats.Of [] ↔ tracker.stats.Of [] := by
    rw [resourceCheckLeaks, if_pos h.sound.initialized]
    exact ⟨fun hof => ⟨hof.1, hof.2, hof.3, hof.4⟩, fun hof => ⟨hof.1, hof.2, hof.3, hof.4⟩⟩
  change (resourceCheckLeaks tracker).1.stats.Of (resourceCheckLeaks tracker).1.activeEntries
    ↔ tracker.activeEntries.map _ = []
  rw [activeEntries_checkLeaks tracker h.sound.initialized, hof, List.map_eq_nil_iff]
  constructor
  · intro hnil
    exact List.length_eq_zero_iff.mp (h.stats.length_eq hnil (activeEntries_length_lt _) (by decide))
  · intro hnone
    rw [← hnone]
    exact h.stats

/-- **The step lemma.** An operation leaves everything right exactly when it counts right. -/
theorem good_iff (h : tracker.Invariant) (op : ResourceOp) :
    tracker.AnswersAsSet op ∧ (resourceStep tracker op).Consistent ↔ tracker.CountsRight op := by
  rw [h.consistent_step_iff]
  cases op with
  | track type handle ownerId size =>
      exact (and_iff_left (h.stats_track type handle ownerId size)).trans
        (answersAsSet_track_iff h.sound.initialized)
  | untrack handle => exact (and_iff_right trivial).trans (h.stats_untrack_iff handle)
  | updateState handle state => exact (and_iff_right trivial).trans (h.stats_updateState_iff handle state)
  | cleanupByOwner ownerId =>
      refine iff_of_true ⟨trivial, ?_⟩ trivial
      rw [resourceStep, resourceCleanupByOwner, if_pos h.sound.initialized]
      exact (h.cleanupWhere _ _).stats
  | cleanupByType type =>
      refine iff_of_true ⟨trivial, ?_⟩ trivial
      rw [resourceStep, resourceCleanupByType, if_pos h.sound.initialized]
      exact (h.cleanupWhere _ _).stats
  | release handle => exact iff_of_true ⟨trivial, (h.release handle).stats⟩ trivial
  | checkLeaks => exact (and_iff_right trivial).trans h.stats_checkLeaks_iff

theorem step (h : tracker.Invariant) (op : ResourceOp) (hsafe : tracker.CountsRight op) :
    (resourceStep tracker op).Invariant :=
  ⟨h.sound.step op, ((h.good_iff op).mpr hsafe).2.stats⟩

end Invariant

theorem fresh_invariant : ResourceTracker.fresh.Invariant :=
  ⟨⟨rfl, List.nodup_nil⟩, ResourceStats.Of.nil⟩

end ResourceTracker

/-- **In a run from `resource_tracker_init`, every `resource_track` answers as a set of 4096 handles does and
the statistics are right in every state, exactly when every operation counts right.** -/
theorem resourceRun_consistent_iff (ops : List ResourceOp) :
    Runs.Throughout resourceStep ResourceTracker.Consistent .fresh ops
        ∧ Runs.Always resourceStep ResourceTracker.AnswersAsSet .fresh ops
      ↔ Runs.Always resourceStep ResourceTracker.CountsRight .fresh ops := by
  have hfresh := ResourceTracker.fresh_invariant
  rw [Runs.throughout_iff_always, and_assoc, and_comm (a := Runs.Always _ _ _ _), ← Runs.always_and]
  refine (and_iff_right ⟨hfresh.sound.nodup, hfresh.stats⟩).trans ?_
  exact @Runs.always_iff _ _ resourceStep ResourceTracker.Invariant ResourceTracker.CountsRight _
    (fun _ op h => h.good_iff op) (fun _ op h hsafe => h.step op hsafe) _ hfresh ops

/-- What has been found to be a leak is not active any more, but is counted. -/
theorem resourceRun_not_consistent :
    ¬Runs.Throughout resourceStep ResourceTracker.Consistent .fresh
      [.track .memory 1 0 8, .checkLeaks] := by
  intro h
  have hcount := h.2.2.stats.currentActive
  exact absurd hcount (by decide)

end Uesim
