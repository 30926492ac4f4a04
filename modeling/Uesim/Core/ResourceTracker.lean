import Uesim.Types

/-!
# The resource tracker

A table of handles with four statistics beside it. Entries are put in behind the others and stay in the table;
only their state changes. What is tracked, untracked and released is logged.
-/

namespace Uesim

open Bytes

abbrev Handle := BitVec 64

def resourceTrackerMaxEntries : Nat := 4096

inductive ResourceType where
  | memory
  | socket
  | thread
  | mutex
  | cond
  | timer
  | context
  | buffer
  | file
  | max
  deriving DecidableEq, Repr

def ResourceType.HoldsMemory (type : ResourceType) : Prop := type = .memory ∨ type = .buffer

instance (type : ResourceType) : Decidable type.HoldsMemory :=
  inferInstanceAs (Decidable (_ ∨ _))

inductive ResourceState where
  | active
  | released
  | leaked
  deriving DecidableEq, Repr

structure ResourceEntry where
  type : ResourceType
  state : ResourceState
  handle : Handle
  ownerId : Word
  size : Word
  deriving DecidableEq, Repr

structure ResourceStats where
  totalAllocated : Word
  totalReleased : Word
  currentActive : Word
  memoryBytesAllocated : Word
  memoryBytesActive : Word
  socketsOpen : Word
  threadsRunning : Word
  leaksDetected : Word
  deriving DecidableEq, Repr

inductive ResourceError where
  | invalidParam
  | notFound
  | capacity
  | alreadyTracked
  | notInitialized
  deriving DecidableEq, Repr

/-- The calls that give a resource back. -/
inductive ReleaseCall where
  | free (handle : Handle)
  | sockClose (fd : Word)
  | mutexDestroy (handle : Handle)
  | condDestroy (handle : Handle)
  deriving DecidableEq, Repr

inductive ResourceEvent where
  | tracked (handle : Handle)
  | untracked (handle : Handle)
  | released (handle : Handle) (calls : List ReleaseCall)
  deriving DecidableEq, Repr

/-- `g_resources` up to `g_resource_count`, `g_stats`, `g_initialized`, and what has been done so far. -/
structure ResourceTracker where
  entries : List ResourceEntry
  length_le : entries.length ≤ resourceTrackerMaxEntries
  stats : ResourceStats
  initialized : Bool
  log : List ResourceEvent

/-- `if (n > 0) n--` -/
def decrement (n : Word) : Word := if 0 < n then n - 1 else n

namespace ResourceStats

def zero : ResourceStats := ⟨0, 0, 0, 0, 0, 0, 0, 0⟩

def track (stats : ResourceStats) (type : ResourceType) (size : Word) : ResourceStats :=
  { stats with
    totalAllocated := stats.totalAllocated + 1
    currentActive := stats.currentActive + 1
    memoryBytesAllocated :=
      if type.HoldsMemory then stats.memoryBytesAllocated + size else stats.memoryBytesAllocated
    memoryBytesActive := if type.HoldsMemory then stats.memoryBytesActive + size else stats.memoryBytesActive
    socketsOpen := if type = .socket then stats.socketsOpen + 1 else stats.socketsOpen
    threadsRunning := if type = .thread then stats.threadsRunning + 1 else stats.threadsRunning }

/-- What `resource_untrack` counts. -/
def untrack (stats : ResourceStats) (entry : ResourceEntry) : ResourceStats :=
  { stats with
    totalReleased := stats.totalReleased + 1
    currentActive := decrement stats.currentActive
    memoryBytesActive :=
      if entry.type.HoldsMemory then
        if entry.size ≤ stats.memoryBytesActive then stats.memoryBytesActive - entry.size
        else stats.memoryBytesActive
      else stats.memoryBytesActive
    socketsOpen := if entry.type = .socket then decrement stats.socketsOpen else stats.socketsOpen
    threadsRunning := if entry.type = .thread then decrement stats.threadsRunning else stats.threadsRunning }

/-- What `release_resource_internal` counts. -/
def release (stats : ResourceStats) (entry : ResourceEntry) : ResourceStats :=
  { stats with
    totalReleased := stats.totalReleased + 1
    currentActive := stats.currentActive - 1
    memoryBytesActive :=
      if entry.type.HoldsMemory then stats.memoryBytesActive - entry.size else stats.memoryBytesActive
    socketsOpen := if entry.type = .socket then decrement stats.socketsOpen else stats.socketsOpen
    threadsRunning := if entry.type = .thread then decrement stats.threadsRunning else stats.threadsRunning }

end ResourceStats

/-- The switch of `release_resource_internal`. -/
def releaseCalls (type : ResourceType) (handle : Handle) : List ReleaseCall :=
  match type with
  | .memory | .context | .buffer => if handle ≠ 0 then [.free handle] else []
  | .socket => if 0 ≤ handle.toInt then [.sockClose (handle.setWidth 32)] else []
  | .mutex => if handle ≠ 0 then [.mutexDestroy handle, .free handle] else []
  | .cond => if handle ≠ 0 then [.condDestroy handle, .free handle] else []
  | .thread | .timer | .file | .max => []

def ResourceEntry.IsActive (entry : ResourceEntry) : Bool := entry.state = .active

def ResourceEntry.setState (entry : ResourceEntry) (state : ResourceState) : ResourceEntry :=
  { entry with state }

namespace ResourceTracker

def findResourceIndex (tracker : ResourceTracker) (handle : Handle) : Option (Fin tracker.entries.length) :=
  tracker.entries.findFinIdx? fun entry => entry.handle = handle && entry.IsActive

def setState (tracker : ResourceTracker) (i : Nat) (state : ResourceState) : ResourceTracker :=
  { tracker with
    entries := tracker.entries.modify i (·.setState state)
    length_le := by
      rw [List.length_modify]
      exact tracker.length_le }

def releaseResourceInternal (tracker : ResourceTracker) (i : Fin tracker.entries.length) : ResourceTracker :=
  let entry := tracker.entries.get i
  if entry.IsActive then
    { tracker.setState i .released with
      stats := tracker.stats.release entry
      log := tracker.log ++ [.released entry.handle (releaseCalls entry.type entry.handle)] }
  else tracker

/-- The loop of the clean-up functions over the first entries, with the number of those released. -/
def cleanupWhere (selects : ResourceEntry → Bool) (tracker : ResourceTracker) : Nat → ResourceTracker × Word
  | 0 => (tracker, 0)
  | i + 1 =>
      let (done, cleaned) := cleanupWhere selects tracker i
      if h : i < done.entries.length then
        if selects (done.entries.get ⟨i, h⟩) && (done.entries.get ⟨i, h⟩).IsActive then
          (done.releaseResourceInternal ⟨i, h⟩, cleaned + 1)
        else (done, cleaned)
      else (done, cleaned)

end ResourceTracker

def resourceTrackerInit (tracker : ResourceTracker) : ResourceTracker :=
  if tracker.initialized then tracker
  else
    { entries := [], length_le := Nat.zero_le _, stats := .zero, initialized := true, log := tracker.log }

def resourceTrackerCleanup (tracker : ResourceTracker) : ResourceTracker :=
  if tracker.initialized then
    { (tracker.cleanupWhere (fun _ => true) tracker.entries.length).1 with
      entries := []
      length_le := Nat.zero_le _
      initialized := false }
  else tracker

def resourceTrack (tracker : ResourceTracker) (type : ResourceType) (handle : Handle) (ownerId size : Word) :
    Except ResourceError ResourceTracker :=
  if ¬tracker.initialized then .error .notInitialized
  else if handle = 0 ∧ type ≠ .mutex ∧ type ≠ .cond then .error .invalidParam
  else if (tracker.findResourceIndex handle).isSome then .error .alreadyTracked
  else if h : tracker.entries.length < resourceTrackerMaxEntries then
    .ok
      { tracker with
        entries := tracker.entries ++ [{ type, state := .active, handle, ownerId, size }]
        length_le := by
          rw [List.length_append]
          exact h
        stats := tracker.stats.track type size
        log := tracker.log ++ [.tracked handle] }
  else .error .capacity

def resourceUntrack (tracker : ResourceTracker) (handle : Handle) : Except ResourceError ResourceTracker :=
  if ¬tracker.initialized then .error .notInitialized
  else if handle = 0 then .error .invalidParam
  else
    match tracker.findResourceIndex handle with
    | none => .error .notFound
    | some i =>
        .ok
          { tracker.setState i .released with
            stats := tracker.stats.untrack (tracker.entries.get i)
            log := tracker.log ++ [.untracked handle] }

def resourceUpdateState (tracker : ResourceTracker) (handle : Handle) (state : ResourceState) :
    Except ResourceError ResourceTracker :=
  if ¬tracker.initialized then .error .notInitialized
  else if handle = 0 then .error .invalidParam
  else
    match tracker.findResourceIndex handle with
    | none => .error .notFound
    | some i => .ok (tracker.setState i state)

def resourceCleanupByOwner (tracker : ResourceTracker) (ownerId : Word) : ResourceTracker × Word :=
  if tracker.initialized then
    tracker.cleanupWhere (fun entry => entry.ownerId = ownerId) tracker.entries.length
  else (tracker, 0)

def resourceCleanupByType (tracker : ResourceTracker) (type : ResourceType) : ResourceTracker × Word :=
  if tracker.initialized then
    tracker.cleanupWhere (fun entry => entry.type = type) tracker.entries.length
  else (tracker, 0)

def resourceRelease (tracker : ResourceTracker) (handle : Handle) : Except ResourceError ResourceTracker :=
  if ¬tracker.initialized then .error .notInitialized
  else if handle = 0 then .error .invalidParam
  else
    match tracker.findResourceIndex handle with
    | none => .error .notFound
    | some i => .ok (tracker.releaseResourceInternal i)

def resourceCheckLeaks (tracker : ResourceTracker) : ResourceTracker × Word :=
  if tracker.initialized then
    let leaks := BitVec.ofNat 32 (tracker.entries.countP ResourceEntry.IsActive)
    ({ tracker with
        entries := tracker.entries.map fun entry => if entry.IsActive then entry.setState .leaked else entry
        length_le := by
          rw [List.length_map]
          exact tracker.length_le
        stats := { tracker.stats with leaksDetected := leaks } }, leaks)
  else (tracker, 0)

inductive ResourceOp where
  | track (type : ResourceType) (handle : Handle) (ownerId size : Word)
  | untrack (handle : Handle)
  | updateState (handle : Handle) (state : ResourceState)
  | cleanupByOwner (ownerId : Word)
  | cleanupByType (type : ResourceType)
  | release (handle : Handle)
  | checkLeaks
  deriving DecidableEq, Repr

/-- A failed call leaves the tracker as it is. -/
def ResourceTracker.orElse (tracker : ResourceTracker) :
    Except ResourceError ResourceTracker → ResourceTracker
  | .ok tracker' => tracker'
  | .error _ => tracker

def resourceStep (tracker : ResourceTracker) : ResourceOp → ResourceTracker
  | .track type handle ownerId size => tracker.orElse (resourceTrack tracker type handle ownerId size)
  | .untrack handle => tracker.orElse (resourceUntrack tracker handle)
  | .updateState handle state => tracker.orElse (resourceUpdateState tracker handle state)
  | .cleanupByOwner ownerId => (resourceCleanupByOwner tracker ownerId).1
  | .cleanupByType type => (resourceCleanupByType tracker type).1
  | .release handle => tracker.orElse (resourceRelease tracker handle)
  | .checkLeaks => (resourceCheckLeaks tracker).1

/-- After the first `resource_tracker_init`. -/
def ResourceTracker.fresh : ResourceTracker :=
  resourceTrackerInit
    { entries := [], length_le := Nat.zero_le _, stats := .zero, initialized := false, log := [] }

end Uesim
