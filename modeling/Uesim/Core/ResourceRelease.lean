import Uesim.Core.TrackedResources
import Uesim.Library.Leases

/-!
# What is tracked is released

A tracked handle is a lease: untracking passes it on, releasing returns it. Every operation moves the register
of active handles together with the log, except where it changes the state of an entry and nothing else.
-/

namespace Uesim

open Bytes Leases Relation

def ResourceEvent.lease : ResourceEvent → Handle × Kind
  | .tracked handle => (handle, .taken)
  | .untracked handle => (handle, .passed)
  | .released handle _ => (handle, .returned)

namespace ResourceTracker

def leases (tracker : ResourceTracker) : List (Handle × Kind) := tracker.log.map ResourceEvent.lease

def register (tracker : ResourceTracker) : Register Handle :=
  ⟨tracker.activeHandles.toFinset, tracker.leases⟩

/-- Only an active entry that changes its state from outside, or is found to be a leak, is lost. -/
def LosesNothing (tracker : ResourceTracker) : ResourceOp → Prop
  | .updateState handle state => handle = 0 ∨ handle ∉ tracker.activeHandles ∨ state = .active
  | .checkLeaks => tracker.activeHandles = []
  | .track _ _ _ _ | .untrack _ | .cleanupByOwner _ | .cleanupByType _ | .release _ => True

variable {tracker : ResourceTracker} {handle : Handle}

theorem Sound.activeHandles_setState (h : tracker.Sound) {i : Fin tracker.entries.length}
    (hactive : (tracker.entries.get i).IsActive = true) {state : ResourceState} (hstate : state ≠ .active) :
    (tracker.setState i state).activeHandles.toFinset
      = tracker.activeHandles.toFinset.erase (tracker.entries.get i).handle := by
  obtain ⟨front, back, hbefore, hafter⟩ := activeEntries_setState hactive hstate
  have hnodup := h.nodup
  unfold activeHandles at hnodup ⊢
  rw [hbefore, List.map_append, List.map_cons, List.nodup_middle, List.nodup_cons] at hnodup
  rw [hbefore, hafter, List.map_append, List.map_append, List.map_cons]
  ext other
  rw [Finset.mem_erase, List.mem_toFinset, List.mem_toFinset, List.mem_append, List.mem_append, List.mem_cons]
  rw [List.mem_append] at hnodup
  constructor
  · intro hmem
    exact ⟨fun heq => hnodup.1 (heq ▸ hmem), hmem.imp_right .inr⟩
  · rintro ⟨hne, hmem⟩
    exact hmem.imp_right fun hback => hback.resolve_left hne

theorem mem_activeHandles_of_isActive {i : Fin tracker.entries.length}
    (hactive : (tracker.entries.get i).IsActive = true) :
    (tracker.entries.get i).handle ∈ tracker.activeHandles.toFinset :=
  List.mem_toFinset.mpr (mem_activeHandles_iff.mpr ⟨_, List.getElem_mem i.isLt, hactive, rfl⟩)

theorem register_eq {tracker' : ResourceTracker} {active : Finset Handle} {event : ResourceEvent}
    (hactive : tracker'.activeHandles.toFinset = active) (hlog : tracker'.log = tracker.log ++ [event]) :
    tracker'.register = ⟨active, tracker.leases ++ [event.lease]⟩ := by
  rw [register, hactive, leases, hlog, List.map_append]
  rfl

theorem kept_give {tracker' : ResourceTracker} {event : ResourceEvent} {kind : Kind} (hkind : kind ≠ .taken)
    (hmem : handle ∈ tracker.activeHandles.toFinset)
    (hactive : tracker'.activeHandles.toFinset = tracker.activeHandles.toFinset.erase handle)
    (hlog : tracker'.log = tracker.log ++ [event]) (hlease : event.lease = (handle, kind)) :
    Kept tracker.register tracker'.register := by
  rw [register_eq hactive hlog, hlease]
  exact .give tracker.register handle kind hkind hmem

theorem kept_take {tracker' : ResourceTracker} (hfresh : handle ∉ tracker.activeHandles)
    (hactive : tracker'.activeHandles = tracker.activeHandles ++ [handle])
    (hlog : tracker'.log = tracker.log ++ [.tracked handle]) :
    Kept tracker.register tracker'.register := by
  have hinsert : tracker'.activeHandles.toFinset = insert handle tracker.activeHandles.toFinset := by
    rw [hactive, List.toFinset_append, Finset.union_comm]
    rfl
  rw [register_eq hinsert hlog]
  exact .take tracker.register handle fun hmem => hfresh (List.mem_toFinset.mp hmem)

theorem Sound.kept_releaseResourceInternal (h : tracker.Sound) {i : Fin tracker.entries.length}
    (hactive : (tracker.entries.get i).IsActive = true) :
    Kept tracker.register (tracker.releaseResourceInternal i).register := by
  have hset := h.activeHandles_setState hactive released_ne_active
  rw [releaseResourceInternal_eq hactive]
  exact kept_give Kind.noConfusion (mem_activeHandles_of_isActive hactive) hset rfl rfl

theorem Sound.kept_cleanupWhere (h : tracker.Sound) (selects : ResourceEntry → Bool) (count : Nat) :
    ReflTransGen Kept tracker.register (tracker.cleanupWhere selects count).1.register := by
  have hboth : (tracker.cleanupWhere selects count).1.Sound
      ∧ ReflTransGen Kept tracker.register (tracker.cleanupWhere selects count).1.register :=
    cleanupWhere_induction
      (P := fun done => done.Sound ∧ ReflTransGen Kept tracker.register done.register)
      (fun _ _ hdone hactive => ⟨hdone.1.releaseResourceInternal hactive,
        hdone.2.tail (hdone.1.kept_releaseResourceInternal hactive)⟩)
      ⟨h, .refl⟩ selects count
  exact hboth.2

theorem Sound.kept_track (h : tracker.Sound) (type : ResourceType) (handle : Handle) (ownerId size : Word) :
    ReflTransGen Kept tracker.register (resourceStep tracker (.track type handle ownerId size)).register := by
  rw [resourceStep, resourceTrack, if_neg (not_not.mpr h.initialized)]
  split
  · exact .refl
  · split
    · exact .refl
    · rename_i hfound
      rw [findResourceIndex_isSome_iff] at hfound
      split
      · refine .single (kept_take hfound ?_ rfl)
        change ((tracker.entries ++ [_]).filter ResourceEntry.IsActive).map _ = _
        rw [filter_append_active tracker.entries rfl, List.map_append]
        rfl
      · exact .refl

theorem Sound.kept_untrack (h : tracker.Sound) (handle : Handle) :
    ReflTransGen Kept tracker.register (resourceStep tracker (.untrack handle)).register := by
  rw [resourceStep, resourceUntrack, if_neg (not_not.mpr h.initialized)]
  split
  · exact .refl
  · split
    · exact .refl
    · rename_i i hfound
      obtain ⟨hhandle, hactive⟩ := of_findResourceIndex hfound
      have hset := h.activeHandles_setState hactive released_ne_active
      have hmem := mem_activeHandles_of_isActive hactive
      rw [hhandle] at hset hmem
      exact .single (kept_give Kind.noConfusion hmem hset rfl rfl)

theorem Sound.kept_release (h : tracker.Sound) (handle : Handle) :
    ReflTransGen Kept tracker.register (resourceStep tracker (.release handle)).register := by
  rw [resourceStep, resourceRelease, if_neg (not_not.mpr h.initialized)]
  split
  · exact .refl
  · split
    · exact .refl
    · rename_i hfound
      exact .single (h.kept_releaseResourceInternal (of_findResourceIndex hfound).2)

/-- What changes the state of an entry and nothing else. -/
theorem register_updateState (h : tracker.Sound) (handle : Handle) (state : ResourceState) :
    (resourceStep tracker (.updateState handle state)).register.log = tracker.register.log
      ∧ (resourceStep tracker (.updateState handle state)).register.active
        = if handle = 0 ∨ state = .active then tracker.register.active
          else tracker.register.active.erase handle := by
  rw [resourceStep, resourceUpdateState, if_neg (not_not.mpr h.initialized)]
  split
  · rename_i hnull
    rw [if_pos (.inl hnull)]
    exact ⟨rfl, rfl⟩
  · rename_i hnull
    split
    · rename_i hfound
      rw [findResourceIndex_eq_none_iff] at hfound
      refine ⟨rfl, ?_⟩
      split
      · rfl
      · exact (Finset.erase_eq_of_notMem fun hmem => hfound (List.mem_toFinset.mp hmem)).symm
    · rename_i i hfound
      obtain ⟨hhandle, hactive⟩ := of_findResourceIndex hfound
      refine ⟨rfl, ?_⟩
      by_cases hstate : state = .active
      · rw [if_pos (.inr hstate), hstate]
        exact congrArg (fun entries => (entries.map ResourceEntry.handle).toFinset)
          (activeEntries_setState_active hactive)
      · rw [if_neg (not_or.mpr ⟨hnull, hstate⟩)]
        have hset := h.activeHandles_setState hactive hstate
        rwa [hhandle] at hset

theorem register_checkLeaks (h : tracker.initialized = true) :
    (resourceStep tracker .checkLeaks).register.log = tracker.register.log
      ∧ (resourceStep tracker .checkLeaks).register.active = ∅ := by
  constructor
  · rw [resourceStep, resourceCheckLeaks, if_pos h]
    rfl
  · change ((resourceCheckLeaks tracker).1.activeEntries.map _).toFinset = ∅
    rw [activeEntries_checkLeaks tracker h]
    rfl

namespace Sound

/-- An operation keeps the register and the log together, or only takes handles out of the register. -/
theorem kept_or_subset (h : tracker.Sound) (op : ResourceOp) :
    (tracker.LosesNothing op ∧ ReflTransGen Kept tracker.register (resourceStep tracker op).register)
      ∨ (resourceStep tracker op).register.log = tracker.register.log
        ∧ (resourceStep tracker op).register.active ⊆ tracker.register.active
        ∧ (tracker.LosesNothing op
          ↔ tracker.register.active ⊆ (resourceStep tracker op).register.active) := by
  cases op with
  | track type handle ownerId size => exact .inl ⟨trivial, h.kept_track type handle ownerId size⟩
  | untrack handle => exact .inl ⟨trivial, h.kept_untrack handle⟩
  | updateState handle state =>
      obtain ⟨hlog, hactive⟩ := register_updateState h handle state
      refine .inr ⟨hlog, ?_⟩
      rw [hactive]
      split
      · rename_i hsame
        exact ⟨Finset.Subset.refl _, iff_of_true (hsame.imp_right .inr) (Finset.Subset.refl _)⟩
      · rename_i hchange
        obtain ⟨hnull, hstate⟩ := not_or.mp hchange
        refine ⟨Finset.erase_subset _ _, ?_⟩
        change handle = 0 ∨ handle ∉ tracker.activeHandles ∨ state = .active ↔ _
        rw [or_iff_right hnull, or_iff_left hstate]
        constructor
        · intro hmem
          have hsame : tracker.register.active.erase handle = tracker.register.active :=
            Finset.erase_eq_of_notMem fun hheld => hmem (List.mem_toFinset.mp hheld)
          rw [hsame]
        · intro hsubset hmem
          exact Finset.notMem_erase handle _ (hsubset (List.mem_toFinset.mpr hmem))
  | cleanupByOwner ownerId =>
      rw [resourceStep, resourceCleanupByOwner, if_pos h.initialized]
      exact .inl ⟨trivial, h.kept_cleanupWhere _ _⟩
  | cleanupByType type =>
      rw [resourceStep, resourceCleanupByType, if_pos h.initialized]
      exact .inl ⟨trivial, h.kept_cleanupWhere _ _⟩
  | release handle => exact .inl ⟨trivial, h.kept_release handle⟩
  | checkLeaks =>
      obtain ⟨hlog, hactive⟩ := register_checkLeaks h.initialized
      refine .inr ⟨hlog, ?_⟩
      rw [hactive]
      refine ⟨Finset.empty_subset _, ?_⟩
      change tracker.activeHandles = [] ↔ tracker.activeHandles.toFinset ⊆ ∅
      rw [Finset.subset_empty, List.toFinset_eq_empty_iff]

theorem balanced_step (h : tracker.Sound) (hbalanced : Balanced tracker.register) {op : ResourceOp}
    (hsafe : tracker.LosesNothing op) : Balanced (resourceStep tracker op).register := by
  rcases h.kept_or_subset op with ⟨-, hkept⟩ | ⟨hlog, hsubset, hiff⟩
  · exact hbalanced.of_reflTransGen hkept
  · have hactive := Finset.Subset.antisymm hsubset (hiff.mp hsafe)
    intro handle
    rw [hlog, hactive]
    exact hbalanced handle

theorem gone_step_of_balanced (h : tracker.Sound) (hbalanced : Balanced tracker.register) {op : ResourceOp}
    (hlosing : ¬tracker.LosesNothing op) : Gone (resourceStep tracker op).register := by
  rcases h.kept_or_subset op with ⟨hsafe, -⟩ | ⟨hlog, -, hiff⟩
  · exact absurd hsafe hlosing
  · rw [hiff, Finset.not_subset] at hlosing
    obtain ⟨handle, hheld, hlost⟩ := hlosing
    exact hbalanced.gone hheld hlost hlog

theorem gone_step (h : tracker.Sound) (hgone : Gone tracker.register) (op : ResourceOp) :
    Gone (resourceStep tracker op).register := by
  rcases h.kept_or_subset op with ⟨-, hkept⟩ | ⟨hlog, hsubset, -⟩
  · exact hgone.of_reflTransGen hkept
  · exact hgone.of_subset hsubset hlog

end Sound

theorem releaseResourceInternal_getElem? (i : Fin tracker.entries.length)
    (hactive : (tracker.entries.get i).IsActive = true) (j : Nat) :
    (tracker.releaseResourceInternal i).entries[j]?
      = if i.val = j then (tracker.entries[j]?).map (·.setState .released) else tracker.entries[j]? := by
  rw [releaseResourceInternal_eq hactive]
  change (tracker.entries.modify i _)[j]? = _
  rw [List.getElem?_modify]
  split
  · rfl
  · exact Option.map_id_apply

/-- The loop over all entries leaves none of them active. -/
theorem isActive_cleanupWhere (tracker : ResourceTracker) (count i : Nat) (hi : i < count)
    (entry : ResourceEntry)
    (hentry : (tracker.cleanupWhere (fun _ => true) count).1.entries[i]? = some entry) :
    entry.IsActive = false := by
  induction count generalizing entry with
  | zero => exact absurd hi (Nat.not_lt_zero i)
  | succ count ih =>
      rw [cleanupWhere] at hentry
      dsimp only at hentry
      split at hentry
      · rename_i hcount
        split at hentry
        · rename_i hactive
          rw [Bool.true_and] at hactive
          rw [releaseResourceInternal_getElem? ⟨count, hcount⟩ hactive] at hentry
          split at hentry
          · obtain ⟨old, -, rfl⟩ := Option.map_eq_some_iff.mp hentry
            rfl
          · rename_i hne
            exact ih (Nat.lt_of_le_of_ne (Nat.le_of_lt_succ hi) (Ne.symm hne)) entry hentry
        · rename_i hinactive
          rw [Bool.true_and, Bool.not_eq_true] at hinactive
          by_cases heq : i = count
          · subst heq
            rw [List.getElem?_eq_getElem hcount] at hentry
            rw [← Option.some.inj hentry]
            exact hinactive
          · exact ih (by omega) entry hentry
      · rename_i hcount
        have hlt := (List.getElem?_eq_some_iff.mp hentry).1
        exact ih (Nat.lt_of_lt_of_le hlt (Nat.le_of_not_lt hcount)) entry hentry

theorem length_cleanupWhere (tracker : ResourceTracker) (selects : ResourceEntry → Bool) (count : Nat) :
    (tracker.cleanupWhere selects count).1.entries.length = tracker.entries.length := by
  refine cleanupWhere_induction (P := fun done => done.entries.length = tracker.entries.length)
    (fun done i hdone hactive => ?_) rfl selects count
  rw [releaseResourceInternal_eq hactive]
  exact (List.length_modify ..).trans hdone

theorem activeHandles_cleanupWhere_all (tracker : ResourceTracker) :
    (tracker.cleanupWhere (fun _ => true) tracker.entries.length).1.activeHandles = [] := by
  rw [activeHandles, List.map_eq_nil_iff, activeEntries, List.filter_eq_nil_iff]
  intro entry hmem hactive
  obtain ⟨i, hi, hentry⟩ := List.mem_iff_getElem.mp hmem
  have hlt := hi
  rw [length_cleanupWhere] at hlt
  have hinactive := tracker.isActive_cleanupWhere tracker.entries.length i hlt entry
    (List.getElem?_eq_some_iff.mpr ⟨hi, hentry⟩)
  rw [hinactive] at hactive
  cases hactive

/-- All that has been tracked and not untracked has been released once, and nothing has been released twice
without having been tracked in between, when the clean-up is done. -/
def ReleasesOnce (tracker : ResourceTracker) : Prop :=
  ReturnedOnce (resourceTrackerCleanup tracker).leases
    ∧ NotReturnedTwice (resourceTrackerCleanup tracker).leases

theorem leases_resourceTrackerCleanup (h : tracker.initialized = true) :
    (resourceTrackerCleanup tracker).leases
      = (tracker.cleanupWhere (fun _ => true) tracker.entries.length).1.register.log := by
  rw [resourceTrackerCleanup, if_pos h]
  rfl

theorem Sound.releasesOnce (h : tracker.Sound) (hbalanced : Balanced tracker.register) :
    tracker.ReleasesOnce := by
  have hdone := hbalanced.of_reflTransGen (h.kept_cleanupWhere (fun _ => true) tracker.entries.length)
  rw [ReleasesOnce, leases_resourceTrackerCleanup h.initialized]
  refine ⟨hdone.returnedOnce ?_, hdone.notReturnedTwice⟩
  rw [register, activeHandles_cleanupWhere_all]
  rfl

theorem Sound.not_releasesOnce (h : tracker.Sound) (hgone : Gone tracker.register) :
    ¬tracker.ReleasesOnce := by
  rw [ReleasesOnce, leases_resourceTrackerCleanup h.initialized]
  intro honce
  exact (hgone.of_reflTransGen (h.kept_cleanupWhere _ _)).not_returnedOnce honce.1

theorem balanced_fresh : Balanced ResourceTracker.fresh.register := fun _ => rfl

end ResourceTracker

/-- **At the end of a run, all that has been tracked and not untracked is released once exactly when the run
loses nothing.** -/
theorem resourceRun_releasesOnce_iff (ops : List ResourceOp) :
    (ops.foldl resourceStep .fresh).ReleasesOnce
      ↔ Runs.Always resourceStep ResourceTracker.LosesNothing .fresh ops := by
  refine @Runs.final_iff _ _ resourceStep (fun tracker => tracker.Sound ∧ Balanced tracker.register)
    ResourceTracker.LosesNothing (fun tracker => tracker.Sound ∧ Gone tracker.register)
    ResourceTracker.ReleasesOnce ?_ ?_ ?_ ?_ ?_ _ ?_ ops
  · intro tracker op h hsafe
    exact ⟨h.1.step op, h.1.balanced_step h.2 hsafe⟩
  · intro tracker op h hlosing
    exact ⟨h.1.step op, h.1.gone_step_of_balanced h.2 hlosing⟩
  · intro tracker op h
    exact ⟨h.1.step op, h.1.gone_step h.2 op⟩
  · intro tracker h
    exact h.1.releasesOnce h.2
  · intro tracker h
    exact h.1.not_releasesOnce h.2
  · exact ⟨ResourceTracker.fresh_invariant.sound, ResourceTracker.balanced_fresh⟩

/-- A leak that has been found is not released by the clean-up. -/
theorem resourceRun_not_releasesOnce :
    ¬(([.track .memory 1 0 8, .checkLeaks] : List ResourceOp).foldl resourceStep .fresh).ReleasesOnce := by
  intro h
  have hcount := h.1 [] 1 [] rfl List.not_mem_nil
  exact absurd hcount (by decide)

end Uesim
