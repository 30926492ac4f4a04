import Uesim.Types
import Uesim.Library.CountedArray
import Uesim.Library.Runs

/-!
# The QoS flow manager

A new flow takes the number of flows, plus one, as its QFI, whichever flows were released before, and a
release does not look at the default flow. So the QFIs of a manager stay distinct as long as that number is
free, and the default flow stays there as long as nobody releases it.
-/

namespace Uesim

open Bytes

def qosMaxFlowsPerSession : Nat := 8

inductive QosFlowState where
  | inactive
  | active
  | suspended
  deriving DecidableEq, Repr

structure Arp where
  priorityLevel : Byte
  preEmptionCapability : Bool
  preEmptionVulnerability : Bool
  deriving DecidableEq

structure BitRate where
  uplink : BitVec 64
  downlink : BitVec 64
  deriving DecidableEq

structure QosFlow where
  qfi : Byte
  fiveQi : Byte
  state : QosFlowState
  arp : Arp
  gbr : BitRate
  mbr : BitRate
  deriving DecidableEq

def QosFlow.zero : QosFlow where
  qfi := 0
  fiveQi := 0
  state := .inactive
  arp := ⟨0, false, false⟩
  gbr := ⟨0, 0⟩
  mbr := ⟨0, 0⟩

structure QosFlowManager where
  flows : CountedArray QosFlow qosMaxFlowsPerSession
  defaultQfi : Byte
  deriving DecidableEq

def qosFlowCreateManager : QosFlowManager where
  flows := .empty qosMaxFlowsPerSession .zero
  defaultQfi := 0

/-- Rates and priority that are not given stay zero, but for the priority level. -/
def qosFlowCreate (manager : QosFlowManager) (fiveQi : Byte) (arp : Option Arp)
    (gbr mbr : Option BitRate) : QosFlowManager × Except UesimError QosFlow :=
  let flow : QosFlow := { QosFlow.zero with
    qfi := BitVec.ofNat 8 (manager.flows.count + 1)
    fiveQi := fiveQi
    arp := arp.getD { QosFlow.zero.arp with priorityLevel := 8 }
    gbr := gbr.getD QosFlow.zero.gbr
    mbr := mbr.getD QosFlow.zero.mbr }
  match manager.flows.push flow with
  | none => (manager, .error .capacity)
  | some flows =>
      ({ flows := flows
         defaultQfi := if manager.defaultQfi = 0 then flow.qfi else manager.defaultQfi }, .ok flow)

def qosFlowRelease (manager : QosFlowManager) (qfi : Byte) : QosFlowManager × Except UesimError Unit :=
  match CountedArray.removeKey QosFlow.qfi manager.flows qfi with
  | none => (manager, .error .notFound)
  | some flows => ({ manager with flows := flows }, .ok ())

def qosFlowFindByQfi (manager : QosFlowManager) (qfi : Byte) : Option QosFlow :=
  CountedArray.get QosFlow.qfi manager.flows.toList qfi

def qosFlowFindDefault (manager : QosFlowManager) : Option QosFlow :=
  qosFlowFindByQfi manager manager.defaultQfi

def qosFlowActivate (manager : QosFlowManager) (qfi : Byte) : QosFlowManager × Except UesimError Unit :=
  match qosFlowFindByQfi manager qfi with
  | none => (manager, .error .notFound)
  | some flow =>
      match CountedArray.replaceKey QosFlow.qfi manager.flows { flow with state := .active } with
      | none => (manager, .error .notFound)
      | some flows => ({ manager with flows := flows }, .ok ())

/-! ### One call -/

inductive QosFlowCall where
  | create (fiveQi : Byte) (arp : Option Arp) (gbr mbr : Option BitRate)
  | release (qfi : Byte)

def qosFlowCall (manager : QosFlowManager) : QosFlowCall → QosFlowManager
  | .create fiveQi arp gbr mbr => (qosFlowCreate manager fiveQi arp gbr mbr).1
  | .release qfi => (qosFlowRelease manager qfi).1

namespace QosFlowManager

variable {manager : QosFlowManager} {qfi : Byte}

def qfis (manager : QosFlowManager) : List Byte := manager.flows.toList.map QosFlow.qfi

/-- The QFIs are distinct and not zero, there are not too many flows, and the default flow is one of
them. -/
structure Sound (manager : QosFlowManager) : Prop where
  distinct : manager.qfis.Nodup
  nonzero : ∀ qfi ∈ manager.qfis, qfi ≠ 0
  bounded : manager.flows.count ≤ qosMaxFlowsPerSession
  default_found : manager.defaultQfi ≠ 0 → manager.defaultQfi ∈ manager.qfis

/-- After a call the manager is sound, and a flow that was released is not found. -/
def KeepsFlows (manager : QosFlowManager) (call : QosFlowCall) : Prop :=
  (qosFlowCall manager call).Sound
    ∧ ∀ qfi, call = .release qfi → (qosFlowRelease manager qfi).2 = .ok () →
      qosFlowFindByQfi (qosFlowCall manager call) qfi = none

/-- The QFI that a creation takes is free, and what is released is not the default flow. -/
def FreeQfi (manager : QosFlowManager) : QosFlowCall → Prop
  | .create .. => manager.flows.count < qosMaxFlowsPerSession →
      BitVec.ofNat 8 (manager.flows.count + 1) ∉ manager.qfis
  | .release qfi => qfi ≠ 0 → qfi ≠ manager.defaultQfi

/-- A creation finds no room, or puts a flow with the next number behind the others. -/
theorem qosFlowCreate_cases (manager : QosFlowManager) (fiveQi : Byte) (arp : Option Arp)
    (gbr mbr : Option BitRate) :
    (manager.flows.count = qosMaxFlowsPerSession
        ∧ (qosFlowCreate manager fiveQi arp gbr mbr).1 = manager)
      ∨ manager.flows.count < qosMaxFlowsPerSession
        ∧ (qosFlowCreate manager fiveQi arp gbr mbr).1.qfis
          = manager.qfis ++ [BitVec.ofNat 8 (manager.flows.count + 1)]
        ∧ (qosFlowCreate manager fiveQi arp gbr mbr).1.defaultQfi
          = if manager.defaultQfi = 0 then BitVec.ofNat 8 (manager.flows.count + 1)
            else manager.defaultQfi := by
  unfold qosFlowCreate
  dsimp only
  split
  · rename_i hfull
    exact .inl ⟨CountedArray.push_eq_none_iff.mp hfull, rfl⟩
  · rename_i flows hpush
    have hroom : manager.flows.count ≠ qosMaxFlowsPerSession := by
      intro hfull
      rw [CountedArray.push_eq_none_iff.mpr hfull] at hpush
      cases hpush
    refine .inr ⟨Nat.lt_of_le_of_ne manager.flows.count_le hroom, ?_, rfl⟩
    rw [qfis, CountedArray.toList_push hpush, List.map_append]
    rfl

theorem ofNat_count_ne_zero (h : manager.flows.count < qosMaxFlowsPerSession) :
    BitVec.ofNat 8 (manager.flows.count + 1) ≠ 0 := by
  have hlt : manager.flows.count < 8 := h
  intro hzero
  have hnat := congrArg BitVec.toNat hzero
  rw [BitVec.toNat_ofNat, Nat.mod_eq_of_lt (by omega)] at hnat
  cases hnat

theorem Sound.create_iff (h : manager.Sound) (fiveQi : Byte) (arp : Option Arp)
    (gbr mbr : Option BitRate) : (qosFlowCreate manager fiveQi arp gbr mbr).1.Sound
      ↔ manager.FreeQfi (.create fiveQi arp gbr mbr) := by
  rcases qosFlowCreate_cases manager fiveQi arp gbr mbr with ⟨hfull, hsame⟩ | ⟨hroom, hqfis, hdefault⟩
  · rw [hsame]
    exact iff_of_true h fun hlt => absurd hlt (by omega)
  · constructor
    · intro hsound _ hmem
      have hdistinct := hsound.distinct
      rw [hqfis, List.nodup_append'] at hdistinct
      exact hdistinct.2.2 hmem (List.mem_singleton_self _)
    · intro hfree
      refine ⟨?_, ?_, CountedArray.count_le _, ?_⟩
      · rw [hqfis, List.nodup_append']
        exact ⟨h.distinct, List.nodup_singleton _, List.disjoint_singleton.mpr (hfree hroom)⟩
      · intro qfi hmem
        rw [hqfis, List.mem_append, List.mem_singleton] at hmem
        rcases hmem with hmem | rfl
        · exact h.nonzero qfi hmem
        · exact ofNat_count_ne_zero hroom
      · intro _
        rw [hdefault, hqfis, List.mem_append, List.mem_singleton]
        split
        · exact .inr rfl
        · rename_i hset
          exact .inl (h.default_found hset)

theorem Sound.release_cases (h : manager.Sound) (qfi : Byte) :
    (qfi ∉ manager.qfis ∧ qosFlowRelease manager qfi = (manager, .error .notFound))
      ∨ qfi ∈ manager.qfis ∧ (qosFlowRelease manager qfi).1.defaultQfi = manager.defaultQfi
        ∧ (qosFlowRelease manager qfi).1.qfis.Nodup
        ∧ (∀ q, q ∈ (qosFlowRelease manager qfi).1.qfis ↔ q ∈ manager.qfis ∧ q ≠ qfi) := by
  unfold qosFlowRelease
  split
  · rename_i habsent
    exact .inl ⟨CountedArray.removeKey_eq_none_iff.mp habsent, rfl⟩
  · rename_i flows hremove
    have hpresent : qfi ∈ manager.qfis := by
      by_contra habsent
      rw [CountedArray.removeKey_eq_none_iff.mpr habsent] at hremove
      cases hremove
    have hget := CountedArray.get_removeKey hremove h.distinct
    refine .inr ⟨hpresent, rfl, CountedArray.distinct_removeKey hremove h.distinct, fun q => ?_⟩
    have hq := congrFun hget q
    rw [← not_iff_not, qfis, ← CountedArray.get_eq_none_iff, hq, not_and_or, not_not]
    by_cases heq : q = qfi
    · rw [heq, Function.update_self]
      exact iff_of_true rfl (.inr rfl)
    · rw [Function.update_of_ne heq, CountedArray.get_eq_none_iff]
      exact (or_iff_left heq).symm

theorem Sound.release_iff (h : manager.Sound) (qfi : Byte) :
    (qosFlowRelease manager qfi).1.Sound ↔ manager.FreeQfi (.release qfi) := by
  rcases h.release_cases qfi with ⟨habsent, hsame⟩ | ⟨hpresent, hdefault, hdistinct, hmem⟩
  · rw [hsame]
    refine iff_of_true h fun hne heq => ?_
    subst heq
    exact habsent (h.default_found hne)
  · have hne := h.nonzero qfi hpresent
    constructor
    · intro hsound _ heq
      have hfound := hsound.default_found (by rw [hdefault, ← heq]; exact hne)
      rw [hmem, hdefault] at hfound
      exact hfound.2 heq.symm
    · intro hkeeps
      refine ⟨hdistinct, fun q hq => h.nonzero q ((hmem q).mp hq).1, CountedArray.count_le _, ?_⟩
      rw [hdefault, hmem]
      exact fun hset => ⟨h.default_found hset, (hkeeps hne).symm⟩

theorem Sound.not_found_of_release (h : manager.Sound) (hok : (qosFlowRelease manager qfi).2 = .ok ()) :
    qosFlowFindByQfi (qosFlowRelease manager qfi).1 qfi = none := by
  rcases h.release_cases qfi with ⟨-, hsame⟩ | ⟨-, -, -, hmem⟩
  · rw [hsame] at hok
    cases hok
  · rw [qosFlowFindByQfi, CountedArray.get_eq_none_iff]
    exact fun hq => ((hmem qfi).mp hq).2 rfl

/-- **One call keeps the flows exactly when its QFI is free.** -/
theorem Sound.keepsFlows_iff (h : manager.Sound) (call : QosFlowCall) :
    (manager.KeepsFlows call ↔ manager.FreeQfi call)
      ∧ (manager.FreeQfi call → (qosFlowCall manager call).Sound) := by
  cases call with
  | create fiveQi arp gbr mbr =>
      have hiff := h.create_iff fiveQi arp gbr mbr
      refine ⟨?_, hiff.mpr⟩
      rw [← hiff]
      exact and_iff_left fun qfi heq => by cases heq
  | release qfi =>
      have hiff := h.release_iff qfi
      refine ⟨?_, hiff.mpr⟩
      rw [← hiff]
      refine and_iff_left fun released heq hok => ?_
      cases heq
      exact h.not_found_of_release hok

end QosFlowManager

/-! ### Whole runs -/

theorem qosFlowCreateManager_sound : qosFlowCreateManager.Sound where
  distinct := List.nodup_nil
  nonzero := fun qfi hmem => by cases hmem
  bounded := Nat.zero_le _
  default_found := fun h => absurd rfl h

/-- **The flows of a manager are kept throughout exactly when every QFI that is taken is free and the default
flow is never released.** -/
theorem qosFlowManager_keepsFlows_iff (calls : List QosFlowCall) :
    Runs.Always qosFlowCall QosFlowManager.KeepsFlows qosFlowCreateManager calls
      ↔ Runs.Always qosFlowCall QosFlowManager.FreeQfi qosFlowCreateManager calls :=
  Runs.always_iff (fun _ call h => (h.keepsFlows_iff call).1) (fun _ call h => (h.keepsFlows_iff call).2)
    qosFlowCreateManager_sound calls

/-- Three flows, the second is released, and the next one takes QFI 3 again. And the only flow is
released, which is the default one. -/
theorem qosFlowManager_not_keepsFlows :
    let create : QosFlowCall := .create 9 none none none
    ¬Runs.Always qosFlowCall QosFlowManager.KeepsFlows qosFlowCreateManager
        [create, create, create, .release 2, create]
      ∧ ¬Runs.Always qosFlowCall QosFlowManager.KeepsFlows qosFlowCreateManager [create, .release 1] := by
  intro create
  constructor
  · rintro ⟨-, -, -, -, ⟨hsound, -⟩, -⟩
    exact absurd hsound.distinct (by decide)
  · rintro ⟨-, ⟨hsound, -⟩, -⟩
    exact absurd (hsound.default_found (by decide)) (by decide)

end Uesim
