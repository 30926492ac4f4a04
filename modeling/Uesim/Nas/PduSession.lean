import Uesim.Nas.QosFlow

/-!
# The PDU session manager

Ids come from a counter of eight bits that nobody sets back. Above 15 every new session is given id 1, and
when the counter comes round it is given id 0, whichever ids are in use. Lookup takes the first session with
an id, so the sessions are found as long as each id that is given is free.
-/

namespace Uesim

open Bytes

def pduMaxSessionsPerUe : Nat := 16

inductive PduSessionType where
  | ipv4
  | ipv6
  | ipv4v6
  | ethernet
  deriving DecidableEq, Repr

inductive SscMode where
  | mode1
  | mode2
  | mode3
  deriving DecidableEq, Repr

inductive PduSessionState where
  | inactive
  | creating
  | active
  | modifying
  | releasing
  | suspended
  deriving DecidableEq, Repr

structure Snssai where
  sst : Byte
  sd : Vector Byte 8
  sdLen : Byte
  deriving DecidableEq

structure PduSessionConfig where
  sessionType : PduSessionType
  sscMode : SscMode
  snssai : Snssai
  sessionAmbrUl : BitVec 64
  sessionAmbrDl : BitVec 64
  deriving DecidableEq

structure PduSession where
  sessionId : Byte
  state : PduSessionState
  config : PduSessionConfig
  qosManager : QosFlowManager
  defaultQosFlowQfi : Byte
  deriving DecidableEq

structure PduSessionManager where
  sessions : CountedArray PduSession pduMaxSessionsPerUe
  nextSessionId : Byte
  defaultSnssai : Snssai
  deriving DecidableEq

def Snssai.zero : Snssai := ⟨0, Vector.replicate 8 0, 0⟩

/-- What is in a cell before a session was there; nobody reads it. -/
def PduSession.unused : PduSession where
  sessionId := 0
  state := .inactive
  config := ⟨.ipv4, .mode1, .zero, 0, 0⟩
  qosManager := qosFlowCreateManager
  defaultQosFlowQfi := 0

/-- The default slice is that of type 1. -/
def pduSessionCreateManager : PduSessionManager where
  sessions := .empty pduMaxSessionsPerUe .unused
  nextSessionId := 1
  defaultSnssai := { Snssai.zero with sst := 1 }

/-- The id that the counter gives: the counter itself up to 15, and 1 above. -/
def PduSessionManager.givenId (manager : PduSessionManager) : Byte :=
  if manager.nextSessionId > 15 then 1 else manager.nextSessionId

/-- The flow manager of a new session with its default flow, and the QFI of that flow. Where there is no
flow the QFI stays zero. -/
def pduSessionDefaultFlow : QosFlowManager × Byte :=
  match qosFlowCreate qosFlowCreateManager 9 (some ⟨8, false, false⟩) none none with
  | (flows, .error _) => (flows, 0)
  | (flows, .ok flow) => ((qosFlowActivate flows flow.qfi).1, flow.qfi)

/-- The counter moves on only where there is room. -/
def pduSessionCreate (manager : PduSessionManager) (type : PduSessionType) (sscMode : SscMode)
    (snssai : Option Snssai) : PduSessionManager × Except UesimError PduSession :=
  let session : PduSession :=
    { sessionId := manager.givenId
      state := .creating
      config :=
        { sessionType := type
          sscMode := sscMode
          snssai := snssai.getD manager.defaultSnssai
          sessionAmbrUl := 100000
          sessionAmbrDl := 200000 }
      qosManager := pduSessionDefaultFlow.1
      defaultQosFlowQfi := pduSessionDefaultFlow.2 }
  match manager.sessions.push session with
  | none => (manager, .error .capacity)
  | some sessions =>
      ({ manager with
          sessions := sessions
          nextSessionId := manager.nextSessionId + 1 }, .ok session)

/-- The session that is taken out is marked and loses its flow manager first, which nobody sees. -/
def pduSessionRelease (manager : PduSessionManager) (sessionId : Byte) :
    PduSessionManager × Except UesimError Unit :=
  match CountedArray.removeKey PduSession.sessionId manager.sessions sessionId with
  | none => (manager, .error .notFound)
  | some sessions => ({ manager with sessions := sessions }, .ok ())

def pduSessionFindById (manager : PduSessionManager) (sessionId : Byte) : Option PduSession :=
  CountedArray.get PduSession.sessionId manager.sessions.toList sessionId

/-! ### One call -/

inductive PduSessionCall where
  | create (type : PduSessionType) (sscMode : SscMode) (snssai : Option Snssai)
  | release (sessionId : Byte)

def pduSessionCall (manager : PduSessionManager) : PduSessionCall → PduSessionManager
  | .create type sscMode snssai => (pduSessionCreate manager type sscMode snssai).1
  | .release sessionId => (pduSessionRelease manager sessionId).1

namespace PduSessionManager

variable {manager : PduSessionManager} {sessionId : Byte}

def ids (manager : PduSessionManager) : List Byte := manager.sessions.toList.map PduSession.sessionId

structure Sound (manager : PduSessionManager) : Prop where
  in_range : ∀ id ∈ manager.ids, 1 ≤ id ∧ id ≤ 15
  distinct : manager.ids.Nodup

/-- After a call the manager is sound, a session that was released is not found, and every other one is
found under its id. -/
def KeepsSessions (manager : PduSessionManager) (call : PduSessionCall) : Prop :=
  (pduSessionCall manager call).Sound
    ∧ ∀ id, call = .release id → (pduSessionRelease manager id).2 = .ok () →
      pduSessionFindById (pduSessionCall manager call) id = none
        ∧ ∀ session ∈ manager.sessions.toList, session.sessionId ≠ id →
          pduSessionFindById (pduSessionCall manager call) session.sessionId = some session

def FreeId (manager : PduSessionManager) : PduSessionCall → Prop
  | .create .. => manager.sessions.count < pduMaxSessionsPerUe →
      manager.nextSessionId ≠ 0 ∧ manager.givenId ∉ manager.ids
  | .release _ => True

theorem givenId_in_range_iff (manager : PduSessionManager) :
    (1 ≤ manager.givenId ∧ manager.givenId ≤ 15) ↔ manager.nextSessionId ≠ 0 := by
  unfold givenId
  split
  · rename_i habove
    refine iff_of_true ⟨by decide, by decide⟩ ?_
    rintro hzero
    rw [hzero] at habove
    exact absurd habove (by decide)
  · rename_i hbelow
    have hle : manager.nextSessionId ≤ 15 := BitVec.not_lt.mp hbelow
    rw [and_iff_left hle, ← BitVec.not_lt, not_iff_not, BitVec.lt_def, ← BitVec.toNat_inj]
    exact Nat.lt_one_iff

/-- A creation finds no room, or puts a session with the given id behind the others. -/
theorem pduSessionCreate_cases (manager : PduSessionManager) (type : PduSessionType) (sscMode : SscMode)
    (snssai : Option Snssai) :
    (manager.sessions.count = pduMaxSessionsPerUe
        ∧ (pduSessionCreate manager type sscMode snssai).1 = manager)
      ∨ manager.sessions.count < pduMaxSessionsPerUe
        ∧ (pduSessionCreate manager type sscMode snssai).1.ids = manager.ids ++ [manager.givenId] := by
  unfold pduSessionCreate
  dsimp only
  split
  · rename_i hfull
    exact .inl ⟨CountedArray.push_eq_none_iff.mp hfull, rfl⟩
  · rename_i sessions hpush
    have hroom : manager.sessions.count ≠ pduMaxSessionsPerUe := by
      intro hfull
      rw [CountedArray.push_eq_none_iff.mpr hfull] at hpush
      cases hpush
    refine .inr ⟨Nat.lt_of_le_of_ne manager.sessions.count_le hroom, ?_⟩
    rw [ids, CountedArray.toList_push hpush, List.map_append]
    rfl

theorem Sound.create_iff (h : manager.Sound) (type : PduSessionType) (sscMode : SscMode)
    (snssai : Option Snssai) : (pduSessionCreate manager type sscMode snssai).1.Sound
      ↔ manager.FreeId (.create type sscMode snssai) := by
  rcases pduSessionCreate_cases manager type sscMode snssai with ⟨hfull, hsame⟩ | ⟨hroom, hids⟩
  · rw [hsame]
    exact iff_of_true h fun hlt => absurd hlt (by omega)
  · constructor
    · rintro ⟨hrange, hdistinct⟩ _
      rw [hids] at hrange hdistinct
      rw [List.nodup_append'] at hdistinct
      refine ⟨manager.givenId_in_range_iff.mp ?_, fun hmem => ?_⟩
      · exact hrange _ (List.mem_append_right _ (List.mem_singleton_self _))
      · exact hdistinct.2.2 hmem (List.mem_singleton_self _)
    · intro hfree
      obtain ⟨hset, hnew⟩ := hfree hroom
      refine ⟨fun id hmem => ?_, ?_⟩
      · rw [hids, List.mem_append, List.mem_singleton] at hmem
        rcases hmem with hmem | rfl
        · exact h.in_range id hmem
        · exact manager.givenId_in_range_iff.mpr hset
      · rw [hids, List.nodup_append']
        exact ⟨h.distinct, List.nodup_singleton _, List.disjoint_singleton.mpr hnew⟩

/-- A release keeps the manager sound, and what is found afterwards is what was found before, without the
session that was released. -/
theorem Sound.release (h : manager.Sound) (sessionId : Byte) :
    (pduSessionRelease manager sessionId).1.Sound
      ∧ ((pduSessionRelease manager sessionId).2 = .ok () →
        pduSessionFindById (pduSessionRelease manager sessionId).1
          = Function.update (pduSessionFindById manager) sessionId none) := by
  unfold pduSessionRelease
  split
  · refine ⟨h, fun hok => ?_⟩
    cases hok
  · rename_i sessions hremove
    refine ⟨⟨fun id hmem => h.in_range id ?_, CountedArray.distinct_removeKey hremove h.distinct⟩,
      fun _ => CountedArray.get_removeKey hremove h.distinct⟩
    rw [ids, CountedArray.toList_removeKey hremove] at hmem
    exact (List.eraseP_sublist.map PduSession.sessionId).subset hmem

/-- **One call keeps the sessions exactly when the id it gives is free.** -/
theorem Sound.keepsSessions_iff (h : manager.Sound) (call : PduSessionCall) :
    (manager.KeepsSessions call ↔ manager.FreeId call)
      ∧ (manager.FreeId call → (pduSessionCall manager call).Sound) := by
  cases call with
  | create type sscMode snssai =>
      have hiff := h.create_iff type sscMode snssai
      refine ⟨?_, hiff.mpr⟩
      rw [← hiff]
      exact and_iff_left fun id heq => by cases heq
  | release sessionId =>
      obtain ⟨hsound, hfind⟩ := h.release sessionId
      refine ⟨iff_of_true ⟨hsound, ?_⟩ trivial, fun _ => hsound⟩
      intro id heq hok
      cases heq
      have hfound := hfind hok
      refine ⟨?_, fun session hmem hne => ?_⟩
      · exact (congrFun hfound sessionId).trans (Function.update_self ..)
      · refine (congrFun hfound session.sessionId).trans ?_
        rw [Function.update_of_ne hne]
        exact CountedArray.Distinct.get_eq h.distinct hmem

end PduSessionManager

/-! ### Whole runs -/

theorem pduSessionCreateManager_sound : pduSessionCreateManager.Sound where
  in_range := fun id hmem => by cases hmem
  distinct := List.nodup_nil

/-- **The sessions of a manager are kept throughout exactly when every id that is given is free and the
counter is not zero.** -/
theorem pduSessionManager_keepsSessions_iff (calls : List PduSessionCall) :
    Runs.Always pduSessionCall PduSessionManager.KeepsSessions pduSessionCreateManager calls
      ↔ Runs.Always pduSessionCall PduSessionManager.FreeId pduSessionCreateManager calls :=
  Runs.always_iff (fun _ call h => (h.keepsSessions_iff call).1)
    (fun _ call h => (h.keepsSessions_iff call).2) pduSessionCreateManager_sound calls

/-- The sixteenth session is given the id of the first one. -/
theorem pduSessionManager_not_keepsSessions :
    let create : PduSessionCall := .create .ipv4 .mode1 none
    ¬Runs.Always pduSessionCall PduSessionManager.KeepsSessions pduSessionCreateManager
      (List.replicate 15 create ++ [create]) := by
  intro create h
  obtain ⟨-, ⟨hsound, -⟩, -⟩ := (Runs.always_append _ _ _ _).mp h
  exact absurd hsound.distinct (by decide +kernel)

end Uesim
