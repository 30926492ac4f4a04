import Uesim.Library.Admissions
import Uesim.MockCore.Du

/-!
# The mock CU-CP

A distributed unit is known by its identifier from its first setup request on. A UE context is made for every
call that asks for one. Nothing takes an entry of either table away: a release that is complete is counted.
-/

namespace Uesim

open Bytes BitMemory KeyedSlots

def cuCpMaxDuConnections : Nat := 16

def cuCpMaxUeContexts : Nat := 1024

inductive CuCpState where
  | idle
  | f1SetupPending
  | active
  | resetting
  deriving DecidableEq, Repr

structure DuConnection where
  gnbDuId : Word
  gnbDuName : List Byte
  f1apSocket : Int
  state : CuCpState
  servedCells : Counted 8 F1apServedCellInfo 512
  active : Bool

structure CuCpUeContext where
  gnbCuUeF1apId : Word
  gnbDuUeF1apId : Word
  ranUeId : BitVec 64
  drbs : Counted 8 F1apDrbInfo 8
  numSrbs : Byte
  nrCellId : BitVec 64
  pci : BitVec 16
  gnbDuId : Word
  ueState : Byte
  active : Bool

/-- `bind_ip` as `inet_addr` returns it. -/
structure CuCpConfig where
  bindIp : Word
  gnbCuId : BitVec 64
  gnbCuName : List Byte
  rrcVersion : Octets 4
  autoRespond : Bool

structure CuCpServer where
  config : CuCpConfig
  duConnections : Fin cuCpMaxDuConnections → DuConnection
  numDuConnections : Word
  ueContexts : Fin cuCpMaxUeContexts → CuCpUeContext
  numUeContexts : Word
  nextCuUeId : Word
  f1apMessagesRx : BitVec 64
  f1apMessagesTx : BitVec 64
  f1SetupSuccess : BitVec 64
  f1SetupFailure : BitVec 64
  ueContextsCreated : BitVec 64
  ueContextsReleased : BitVec 64

/-- A connection after `calloc`. -/
def DuConnection.cleared : DuConnection := ⟨0, [], 0, .idle, .empty, false⟩

/-- A context after `memset`. -/
def CuCpUeContext.cleared : CuCpUeContext where
  gnbCuUeF1apId := 0
  gnbDuUeF1apId := 0
  ranUeId := 0
  drbs := .empty
  numSrbs := 0
  nrCellId := 0
  pci := 0
  gnbDuId := 0
  ueState := 0
  active := false

def cuCpCreate (config : CuCpConfig) : CuCpServer where
  config := config
  duConnections := fun _ => .cleared
  numDuConnections := 0
  ueContexts := fun _ => .cleared
  numUeContexts := 0
  nextCuUeId := 1
  f1apMessagesRx := 0
  f1apMessagesTx := 0
  f1SetupSuccess := 0
  f1SetupFailure := 0
  ueContextsCreated := 0
  ueContextsReleased := 0

/-! ### Distributed units -/

def DuConnection.hasDuId (gnbDuId : Word) (du : DuConnection) : Bool := du.active && du.gnbDuId == gnbDuId

def CuCpServer.putDu (cuCp : CuCpServer) (slot : Fin cuCpMaxDuConnections) (du : DuConnection) : CuCpServer :=
  { cuCp with duConnections := Function.update cuCp.duConnections slot du }

/-- A connection that is taken keeps the cells that it had, until the handler writes them. -/
def DuConnection.taken (du : DuConnection) (id : F1apGnbDuId) (socket : Int) : DuConnection :=
  { du with
    gnbDuId := id.gnbDuId
    gnbDuName := (id.gnbDuName.takeWhile (· ≠ 0)).take 63
    f1apSocket := socket
    active := true
    state := .active }

/-- The two loops of the handler: the connection of the unit, or else a free one. -/
def cuCpFindOrCreateDu (cuCp : CuCpServer) (id : F1apGnbDuId) (socket : Int) :
    CuCpServer × Option (Fin cuCpMaxDuConnections) :=
  match first (DuConnection.hasDuId id.gnbDuId) cuCp.duConnections with
  | some slot => (cuCp, some slot)
  | none =>
      match first (fun du => !du.active) cuCp.duConnections with
      | some slot =>
          ({ cuCp.putDu slot ((cuCp.duConnections slot).taken id socket) with
              numDuConnections := cuCp.numDuConnections + 1 }, some slot)
      | none => (cuCp, none)

def cuCpHandleF1SetupRequest (cuCp : CuCpServer) (req : F1apF1SetupRequest) (socket : Int) :
    CuCpServer × F1apMessage :=
  match cuCpFindOrCreateDu cuCp req.gnbDuId socket with
  | (cuCp, none) =>
      ({ cuCp with f1SetupFailure := cuCp.f1SetupFailure + 1 },
        { f1apCleared with procedureCode := 1, payload := .f1SetupFailure ⟨⟨3, 0⟩, 0⟩ })
  | (cuCp, some slot) =>
      let du := { cuCp.duConnections slot with servedCells := req.servedCells, state := .active }
      ({ cuCp.putDu slot du with f1SetupSuccess := cuCp.f1SetupSuccess + 1 },
        { procedureCode := 1
          criticality := 0
          payload :=
            .f1SetupResponse
              { gnbCuId := ⟨cuCp.config.gnbCuId, (cuCp.config.gnbCuName.takeWhile (· ≠ 0)).take 63⟩
                cellsToActivate := du.servedCells
                transportLayerAddress := cuCp.config.bindIp
                gnbCuRrcVersion := cuCp.config.rrcVersion } })

/-! ### UE contexts -/

def CuCpUeContext.hasCuId (cuUeId : Word) (ue : CuCpUeContext) : Bool :=
  ue.active && ue.gnbCuUeF1apId == cuUeId

def CuCpServer.putUe (cuCp : CuCpServer) (slot : Fin cuCpMaxUeContexts) (ue : CuCpUeContext) : CuCpServer :=
  { cuCp with ueContexts := Function.update cuCp.ueContexts slot ue }

def cuCpHandleUeContextSetupResponse (cuCp : CuCpServer) (resp : F1apUeContextSetupResponse) : CuCpServer :=
  match first (CuCpUeContext.hasCuId resp.ueIds.gnbCuUeF1apId) cuCp.ueContexts with
  | none => cuCp
  | some slot =>
      cuCp.putUe slot
        { cuCp.ueContexts slot with
          gnbDuUeF1apId := resp.ueIds.gnbDuUeF1apId
          drbs := resp.drbsSetup
          numSrbs := resp.srbsSetup.count
          ueState := 2 }

/-- With the slot of the context that is returned. -/
def cuCpCreateUeContext (cuCp : CuCpServer) (gnbDuId : Word) : CuCpServer × Option (Fin cuCpMaxUeContexts) :=
  match first (fun ue => !ue.active) cuCp.ueContexts with
  | none => (cuCp, none)
  | some slot =>
      ({ cuCp.putUe slot
            { CuCpUeContext.cleared with
              gnbCuUeF1apId := cuCp.nextCuUeId, gnbDuId := gnbDuId, active := true } with
          nextCuUeId := cuCp.nextCuUeId + 1
          numUeContexts := cuCp.numUeContexts + 1
          ueContextsCreated := cuCp.ueContextsCreated + 1 }, some slot)

/-- A unit without cells leaves the cell of the context zero. -/
def CuCpUeContext.inFirstCell (du : DuConnection) (ue : CuCpUeContext) : CuCpUeContext :=
  du.servedCells.items.head?.elim ue fun cell => { ue with nrCellId := cell.nrCellId, pci := cell.pci }

/-- The request that goes out for a UE, with its default bearers. -/
def cuCpUeContextSetupRequest (ue : CuCpUeContext) (plmn : F1apPlmnId) (sst : Byte) (sd : Word) :
    F1apUeContextSetupRequest where
  ueIds := ⟨ue.gnbCuUeF1apId, 0⟩
  ranUeId := ue.ranUeId
  plmn := plmn
  drbsToSetup := .one ⟨1, 0, 1, .empty, .one ⟨1, 9⟩⟩
  srbsToSetup := .one ⟨1, 1⟩
  ueAmbrDl := 1000000000
  ueAmbrUl := 500000000
  nrCellId := ue.nrCellId
  servCellIdx := 0
  sst := sst
  sd := sd
  rrcContainer := .empty

/-- What goes out is encoded and counted, but not sent. -/
def CuCpServer.countSent (cuCp : CuCpServer) (memory : Option Memory) (msg : F1apMessage) : CuCpServer :=
  if (f1apEncodeMessage memory msg).isSome then { cuCp with f1apMessagesTx := cuCp.f1apMessagesTx + 1 } else cuCp

/-- For a connection that exists and a network that is given. -/
def cuCpSendUeContextSetupRequest (memory : Option Memory) (cuCp : CuCpServer)
    (duConn : Fin cuCpMaxDuConnections) (ranUeId : BitVec 64) (plmn : F1apPlmnId) (sst : Byte) (sd : Word) :
    CuCpServer :=
  let du := cuCp.duConnections duConn
  match cuCpCreateUeContext cuCp du.gnbDuId with
  | (cuCp, none) => cuCp
  | (cuCp, some slot) =>
      let ue := CuCpUeContext.inFirstCell du { cuCp.ueContexts slot with ranUeId := ranUeId }
      (cuCp.putUe slot ue).countSent memory
        ⟨7, 0, .ueContextSetupRequest (cuCpUeContextSetupRequest ue plmn sst sd)⟩

/-! ### Messages -/

/-- The switch over the message type, with `response`. A release that is complete leaves its context. -/
def cuCpHandleMessage (cuCp : CuCpServer) (msg : F1apMessage) (socket : Int) : CuCpServer × F1apMessage :=
  match msg.payload with
  | .f1SetupRequest req => cuCpHandleF1SetupRequest cuCp req socket
  | .ueContextSetupResponse resp => (cuCpHandleUeContextSetupResponse cuCp resp, f1apCleared)
  | .ueContextReleaseComplete _ =>
      ({ cuCp with ueContextsReleased := cuCp.ueContextsReleased + 1 }, f1apCleared)
  | _ => (cuCp, f1apCleared)

def cuCpProcessF1apMessage (memory : Option Memory) (cuCp : CuCpServer) (data : Memory) (len : Nat)
    (socket : Int) : CuCpServer :=
  match f1apDecodeMessage len with
  | none => cuCp
  | some reader =>
      let (cuCp, response) :=
        cuCpHandleMessage { cuCp with f1apMessagesRx := cuCp.f1apMessagesRx + 1 } (reader.value data 0) socket
      if cuCp.config.autoRespond then cuCp.countSent memory response else cuCp

/-!
## Runs of the mock CU-CP

Both tables only fill. The distributed units are the first sixteen that differ, and the UE contexts are as many
as have been asked for, up to the size of the table.
-/

open Admissions

inductive CuCpOp where
  | receive (memory : Option Memory) (data : Memory) (len : Nat) (socket : Int)
  | setupUe (memory : Option Memory) (duConn : Fin cuCpMaxDuConnections) (ranUeId : BitVec 64)
      (plmn : F1apPlmnId) (sst : Byte) (sd : Word)

def cuCpStep (cuCp : CuCpServer) : CuCpOp → CuCpServer
  | .receive memory data len socket => cuCpProcessF1apMessage memory cuCp data len socket
  | .setupUe memory duConn ranUeId plmn sst sd =>
      cuCpSendUeContextSetupRequest memory cuCp duConn ranUeId plmn sst sd

/-- The distributed unit that a message comes from, if the message sets up the interface. -/
def f1apSetupDuId (msg : F1apMessage) : Option Word :=
  match msg.payload with
  | .f1SetupRequest req => some req.gnbDuId.gnbDuId
  | _ => none

def CuCpOp.setupDuId : CuCpOp → Option Word
  | receive _ data len _ => (f1apDecodeMessage len).bind fun reader => f1apSetupDuId (reader.value data 0)
  | setupUe .. => none

def CuCpOp.asksForUe : CuCpOp → Bool
  | receive .. => false
  | setupUe .. => true

/-! ### The two tables -/

/-- The first sixteen units that differ. -/
def cuCpAdmit : List Word → Option Word → List Word
  | dus, none => dus
  | dus, some gnbDuId => letIn cuCpMaxDuConnections dus gnbDuId

/-- The identifiers that go with the first UE contexts. -/
def cuUeIds (count : Nat) : List Word := (List.range count).map fun i => BitVec.ofNat 32 (i + 1)

theorem length_cuUeIds (count : Nat) : (cuUeIds count).length = count := by
  rw [cuUeIds, List.length_map, List.length_range]

theorem cuUeIds_succ (count : Nat) : cuUeIds (count + 1) = cuUeIds count ++ [BitVec.ofNat 32 (count + 1)] := by
  rw [cuUeIds, List.range_succ, List.map_append, List.map_singleton, ← cuUeIds]

structure CuCpServer.HoldsDus (cuCp : CuCpServer) (dus : List Word) : Prop where
  admitted : Admitted DuConnection.active DuConnection.gnbDuId cuCp.duConnections dus
  counter : cuCp.numDuConnections = BitVec.ofNat 32 dus.length

structure CuCpServer.HoldsUes (cuCp : CuCpServer) (count : Nat) : Prop where
  admitted : Admitted CuCpUeContext.active CuCpUeContext.gnbCuUeF1apId cuCp.ueContexts (cuUeIds count)
  counter : cuCp.numUeContexts = BitVec.ofNat 32 count
  next : cuCp.nextCuUeId = BitVec.ofNat 32 (count + 1)

theorem CuCpServer.countSent_eq (cuCp : CuCpServer) (memory : Option Memory) (msg : F1apMessage) :
    ∃ tx, cuCp.countSent memory msg = { cuCp with f1apMessagesTx := tx } := by
  rw [CuCpServer.countSent]
  split
  · exact ⟨_, rfl⟩
  · exact ⟨_, rfl⟩

/-- The context that is made for a UE, if there is a slot for it. -/
def cuCpContextFor (cuCp : CuCpServer) (du : DuConnection) (ranUeId : BitVec 64) : CuCpUeContext :=
  CuCpUeContext.inFirstCell du
    { CuCpUeContext.cleared with
      gnbCuUeF1apId := cuCp.nextCuUeId, gnbDuId := du.gnbDuId, active := true, ranUeId := ranUeId }

theorem active_cuCpContextFor (cuCp : CuCpServer) (du : DuConnection) (ranUeId : BitVec 64) :
    (cuCpContextFor cuCp du ranUeId).active = true
      ∧ (cuCpContextFor cuCp du ranUeId).gnbCuUeF1apId = cuCp.nextCuUeId := by
  rw [cuCpContextFor, CuCpUeContext.inFirstCell]
  cases du.servedCells.items.head? with
  | none => exact ⟨rfl, rfl⟩
  | some cell => exact ⟨rfl, rfl⟩

/-- **All that a call for a UE does**, in the slot that is the first free one. -/
theorem cuCpSendUeContextSetupRequest_cases (memory : Option Memory) (cuCp : CuCpServer)
    (duConn : Fin cuCpMaxDuConnections) (ranUeId : BitVec 64) (plmn : F1apPlmnId) (sst : Byte) (sd : Word) :
    (first (fun ue => !ue.active) cuCp.ueContexts = none
        ∧ cuCpSendUeContextSetupRequest memory cuCp duConn ranUeId plmn sst sd = cuCp)
      ∨ ∃ slot msg, first (fun ue => !ue.active) cuCp.ueContexts = some slot
        ∧ cuCpSendUeContextSetupRequest memory cuCp duConn ranUeId plmn sst sd
          = CuCpServer.countSent
              { cuCp with
                ueContexts := Function.update cuCp.ueContexts slot
                  (cuCpContextFor cuCp (cuCp.duConnections duConn) ranUeId)
                nextCuUeId := cuCp.nextCuUeId + 1
                numUeContexts := cuCp.numUeContexts + 1
                ueContextsCreated := cuCp.ueContextsCreated + 1 } memory msg := by
  rw [cuCpSendUeContextSetupRequest, cuCpCreateUeContext]
  cases hfree : first (fun ue : CuCpUeContext => !ue.active) cuCp.ueContexts with
  | none => exact .inl ⟨rfl, rfl⟩
  | some slot =>
      refine .inr ⟨slot, _, rfl, congrArg (CuCpServer.countSent · memory _) ?_⟩
      dsimp only [CuCpServer.putUe]
      rw [Function.update_self, Function.update_idem]
      rfl

section Handlers

variable {cuCp : CuCpServer} {dus : List Word} {count : Nat}

/-- **All that a setup request does to the units.** -/
theorem CuCpServer.HoldsDus.setup (h : cuCp.HoldsDus dus) (req : F1apF1SetupRequest) (socket : Int) :
    (cuCpHandleF1SetupRequest cuCp req socket).1.HoldsDus
        (letIn cuCpMaxDuConnections dus req.gnbDuId.gnbDuId)
      ∧ ((∃ resp, (cuCpHandleF1SetupRequest cuCp req socket).2.payload = .f1SetupResponse resp
            ∧ resp.cellsToActivate = req.servedCells)
          ↔ req.gnbDuId.gnbDuId ∈ dus ∨ dus.length < cuCpMaxDuConnections) := by
  rw [cuCpHandleF1SetupRequest, cuCpFindOrCreateDu, letIn]
  cases hfind : first (DuConnection.hasDuId req.gnbDuId.gnbDuId) cuCp.duConnections with
  | some slot =>
      have hknown : req.gnbDuId.gnbDuId ∈ dus := by
        by_contra hout
        have hnone := h.admitted.first_key_eq_none_iff.mpr hout
        exact absurd (hnone.symm.trans hfind) (Option.some_ne_none slot).symm
      rw [if_pos (.inl hknown)]
      exact ⟨⟨h.admitted.rewrite rfl rfl, h.counter⟩, iff_of_true ⟨_, rfl, rfl⟩ (.inl hknown)⟩
  | none =>
      have hout : req.gnbDuId.gnbDuId ∉ dus := h.admitted.first_key_eq_none_iff.mp hfind
      cases hfree : first (fun du : DuConnection => !du.active) cuCp.duConnections with
      | none =>
          have hfull := h.admitted.first_free_eq_none_iff.mp hfree
          rw [if_pos (.inr hfull)]
          refine ⟨⟨h.admitted, h.counter⟩, iff_of_false ?_ ?_⟩
          · rintro ⟨resp, hresp, -⟩
            cases hresp
          · rintro (hknown | hlt)
            · exact hout hknown
            · exact absurd hfull hlt.ne
      | some slot =>
          have hslot := h.admitted.first_free_eq_some hfree
          have hlt : dus.length < cuCpMaxDuConnections := hslot ▸ slot.isLt
          rw [if_neg (not_or.mpr ⟨hout, hlt.ne⟩)]
          refine ⟨⟨?_, ?_⟩, iff_of_true ⟨_, rfl, rfl⟩ (.inr hlt)⟩
          · dsimp only [CuCpServer.putDu]
            rw [Function.update_self, Function.update_idem]
            exact h.admitted.push hslot rfl
          · change cuCp.numDuConnections + 1 = _
            rw [h.counter, List.length_append, List.length_singleton, BitVec.ofNat_add]
            rfl

theorem CuCpServer.HoldsUes.setup (h : cuCp.HoldsUes count) (req : F1apF1SetupRequest) (socket : Int) :
    (cuCpHandleF1SetupRequest cuCp req socket).1.HoldsUes count := by
  rw [cuCpHandleF1SetupRequest, cuCpFindOrCreateDu]
  cases first (DuConnection.hasDuId req.gnbDuId.gnbDuId) cuCp.duConnections with
  | some slot => exact ⟨h.admitted, h.counter, h.next⟩
  | none =>
      cases first (fun du : DuConnection => !du.active) cuCp.duConnections with
      | none => exact ⟨h.admitted, h.counter, h.next⟩
      | some slot => exact ⟨h.admitted, h.counter, h.next⟩

/-- A response fills in the context that it names, and its identifier stays. -/
theorem CuCpServer.HoldsUes.setupResponse (h : cuCp.HoldsUes count) (resp : F1apUeContextSetupResponse) :
    (cuCpHandleUeContextSetupResponse cuCp resp).HoldsUes count := by
  rw [cuCpHandleUeContextSetupResponse]
  cases first (CuCpUeContext.hasCuId resp.ueIds.gnbCuUeF1apId) cuCp.ueContexts with
  | none => exact h
  | some slot => exact ⟨h.admitted.rewrite rfl rfl, h.counter, h.next⟩

theorem CuCpServer.HoldsDus.countSent (h : cuCp.HoldsDus dus) (memory : Option Memory) (msg : F1apMessage) :
    (cuCp.countSent memory msg).HoldsDus dus := by
  obtain ⟨tx, heq⟩ := cuCp.countSent_eq memory msg
  rw [heq]
  exact ⟨h.admitted, h.counter⟩

theorem CuCpServer.HoldsUes.countSent (h : cuCp.HoldsUes count) (memory : Option Memory) (msg : F1apMessage) :
    (cuCp.countSent memory msg).HoldsUes count := by
  obtain ⟨tx, heq⟩ := cuCp.countSent_eq memory msg
  rw [heq]
  exact ⟨h.admitted, h.counter, h.next⟩

theorem CuCpServer.HoldsUes.ask (h : cuCp.HoldsUes count) (memory : Option Memory)
    (duConn : Fin cuCpMaxDuConnections) (ranUeId : BitVec 64) (plmn : F1apPlmnId) (sst : Byte) (sd : Word) :
    (cuCpSendUeContextSetupRequest memory cuCp duConn ranUeId plmn sst sd).HoldsUes
      (min (count + 1) cuCpMaxUeContexts) := by
  have hlength := length_cuUeIds count
  have hle := h.admitted.length_le
  rcases cuCpSendUeContextSetupRequest_cases memory cuCp duConn ranUeId plmn sst sd with
    ⟨hfree, heq⟩ | ⟨slot, msg, hfree, heq⟩
  · have hfull := h.admitted.first_free_eq_none_iff.mp hfree
    rw [heq, min_eq_right (by omega), ← hfull, hlength]
    exact h
  · have hslot := h.admitted.first_free_eq_some hfree
    have hlt := slot.isLt
    obtain ⟨hactive, hid⟩ := active_cuCpContextFor cuCp (cuCp.duConnections duConn) ranUeId
    rw [heq, min_eq_left (by omega)]
    refine CuCpServer.HoldsUes.countSent ⟨?_, ?_, ?_⟩ memory msg
    · rw [cuUeIds_succ, ← h.next, ← hid]
      exact h.admitted.push hslot hactive
    · change cuCp.numUeContexts + 1 = _
      rw [h.counter, BitVec.ofNat_add]
      rfl
    · change cuCp.nextCuUeId + 1 = _
      rw [h.next, BitVec.ofNat_add (count + 1)]
      rfl

theorem CuCpServer.HoldsDus.ask (h : cuCp.HoldsDus dus) (memory : Option Memory)
    (duConn : Fin cuCpMaxDuConnections) (ranUeId : BitVec 64) (plmn : F1apPlmnId) (sst : Byte) (sd : Word) :
    (cuCpSendUeContextSetupRequest memory cuCp duConn ranUeId plmn sst sd).HoldsDus dus := by
  rcases cuCpSendUeContextSetupRequest_cases memory cuCp duConn ranUeId plmn sst sd with
    ⟨-, heq⟩ | ⟨slot, msg, -, heq⟩
  · rw [heq]
    exact h
  · rw [heq]
    refine CuCpServer.HoldsDus.countSent ⟨?_, ?_⟩ memory msg
    · exact h.admitted
    · exact h.counter

theorem CuCpServer.HoldsDus.message (h : cuCp.HoldsDus dus) (msg : F1apMessage) (socket : Int) :
    (cuCpHandleMessage cuCp msg socket).1.HoldsDus (cuCpAdmit dus (f1apSetupDuId msg)) := by
  unfold cuCpHandleMessage f1apSetupDuId
  cases msg.payload with
  | f1SetupRequest req => exact (h.setup req socket).1
  | ueContextSetupResponse resp =>
      dsimp only
      rw [cuCpHandleUeContextSetupResponse]
      split
      · exact h
      · exact ⟨h.admitted, h.counter⟩
  | _ => exact ⟨h.admitted, h.counter⟩

theorem CuCpServer.HoldsUes.message (h : cuCp.HoldsUes count) (msg : F1apMessage) (socket : Int) :
    (cuCpHandleMessage cuCp msg socket).1.HoldsUes count := by
  unfold cuCpHandleMessage
  cases msg.payload with
  | f1SetupRequest req => exact h.setup req socket
  | ueContextSetupResponse resp => exact h.setupResponse resp
  | _ => exact ⟨h.admitted, h.counter, h.next⟩

theorem CuCpServer.HoldsDus.step (h : cuCp.HoldsDus dus) (op : CuCpOp) :
    (cuCpStep cuCp op).HoldsDus (cuCpAdmit dus op.setupDuId) := by
  cases op with
  | receive memory data len socket =>
      rw [cuCpStep, cuCpProcessF1apMessage, CuCpOp.setupDuId]
      cases f1apDecodeMessage len with
      | none => exact h
      | some reader =>
          have hrx : CuCpServer.HoldsDus { cuCp with f1apMessagesRx := cuCp.f1apMessagesRx + 1 } dus :=
            ⟨h.admitted, h.counter⟩
          have hmessage := hrx.message (reader.value data 0) socket
          dsimp only [Option.bind_some]
          split
          · exact hmessage.countSent memory _
          · exact hmessage
  | setupUe memory duConn ranUeId plmn sst sd => exact h.ask memory duConn ranUeId plmn sst sd

theorem CuCpServer.HoldsUes.step (h : cuCp.HoldsUes count) (op : CuCpOp) :
    (cuCpStep cuCp op).HoldsUes
      (if op.asksForUe then min (count + 1) cuCpMaxUeContexts else count) := by
  cases op with
  | receive memory data len socket =>
      rw [cuCpStep, cuCpProcessF1apMessage]
      cases f1apDecodeMessage len with
      | none => exact h
      | some reader =>
          have hrx : CuCpServer.HoldsUes { cuCp with f1apMessagesRx := cuCp.f1apMessagesRx + 1 } count :=
            ⟨h.admitted, h.counter, h.next⟩
          have hmessage := hrx.message (reader.value data 0) socket
          dsimp only
          split
          · exact hmessage.countSent memory _
          · exact hmessage
  | setupUe memory duConn ranUeId plmn sst sd => exact h.ask memory duConn ranUeId plmn sst sd

end Handlers

/-! ### Runs -/

theorem cuCpRun_holdsDus (ops : List CuCpOp) {cuCp : CuCpServer} {dus : List Word} (h : cuCp.HoldsDus dus) :
    (ops.foldl cuCpStep cuCp).HoldsDus
      ((ops.filterMap CuCpOp.setupDuId).foldl (letIn cuCpMaxDuConnections) dus) := by
  induction ops generalizing cuCp dus with
  | nil => exact h
  | cons op ops ih =>
      have hnext := ih (h.step op)
      rw [List.foldl_cons, List.filterMap_cons]
      cases hid : op.setupDuId with
      | none =>
          rw [hid] at hnext
          exact hnext
      | some gnbDuId =>
          rw [hid] at hnext
          exact hnext

theorem cuCpRun_holdsUes (ops : List CuCpOp) {cuCp : CuCpServer} {count : Nat} (h : cuCp.HoldsUes count) :
    (ops.foldl cuCpStep cuCp).HoldsUes (min (count + ops.countP CuCpOp.asksForUe) cuCpMaxUeContexts) := by
  induction ops generalizing cuCp count with
  | nil =>
      have hle := h.admitted.length_le
      rw [length_cuUeIds] at hle
      rw [List.countP_nil, Nat.add_zero, min_eq_left hle]
      exact h
  | cons op ops ih =>
      have hnext := ih (h.step op)
      rw [List.foldl_cons, List.countP_cons]
      cases hasks : op.asksForUe with
      | true =>
          have hsum : min (min (count + 1) cuCpMaxUeContexts + ops.countP CuCpOp.asksForUe) cuCpMaxUeContexts
              = min (count + (ops.countP CuCpOp.asksForUe + 1)) cuCpMaxUeContexts := by omega
          rw [hasks, if_pos rfl, hsum] at hnext
          exact hnext
      | false =>
          rw [hasks] at hnext
          exact hnext

/-- **Nothing takes an entry of either table away.** The distributed units are the first sixteen that differ
among those that have asked, and only they are answered. The UE contexts are one for each call, up to the size
of the table, whether or not releases are reported. -/
theorem cuCp_keeps_the_first (config : CuCpConfig) (ops : List CuCpOp) :
    ∃ cuCp dus count, cuCp = ops.foldl cuCpStep (cuCpCreate config)
      ∧ dus = (firstSeen (ops.filterMap CuCpOp.setupDuId)).take cuCpMaxDuConnections
      ∧ count = min (ops.countP CuCpOp.asksForUe) cuCpMaxUeContexts
      ∧ Admitted DuConnection.active DuConnection.gnbDuId cuCp.duConnections dus
      ∧ cuCp.numDuConnections.toNat = dus.length
      ∧ (∀ req socket, (∃ resp, (cuCpHandleF1SetupRequest cuCp req socket).2.payload = .f1SetupResponse resp
          ∧ resp.cellsToActivate = req.servedCells)
        ↔ req.gnbDuId.gnbDuId ∈ dus ∨ dus.length < cuCpMaxDuConnections)
      ∧ Admitted CuCpUeContext.active CuCpUeContext.gnbCuUeF1apId cuCp.ueContexts (cuUeIds count)
      ∧ cuCp.numUeContexts.toNat = count := by
  have hdus := cuCpRun_holdsDus ops (⟨admitted_of_dead fun _ => rfl, rfl⟩ : (cuCpCreate config).HoldsDus [])
  have hues := cuCpRun_holdsUes ops (⟨admitted_of_dead fun _ => rfl, rfl, rfl⟩ : (cuCpCreate config).HoldsUes 0)
  rw [foldl_letIn] at hdus
  rw [Nat.zero_add] at hues
  have hlength := hdus.admitted.length_le
  refine ⟨_, _, _, rfl, rfl, rfl, hdus.admitted, ?_, fun req socket => (hdus.setup req socket).2, hues.admitted, ?_⟩
  · rw [hdus.counter, BitVec.toNat_ofNat]
    exact Nat.mod_eq_of_lt (hlength.trans_lt (by decide))
  · rw [hues.counter, BitVec.toNat_ofNat]
    exact Nat.mod_eq_of_lt ((Nat.min_le_right _ _).trans_lt (by decide))

end Uesim
