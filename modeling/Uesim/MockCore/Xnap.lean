import Uesim.Library.Admissions
import Uesim.Xnap.Messages

/-!
# The mock of a base station's Xn interface

A neighbour is the connection that a message comes over. The listener reads from neighbours that are active
only, and a neighbour is active from its setup request on, which the listener would have to read.
-/

namespace Uesim

open Bytes BitMemory KeyedSlots

def xnapMaxNeighborGnbs : Nat := 32

def xnapMaxUeContexts : Nat := 1024

inductive XnapState where
  | idle
  | xnSetupPending
  | active
  | resetting
  deriving DecidableEq, Repr

structure XnapNeighborGnb where
  gnbId : BitVec 64
  xnapSocket : Int
  state : XnapState
  servedCells : Counted 8 XnapServedCellInfo 64
  active : Bool

structure XnapUeContext where
  sourceGnbUeXnapId : Word
  targetGnbUeXnapId : Word
  drbs : Counted 8 XnapDrbInfo 8
  hoState : Byte
  active : Bool

structure XnapConfig where
  gnbId : BitVec 64
  autoRespond : Bool

structure XnapServer where
  config : XnapConfig
  neighbors : Fin xnapMaxNeighborGnbs → XnapNeighborGnb
  numNeighbors : Word
  ueContexts : Fin xnapMaxUeContexts → XnapUeContext
  numUeContexts : Word
  nextUeXnapId : Word
  xnapMessagesRx : BitVec 64
  xnapMessagesTx : BitVec 64
  xnSetupSuccess : BitVec 64
  handoversInitiated : BitVec 64
  handoversSuccess : BitVec 64
  handoversFailure : BitVec 64

/-- After `calloc`. -/
def XnapNeighborGnb.cleared : XnapNeighborGnb := ⟨0, 0, .idle, .empty, false⟩

/-- After `memset`. -/
def XnapUeContext.cleared : XnapUeContext := ⟨0, 0, .empty, 0, false⟩

def xnapCreate (config : XnapConfig) : XnapServer where
  config := config
  neighbors := fun _ => .cleared
  numNeighbors := 0
  ueContexts := fun _ => .cleared
  numUeContexts := 0
  nextUeXnapId := 1
  xnapMessagesRx := 0
  xnapMessagesTx := 0
  xnSetupSuccess := 0
  handoversInitiated := 0
  handoversSuccess := 0
  handoversFailure := 0

/-! ### Structures after `memset` -/

def zeroOctets (n : Nat) : Octets n := ⟨List.replicate n 0, List.length_replicate⟩

def xnapGlobalGnbIdOf (gnbId : BitVec 64) : XnapGlobalGnbId := ⟨zeroOctets 3, zeroOctets 3, 0, 0, gnbId⟩

def xnapPlmnIdZero : XnapPlmnId := ⟨zeroOctets 3, zeroOctets 3, 0⟩

def xnapDrbInfoZero : XnapDrbInfo := ⟨0, 0, 0, .empty, .empty⟩

/-- `response`: its type is that of a setup request. -/
def xnapCleared : XnapMessage where
  procedureCode := 0
  criticality := 0
  payload := .xnSetupRequest ⟨xnapGlobalGnbIdOf 0, [], .empty, .empty, .empty⟩

/-- `xnap_set_cause_misc` -/
def xnapCauseMisc (value : Byte) : XnapCause := ⟨3, value⟩

/-! ### Handlers -/

def XnapServer.putNeighbor (server : XnapServer) (idx : Fin xnapMaxNeighborGnbs) (neighbor : XnapNeighborGnb) :
    XnapServer :=
  { server with neighbors := Function.update server.neighbors idx neighbor }

/-- A setup request that comes again counts as another neighbour. -/
def xnapHandleXnSetupRequest (server : XnapServer) (req : XnapXnSetupRequest)
    (idx : Fin xnapMaxNeighborGnbs) : XnapServer × XnapMessage :=
  ({ server.putNeighbor idx
        { server.neighbors idx with
          gnbId := req.globalGnbId.gnbId, servedCells := req.servedCells, state := .active, active := true } with
      numNeighbors := server.numNeighbors + 1
      xnSetupSuccess := server.xnSetupSuccess + 1 },
    { procedureCode := 1
      criticality := 0
      payload := .xnSetupResponse ⟨xnapGlobalGnbIdOf server.config.gnbId, [], .empty, .empty⟩ })

def XnapServer.putUe (server : XnapServer) (slot : Fin xnapMaxUeContexts) (ue : XnapUeContext) : XnapServer :=
  { server with ueContexts := Function.update server.ueContexts slot ue }

/-- The acknowledgement counts the bearers of the request, and says nothing of them. -/
def xnapHandoverRequestAck (ue : XnapUeContext) : XnapHandoverRequestAck where
  ueIds := ⟨ue.sourceGnbUeXnapId, ue.targetGnbUeXnapId⟩
  targetToSourceContainer := .empty
  drbsSetup := ue.drbs.map fun _ => xnapDrbInfoZero
  drbsFailed := .empty

/-- The loop finds a free context, and does not look whether the UE has one. -/
def xnapHandleHandoverRequest (server : XnapServer) (req : XnapHandoverRequest) : XnapServer × XnapMessage :=
  match first (fun ue => !ue.active) server.ueContexts with
  | none =>
      ({ server with handoversFailure := server.handoversFailure + 1 },
        { xnapCleared with
          procedureCode := 6, payload := .handoverPreparationFailure ⟨⟨0, 0⟩, xnapCauseMisc 0⟩ })
  | some slot =>
      let ue : XnapUeContext :=
        { sourceGnbUeXnapId := req.ueIds.sourceGnbUeXnapId
          targetGnbUeXnapId := server.nextUeXnapId
          drbs := req.drbsToSetup
          hoState := 2
          active := true }
      ({ server.putUe slot ue with
          nextUeXnapId := server.nextUeXnapId + 1
          numUeContexts := server.numUeContexts + 1
          handoversSuccess := server.handoversSuccess + 1 },
        { procedureCode := 6
          criticality := 0
          payload := .handoverRequestAck (xnapHandoverRequestAck ue) })

/-- The switch over the message type, with `response`. A cancellation is printed. -/
def xnapHandleMessage (server : XnapServer) (msg : XnapMessage) (idx : Fin xnapMaxNeighborGnbs) :
    XnapServer × XnapMessage :=
  match msg.payload with
  | .xnSetupRequest req => xnapHandleXnSetupRequest server req idx
  | .handoverRequest req => xnapHandleHandoverRequest server req
  | .handoverNotify _ => ({ server with handoversInitiated := server.handoversInitiated + 1 }, xnapCleared)
  | .unhandled messageType =>
      if messageType = 3 then (server, { xnapCleared with procedureCode := 2, payload := .unhandled 4 })
      else (server, xnapCleared)
  | _ => (server, xnapCleared)

def XnapServer.countSent (server : XnapServer) (memory : Option Memory) (msg : XnapMessage) : XnapServer :=
  if (xnapEncodeMessage memory msg).isSome then { server with xnapMessagesTx := server.xnapMessagesTx + 1 }
  else server

def xnapProcessMessage (memory : Option Memory) (server : XnapServer) (data : Memory) (len : Nat)
    (idx : Fin xnapMaxNeighborGnbs) : XnapServer :=
  match xnapDecodeMessage len with
  | none => server
  | some reader =>
      let (server, response) :=
        xnapHandleMessage { server with xnapMessagesRx := server.xnapMessagesRx + 1 } (reader.value data 0) idx
      if server.config.autoRespond then server.countSent memory response else server

/-! ### Handover -/

def XnapNeighborGnb.hasGnbId (gnbId : BitVec 64) (neighbor : XnapNeighborGnb) : Bool :=
  neighbor.active && neighbor.gnbId == gnbId

def xnapHandoverRequestFor (sourceUeId : Word) (targetCellId : BitVec 64) : XnapHandoverRequest where
  ueIds := ⟨sourceUeId, 0⟩
  amfUeId := 0
  ranUeId := 0
  targetGnbId := xnapGlobalGnbIdOf 0
  targetCellId := targetCellId
  sourceToTargetContainer := .empty
  drbsToSetup := .one ⟨1, 0, 0, .one ⟨1, 0, 0, 0⟩, .empty⟩
  ueAmbrDl := 0
  ueAmbrUl := 0
  snssai := .empty
  securityKey := .empty
  plmn := xnapPlmnIdZero

/-- With whether the target has been found. -/
def xnapInitiateHandover (memory : Option Memory) (server : XnapServer) (sourceUeId : Word)
    (targetGnbId targetCellId : BitVec 64) : XnapServer × Bool :=
  match first (XnapNeighborGnb.hasGnbId targetGnbId) server.neighbors with
  | none => (server, false)
  | some _ =>
      let msg : XnapMessage := ⟨6, 0, .handoverRequest (xnapHandoverRequestFor sourceUeId targetCellId)⟩
      if (xnapEncodeMessage memory msg).isSome then
        ({ server with
            xnapMessagesTx := server.xnapMessagesTx + 1
            handoversInitiated := server.handoversInitiated + 1 }, true)
      else (server, true)

/-! ### The listener -/

/-- What `select` and `recv` find at a neighbour's socket, with what `uesim_malloc` returns for the answer. -/
inductive XnapReadable where
  | nothing
  | closed
  | bytes (memory : Option Memory) (data : Memory) (len : Nat)

/-- One round of the loop over the neighbours. -/
def xnapListenTo (readable : Fin xnapMaxNeighborGnbs → XnapReadable) (server : XnapServer)
    (idx : Fin xnapMaxNeighborGnbs) : XnapServer :=
  if (server.neighbors idx).active ∧ 0 ≤ (server.neighbors idx).xnapSocket then
    match readable idx with
    | .nothing => server
    | .closed => server.putNeighbor idx { server.neighbors idx with active := false, xnapSocket := -1 }
    | .bytes memory data len => xnapProcessMessage memory server data len idx
  else server

/-- One turn of the listener. A connection that it accepts is stored nowhere. -/
def xnapListen (server : XnapServer) (readable : Fin xnapMaxNeighborGnbs → XnapReadable) : XnapServer :=
  (List.finRange xnapMaxNeighborGnbs).foldl (xnapListenTo readable) server

/-!
## Runs of the mock Xn interface

Whatever messages are handed to the server, a handover that has been prepared is never forgotten, so that the
table takes the first requests only. The listener hands none to it.
-/

open Admissions

/-- What can be done to a server, by the listener or by calling it. -/
inductive XnapOp where
  | message (memory : Option Memory) (data : Memory) (len : Nat) (idx : Fin xnapMaxNeighborGnbs)
  | disconnect (idx : Fin xnapMaxNeighborGnbs)
  | initiate (memory : Option Memory) (sourceUeId : Word) (targetGnbId targetCellId : BitVec 64)

def xnapStep (server : XnapServer) : XnapOp → XnapServer
  | .message memory data len idx => xnapProcessMessage memory server data len idx
  | .disconnect idx =>
      server.putNeighbor idx { server.neighbors idx with active := false, xnapSocket := -1 }
  | .initiate memory sourceUeId targetGnbId targetCellId =>
      (xnapInitiateHandover memory server sourceUeId targetGnbId targetCellId).1

/-- The UE that a message asks to prepare a handover for. -/
def xnapHandoverSource (msg : XnapMessage) : Option Word :=
  match msg.payload with
  | .handoverRequest req => some req.ueIds.sourceGnbUeXnapId
  | _ => none

def XnapOp.handoverSource : XnapOp → Option Word
  | message _ data len _ =>
      (xnapDecodeMessage len).bind fun reader => xnapHandoverSource (reader.value data 0)
  | disconnect _ => none
  | initiate .. => none

/-! ### Handovers that are prepared -/

def XnapUeContext.ids (ue : XnapUeContext) : Word × Word := (ue.sourceGnbUeXnapId, ue.targetGnbUeXnapId)

/-- The first requests that there is room for, each with the number of its place. -/
def xnapPrepared (requests : List Word) : List (Word × Word) :=
  (requests.take xnapMaxUeContexts).mapIdx fun place source => (source, BitVec.ofNat 32 (place + 1))

theorem length_xnapPrepared (requests : List Word) :
    (xnapPrepared requests).length = min xnapMaxUeContexts requests.length := by
  rw [xnapPrepared, List.length_mapIdx, List.length_take]

theorem xnapPrepared_append_of_lt {requests : List Word} (h : requests.length < xnapMaxUeContexts)
    (source : Word) :
    xnapPrepared (requests ++ [source])
      = xnapPrepared requests ++ [(source, BitVec.ofNat 32 (requests.length + 1))] := by
  have hlength : (requests ++ [source]).length ≤ xnapMaxUeContexts := by
    rw [List.length_append, List.length_singleton]
    exact h
  rw [xnapPrepared, xnapPrepared, List.take_of_length_le hlength, List.take_of_length_le h.le,
    List.mapIdx_append, List.mapIdx_singleton, Nat.zero_add]

theorem xnapPrepared_append_of_ge {requests : List Word} (h : xnapMaxUeContexts ≤ requests.length)
    (source : Word) : xnapPrepared (requests ++ [source]) = xnapPrepared requests := by
  rw [xnapPrepared, List.take_append_of_le_length h, ← xnapPrepared]

/-- The contexts are those of the first requests, and the counters say how many requests came. -/
structure XnapServer.Prepared (server : XnapServer) (requests : List Word) : Prop where
  admitted : Admitted XnapUeContext.active XnapUeContext.ids server.ueContexts (xnapPrepared requests)
  next : server.nextUeXnapId = BitVec.ofNat 32 (min xnapMaxUeContexts requests.length + 1)
  counter : server.numUeContexts = BitVec.ofNat 32 (min xnapMaxUeContexts requests.length)
  success : server.handoversSuccess = BitVec.ofNat 64 (min xnapMaxUeContexts requests.length)
  failure : server.handoversFailure = BitVec.ofNat 64 (requests.length - xnapMaxUeContexts)

section Handlers

variable {server : XnapServer} {requests : List Word}

/-- What does not touch the contexts and their counters. -/
theorem XnapServer.Prepared.of_same (h : server.Prepared requests) {server' : XnapServer}
    (hcontexts : server'.ueContexts = server.ueContexts) (hnext : server'.nextUeXnapId = server.nextUeXnapId)
    (hcounter : server'.numUeContexts = server.numUeContexts)
    (hsuccess : server'.handoversSuccess = server.handoversSuccess)
    (hfailure : server'.handoversFailure = server.handoversFailure) : server'.Prepared requests :=
  ⟨hcontexts ▸ h.admitted, hnext.trans h.next, hcounter.trans h.counter, hsuccess.trans h.success,
    hfailure.trans h.failure⟩

/-- **All that a handover request does, and what it is answered.** -/
theorem XnapServer.Prepared.handover (h : server.Prepared requests) (req : XnapHandoverRequest) :
    (xnapHandleHandoverRequest server req).1.Prepared (requests ++ [req.ueIds.sourceGnbUeXnapId])
      ∧ if requests.length < xnapMaxUeContexts then
          ∃ ack, (xnapHandleHandoverRequest server req).2.payload = .handoverRequestAck ack
            ∧ ack.ueIds = ⟨req.ueIds.sourceGnbUeXnapId, BitVec.ofNat 32 (requests.length + 1)⟩
            ∧ ack.drbsSetup.count = req.drbsToSetup.count
            ∧ ∀ drb ∈ ack.drbsSetup.items, drb = xnapDrbInfoZero
        else ∃ fail, (xnapHandleHandoverRequest server req).2.payload = .handoverPreparationFailure fail
            ∧ fail.ueIds = ⟨0, 0⟩ := by
  have hlength := length_xnapPrepared requests
  have happend : (requests ++ [req.ueIds.sourceGnbUeXnapId]).length = requests.length + 1 := by
    rw [List.length_append, List.length_singleton]
  rw [xnapHandleHandoverRequest]
  cases hfree : first (fun ue : XnapUeContext => !ue.active) server.ueContexts with
  | none =>
      have hfull := h.admitted.first_free_eq_none_iff.mp hfree
      have hge : xnapMaxUeContexts ≤ requests.length := by omega
      have hsame : min xnapMaxUeContexts (requests.length + 1) = min xnapMaxUeContexts requests.length := by
        omega
      rw [if_neg (Nat.not_lt.mpr hge)]
      refine ⟨⟨?_, ?_, ?_, ?_, ?_⟩, _, rfl, rfl⟩
      · rw [xnapPrepared_append_of_ge hge]
        exact h.admitted
      · rw [happend, hsame]
        exact h.next
      · rw [happend, hsame]
        exact h.counter
      · rw [happend, hsame]
        exact h.success
      · change server.handoversFailure + 1 = _
        rw [h.failure, happend, Nat.sub_add_comm hge, BitVec.ofNat_add]
        rfl
  | some slot =>
      have hslot := h.admitted.first_free_eq_some hfree
      have hbound := slot.isLt
      have hlt : requests.length < xnapMaxUeContexts := by omega
      have hnext := h.next
      rw [min_eq_right hlt.le] at hnext
      rw [if_pos hlt]
      refine ⟨⟨?_, ?_, ?_, ?_, ?_⟩, _, rfl, ?_, rfl, fun drb hdrb => ?_⟩
      · rw [xnapPrepared_append_of_lt hlt, ← hnext]
        exact h.admitted.push hslot rfl
      · change server.nextUeXnapId + 1 = _
        rw [hnext, happend, min_eq_right (by omega), BitVec.ofNat_add (requests.length + 1)]
        rfl
      · change server.numUeContexts + 1 = _
        rw [h.counter, happend, min_eq_right hlt.le, min_eq_right (by omega), BitVec.ofNat_add]
        rfl
      · change server.handoversSuccess + 1 = _
        rw [h.success, happend, min_eq_right hlt.le, min_eq_right (by omega), BitVec.ofNat_add]
        rfl
      · rw [happend, Nat.sub_eq_zero_of_le hlt]
        exact h.failure.trans (by rw [Nat.sub_eq_zero_of_le hlt.le])
      · exact congrArg _ hnext
      · obtain ⟨drb', -, rfl⟩ := List.mem_map.mp hdrb
        rfl

theorem XnapServer.Prepared.message (h : server.Prepared requests) (msg : XnapMessage)
    (idx : Fin xnapMaxNeighborGnbs) :
    (xnapHandleMessage server msg idx).1.Prepared (requests ++ (xnapHandoverSource msg).toList) := by
  unfold xnapHandleMessage xnapHandoverSource
  cases msg.payload with
  | handoverRequest req => exact (h.handover req).1
  | unhandled messageType =>
      rw [Option.toList_none, List.append_nil]
      dsimp only
      split
      · exact h
      · exact h
  | _ =>
      rw [Option.toList_none, List.append_nil]
      exact h.of_same rfl rfl rfl rfl rfl

theorem XnapServer.Prepared.step (h : server.Prepared requests) (op : XnapOp) :
    (xnapStep server op).Prepared (requests ++ op.handoverSource.toList) := by
  cases op with
  | message memory data len idx =>
      rw [xnapStep, xnapProcessMessage, XnapOp.handoverSource]
      cases xnapDecodeMessage len with
      | none =>
          rw [Option.bind_none, Option.toList_none, List.append_nil]
          exact h
      | some reader =>
          have hrx : XnapServer.Prepared { server with xnapMessagesRx := server.xnapMessagesRx + 1 } requests :=
            h.of_same rfl rfl rfl rfl rfl
          have hmessage := hrx.message (reader.value data 0) idx
          rw [Option.bind_some]
          dsimp only
          split
          · rw [XnapServer.countSent]
            split
            · exact hmessage.of_same rfl rfl rfl rfl rfl
            · exact hmessage
          · exact hmessage
  | disconnect idx =>
      rw [XnapOp.handoverSource, Option.toList_none, List.append_nil]
      exact h.of_same rfl rfl rfl rfl rfl
  | initiate memory sourceUeId targetGnbId targetCellId =>
      rw [XnapOp.handoverSource, Option.toList_none, List.append_nil, xnapStep, xnapInitiateHandover]
      cases first (XnapNeighborGnb.hasGnbId targetGnbId) server.neighbors with
      | none => exact h
      | some slot =>
          dsimp only
          split
          · exact h.of_same rfl rfl rfl rfl rfl
          · exact h

end Handlers

theorem prepared_xnapCreate (config : XnapConfig) : (xnapCreate config).Prepared [] :=
  ⟨admitted_of_dead fun _ => rfl, rfl, rfl, rfl, rfl⟩

theorem xnapRun_prepared (config : XnapConfig) (ops : List XnapOp) :
    (ops.foldl xnapStep (xnapCreate config)).Prepared (ops.filterMap XnapOp.handoverSource) := by
  induction ops using List.reverseRecOn with
  | nil => exact prepared_xnapCreate config
  | append_singleton ops op ih =>
      have hsource : [op].filterMap XnapOp.handoverSource = op.handoverSource.toList := by
        rw [List.filterMap_cons]
        cases op.handoverSource with
        | none => rfl
        | some source => rfl
      rw [List.foldl_append, List.filterMap_append, hsource]
      exact ih.step op

/-- **A handover that has been prepared is never forgotten.** The contexts are those of the first requests that
there is room for, whether or not they ask for the same UE again and whatever comes between them. The next
request is acknowledged with the number of its place, and for all of its bearers with bearer zero. -/
theorem xnap_prepares_the_first (config : XnapConfig) (ops : List XnapOp) :
    ∃ server requests, server = ops.foldl xnapStep (xnapCreate config)
      ∧ requests = ops.filterMap XnapOp.handoverSource
      ∧ Admitted XnapUeContext.active XnapUeContext.ids server.ueContexts (xnapPrepared requests)
      ∧ server.numUeContexts.toNat = min xnapMaxUeContexts requests.length
      ∧ server.handoversSuccess + server.handoversFailure = BitVec.ofNat 64 requests.length
      ∧ ∀ req, if requests.length < xnapMaxUeContexts then
          ∃ ack, (xnapHandleHandoverRequest server req).2.payload = .handoverRequestAck ack
            ∧ ack.ueIds = ⟨req.ueIds.sourceGnbUeXnapId, BitVec.ofNat 32 (requests.length + 1)⟩
            ∧ ack.drbsSetup.count = req.drbsToSetup.count
            ∧ ∀ drb ∈ ack.drbsSetup.items, drb = xnapDrbInfoZero
        else ∃ fail, (xnapHandleHandoverRequest server req).2.payload = .handoverPreparationFailure fail
            ∧ fail.ueIds = ⟨0, 0⟩ := by
  have h := xnapRun_prepared config ops
  refine ⟨_, _, rfl, rfl, h.admitted, ?_, ?_, fun req => (h.handover req).2⟩
  · rw [h.counter, BitVec.toNat_ofNat]
    exact Nat.mod_eq_of_lt ((Nat.min_le_left _ _).trans_lt (by decide))
  · rw [h.success, h.failure, ← BitVec.ofNat_add]
    exact congrArg (BitVec.ofNat 64) (by omega)

/-! ### What the listener hears -/

/-- No neighbour is active. -/
def XnapServer.Deaf (server : XnapServer) : Prop := ∀ idx, (server.neighbors idx).active = false

theorem xnapListen_of_deaf {server : XnapServer} (h : server.Deaf)
    (readable : Fin xnapMaxNeighborGnbs → XnapReadable) : xnapListen server readable = server := by
  have hround (idx : Fin xnapMaxNeighborGnbs) : xnapListenTo readable server idx = server := by
    refine if_neg fun hactive => ?_
    rw [h idx] at hactive
    exact Bool.false_ne_true hactive.1
  rw [xnapListen]
  induction List.finRange xnapMaxNeighborGnbs with
  | nil => rfl
  | cons idx indices ih => rw [List.foldl_cons, hround, ih]

theorem xnapInitiateHandover_of_deaf {server : XnapServer} (h : server.Deaf) (memory : Option Memory)
    (sourceUeId : Word) (targetGnbId targetCellId : BitVec 64) :
    xnapInitiateHandover memory server sourceUeId targetGnbId targetCellId = (server, false) := by
  have hnone : first (XnapNeighborGnb.hasGnbId targetGnbId) server.neighbors = none := by
    rw [first_eq_none_iff]
    intro idx
    rw [XnapNeighborGnb.hasGnbId, h idx, Bool.false_and]
  rw [xnapInitiateHandover, hnone]

/-- What happens to a server that has been started: turns of the listener, and calls for a handover. -/
inductive XnapServed where
  | listen (readable : Fin xnapMaxNeighborGnbs → XnapReadable)
  | initiate (memory : Option Memory) (sourceUeId : Word) (targetGnbId targetCellId : BitVec 64)

def xnapServe (server : XnapServer) : XnapServed → XnapServer
  | .listen readable => xnapListen server readable
  | .initiate memory sourceUeId targetGnbId targetCellId =>
      (xnapInitiateHandover memory server sourceUeId targetGnbId targetCellId).1

/-- **A server that has been started stays as it is, whatever is sent to it**: the setup request that would
make a neighbour active is read from neighbours that are active only. No handover finds its target. -/
theorem xnap_listener_hears_nobody (config : XnapConfig) (served : List XnapServed) :
    served.foldl xnapServe (xnapCreate config) = xnapCreate config
      ∧ ∀ memory sourceUeId targetGnbId targetCellId,
        (xnapInitiateHandover memory (served.foldl xnapServe (xnapCreate config)) sourceUeId targetGnbId
          targetCellId).2 = false := by
  have hdeaf : (xnapCreate config).Deaf := fun _ => rfl
  have hrun : served.foldl xnapServe (xnapCreate config) = xnapCreate config := by
    induction served with
    | nil => rfl
    | cons event served ih =>
        have hstep : xnapServe (xnapCreate config) event = xnapCreate config := by
          cases event with
          | listen readable => exact xnapListen_of_deaf hdeaf readable
          | initiate memory sourceUeId targetGnbId targetCellId =>
              exact congrArg Prod.fst (xnapInitiateHandover_of_deaf hdeaf memory sourceUeId targetGnbId targetCellId)
        rw [List.foldl_cons, hstep, ih]
  refine ⟨hrun, fun memory sourceUeId targetGnbId targetCellId => ?_⟩
  rw [hrun]
  exact congrArg Prod.snd (xnapInitiateHandover_of_deaf hdeaf memory sourceUeId targetGnbId targetCellId)

end Uesim
