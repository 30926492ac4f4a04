import Uesim.E1ap.Messages
import Uesim.Library.SlotBag

/-!
# The mock CU-UP

The bearer contexts are a bag of the identifiers that the control plane has sent. Two counters of a wider word
say how many contexts have come and gone.
-/

namespace Uesim

open Bytes BitMemory KeyedSlots SlotBag

def cuUpLocalMaxBearer : Nat := 64

structure CuUpBearerContext where
  gnbCuCpUeE1apId : Word
  gnbCuUpUeE1apId : Word
  ranUeId : BitVec 64
  pduSessions : Counted 8 E1apPduSessionInfo 256
  ueAmbrDl : BitVec 64
  ueAmbrUl : BitVec 64
  bearerState : Byte
  active : Bool

inductive CuUpState where
  | idle
  | e1SetupPending
  | connecting
  | active
  | resetting
  deriving DecidableEq, Repr

structure CuUpConfig where
  gnbCuUpId : BitVec 64
  gnbCuUpName : List Byte
  plmnMcc : Octets 3
  autoRespond : Bool

structure CuUpServer where
  config : CuUpConfig
  cuCpState : CuUpState
  cuCpActive : Bool
  bearerContexts : Fin cuUpLocalMaxBearer → CuUpBearerContext
  numBearerContexts : Word
  nextCuUpUeId : Word
  e1apMessagesRx : BitVec 64
  e1apMessagesTx : BitVec 64
  e1SetupSuccess : BitVec 64
  bearerContextsCreated : BitVec 64
  bearerContextsReleased : BitVec 64
  pduSessionsSetup : BitVec 64

/-- A context after `memset`. -/
def CuUpBearerContext.cleared : CuUpBearerContext where
  gnbCuCpUeE1apId := 0
  gnbCuUpUeE1apId := 0
  ranUeId := 0
  pduSessions := .empty
  ueAmbrDl := 0
  ueAmbrUl := 0
  bearerState := 0
  active := false

def cuUpCreate (config : CuUpConfig) : CuUpServer where
  config := config
  cuCpState := .idle
  cuCpActive := false
  bearerContexts := fun _ => .cleared
  numBearerContexts := 0
  nextCuUpUeId := 1
  e1apMessagesRx := 0
  e1apMessagesTx := 0
  e1SetupSuccess := 0
  bearerContextsCreated := 0
  bearerContextsReleased := 0
  pduSessionsSetup := 0

/-- `response` after `memset`: its type is that of an E1 setup request. -/
def e1apCleared : E1apMessage where
  procedureCode := 0
  criticality := 0
  payload := .e1SetupRequest ⟨⟨0, []⟩, .empty, 0, .empty⟩

/-- `e1ap_set_cause_misc` -/
def e1apCauseMisc (value : Byte) : E1apCause := ⟨3, value⟩

/-! ### Handlers -/

/-- The unit answers the request that it is meant to send itself, with its own name. -/
def cuUpHandleE1SetupRequest (cuUp : CuUpServer) : CuUpServer × E1apMessage :=
  ({ cuUp with
      cuCpActive := true
      cuCpState := .active
      e1SetupSuccess := cuUp.e1SetupSuccess + 1 },
    { procedureCode := 1
      criticality := 0
      payload :=
        .e1SetupResponse
          { gnbCuCpId :=
              ⟨cuUp.config.gnbCuUpId, (cuUp.config.gnbCuUpName.takeWhile (· ≠ 0)).take 63⟩
            supportedPlmns := .one cuUp.config.plmnMcc } })

def CuUpServer.put (cuUp : CuUpServer) (slot : Fin cuUpLocalMaxBearer) (ctx : CuUpBearerContext) :
    CuUpServer :=
  { cuUp with bearerContexts := Function.update cuUp.bearerContexts slot ctx }

/-- With the slot of the context that is returned. -/
def cuUpCreateBearerContext (cuUp : CuUpServer) : CuUpServer × Option (Fin cuUpLocalMaxBearer) :=
  match first (fun ctx => !ctx.active) cuUp.bearerContexts with
  | none => (cuUp, none)
  | some slot =>
      let ctx := { CuUpBearerContext.cleared with gnbCuUpUeE1apId := cuUp.nextCuUpUeId, active := true }
      ({ cuUp.put slot ctx with
          nextCuUpUeId := cuUp.nextCuUpUeId + 1
          numBearerContexts := cuUp.numBearerContexts + 1
          bearerContextsCreated := cuUp.bearerContextsCreated + 1 }, some slot)

/-- What the handler writes into a context that has just been created. -/
def cuUpFillBearerContext (req : E1apBearerContextSetupRequest) (ctx : CuUpBearerContext) : CuUpBearerContext :=
  { ctx with
    gnbCuCpUeE1apId := req.ueIds.gnbCuCpUeE1apId
    ranUeId := req.ranUeId
    ueAmbrDl := req.ueAmbrDl
    ueAmbrUl := req.ueAmbrUl
    pduSessions := req.pduSessions
    bearerState := 2 }

def cuUpHandleBearerContextSetupRequest (cuUp : CuUpServer) (req : E1apBearerContextSetupRequest) :
    CuUpServer × E1apMessage :=
  match cuUpCreateBearerContext cuUp with
  | (cuUp, none) =>
      (cuUp,
        { e1apCleared with
          procedureCode := 7
          payload := .bearerContextSetupFailure { ueIds := ⟨0, 0⟩, cause := e1apCauseMisc 0 } })
  | (cuUp, some slot) =>
      let ctx := cuUpFillBearerContext req (cuUp.bearerContexts slot)
      ({ cuUp.put slot ctx with
          pduSessionsSetup := cuUp.pduSessionsSetup + BitVec.ofNat 64 req.pduSessions.items.length },
        { procedureCode := 7
          criticality := 0
          payload :=
            .bearerContextSetupResponse
              { ueIds := ⟨ctx.gnbCuCpUeE1apId, ctx.gnbCuUpUeE1apId⟩
                pduSessionIds := ctx.pduSessions.map E1apPduSessionInfo.pduSessionId
                drbsSetup := .empty } })

def CuUpBearerContext.hasCpId (cpUeId : Word) (ctx : CuUpBearerContext) : Bool :=
  ctx.active && ctx.gnbCuCpUeE1apId == cpUeId

/-- The case of `cu_up_process_e1ap_message` for a release command. -/
def cuUpHandleBearerContextReleaseCommand (cuUp : CuUpServer) (cmd : E1apUeCause) :
    CuUpServer × E1apMessage :=
  let response : E1apMessage :=
    { procedureCode := 8
      criticality := 0
      payload := .bearerContextReleaseComplete cmd.ueIds }
  match first (CuUpBearerContext.hasCpId cmd.ueIds.gnbCuCpUeE1apId) cuUp.bearerContexts with
  | none => (cuUp, response)
  | some slot =>
      ({ cuUp.put slot { cuUp.bearerContexts slot with active := false } with
          numBearerContexts := cuUp.numBearerContexts - 1
          bearerContextsReleased := cuUp.bearerContextsReleased + 1 }, response)

/-- The switch over the message type, with `response`. -/
def cuUpHandleMessage (cuUp : CuUpServer) (msg : E1apMessage) : CuUpServer × E1apMessage :=
  match msg.payload with
  | .e1SetupRequest _ => cuUpHandleE1SetupRequest cuUp
  | .bearerContextSetupRequest req => cuUpHandleBearerContextSetupRequest cuUp req
  | .bearerContextReleaseCommand cmd => cuUpHandleBearerContextReleaseCommand cuUp cmd
  | _ => (cuUp, e1apCleared)

/-- An answer is encoded and counted, but not sent. -/
def cuUpProcessE1apMessage (memory : Option Memory) (cuUp : CuUpServer) (data : Memory) (len : Nat) :
    CuUpServer :=
  match e1apDecodeMessage len with
  | none => cuUp
  | some reader =>
      let (cuUp, response) :=
        cuUpHandleMessage { cuUp with e1apMessagesRx := cuUp.e1apMessagesRx + 1 } (reader.value data 0)
      if cuUp.config.autoRespond ∧ (e1apEncodeMessage memory response).isSome then
        { cuUp with e1apMessagesTx := cuUp.e1apMessagesTx + 1 }
      else cuUp

/-!
## Runs of the mock CU-UP

Nothing but a release command takes a context away, so that what has been created is what has been released and
what is still there.
-/

/-- A message as the listener receives it. -/
structure CuUpReceived where
  memory : Option Memory
  data : Memory
  len : Nat

def cuUpStep (cuUp : CuUpServer) (received : CuUpReceived) : CuUpServer :=
  cuUpProcessE1apMessage received.memory cuUp received.data received.len

/-- What a message means for the bag. -/
def cuUpBagOp (msg : E1apMessage) : SlotBag.Op Word :=
  match msg.payload with
  | .bearerContextSetupRequest req => .put req.ueIds.gnbCuCpUeE1apId
  | .bearerContextReleaseCommand cmd => .take cmd.ueIds.gnbCuCpUeE1apId
  | _ => .keep

def CuUpReceived.bagOp (received : CuUpReceived) : SlotBag.Op Word :=
  (e1apDecodeMessage received.len).elim .keep fun reader => cuUpBagOp (reader.value received.data 0)

/-- The identifiers of the contexts that are active. -/
def CuUpServer.bag (cuUp : CuUpServer) : Multiset Word :=
  SlotBag.bag CuUpBearerContext.active CuUpBearerContext.gnbCuCpUeE1apId cuUp.bearerContexts

/-- The context that a setup request leaves, if there is a slot for it. -/
def cuUpContextFor (cuUp : CuUpServer) (req : E1apBearerContextSetupRequest) : CuUpBearerContext :=
  cuUpFillBearerContext req
    { CuUpBearerContext.cleared with gnbCuUpUeE1apId := cuUp.nextCuUpUeId, active := true }

/-- **All that a setup request does**, in the slot that is the first free one. -/
theorem cuUpHandleBearerContextSetupRequest_cases (cuUp : CuUpServer) (req : E1apBearerContextSetupRequest) :
    (first (fun ctx => !ctx.active) cuUp.bearerContexts = none
        ∧ cuUpHandleBearerContextSetupRequest cuUp req
          = (cuUp,
              { e1apCleared with
                procedureCode := 7
                payload := .bearerContextSetupFailure { ueIds := ⟨0, 0⟩, cause := e1apCauseMisc 0 } }))
      ∨ ∃ slot, first (fun ctx => !ctx.active) cuUp.bearerContexts = some slot
        ∧ (cuUpHandleBearerContextSetupRequest cuUp req).1
          = { cuUp with
              bearerContexts := Function.update cuUp.bearerContexts slot (cuUpContextFor cuUp req)
              nextCuUpUeId := cuUp.nextCuUpUeId + 1
              numBearerContexts := cuUp.numBearerContexts + 1
              bearerContextsCreated := cuUp.bearerContextsCreated + 1
              pduSessionsSetup := cuUp.pduSessionsSetup + BitVec.ofNat 64 req.pduSessions.items.length }
        ∧ ∃ resp, (cuUpHandleBearerContextSetupRequest cuUp req).2.payload = .bearerContextSetupResponse resp
          ∧ resp.ueIds = ⟨req.ueIds.gnbCuCpUeE1apId, cuUp.nextCuUpUeId⟩ := by
  rw [cuUpHandleBearerContextSetupRequest, cuUpCreateBearerContext]
  cases hfirst : first (fun ctx : CuUpBearerContext => !ctx.active) cuUp.bearerContexts with
  | none => exact .inl ⟨rfl, rfl⟩
  | some slot =>
      refine .inr ⟨slot, rfl, ?_, _, rfl, ?_⟩
      · dsimp only [CuUpServer.put]
        rw [Function.update_self, Function.update_idem]
        rfl
      · dsimp only [CuUpServer.put]
        rw [Function.update_self]
        rfl

/-- **All that a release command does.** -/
theorem cuUpHandleBearerContextReleaseCommand_cases (cuUp : CuUpServer) (cmd : E1apUeCause) :
    (first (CuUpBearerContext.hasCpId cmd.ueIds.gnbCuCpUeE1apId) cuUp.bearerContexts = none
        ∧ (cuUpHandleBearerContextReleaseCommand cuUp cmd).1 = cuUp)
      ∨ ∃ slot, first (CuUpBearerContext.hasCpId cmd.ueIds.gnbCuCpUeE1apId) cuUp.bearerContexts = some slot
        ∧ (cuUpHandleBearerContextReleaseCommand cuUp cmd).1
          = { cuUp with
              bearerContexts :=
                Function.update cuUp.bearerContexts slot { cuUp.bearerContexts slot with active := false }
              numBearerContexts := cuUp.numBearerContexts - 1
              bearerContextsReleased := cuUp.bearerContextsReleased + 1 } := by
  rw [cuUpHandleBearerContextReleaseCommand]
  cases hfind : first (CuUpBearerContext.hasCpId cmd.ueIds.gnbCuCpUeE1apId) cuUp.bearerContexts with
  | none => exact .inl ⟨rfl, rfl⟩
  | some slot => exact .inr ⟨slot, rfl, rfl⟩

/-- The table is the bag with its counter, and what has been created is what has been released and what is
still there. -/
structure CuUpServer.Holds (cuUp : CuUpServer) (held : Multiset Word) : Prop where
  tracked : Tracked CuUpBearerContext.active CuUpBearerContext.gnbCuCpUeE1apId cuUp.bearerContexts
    cuUp.numBearerContexts held
  conserved : cuUp.bearerContextsCreated
    = cuUp.bearerContextsReleased + BitVec.ofNat 64 (Multiset.card held)

theorem cuUpLocalMaxBearer_lt : cuUpLocalMaxBearer < 2 ^ 32 := by decide

section Holds

variable {cuUp : CuUpServer} {held : Multiset Word}

theorem CuUpServer.Holds.setup (h : cuUp.Holds held) (req : E1apBearerContextSetupRequest) :
    (cuUpHandleBearerContextSetupRequest cuUp req).1.Holds
      (Op.apply cuUpLocalMaxBearer held (.put req.ueIds.gnbCuCpUeE1apId)) := by
  rcases cuUpHandleBearerContextSetupRequest_cases cuUp req with ⟨hnone, heq⟩ | ⟨slot, hsome, heq, -⟩
  · rw [heq, h.tracked.put_none hnone]
    exact h
  · rw [heq]
    refine ⟨h.tracked.put_some cuUpLocalMaxBearer_lt hsome rfl, ?_⟩
    rw [h.tracked.apply_put hsome, Multiset.card_cons]
    change cuUp.bearerContextsCreated + 1 = cuUp.bearerContextsReleased + _
    rw [h.conserved, BitVec.ofNat_add, BitVec.add_assoc]
    rfl

theorem CuUpServer.Holds.release (h : cuUp.Holds held) (cmd : E1apUeCause) :
    (cuUpHandleBearerContextReleaseCommand cuUp cmd).1.Holds
      (Op.apply cuUpLocalMaxBearer held (.take cmd.ueIds.gnbCuCpUeE1apId)) := by
  rcases cuUpHandleBearerContextReleaseCommand_cases cuUp cmd with ⟨hnone, heq⟩ | ⟨slot, hsome, heq⟩
  · rw [heq, h.tracked.take_none hnone]
    exact h
  · rw [heq]
    refine ⟨h.tracked.take_some cuUpLocalMaxBearer_lt hsome rfl, ?_⟩
    change cuUp.bearerContextsCreated = cuUp.bearerContextsReleased + 1 + _
    rw [h.conserved, ← h.tracked.card_take hsome, BitVec.ofNat_add, BitVec.add_assoc, BitVec.add_comm 1]
    rfl

/-- **Every message does to the table what it means for the bag.** -/
theorem CuUpServer.Holds.message (h : cuUp.Holds held) (msg : E1apMessage) :
    (cuUpHandleMessage cuUp msg).1.Holds (Op.apply cuUpLocalMaxBearer held (cuUpBagOp msg)) := by
  unfold cuUpHandleMessage cuUpBagOp
  cases msg.payload with
  | e1SetupRequest req => exact ⟨h.tracked, h.conserved⟩
  | bearerContextSetupRequest req => exact h.setup req
  | bearerContextReleaseCommand cmd => exact h.release cmd
  | _ => exact h

theorem CuUpServer.Holds.step (h : cuUp.Holds held) (received : CuUpReceived) :
    (cuUpStep cuUp received).Holds (Op.apply cuUpLocalMaxBearer held received.bagOp) := by
  rw [cuUpStep, cuUpProcessE1apMessage, CuUpReceived.bagOp]
  cases e1apDecodeMessage received.len with
  | none => exact h
  | some reader =>
      have hrx : CuUpServer.Holds { cuUp with e1apMessagesRx := cuUp.e1apMessagesRx + 1 } held :=
        ⟨h.tracked, h.conserved⟩
      have hmessage := hrx.message (reader.value received.data 0)
      dsimp only [Option.elim_some]
      split
      · exact ⟨hmessage.tracked, hmessage.conserved⟩
      · exact hmessage

end Holds

theorem holds_cuUpCreate (config : CuUpConfig) : (cuUpCreate config).Holds 0 :=
  ⟨tracked_of_dead fun _ => rfl, rfl⟩

theorem cuUpRun_holds (received : List CuUpReceived) {cuUp : CuUpServer} {held : Multiset Word}
    (h : cuUp.Holds held) :
    (received.foldl cuUpStep cuUp).Holds
      ((received.map CuUpReceived.bagOp).foldl (Op.apply cuUpLocalMaxBearer) held) := by
  induction received generalizing cuUp held with
  | nil => exact h
  | cons message received ih => exact ih (h.step message)

/-- **Whatever comes, the contexts are the bag that setup requests fill and release commands empty**, and what
has been created is what has been released and what is still there. A setup request is refused when the bag is
full, and else answered with the identifier that comes next. -/
theorem cuUp_refines_bag (config : CuUpConfig) (received : List CuUpReceived) :
    ∃ cuUp held, cuUp = received.foldl cuUpStep (cuUpCreate config)
      ∧ held = (received.map CuUpReceived.bagOp).foldl (Op.apply cuUpLocalMaxBearer) 0
      ∧ cuUp.bag = held ∧ cuUp.numBearerContexts.toNat = Multiset.card held
      ∧ cuUp.bearerContextsCreated = cuUp.bearerContextsReleased + cuUp.numBearerContexts.setWidth 64
      ∧ ∀ req, if Multiset.card held < cuUpLocalMaxBearer then
          ∃ resp, (cuUpHandleBearerContextSetupRequest cuUp req).2.payload = .bearerContextSetupResponse resp
            ∧ resp.ueIds = ⟨req.ueIds.gnbCuCpUeE1apId, cuUp.nextCuUpUeId⟩
        else ∃ fail, (cuUpHandleBearerContextSetupRequest cuUp req).2.payload = .bearerContextSetupFailure fail
            ∧ fail.ueIds = ⟨0, 0⟩ := by
  have h := cuUpRun_holds received (holds_cuUpCreate config)
  refine ⟨_, _, rfl, rfl, h.tracked.bag, h.tracked.counter, ?_, fun req => ?_⟩
  · rw [h.conserved, ← h.tracked.counter, BitVec.ofNat_toNat]
  · rcases cuUpHandleBearerContextSetupRequest_cases (received.foldl cuUpStep (cuUpCreate config)) req with
      ⟨hnone, heq⟩ | ⟨slot, hsome, -, hresp⟩
    · rw [if_neg (Nat.not_lt.mpr (h.tracked.first_free_eq_none_iff.mp hnone)), heq]
      exact ⟨_, rfl, rfl⟩
    · rw [if_pos (h.tracked.card_lt hsome)]
      exact hresp

end Uesim
