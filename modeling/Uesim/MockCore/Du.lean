import Uesim.F1ap.Messages
import Uesim.Library.SlotBag

/-!
# The mock DU

A UE context is made for every setup request, whether or not the central unit has asked for one with the same
identifier before, and a release command takes away the first context with its identifier.
-/

namespace Uesim

open Bytes BitMemory KeyedSlots SlotBag

def duMaxUeContexts : Nat := 1024

structure DuUeContext where
  gnbCuUeF1apId : Word
  gnbDuUeF1apId : Word
  ranUeId : BitVec 64
  nrCellId : BitVec 64
  drbs : Counted 8 F1apDrbInfo 8
  srbs : Counted 8 Byte 3
  cRnti : BitVec 16
  gnbCuId : BitVec 64
  ueState : Byte
  active : Bool

inductive DuState where
  | idle
  | connecting
  | f1SetupPending
  | active
  | resetting
  deriving DecidableEq, Repr

structure DuCuConnection where
  gnbCuId : BitVec 64
  gnbCuName : List Byte
  state : DuState
  cellsToActivate : Counted 8 F1apServedCellInfo 512
  active : Bool

/-- `bind_ip` as `inet_addr` returns it. -/
structure DuConfig where
  bindIp : Word
  gnbDuId : Word
  gnbDuName : List Byte
  servedCells : Counted 8 F1apServedCellInfo 512
  rrcVersion : Octets 4
  ranac : Byte
  autoRespond : Bool

structure DuServer where
  config : DuConfig
  cuConnection : DuCuConnection
  ueContexts : Fin duMaxUeContexts → DuUeContext
  numUeContexts : Word
  nextDuUeId : Word
  f1apMessagesRx : BitVec 64
  f1apMessagesTx : BitVec 64
  f1SetupSuccess : BitVec 64
  f1SetupFailure : BitVec 64
  ueContextsCreated : BitVec 64
  ueContextsReleased : BitVec 64
  dlRrcMessages : BitVec 64

/-- What a message finds apart from the server: the number that `rand` returns, and what `uesim_malloc`
returns for the answer. -/
structure DuSurroundings where
  rand : Nat
  memory : Option Memory

/-- A context after `memset`. -/
def DuUeContext.cleared : DuUeContext where
  gnbCuUeF1apId := 0
  gnbDuUeF1apId := 0
  ranUeId := 0
  nrCellId := 0
  drbs := .empty
  srbs := .empty
  cRnti := 0
  gnbCuId := 0
  ueState := 0
  active := false

def duCreate (config : DuConfig) : DuServer where
  config := config
  cuConnection := ⟨0, [], .idle, .empty, false⟩
  ueContexts := fun _ => .cleared
  numUeContexts := 0
  nextDuUeId := 1
  f1apMessagesRx := 0
  f1apMessagesTx := 0
  f1SetupSuccess := 0
  f1SetupFailure := 0
  ueContextsCreated := 0
  ueContextsReleased := 0
  dlRrcMessages := 0

/-- `response` after `memset`: its type is that of an F1 setup request. -/
def f1apCleared : F1apMessage where
  procedureCode := 0
  criticality := 0
  payload := .f1SetupRequest ⟨⟨0, []⟩, .empty, 0, ⟨[0, 0, 0, 0], rfl⟩⟩

/-! ### Contexts -/

def DuUeContext.hasCuId (cuUeId : Word) (ue : DuUeContext) : Bool := ue.active && ue.gnbCuUeF1apId == cuUeId

def duFindUeByCuId (du : DuServer) (cuUeId : Word) : Option (Fin duMaxUeContexts) :=
  first (DuUeContext.hasCuId cuUeId) du.ueContexts

def DuServer.put (du : DuServer) (slot : Fin duMaxUeContexts) (ue : DuUeContext) : DuServer :=
  { du with ueContexts := Function.update du.ueContexts slot ue }

def duNewUeContext (rand : Nat) (duUeId : Word) : DuUeContext :=
  { DuUeContext.cleared with
    gnbDuUeF1apId := duUeId
    cRnti := BitVec.ofNat 16 (rand % 65535) + 1
    active := true }

/-- With the slot of the context that is returned. -/
def duCreateUeContext (rand : Nat) (du : DuServer) : DuServer × Option (Fin duMaxUeContexts) :=
  match first (fun ue => !ue.active) du.ueContexts with
  | none => (du, none)
  | some slot =>
      ({ du.put slot (duNewUeContext rand du.nextDuUeId) with
          nextDuUeId := du.nextDuUeId + 1
          numUeContexts := du.numUeContexts + 1
          ueContextsCreated := du.ueContextsCreated + 1 }, some slot)

/-! ### Handlers -/

def duHandleF1SetupResponse (du : DuServer) (resp : F1apF1SetupResponse) : DuServer :=
  { du with
    cuConnection :=
      { gnbCuId := resp.gnbCuId.gnbCuId
        gnbCuName := (resp.gnbCuId.gnbCuName.takeWhile (· ≠ 0)).take 63
        state := .active
        cellsToActivate := resp.cellsToActivate
        active := true }
    f1SetupSuccess := du.f1SetupSuccess + 1 }

def duHandleF1SetupFailure (du : DuServer) : DuServer :=
  { du with
    cuConnection := { du.cuConnection with state := .idle }
    f1SetupFailure := du.f1SetupFailure + 1 }

/-- `(uint32_t)(gnb_du_ue_f1ap_id << 8 | drb_id)` -/
def duTeid (duUeId : Word) (drbId : Byte) : Word := (duUeId <<< 8) ||| drbId.setWidth 32

def duDrbSetup (config : DuConfig) (duUeId : Word) (drb : F1apDrbInfo) : F1apDrbInfo :=
  { drb with ulUpTnlInfo := .one ⟨config.bindIp, 2152, duTeid duUeId drb.drbId⟩ }

/-- What the handler writes into a context that has just been created. -/
def duFillUeContext (du : DuServer) (req : F1apUeContextSetupRequest) (ue : DuUeContext) : DuUeContext :=
  { ue with
    gnbCuUeF1apId := req.ueIds.gnbCuUeF1apId
    ranUeId := req.ranUeId
    nrCellId := req.nrCellId
    gnbCuId := du.cuConnection.gnbCuId
    drbs := req.drbsToSetup
    srbs := req.srbsToSetup.map F1apSrbInfo.srbId
    ueState := 2 }

/-- The codec has no case for the type of a failure. -/
def duHandleUeContextSetupRequest (rand : Nat) (du : DuServer) (req : F1apUeContextSetupRequest) :
    DuServer × F1apMessage :=
  match duCreateUeContext rand du with
  | (du, none) => (du, { f1apCleared with procedureCode := 7, payload := .unhandled 16 })
  | (du, some slot) =>
      let ue := duFillUeContext du req (du.ueContexts slot)
      (du.put slot ue,
        { procedureCode := 7
          criticality := 0
          payload :=
            .ueContextSetupResponse
              { ueIds := ⟨ue.gnbCuUeF1apId, ue.gnbDuUeF1apId⟩
                drbsSetup := ue.drbs.map (duDrbSetup du.config ue.gnbDuUeF1apId)
                drbsFailed := .empty
                srbsSetup := ue.srbs
                duToCuRrcContainer := .empty } })

/-- The answer is the same whether or not there is such a context. -/
def duHandleUeContextReleaseCommand (du : DuServer) (cmd : F1apUeContextReleaseCommand) :
    DuServer × F1apMessage :=
  let response : F1apMessage :=
    { procedureCode := 8
      criticality := 0
      payload := .ueContextReleaseComplete { ueIds := cmd.ueIds, rrcContainer := .empty } }
  match duFindUeByCuId du cmd.ueIds.gnbCuUeF1apId with
  | none => (du, response)
  | some slot =>
      ({ du.put slot { du.ueContexts slot with active := false } with
          numUeContexts := du.numUeContexts - 1
          ueContextsReleased := du.ueContextsReleased + 1 }, response)

/-- With whether the UE has been found. -/
def duHandleDlRrcMessage (du : DuServer) (transfer : F1apDlRrcMessageTransfer) : DuServer × Bool :=
  ({ du with dlRrcMessages := du.dlRrcMessages + 1 },
    (duFindUeByCuId du transfer.ueIds.gnbCuUeF1apId).isSome)

def duHandleF1Reset (du : DuServer) : DuServer × F1apMessage :=
  ({ du with
      ueContexts := fun slot => { du.ueContexts slot with active := false }
      numUeContexts := 0 },
    { f1apCleared with procedureCode := 2, payload := .unhandled 4 })

/-- The switch over the message type, with `response`. -/
def duHandleMessage (rand : Nat) (du : DuServer) (msg : F1apMessage) : DuServer × F1apMessage :=
  match msg.payload with
  | .f1SetupResponse resp => (duHandleF1SetupResponse du resp, f1apCleared)
  | .f1SetupFailure _ => (duHandleF1SetupFailure du, f1apCleared)
  | .ueContextSetupRequest req => duHandleUeContextSetupRequest rand du req
  | .ueContextReleaseCommand cmd => duHandleUeContextReleaseCommand du cmd
  | .dlRrcMessageTransfer transfer => ((duHandleDlRrcMessage du transfer).1, f1apCleared)
  | .unhandled messageType => if messageType = 3 then duHandleF1Reset du else (du, f1apCleared)
  | _ => (du, f1apCleared)

/-- An answer is encoded and counted, but not sent. -/
def duProcessF1apMessage (around : DuSurroundings) (du : DuServer) (data : Memory) (len : Nat) : DuServer :=
  match f1apDecodeMessage len with
  | none => du
  | some reader =>
      let (du, response) :=
        duHandleMessage around.rand { du with f1apMessagesRx := du.f1apMessagesRx + 1 } (reader.value data 0)
      if du.config.autoRespond ∧ (f1apEncodeMessage around.memory response).isSome then
        { du with f1apMessagesTx := du.f1apMessagesTx + 1 }
      else du

/-- `du_send_f1_setup_request` -/
def duSendF1SetupRequest (memory : Option Memory) (du : DuServer) : DuServer :=
  let msg : F1apMessage :=
    { procedureCode := 1
      criticality := 0
      payload :=
        .f1SetupRequest
          { gnbDuId := ⟨du.config.gnbDuId, (du.config.gnbDuName.takeWhile (· ≠ 0)).take 63⟩
            servedCells := du.config.servedCells
            ranac := du.config.ranac
            gnbDuRrcVersion := du.config.rrcVersion } }
  if (f1apEncodeMessage memory msg).isSome then
    { du with
      f1apMessagesTx := du.f1apMessagesTx + 1
      cuConnection := { du.cuConnection with state := .f1SetupPending } }
  else du

/-!
## Runs of the mock DU

The contexts are a bag of the identifiers that the central unit has asked for. What is known about a UE is
whether its identifier is in the bag, so that a setup request that comes twice has to be released twice.
-/

inductive DuOp where
  | receive (around : DuSurroundings) (data : Memory) (len : Nat)
  | sendF1Setup (memory : Option Memory)

def duStep (du : DuServer) : DuOp → DuServer
  | .receive around data len => duProcessF1apMessage around du data len
  | .sendF1Setup memory => duSendF1SetupRequest memory du

/-- What a message means for the bag. -/
def duBagOp (msg : F1apMessage) : SlotBag.Op Word :=
  match msg.payload with
  | .ueContextSetupRequest req => .put req.ueIds.gnbCuUeF1apId
  | .ueContextReleaseCommand cmd => .take cmd.ueIds.gnbCuUeF1apId
  | .unhandled messageType => if messageType = 3 then .clear else .keep
  | _ => .keep

def DuOp.bagOp : DuOp → SlotBag.Op Word
  | .receive _ data len => (f1apDecodeMessage len).elim .keep fun reader => duBagOp (reader.value data 0)
  | .sendF1Setup _ => .keep

/-- The identifiers of the contexts that are active. -/
def DuServer.bag (du : DuServer) : Multiset Word :=
  SlotBag.bag DuUeContext.active DuUeContext.gnbCuUeF1apId du.ueContexts

/-- The context that a setup request leaves, if there is a slot for it. -/
def duContextFor (rand : Nat) (du : DuServer) (req : F1apUeContextSetupRequest) : DuUeContext :=
  duFillUeContext du req (duNewUeContext rand du.nextDuUeId)

/-- **All that a setup request does**, in the slot that is the first free one. -/
theorem duHandleUeContextSetupRequest_cases (rand : Nat) (du : DuServer) (req : F1apUeContextSetupRequest) :
    (first (fun ue => !ue.active) du.ueContexts = none
        ∧ duHandleUeContextSetupRequest rand du req
          = (du, { f1apCleared with procedureCode := 7, payload := .unhandled 16 }))
      ∨ ∃ slot, first (fun ue => !ue.active) du.ueContexts = some slot
        ∧ (duHandleUeContextSetupRequest rand du req).1
          = { du with
              ueContexts := Function.update du.ueContexts slot (duContextFor rand du req)
              nextDuUeId := du.nextDuUeId + 1
              numUeContexts := du.numUeContexts + 1
              ueContextsCreated := du.ueContextsCreated + 1 }
        ∧ ∃ resp, (duHandleUeContextSetupRequest rand du req).2.payload = .ueContextSetupResponse resp := by
  rw [duHandleUeContextSetupRequest, duCreateUeContext]
  cases hfirst : first (fun ue : DuUeContext => !ue.active) du.ueContexts with
  | none => exact .inl ⟨rfl, rfl⟩
  | some slot =>
      refine .inr ⟨slot, rfl, ?_, _, rfl⟩
      dsimp only [DuServer.put]
      rw [Function.update_self, Function.update_idem]
      rfl

/-- **All that a release command does.** -/
theorem duHandleUeContextReleaseCommand_cases (du : DuServer) (cmd : F1apUeContextReleaseCommand) :
    (duFindUeByCuId du cmd.ueIds.gnbCuUeF1apId = none ∧ (duHandleUeContextReleaseCommand du cmd).1 = du)
      ∨ ∃ slot, duFindUeByCuId du cmd.ueIds.gnbCuUeF1apId = some slot
        ∧ (duHandleUeContextReleaseCommand du cmd).1
          = { du with
              ueContexts := Function.update du.ueContexts slot { du.ueContexts slot with active := false }
              numUeContexts := du.numUeContexts - 1
              ueContextsReleased := du.ueContextsReleased + 1 } := by
  rw [duHandleUeContextReleaseCommand]
  cases hfind : duFindUeByCuId du cmd.ueIds.gnbCuUeF1apId with
  | none => exact .inl ⟨rfl, rfl⟩
  | some slot => exact .inr ⟨slot, rfl, rfl⟩

/-! ### The bag -/

/-- The table is the bag, and the counter beside it counts its keys. -/
abbrev DuServer.Holds (du : DuServer) (held : Multiset Word) : Prop :=
  Tracked DuUeContext.active DuUeContext.gnbCuUeF1apId du.ueContexts du.numUeContexts held

theorem duMaxUeContexts_lt : duMaxUeContexts < 2 ^ 32 := by decide

section Handlers

variable {du : DuServer} {held : Multiset Word}

theorem DuServer.Holds.setup (h : du.Holds held) (rand : Nat) (req : F1apUeContextSetupRequest) :
    (duHandleUeContextSetupRequest rand du req).1.Holds
      (Op.apply duMaxUeContexts held (.put req.ueIds.gnbCuUeF1apId)) := by
  rcases duHandleUeContextSetupRequest_cases rand du req with ⟨hnone, heq⟩ | ⟨slot, hsome, heq, -⟩
  · rw [heq, Tracked.put_none h hnone]
    exact h
  · rw [heq]
    exact Tracked.put_some h duMaxUeContexts_lt hsome rfl

theorem DuServer.Holds.release (h : du.Holds held) (cmd : F1apUeContextReleaseCommand) :
    (duHandleUeContextReleaseCommand du cmd).1.Holds
      (Op.apply duMaxUeContexts held (.take cmd.ueIds.gnbCuUeF1apId)) := by
  rcases duHandleUeContextReleaseCommand_cases du cmd with ⟨hnone, heq⟩ | ⟨slot, hsome, heq⟩
  · rw [heq, Tracked.take_none h hnone]
    exact h
  · rw [heq]
    exact Tracked.take_some h duMaxUeContexts_lt hsome rfl

theorem DuServer.Holds.reset (du : DuServer) : (duHandleF1Reset du).1.Holds 0 :=
  tracked_of_dead fun _ => rfl

/-- **Every message does to the table what it means for the bag.** -/
theorem DuServer.Holds.message (h : du.Holds held) (rand : Nat) (msg : F1apMessage) :
    (duHandleMessage rand du msg).1.Holds (Op.apply duMaxUeContexts held (duBagOp msg)) := by
  unfold duHandleMessage duBagOp
  cases msg.payload with
  | ueContextSetupRequest req => exact h.setup rand req
  | ueContextReleaseCommand cmd => exact h.release cmd
  | unhandled messageType =>
      dsimp only
      split
      · exact .reset du
      · exact h
  | _ => exact h

theorem DuServer.Holds.step (h : du.Holds held) (op : DuOp) :
    (duStep du op).Holds (Op.apply duMaxUeContexts held op.bagOp) := by
  cases op with
  | receive around data len =>
      rw [duStep, duProcessF1apMessage, DuOp.bagOp]
      cases f1apDecodeMessage len with
      | none => exact h
      | some reader =>
          have hrx : DuServer.Holds { du with f1apMessagesRx := du.f1apMessagesRx + 1 } held := h
          have hmessage := hrx.message around.rand (reader.value data 0)
          dsimp only [Option.elim_some]
          split
          · exact hmessage
          · exact hmessage
  | sendF1Setup memory =>
      rw [duStep, duSendF1SetupRequest]
      dsimp only
      split
      · exact h
      · exact h

end Handlers

theorem holds_duCreate (config : DuConfig) : (duCreate config).Holds 0 := tracked_of_dead fun _ => rfl

theorem duRun_holds (ops : List DuOp) {du : DuServer} {held : Multiset Word} (h : du.Holds held) :
    (ops.foldl duStep du).Holds ((ops.map DuOp.bagOp).foldl (Op.apply duMaxUeContexts) held) := by
  induction ops generalizing du held with
  | nil => exact h
  | cons op ops ih => exact ih (h.step op)

/-- **Whatever comes, the contexts are the bag that setup requests fill, release commands empty one by one,
and a reset clears.** A UE is found while its identifier is in the bag, a setup request is refused when the bag is
full, and the counter is the number of keys. -/
theorem du_refines_bag (config : DuConfig) (ops : List DuOp) :
    ∃ du held, du = ops.foldl duStep (duCreate config)
      ∧ held = (ops.map DuOp.bagOp).foldl (Op.apply duMaxUeContexts) 0
      ∧ du.bag = held ∧ du.numUeContexts.toNat = Multiset.card held
      ∧ (∀ cuUeId, (duFindUeByCuId du cuUeId).isSome = true ↔ cuUeId ∈ held)
      ∧ ∀ rand req, (∃ resp, (duHandleUeContextSetupRequest rand du req).2.payload
          = .ueContextSetupResponse resp) ↔ Multiset.card held < duMaxUeContexts := by
  have h := duRun_holds ops (holds_duCreate config)
  refine ⟨_, _, rfl, rfl, h.bag, h.counter, fun cuUeId => h.first_key_isSome_iff, fun rand req => ?_⟩
  rw [← Nat.not_le, ← h.first_free_eq_none_iff]
  rcases duHandleUeContextSetupRequest_cases rand (ops.foldl duStep (duCreate config)) req with
    ⟨hnone, heq⟩ | ⟨slot, hsome, -, hresp⟩
  · refine iff_of_false ?_ (not_not.mpr hnone)
    rintro ⟨resp, hresp⟩
    rw [heq] at hresp
    cases hresp
  · refine iff_of_true hresp ?_
    rw [hsome]
    exact Option.some_ne_none slot

/-! ### Tunnel endpoints -/

/-- The identifiers that the unit has given out go up to `count`, and no two active contexts have the same. -/
abbrev DuServer.Numbered (du : DuServer) (count : Nat) : Prop :=
  SlotBag.Numbered DuUeContext.active DuUeContext.gnbDuUeF1apId du.ueContexts du.nextDuUeId count

section Numbered

variable {du : DuServer} {count : Nat}

theorem DuServer.Numbered.setup (h : du.Numbered count) (hcount : count + 2 < 2 ^ 32) (rand : Nat)
    (req : F1apUeContextSetupRequest) :
    ∃ count' ≤ count + 1, (duHandleUeContextSetupRequest rand du req).1.Numbered count' := by
  rcases duHandleUeContextSetupRequest_cases rand du req with ⟨-, heq⟩ | ⟨slot, hsome, heq, -⟩
  · rw [heq]
    exact ⟨count, Nat.le_succ count, h⟩
  · rw [heq]
    exact ⟨count + 1, le_rfl, SlotBag.Numbered.put h hcount hsome rfl rfl⟩

theorem DuServer.Numbered.release (h : du.Numbered count) (cmd : F1apUeContextReleaseCommand) :
    (duHandleUeContextReleaseCommand du cmd).1.Numbered count := by
  rcases duHandleUeContextReleaseCommand_cases du cmd with ⟨-, heq⟩ | ⟨slot, -, heq⟩
  · rw [heq]
    exact h
  · rw [heq]
    exact SlotBag.Numbered.drop h rfl

theorem DuServer.Numbered.message (h : du.Numbered count) (hcount : count + 2 < 2 ^ 32) (rand : Nat)
    (msg : F1apMessage) : ∃ count' ≤ count + 1, (duHandleMessage rand du msg).1.Numbered count' := by
  have hle := Nat.le_succ count
  unfold duHandleMessage
  cases msg.payload with
  | ueContextSetupRequest req => exact h.setup hcount rand req
  | ueContextReleaseCommand cmd => exact ⟨count, hle, h.release cmd⟩
  | unhandled messageType =>
      dsimp only
      split
      · exact ⟨count, hle, SlotBag.Numbered.of_dead h fun _ => rfl⟩
      · exact ⟨count, hle, h⟩
  | _ => exact ⟨count, hle, h⟩

theorem DuServer.Numbered.step (h : du.Numbered count) (hcount : count + 2 < 2 ^ 32) (op : DuOp) :
    ∃ count' ≤ count + 1, (duStep du op).Numbered count' := by
  have hle := Nat.le_succ count
  cases op with
  | receive around data len =>
      rw [duStep, duProcessF1apMessage]
      cases f1apDecodeMessage len with
      | none => exact ⟨count, hle, h⟩
      | some reader =>
          have hrx : DuServer.Numbered { du with f1apMessagesRx := du.f1apMessagesRx + 1 } count := h
          obtain ⟨count', hle', hmessage⟩ := hrx.message hcount around.rand (reader.value data 0)
          dsimp only
          split
          · exact ⟨count', hle', hmessage⟩
          · exact ⟨count', hle', hmessage⟩
  | sendF1Setup memory =>
      rw [duStep, duSendF1SetupRequest]
      dsimp only
      split
      · exact ⟨count, hle, h⟩
      · exact ⟨count, hle, h⟩

end Numbered

theorem duRun_numbered (config : DuConfig) (ops : List DuOp) (hops : ops.length + 1 < 2 ^ 32) :
    ∃ count ≤ ops.length, (ops.foldl duStep (duCreate config)).Numbered count := by
  induction ops using List.reverseRecOn with
  | nil =>
      refine ⟨0, le_rfl, rfl, fun i hi => ?_, distinct_of_forall fun _ => rfl⟩
      cases hi
  | append_singleton ops op ih =>
      rw [List.length_append, List.length_singleton] at hops ⊢
      obtain ⟨count, hle, hnumbered⟩ := ih (by omega)
      obtain ⟨count', hle', hnumbered'⟩ := hnumbered.step (by omega) op
      rw [List.foldl_append]
      exact ⟨count', by omega, hnumbered'⟩

theorem toNat_duTeid {duUeId : Word} (h : duUeId.toNat < 2 ^ 24) (drbId : Byte) :
    (duTeid duUeId drbId).toNat = duUeId.toNat * 256 + drbId.toNat := by
  have hdrb : (drbId.setWidth 32 : Word).toNat = drbId.toNat :=
    BitVec.toNat_setWidth_of_le (by decide)
  have hshift : (duUeId <<< 8).toNat = duUeId.toNat <<< 8 := by
    rw [BitVec.toNat_shiftLeft, Nat.shiftLeft_eq]
    exact Nat.mod_eq_of_lt (by omega)
  have hlt : drbId.toNat < 2 ^ 8 := drbId.isLt
  rw [duTeid, BitVec.toNat_or, hdrb, hshift, ← Nat.shiftLeft_add_eq_or_of_lt hlt, Nat.shiftLeft_eq]

/-- **No tunnel endpoint is given to two bearers**, as long as the identifiers leave their upper byte free. -/
theorem du_teids_distinct (config : DuConfig) (ops : List DuOp) (hops : ops.length < 2 ^ 24) :
    ∃ du, du = ops.foldl duStep (duCreate config) ∧ ∀ i j drbId drbId',
      (du.ueContexts i).active = true → (du.ueContexts j).active = true →
        (duTeid (du.ueContexts i).gnbDuUeF1apId drbId = duTeid (du.ueContexts j).gnbDuUeF1apId drbId'
          ↔ i = j ∧ drbId = drbId') := by
  obtain ⟨count, hle, hnumbered⟩ := duRun_numbered config ops (by omega)
  refine ⟨_, rfl, fun i j drbId drbId' hi hj => ?_⟩
  have hidI := hnumbered.le_count i hi
  have hidJ := hnumbered.le_count j hj
  constructor
  · intro hteid
    rw [← BitVec.toNat_inj, toNat_duTeid (by omega), toNat_duTeid (by omega)] at hteid
    have hdrb := drbId.isLt
    have hdrb' := drbId'.isLt
    refine ⟨hnumbered.distinct i j hi hj (BitVec.eq_of_toNat_eq ?_), BitVec.eq_of_toNat_eq ?_⟩
    · omega
    · omega
  · rintro ⟨rfl, rfl⟩
    rfl

/-- The configuration of a unit without cells that answers. -/
def duPlainConfig : DuConfig where
  bindIp := 0
  gnbDuId := 1
  gnbDuName := []
  servedCells := .empty
  rrcVersion := ⟨[15, 0, 0, 0], rfl⟩
  ranac := 1
  autoRespond := true

/-- The same setup request twice: procedure 7, type 14, and zeros. -/
def duSetupTwice : List DuOp :=
  [.receive ⟨0, none⟩ (ofBytes [7, 0x03, 0x80]) 100, .receive ⟨0, none⟩ (ofBytes [7, 0x03, 0x80]) 100]

theorem du_teids_distinct_two :
    ∃ du, du = duSetupTwice.foldl duStep (duCreate duPlainConfig) ∧ ∀ i j drbId drbId',
      (du.ueContexts i).active = true → (du.ueContexts j).active = true →
        (duTeid (du.ueContexts i).gnbDuUeF1apId drbId = duTeid (du.ueContexts j).gnbDuUeF1apId drbId'
          ↔ i = j ∧ drbId = drbId') :=
  du_teids_distinct duPlainConfig duSetupTwice (by decide)

end Uesim
