import Uesim.Library.Runs
import Uesim.Library.SlotBag
import Uesim.MockGnb.Server
import Uesim.Ngap.NasTransport

/-!
# The relay between the mock gNB and the mock core

The relay waits for an answer to its setup request, and hands to a UE what comes down for it. It learns what has
come from `ngap_decode_message`, which knows the messages that go up. On the user plane it looks for a version
that no packet can have.
-/

namespace Uesim

open Bytes BitMemory KeyedSlots SlotBag Runs

def maxGtpuTunnels : Nat := 256

/-- `SCTP_PPID_NGAP` -/
def sctpPpidNgap : Word := 60

inductive MockIntegrationError where
  | success
  | invalidParam
  | memory
  | socket
  | connect
  | amfSetup
  | notConnected
  | protocol
  | timeout
  | capacity
  deriving DecidableEq

structure MockIntegrationConfig where
  gnbId : Word
  tac : BitVec 16
  autoConnectAmf : Bool

structure UeMapping where
  ranUeNgapId : Word
  amfUeNgapId : BitVec 64
  ueSocket : Int
  active : Bool

structure GtpuTunnel where
  teid : Word
  ueIp : Word
  peerIp : Word
  peerPort : BitVec 16
  uplink : Bool
  active : Bool

/-- The tunnels are static variables in the source. `amfListening` tells whether the thread that listens to the AMF
is there. -/
structure MockIntegrationCtx where
  config : MockIntegrationConfig
  amfConnected : Bool
  amfSetupComplete : Bool
  amfListening : Bool
  ueMapping : Fin mockGnbMaxUes → UeMapping
  running : Bool
  messagesToAmf : BitVec 64
  messagesFromAmf : BitVec 64
  messagesToUe : BitVec 64
  gtpuTunnels : Fin maxGtpuTunnels → GtpuTunnel

def mockIntegrationCreate (config : MockIntegrationConfig) : MockIntegrationCtx where
  config := config
  amfConnected := false
  amfSetupComplete := false
  amfListening := false
  ueMapping := fun _ => ⟨0, 0, 0, false⟩
  running := false
  messagesToAmf := 0
  messagesFromAmf := 0
  messagesToUe := 0
  gtpuTunnels := fun _ => ⟨0, 0, 0, 0, false, false⟩

/-- `message_type`, by its place in the enumeration. -/
def NgapPayload.messageType : NgapPayload → Word
  | ngSetupRequest _ => 0
  | initialUeMessage _ => 3
  | ueContextReleaseRequest _ => 7
  | ueContextReleaseComplete _ => 9
  | uplinkNasTransport _ => 13
  | other messageType => messageType

/-! ### The link to the AMF -/

/-- What the surroundings do while the link is set up: whether there is a socket and a connection, what
`uesim_malloc` returns, whether sending succeeds, what is received with its protocol, and what the stack holds. -/
structure AmfLinkSurroundings where
  socket : Bool
  connected : Bool
  memory : Option Memory
  sent : Bool
  received : Option (Memory × Nat × Word)
  uninit : Word

def connectToAmf (around : AmfLinkSurroundings) (ctx : MockIntegrationCtx) : MockIntegrationCtx × MockIntegrationError :=
  if around.socket = false then (ctx, .socket)
  else if around.connected = false then (ctx, .connect)
  else ({ ctx with amfConnected := true }, .success)

def disconnectFromAmf (ctx : MockIntegrationCtx) : MockIntegrationCtx :=
  { ctx with amfConnected := false, amfSetupComplete := false }

theorem length_plmnIdOf (a b c : Byte) : [a, b, c].length = 3 := rfl

def plmnIdOf (a b c : Byte) : Octets 3 := ⟨[a, b, c], length_plmnIdOf a b c⟩

def mockIntegrationSetupRequest (config : MockIntegrationConfig) : NgapMessage where
  procedureCode := 21
  criticality := 0
  transactionId := 0
  payload := .ngSetupRequest
    ⟨⟨ngapNoPlmnId, config.gnbId⟩, .one ⟨plmnIdOf 0x00 0x01 0xF1, config.tac.setWidth 32⟩, 0, 0⟩

def mockIntegrationNgSetup (around : AmfLinkSurroundings) (ctx : MockIntegrationCtx) :
    MockIntegrationCtx × MockIntegrationError :=
  if ctx.amfConnected = false then (ctx, .notConnected)
  else
    match ngapEncodeMessage around.memory (mockIntegrationSetupRequest ctx.config) with
    | .error _ => (ctx, .protocol)
    | .ok _ =>
        if around.sent = false then (ctx, .socket)
        else
          match around.received with
          | none => (ctx, .timeout)
          | some (data, len, ppid) =>
              if ppid ≠ sctpPpidNgap then (ctx, .protocol)
              else
                match ngapDecodeMessage around.uninit data len with
                | .error _ => (ctx, .protocol)
                | .ok response =>
                    if response.payload.messageType = 1 then ({ ctx with amfSetupComplete := true }, .success)
                    else if response.payload.messageType = 2 then (ctx, .amfSetup)
                    else (ctx, .protocol)

def mockIntegrationStart (around : AmfLinkSurroundings) (ctx : MockIntegrationCtx) :
    MockIntegrationCtx × MockIntegrationError :=
  if ctx.running then (ctx, .success)
  else if ctx.config.autoConnectAmf then
    match connectToAmf around { ctx with running := true } with
    | (ctx, .success) =>
        match mockIntegrationNgSetup around ctx with
        | (ctx, .success) => ({ ctx with amfListening := true }, .success)
        | (ctx, error) => ({ disconnectFromAmf ctx with running := false }, error)
    | (ctx, error) => ({ ctx with running := false }, error)
  else ({ ctx with running := true }, .success)

def mockIntegrationStop (ctx : MockIntegrationCtx) : MockIntegrationCtx :=
  if ctx.running then
    { disconnectFromAmf ctx with
      running := false
      amfListening := false
      ueMapping := fun slot => { ctx.ueMapping slot with active := false } }
  else ctx

def mockIntegrationAmfConnected (ctx : MockIntegrationCtx) : Bool := ctx.amfConnected && ctx.amfSetupComplete

/-! ### Which UE is where -/

def mockIntegrationFindUeMapping (ctx : MockIntegrationCtx) (ranUeNgapId : Word) : Option (Fin mockGnbMaxUes) :=
  first (fun mapping => mapping.active && mapping.ranUeNgapId == ranUeNgapId) ctx.ueMapping

def MockIntegrationCtx.putMapping (ctx : MockIntegrationCtx) (slot : Fin mockGnbMaxUes) (mapping : UeMapping) :
    MockIntegrationCtx :=
  { ctx with ueMapping := Function.update ctx.ueMapping slot mapping }

def mockIntegrationRegisterUe (ctx : MockIntegrationCtx) (ranUeNgapId : Word) (ueSocket : Int) :
    MockIntegrationCtx × MockIntegrationError :=
  match first (fun mapping => !mapping.active) ctx.ueMapping with
  | none => (ctx, .memory)
  | some slot => (ctx.putMapping slot ⟨ranUeNgapId, 0, ueSocket, true⟩, .success)

def mockIntegrationUnregisterUe (ctx : MockIntegrationCtx) (ranUeNgapId : Word) : MockIntegrationCtx :=
  match mockIntegrationFindUeMapping ctx ranUeNgapId with
  | none => ctx
  | some slot => ctx.putMapping slot { ctx.ueMapping slot with active := false }

/-! ### Messages -/

/-- `sent` is what `sctp_send` reports. -/
def mockIntegrationForwardToAmf (ctx : MockIntegrationCtx) (len : Nat) (sent : Bool) :
    MockIntegrationCtx × MockIntegrationError :=
  if len = 0 then (ctx, .invalidParam)
  else if ctx.amfConnected = false then (ctx, .notConnected)
  else if sent = false then (ctx, .socket)
  else ({ ctx with messagesToAmf := ctx.messagesToAmf + 1 }, .success)

/-- What a UE is sent. -/
abbrev ToUe := Option (Int × List Byte)

def mockIntegrationDownlinkNas (ctx : MockIntegrationCtx) (ids : NgapUeIds) (nasPdu : List Byte) :
    MockIntegrationCtx × ToUe :=
  match mockIntegrationFindUeMapping ctx ids.ranUeNgapId with
  | none => (ctx, none)
  | some slot =>
      let mapping := ctx.ueMapping slot
      let ctx := if mapping.amfUeNgapId = 0 then ctx.putMapping slot { mapping with amfUeNgapId := ids.amfUeNgapId }
        else ctx
      if 0 ≤ mapping.ueSocket then
        ({ ctx with messagesToUe := ctx.messagesToUe + 1 }, some (mapping.ueSocket, nasPdu))
      else (ctx, none)

/-- The decoder fills in nothing of a message that goes down, so that all of it is zero. -/
def mockIntegrationRoute (ctx : MockIntegrationCtx) (msg : NgapMessage) : MockIntegrationCtx × ToUe :=
  if msg.payload.messageType = 14 then mockIntegrationDownlinkNas ctx ⟨0, 0⟩ []
  else if msg.payload.messageType = 8 then (mockIntegrationUnregisterUe ctx 0, none)
  else (ctx, none)

def mockIntegrationProcessAmfMessage (uninit : Word) (ctx : MockIntegrationCtx) (data : Memory) (len : Nat) :
    (MockIntegrationCtx × ToUe) × MockIntegrationError :=
  if len = 0 then ((ctx, none), .invalidParam)
  else
    let ctx := { ctx with messagesFromAmf := ctx.messagesFromAmf + 1 }
    match ngapDecodeMessage uninit data len with
    | .error _ => ((ctx, none), .protocol)
    | .ok msg => (mockIntegrationRoute ctx msg, .success)

/-- One round of the thread that listens to the AMF. -/
def amfListenerReceive (uninit : Word) (ctx : MockIntegrationCtx) (data : Memory) (len : Nat) (ppid : Word) :
    MockIntegrationCtx × ToUe :=
  if ppid = sctpPpidNgap ∧ 0 < len then
    (mockIntegrationProcessAmfMessage uninit { ctx with messagesFromAmf := ctx.messagesFromAmf + 1 } data len).1
  else (ctx, none)

/-! ### The user plane -/

def findTunnelByTeid (ctx : MockIntegrationCtx) (teid : Word) : Option (Fin maxGtpuTunnels) :=
  first (fun tunnel => tunnel.active && tunnel.teid == teid) ctx.gtpuTunnels

def MockIntegrationCtx.putTunnel (ctx : MockIntegrationCtx) (slot : Fin maxGtpuTunnels) (tunnel : GtpuTunnel) :
    MockIntegrationCtx :=
  { ctx with gtpuTunnels := Function.update ctx.gtpuTunnels slot tunnel }

def mockIntegrationCreateGtpuTunnel (ctx : MockIntegrationCtx) (teid ueIp upfIp : Word) (upfPort : BitVec 16)
    (uplink : Bool) : MockIntegrationCtx × MockIntegrationError :=
  match first (fun tunnel => !tunnel.active) ctx.gtpuTunnels with
  | none => (ctx, .capacity)
  | some slot => (ctx.putTunnel slot ⟨teid, ueIp, upfIp, upfPort, uplink, true⟩, .success)

def mockIntegrationDeleteGtpuTunnel (ctx : MockIntegrationCtx) (teid : Word) : MockIntegrationCtx :=
  match findTunnelByTeid ctx teid with
  | none => ctx
  | some slot => ctx.putTunnel slot { ctx.gtpuTunnels slot with active := false }

/-- The tunnel that a packet is reported for. -/
def gtpuListenerReceive (ctx : MockIntegrationCtx) (data : Memory) (len : Nat) : Option (Fin maxGtpuTunnels) :=
  if len < 8 then none
  else if data 0 &&& 0xE0 ≠ 0x30 then none
  else
    let teid := (data 4).setWidth 32 <<< 24 ||| (data 5).setWidth 32 <<< 16 ||| (data 6).setWidth 32 <<< 8
      ||| (data 7).setWidth 32
    (findTunnelByTeid ctx teid).filter fun slot => (ctx.gtpuTunnels slot).uplink

/-! ### Runs -/

inductive MockIntegrationOp where
  | start (around : AmfLinkSurroundings)
  | stop
  | ngSetup (around : AmfLinkSurroundings)
  | registerUe (ranUeNgapId : Word) (ueSocket : Int)
  | unregisterUe (ranUeNgapId : Word)
  | forwardToAmf (len : Nat) (sent : Bool)
  | processAmfMessage (uninit : Word) (data : Memory) (len : Nat)
  | receive (uninit : Word) (data : Memory) (len : Nat) (ppid : Word)
  | createTunnel (teid ueIp upfIp : Word) (upfPort : BitVec 16) (uplink : Bool)
  | deleteTunnel (teid : Word)

/-- What an operation does, and what it sends to a UE. -/
def mockIntegrationApply (ctx : MockIntegrationCtx) : MockIntegrationOp → MockIntegrationCtx × ToUe
  | .start around => ((mockIntegrationStart around ctx).1, none)
  | .stop => (mockIntegrationStop ctx, none)
  | .ngSetup around => ((mockIntegrationNgSetup around ctx).1, none)
  | .registerUe ranUeNgapId ueSocket => ((mockIntegrationRegisterUe ctx ranUeNgapId ueSocket).1, none)
  | .unregisterUe ranUeNgapId => (mockIntegrationUnregisterUe ctx ranUeNgapId, none)
  | .forwardToAmf len sent => ((mockIntegrationForwardToAmf ctx len sent).1, none)
  | .processAmfMessage uninit data len => (mockIntegrationProcessAmfMessage uninit ctx data len).1
  | .receive uninit data len ppid =>
      if ctx.amfListening then amfListenerReceive uninit ctx data len ppid else (ctx, none)
  | .createTunnel teid ueIp upfIp upfPort uplink =>
      ((mockIntegrationCreateGtpuTunnel ctx teid ueIp upfIp upfPort uplink).1, none)
  | .deleteTunnel teid => (mockIntegrationDeleteGtpuTunnel ctx teid, none)

def mockIntegrationStep (ctx : MockIntegrationCtx) (op : MockIntegrationOp) : MockIntegrationCtx :=
  (mockIntegrationApply ctx op).1

def mockIntegrationEmit (ctx : MockIntegrationCtx) (op : MockIntegrationOp) : ToUe := (mockIntegrationApply ctx op).2

/-! ### Messages that come down -/

/-- **The decoder knows no message that goes down.** -/
theorem ngapDecodeMessage_messageType {uninit : Word} {data : Memory} {len : Nat} {msg : NgapMessage}
    (h : ngapDecodeMessage uninit data len = .ok msg) :
    msg.payload.messageType ∉ ([1, 2, 8, 14] : List Word) := by
  obtain ⟨-, hpayload⟩ := NgapNasTransport.ngapDecodeMessage_eq h
  rw [hpayload, ngapDecodePayload]
  split_ifs
  · decide
  · change (3 : Word) ∉ _
    decide
  · change (13 : Word) ∉ _
    decide
  · decide
  · decide
  · decide
  · decide
  · decide
  · decide

theorem mockIntegrationRoute_eq {uninit : Word} {data : Memory} {len : Nat} {msg : NgapMessage}
    (h : ngapDecodeMessage uninit data len = .ok msg) (ctx : MockIntegrationCtx) :
    mockIntegrationRoute ctx msg = (ctx, none) := by
  have hunknown := ngapDecodeMessage_messageType h
  have hdownlink : msg.payload.messageType ≠ 14 := by
    intro heq
    rw [heq] at hunknown
    exact absurd hunknown (by decide)
  have hrelease : msg.payload.messageType ≠ 8 := by
    intro heq
    rw [heq] at hunknown
    exact absurd hunknown (by decide)
  rw [mockIntegrationRoute, if_neg hdownlink, if_neg hrelease]

theorem mockIntegrationProcessAmfMessage_eq (uninit : Word) (ctx : MockIntegrationCtx) (data : Memory) (len : Nat) :
    (mockIntegrationProcessAmfMessage uninit ctx data len).1
      = ({ ctx with messagesFromAmf := ctx.messagesFromAmf + if len = 0 then 0 else 1 }, none) := by
  rw [mockIntegrationProcessAmfMessage]
  split
  · rw [add_zero]
  · cases hdecoded : ngapDecodeMessage uninit data len with
    | error e => rfl
    | ok msg => exact mockIntegrationRoute_eq hdecoded _

/-- A setup never succeeds, and leaves everything as it is. -/
theorem mockIntegrationNgSetup_cases (around : AmfLinkSurroundings) (ctx : MockIntegrationCtx) :
    (mockIntegrationNgSetup around ctx).1 = ctx ∧ (mockIntegrationNgSetup around ctx).2 ≠ .success := by
  have hfail : ∀ error : MockIntegrationError, error ≠ .success →
      (ctx, error).1 = ctx ∧ (ctx, error).2 ≠ .success := fun error h => ⟨rfl, h⟩
  rw [mockIntegrationNgSetup]
  split
  · exact hfail _ (by decide)
  · split
    · exact hfail _ (by decide)
    · split
      · exact hfail _ (by decide)
      · split
        · exact hfail _ (by decide)
        · split
          · exact hfail _ (by decide)
          · split
            · exact hfail _ (by decide)
            · rename_i response hdecoded
              have hunknown := ngapDecodeMessage_messageType hdecoded
              have hresponse : response.payload.messageType ≠ 1 := by
                intro heq
                rw [heq] at hunknown
                exact absurd hunknown (by decide)
              rw [if_neg hresponse]
              split
              · exact hfail _ (by decide)
              · exact hfail _ (by decide)

/-- **A start comes to something only without the AMF.** -/
theorem mockIntegrationStart_cases (around : AmfLinkSurroundings) (ctx : MockIntegrationCtx) :
    (ctx.running = true ∧ mockIntegrationStart around ctx = (ctx, .success))
      ∨ (ctx.running = false ∧ ctx.config.autoConnectAmf = false
        ∧ mockIntegrationStart around ctx = ({ ctx with running := true }, .success))
      ∨ (ctx.running = false ∧ ctx.config.autoConnectAmf = true
        ∧ ((mockIntegrationStart around ctx).1 = ctx ∨ (mockIntegrationStart around ctx).1 = disconnectFromAmf ctx)
        ∧ (mockIntegrationStart around ctx).2 ≠ .success) := by
  rw [mockIntegrationStart]
  cases hrunning : ctx.running with
  | true => exact .inl ⟨rfl, rfl⟩
  | false =>
      cases hauto : ctx.config.autoConnectAmf with
      | false => exact .inr (.inl ⟨rfl, rfl, rfl⟩)
      | true =>
          refine .inr (.inr ⟨rfl, rfl, ?_⟩)
          have hback : { ctx with running := false } = ctx := by rw [← hrunning]
          rw [if_neg Bool.false_ne_true, if_pos rfl, connectToAmf]
          split_ifs
          · exact ⟨.inl hback, MockIntegrationError.noConfusion⟩
          · exact ⟨.inl hback, MockIntegrationError.noConfusion⟩
          · dsimp only
            obtain ⟨hsame, hfailed⟩ :=
              mockIntegrationNgSetup_cases around { ctx with running := true, amfConnected := true }
            split
            · rename_i hsetup
              rw [hsetup] at hfailed
              exact absurd rfl hfailed
            · rename_i ctx' error herror hsetup
              rw [hsetup] at hsame hfailed
              dsimp only at hsame hfailed
              refine ⟨.inr ?_, hfailed⟩
              rw [hsame, disconnectFromAmf, disconnectFromAmf, hrunning]

/-! ### What a run comes to -/

/-- No link to the AMF, and nothing that came over one. -/
structure MockIntegrationCtx.Unlinked (config : MockIntegrationConfig) (ctx : MockIntegrationCtx) : Prop where
  same : ctx.config = config
  amfConnected : ctx.amfConnected = false
  amfSetupComplete : ctx.amfSetupComplete = false
  amfListening : ctx.amfListening = false
  messagesToAmf : ctx.messagesToAmf = 0
  messagesToUe : ctx.messagesToUe = 0
  amfUeNgapId : ∀ slot, (ctx.ueMapping slot).amfUeNgapId = 0
  running : ctx.running = true → config.autoConnectAmf = false

theorem unlinked_create (config : MockIntegrationConfig) : (mockIntegrationCreate config).Unlinked config where
  same := rfl
  amfConnected := rfl
  amfSetupComplete := rfl
  amfListening := rfl
  messagesToAmf := rfl
  messagesToUe := rfl
  amfUeNgapId := fun _ => rfl
  running := Bool.noConfusion

section Step

variable {config : MockIntegrationConfig} {ctx : MockIntegrationCtx}

theorem MockIntegrationCtx.Unlinked.putMapping (h : ctx.Unlinked config) (slot : Fin mockGnbMaxUes)
    {mapping : UeMapping} (hmapping : mapping.amfUeNgapId = 0) : (ctx.putMapping slot mapping).Unlinked config := by
  refine { h with amfUeNgapId := fun other => ?_ }
  rw [MockIntegrationCtx.putMapping]
  dsimp only
  by_cases heq : other = slot
  · rw [heq, Function.update_self]
    exact hmapping
  · rw [Function.update_of_ne heq]
    exact h.amfUeNgapId other

theorem MockIntegrationCtx.Unlinked.disconnect (h : ctx.Unlinked config) :
    (disconnectFromAmf ctx).Unlinked config :=
  { h with amfConnected := rfl, amfSetupComplete := rfl }

theorem MockIntegrationCtx.Unlinked.start (h : ctx.Unlinked config) (around : AmfLinkSurroundings) :
    (mockIntegrationStart around ctx).1.Unlinked config := by
  rcases mockIntegrationStart_cases around ctx with ⟨-, heq⟩ | ⟨-, hauto, heq⟩ | ⟨-, -, heq | heq, -⟩
  · rw [heq]
    exact h
  · rw [heq]
    exact { h with running := fun _ => h.same ▸ hauto }
  · rw [heq]
    exact h
  · rw [heq]
    exact h.disconnect

theorem MockIntegrationCtx.Unlinked.stop (h : ctx.Unlinked config) : (mockIntegrationStop ctx).Unlinked config := by
  rw [mockIntegrationStop]
  split
  · exact { h.disconnect with amfListening := rfl, amfUeNgapId := h.amfUeNgapId, running := Bool.noConfusion }
  · exact h

theorem MockIntegrationCtx.Unlinked.registerUe (h : ctx.Unlinked config) (ranUeNgapId : Word) (ueSocket : Int) :
    (mockIntegrationRegisterUe ctx ranUeNgapId ueSocket).1.Unlinked config := by
  rw [mockIntegrationRegisterUe]
  split
  · exact h
  · exact h.putMapping _ rfl

theorem MockIntegrationCtx.Unlinked.unregisterUe (h : ctx.Unlinked config) (ranUeNgapId : Word) :
    (mockIntegrationUnregisterUe ctx ranUeNgapId).Unlinked config := by
  rw [mockIntegrationUnregisterUe]
  split
  · exact h
  · exact h.putMapping _ (h.amfUeNgapId _)

theorem MockIntegrationCtx.Unlinked.forwardToAmf_eq (h : ctx.Unlinked config) (len : Nat) (sent : Bool) :
    mockIntegrationForwardToAmf ctx len sent = (ctx, if len = 0 then .invalidParam else .notConnected) := by
  rw [mockIntegrationForwardToAmf, if_pos h.amfConnected]
  split
  · rfl
  · rfl

theorem MockIntegrationCtx.Unlinked.createTunnel (h : ctx.Unlinked config) (teid ueIp upfIp : Word)
    (upfPort : BitVec 16) (uplink : Bool) :
    (mockIntegrationCreateGtpuTunnel ctx teid ueIp upfIp upfPort uplink).1.Unlinked config := by
  rw [mockIntegrationCreateGtpuTunnel]
  split
  · exact h
  · exact { h with }

theorem MockIntegrationCtx.Unlinked.deleteTunnel (h : ctx.Unlinked config) (teid : Word) :
    (mockIntegrationDeleteGtpuTunnel ctx teid).Unlinked config := by
  rw [mockIntegrationDeleteGtpuTunnel]
  split
  · exact h
  · exact { h with }

/-- **Without a link, no operation makes one, and none sends anything to a UE.** -/
theorem MockIntegrationCtx.Unlinked.apply (h : ctx.Unlinked config) (op : MockIntegrationOp) :
    (mockIntegrationStep ctx op).Unlinked config ∧ mockIntegrationEmit ctx op = none := by
  unfold mockIntegrationStep mockIntegrationEmit
  cases op with
  | start around => exact ⟨h.start around, rfl⟩
  | stop => exact ⟨h.stop, rfl⟩
  | ngSetup around =>
      refine ⟨?_, rfl⟩
      rw [mockIntegrationApply, (mockIntegrationNgSetup_cases around ctx).1]
      exact h
  | registerUe ranUeNgapId ueSocket => exact ⟨h.registerUe ranUeNgapId ueSocket, rfl⟩
  | unregisterUe ranUeNgapId => exact ⟨h.unregisterUe ranUeNgapId, rfl⟩
  | forwardToAmf len sent =>
      refine ⟨?_, rfl⟩
      rw [mockIntegrationApply, h.forwardToAmf_eq]
      exact h
  | processAmfMessage uninit data len =>
      rw [mockIntegrationApply, mockIntegrationProcessAmfMessage_eq]
      exact ⟨{ h with }, rfl⟩
  | receive uninit data len ppid =>
      rw [mockIntegrationApply, if_neg (Bool.eq_false_iff.mp h.amfListening)]
      exact ⟨h, rfl⟩
  | createTunnel teid ueIp upfIp upfPort uplink => exact ⟨h.createTunnel teid ueIp upfIp upfPort uplink, rfl⟩
  | deleteTunnel teid => exact ⟨h.deleteTunnel teid, rfl⟩

theorem mockIntegrationRun_unlinked (h : ctx.Unlinked config) (ops : List MockIntegrationOp) :
    (ops.foldl mockIntegrationStep ctx).Unlinked config
      ∧ emitted mockIntegrationStep mockIntegrationEmit ctx ops = [] := by
  induction ops generalizing ctx with
  | nil => exact ⟨h, rfl⟩
  | cons op ops ih =>
      obtain ⟨hstep, hemit⟩ := h.apply op
      obtain ⟨hrun, hrest⟩ := ih hstep
      refine ⟨hrun, ?_⟩
      rw [emitted, hemit, hrest]
      rfl

theorem MockIntegrationCtx.Unlinked.start_success_iff (h : ctx.Unlinked config) (around : AmfLinkSurroundings) :
    (mockIntegrationStart around ctx).2 = .success ↔ config.autoConnectAmf = false := by
  rcases mockIntegrationStart_cases around ctx with ⟨hrunning, heq⟩ | ⟨-, hauto, heq⟩ | ⟨-, hauto, -, hfailed⟩
  · rw [heq]
    exact iff_of_true rfl (h.running hrunning)
  · rw [heq]
    exact iff_of_true rfl (h.same ▸ hauto)
  · rw [h.same] at hauto
    exact iff_of_false hfailed (Bool.eq_false_iff.not_left.mpr hauto)

end Step

/-- No first octet has the version: the mask has cleared a bit of what it is compared with. -/
theorem gtpuListenerReceive_eq (ctx : MockIntegrationCtx) (data : Memory) (len : Nat) :
    gtpuListenerReceive ctx data len = none := by
  have hversion : data 0 &&& 0xE0 ≠ 0x30 := by
    intro heq
    have hbit := congrArg (fun flags : Byte => flags.getLsbD 4) heq
    simp at hbit
  rw [gtpuListenerReceive, if_pos hversion, ite_self]

/-- **The relay relays nothing.** A setup takes no answer for one, so that the relay starts if it is not to
connect; and then it is not connected. -/
theorem mockIntegration_relays_nothing (config : MockIntegrationConfig) (ops : List MockIntegrationOp) :
    ∃ ctx, ctx = ops.foldl mockIntegrationStep (mockIntegrationCreate config)
      ∧ emitted mockIntegrationStep mockIntegrationEmit (mockIntegrationCreate config) ops = []
      ∧ ctx.messagesToUe = 0 ∧ ctx.messagesToAmf = 0
      ∧ ctx.amfListening = false ∧ mockIntegrationAmfConnected ctx = false
      ∧ (∀ slot, (ctx.ueMapping slot).amfUeNgapId = 0)
      ∧ (∀ around, (mockIntegrationStart around ctx).2 = .success ↔ config.autoConnectAmf = false)
      ∧ (∀ len sent, (mockIntegrationForwardToAmf ctx len sent).2 ≠ .success)
      ∧ ∀ data len, gtpuListenerReceive ctx data len = none := by
  obtain ⟨h, hnothing⟩ := mockIntegrationRun_unlinked (unlinked_create config) ops
  refine ⟨_, rfl, hnothing, h.messagesToUe, h.messagesToAmf, h.amfListening, ?_, h.amfUeNgapId, h.start_success_iff,
    ?_, gtpuListenerReceive_eq _⟩
  · rw [mockIntegrationAmfConnected, h.amfConnected, Bool.false_and]
  · intro len sent
    rw [h.forwardToAmf_eq]
    dsimp only
    split
    · exact MockIntegrationError.noConfusion
    · exact MockIntegrationError.noConfusion

/-! ### What the relay holds -/

/-- What is left of a relay if one forgets slots and messages. -/
structure RelayHolding where
  running : Bool
  ues : Multiset Word
  tunnels : Multiset Word

/-- Tunnels outlast a stop. -/
def RelayHolding.apply (autoConnectAmf : Bool) (holding : RelayHolding) : MockIntegrationOp → RelayHolding
  | .start _ => { holding with running := holding.running || !autoConnectAmf }
  | .stop => if holding.running then { holding with running := false, ues := 0 } else holding
  | .registerUe ranUeNgapId _ => { holding with ues := Op.apply mockGnbMaxUes holding.ues (.put ranUeNgapId) }
  | .unregisterUe ranUeNgapId => { holding with ues := Op.apply mockGnbMaxUes holding.ues (.take ranUeNgapId) }
  | .createTunnel teid .. => { holding with tunnels := Op.apply maxGtpuTunnels holding.tunnels (.put teid) }
  | .deleteTunnel teid => { holding with tunnels := Op.apply maxGtpuTunnels holding.tunnels (.take teid) }
  | _ => holding

abbrev MockIntegrationCtx.ues (ctx : MockIntegrationCtx) : Multiset Word :=
  bag UeMapping.active UeMapping.ranUeNgapId ctx.ueMapping

abbrev MockIntegrationCtx.tunnels (ctx : MockIntegrationCtx) : Multiset Word :=
  bag GtpuTunnel.active GtpuTunnel.teid ctx.gtpuTunnels

abbrev MockIntegrationCtx.holding (ctx : MockIntegrationCtx) : RelayHolding := ⟨ctx.running, ctx.ues, ctx.tunnels⟩

section Holding

variable {config : MockIntegrationConfig} {ctx : MockIntegrationCtx}

theorem holding_putMapping (ctx : MockIntegrationCtx) (slot : Fin mockGnbMaxUes) (mapping : UeMapping) :
    (ctx.putMapping slot mapping).holding
      = ⟨ctx.running, bag UeMapping.active UeMapping.ranUeNgapId (Function.update ctx.ueMapping slot mapping),
        ctx.tunnels⟩ := by
  rw [MockIntegrationCtx.putMapping]

theorem holding_putTunnel (ctx : MockIntegrationCtx) (slot : Fin maxGtpuTunnels) (tunnel : GtpuTunnel) :
    (ctx.putTunnel slot tunnel).holding
      = ⟨ctx.running, ctx.ues, bag GtpuTunnel.active GtpuTunnel.teid (Function.update ctx.gtpuTunnels slot tunnel)⟩ := by
  rw [MockIntegrationCtx.putTunnel]

theorem holding_registerUe (ctx : MockIntegrationCtx) (ranUeNgapId : Word) (ueSocket : Int) :
    (mockIntegrationRegisterUe ctx ranUeNgapId ueSocket).1.holding
        = { ctx.holding with ues := Op.apply mockGnbMaxUes ctx.ues (.put ranUeNgapId) }
      ∧ ((mockIntegrationRegisterUe ctx ranUeNgapId ueSocket).2 = .success
        ↔ Multiset.card ctx.ues < mockGnbMaxUes) := by
  rw [mockIntegrationRegisterUe, ← Nat.not_le, ← first_free_eq_none_iff]
  cases hfree : first (fun mapping => !mapping.active) ctx.ueMapping with
  | none =>
      refine ⟨?_, iff_of_false MockIntegrationError.noConfusion (not_not.mpr rfl)⟩
      rw [← bag_put_none hfree]
  | some slot =>
      refine ⟨?_, iff_of_true rfl (Option.some_ne_none slot)⟩
      have hput := @bag_put_some _ _ _ UeMapping.active UeMapping.ranUeNgapId _ _
        ⟨ranUeNgapId, 0, ueSocket, true⟩ _ hfree rfl
      dsimp only
      rw [holding_putMapping, hput]

theorem holding_unregisterUe (ctx : MockIntegrationCtx) (ranUeNgapId : Word) :
    (mockIntegrationUnregisterUe ctx ranUeNgapId).holding
      = { ctx.holding with ues := Op.apply mockGnbMaxUes ctx.ues (.take ranUeNgapId) } := by
  rw [mockIntegrationUnregisterUe, mockIntegrationFindUeMapping]
  cases hfound : first (fun mapping => mapping.active && mapping.ranUeNgapId == ranUeNgapId) ctx.ueMapping with
  | none => rw [← bag_take_none hfound]
  | some slot =>
      have htake := @bag_take_some _ _ _ _ _ _ _ { ctx.ueMapping slot with active := false } _ _ hfound rfl
      dsimp only
      rw [holding_putMapping, htake]

theorem holding_createTunnel (ctx : MockIntegrationCtx) (teid ueIp upfIp : Word) (upfPort : BitVec 16)
    (uplink : Bool) :
    (mockIntegrationCreateGtpuTunnel ctx teid ueIp upfIp upfPort uplink).1.holding
        = { ctx.holding with tunnels := Op.apply maxGtpuTunnels ctx.tunnels (.put teid) }
      ∧ ((mockIntegrationCreateGtpuTunnel ctx teid ueIp upfIp upfPort uplink).2 = .success
        ↔ Multiset.card ctx.tunnels < maxGtpuTunnels) := by
  rw [mockIntegrationCreateGtpuTunnel, ← Nat.not_le, ← first_free_eq_none_iff]
  cases hfree : first (fun tunnel => !tunnel.active) ctx.gtpuTunnels with
  | none =>
      refine ⟨?_, iff_of_false MockIntegrationError.noConfusion (not_not.mpr rfl)⟩
      rw [← bag_put_none hfree]
  | some slot =>
      refine ⟨?_, iff_of_true rfl (Option.some_ne_none slot)⟩
      have hput := @bag_put_some _ _ _ GtpuTunnel.active GtpuTunnel.teid _ _
        ⟨teid, ueIp, upfIp, upfPort, uplink, true⟩ _ hfree rfl
      dsimp only
      rw [holding_putTunnel, hput]

theorem holding_deleteTunnel (ctx : MockIntegrationCtx) (teid : Word) :
    (mockIntegrationDeleteGtpuTunnel ctx teid).holding
      = { ctx.holding with tunnels := Op.apply maxGtpuTunnels ctx.tunnels (.take teid) } := by
  rw [mockIntegrationDeleteGtpuTunnel, findTunnelByTeid]
  cases hfound : first (fun tunnel => tunnel.active && tunnel.teid == teid) ctx.gtpuTunnels with
  | none => rw [← bag_take_none hfound]
  | some slot =>
      have htake := @bag_take_some _ _ _ _ _ _ _ { ctx.gtpuTunnels slot with active := false } _ _ hfound rfl
      dsimp only
      rw [holding_putTunnel, htake]

theorem holding_start (h : ctx.Unlinked config) (around : AmfLinkSurroundings) :
    (mockIntegrationStart around ctx).1.holding
      = { ctx.holding with running := ctx.running || !config.autoConnectAmf } := by
  rcases mockIntegrationStart_cases around ctx with ⟨hrunning, heq⟩ | ⟨hrunning, hauto, heq⟩ | ⟨hrunning, hauto, heq, -⟩
  · rw [heq, hrunning, Bool.true_or, ← hrunning]
  · rw [heq, ← h.same, hauto, hrunning]
    dsimp only
    rw [Bool.not_false, Bool.or_true]
  · rw [← h.same, hauto, Bool.not_true, Bool.or_false]
    rcases heq with heq | heq
    · rw [heq]
    · rw [heq]
      dsimp only [disconnectFromAmf]

theorem holding_stop (ctx : MockIntegrationCtx) :
    (mockIntegrationStop ctx).holding
      = if ctx.running then { ctx.holding with running := false, ues := 0 } else ctx.holding := by
  rw [mockIntegrationStop]
  split
  · have hempty : bag UeMapping.active UeMapping.ranUeNgapId
        (fun slot => { ctx.ueMapping slot with active := false }) = 0 := bag_eq_zero_of_dead fun _ => rfl
    rw [← hempty, disconnectFromAmf]
  · rfl

theorem holding_step (h : ctx.Unlinked config) (op : MockIntegrationOp) :
    (mockIntegrationStep ctx op).holding = ctx.holding.apply config.autoConnectAmf op := by
  rw [mockIntegrationStep]
  cases op with
  | start around => exact holding_start h around
  | stop => exact holding_stop ctx
  | ngSetup around => exact congrArg MockIntegrationCtx.holding (mockIntegrationNgSetup_cases around ctx).1
  | registerUe ranUeNgapId ueSocket =>
      rw [mockIntegrationApply, (holding_registerUe ctx ranUeNgapId ueSocket).1, RelayHolding.apply]
  | unregisterUe ranUeNgapId => rw [mockIntegrationApply, holding_unregisterUe, RelayHolding.apply]
  | forwardToAmf len sent =>
      rw [mockIntegrationApply, h.forwardToAmf_eq]
      rfl
  | processAmfMessage uninit data len =>
      rw [mockIntegrationApply, mockIntegrationProcessAmfMessage_eq]
      rfl
  | receive uninit data len ppid =>
      rw [mockIntegrationApply, if_neg (Bool.eq_false_iff.mp h.amfListening)]
      rfl
  | createTunnel teid ueIp upfIp upfPort uplink =>
      rw [mockIntegrationApply, (holding_createTunnel ctx teid ueIp upfIp upfPort uplink).1, RelayHolding.apply]
  | deleteTunnel teid => rw [mockIntegrationApply, holding_deleteTunnel, RelayHolding.apply]

theorem holding_run (h : ctx.Unlinked config) (ops : List MockIntegrationOp) :
    (ops.foldl mockIntegrationStep ctx).holding
      = ops.foldl (RelayHolding.apply config.autoConnectAmf) ctx.holding := by
  induction ops generalizing ctx with
  | nil => rfl
  | cons op ops ih => rw [List.foldl_cons, List.foldl_cons, ih (h.apply op).1, holding_step h]

end Holding

theorem holding_create (config : MockIntegrationConfig) :
    (mockIntegrationCreate config).holding = ⟨false, 0, 0⟩ := by
  have hues : (mockIntegrationCreate config).ues = 0 := bag_eq_zero_of_dead fun _ => rfl
  have htunnels : (mockIntegrationCreate config).tunnels = 0 := bag_eq_zero_of_dead fun _ => rfl
  rw [MockIntegrationCtx.holding, hues, htunnels]
  rfl

/-- **The relay is two bags**: one of UEs, which a stop empties while the relay runs, and one of tunnels. What is in
a bag is found, and what has room is taken in. -/
theorem mockIntegration_refines_bags (config : MockIntegrationConfig) (ops : List MockIntegrationOp) :
    ∃ ctx holding, ctx = ops.foldl mockIntegrationStep (mockIntegrationCreate config)
      ∧ holding = ops.foldl (RelayHolding.apply config.autoConnectAmf) ⟨false, 0, 0⟩
      ∧ ctx.holding = holding
      ∧ (∀ ranUeNgapId, (mockIntegrationFindUeMapping ctx ranUeNgapId).isSome = true
        ↔ ranUeNgapId ∈ holding.ues)
      ∧ (∀ teid, (findTunnelByTeid ctx teid).isSome = true ↔ teid ∈ holding.tunnels)
      ∧ (∀ ranUeNgapId ueSocket, (mockIntegrationRegisterUe ctx ranUeNgapId ueSocket).2 = .success
        ↔ Multiset.card holding.ues < mockGnbMaxUes)
      ∧ ∀ teid ueIp upfIp upfPort uplink,
        (mockIntegrationCreateGtpuTunnel ctx teid ueIp upfIp upfPort uplink).2 = .success
          ↔ Multiset.card holding.tunnels < maxGtpuTunnels := by
  have hrun := holding_run (unlinked_create config) ops
  rw [holding_create] at hrun
  refine ⟨_, _, rfl, rfl, hrun, ?_⟩
  rw [← hrun]
  dsimp only
  refine ⟨fun ranUeNgapId => ?_, fun teid => ?_, fun ranUeNgapId ueSocket => ?_,
    fun teid ueIp upfIp upfPort uplink => ?_⟩
  · exact isSome_first_key_iff
  · exact isSome_first_key_iff
  · rw [(holding_registerUe _ ranUeNgapId ueSocket).2]
  · rw [(holding_createTunnel _ teid ueIp upfIp upfPort uplink).2]

end Uesim
