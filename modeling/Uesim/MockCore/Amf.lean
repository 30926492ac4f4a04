import Uesim.Library.KeyedSlots
import Uesim.Library.Text
import Uesim.MockCore.Smf
import Uesim.Ngap.Messages
import Uesim.Ngap.NasTransport

/-!
# The mock AMF

A message from a base station is decoded, handled and answered on the connection that it came from. A UE gets
a context with its first message, and what it sends afterwards is told apart by the first byte of the NAS
message, of which four bits are kept.
-/

namespace Uesim

open Bytes BitMemory KeyedSlots Text

inductive MockCoreError where
  | invalidParam
  | socket
  | memory
  | thread
  | timeout
  | protocol
  | notFound
  | capacity
  deriving DecidableEq, Repr

inductive AmfUeState where
  | idle
  | registered
  | connecting
  | deregistering
  deriving DecidableEq, Repr

/-! ### Structures -/

/-- What the handlers read of the configuration. `max_ues` is the size of the table. -/
structure AmfConfig where
  amfId : Word
  amfName : List Byte
  plmnId : Octets 3
  tac : Word

structure AmfUeContext where
  amfUeNgapId : BitVec 64
  ranUeNgapId : Word
  state : AmfUeState
  guti : List Byte
  imsi : List Byte
  kamf : Octets 32
  knasEnc : Octets 16
  knasInt : Octets 16
  cipheringAlg : Byte
  integrityAlg : Byte
  securityActive : Bool
  rand : Octets 16
  autn : Octets 16
  xres : Octets 16
  authenticated : Bool
  pduSessionIds : Fin mockCoreMaxSessions → Byte
  numActiveSessions : Byte

structure AmfServer where
  config : AmfConfig
  ueContexts : Fin mockCoreMaxUes → Option AmfUeContext
  numActiveUes : Word
  nextAmfUeId : BitVec 64
  ngapMessagesRx : BitVec 64
  ngapMessagesTx : BitVec 64
  registrations : BitVec 64
  authentications : BitVec 64

structure AmfAuthVectors where
  rand : Octets 16
  autn : Octets 16
  xres : Octets 16
  kausf : Octets 32

/-- What a message finds apart from the server: whether there is memory for a context, what `uesim_malloc`
returns for a NAS message and for the answer, what is left on the stack of the decoder, and what
`generate_auth_vectors` draws. -/
structure AmfSurroundings where
  contextMemory : Bool
  nasMemory : Option Memory
  bufferMemory : Option Memory
  uninit : Word
  vectors : AmfAuthVectors

structure AmfNgSetupResponse where
  plmnId : Octets 3
  amfId : Word
  amfName : List Byte
  relativeAmfCapacity : Word
  taiList : List NgapTai
  snssaiList : List Byte

structure AmfPduSessionSetupResponse where
  ueIds : NgapUeIds
  pduSessionId : Byte
  upfTeid : Word
  upfIp : Word
  qfi : Byte
  fiveQi : Byte

/-- `response`, which is cleared before a handler fills it in. -/
inductive AmfResponse where
  | cleared
  | ngSetupResponse (resp : AmfNgSetupResponse)
  | downlinkNasTransport (ueIds : NgapUeIds) (nasPdu : List Byte)
  | pduSessionSetupResponse (resp : AmfPduSessionSetupResponse)

/-- The message as the encoder sees it. The types of the answers have no case there, and type 0 is that of an
NG setup request. -/
def AmfResponse.message : AmfResponse → NgapMessage
  | .cleared => ⟨0, 0, 0, .ngSetupRequest ngapNoSetupRequest⟩
  | .ngSetupResponse _ => ⟨21, 0, 0, .other 1⟩
  | .downlinkNasTransport _ _ => ⟨37, 0, 0, .other 14⟩
  | .pduSessionSetupResponse _ => ⟨29, 0, 0, .other 17⟩

def amfCreate (config : AmfConfig) : AmfServer where
  config := config
  ueContexts := fun _ => none
  numActiveUes := 0
  nextAmfUeId := 1
  ngapMessagesRx := 0
  ngapMessagesTx := 0
  registrations := 0
  authentications := 0

/-! ### Texts -/

/-- `%03d` of a word that is taken for a signed number. -/
def paddedSigned (value : Word) : List Byte :=
  if 0 ≤ value.toInt then padded 3 value.toInt.toNat
  else byte '-' :: padded 2 (-value.toInt).toNat

/-- The array has sixteen bytes, the last of them for the zero. -/
def amfImsi (amfUeId : BitVec 64) : List Byte := (text "001010" ++ padded 10 amfUeId.toNat).take 15

def amfGuti (amfId ranUeId : Word) (amfUeId : BitVec 64) : List Byte :=
  text "5G-GUTI-" ++ paddedSigned amfId ++ text "-" ++ padded 2 (ranUeId.toNat % 100) ++ text "-"
    ++ padded 10 amfUeId.toNat

/-! ### Contexts -/

def octetsOf (n : Nat) (byte : Byte) : Octets n := ⟨List.replicate n byte, List.length_replicate⟩

def AmfUeContext.hasAmfId (amfUeId : BitVec 64) (entry : Option AmfUeContext) : Bool :=
  entry.any fun ue => ue.amfUeNgapId == amfUeId

def AmfUeContext.hasRanId (ranUeId : Word) (entry : Option AmfUeContext) : Bool :=
  entry.any fun ue => ue.ranUeNgapId == ranUeId

def amfFindUeByAmfId (amf : AmfServer) (amfUeId : BitVec 64) : Option (Fin mockCoreMaxUes) :=
  first (AmfUeContext.hasAmfId amfUeId) amf.ueContexts

def amfFindUeByRanId (amf : AmfServer) (ranUeId : Word) : Option (Fin mockCoreMaxUes) :=
  first (AmfUeContext.hasRanId ranUeId) amf.ueContexts

/-- A context as `amf_create_ue_context` fills it in after `calloc`. -/
def amfNewUeContext (amfUeId : BitVec 64) (ranUeId : Word) : AmfUeContext where
  amfUeNgapId := amfUeId
  ranUeNgapId := ranUeId
  state := .idle
  guti := []
  imsi := amfImsi amfUeId
  kamf := octetsOf 32 0
  knasEnc := octetsOf 16 0
  knasInt := octetsOf 16 0
  cipheringAlg := 0
  integrityAlg := 0
  securityActive := false
  rand := octetsOf 16 0
  autn := octetsOf 16 0
  xres := octetsOf 16 0
  authenticated := false
  pduSessionIds := fun _ => 0
  numActiveSessions := 0

def AmfServer.put (amf : AmfServer) (slot : Fin mockCoreMaxUes) (ue : AmfUeContext) : AmfServer :=
  { amf with ueContexts := Function.update amf.ueContexts slot (some ue) }

/-- With the slot of the context that is returned. -/
def amfCreateUeContext (memory : Bool) (amf : AmfServer) (ranUeId : Word) :
    AmfServer × Option (Fin mockCoreMaxUes) :=
  if memory then
    match first Option.isNone amf.ueContexts with
    | none => (amf, none)
    | some slot =>
        ({ amf.put slot (amfNewUeContext amf.nextAmfUeId ranUeId) with
            nextAmfUeId := amf.nextAmfUeId + 1
            numActiveUes := amf.numActiveUes + 1 }, some slot)
  else (amf, none)

/-- A pointer to a context is the slot that it is in. -/
def amfRemoveUeContext (amf : AmfServer) (slot : Fin mockCoreMaxUes) : AmfServer :=
  match amf.ueContexts slot with
  | none => amf
  | some _ =>
      { amf with
        ueContexts := Function.update amf.ueContexts slot none
        numActiveUes := amf.numActiveUes - 1 }

/-! ### NAS messages -/

/-- Two bytes more than are written are allocated. -/
def nasGenerateAuthenticationRequest (memory : Option Memory) (rand autn : Octets 16) :
    Except MockCoreError (List Byte) :=
  match memory with
  | none => .error .memory
  | some mem => .ok ([0x00, 0x56] ++ rand.1 ++ autn.1 ++ [mem 34, mem 35])

def nasGenerateSecurityModeCommand (memory : Option Memory) (cipherAlg integrityAlg : Byte) :
    Except MockCoreError (List Byte) :=
  match memory with
  | none => .error .memory
  | some _ => .ok [0x00, 0x5D, cipherAlg, integrityAlg, 0x00, 0x00]

def nasGenerateRegistrationAccept (memory : Option Memory) (guti : List Byte) (tac : Word) :
    Except MockCoreError (List Byte) :=
  match memory with
  | none => .error .memory
  | some _ =>
      .ok ([0x00, 0x42, 0x01, BitVec.ofNat 8 guti.length] ++ guti
        ++ [byteOf tac 2, byteOf tac 1, byteOf tac 0, 0x00])

/-- Twelve bytes are allocated, and thirteen written. -/
def nasGeneratePduSessionAccept (memory : Option Memory) (pduSessionId : Byte) (ueIp : Word) :
    Except MockCoreError (List Byte) :=
  match memory with
  | none => .error .memory
  | some _ =>
      .ok [0x00, 0xC2, pduSessionId, 0x01, 0x01, byteOf ueIp 3, byteOf ueIp 2, byteOf ueIp 1, byteOf ueIp 0,
        0x03, byte 'i', byte 'm', byte 's']

/-! ### Handlers of NAS messages -/

def AmfUeContext.ids (ue : AmfUeContext) : NgapUeIds := ⟨ue.ranUeNgapId, ue.amfUeNgapId⟩

/-- The context that `ue` points to, the slot that it is in, and what the handler leaves. -/
abbrev AmfNasHandler :=
  AmfServer → Fin mockCoreMaxUes → AmfUeContext → AmfServer × Except MockCoreError AmfResponse

def amfHandleRegistrationRequest (around : AmfSurroundings) : AmfNasHandler := fun amf slot ue =>
  let ue :=
    { ue with
      state := .connecting
      rand := around.vectors.rand
      autn := around.vectors.autn
      xres := around.vectors.xres
      kamf := around.vectors.kausf }
  match nasGenerateAuthenticationRequest around.nasMemory ue.rand ue.autn with
  | .error e => (amf.put slot ue, .error e)
  | .ok nasPdu =>
      ({ amf.put slot ue with authentications := amf.authentications + 1 },
        .ok (.downlinkNasTransport ue.ids nasPdu))

def amfHandleAuthenticationResponse (around : AmfSurroundings) : AmfNasHandler := fun amf slot ue =>
  let ue :=
    { ue with
      authenticated := true
      knasEnc := octetsOf 16 0xAA
      knasInt := octetsOf 16 0xBB
      cipheringAlg := 0x01
      integrityAlg := 0x01 }
  match nasGenerateSecurityModeCommand around.nasMemory ue.cipheringAlg ue.integrityAlg with
  | .error e => (amf.put slot ue, .error e)
  | .ok nasPdu => (amf.put slot ue, .ok (.downlinkNasTransport ue.ids nasPdu))

def amfHandleSecurityModeComplete (around : AmfSurroundings) : AmfNasHandler := fun amf slot ue =>
  let ue :=
    { ue with
      securityActive := true
      guti := amfGuti amf.config.amfId ue.ranUeNgapId ue.amfUeNgapId }
  match nasGenerateRegistrationAccept around.nasMemory ue.guti amf.config.tac with
  | .error e => (amf.put slot ue, .error e)
  | .ok nasPdu => (amf.put slot ue, .ok (.downlinkNasTransport ue.ids nasPdu))

def amfHandleRegistrationComplete : AmfNasHandler := fun amf slot ue =>
  ({ amf.put slot { ue with state := .registered } with registrations := amf.registrations + 1 },
    .ok .cleared)

/-- Where every session id is in use, the answer is for session 1. -/
def amfHandlePduSessionRequest (around : AmfSurroundings) : AmfNasHandler := fun amf slot ue =>
  let free := first (· == 0) ue.pduSessionIds
  let pduSessionId : Byte := free.elim 1 fun i => BitVec.ofNat 8 (i + 1)
  let ue :=
    free.elim ue fun i =>
      { ue with
        pduSessionIds := Function.update ue.pduSessionIds i pduSessionId
        numActiveSessions := ue.numActiveSessions + 1 }
  match nasGeneratePduSessionAccept around.nasMemory pduSessionId
      (0x0A000001 + ue.amfUeNgapId.setWidth 32) with
  | .error e => (amf.put slot ue, .error e)
  | .ok _ =>
      (amf.put slot ue, .ok (.pduSessionSetupResponse
        { ueIds := ue.ids
          pduSessionId
          upfTeid := ue.amfUeNgapId.setWidth 32 * 1000
          upfIp := 0x7F000001
          qfi := 1
          fiveQi := 9 }))

/-! ### Handlers of NGAP messages -/

def amfHandleNgSetup (amf : AmfServer) : AmfResponse :=
  .ngSetupResponse
    { plmnId := amf.config.plmnId
      amfId := amf.config.amfId
      amfName := amf.config.amfName.take 63
      relativeAmfCapacity := 100
      taiList := [⟨amf.config.plmnId, amf.config.tac⟩]
      snssaiList := [1] }

def amfHandleInitialUe (around : AmfSurroundings) (amf : AmfServer) (initUe : NgapInitialUeMessage) :
    AmfServer × Except MockCoreError AmfResponse :=
  match amfCreateUeContext around.contextMemory amf initUe.ueIds.ranUeNgapId with
  | (amf, none) => (amf, .error .capacity)
  | (amf, some slot) =>
      match amf.ueContexts slot with
      | none => (amf, .ok .cleared)
      | some ue =>
          if initUe.nasPdu.1.length > 0 then amfHandleRegistrationRequest around amf slot ue
          else (amf, .ok .cleared)

/-- The switch over the type of the NAS message, which is four bits wide. -/
def amfDispatchNas (around : AmfSurroundings) (nasType : Byte) : AmfNasHandler := fun amf slot ue =>
  if nasType = 0x02 then amfHandleRegistrationRequest around amf slot ue
  else if nasType = 0x04 then (amf, .ok .cleared)
  else if nasType = 0x44 then amfHandleAuthenticationResponse around amf slot ue
  else if nasType = 0x5D then amfHandleSecurityModeComplete around amf slot ue
  else if nasType = 0x45 then amfHandleRegistrationComplete amf slot ue
  else if nasType = 0xC1 then amfHandlePduSessionRequest around amf slot ue
  else (amf, .ok .cleared)

def amfHandleUplinkNas (around : AmfSurroundings) (amf : AmfServer) (ulNas : NgapUplinkNasTransport) :
    AmfServer × Except MockCoreError AmfResponse :=
  match (amfFindUeByAmfId amf ulNas.ueIds.amfUeNgapId).orElse
      (fun _ => amfFindUeByRanId amf ulNas.ueIds.ranUeNgapId) with
  | none => (amf, .error .notFound)
  | some slot =>
      match amf.ueContexts slot, ulNas.nasPdu.1 with
      | some ue, b :: _ => amfDispatchNas around (b &&& 0x0F) amf slot ue
      | _, _ => (amf, .error .protocol)

/-- The switch over the message type. Where no handler is called, `response` stays cleared. -/
def amfHandleMessage (around : AmfSurroundings) (amf : AmfServer) (msg : NgapMessage) :
    AmfServer × Except MockCoreError AmfResponse :=
  match msg.payload with
  | .ngSetupRequest _ => (amf, .ok (amfHandleNgSetup amf))
  | .initialUeMessage initUe => amfHandleInitialUe around amf initUe
  | .uplinkNasTransport ulNas => amfHandleUplinkNas around amf ulNas
  | _ => (amf, .ok .cleared)

/-- `process_ngap_message`, whose result is not looked at, with the bytes that are sent and their number. -/
def amfProcessNgapMessage (around : AmfSurroundings) (amf : AmfServer) (data : Memory) (len : Nat) :
    AmfServer × Option (Memory × Nat) :=
  match ngapDecodeMessage around.uninit data len with
  | .error _ => (amf, none)
  | .ok msg =>
      match amfHandleMessage around amf msg with
      | (amf, .error _) => (amf, none)
      | (amf, .ok response) =>
          match ngapEncodeMessage around.bufferMemory response.message with
          | .error _ => (amf, none)
          | .ok sent => ({ amf with ngapMessagesTx := amf.ngapMessagesTx + 1 }, some sent)

/-- What `ngap_listener_thread` does with a connection on which `len` bytes come. -/
def amfReceive (around : AmfSurroundings) (amf : AmfServer) (data : Memory) (len : Nat) :
    AmfServer × Option (Memory × Nat) :=
  if len > 0 then
    amfProcessNgapMessage around { amf with ngapMessagesRx := amf.ngapMessagesRx + 1 } data len
  else (amf, none)

/-!
## Runs of the mock AMF

The type of an uplink NAS message is compared after four of its bits have been cut off. The messages behind a
registration request have types that are wider, so that no registration ever gets any further, and the answers
are of types for which the encoder writes the header only.
-/

/-- What happens to the server: bytes that come on a connection, and the two calls of the test environment. -/
inductive AmfOp where
  | receive (around : AmfSurroundings) (data : Memory) (len : Nat)
  | createUe (memory : Bool) (ranUeId : Word)
  | removeUe (slot : Fin mockCoreMaxUes)

def amfStep (amf : AmfServer) : AmfOp → AmfServer
  | .receive around data len => (amfReceive around amf data len).1
  | .createUe memory ranUeId => (amfCreateUeContext memory amf ranUeId).1
  | .removeUe slot => amfRemoveUeContext amf slot

/-- The bytes that are sent in answer, with their number. -/
def amfSent (amf : AmfServer) : AmfOp → Option (Memory × Nat)
  | .receive around data len => (amfReceive around amf data len).2
  | _ => none

/-- What a registration leaves in a context that has not got behind its first message. -/
structure AmfUeContext.Unregistered (ue : AmfUeContext) : Prop where
  state : ue.state = .idle ∨ ue.state = .connecting
  authenticated : ue.authenticated = false
  securityActive : ue.securityActive = false
  guti : ue.guti = []
  knasEnc : ue.knasEnc = octetsOf 16 0
  knasInt : ue.knasInt = octetsOf 16 0
  pduSessionIds : ∀ i, ue.pduSessionIds i = 0
  numActiveSessions : ue.numActiveSessions = 0

/-- A context as it is after a registration request that found `old`. -/
structure AmfUeContext.Follows (old ue : AmfUeContext) : Prop where
  amfUeNgapId : ue.amfUeNgapId = old.amfUeNgapId
  imsi : ue.imsi = old.imsi
  unregistered : old.Unregistered → ue.Unregistered

structure AmfUeContext.New (amfUeId : BitVec 64) (ue : AmfUeContext) : Prop where
  amfUeNgapId : ue.amfUeNgapId = amfUeId
  imsi : ue.imsi = amfImsi amfUeId
  unregistered : ue.Unregistered

/-- The table and its counts, which are all that decides about contexts. -/
structure AmfTable where
  ueContexts : Fin mockCoreMaxUes → Option AmfUeContext
  numActiveUes : Word
  nextAmfUeId : BitVec 64

def AmfServer.table (amf : AmfServer) : AmfTable := ⟨amf.ueContexts, amf.numActiveUes, amf.nextAmfUeId⟩

namespace AmfTable

/-- The table with a context in a slot that was free. -/
def create (before : AmfTable) (slot : Fin mockCoreMaxUes) (ue : AmfUeContext) : AmfTable :=
  ⟨Function.update before.ueContexts slot (some ue), before.numActiveUes + 1, before.nextAmfUeId + 1⟩

/-- All that a message or a creation can do to the table. -/
inductive Change (before : AmfTable) : AmfTable → Prop
  | same : Change before before
  | created (slot : Fin mockCoreMaxUes) (ue : AmfUeContext)
      (hfree : first Option.isNone before.ueContexts = some slot) (hnew : ue.New before.nextAmfUeId) :
      Change before (before.create slot ue)
  | followed (slot : Fin mockCoreMaxUes) (old ue : AmfUeContext) (hold : before.ueContexts slot = some old)
      (hfollows : old.Follows ue) :
      Change before
        ⟨Function.update before.ueContexts slot (some ue), before.numActiveUes, before.nextAmfUeId⟩

end AmfTable

open AmfTable

/-! ### What each handler does -/

theorem unregistered_amfNewUeContext (amfUeId : BitVec 64) (ranUeId : Word) :
    (amfNewUeContext amfUeId ranUeId).New amfUeId :=
  ⟨rfl, rfl, .inl rfl, rfl, rfl, rfl, rfl, rfl, fun _ => rfl, rfl⟩

/-- What a registration request makes of a context, whatever becomes of its answer. -/
theorem amfHandleRegistrationRequest_table (around : AmfSurroundings) (amf : AmfServer)
    (slot : Fin mockCoreMaxUes) (ue : AmfUeContext) :
    ∃ ue', ue.Follows ue'
      ∧ (amfHandleRegistrationRequest around amf slot ue).1.table = (amf.put slot ue').table
      ∧ (amfHandleRegistrationRequest around amf slot ue).1.registrations = amf.registrations := by
  refine ⟨{ ue with
    state := .connecting
    rand := around.vectors.rand
    autn := around.vectors.autn
    xres := around.vectors.xres
    kamf := around.vectors.kausf }, ⟨rfl, rfl, fun h => ?_⟩, ?_⟩
  · exact ⟨.inr rfl, h.authenticated, h.securityActive, h.guti, h.knasEnc, h.knasInt, h.pduSessionIds,
      h.numActiveSessions⟩
  · rw [amfHandleRegistrationRequest]
    cases nasGenerateAuthenticationRequest around.nasMemory around.vectors.rand around.vectors.autn with
    | error e => exact ⟨rfl, rfl⟩
    | ok nasPdu => exact ⟨rfl, rfl⟩

/-- **Four bits of a type are none of the types behind a registration request.** -/
theorem amfDispatchNas_low (around : AmfSurroundings) (b : Byte) (amf : AmfServer) (slot : Fin mockCoreMaxUes)
    (ue : AmfUeContext) :
    amfDispatchNas around (b &&& 0x0F) amf slot ue
      = if b &&& 0x0F = 0x02 then amfHandleRegistrationRequest around amf slot ue
        else (amf, .ok .cleared) := by
  have hlow : (b &&& 0x0F).toNat < 16 := by
    rw [BitVec.toNat_and]
    exact Nat.lt_of_le_of_lt Nat.and_le_right (by decide)
  have hwide : ∀ type : Byte, 16 ≤ type.toNat → b &&& 0x0F ≠ type := by
    rintro type htype rfl
    exact absurd hlow (Nat.not_lt.mpr htype)
  unfold amfDispatchNas
  rw [if_neg (hwide 0x44 (by decide)), if_neg (hwide 0x5D (by decide)), if_neg (hwide 0x45 (by decide)),
    if_neg (hwide 0xC1 (by decide)), ite_self]

theorem AmfUeContext.New.follows {amfUeId : BitVec 64} {old ue : AmfUeContext} (hnew : old.New amfUeId)
    (h : old.Follows ue) : ue.New amfUeId :=
  ⟨h.amfUeNgapId.trans hnew.amfUeNgapId, h.imsi.trans hnew.imsi, h.unregistered hnew.unregistered⟩

theorem amfCreateUeContext_cases (memory : Bool) (amf : AmfServer) (ranUeId : Word) :
    amfCreateUeContext memory amf ranUeId = (amf, none)
      ∨ ∃ slot ue amf', first Option.isNone amf.ueContexts = some slot ∧ ue.New amf.nextAmfUeId
        ∧ amfCreateUeContext memory amf ranUeId = (amf', some slot) ∧ amf'.ueContexts slot = some ue
        ∧ amf'.table = amf.table.create slot ue ∧ amf'.registrations = amf.registrations := by
  rw [amfCreateUeContext]
  split
  · cases hfirst : first Option.isNone amf.ueContexts with
    | none => exact .inl rfl
    | some slot =>
        exact .inr ⟨slot, _, _, rfl, unregistered_amfNewUeContext _ ranUeId, rfl, Function.update_self ..,
          rfl, rfl⟩
  · exact .inl rfl

theorem amfHandleInitialUe_change (around : AmfSurroundings) (amf : AmfServer)
    (initUe : NgapInitialUeMessage) :
    amf.table.Change (amfHandleInitialUe around amf initUe).1.table
      ∧ (amfHandleInitialUe around amf initUe).1.registrations = amf.registrations := by
  rw [amfHandleInitialUe]
  rcases amfCreateUeContext_cases around.contextMemory amf initUe.ueIds.ranUeNgapId with
    hnone | ⟨slot, ue, amf', hfree, hnew, hsome, hslot, htable, hregistrations⟩
  · rw [hnone]
    exact ⟨.same, rfl⟩
  · rw [hsome]
    dsimp only
    rw [hslot]
    dsimp only
    split
    · obtain ⟨ue', hfollows, htable', hregistrations'⟩ :=
        amfHandleRegistrationRequest_table around amf' slot ue
      have htwice : (amf'.put slot ue').table = amf.table.create slot ue' := by
        calc (amf'.put slot ue').table
            = ⟨Function.update amf'.table.ueContexts slot (some ue'), amf'.table.numActiveUes,
                amf'.table.nextAmfUeId⟩ := rfl
          _ = amf.table.create slot ue' := by
              rw [htable]
              simp only [AmfTable.create, Function.update_idem]
      rw [htable', htwice]
      exact ⟨.created slot ue' hfree (hnew.follows hfollows), hregistrations'.trans hregistrations⟩
    · rw [htable]
      exact ⟨.created slot ue hfree hnew, hregistrations⟩

theorem amfHandleUplinkNas_change (around : AmfSurroundings) (amf : AmfServer)
    (ulNas : NgapUplinkNasTransport) :
    amf.table.Change (amfHandleUplinkNas around amf ulNas).1.table
      ∧ (amfHandleUplinkNas around amf ulNas).1.registrations = amf.registrations := by
  rw [amfHandleUplinkNas]
  split
  · exact ⟨.same, rfl⟩
  · rename_i slot _
    split
    · rename_i ue b rest hue _
      rw [amfDispatchNas_low]
      split
      · obtain ⟨ue', hfollows, htable, hregistrations⟩ :=
          amfHandleRegistrationRequest_table around amf slot ue
        rw [htable]
        exact ⟨.followed slot ue ue' hue hfollows, hregistrations⟩
      · exact ⟨.same, rfl⟩
    · exact ⟨.same, rfl⟩

/-- **What a message can do to the table, whatever it is made of.** -/
theorem amfHandleMessage_change (around : AmfSurroundings) (amf : AmfServer) (msg : NgapMessage) :
    amf.table.Change (amfHandleMessage around amf msg).1.table
      ∧ (amfHandleMessage around amf msg).1.registrations = amf.registrations := by
  unfold amfHandleMessage
  split
  · exact ⟨.same, rfl⟩
  · exact amfHandleInitialUe_change around amf _
  · exact amfHandleUplinkNas_change around amf _
  · exact ⟨.same, rfl⟩

/-- What bytes on a connection can do to the table. -/
theorem amfReceive_change (around : AmfSurroundings) (amf : AmfServer) (data : Memory) (len : Nat) :
    amf.table.Change (amfReceive around amf data len).1.table
      ∧ (amfReceive around amf data len).1.registrations = amf.registrations := by
  rw [amfReceive]
  split
  · have hmessage := amfHandleMessage_change around { amf with ngapMessagesRx := amf.ngapMessagesRx + 1 }
    rw [amfProcessNgapMessage]
    split
    · exact ⟨.same, rfl⟩
    · rename_i msg _
      specialize hmessage msg
      split
      · rename_i heq
        rw [heq] at hmessage
        exact hmessage
      · rename_i heq
        rw [heq] at hmessage
        split
        · exact hmessage
        · exact hmessage
  · exact ⟨.same, rfl⟩

/-! ### What is sent -/

/-- The three messages that the encoder makes of all answers. -/
def amfAnswers : List NgapMessage :=
  [⟨0, 0, 0, .ngSetupRequest ngapNoSetupRequest⟩, ⟨21, 0, 0, .other 1⟩, ⟨37, 0, 0, .other 14⟩]

theorem amfHandleRegistrationRequest_answer {around : AmfSurroundings} {amf amf' : AmfServer}
    {slot : Fin mockCoreMaxUes} {ue : AmfUeContext} {response : AmfResponse}
    (h : amfHandleRegistrationRequest around amf slot ue = (amf', .ok response)) :
    response.message = ⟨37, 0, 0, .other 14⟩ := by
  rw [amfHandleRegistrationRequest] at h
  split at h
  · cases (Prod.mk.inj h).2
  · obtain rfl := Except.ok.inj (Prod.mk.inj h).2
    rfl

theorem message_mem_amfAnswers {around : AmfSurroundings} {amf amf' : AmfServer} {msg : NgapMessage}
    {response : AmfResponse} (h : amfHandleMessage around amf msg = (amf', .ok response)) :
    response.message ∈ amfAnswers := by
  have hcleared : AmfResponse.cleared.message ∈ amfAnswers := List.mem_cons_self
  have hdownlink : ⟨37, 0, 0, .other 14⟩ ∈ amfAnswers := List.mem_of_getElem? (i := 2) rfl
  unfold amfHandleMessage at h
  split at h
  · obtain rfl := Except.ok.inj (Prod.mk.inj h).2
    exact List.mem_of_getElem? (i := 1) rfl
  · rw [amfHandleInitialUe] at h
    split at h
    · cases (Prod.mk.inj h).2
    · split at h
      · obtain rfl := Except.ok.inj (Prod.mk.inj h).2
        exact hcleared
      · split at h
        · rw [amfHandleRegistrationRequest_answer h]
          exact hdownlink
        · obtain rfl := Except.ok.inj (Prod.mk.inj h).2
          exact hcleared
  · rw [amfHandleUplinkNas] at h
    split at h
    · cases (Prod.mk.inj h).2
    · split at h
      · rw [amfDispatchNas_low] at h
        split at h
        · rw [amfHandleRegistrationRequest_answer h]
          exact hdownlink
        · obtain rfl := Except.ok.inj (Prod.mk.inj h).2
          exact hcleared
      · cases (Prod.mk.inj h).2
  · obtain rfl := Except.ok.inj (Prod.mk.inj h).2
    exact hcleared

/-- Whatever is sent is one of the three, written over what the memory of the buffer held. -/
theorem exists_answer_of_sent {around : AmfSurroundings} {amf : AmfServer} {data : Memory} {len : Nat}
    {sent : Memory × Nat} (h : (amfReceive around amf data len).2 = some sent) :
    ∃ answer ∈ amfAnswers, ngapEncodeMessage around.bufferMemory answer = .ok sent := by
  rw [amfReceive] at h
  split at h
  · rw [amfProcessNgapMessage] at h
    split at h
    · cases h
    · split at h
      · cases h
      · rename_i hmessage
        split at h
        · cases h
        · rename_i hencoded
          obtain rfl := Option.some.inj h
          exact ⟨_, message_mem_amfAnswers hmessage, hencoded⟩
  · cases h

/-- The header and what stands in the place of the payload. -/
theorem length_le_of_answer {memory : Option Memory} {answer : NgapMessage} (hanswer : answer ∈ amfAnswers)
    {sent : Memory × Nat} (h : ngapEncodeMessage memory answer = .ok sent) : sent.2 ≤ 15 := by
  have hmoves : ∀ calls : List Asn1Call, (∀ call ∈ calls, call.NoBitString) → asn1Moves calls ≤ 120 →
      ∀ data : Memory, asn1BufferLength (asn1Run ⟨data, 0, ngapMaxMessageSize, 0⟩ calls) ≤ 15 := by
    intro calls hcalls hwidth data
    have hroom : 0 + asn1Moves calls ≤ 8 * ngapMaxMessageSize := by
      unfold ngapMaxMessageSize
      omega
    have hmoved := (@asn1Run_movedBy calls hcalls ⟨data, 0, ngapMaxMessageSize, 0⟩ hroom).bitOffset
    rw [asn1BufferLength, hmoved]
    dsimp only
    omega
  have hsize : ngapMaxMessageSize ≠ 0 := by decide
  cases memory with
  | none =>
      rw [ngapEncodeMessage, asn1BufferAlloc, if_neg hsize] at h
      cases h
  | some data =>
      rw [ngapEncodeMessage, asn1BufferAlloc, if_neg hsize] at h
      obtain rfl := Except.ok.inj h
      refine hmoves _ ?_ ?_ data
      · simp only [amfAnswers, List.mem_cons, List.not_mem_nil, or_false] at hanswer
        rcases hanswer with rfl | rfl | rfl <;>
          simp [ngapEncodeHeader, ngapEncodePayload, ngapEncodePlmnId, Asn1Call.NoBitString,
            ngapNoSetupRequest, ngapNoPlmnId, Counted.empty]
      · simp only [amfAnswers, List.mem_cons, List.not_mem_nil, or_false] at hanswer
        rcases hanswer with rfl | rfl | rfl <;> decide

/-! ### Nobody is registered -/

/-- Every context belongs to a UE that is not registered, and has the IMSI of its identifier. -/
def AmfTable.Unregistered (table : AmfTable) : Prop :=
  ∀ slot ue, table.ueContexts slot = some ue → ue.Unregistered ∧ ue.imsi = amfImsi ue.amfUeNgapId

theorem AmfTable.Unregistered.update {table : AmfTable} (h : table.Unregistered) {slot : Fin mockCoreMaxUes}
    {entry : Option AmfUeContext}
    (hentry : ∀ ue, entry = some ue → ue.Unregistered ∧ ue.imsi = amfImsi ue.amfUeNgapId)
    (count : Word) (next : BitVec 64) :
    AmfTable.Unregistered ⟨Function.update table.ueContexts slot entry, count, next⟩ := by
  intro other ue hue
  dsimp only at hue
  by_cases heq : other = slot
  · rw [heq, Function.update_self] at hue
    exact hentry ue hue
  · rw [Function.update_of_ne heq] at hue
    exact h other ue hue

theorem AmfTable.Change.unregistered {before after : AmfTable} (hchange : before.Change after)
    (h : before.Unregistered) : after.Unregistered := by
  cases hchange with
  | same => exact h
  | created slot ue _ hnew =>
      apply h.update
      rintro _ ⟨⟩
      exact ⟨hnew.unregistered, by rw [hnew.imsi, hnew.amfUeNgapId]⟩
  | followed slot old ue hold hfollows =>
      apply h.update
      rintro _ ⟨⟩
      obtain ⟨hunregistered, himsi⟩ := h slot old hold
      exact ⟨hfollows.unregistered hunregistered, by rw [hfollows.imsi, hfollows.amfUeNgapId, himsi]⟩

def AmfServer.Unregistered (amf : AmfServer) : Prop := amf.registrations = 0 ∧ amf.table.Unregistered

/-- What a creation by the test environment can do to the table. -/
theorem amfCreateUeContext_change (memory : Bool) (amf : AmfServer) (ranUeId : Word) :
    amf.table.Change (amfCreateUeContext memory amf ranUeId).1.table
      ∧ (amfCreateUeContext memory amf ranUeId).1.registrations = amf.registrations := by
  rcases amfCreateUeContext_cases memory amf ranUeId with
    hnone | ⟨slot, ue, amf', hfree, hnew, hsome, -, htable, hregistrations⟩
  · rw [hnone]
    exact ⟨.same, rfl⟩
  · rw [hsome]
    dsimp only
    rw [htable]
    exact ⟨.created slot ue hfree hnew, hregistrations⟩

theorem amfStep_unregistered {amf : AmfServer} (h : amf.Unregistered) (op : AmfOp) :
    (amfStep amf op).Unregistered := by
  cases op with
  | receive around data len =>
      obtain ⟨hchange, hregistrations⟩ := amfReceive_change around amf data len
      exact ⟨hregistrations.trans h.1, hchange.unregistered h.2⟩
  | createUe memory ranUeId =>
      obtain ⟨hchange, hregistrations⟩ := amfCreateUeContext_change memory amf ranUeId
      exact ⟨hregistrations.trans h.1, hchange.unregistered h.2⟩
  | removeUe slot =>
      rw [amfStep, amfRemoveUeContext]
      split
      · exact h
      · exact ⟨h.1, h.2.update (fun _ hue => by cases hue) _ _⟩

theorem amfRun_unregistered (config : AmfConfig) (ops : List AmfOp) :
    (ops.foldl amfStep (amfCreate config)).Unregistered := by
  apply List.foldlRecOn ops amfStep
  · refine ⟨rfl, fun slot ue hue => ?_⟩
    cases hue
  · exact fun amf h op _ => amfStep_unregistered h op

/-- **Whatever comes, no UE is ever authenticated or registered, and no answer says more than its type.** The
answers are three messages without identifiers and without a NAS message. -/
theorem amf_registers_nobody (config : AmfConfig) (ops : List AmfOp) :
    (ops.foldl amfStep (amfCreate config)).registrations = 0
      ∧ (∀ slot ue, (ops.foldl amfStep (amfCreate config)).ueContexts slot = some ue → ue.Unregistered)
      ∧ ∀ sent ∈ Runs.emitted amfStep amfSent (amfCreate config) ops,
        sent.2 ≤ 15 ∧ ∃ memory, ∃ answer ∈ amfAnswers, ngapEncodeMessage memory answer = .ok sent := by
  obtain ⟨hregistrations, htable⟩ := amfRun_unregistered config ops
  refine ⟨hregistrations, fun slot ue hue => (htable slot ue hue).1, fun sent hsent => ?_⟩
  obtain ⟨before, op, after, -, hemit⟩ := (Runs.mem_emitted_iff amfStep amfSent).mp hsent
  cases op with
  | receive around data len =>
      obtain ⟨answer, hanswer, hencoded⟩ := exists_answer_of_sent hemit
      exact ⟨length_le_of_answer hanswer hencoded, _, answer, hanswer, hencoded⟩
  | createUe memory ranUeId => cases hemit
  | removeUe slot => cases hemit

/-! ### Subscribers -/

theorem amfImsi_eq (amfUeId : BitVec 64) (h : amfUeId.toNat < 10 ^ 10) :
    amfImsi amfUeId = text "001010" ++ padded 9 (amfUeId.toNat / 10) := by
  have hprefix : (text "001010").length = 6 := by decide
  have hlength : (padded 9 (amfUeId.toNat / 10)).length = 9 := length_padded (by omega)
  have hroom : 15 = (text "001010" ++ padded 9 (amfUeId.toNat / 10)).length := by
    rw [List.length_append, hprefix, hlength]
  rw [amfImsi, padded_eq_append (by decide), ← List.append_assoc]
  conv_lhs => rw [hroom]
  exact List.take_left

/-- **The array of the IMSI has no room for the last digit, so that up to ten UEs share one.** -/
theorem amf_imsi_eq_iff (config : AmfConfig) (ops : List AmfOp) {i j : Fin mockCoreMaxUes}
    {ue ue' : AmfUeContext} (hue : (ops.foldl amfStep (amfCreate config)).ueContexts i = some ue)
    (hue' : (ops.foldl amfStep (amfCreate config)).ueContexts j = some ue')
    (hid : ue.amfUeNgapId.toNat < 10 ^ 10) (hid' : ue'.amfUeNgapId.toNat < 10 ^ 10) :
    ue.imsi = ue'.imsi ↔ ue.amfUeNgapId.toNat / 10 = ue'.amfUeNgapId.toNat / 10 := by
  have htable := (amfRun_unregistered config ops).2
  rw [(htable i ue hue).2, (htable j ue' hue').2, amfImsi_eq _ hid, amfImsi_eq _ hid', List.append_right_inj,
    padded_inj]

/-- The configuration that the server starts with. -/
def amfDefaultConfig : AmfConfig where
  amfId := 1
  amfName := text "MockAMF-1"
  plmnId := ⟨[0x00, 0x01, 0xF1], rfl⟩
  tac := 1

theorem amf_imsi_eq_two : (amfNewUeContext 1 5).imsi = (amfNewUeContext 2 6).imsi := by
  have hfirst : first Option.isNone (amfCreate amfDefaultConfig).ueContexts = some ⟨0, by decide⟩ :=
    first_eq_some_iff.mpr ⟨rfl, fun place hplace => absurd hplace (Nat.not_lt_zero _)⟩
  have hone : amfStep (amfCreate amfDefaultConfig) (.createUe true 5)
      = { (amfCreate amfDefaultConfig).put ⟨0, by decide⟩ (amfNewUeContext 1 5) with
          nextAmfUeId := 2
          numActiveUes := 1 } := by
    rw [amfStep, amfCreateUeContext, if_pos rfl, hfirst]
    rfl
  have hsecond : first Option.isNone (amfStep (amfCreate amfDefaultConfig) (.createUe true 5)).ueContexts
      = some ⟨1, by decide⟩ := by
    rw [hone, first_eq_some_iff]
    refine ⟨rfl, fun place hplace => ?_⟩
    have hzero : place = ⟨0, by decide⟩ := Fin.ext (Nat.lt_one_iff.mp hplace)
    rw [hzero]
    rfl
  have htwo : ([.createUe true 5, .createUe true 6] : List AmfOp).foldl amfStep (amfCreate amfDefaultConfig)
      = { (amfStep (amfCreate amfDefaultConfig) (.createUe true 5)).put ⟨1, by decide⟩
            (amfNewUeContext 2 6) with
          nextAmfUeId := 3
          numActiveUes := 2 } := by
    rw [List.foldl_cons, List.foldl_cons, List.foldl_nil, amfStep, amfCreateUeContext, if_pos rfl, hsecond]
    rw [hone]
    rfl
  refine (amf_imsi_eq_iff amfDefaultConfig [.createUe true 5, .createUe true 6] (i := ⟨0, by decide⟩)
    (j := ⟨1, by decide⟩) ?_ ?_ (by decide) (by decide)).mpr (by decide)
  · rw [htwo, hone]
    rfl
  · rw [htwo]
    rfl

/-! ### A server that removes no context -/

/-- The contexts are in the first `count` slots, in the order of their identifiers. -/
structure AmfTable.InOrder (table : AmfTable) (count : Nat) : Prop where
  count_le : count ≤ mockCoreMaxUes
  numActiveUes : table.numActiveUes = BitVec.ofNat 32 count
  nextAmfUeId : table.nextAmfUeId = BitVec.ofNat 64 (count + 1)
  held : ∀ slot : Fin mockCoreMaxUes, slot < count →
    ∃ ue, table.ueContexts slot = some ue ∧ ue.amfUeNgapId = BitVec.ofNat 64 (slot + 1)
  free : ∀ slot : Fin mockCoreMaxUes, count ≤ slot → table.ueContexts slot = none

namespace AmfTable

variable {table : AmfTable} {count : Nat}

theorem InOrder.first_free_iff (h : table.InOrder count) {slot : Fin mockCoreMaxUes} :
    first Option.isNone table.ueContexts = some slot ↔ slot.val = count := by
  have hheld (place : Fin mockCoreMaxUes) : (table.ueContexts place).isNone = false ↔ place < count := by
    constructor
    · intro hsome
      by_contra hge
      rw [h.free place (Nat.not_lt.mp hge)] at hsome
      cases hsome
    · intro hlt
      obtain ⟨ue, hue, -⟩ := h.held place hlt
      rw [hue]
      rfl
  rw [first_eq_some_iff]
  constructor
  · rintro ⟨hfree, hbefore⟩
    have hge : ¬slot < count := by
      intro hlt
      rw [(hheld slot).mpr hlt] at hfree
      cases hfree
    by_contra hne
    have hlt : count < slot := by omega
    have hcount := (hheld ⟨count, hlt.trans slot.isLt⟩).mp (hbefore _ hlt)
    exact Nat.lt_irrefl count hcount
  · rintro rfl
    refine ⟨?_, fun place hplace => (hheld place).mpr hplace⟩
    rw [h.free slot le_rfl]
    rfl

theorem InOrder.create (h : table.InOrder count) {slot : Fin mockCoreMaxUes} (hslot : slot.val = count)
    {ue : AmfUeContext} (hue : ue.New table.nextAmfUeId) : (table.create slot ue).InOrder (count + 1) := by
  refine ⟨hslot ▸ slot.isLt, ?_, ?_, fun place hplace => ?_, fun place hplace => ?_⟩
  · change table.numActiveUes + 1 = _
    rw [h.numActiveUes, BitVec.ofNat_add]
    rfl
  · change table.nextAmfUeId + 1 = _
    rw [h.nextAmfUeId, BitVec.ofNat_add (count + 1)]
    rfl
  · by_cases heq : place = slot
    · refine ⟨ue, ?_, ?_⟩
      · rw [heq]
        exact Function.update_self ..
      · rw [hue.amfUeNgapId, h.nextAmfUeId, heq, hslot]
    · have hne : place.val ≠ slot.val := fun hval => heq (Fin.ext hval)
      obtain ⟨old, hold, hid⟩ := h.held place (by omega)
      exact ⟨old, (Function.update_of_ne heq ..).trans hold, hid⟩
  · have hne : place ≠ slot := by
      rintro rfl
      omega
    exact (Function.update_of_ne hne ..).trans (h.free place (by omega))

theorem InOrder.follow (h : table.InOrder count) {slot : Fin mockCoreMaxUes} {old ue : AmfUeContext}
    (hold : table.ueContexts slot = some old) (hfollows : old.Follows ue) :
    AmfTable.InOrder ⟨Function.update table.ueContexts slot (some ue), table.numActiveUes, table.nextAmfUeId⟩
      count := by
  have hlt : slot < count := by
    by_contra hge
    rw [h.free slot (Nat.not_lt.mp hge)] at hold
    cases hold
  refine ⟨h.count_le, h.numActiveUes, h.nextAmfUeId, fun place hplace => ?_, fun place hplace => ?_⟩
  · by_cases heq : place = slot
    · obtain ⟨other, hother, hid⟩ := h.held slot hlt
      obtain rfl := Option.some.inj (hold.symm.trans hother)
      refine ⟨ue, ?_, ?_⟩
      · rw [heq]
        exact Function.update_self ..
      · rw [hfollows.amfUeNgapId, hid, heq]
    · obtain ⟨other, hother, hid⟩ := h.held place hplace
      exact ⟨other, (Function.update_of_ne heq ..).trans hother, hid⟩
  · have hne : place ≠ slot := by
      rintro rfl
      omega
    exact (Function.update_of_ne hne ..).trans (h.free place hplace)

theorem InOrder.change (h : table.InOrder count) {after : AmfTable} (hchange : table.Change after) :
    ∃ count', after.InOrder count' := by
  cases hchange with
  | same => exact ⟨count, h⟩
  | created slot ue hfree hnew => exact ⟨count + 1, h.create (h.first_free_iff.mp hfree) hnew⟩
  | followed slot old ue hold hfollows => exact ⟨count, h.follow hold hfollows⟩

theorem InOrder.hasAmfId_iff (h : table.InOrder count) {amfUeId : BitVec 64} {place : Fin mockCoreMaxUes} :
    AmfUeContext.hasAmfId amfUeId (table.ueContexts place) = true
      ↔ place < count ∧ amfUeId = BitVec.ofNat 64 (place + 1) := by
  by_cases hlt : place < count
  · obtain ⟨ue, hue, hid⟩ := h.held place hlt
    rw [hue, AmfUeContext.hasAmfId, Option.any_some, beq_iff_eq, hid, and_iff_right hlt]
    exact eq_comm
  · rw [h.free place (Nat.not_lt.mp hlt)]
    exact iff_of_false Bool.false_ne_true fun hheld => hlt hheld.1

theorem InOrder.first_hasAmfId_iff (h : table.InOrder count) {amfUeId : BitVec 64}
    {slot : Fin mockCoreMaxUes} : first (AmfUeContext.hasAmfId amfUeId) table.ueContexts = some slot
      ↔ slot < count ∧ amfUeId = BitVec.ofNat 64 (slot + 1) := by
  rw [first_eq_some_iff, h.hasAmfId_iff]
  refine and_iff_left_of_imp fun hslot place hplace => ?_
  rw [Bool.eq_false_iff, ne_eq, h.hasAmfId_iff]
  rintro ⟨-, hid⟩
  have hsame := congrArg BitVec.toNat (hslot.2.symm.trans hid)
  have hslotLt : slot.val < 1024 := slot.isLt
  have hplaceLt : place.val < slot.val := hplace
  rw [BitVec.toNat_ofNat, BitVec.toNat_ofNat] at hsame
  omega

end AmfTable

def AmfServer.InOrder (amf : AmfServer) : Prop := ∃ count, amf.table.InOrder count

def AmfOp.Removes : AmfOp → Prop
  | .removeUe _ => True
  | _ => False

theorem amfRun_inOrder (config : AmfConfig) {ops : List AmfOp} (hops : ∀ op ∈ ops, ¬op.Removes) :
    (ops.foldl amfStep (amfCreate config)).InOrder := by
  apply List.foldlRecOn ops amfStep
  · exact ⟨0, Nat.zero_le _, rfl, rfl, fun _ hslot => absurd hslot (Nat.not_lt_zero _), fun _ _ => rfl⟩
  · rintro amf ⟨count, h⟩ op hop
    cases op with
    | receive around data len => exact h.change (amfReceive_change around amf data len).1
    | createUe memory ranUeId => exact h.change (amfCreateUeContext_change memory amf ranUeId).1
    | removeUe slot => exact absurd trivial (hops _ hop)

/-- **Unless a context is removed, the identifier of a UE is the number of its slot, and a UE is refused once
every slot has had one.** -/
theorem amf_identifies_by_slot (config : AmfConfig) (ops : List AmfOp) (hops : ∀ op ∈ ops, ¬op.Removes) :
    ∃ count ≤ mockCoreMaxUes, ∃ amf, amf = ops.foldl amfStep (amfCreate config)
      ∧ amf.numActiveUes.toNat = count ∧ amf.nextAmfUeId.toNat = count + 1
      ∧ (∀ amfUeId slot, amfFindUeByAmfId amf amfUeId = some slot
          ↔ slot < count ∧ amfUeId = BitVec.ofNat 64 (slot + 1))
      ∧ ∀ ranUeId slot, (amfCreateUeContext true amf ranUeId).2 = some slot ↔ slot.val = count := by
  obtain ⟨count, h⟩ := amfRun_inOrder config hops
  have hle := h.count_le
  unfold mockCoreMaxUes at hle
  refine ⟨count, h.count_le, _, rfl, ?_, ?_, fun amfUeId slot => ?_, fun ranUeId slot => ?_⟩
  · rw [show AmfServer.numActiveUes _ = _ from h.numActiveUes, BitVec.toNat_ofNat]
    omega
  · rw [show AmfServer.nextAmfUeId _ = _ from h.nextAmfUeId, BitVec.toNat_ofNat]
    omega
  · exact h.first_hasAmfId_iff
  · rw [← h.first_free_iff, amfCreateUeContext, if_pos rfl, AmfServer.table]
    cases first Option.isNone (ops.foldl amfStep (amfCreate config)).ueContexts with
    | none => exact Iff.rfl
    | some place => exact Iff.rfl

theorem amf_identifies_by_slot_one :
    ∃ count ≤ mockCoreMaxUes, ∃ amf, amf = [AmfOp.createUe true 5].foldl amfStep (amfCreate amfDefaultConfig)
      ∧ amf.numActiveUes.toNat = count ∧ amf.nextAmfUeId.toNat = count + 1
      ∧ (∀ amfUeId slot, amfFindUeByAmfId amf amfUeId = some slot
          ↔ slot < count ∧ amfUeId = BitVec.ofNat 64 (slot + 1))
      ∧ ∀ ranUeId slot, (amfCreateUeContext true amf ranUeId).2 = some slot ↔ slot.val = count := by
  apply amf_identifies_by_slot
  rw [List.forall_mem_singleton]
  exact id

end Uesim
