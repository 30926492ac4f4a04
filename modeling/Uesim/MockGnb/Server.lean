import Mathlib.Tactic.IntervalCases
import Uesim.Asn1.BitMessages
import Uesim.Asn1.RrcCapacity
import Uesim.Asn1.RrcFixedMessages
import Uesim.Library.KeyedSlots
import Uesim.Rrc.MessageCodec

/-!
# The mock gNB

The server takes one connection at a time. What a message is, it guesses from its first bytes: first it looks for
messages of the radio resource control, and what is none of them it takes for a message of a simple format of
its own, with a type in front.
-/

namespace Uesim

open Bytes BitMemory KeyedSlots

def mockGnbMaxUes : Nat := 1024

def mockGnbMaxPduSessions : Nat := 16

inductive MockGnbUeState where
  | idle
  | connecting
  | connected
  | registered
  | deregistering
  | handoverPrep
  | reestablishing
  | released
  deriving DecidableEq, Repr

inductive MockGnbPduState where
  | inactive
  | establishing
  | active
  | releasing
  deriving DecidableEq, Repr

structure MockGnbPduSession where
  pduSessionId : Byte
  state : MockGnbPduState
  ueIpAddress : Word

structure MockGnbUeContext where
  ranUeNgapId : Word
  amfUeNgapId : BitVec 64
  ueIdentity : BitVec 64
  rnti : BitVec 16
  state : MockGnbUeState
  ngapSocket : Int
  pduSessions : Fin mockGnbMaxPduSessions → MockGnbPduSession
  numActiveSessions : Byte

structure MockGnbCellConfig where
  cellId : Word
  tac : BitVec 16
  plmnId : Word

structure MockGnbConfig where
  autoRespond : Bool
  cellConfig : MockGnbCellConfig

structure MockGnbStats where
  totalConnections : Word
  activeConnections : Word
  totalRegistrations : Word
  successfulRegistrations : Word
  successfulHandovers : Word
  ngapMessagesSent : Word
  ngapMessagesReceived : Word

/-- What a message finds apart from the server: what the allocation for the answer returns, the number that
`rand` returns, and whether `send` succeeds. -/
structure MockGnbSurroundings where
  memory : Option Memory
  rand : Nat
  sendOk : Bool

/-! ### What a message is -/

inductive RrcDetectedType where
  | unknown
  | setupRequest
  | setupComplete
  | reestablishmentRequest
  | reconfigurationComplete
  | measurementReport
  | handoverPreparation
  | ueCapabilityInfo
  | securityModeComplete
  deriving DecidableEq, Repr

/-- `cause <= 5 && spare == 0 && id_type == 0` -/
def startsSetupRequest (firstByte : Byte) : Bool :=
  (firstByte >>> 5) &&& 0x07 ≤ 5 ∧ (firstByte >>> 4) &&& 0x01 = 0 ∧ (firstByte >>> 3) &&& 0x01 = 0

/-- `spare2 == 0 && plmn > 0 && plmn < 12` -/
def startsSetupComplete (firstByte : Byte) : Bool :=
  firstByte &&& 0x03 = 0 ∧ 0 < (firstByte >>> 2) &&& 0x0F ∧ (firstByte >>> 2) &&& 0x0F < 12

/-- `((uint16_t)data[1] << 8) | data[2]` -/
def detectedPci (data : Memory) : BitVec 16 := data 1 ++ data 2

def detectRrcMessageType (data : Memory) (len : Nat) : RrcDetectedType :=
  if len < 1 then .unknown
  else
    let firstByte := data 0
    if startsSetupRequest firstByte ∧ len ≥ 6 then .setupRequest
    else if startsSetupComplete firstByte ∧ len ≥ 2 then .setupComplete
    else if (firstByte >>> 6) &&& 0x03 ≤ 2 ∧ len ≥ 12 ∧ detectedPci data ≤ 1007 then
      .reestablishmentRequest
    else if firstByte &&& 0x3F = 0 ∧ len ≥ 1 then .reconfigurationComplete
    else if firstByte &&& 0x03 = 0 ∧ (firstByte >>> 2) &&& 0x3F > 0 ∧ len ≥ 10 then .measurementReport
    else if firstByte &&& 0x03 = 0 ∧ len ≥ 9 then .handoverPreparation
    else if firstByte &&& 0x0F = 0 ∧ (firstByte >>> 4) &&& 0x0F ≤ 2 ∧ len ≥ 2 then .ueCapabilityInfo
    else if firstByte &&& 0x3F = 0 ∧ len = 1 then .securityModeComplete
    else .unknown

/-! ### Answers to messages of the radio resource control -/

/-- `generate_rrc_setup_asn1` -/
def generateRrcSetupAsn1 (memory : Option Memory) (transactionId : Byte) :
    Except UesimError (Memory × Nat) :=
  match asn1BufferAlloc memory 64 with
  | .error e => .error e
  | .ok buf =>
      let buf := (asn1EncodeBits buf (transactionId.setWidth 32) 8).1
      let buf := (asn1EncodeChoice buf 0 2).1
      let buf := (asn1EncodeLength buf 1).1
      let buf := (asn1EncodeOctetString buf (ofBytes [0x01]) 1).1
      .ok (buf.data, asn1BufferLength buf)

def mockGnbReestablishment (memory : Option Memory) (ue : MockGnbUeContext) :
    Except UesimError (Memory × Nat) :=
  match asn1BufferAlloc memory 64 with
  | .error e => .error e
  | .ok buf =>
      let buf := (rrcEncodeReestablishment buf
        { rrcTransactionId := (ue.ranUeNgapId &&& 0x03).setWidth 8
          radioBearerConfig := zeros
          configLen := 0 }).1
      .ok (buf.data, asn1BufferLength buf)

def mockGnbHandoverCommand (around : MockGnbSurroundings) (ue : MockGnbUeContext)
    (hoPrep : RrcMeasurementReport) : Except UesimError (Memory × Nat) :=
  match asn1BufferAlloc around.memory 128 with
  | .error e => .error e
  | .ok buf =>
      let buf := (rrcEncodeHandoverCommand buf
        { rrcTransactionId := (ue.ranUeNgapId &&& 0x03).setWidth 8
          targetPci := hoPrep.pci
          targetCellId := hoPrep.cellId
          newCRnti := BitVec.ofNat 8 around.rand
          radioBearerConfig := zeros
          configLen := 0 }).1
      .ok (buf.data, asn1BufferLength buf)

/-! ### Messages of the simple format -/

/-- `ntohl` of the number at `start`. -/
def netWord (data : Memory) (start : Nat) : Word :=
  beWord (data start) (data (start + 1)) (data (start + 2)) (data (start + 3))

/-- The number as `htonl` leaves it in memory. -/
def netBytes (word : Word) : List Byte := [byteOf word 3, byteOf word 2, byteOf word 1, byteOf word 0]

/-- The header and `msg->data`, in the memory that `malloc` returns. -/
def mockMessage (memory : Option Memory) (messageType transactionId : Word) (payload : List Byte) :
    Option (Memory × Nat) :=
  memory.map fun _ =>
    (ofBytes (netBytes messageType ++ netBytes transactionId ++ netBytes (BitVec.ofNat 32 payload.length)
      ++ payload), 12 + payload.length)

def mockGnbGenerateNgSetupResponse (memory : Option Memory) : Option (Memory × Nat) :=
  mockMessage memory 1 0 []

def mockGnbGenerateRrcSetup (memory : Option Memory) (cell : MockGnbCellConfig)
    (transactionId ranUeNgapId : Word) : Option (Memory × Nat) :=
  let cRnti : BitVec 16 := ((ranUeNgapId &&& 0xFFEF) + 1).setWidth 16
  mockMessage memory 5 transactionId (netBytes cell.cellId ++ netBytes (cRnti.setWidth 32))

def mockGnbGenerateRegistrationAccept (memory : Option Memory) (cell : MockGnbCellConfig)
    (ue : MockGnbUeContext) : Option (Memory × Nat) :=
  mockMessage memory 20 ue.ranUeNgapId
    (([1, 0] : List Byte) ++ leBytes ue.ranUeNgapId ++ [cell.tac.setWidth 8, (cell.tac >>> 8).setWidth 8]
      ++ leBytes cell.plmnId ++ List.replicate 12 0)

def mockGnbUeIp (ue : MockGnbUeContext) : Word := 0x0A000001 + ue.ranUeNgapId

def mockGnbGeneratePduSessionAccept (memory : Option Memory) (ue : MockGnbUeContext) (sessionId : Byte) :
    Option (Memory × Nat) :=
  mockMessage memory 20 ue.ranUeNgapId
    (([13, sessionId, 1] : List Byte) ++ netBytes (mockGnbUeIp ue) ++ [1, 9] ++ List.replicate 7 0)

/-! ### One message -/

/-- What a message leaves: the context, the statistics and what has been sent. -/
structure MockGnbOutcome where
  ue : MockGnbUeContext
  stats : MockGnbStats
  sent : Option (Memory × Nat)

/-- `send_ngap_response`, if there is a response. -/
def sendNgapResponse (around : MockGnbSurroundings) (ue : MockGnbUeContext) (stats : MockGnbStats)
    (response : Option (Memory × Nat)) : MockGnbOutcome :=
  match response with
  | none => { ue, stats, sent := none }
  | some (data, len) =>
      if len = 0 ∨ around.sendOk = false then { ue, stats, sent := none }
      else
        { ue
          stats := { stats with ngapMessagesSent := stats.ngapMessagesSent + 1 }
          sent := some (data, len) }

def MockGnbStats.countRegistration (stats : MockGnbStats) : MockGnbStats :=
  { stats with
    totalRegistrations := stats.totalRegistrations + 1
    successfulRegistrations := stats.successfulRegistrations + 1 }

/-- The first session from 1 on that is inactive. -/
def mockGnbFreeSession (ue : MockGnbUeContext) : Option (Fin mockGnbMaxPduSessions) :=
  (List.finRange mockGnbMaxPduSessions).find? fun i => 1 ≤ i.val ∧ (ue.pduSessions i).state = .inactive

/-- What the UE's context is once a session has been accepted. -/
def MockGnbUeContext.withSession (ue : MockGnbUeContext) (id : Fin mockGnbMaxPduSessions) : MockGnbUeContext :=
  { ue with
    pduSessions := Function.update ue.pduSessions id ⟨BitVec.ofNat 8 id, .active, mockGnbUeIp ue⟩
    numActiveSessions := ue.numActiveSessions + 1 }

/-- The case for a NAS message from the UE. -/
def processUplinkNas (around : MockGnbSurroundings) (config : MockGnbConfig) (ue : MockGnbUeContext)
    (stats : MockGnbStats) (data : Memory) : MockGnbOutcome :=
  let nothing : MockGnbOutcome := { ue, stats, sent := none }
  if netWord data 8 = 0 ∨ config.autoRespond = false then nothing
  else if data 12 = 0 then
    match mockGnbGenerateRegistrationAccept around.memory config.cellConfig ue with
    | none => nothing
    | some response =>
        let outcome := sendNgapResponse around ue stats (some response)
        { outcome with
          ue := { ue with state := .registered }
          stats := outcome.stats.countRegistration }
  else if data 12 = 12 then
    match mockGnbFreeSession ue with
    | none => nothing
    | some id =>
        match mockGnbGeneratePduSessionAccept around.memory ue (BitVec.ofNat 8 id) with
        | none => nothing
        | some response =>
            { sendNgapResponse around ue stats (some response) with ue := ue.withSession id }
  else nothing

def processSimpleMessage (around : MockGnbSurroundings) (config : MockGnbConfig) (ue : MockGnbUeContext)
    (stats : MockGnbStats) (data : Memory) : MockGnbOutcome :=
  let msgType := netWord data 0
  let respond (ue : MockGnbUeContext) (response : Option (Memory × Nat)) : MockGnbOutcome :=
    sendNgapResponse around ue stats (if config.autoRespond then response else none)
  if msgType = 0 then respond ue (mockGnbGenerateNgSetupResponse around.memory)
  else if msgType = 3 then
    respond { ue with state := .connected }
      (mockGnbGenerateRrcSetup around.memory config.cellConfig (netWord data 4) ue.ranUeNgapId)
  else if msgType = 19 then processUplinkNas around config ue stats data
  else if msgType = 9 then { ue := { ue with state := .released }, stats, sent := none }
  else if msgType = 17 then
    { ue := { ue with state := .connected }
      stats := { stats with successfulHandovers := stats.successfulHandovers + 1 }
      sent := none }
  else { ue, stats, sent := none }

/-- The case for a setup request. -/
def processSetupRequest (around : MockGnbSurroundings) (config : MockGnbConfig) (ue : MockGnbUeContext)
    (stats : MockGnbStats) (data : Memory) (len : Nat) : MockGnbOutcome :=
  match (rrcDecodeSetupRequest len).run data with
  | .error _ => { ue, stats, sent := none }
  | .ok setupReq =>
      let ue := { ue with ueIdentity := setupReq.ueIdentity.randomValue, state := .connected }
      if config.autoRespond then
        sendNgapResponse around ue stats
          (generateRrcSetupAsn1 around.memory (ue.ranUeNgapId.setWidth 8)).toOption
      else { ue, stats, sent := none }

def processReestablishmentRequest (around : MockGnbSurroundings) (config : MockGnbConfig)
    (ue : MockGnbUeContext) (stats : MockGnbStats) (data : Memory) (len : Nat) : MockGnbOutcome :=
  match (rrcDecodeReestRequest len).run data with
  | .error _ => { ue, stats, sent := none }
  | .ok _ =>
      let ue := { ue with state := .connected }
      if config.autoRespond then
        sendNgapResponse around ue stats (mockGnbReestablishment around.memory ue).toOption
      else { ue, stats, sent := none }

def processHandoverPreparation (around : MockGnbSurroundings) (config : MockGnbConfig)
    (ue : MockGnbUeContext) (stats : MockGnbStats) (data : Memory) (len : Nat) : MockGnbOutcome :=
  match (rrcDecodeMeasurementReport len).run data with
  | .error _ => { ue, stats, sent := none }
  | .ok hoPrep =>
      if config.autoRespond then
        sendNgapResponse around ue stats (mockGnbHandoverCommand around ue hoPrep).toOption
      else { ue, stats, sent := none }

/-- What is decoded of a setup complete is printed. -/
def processSetupComplete (ue : MockGnbUeContext) (stats : MockGnbStats) (data : Memory) (len : Nat) :
    MockGnbOutcome :=
  match rrcDecodeSetupComplete data len ⟨0, 0, zeros, 0⟩ with
  | .error _ => { ue, stats, sent := none }
  | .ok _ => { ue := { ue with state := .registered }, stats := stats.countRegistration, sent := none }

/-- Of the other messages the server prints what they say. -/
def processNgapMessage (around : MockGnbSurroundings) (config : MockGnbConfig) (ue : MockGnbUeContext)
    (stats : MockGnbStats) (data : Memory) (len : Nat) : MockGnbOutcome :=
  if len < 1 then { ue, stats, sent := none }
  else
    match detectRrcMessageType data len with
    | .setupRequest => processSetupRequest around config ue stats data len
    | .setupComplete => processSetupComplete ue stats data len
    | .reestablishmentRequest => processReestablishmentRequest around config ue stats data len
    | .handoverPreparation => processHandoverPreparation around config ue stats data len
    | .unknown =>
        if len < 12 then { ue, stats, sent := none } else processSimpleMessage around config ue stats data
    | _ => { ue, stats, sent := none }

/-! ### Connections -/

/-- The table holds pointers to contexts, which the identifiers stand for: they are given out once. The context
of the connection that is being handled is beside it. -/
structure MockGnbServer where
  config : MockGnbConfig
  ueContexts : Fin mockGnbMaxUes → Option Word
  numActiveUes : Word
  ranUeIdCounter : Word
  stats : MockGnbStats
  current : Option MockGnbUeContext

/-- `mock_gnb_server_init` -/
def mockGnbServerInit (config : MockGnbConfig) : MockGnbServer where
  config := config
  ueContexts := fun _ => none
  numActiveUes := 0
  ranUeIdCounter := 0
  stats := ⟨0, 0, 0, 0, 0, 0, 0⟩
  current := none

def mockGnbNewUeContext (ranUeNgapId : Word) (rand : Nat) (socket : Int) : MockGnbUeContext where
  ranUeNgapId := ranUeNgapId
  amfUeNgapId := ranUeNgapId.setWidth 64
  ueIdentity := 0
  rnti := BitVec.ofNat 16 rand
  state := .connecting
  ngapSocket := socket
  pduSessions := fun _ => ⟨0, .inactive, 0⟩
  numActiveSessions := 0

/-- A context for which there is no slot is used all the same. `allocated` is whether `calloc` succeeds. -/
def mockGnbCreateUeContext (server : MockGnbServer) (allocated : Bool) (rand : Nat) (socket : Int) :
    MockGnbServer × Option MockGnbUeContext :=
  if allocated then
    let ue := mockGnbNewUeContext (server.ranUeIdCounter + 1) rand socket
    let server := { server with ranUeIdCounter := server.ranUeIdCounter + 1 }
    match first Option.isNone server.ueContexts with
    | none => (server, some ue)
    | some slot =>
        ({ server with
            ueContexts := Function.update server.ueContexts slot (some ue.ranUeNgapId)
            numActiveUes := server.numActiveUes + 1 }, some ue)
  else (server, none)

def mockGnbRemoveUeContext (server : MockGnbServer) (ue : MockGnbUeContext) : MockGnbServer :=
  match first (fun pointer => pointer == some ue.ranUeNgapId) server.ueContexts with
  | none => server
  | some slot =>
      { server with
        ueContexts := Function.update server.ueContexts slot none
        numActiveUes := server.numActiveUes - 1 }

inductive MockGnbOp where
  | accept (allocated : Bool) (rand : Nat) (socket : Int)
  | receive (around : MockGnbSurroundings) (data : Memory) (len : Nat)
  | close

/-- The listener goes through `handle_client_connection` before it accepts another connection, so that each
operation has its time. -/
def mockGnbStep (server : MockGnbServer) : MockGnbOp → MockGnbServer
  | .accept allocated rand socket =>
      match server.current with
      | some _ => server
      | none =>
          match mockGnbCreateUeContext server allocated rand socket with
          | (server, none) => server
          | (server, some ue) =>
              { server with
                current := some ue
                stats :=
                  { server.stats with
                    totalConnections := server.stats.totalConnections + 1
                    activeConnections := server.stats.activeConnections + 1 } }
  | .receive around data len =>
      match server.current with
      | none => server
      | some ue =>
          let stats := { server.stats with ngapMessagesReceived := server.stats.ngapMessagesReceived + 1 }
          let outcome := processNgapMessage around server.config ue stats data len
          { server with current := some outcome.ue, stats := outcome.stats }
  | .close =>
      match server.current with
      | none => server
      | some ue =>
          { mockGnbRemoveUeContext server ue with
            current := none
            stats := { server.stats with activeConnections := server.stats.activeConnections - 1 } }

/-- What an operation sends to the UE. -/
def mockGnbSent (server : MockGnbServer) : MockGnbOp → Option (Memory × Nat)
  | .receive around data len =>
      server.current.bind fun ue =>
        (processNgapMessage around server.config ue
          { server.stats with ngapMessagesReceived := server.stats.ngapMessagesReceived + 1 } data len).sent
  | _ => none

/-!
## What the mock gNB takes a message for

All but one of the patterns look at the first byte and the length alone. So two of the types are never found, and
a message that a UE sends is found to be what it is under conditions on the fields in its first byte.
-/

/-! ### The patterns -/

theorem eq_zero_of_spare {firstByte : Byte} (hspare : firstByte &&& 0x03 = 0)
    (hid : ¬(firstByte >>> 2) &&& 0x3F > 0) : firstByte = 0 := by
  revert hspare hid
  revert firstByte
  decide

/-- The bytes of a capability information start a setup complete, if not a reconfiguration complete. -/
theorem startsSetupComplete_of_rat {firstByte : Byte} (hlow : ¬firstByte &&& 0x3F = 0)
    (hrat : firstByte &&& 0x0F = 0 ∧ (firstByte >>> 4) &&& 0x0F ≤ 2) :
    startsSetupComplete firstByte = true := by
  revert hlow hrat
  revert firstByte
  decide

section Patterns

variable {data : Memory} {len : Nat}

theorem detect_eq_setupRequest_iff :
    detectRrcMessageType data len = .setupRequest ↔ startsSetupRequest (data 0) = true ∧ 6 ≤ len := by
  unfold detectRrcMessageType
  split
  · rename_i hempty
    have hshort : ¬6 ≤ len := by omega
    simp [hshort]
  · dsimp only
    split_ifs <;> simp_all

theorem detect_eq_setupComplete_iff :
    detectRrcMessageType data len = .setupComplete
      ↔ ¬(startsSetupRequest (data 0) = true ∧ 6 ≤ len) ∧ startsSetupComplete (data 0) = true ∧ 2 ≤ len := by
  unfold detectRrcMessageType
  split
  · rename_i hempty
    have hshort : ¬2 ≤ len := by omega
    simp [hshort]
  · dsimp only
    split_ifs <;> simp_all

theorem detect_eq_reestablishmentRequest_iff :
    detectRrcMessageType data len = .reestablishmentRequest
      ↔ 12 ≤ len ∧ ¬startsSetupRequest (data 0) = true ∧ ¬startsSetupComplete (data 0) = true
        ∧ (data 0 >>> 6) &&& 0x03 ≤ 2 ∧ detectedPci data ≤ 1007 := by
  unfold detectRrcMessageType
  dsimp only
  by_cases hlong : 12 ≤ len
  · have hsome : ¬len < 1 := by omega
    have htwo : 2 ≤ len := by omega
    have hsix : 6 ≤ len := by omega
    rw [if_neg hsome]
    split_ifs <;> simp_all
  · split_ifs <;> simp_all

theorem detect_nine_eq_handoverPreparation_iff :
    detectRrcMessageType data 9 = .handoverPreparation
      ↔ ¬startsSetupRequest (data 0) = true ∧ ¬startsSetupComplete (data 0) = true ∧ ¬data 0 &&& 0x3F = 0
        ∧ data 0 &&& 0x03 = 0 := by
  unfold detectRrcMessageType
  dsimp only
  split_ifs <;> simp_all

theorem len_of_measurementReport (h : detectRrcMessageType data len = .measurementReport) : 10 ≤ len := by
  unfold detectRrcMessageType at h
  dsimp only at h
  split_ifs at h
  rename_i hmeasurement
  exact hmeasurement.2.2

/-- A single byte of six zeros at its end. -/
theorem detect_one (hlow : data 0 &&& 0x3F = 0) : detectRrcMessageType data 1 = .reconfigurationComplete := by
  unfold detectRrcMessageType
  dsimp only
  split_ifs <;> simp_all

/-- **No message is taken for a capability information.** -/
theorem detect_ne_ueCapabilityInfo : detectRrcMessageType data len ≠ .ueCapabilityInfo := by
  unfold detectRrcMessageType
  dsimp only
  split_ifs <;> simp
  rename_i hcomplete _ hreconfig _ _ hrat
  refine hcomplete ⟨startsSetupComplete_of_rat ?_ ⟨hrat.1, hrat.2.1⟩, hrat.2.2⟩
  exact fun hlow => hreconfig ⟨hlow, by omega⟩

/-- **No message is taken for a security mode complete.** -/
theorem detect_ne_securityModeComplete : detectRrcMessageType data len ≠ .securityModeComplete := by
  unfold detectRrcMessageType
  dsimp only
  split_ifs <;> simp
  rename_i hreconfig _ _ _ hsecurity
  exact hreconfig ⟨hsecurity.1, by omega⟩

theorem zero_detected (hzero : data 0 = 0) (hlen : 6 ≤ len) : detectRrcMessageType data len = .setupRequest := by
  refine detect_eq_setupRequest_iff.mpr ⟨?_, hlen⟩
  rw [hzero]
  rfl

/-- **Handover preparations are of nine bytes**: a longer one with spare bits of zero is a measurement report. -/
theorem len_of_handoverPreparation (h : detectRrcMessageType data len = .handoverPreparation) : len = 9 := by
  unfold detectRrcMessageType at h
  dsimp only at h
  split_ifs at h
  rename_i _ hrequest _ _ _ hmeasurement hpreparation
  by_contra hlen
  have hnumber : ¬(data 0 >>> 2) &&& 0x3F > 0 := fun hnumber =>
    hmeasurement ⟨hpreparation.1, hnumber, by omega⟩
  rw [eq_zero_of_spare hpreparation.1 hnumber] at hrequest
  exact hrequest ⟨rfl, by omega⟩

end Patterns

/-! ### The first byte of an encoded message -/

theorem asn1EncodeOctetString_keeps (buf : Asn1Buffer) (content : Memory) (len : Nat) :
    buf.bitOffset ≤ (asn1EncodeOctetString buf content len).1.bitOffset
      ∧ ∀ pos < buf.bitOffset, bitAt (asn1EncodeOctetString buf content len).1.data pos = bitAt buf.data pos := by
  have hlength := asn1EncodeLength_advances buf len
  have hlow := hlength.bitOffset_le
  have hframe := hlength.frame
  have hsize := @asn1EncodeLength_size buf len
  rw [asn1EncodeOctetString]
  split
  · rename_i mid e heq
    rw [heq] at hlow hframe
    exact ⟨hlow, fun pos hpos => hframe pos (Or.inl hpos)⟩
  · rename_i mid heq
    rw [heq] at hlow hframe hsize
    have hsize := hsize rfl
    rw [asn1CopyString]
    split
    · exact ⟨hlow, fun pos hpos => hframe pos (Or.inl hpos)⟩
    · refine ⟨Nat.le_trans hlow (Nat.le_add_right _ _), fun pos hpos => ?_⟩
      dsimp only at hlow hframe hsize ⊢
      rw [bitAt_copy_of_not_mem content (by omega)]
      exact hframe pos (Or.inl hpos)

theorem Asn1Call.Plain.keeps {call : Asn1Call} (hplain : call.Plain) (buf : Asn1Buffer) :
    buf.bitOffset ≤ (call.encode buf).1.bitOffset
      ∧ ∀ pos < buf.bitOffset, bitAt (call.encode buf).1.data pos = bitAt buf.data pos := by
  cases call with
  | bits value numBits =>
      have hadvances := asn1EncodeBits_advances buf value numBits
      exact ⟨hadvances.bitOffset_le, fun pos hpos => hadvances.frame pos (Or.inl hpos)⟩
  | boolean value =>
      have hadvances := asn1EncodeBits_advances buf (if value then 1 else 0) 1
      exact ⟨hadvances.bitOffset_le, fun pos hpos => hadvances.frame pos (Or.inl hpos)⟩
  | octetString content len => exact asn1EncodeOctetString_keeps buf content len
  | length len => exact hplain.elim
  | bitString content numBits hasConstraint fixedSize => exact hplain.elim

theorem asn1Run_keeps {calls : List Asn1Call} (hplain : ∀ call ∈ calls, call.Plain) (buf : Asn1Buffer) :
    buf.bitOffset ≤ (asn1Run buf calls).bitOffset
      ∧ ∀ pos < buf.bitOffset, bitAt (asn1Run buf calls).data pos = bitAt buf.data pos := by
  induction calls generalizing buf with
  | nil => exact ⟨Nat.le_refl _, fun _ _ => rfl⟩
  | cons call calls ih =>
      obtain ⟨hfirst, hrest⟩ := List.forall_mem_cons.mp hplain
      obtain ⟨hlow, hkept⟩ := hfirst.keeps buf
      obtain ⟨hlow', hkept'⟩ := ih hrest (call.encode buf).1
      refine ⟨Nat.le_trans hlow hlow', fun pos hpos => ?_⟩
      exact (hkept' pos (by omega)).trans (hkept pos hpos)

section FirstByte

variable {buf : Asn1Buffer} {message : RrcMessage} {fields : List (Word × Nat)} {rest : List Asn1Call}

/-- The calls of a message write these fields first, and there is room for them. -/
structure RrcMessage.StartsWith (message : RrcMessage) (buf : Asn1Buffer) (fields : List (Word × Nat))
    (rest : List Asn1Call) : Prop where
  calls : message.calls = fieldCalls fields ++ rest
  narrow : ∀ field ∈ fields, field.2 ≤ 32
  room : fieldsWidth fields ≤ 8 * buf.capacity

theorem RrcMessage.StartsWith.run (h : message.StartsWith buf fields rest) :
    (message.encode buf).1
      = asn1Run { asn1Clear buf with
          data := writeFields (asn1Clear buf).data 0 fields
          bitOffset := fieldsWidth fields
          size := (fieldsWidth fields + 7) / 8 } rest := by
  have hroom : (asn1Clear buf).bitOffset + fieldsWidth fields ≤ 8 * (asn1Clear buf).capacity := by
    change 0 + fieldsWidth fields ≤ 8 * buf.capacity
    exact (Nat.zero_add _).trans_le h.room
  rw [message.encode_eq_run, h.calls, asn1Run_append, ← asn1EncodeFields_eq_run,
    asn1EncodeFields_eq (asn1Clear_tight buf) h.narrow hroom]
  change asn1Run { asn1Clear buf with
    data := writeFields (asn1Clear buf).data 0 fields
    bitOffset := 0 + fieldsWidth fields
    size := (0 + fieldsWidth fields + 7) / 8 } rest = _
  rw [Nat.zero_add]

theorem RrcMessage.StartsWith.bitAt (h : message.StartsWith buf fields rest) {i : Nat}
    (hi : i < fieldsWidth fields) : bitAt (message.encode buf).1.data i = fieldsBit fields i := by
  have hplain : ∀ call ∈ rest, call.Plain := fun call hcall =>
    message.calls_plain call (h.calls ▸ List.mem_append_right _ hcall)
  have hbit := bitAt_writeFields (asn1Clear_blank buf) (by rw [Nat.zero_add]; exact h.room) hi
  rw [Nat.zero_add] at hbit
  rw [h.run, ← hbit]
  exact (asn1Run_keeps hplain _).2 i hi

/-- **The bits of the bytes are found in the fields.** -/
theorem RrcMessage.StartsWith.bit (h : message.StartsWith buf fields rest) {j i : Nat}
    (hwidth : 8 * j + 8 ≤ fieldsWidth fields) (hi : i < 8) :
    ((message.encode buf).1.data j).getLsbD i = fieldsBit fields (8 * j + (7 - i)) := by
  have hdiv : (8 * j + (7 - i)) / 8 = j := by omega
  have hmod : 7 - (8 * j + (7 - i)) % 8 = i := by omega
  have hbit := h.bitAt (show 8 * j + (7 - i) < fieldsWidth fields by omega)
  rwa [BitMemory.bitAt, hdiv, hmod] at hbit

/-! ### The patterns on the fields of a message -/

theorem startsSetupRequest_iff (firstByte : Byte) :
    startsSetupRequest firstByte = true
      ↔ ¬(firstByte.getLsbD 7 = true ∧ firstByte.getLsbD 6 = true) ∧ firstByte.getLsbD 4 = false
        ∧ firstByte.getLsbD 3 = false := by
  revert firstByte
  decide

theorem startsSetupComplete_iff (firstByte : Byte) :
    startsSetupComplete firstByte = true
      ↔ firstByte.getLsbD 0 = false ∧ firstByte.getLsbD 1 = false
        ∧ (firstByte.getLsbD 5 = true ∨ firstByte.getLsbD 4 = true ∨ firstByte.getLsbD 3 = true
            ∨ firstByte.getLsbD 2 = true)
        ∧ ¬(firstByte.getLsbD 5 = true ∧ firstByte.getLsbD 4 = true) := by
  revert firstByte
  decide

theorem low_iff (firstByte : Byte) :
    firstByte &&& 0x3F = 0
      ↔ firstByte.getLsbD 0 = false ∧ firstByte.getLsbD 1 = false ∧ firstByte.getLsbD 2 = false
        ∧ firstByte.getLsbD 3 = false ∧ firstByte.getLsbD 4 = false ∧ firstByte.getLsbD 5 = false := by
  revert firstByte
  decide

theorem spare_iff (firstByte : Byte) :
    firstByte &&& 0x03 = 0 ↔ firstByte.getLsbD 0 = false ∧ firstByte.getLsbD 1 = false := by
  revert firstByte
  decide

theorem reestCause_iff (firstByte : Byte) :
    (firstByte >>> 6) &&& 0x03 ≤ 2 ↔ ¬(firstByte.getLsbD 7 = true ∧ firstByte.getLsbD 6 = true) := by
  revert firstByte
  decide

namespace RrcMessage.StartsWith

/-- The bits of the first byte. -/
theorem first (h : message.StartsWith buf fields rest) (hwidth : 8 ≤ fieldsWidth fields) {i : Nat}
    (hi : i < 8) : ((message.encode buf).1.data 0).getLsbD i = fieldsBit fields (7 - i) := by
  have hbit := h.bit (j := 0) hwidth hi
  rwa [Nat.mul_zero, Nat.zero_add] at hbit

theorem setupRequest_iff (h : message.StartsWith buf fields rest) (hwidth : 8 ≤ fieldsWidth fields) :
    startsSetupRequest ((message.encode buf).1.data 0) = true
      ↔ ¬(fieldsBit fields 0 = true ∧ fieldsBit fields 1 = true) ∧ fieldsBit fields 3 = false
        ∧ fieldsBit fields 4 = false := by
  rw [startsSetupRequest_iff, h.first hwidth (by decide), h.first hwidth (by decide),
    h.first hwidth (by decide), h.first hwidth (by decide)]

theorem setupComplete_iff (h : message.StartsWith buf fields rest) (hwidth : 8 ≤ fieldsWidth fields) :
    startsSetupComplete ((message.encode buf).1.data 0) = true
      ↔ fieldsBit fields 7 = false ∧ fieldsBit fields 6 = false
        ∧ (fieldsBit fields 2 = true ∨ fieldsBit fields 3 = true ∨ fieldsBit fields 4 = true
            ∨ fieldsBit fields 5 = true)
        ∧ ¬(fieldsBit fields 2 = true ∧ fieldsBit fields 3 = true) := by
  rw [startsSetupComplete_iff, h.first hwidth (by decide), h.first hwidth (by decide),
    h.first hwidth (by decide), h.first hwidth (by decide), h.first hwidth (by decide),
    h.first hwidth (by decide)]

theorem low_iff (h : message.StartsWith buf fields rest) (hwidth : 8 ≤ fieldsWidth fields) :
    (message.encode buf).1.data 0 &&& 0x3F = 0
      ↔ fieldsBit fields 7 = false ∧ fieldsBit fields 6 = false ∧ fieldsBit fields 5 = false
        ∧ fieldsBit fields 4 = false ∧ fieldsBit fields 3 = false ∧ fieldsBit fields 2 = false := by
  rw [Uesim.low_iff, h.first hwidth (by decide), h.first hwidth (by decide),
    h.first hwidth (by decide), h.first hwidth (by decide), h.first hwidth (by decide),
    h.first hwidth (by decide)]

/-- Where no string follows, the fields are the whole message. -/
theorem length (h : message.StartsWith buf fields []) :
    asn1BufferLength (message.encode buf).1 = (fieldsWidth fields + 7) / 8 := by
  rw [h.run]
  rfl

end RrcMessage.StartsWith

end FirstByte

section Messages

variable {buf : Asn1Buffer}

theorem setupRequest_starts (msg : RrcSetupRequest) (hroom : 43 ≤ 8 * buf.capacity) :
    (RrcMessage.setupRequest msg).StartsWith buf (rrcSetupRequestFields msg) [] where
  calls := (List.append_nil _).symm
  narrow := by simp [rrcSetupRequestFields, rrcUeIdentityFields]
  room := by simpa [fieldsWidth, rrcSetupRequestFields, rrcUeIdentityFields] using hroom

theorem setupComplete_starts (msg : RrcSetupComplete) (hroom : 8 ≤ 8 * buf.capacity) :
    (RrcMessage.setupComplete msg).StartsWith buf (rrcSetupCompleteFields msg)
      [.octetString msg.nasPdu msg.nasPduLen] where
  calls := rfl
  narrow := by simp [rrcSetupCompleteFields]
  room := by simpa [fieldsWidth, rrcSetupCompleteFields] using hroom

theorem reestRequest_starts (msg : RrcReestRequest) (hroom : 90 ≤ 8 * buf.capacity) :
    (RrcMessage.reestRequest msg).StartsWith buf (rrcReestRequestFields msg) [] where
  calls := (List.append_nil _).symm
  narrow := by simp [rrcReestRequestFields, rrcUeIdentityFields]
  room := by simpa [fieldsWidth, rrcReestRequestFields, rrcUeIdentityFields] using hroom

theorem handoverPrep_starts (msg : RrcHandoverPrep) (hroom : 67 ≤ 8 * buf.capacity) :
    (RrcMessage.handoverPrep msg).StartsWith buf (rrcMeasurementReportFields msg) [] where
  calls := (List.append_nil _).symm
  narrow := by simp [rrcMeasurementReportFields]
  room := by simpa [fieldsWidth, rrcMeasurementReportFields] using hroom

theorem reconfigComplete_starts (msg : RrcReconfigComplete) (hroom : 8 ≤ 8 * buf.capacity) :
    (RrcMessage.reconfigComplete msg).StartsWith buf (rrcTransactionFields msg.rrcTransactionId) [] where
  calls := (List.append_nil _).symm
  narrow := by simp [rrcTransactionFields]
  room := by simpa [fieldsWidth, rrcTransactionFields] using hroom

theorem detect_setupRequest_iff (msg : RrcSetupRequest) (hroom : 43 ≤ 8 * buf.capacity) :
    detectRrcMessageType ((RrcMessage.setupRequest msg).encode buf).1.data (asn1BufferLength ((RrcMessage.setupRequest msg).encode buf).1)
        = .setupRequest
      ↔ ¬(msg.establishmentCause.getLsbD 1 = true ∧ msg.establishmentCause.getLsbD 0 = true)
        ∧ msg.ueIdentity.type.getLsbD 0 = false ∧ msg.ueIdentity.randomValue.getLsbD 38 = false := by
  have hstarts := setupRequest_starts msg hroom
  have hwidth : fieldsWidth (rrcSetupRequestFields msg) = 43 := by
    simp [fieldsWidth, rrcSetupRequestFields, rrcUeIdentityFields]
  have hlen : asn1BufferLength ((RrcMessage.setupRequest msg).encode buf).1 = 6 :=
    hstarts.length.trans (by rw [hwidth])
  have hbits := hstarts.setupRequest_iff (by rw [hwidth]; decide)
  have hsix : 6 ≤ 6 := Nat.le_refl 6
  rw [detect_eq_setupRequest_iff, hlen, and_iff_left hsix]
  refine hbits.trans ?_
  simp [fieldsBit, rrcSetupRequestFields, rrcUeIdentityFields]

theorem two_le_setupComplete (msg : RrcSetupComplete) (hroom : 32 ≤ 8 * buf.capacity) :
    2 ≤ asn1BufferLength ((RrcMessage.setupComplete msg).encode buf).1 := by
  have hstarts := @setupComplete_starts buf msg (by omega)
  have hwidth : fieldsWidth (rrcSetupCompleteFields msg) = 8 := by
    simp [fieldsWidth, rrcSetupCompleteFields]
  have hbytes : 1 ≤ asn1LengthBytes msg.nasPduLen ∧ asn1LengthBytes msg.nasPduLen ≤ 3 := by
    rw [asn1LengthBytes]
    split_ifs <;> decide
  have hrun := hstarts.run
  rw [hwidth] at hrun
  change ((RrcMessage.setupComplete msg).encode buf).1 = (asn1EncodeOctetString _ msg.nasPdu msg.nasPduLen).1 at hrun
  have hcapacity : (asn1Clear buf).capacity = buf.capacity := rfl
  rw [hrun, asn1EncodeOctetString, asn1EncodeLength_eq (by dsimp only; omega)]
  dsimp only [asn1CopyString]
  split
  · change 2 ≤ (8 + 8 * asn1LengthBytes msg.nasPduLen + 7) / 8
    omega
  · change 2 ≤ (8 + 8 * asn1LengthBytes msg.nasPduLen + msg.nasPduLen * 8 + 7) / 8
    omega

theorem detect_setupComplete_iff (msg : RrcSetupComplete) (hroom : 32 ≤ 8 * buf.capacity) :
    detectRrcMessageType ((RrcMessage.setupComplete msg).encode buf).1.data
        (asn1BufferLength ((RrcMessage.setupComplete msg).encode buf).1) = .setupComplete
      ↔ ¬((¬(msg.rrcTransactionId.getLsbD 1 = true ∧ msg.rrcTransactionId.getLsbD 0 = true)
            ∧ msg.selectedPlmn.getLsbD 2 = false ∧ msg.selectedPlmn.getLsbD 1 = false)
          ∧ 6 ≤ asn1BufferLength ((RrcMessage.setupComplete msg).encode buf).1)
        ∧ 0 < msg.selectedPlmn.setWidth 4 ∧ msg.selectedPlmn.setWidth 4 < 12 := by
  have hstarts := @setupComplete_starts buf msg (by omega)
  have hwidth : 8 ≤ fieldsWidth (rrcSetupCompleteFields msg) := by
    simp [fieldsWidth, rrcSetupCompleteFields]
  have hrequest : startsSetupRequest (((RrcMessage.setupComplete msg).encode buf).1.data 0) = true ↔ _ :=
    hstarts.setupRequest_iff hwidth
  have hcomplete : startsSetupComplete (((RrcMessage.setupComplete msg).encode buf).1.data 0) = true ↔ _ :=
    hstarts.setupComplete_iff hwidth
  have hplmn : ∀ plmn : BitVec 4, 0 < plmn ∧ plmn < 12
      ↔ (plmn.getLsbD 3 = true ∨ plmn.getLsbD 2 = true ∨ plmn.getLsbD 1 = true ∨ plmn.getLsbD 0 = true)
        ∧ ¬(plmn.getLsbD 3 = true ∧ plmn.getLsbD 2 = true) := by decide
  have htwo := two_le_setupComplete msg hroom
  rw [detect_eq_setupComplete_iff, hrequest, hcomplete, and_iff_left htwo, hplmn]
  simp [fieldsBit, rrcSetupCompleteFields]

/-- The bytes that are taken for the cell identity: the end of the cell identity and the start of the C-RNTI. -/
def rrcSeenPci (msg : RrcReestRequest) : BitVec 16 :=
  (msg.pci <<< 6) ||| ((msg.cRnti >>> 10).setWidth 16 &&& 0x3F)

theorem detectedPci_reestRequest (msg : RrcReestRequest) (hroom : 90 ≤ 8 * buf.capacity) :
    detectedPci ((RrcMessage.reestRequest msg).encode buf).1.data = rrcSeenPci msg := by
  have hstarts := reestRequest_starts msg hroom
  have hwidth : fieldsWidth (rrcReestRequestFields msg) = 90 := by
    simp [fieldsWidth, rrcReestRequestFields, rrcUeIdentityFields]
  have hone : ∀ {i : Nat}, i < 8 → (((RrcMessage.reestRequest msg).encode buf).1.data 1).getLsbD i
      = fieldsBit (rrcReestRequestFields msg) (8 * 1 + (7 - i)) := hstarts.bit (by rw [hwidth]; decide)
  have htwo : ∀ {i : Nat}, i < 8 → (((RrcMessage.reestRequest msg).encode buf).1.data 2).getLsbD i
      = fieldsBit (rrcReestRequestFields msg) (8 * 2 + (7 - i)) := hstarts.bit (by rw [hwidth]; decide)
  apply BitVec.eq_of_getLsbD_eq
  intro i hi
  rw [detectedPci, BitVec.getLsbD_append, rrcSeenPci]
  by_cases hlow : i < 8
  · rw [if_pos hlow, htwo hlow]
    interval_cases i <;> simp [fieldsBit, rrcReestRequestFields]
  · rw [if_neg hlow, hone (by omega)]
    interval_cases i <;> simp [fieldsBit, rrcReestRequestFields]

theorem detect_reestRequest_iff (msg : RrcReestRequest) (hroom : 90 ≤ 8 * buf.capacity) :
    detectRrcMessageType ((RrcMessage.reestRequest msg).encode buf).1.data
        (asn1BufferLength ((RrcMessage.reestRequest msg).encode buf).1) = .reestablishmentRequest
      ↔ ¬(msg.reestablishmentCause.getLsbD 1 = true ∧ msg.reestablishmentCause.getLsbD 0 = true)
        ∧ (msg.pci.getLsbD 14 = true ∨ msg.pci.getLsbD 13 = true)
        ∧ ¬(msg.pci.getLsbD 10 = false ∧ msg.pci.getLsbD 11 = false
            ∧ ¬(msg.pci.getLsbD 15 = true ∧ msg.pci.getLsbD 14 = true))
        ∧ rrcSeenPci msg ≤ 1007 := by
  have hstarts := reestRequest_starts msg hroom
  have hwidth : fieldsWidth (rrcReestRequestFields msg) = 90 := by
    simp [fieldsWidth, rrcReestRequestFields, rrcUeIdentityFields]
  have hlen : asn1BufferLength ((RrcMessage.reestRequest msg).encode buf).1 = 12 :=
    hstarts.length.trans (by rw [hwidth])
  have hfirst : ∀ {i : Nat}, i < 8 → (((RrcMessage.reestRequest msg).encode buf).1.data 0).getLsbD i
      = fieldsBit (rrcReestRequestFields msg) (7 - i) := hstarts.first (by rw [hwidth]; decide)
  have hrequest : startsSetupRequest (((RrcMessage.reestRequest msg).encode buf).1.data 0) = true ↔ _ :=
    hstarts.setupRequest_iff (by rw [hwidth]; decide)
  have hcomplete : startsSetupComplete (((RrcMessage.reestRequest msg).encode buf).1.data 0) = true ↔ _ :=
    hstarts.setupComplete_iff (by rw [hwidth]; decide)
  have htwelve : 12 ≤ 12 := Nat.le_refl 12
  rw [detect_eq_reestablishmentRequest_iff, hlen, and_iff_right htwelve, hrequest, hcomplete, reestCause_iff,
    hfirst (by decide), hfirst (by decide), detectedPci_reestRequest msg hroom]
  have hbits : fieldsBit (rrcReestRequestFields msg) 0 = msg.reestablishmentCause.getLsbD 1
      ∧ fieldsBit (rrcReestRequestFields msg) 1 = msg.reestablishmentCause.getLsbD 0
      ∧ fieldsBit (rrcReestRequestFields msg) 2 = msg.pci.getLsbD 15
      ∧ fieldsBit (rrcReestRequestFields msg) 3 = msg.pci.getLsbD 14
      ∧ fieldsBit (rrcReestRequestFields msg) 4 = msg.pci.getLsbD 13
      ∧ fieldsBit (rrcReestRequestFields msg) 6 = msg.pci.getLsbD 11
      ∧ fieldsBit (rrcReestRequestFields msg) 7 = msg.pci.getLsbD 10 := by
    simp [fieldsBit, rrcReestRequestFields]
  obtain ⟨h0, h1, h2, h3, h4, h6, h7⟩ := hbits
  rw [h0, h1, h2, h3, h4, h6, h7]
  clear hrequest hcomplete hfirst h0 h1 h2 h3 h4 h6 h7
  grind

theorem detect_handoverPrep_iff (msg : RrcHandoverPrep) (hroom : 67 ≤ 8 * buf.capacity) :
    detectRrcMessageType ((RrcMessage.handoverPrep msg).encode buf).1.data
        (asn1BufferLength ((RrcMessage.handoverPrep msg).encode buf).1) = .handoverPreparation
      ↔ msg.measId.getLsbD 3 = true ∧ msg.measId.getLsbD 2 = true := by
  have hstarts := handoverPrep_starts msg hroom
  have hwidth : fieldsWidth (rrcMeasurementReportFields msg) = 67 := by
    simp [fieldsWidth, rrcMeasurementReportFields]
  have hlen : asn1BufferLength ((RrcMessage.handoverPrep msg).encode buf).1 = 9 :=
    hstarts.length.trans (by rw [hwidth])
  have height : 8 ≤ fieldsWidth (rrcMeasurementReportFields msg) := by
    rw [hwidth]
    decide
  have hbits : fieldsBit (rrcMeasurementReportFields msg) 2 = msg.measId.getLsbD 3
      ∧ fieldsBit (rrcMeasurementReportFields msg) 3 = msg.measId.getLsbD 2
      ∧ fieldsBit (rrcMeasurementReportFields msg) 6 = false
      ∧ fieldsBit (rrcMeasurementReportFields msg) 7 = false := by
    simp [fieldsBit, rrcMeasurementReportFields]
  obtain ⟨h2, h3, h6, h7⟩ := hbits
  rw [hlen, detect_nine_eq_handoverPreparation_iff, hstarts.setupRequest_iff height,
    hstarts.setupComplete_iff height, hstarts.low_iff height, spare_iff, hstarts.first height (by decide),
    hstarts.first height (by decide), h2, h3, h6, h7]
  clear h2 h3 h6 h7
  grind

theorem detect_reconfigComplete (msg : RrcReconfigComplete) (hroom : 8 ≤ 8 * buf.capacity) :
    detectRrcMessageType ((RrcMessage.reconfigComplete msg).encode buf).1.data
      (asn1BufferLength ((RrcMessage.reconfigComplete msg).encode buf).1) = .reconfigurationComplete := by
  have hstarts := reconfigComplete_starts msg hroom
  have hwidth : fieldsWidth (rrcTransactionFields msg.rrcTransactionId) = 8 := by
    simp [fieldsWidth, rrcTransactionFields]
  have hlen : asn1BufferLength ((RrcMessage.reconfigComplete msg).encode buf).1 = 1 :=
    hstarts.length.trans (by rw [hwidth])
  rw [hlen]
  refine detect_one ((hstarts.low_iff (by rw [hwidth])).mpr ?_)
  simp [fieldsBit, rrcTransactionFields]

theorem not_detect_measurementReport (msg : RrcMeasurementReport) (hroom : 67 ≤ 8 * buf.capacity) :
    ¬detectRrcMessageType ((RrcMessage.measurementReport msg).encode buf).1.data
        (asn1BufferLength ((RrcMessage.measurementReport msg).encode buf).1) = .measurementReport := by
  have hlen : asn1BufferLength ((RrcMessage.handoverPrep msg).encode buf).1 = 9 := by
    rw [(handoverPrep_starts msg hroom).length]
    simp [fieldsWidth, rrcMeasurementReportFields]
  intro h
  have hten : 10 ≤ asn1BufferLength ((RrcMessage.handoverPrep msg).encode buf).1 :=
    len_of_measurementReport h
  omega

end Messages

/-! ### What a UE sends -/

/-- The type under which the server looks for a message. -/
def RrcMessageType.detected : RrcMessageType → Option RrcDetectedType
  | .setupRequest => some .setupRequest
  | .setupComplete => some .setupComplete
  | .reestablishmentRequest => some .reestablishmentRequest
  | .reconfigurationComplete => some .reconfigurationComplete
  | .measurementReport => some .measurementReport
  | .handoverPreparation => some .handoverPreparation
  | .ueCapabilityInformation => some .ueCapabilityInfo
  | .securityModeComplete => some .securityModeComplete
  | _ => none

/-- The messages that consist of a transaction identifier. -/
def RrcMessageType.IsTransaction (messageType : RrcMessageType) : Prop :=
  messageType = .reestablishmentComplete ∨ messageType = .reconfigurationComplete
    ∨ messageType = .handoverConfirmation ∨ messageType = .securityModeComplete

/-- What the first fields of a message of `len` bytes have to be for the server to find it. The server reads
the cause of a setup request in three bits, and the UE writes two; a setup complete is looked for behind a setup
request. -/
def FoundByMockGnb (random : BitVec 64) (len : Nat) :
    (messageType : RrcMessageType) → Option messageType.Data → Prop
  | .setupRequest, data =>
      let msg := rrcMapSetupRequest random data
      ¬(msg.establishmentCause.getLsbD 1 = true ∧ msg.establishmentCause.getLsbD 0 = true)
        ∧ msg.ueIdentity.randomValue.getLsbD 38 = false
  | .setupComplete, data =>
      let msg := rrcMapSetupComplete data
      ¬((¬(msg.rrcTransactionId.getLsbD 1 = true ∧ msg.rrcTransactionId.getLsbD 0 = true)
            ∧ msg.selectedPlmn.getLsbD 2 = false ∧ msg.selectedPlmn.getLsbD 1 = false) ∧ 6 ≤ len)
        ∧ 0 < msg.selectedPlmn.setWidth 4 ∧ msg.selectedPlmn.setWidth 4 < 12
  | .reestablishmentRequest, data =>
      let msg := rrcMapReestRequest random data
      ¬(msg.reestablishmentCause.getLsbD 1 = true ∧ msg.reestablishmentCause.getLsbD 0 = true)
        ∧ (msg.pci.getLsbD 14 = true ∨ msg.pci.getLsbD 13 = true)
        ∧ ¬(msg.pci.getLsbD 10 = false ∧ msg.pci.getLsbD 11 = false
            ∧ ¬(msg.pci.getLsbD 15 = true ∧ msg.pci.getLsbD 14 = true))
        ∧ rrcSeenPci msg ≤ 1007
  | .reconfigurationComplete, _ => True
  | .handoverPreparation, data =>
      let msg := rrcMapMeasurementReport data
      msg.measId.getLsbD 3 = true ∧ msg.measId.getLsbD 2 = true
  | _, _ => False

section Outgoing

variable {memory : Option Memory} {random : BitVec 64} {message : RrcOutgoingMessage} {data : Memory} {len : Nat}

theorem rrcEncodeMessage_eq_ok (h : rrcEncodeMessage memory random message = .ok (data, len)) :
    ∃ mem buf, rrcEncodeData ⟨mem, 0, 256, 0⟩ random message.transactionId message.dataLength message.messageType
        message.data = (buf, .ok ())
      ∧ data = buf.data ∧ len = asn1BufferLength buf := by
  unfold rrcEncodeMessage asn1BufferAlloc at h
  cases memory with
  | none => cases h
  | some mem =>
      simp only [Nat.reduceEqDiff, if_false] at h
      split at h
      · cases h
      · rename_i buf heq
        cases h
        exact ⟨mem, buf, heq, rfl, rfl⟩

theorem rrcMapSetupRequest_type (random : BitVec 64) (payload : Option RrcSetupRequestData) :
    (rrcMapSetupRequest random payload).ueIdentity.type = 0 := by
  cases payload with
  | none => rfl
  | some payload => rfl

theorem detect_of_isTransaction (h : rrcEncodeMessage memory random message = .ok (data, len))
    (htransaction : message.messageType.IsTransaction) :
    detectRrcMessageType data len = .reconfigurationComplete := by
  obtain ⟨mem, buf, hencoded, rfl, rfl⟩ := rrcEncodeMessage_eq_ok h
  clear h
  obtain ⟨messageType, messageId, transactionId, dataLength, payload⟩ := message
  have hdetected : ∀ {msg : RrcTransaction}, rrcEncodeReconfigComplete ⟨mem, 0, 256, 0⟩ msg = (buf, .ok ()) →
      detectRrcMessageType buf.data (asn1BufferLength buf) = .reconfigurationComplete := by
    intro msg hmsg
    have hbuf : ((RrcMessage.reconfigComplete msg).encode ⟨mem, 0, 256, 0⟩).1 = buf := congrArg Prod.fst hmsg
    rw [← hbuf]
    exact detect_reconfigComplete msg (show 8 ≤ 8 * 256 by decide)
  rcases htransaction with rfl | rfl | rfl | rfl
  · exact hdetected hencoded
  · exact hdetected hencoded
  · exact hdetected hencoded
  · exact hdetected hencoded

theorem detect_iff_found (h : rrcEncodeMessage memory random message = .ok (data, len)) {expected : RrcDetectedType}
    (hexpected : message.messageType.detected = some expected) :
    detectRrcMessageType data len = expected ↔ FoundByMockGnb random len message.messageType message.data := by
  obtain ⟨mem, buf, hencoded, rfl, rfl⟩ := rrcEncodeMessage_eq_ok h
  have hsingle := detect_of_isTransaction h
  clear h
  obtain ⟨messageType, messageId, transactionId, dataLength, payload⟩ := message
  cases messageType with
  | setupRequest =>
      cases hexpected
      have hbuf : ((RrcMessage.setupRequest (rrcMapSetupRequest random payload)).encode ⟨mem, 0, 256, 0⟩).1 = buf :=
        congrArg Prod.fst hencoded
      have htype : (rrcMapSetupRequest random payload).ueIdentity.type.getLsbD 0 = false := by
        rw [rrcMapSetupRequest_type]
        rfl
      have hiff := @detect_setupRequest_iff ⟨mem, 0, 256, 0⟩ (rrcMapSetupRequest random payload)
        (show 43 ≤ 8 * 256 by decide)
      rwa [hbuf, and_iff_right htype] at hiff
  | setupComplete =>
      cases hexpected
      have hbuf : ((RrcMessage.setupComplete (rrcMapSetupComplete payload)).encode ⟨mem, 0, 256, 0⟩).1 = buf :=
        congrArg Prod.fst hencoded
      have hiff := @detect_setupComplete_iff ⟨mem, 0, 256, 0⟩ (rrcMapSetupComplete payload)
        (show 32 ≤ 8 * 256 by decide)
      rwa [hbuf] at hiff
  | reestablishmentRequest =>
      cases hexpected
      have hbuf : ((RrcMessage.reestRequest (rrcMapReestRequest random payload)).encode ⟨mem, 0, 256, 0⟩).1 = buf :=
        congrArg Prod.fst hencoded
      have hiff := @detect_reestRequest_iff ⟨mem, 0, 256, 0⟩ (rrcMapReestRequest random payload)
        (show 90 ≤ 8 * 256 by decide)
      rwa [hbuf] at hiff
  | reconfigurationComplete =>
      cases hexpected
      exact iff_of_true (hsingle (Or.inr (Or.inl rfl))) trivial
  | measurementReport =>
      cases hexpected
      have hbuf : ((RrcMessage.measurementReport (rrcMapMeasurementReport payload)).encode ⟨mem, 0, 256, 0⟩).1
          = buf := congrArg Prod.fst hencoded
      have hnot := @not_detect_measurementReport ⟨mem, 0, 256, 0⟩ (rrcMapMeasurementReport payload)
        (show 67 ≤ 8 * 256 by decide)
      rw [hbuf] at hnot
      exact iff_of_false hnot id
  | handoverPreparation =>
      cases hexpected
      have hbuf : ((RrcMessage.handoverPrep (rrcMapMeasurementReport payload)).encode ⟨mem, 0, 256, 0⟩).1 = buf :=
        congrArg Prod.fst hencoded
      have hiff := @detect_handoverPrep_iff ⟨mem, 0, 256, 0⟩ (rrcMapMeasurementReport payload)
        (show 67 ≤ 8 * 256 by decide)
      rwa [hbuf] at hiff
  | ueCapabilityInformation =>
      cases hexpected
      exact iff_of_false detect_ne_ueCapabilityInfo id
  | securityModeComplete =>
      cases hexpected
      exact iff_of_false detect_ne_securityModeComplete id
  | setup | reestablishment | reestablishmentComplete | reconfiguration | handoverCommand | handoverConfirmation
  | ueCapabilityEnquiry | connectionRelease | securityModeCommand => cases hexpected

end Outgoing

/-- **The server finds a message of the UE to be what it is under exactly these conditions, and takes every
message of a transaction identifier for a reconfiguration complete.** -/
theorem mockGnb_finds_iff (memory : Option Memory) (random : BitVec 64) (message : RrcOutgoingMessage) :
    ∀ data len, rrcEncodeMessage memory random message = .ok (data, len) →
      (∀ expected, message.messageType.detected = some expected →
          (detectRrcMessageType data len = expected
            ↔ FoundByMockGnb random len message.messageType message.data))
        ∧ (message.messageType.IsTransaction → detectRrcMessageType data len = .reconfigurationComplete) := by
  intro data len hencoded
  exact ⟨fun expected => detect_iff_found hencoded, detect_of_isTransaction hencoded⟩

/-- A setup request for mobile originated data is not found. -/
theorem mockGnb_does_not_find_moData : ∃ data len,
    rrcEncodeMessage (some zeros) 0 ⟨.setupRequest, 0, 0, 0, some ⟨0, 3⟩⟩ = .ok (data, len)
      ∧ detectRrcMessageType data len ≠ .setupRequest := by
  refine ⟨_, _, rfl, ?_⟩
  intro h
  exact (((mockGnb_finds_iff (some zeros) 0 ⟨.setupRequest, 0, 0, 0, some ⟨0, 3⟩⟩ _ _ rfl).1 .setupRequest rfl).mp h).1
    (by decide)

end Uesim
