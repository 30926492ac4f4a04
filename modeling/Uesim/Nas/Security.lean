import Uesim.Pdcp.Entity

/-!
# NAS security

Mutexes are always granted and allocations succeed, as for PDCP. The switches of the NAS code name the
functions of SNOW 3G, AES and ZUC one after the other, which are the rows of the table. Each direction
has a count of its own. The source protects what it sends with the uplink count and looks at what it
receives with the downlink count; protection is written here for either direction, so that the network
that sends downlink can be set against the receiver.
-/

namespace Uesim

open Bytes

/-- The NAS code lists the algorithms as PDCP does, under names of its own. -/
abbrev NasCipheringAlgorithm := PdcpCipheringAlg

abbrev NasIntegrityAlgorithm := PdcpIntegrityAlg

inductive Nas5gmmState where
  | null
  | deregistered
  | registeredInitiated
  | registered
  | serviceRequestInitiated
  | deregisteredInitiated
  deriving DecidableEq, Repr

def nasMaxPduSessions : Nat := 16

inductive NasDirection where
  | uplink
  | downlink
  deriving DecidableEq, Repr

def NasDirection.toPdcp : NasDirection → PdcpDirection
  | uplink => .uplink
  | downlink => .downlink

structure NasSecurityContext where
  ksi : Byte
  cipheringAlg : NasCipheringAlgorithm
  integrityAlg : NasIntegrityAlgorithm
  knasEnc : Vector Byte 16
  knasInt : Vector Byte 16
  downlinkCount : Word
  uplinkCount : Word
  securityContextValid : Bool
  deriving DecidableEq

/-- No function here looks into a PDU session, so a session is whatever it is. -/
structure NasUeContext (Session : Type) where
  active : Bool
  mmState : Nas5gmmState
  pduSessions : Vector Session nasMaxPduSessions
  securityContext : NasSecurityContext
  messagesSent : BitVec 64
  messagesReceived : BitVec 64
  deriving DecidableEq

structure NasMessageHeader where
  extendedProtocolDiscriminator : Byte
  securityHeaderType : Byte
  messageType : Byte
  messageAuthenticationCode : Word
  sequenceNumber : Byte
  deriving DecidableEq

/-- The length that goes with `message_data` is that of the list; without data no function here
reads it. -/
structure NasMessage where
  header : NasMessageHeader
  messageData : Option (List Byte)
  integrityProtected : Bool
  ciphered : Bool
  deriving DecidableEq

variable {Session : Type}

/-! ### The security context -/

/-- A context as it is created, cleared and with the defaults set. -/
def nasCreateUeContext (pduSessions : Vector Session nasMaxPduSessions) : NasUeContext Session where
  active := false
  mmState := .deregistered
  pduSessions := pduSessions
  securityContext :=
    { ksi := 7
      cipheringAlg := .nea0
      integrityAlg := .nia0
      knasEnc := Vector.replicate 16 0
      knasInt := Vector.replicate 16 0
      downlinkCount := 0
      uplinkCount := 0
      securityContextValid := false }
  messagesSent := 0
  messagesReceived := 0

def nasActivateUeContext (ctx : NasUeContext Session) : NasUeContext Session :=
  { ctx with active := true }

def nasCreateSecurityContext (ctx : NasUeContext Session) (cipherAlg : NasCipheringAlgorithm)
    (integrityAlg : NasIntegrityAlgorithm) : NasUeContext Session :=
  { ctx with securityContext := { ctx.securityContext with
      cipheringAlg := cipherAlg
      integrityAlg := integrityAlg
      ksi := 0
      downlinkCount := 0
      uplinkCount := 0
      securityContextValid := true } }

def nasUpdateSecurityContext (ctx : NasUeContext Session) (newCipherAlg : NasCipheringAlgorithm)
    (newIntegrityAlg : NasIntegrityAlgorithm) : NasUeContext Session :=
  { ctx with securityContext := { ctx.securityContext with
      cipheringAlg := newCipherAlg
      integrityAlg := newIntegrityAlg } }

/-- A UE as it is created and activated, with a context for the given algorithms. -/
def nasSecuredUe (cipherAlg : NasCipheringAlgorithm) (integrityAlg : NasIntegrityAlgorithm) :
    NasUeContext Unit :=
  nasCreateSecurityContext
    (nasActivateUeContext (nasCreateUeContext (Vector.replicate nasMaxPduSessions ())))
    cipherAlg integrityAlg

namespace NasSecurityContext

def count (ctx : NasSecurityContext) : NasDirection → Word
  | .uplink => ctx.uplinkCount
  | .downlink => ctx.downlinkCount

def countUp (ctx : NasSecurityContext) : NasDirection → NasSecurityContext
  | .uplink => { ctx with uplinkCount := ctx.uplinkCount + 1 }
  | .downlink => { ctx with downlinkCount := ctx.downlinkCount + 1 }

/-- The bearer of NAS signalling is zero. -/
def cipherParams (ctx : NasSecurityContext) (direction : NasDirection) : PdcpCipherParams :=
  ⟨ctx.count direction, 0, direction.toPdcp.toByte⟩

end NasSecurityContext

/-! ### Protection of one message -/

/-- `nas_integrity_protect_message`, in either direction. The MAC functions fail on `NULL` alone, and
then before the count moves. -/
def nasIntegrityProtect (direction : NasDirection) (ctx : NasSecurityContext) (message : NasMessage) :
    NasSecurityContext × Except UesimError NasMessage :=
  if ctx.securityContextValid then
    match gCryptoOps ctx.integrityAlg.index with
    | none => (ctx, .ok { message with integrityProtected := false })
    | some ops =>
        match message.messageData with
        | none => (ctx, .error .invalidParam)
        | some data => (ctx.countUp direction, .ok { message with
            header.messageAuthenticationCode :=
              ops.computeMac ctx.knasInt data (ctx.cipherParams direction)
            integrityProtected := true })
  else (ctx, .ok message)

def nasIntegrityProtectMessage :
    NasSecurityContext → NasMessage → NasSecurityContext × Except UesimError NasMessage :=
  nasIntegrityProtect .uplink

def nasVerifyIntegrityProtection (ctx : NasSecurityContext) (message : NasMessage) :
    NasSecurityContext × Except UesimError Bool :=
  if ctx.securityContextValid && message.integrityProtected then
    match gCryptoOps ctx.integrityAlg.index with
    | none => (ctx, .ok true)
    | some ops =>
        match message.messageData with
        | none => (ctx, .error .invalidParam)
        | some data =>
            -- the count moves on whether or not the tags agree
            (ctx.countUp .downlink, .ok (ops.computeMac ctx.knasInt data (ctx.cipherParams .downlink)
              == message.header.messageAuthenticationCode))
  else (ctx, .ok true)

/-- What `nas_cipher_message` and `nas_decipher_message` share: one row of the table over the data, in
place. The rows fail on `NULL` alone, which was looked for before. -/
def nasApplyCipher (apply : PdcpCryptoOps → Vector Byte 16 → PdcpCipherParams → List Byte → List Byte)
    (ciphered : Bool) (direction : NasDirection) (ctx : NasSecurityContext) (message : NasMessage) :
    NasMessage :=
  if ctx.securityContextValid then
    match gCryptoOps ctx.cipheringAlg.index, message.messageData with
    | some ops, some data =>
        if data = [] then { message with ciphered := false }
        else { message with
          messageData := some (apply ops ctx.knasEnc (ctx.cipherParams direction) data)
          ciphered := ciphered }
    | _, _ => { message with ciphered := false }
  else message

def nasCipher : NasDirection → NasSecurityContext → NasMessage → NasMessage :=
  nasApplyCipher PdcpCryptoOps.encrypt true

def nasCipherMessage : NasSecurityContext → NasMessage → NasMessage := nasCipher .uplink

def nasDecipherMessage : NasSecurityContext → NasMessage → NasMessage :=
  nasApplyCipher PdcpCryptoOps.decrypt false .downlink

/-- What `nas_send_message` does to a message before it sends it, in either direction. -/
def nasProtect (direction : NasDirection) (ctx : NasSecurityContext) (message : NasMessage) :
    NasSecurityContext × Except UesimError NasMessage :=
  if ctx.securityContextValid then
    match nasIntegrityProtect direction ctx message with
    | (ctx, .error e) => (ctx, .error e)
    | (ctx, .ok message) =>
        (ctx, .ok (if ctx.cipheringAlg = .nea0 then message else nasCipher direction ctx message))
  else (ctx, .ok message)

/-! ### Sending and receiving -/

def nasCreateMessage (msgType : Byte) (msgData : List Byte) : NasMessage where
  header :=
    { extendedProtocolDiscriminator := 0x7e
      securityHeaderType := 0
      messageType := msgType
      messageAuthenticationCode := 0
      sequenceNumber := 0 }
  messageData := if msgData = [] then none else some msgData
  integrityProtected := false
  ciphered := false

/-- The message that comes back is the one the lower layers are handed. -/
def nasSendMessage (ctx : NasUeContext Session) (message : NasMessage) :
    NasUeContext Session × Except UesimError NasMessage :=
  if ctx.active then
    match nasProtect .uplink ctx.securityContext message with
    | (security, .error e) => ({ ctx with securityContext := security }, .error e)
    | (security, .ok message) =>
        ({ ctx with
            securityContext := security
            messagesSent := ctx.messagesSent + 1 }, .ok message)
  else (ctx, .error .invalidParam)

/-- The message that comes back is the one the caller holds. Deciphering goes through a copy of it
that shares the data, so the data changes and the flags do not. The types only choose what is
logged. -/
def nasProcessMessage (ctx : NasUeContext Session) (message : NasMessage) :
    NasUeContext Session × Except UesimError NasMessage :=
  if ctx.active then
    match (if message.integrityProtected then
        nasVerifyIntegrityProtection ctx.securityContext message
      else (ctx.securityContext, .ok true)) with
    | (security, .error e) => ({ ctx with securityContext := security }, .error e)
    | (security, .ok false) => ({ ctx with securityContext := security }, .error .protocol)
    | (security, .ok true) =>
        ({ ctx with
            securityContext := security
            messagesReceived := ctx.messagesReceived + 1 },
          .ok (if message.ciphered then
              { message with messageData := (nasDecipherMessage security message).messageData }
            else message))
  else (ctx, .error .invalidParam)

/-- The header in memory, which is longer than the one on the air. -/
def nasMessageHeaderSize : Nat := 20

/-- Decode into the message of the caller, which keeps what is not written: tag and sequence number
under a plain header, and the pointer to the data where no data comes. -/
def nasDecodeMessage (message : NasMessage) : List Byte → Except UesimError NasMessage
  | [] => .error .invalidParam
  -- The type is read from behind the end, and the length that is left wraps; here it is not served.
  | [_] => .error .memory
  | discriminator :: typeByte :: rest =>
      let header := { message.header with
        extendedProtocolDiscriminator := discriminator
        securityHeaderType := typeByte >>> 4 &&& 0x0f
        messageType := typeByte &&& 0x0f }
      let decoded (header : NasMessageHeader) (data : List Byte) : NasMessage :=
        { header := header
          messageData := if data = [] then message.messageData.map fun _ => [] else some data
          integrityProtected := false
          ciphered := false }
      if header.securityHeaderType = 0 then .ok (decoded header rest)
      else if rest.length + 2 < nasMessageHeaderSize then .error .invalidParam
      else
        match rest with
        | m0 :: m1 :: m2 :: m3 :: sequenceNumber :: data =>
            .ok (decoded { header with
              messageAuthenticationCode := leWord m0 m1 m2 m3
              sequenceNumber := sequenceNumber } data)
        | _ => .error .invalidParam

/-- The code, the sequence number and the data of a protected message. -/
theorem exists_fields_of_length {rest : List Byte} (h : 5 ≤ rest.length) :
    ∃ m0 m1 m2 m3 sequenceNumber data, rest = m0 :: m1 :: m2 :: m3 :: sequenceNumber :: data := by
  obtain ⟨m0, rest, rfl⟩ := List.exists_cons_of_length_pos (by omega : 0 < rest.length)
  rw [List.length_cons] at h
  obtain ⟨m1, rest, rfl⟩ := List.exists_cons_of_length_pos (by omega : 0 < rest.length)
  rw [List.length_cons] at h
  obtain ⟨m2, rest, rfl⟩ := List.exists_cons_of_length_pos (by omega : 0 < rest.length)
  rw [List.length_cons] at h
  obtain ⟨m3, rest, rfl⟩ := List.exists_cons_of_length_pos (by omega : 0 < rest.length)
  rw [List.length_cons] at h
  obtain ⟨sequenceNumber, data, rfl⟩ := List.exists_cons_of_length_pos (by omega : 0 < rest.length)
  exact ⟨m0, m1, m2, m3, sequenceNumber, data, rfl⟩

end Uesim
