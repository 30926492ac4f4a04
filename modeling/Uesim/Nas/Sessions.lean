import Uesim.Nas.Security
import Uesim.Library.CountedArray

/-!
# PDU sessions of a NAS context

A session has a flag and a state, and the context counts the sessions that are active; every handler writes
its own part of the three. What `nas_send_message` does to the security context, the counter and the outcome
of a call is an input of the call. The QoS flows of a session stand in an array with a count.
-/

namespace Uesim

open Bytes

inductive Nas5gsmState where
  | inactive
  | activePending
  | active
  | modificationPending
  | releasedPending
  deriving DecidableEq, Repr

inductive NasPduSessionType where
  | ipv4
  | ipv6
  | ipv4v6
  | unstructured
  | ethernet
  deriving DecidableEq, Repr

def NasPduSessionType.toByte : NasPduSessionType → Byte
  | ipv4 => 1
  | ipv6 => 2
  | ipv4v6 => 3
  | unstructured => 4
  | ethernet => 5

structure NasQosFlow where
  qfi : Byte
  arp : Byte
  qci : Byte
  gbrUl : BitVec 16
  gbrDl : BitVec 16
  mbrUl : BitVec 16
  mbrDl : BitVec 16
  active : Bool
  deriving DecidableEq

def nasMaxQosFlows : Nat := 8

/-- The type is zero, which is none, until a request has set it. -/
structure NasPduSession where
  sessionType : Option NasPduSessionType
  state : Nas5gsmState
  pduAddress : Word
  defaultQfi : Byte
  qosFlows : CountedArray NasQosFlow nasMaxQosFlows
  sessionAmbrUl : BitVec 16
  sessionAmbrDl : BitVec 16
  ulTeid : Word
  dlTeid : Word
  upfIp : Word
  active : Bool
  deriving DecidableEq

structure NasSessionContext extends NasUeContext NasPduSession where
  numActiveSessions : Byte
  pduSessionEstRequests : BitVec 64
  pduSessionEstAccepts : BitVec 64
  deriving DecidableEq

/-- What sending one message changes in the context, and how it ends. -/
structure NasSendOutcome where
  securityContext : NasSecurityContext
  messagesSent : BitVec 64
  result : Except UesimError Unit

abbrev NasSender := NasMessage → NasSendOutcome

def NasPduSession.zero : NasPduSession where
  sessionType := none
  state := .inactive
  pduAddress := 0
  defaultQfi := 0
  qosFlows := .empty nasMaxQosFlows ⟨0, 0, 0, 0, 0, 0, 0, false⟩
  sessionAmbrUl := 0
  sessionAmbrDl := 0
  ulTeid := 0
  dlTeid := 0
  upfIp := 0
  active := false

def nasCreateSessionContext (active : Bool) : NasSessionContext where
  toNasUeContext :=
    { nasCreateUeContext (Vector.replicate nasMaxPduSessions .zero) with active := active }
  numActiveSessions := 0
  pduSessionEstRequests := 0
  pduSessionEstAccepts := 0

/-- What `nas_send_message` does. -/
def NasUeContext.sender {Session : Type} (ctx : NasUeContext Session) : NasSender := fun message =>
  let sent := nasSendMessage ctx message
  { securityContext := sent.1.securityContext
    messagesSent := sent.1.messagesSent
    result := sent.2.map fun _ => () }

namespace NasSessionContext

def sent (ctx : NasSessionContext) (outcome : NasSendOutcome) : NasSessionContext :=
  { ctx with
    securityContext := outcome.securityContext
    messagesSent := outcome.messagesSent }

def setSession (ctx : NasSessionContext) (pduSessionId : Byte) (session : NasPduSession) :
    NasSessionContext :=
  { ctx with pduSessions := ctx.pduSessions.setIfInBounds pduSessionId.toNat session }

/-- The checks that every function begins with: the id is that of a session, and the context is
active. -/
def withSession (ctx : NasSessionContext) (pduSessionId : Byte)
    (body : NasPduSession → NasSessionContext × Except UesimError Unit) :
    NasSessionContext × Except UesimError Unit :=
  match ctx.pduSessions[pduSessionId.toNat]? with
  | none => (ctx, .error .invalidParam)
  | some session => if ctx.active then body session else (ctx, .error .invalidParam)

def withSend (ctx : NasSessionContext) (send : NasSender) (message : NasMessage)
    (next : NasSessionContext → NasSessionContext) : NasSessionContext × Except UesimError Unit :=
  match (send message).result with
  | .error e => (ctx.sent (send message), .error e)
  | .ok () => (next (ctx.sent (send message)), .ok ())

end NasSessionContext

def nasUpdate5gsmState (ctx : NasSessionContext) (pduSessionId : Byte) (newState : Nas5gsmState) :
    NasSessionContext :=
  match ctx.pduSessions[pduSessionId.toNat]? with
  | none => ctx
  | some session => ctx.setSession pduSessionId { session with state := newState }

/-! ### Messages -/

/-- The request as it lies in memory: id, type, SSC mode 1, transaction 1, no data. -/
def nasEstablishmentRequest (pduSessionId : Byte) (sessionType : NasPduSessionType) : NasMessage :=
  nasCreateMessage 0xc1
    (pduSessionId :: 0 :: 0 :: 0 :: sessionType.toByte :: 0 :: 0 :: 0 :: 1 :: 0 :: 0 :: 0 :: 1
      :: List.replicate 267 0)

/-- Id, type, address 192.168.1.1, and the rule of the default flow. -/
def nasEstablishmentAccept (pduSessionId : Byte) (sessionType : Option NasPduSessionType) : NasMessage :=
  nasCreateMessage 0xc2
    (pduSessionId :: (sessionType.map NasPduSessionType.toByte).getD 0 :: leBytes 0xc0a80101
      ++ [0x01, 0x08, 0x01, 0x01, 0x05, 0x00, 0x64, 0x00, 0xc8])

def nasModificationRequest (pduSessionId : Byte) : NasMessage := nasCreateMessage 0xc9 [pduSessionId, 0x01]

def nasModificationComplete (pduSessionId : Byte) : NasMessage := nasCreateMessage 0xcc [pduSessionId]

def nasReleaseRequest (pduSessionId : Byte) : NasMessage := nasCreateMessage 0xd1 [pduSessionId, 0x00]

def nasReleaseComplete (pduSessionId : Byte) : NasMessage := nasCreateMessage 0xd4 [pduSessionId]

/-! ### Establishment -/

def nasInitiatePduSessionEstablishment (ctx : NasSessionContext) (pduSessionId : Byte)
    (sessionType : NasPduSessionType) (send : NasSender) : NasSessionContext × Except UesimError Unit :=
  ctx.withSession pduSessionId fun session =>
    if pduSessionId < 1 ∨ 15 < pduSessionId then (ctx, .error .invalidParam)
    else if session.active then (ctx, .error .invalidParam)
    else ctx.withSend send (nasEstablishmentRequest pduSessionId sessionType) fun ctx =>
      { nasUpdate5gsmState ctx pduSessionId .activePending with
        pduSessionEstRequests := ctx.pduSessionEstRequests + 1 }

def nasDefaultQosFlow : NasQosFlow where
  qfi := 1
  arp := 1
  qci := 5
  gbrUl := 100
  gbrDl := 200
  mbrUl := 1000
  mbrDl := 2000
  active := true

/-- What an accept makes of a session. The default flow goes to the first cell, and it is the only one
from then on. -/
def NasPduSession.accepted (session : NasPduSession) : NasPduSession :=
  { session with
    active := true
    pduAddress := 0xc0a80101
    defaultQfi := 1
    sessionAmbrUl := 1000
    sessionAmbrDl := 2000
    ulTeid := 0x12345678
    dlTeid := 0x87654321
    upfIp := 0xc0a80102
    qosFlows :=
      { cells := session.qosFlows.cells.set 0 nasDefaultQosFlow (by decide)
        count := 1
        count_le := by decide } }

def nasSendPduSessionEstablishmentAccept (ctx : NasSessionContext) (pduSessionId : Byte)
    (send : NasSender) : NasSessionContext × Except UesimError Unit :=
  ctx.withSession pduSessionId fun session =>
    if pduSessionId < 1 ∨ 15 < pduSessionId then (ctx, .error .invalidParam)
    else ctx.withSend send (nasEstablishmentAccept pduSessionId session.sessionType) fun ctx =>
      { nasUpdate5gsmState (ctx.setSession pduSessionId session.accepted) pduSessionId .active with
        pduSessionEstAccepts := ctx.pduSessionEstAccepts + 1
        numActiveSessions := ctx.numActiveSessions + 1 }

/-- The cause is logged only. -/
def nasHandlePduSessionEstablishmentReject (ctx : NasSessionContext) (pduSessionId : Byte) (_cause : Byte) :
    NasSessionContext × Except UesimError Unit :=
  ctx.withSession pduSessionId fun _ => (nasUpdate5gsmState ctx pduSessionId .inactive, .ok ())

/-! ### Modification and release -/

/-- What the two initiations share: an active session, a request, and the state that waits for the
answer. -/
def nasInitiatePduSessionChange (ctx : NasSessionContext) (pduSessionId : Byte) (request : NasMessage)
    (pending : Nas5gsmState) (send : NasSender) : NasSessionContext × Except UesimError Unit :=
  ctx.withSession pduSessionId fun session =>
    if session.active then ctx.withSend send request fun ctx => nasUpdate5gsmState ctx pduSessionId pending
    else (ctx, .error .invalidParam)

def nasInitiatePduSessionModification (ctx : NasSessionContext) (pduSessionId : Byte) (send : NasSender) :
    NasSessionContext × Except UesimError Unit :=
  nasInitiatePduSessionChange ctx pduSessionId (nasModificationRequest pduSessionId) .modificationPending
    send

def nasInitiatePduSessionRelease (ctx : NasSessionContext) (pduSessionId : Byte) (send : NasSender) :
    NasSessionContext × Except UesimError Unit :=
  nasInitiatePduSessionChange ctx pduSessionId (nasReleaseRequest pduSessionId) .releasedPending send

/-- Four bytes of a command are the two rates of the session, as they lie in memory. -/
def NasPduSession.modified (session : NasPduSession) : List Byte → NasPduSession
  | ul0 :: ul1 :: dl0 :: dl1 :: _ =>
      { session with
        sessionAmbrUl := ul1 ++ ul0
        sessionAmbrDl := dl1 ++ dl0 }
  | _ => session

/-- No data is `NULL` or of length zero. Neither the flag nor the state of the session is looked at. -/
def nasHandlePduSessionModificationCommand (ctx : NasSessionContext) (pduSessionId : Byte)
    (commandData : List Byte) (send : NasSender) : NasSessionContext × Except UesimError Unit :=
  if commandData = [] then (ctx, .error .invalidParam)
  else ctx.withSession pduSessionId fun session =>
    (ctx.setSession pduSessionId (session.modified commandData)).withSend send
      (nasModificationComplete pduSessionId) fun ctx => nasUpdate5gsmState ctx pduSessionId .active

/-- The data is not read, and the count goes down whether or not the session was active. -/
def nasHandlePduSessionReleaseCommand (ctx : NasSessionContext) (pduSessionId : Byte)
    (_commandData : List Byte) (send : NasSender) : NasSessionContext × Except UesimError Unit :=
  ctx.withSession pduSessionId fun session =>
    let released := ctx.setSession pduSessionId { session with active := false, state := .inactive }
    { released with
      numActiveSessions := if 0 < ctx.numActiveSessions then ctx.numActiveSessions - 1
        else ctx.numActiveSessions }.withSend send (nasReleaseComplete pduSessionId) id

/-! ### QoS flows -/

def nasAddQosFlow (ctx : NasSessionContext) (pduSessionId : Byte) (qosFlow : NasQosFlow) :
    NasSessionContext × Except UesimError Unit :=
  ctx.withSession pduSessionId fun session =>
    if session.active then
      match session.qosFlows.push { qosFlow with active := true } with
      | none => (ctx, .error .invalidParam)
      | some flows => (ctx.setSession pduSessionId { session with qosFlows := flows }, .ok ())
    else (ctx, .error .invalidParam)

/-- A flow that is not there is removed with success. -/
def nasRemoveQosFlow (ctx : NasSessionContext) (pduSessionId : Byte) (qfi : Byte) :
    NasSessionContext × Except UesimError Unit :=
  ctx.withSession pduSessionId fun session =>
    match CountedArray.removeKey NasQosFlow.qfi session.qosFlows qfi with
    | none => (ctx, .ok ())
    | some flows => (ctx.setSession pduSessionId { session with qosFlows := flows }, .ok ())

/-- A flow that is not there is modified with success. -/
def nasModifyQosFlow (ctx : NasSessionContext) (pduSessionId : Byte) (qosFlow : NasQosFlow) :
    NasSessionContext × Except UesimError Unit :=
  ctx.withSession pduSessionId fun session =>
    match CountedArray.replaceKey NasQosFlow.qfi session.qosFlows { qosFlow with active := true } with
    | none => (ctx, .ok ())
    | some flows => (ctx.setSession pduSessionId { session with qosFlows := flows }, .ok ())

/-! ### What the steps leave -/

namespace NasSessionContext

variable {ctx : NasSessionContext} {pduSessionId : Byte} {session : NasPduSession}

/-- With the outcome of `nas_send_message`, what is sent is the context that it leaves. -/
theorem sent_sender (ctx : NasSessionContext) (message : NasMessage) :
    (ctx.sent (ctx.toNasUeContext.sender message)).toNasUeContext
      = (nasSendMessage ctx.toNasUeContext message).1 := by
  rw [sent, NasUeContext.sender]
  unfold nasSendMessage
  split
  · split <;> rfl
  · rfl

theorem withSession_of_active (hactive : ctx.active = true)
    (hsession : ctx.pduSessions[pduSessionId.toNat]? = some session)
    (body : NasPduSession → NasSessionContext × Except UesimError Unit) :
    ctx.withSession pduSessionId body = body session := by
  rw [withSession, hsession]
  exact if_pos hactive

theorem nasUpdate5gsmState_of_session (hsession : ctx.pduSessions[pduSessionId.toNat]? = some session)
    (newState : Nas5gsmState) : nasUpdate5gsmState ctx pduSessionId newState
      = ctx.setSession pduSessionId { session with state := newState } := by
  rw [nasUpdate5gsmState, hsession]

theorem getElem?_setSession (hsession : ctx.pduSessions[pduSessionId.toNat]? = some session)
    (other : NasPduSession) :
    (ctx.setSession pduSessionId other).pduSessions[pduSessionId.toNat]? = some other := by
  have hlt : pduSessionId.toNat < nasMaxPduSessions := Vector.getElem?_eq_some_iff.mp hsession |>.1
  rw [setSession, Vector.getElem?_setIfInBounds_self_of_lt hlt]

end NasSessionContext

end Uesim
