import Uesim.Crypto.Ops

/-!
# PDCP entities

Mutexes are always granted and allocations succeed, so the errors that are left are the ones the
functions decide on. Pointers that the functions check against `NULL` are values here, except the
security context, which an entity may be without.
-/

namespace Uesim

open Bytes

inductive PdcpDirection where
  | uplink
  | downlink
  | bidirectional
  deriving DecidableEq, Repr

def PdcpDirection.toByte : PdcpDirection → Byte
  | uplink => 0
  | downlink => 1
  | bidirectional => 2

theorem PdcpDirection.toByte_injective : Function.Injective PdcpDirection.toByte := by
  intro direction direction' h
  cases direction <;> cases direction' <;> first | rfl | cases h

def pdcpBearerSrb1 : Nat := 1

def pdcpBearerSrb2 : Nat := 2

def pdcpBearerSrb3 : Nat := 3

def pdcpBearerDrbMax : Nat := 32

structure PdcpSecurityContext where
  cipheringKey : Vector Byte 16
  integrityKey : Vector Byte 16
  cipheringAlg : PdcpCipheringAlg
  integrityAlg : PdcpIntegrityAlg
  keyRefreshCount : Word
  deriving DecidableEq

structure PdcpEntity where
  bearerType : Nat
  direction : PdcpDirection
  snLength : Nat
  nextPdcpSn : Word
  nextExpectedSn : Word
  txHfn : Word
  rxHfn : Word
  lastTxSn : Word
  lastRxSn : Word
  snMask : Word
  snMax : Word
  hfnMax : Word
  securityCtx : Option PdcpSecurityContext
  active : Bool
  deriving DecidableEq

structure PdcpPdu where
  sn : BitVec 16
  data : List Byte
  macI : Word
  ciphered : Bool
  integrityProtected : Bool
  deriving DecidableEq

/-! ### Creation -/

def pdcpInitSnParams (entity : PdcpEntity) : PdcpEntity :=
  let entity := { entity with txHfn := 0, rxHfn := 0, lastTxSn := 0, lastRxSn := 0 }
  match entity.snLength with
  | 5 => { entity with snMask := 0x1f, snMax := 32, hfnMax := 0x7ffffff }
  | 12 => { entity with snMask := 0xfff, snMax := 4096, hfnMax := 0xfffff }
  | 18 => { entity with snMask := 0x3ffff, snMax := 262144, hfnMax := 0x3fff }
  | _ => { entity with snMask := 0xfff, snMax := 4096, hfnMax := 0xfffff }

@[simp]
theorem pdcpInitSnParams_bearerType (entity : PdcpEntity) :
    (pdcpInitSnParams entity).bearerType = entity.bearerType := by
  unfold pdcpInitSnParams
  dsimp only
  split <;> rfl

@[simp]
theorem pdcpInitSnParams_direction (entity : PdcpEntity) :
    (pdcpInitSnParams entity).direction = entity.direction := by
  unfold pdcpInitSnParams
  dsimp only
  split <;> rfl

/-- The entity `pdcp_create_entity` fills in. -/
def pdcpNewEntity (bearer : Nat) (direction : PdcpDirection) : PdcpEntity :=
  pdcpInitSnParams
    { bearerType := bearer
      direction := direction
      snLength := if bearer ≤ pdcpBearerSrb3 then 5 else 12
      nextPdcpSn := 0
      nextExpectedSn := 0
      txHfn := 0
      rxHfn := 0
      lastTxSn := 0
      lastRxSn := 0
      snMask := 0
      snMax := 0
      hfnMax := 0
      securityCtx := none
      active := false }

def pdcpCreateEntity (bearer : Nat) (direction : PdcpDirection) : Except UesimError PdcpEntity :=
  if pdcpBearerDrbMax ≤ bearer then .error .invalidParam else .ok (pdcpNewEntity bearer direction)

def pdcpActivateEntity (entity : PdcpEntity) : PdcpEntity := { entity with active := true }

/-- The two signalling bearers `pdcp_init` creates and activates. -/
def pdcpInit : Except UesimError (PdcpEntity × PdcpEntity) := do
  let srb1 ← pdcpCreateEntity pdcpBearerSrb1 .bidirectional
  let srb2 ← pdcpCreateEntity pdcpBearerSrb2 .bidirectional
  return (pdcpActivateEntity srb1, pdcpActivateEntity srb2)

def pdcpCreateSecurityContext (cipherAlg : PdcpCipheringAlg) (integrityAlg : PdcpIntegrityAlg)
    (cipherKey integrityKey : Vector Byte 16) : PdcpSecurityContext where
  cipheringKey := cipherKey
  integrityKey := integrityKey
  cipheringAlg := cipherAlg
  integrityAlg := integrityAlg
  keyRefreshCount := 0

/-- No function of the source attaches a security context; whoever made both does. -/
def PdcpEntity.withSecurity (entity : PdcpEntity) (ctx : PdcpSecurityContext) : PdcpEntity :=
  { entity with securityCtx := some ctx }

/-! ### COUNT -/

def pdcpGetTxCount (entity : PdcpEntity) : Word :=
  let sn := entity.nextPdcpSn &&& entity.snMask
  sn + entity.snMax * entity.txHfn

def pdcpGetCount (entity : PdcpEntity) : Word := pdcpGetTxCount entity

def pdcpDetectSnWraparound (lastSn newSn snMax : Word) : Bool :=
  let threshold := snMax / 2
  lastSn > threshold && newSn < threshold && lastSn - newSn > threshold

def pdcpGetRxCount (entity : PdcpEntity) (receivedSn : Word) : PdcpEntity × Word :=
  let receivedSn := receivedSn &&& entity.snMask
  let entity :=
    if entity.lastRxSn = 0 then entity
    else if pdcpDetectSnWraparound entity.lastRxSn receivedSn entity.snMax then
      { entity with rxHfn := entity.rxHfn + 1 }
    else entity
  ({ entity with lastRxSn := receivedSn }, receivedSn + entity.snMax * entity.rxHfn)

def pdcpCipherParams (entity : PdcpEntity) : PdcpCipherParams where
  count := pdcpGetCount entity
  bearer := BitVec.ofNat 8 entity.bearerType
  direction := entity.direction.toByte

/-! ### Protection of one PDU -/

def pdcpEncryptPdu (entity : PdcpEntity) (pdu : PdcpPdu) : Except UesimError PdcpPdu :=
  match entity.securityCtx with
  | none => .ok pdu
  | some ctx =>
      if ctx.cipheringAlg = .nea0 then .ok { pdu with ciphered := false }
      else
        match gCryptoOps ctx.cipheringAlg.index with
        | none => .error .invalidParam
        | some ops =>
            .ok { pdu with
              data := ops.encrypt ctx.cipheringKey (pdcpCipherParams entity) pdu.data
              ciphered := true }

def pdcpDecryptPdu (entity : PdcpEntity) (pdu : PdcpPdu) : Except UesimError PdcpPdu :=
  match entity.securityCtx with
  | none => .ok pdu
  | some ctx =>
      if ctx.cipheringAlg = .nea0 then .ok { pdu with ciphered := false }
      else
        match gCryptoOps ctx.cipheringAlg.index with
        | none => .error .invalidParam
        | some ops =>
            .ok { pdu with
              data := ops.decrypt ctx.cipheringKey (pdcpCipherParams entity) pdu.data
              ciphered := false }

def pdcpComputeIntegrityProtect (entity : PdcpEntity) (pdu : PdcpPdu) : Except UesimError PdcpPdu :=
  match entity.securityCtx with
  | none => .ok pdu
  | some ctx =>
      if ctx.integrityAlg = .nia0 then .ok { pdu with integrityProtected := false }
      else
        match gCryptoOps ctx.integrityAlg.index with
        | none => .error .invalidParam
        | some ops =>
            .ok { pdu with
              macI := ops.computeMac ctx.integrityKey pdu.data (pdcpCipherParams entity)
              integrityProtected := true }

def pdcpVerifyIntegrityProtect (entity : PdcpEntity) (pdu : PdcpPdu) : Except UesimError Bool :=
  match entity.securityCtx with
  | none => .ok true
  | some ctx =>
      if ctx.integrityAlg = .nia0 then .ok true
      else
        match gCryptoOps ctx.integrityAlg.index with
        | none => .error .invalidParam
        | some ops =>
            .ok (ops.computeMac ctx.integrityKey pdu.data (pdcpCipherParams entity) == pdu.macI)

/-! ### Data path -/

/-- The sequence number of the next PDU, with the counters after it: the raw counter moves on before
anything reads it again, and the hyper frame number moves when the masked number comes back to zero. -/
def pdcpAssignTxSn (entity : PdcpEntity) : Word × PdcpEntity :=
  let currentSn := entity.nextPdcpSn &&& entity.snMask
  let txHfn := if currentSn = 0 ∧ entity.lastTxSn > 0 then entity.txHfn + 1 else entity.txHfn
  (currentSn, { entity with
    nextPdcpSn := entity.nextPdcpSn + 1
    txHfn := txHfn
    lastTxSn := currentSn })

def pdcpProcessTxData (entity : PdcpEntity) (sdu : List Byte) :
    PdcpEntity × Except UesimError PdcpPdu :=
  if sdu = [] then (entity, .error .invalidParam)
  else if !entity.active then (entity, .error .invalidParam)
  else
    let (currentSn, entity) := pdcpAssignTxSn entity
    let pdu : PdcpPdu :=
      { sn := currentSn.setWidth 16
        data := sdu
        macI := 0
        ciphered := false
        integrityProtected := false }
    (entity, do
      let pdu ← pdcpComputeIntegrityProtect entity pdu
      pdcpEncryptPdu entity pdu)

/-- Integrity first, then deciphering, both against the entity as it is. -/
def pdcpUnprotect (entity : PdcpEntity) (pdu : PdcpPdu) : Except UesimError (List Byte) := do
  if pdu.integrityProtected && entity.securityCtx.isSome then
    let valid ← pdcpVerifyIntegrityProtect entity pdu
    if !valid then throw .protocol
  if pdu.ciphered && entity.securityCtx.isSome then
    let pdu ← pdcpDecryptPdu entity pdu
    return pdu.data
  else
    return pdu.data

def pdcpProcessRxData (entity : PdcpEntity) (pdu : PdcpPdu) :
    PdcpEntity × Except UesimError (List Byte) :=
  if !entity.active then (entity, .error .invalidParam)
  else
    match pdcpUnprotect entity pdu with
    | .error e => (entity, .error e)
    | .ok sdu => ({ entity with nextExpectedSn := pdu.sn.setWidth 32 + 1 }, .ok sdu)

def pdcpPerformKeyRefresh (entity : PdcpEntity) (newCipherKey newIntegrityKey : Vector Byte 16) :
    PdcpEntity × Except UesimError Unit :=
  match entity.securityCtx with
  | none => (entity, .error .invalidParam)
  | some ctx =>
      ({ entity with
        securityCtx := some { ctx with
          cipheringKey := newCipherKey
          integrityKey := newIntegrityKey
          keyRefreshCount := ctx.keyRefreshCount + 1 }
        txHfn := 0
        rxHfn := 0
        lastTxSn := 0
        lastRxSn := 0
        nextPdcpSn := 0
        nextExpectedSn := 0 }, .ok ())

/-! ### What the steps leave alone -/

section Frame

variable (entity : PdcpEntity) (sdu : List Byte)

@[simp]
theorem pdcpAssignTxSn_bearerType : (pdcpAssignTxSn entity).2.bearerType = entity.bearerType := rfl

@[simp]
theorem pdcpAssignTxSn_direction : (pdcpAssignTxSn entity).2.direction = entity.direction := rfl

/-- The entity after a call: untouched if the call refuses its arguments, otherwise past one
sequence number, whatever the protection functions then return. -/
theorem pdcpProcessTxData_fst :
    (pdcpProcessTxData entity sdu).1
      = if sdu = [] ∨ entity.active = false then entity else (pdcpAssignTxSn entity).2 := by
  unfold pdcpProcessTxData
  by_cases hsdu : sdu = []
  · simp [hsdu]
  · cases hactive : entity.active <;> simp [hsdu]

end Frame

end Uesim
