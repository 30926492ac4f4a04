import Uesim.Rlc.AmStatus

/-!
# RLC entities

An entity carries a mode and a union of one member for each mode. Creation initialises the member of
its mode and no window of it. What a call does to a member that was not initialised, or by dividing by
the size of a window that was not, has no meaning in the language and is a fault here. Locks are always
granted and allocations succeed.
-/

namespace Uesim

open Bytes BitMemory

inductive RlcMode where
  | tm
  | um
  | am
  | max
  deriving DecidableEq, Repr

inductive RlcStatus where
  | idle
  | configured
  | active
  | suspended
  deriving DecidableEq, Repr

def rlcMaxPduSize : Nat := 8192

def rlcBearerDrbMax : Nat := 32

structure RlcSdu where
  data : List Byte
  sduId : BitVec 16
  deriving DecidableEq

/-- The configurations of UM and AM both begin with the length of a sequence number. -/
structure RlcConfig where
  mode : RlcMode
  snLength : Byte
  deriving DecidableEq

structure RlcTmEntity where
  txBuffer : List RlcSdu
  rxBuffer : List RlcSdu

structure RlcUmEntity where
  rxBuffer : List RlcPdu

/-- A window is missing as long as nothing has initialised it; its memory is zero then. -/
structure RlcAmEntity where
  txWindow : Option RlcAmTxWindow
  rxWindow : Option RlcAmRxWindow
  txBuffer : List RlcSdu
  rxBuffer : List RlcPdu

inductive RlcMember where
  | tm (entity : RlcTmEntity)
  | um (entity : RlcUmEntity)
  | am (entity : RlcAmEntity)

def RlcMember.mode : RlcMember → RlcMode
  | tm _ => .tm
  | um _ => .um
  | am _ => .am

structure RlcEntity where
  mode : RlcMode
  status : RlcStatus
  config : RlcConfig
  entity : RlcMember
  sduCounter : Word
  pduCounter : Word
  active : Bool

inductive RlcFault where
  /-- an access to a member of the union that was not initialised -/
  | member
  /-- a division by the size of a window that was not initialised -/
  | window
  deriving DecidableEq, Repr

namespace RlcEntity

def tm (entity : RlcEntity) : Except RlcFault RlcTmEntity :=
  match entity.entity with
  | .tm tm => .ok tm
  | _ => .error .member

def um (entity : RlcEntity) : Except RlcFault RlcUmEntity :=
  match entity.entity with
  | .um um => .ok um
  | _ => .error .member

def am (entity : RlcEntity) : Except RlcFault RlcAmEntity :=
  match entity.entity with
  | .am am => .ok am
  | _ => .error .member

end RlcEntity

/-! ### Creation and configuration -/

def rlcMemberOf : RlcMode → Option RlcMember
  | .tm => some (.tm ⟨[], []⟩)
  | .um => some (.um ⟨[]⟩)
  | .am => some (.am ⟨none, none, [], []⟩)
  | .max => none

def rlcCreateEntity (bearer : Nat) (mode : RlcMode) (config : Option RlcConfig) :
    Except UesimError RlcEntity :=
  if rlcBearerDrbMax ≤ bearer then .error .invalidParam
  else
    match rlcMemberOf mode with
    | none => .error .invalidParam
    | some member =>
        .ok
          { mode := mode
            status := .configured
            config := config.getD ⟨.tm, 0⟩
            entity := member
            sduCounter := 0
            pduCounter := 0
            active := false }

def rlcDestroyEntity (entity : RlcEntity) : Except RlcFault (Except UesimError Unit) :=
  match entity.mode with
  | .tm => entity.tm.map fun _ => .ok ()
  | .um => entity.um.map fun _ => .ok ()
  | .am => entity.am.map fun _ => .ok ()
  | .max => .ok (.ok ())

def rlcConfigureEntity (entity : RlcEntity) (config : RlcConfig) :
    RlcEntity × Except UesimError Unit :=
  if config.mode = .max then (entity, .error .invalidParam)
  else ({ entity with config := config, mode := config.mode }, .ok ())

def rlcActivateEntity (entity : RlcEntity) : RlcEntity × Except UesimError Unit :=
  ({ entity with active := true, status := .active }, .ok ())

def rlcDeactivateEntity (entity : RlcEntity) : RlcEntity × Except UesimError Unit :=
  ({ entity with active := false, status := .configured }, .ok ())

def rlcSuspendEntity (entity : RlcEntity) : RlcEntity × Except UesimError Unit :=
  ({ entity with active := false, status := .suspended }, .ok ())

def rlcResumeEntity (entity : RlcEntity) : RlcEntity × Except UesimError Unit :=
  if entity.status ≠ .suspended then (entity, .error .invalidParam)
  else ({ entity with active := true, status := .active }, .ok ())

/-! ### SDUs to PDUs and back -/

def rlcTmProcessTxData (entity : RlcEntity) (sdu : List Byte) :
    RlcEntity × Except UesimError (List RlcPdu) :=
  if sdu.length = 0 ∨ entity.mode ≠ .tm then (entity, .error .invalidParam)
  else (entity, .ok [⟨sdu, 0, 0, 0, false⟩])

/-- The number of PDUs, in arithmetic of the width of `size_t`. -/
def rlcNumPdus (sduLength : Nat) : Nat :=
  (sduLength + rlcMaxPduSize - 1) % 2 ^ 64 / rlcMaxPduSize

def rlcFramingInfo (numPdus i : Nat) : Byte :=
  if numPdus = 1 then 0
  else if i = 0 then 1
  else if i = numPdus - 1 then 2
  else 3

def rlcSegmentPdu (sdu : List Byte) (numPdus i : Nat) (pduCounter : Word) : RlcPdu :=
  let segmentSize :=
    if i = numPdus - 1 then sdu.length - i * rlcMaxPduSize else rlcMaxPduSize
  { data := (sdu.drop (i * rlcMaxPduSize)).take segmentSize
    sn := pduCounter.setWidth 16
    fi := rlcFramingInfo numPdus i
    so := 0
    isSegment := false }

/-- The rounds of the segmentation loop from round `i` on, so many of them. -/
def rlcSegmentLoop (sdu : List Byte) (numPdus : Nat) : Nat → Nat → Word → List RlcPdu × Word
  | 0, _, pduCounter => ([], pduCounter)
  | rounds + 1, i, pduCounter =>
      let rest := rlcSegmentLoop sdu numPdus rounds (i + 1) (pduCounter + 1)
      (rlcSegmentPdu sdu numPdus i pduCounter :: rest.1, rest.2)

def rlcSegmentSdu (mode : RlcMode) (entity : RlcEntity) (sdu : List Byte) :
    RlcEntity × Except UesimError (List RlcPdu) :=
  if sdu.length = 0 ∨ entity.mode ≠ mode then (entity, .error .invalidParam)
  else
    let numPdus := rlcNumPdus sdu.length
    let segments := rlcSegmentLoop sdu numPdus numPdus 0 entity.pduCounter
    ({ entity with pduCounter := segments.2 }, .ok segments.1)

def rlcUmProcessTxData : RlcEntity → List Byte → RlcEntity × Except UesimError (List RlcPdu) :=
  rlcSegmentSdu .um

def rlcAmProcessTxData : RlcEntity → List Byte → RlcEntity × Except UesimError (List RlcPdu) :=
  rlcSegmentSdu .am

def rlcProcessTxData (entity : RlcEntity) (sdu : List Byte) :
    RlcEntity × Except UesimError (List RlcPdu) :=
  if sdu.length = 0 then (entity, .error .invalidParam)
  else if ¬ entity.active then (entity, .error .invalidParam)
  else if entity.status ≠ .active then (entity, .error .invalidParam)
  else
    match entity.mode with
    | .tm => rlcTmProcessTxData entity sdu
    | .um => rlcUmProcessTxData entity sdu
    | .am => rlcAmProcessTxData entity sdu
    | .max => (entity, .error .invalidParam)

def rlcTmProcessRxData (entity : RlcEntity) : List RlcPdu → Except UesimError (List Byte)
  | [] => .error .invalidParam
  | pdu :: _ => if entity.mode ≠ .tm then .error .invalidParam else .ok pdu.data

/-- Reassembly, which UM and AM do alike: the data of all PDUs in the order of the list. -/
def rlcReassembleSdu (mode : RlcMode) (entity : RlcEntity) (pduList : List RlcPdu) :
    Except UesimError (List Byte) :=
  if pduList = [] ∨ entity.mode ≠ mode then .error .invalidParam
  else .ok (pduList.flatMap RlcPdu.data)

def rlcUmProcessRxData : RlcEntity → List RlcPdu → Except UesimError (List Byte) :=
  rlcReassembleSdu .um

def rlcAmProcessRxData : RlcEntity → List RlcPdu → Except UesimError (List Byte) :=
  rlcReassembleSdu .am

def rlcProcessRxData (entity : RlcEntity) (pduList : List RlcPdu) : Except UesimError (List Byte) :=
  if pduList = [] then .error .invalidParam
  else if ¬ entity.active then .error .invalidParam
  else if entity.status ≠ .active then .error .invalidParam
  else
    match entity.mode with
    | .tm => rlcTmProcessRxData entity pduList
    | .um => rlcUmProcessRxData entity pduList
    | .am => rlcAmProcessRxData entity pduList
    | .max => .error .invalidParam

/-! ### Status PDUs of an entity -/

/-- A window that was not initialised has VT(A) zero, so the loop that removes PDUs divides by its size
unless ACK_SN is zero too, and the loop for NACKs does in its first round. -/
def rlcAmProcessStatusPdu (entity : RlcEntity) (statusData : Memory) (statusLength : Nat) :
    Except RlcFault (RlcEntity × Except UesimError Unit) :=
  let snLength := entity.config.snLength
  if statusLength = 0 then .ok (entity, .error .invalidParam)
  else if entity.mode ≠ .am then .ok (entity, .error .invalidParam)
  else do
    let am ← entity.am
    match am.txWindow with
    | some win =>
        let processed := rlcAmProcessStatus win statusData statusLength snLength
        .ok ({ entity with entity := .am { am with txWindow := some processed.1 } }, processed.2)
    | none =>
        let headerBits := rlcStatusHeaderBits snLength
        if rlcStatusCpt statusData ≠ 0 then .ok (entity, .error .protocol)
        else if rlcStatusAckSn statusData snLength ≠ 0 then .error .window
        else if bitAt statusData headerBits ∧ (headerBits + 1) / 8 < statusLength then .error .window
        else .ok (entity, .ok ())

/-- A window that was not initialised has VR(R) and VR(H) zero, so nothing between them is missing. -/
def rlcAmGenerateStatusPdu (fuel : Nat) (entity : RlcEntity) :
    Option (Except RlcFault (Except UesimError (Memory × Nat))) :=
  let snLength := entity.config.snLength
  if entity.mode ≠ .am then some (.ok (.error .invalidParam))
  else
    match entity.am with
    | .error fault => some (.error fault)
    | .ok am =>
        match am.rxWindow with
        | some win => (rlcAmGenerateStatus fuel win snLength).map fun status => .ok (.ok status)
        | none =>
            let headerBits := rlcStatusHeaderBits snLength
            some (.ok (.ok (clearBit (rlcStatusHeader 0 snLength) headerBits, (headerBits + 7) / 8)))

/-! ### Queues -/

def rlcTmReceivePdu (entity : RlcEntity) (pdu : RlcPdu) :
    Except RlcFault (RlcEntity × Except UesimError Unit) :=
  if entity.mode ≠ .tm then .ok (entity, .error .invalidParam)
  else do
    let tm ← entity.tm
    let sdu : RlcSdu := ⟨pdu.data, entity.sduCounter.setWidth 16⟩
    .ok ({ entity with
      sduCounter := entity.sduCounter + 1
      entity := .tm { tm with rxBuffer := tm.rxBuffer ++ [sdu] } }, .ok ())

def rlcUmReceivePdu (entity : RlcEntity) (pdu : RlcPdu) :
    Except RlcFault (RlcEntity × Except UesimError Unit) :=
  if entity.mode ≠ .um then .ok (entity, .error .invalidParam)
  else do
    let um ← entity.um
    .ok ({ entity with entity := .um { um with rxBuffer := um.rxBuffer ++ [pdu] } }, .ok ())

def rlcAmReceivePdu (entity : RlcEntity) (pdu : RlcPdu) :
    Except RlcFault (RlcEntity × Except UesimError Unit) :=
  if entity.mode ≠ .am then .ok (entity, .error .invalidParam)
  else do
    let am ← entity.am
    if 2 ≤ pdu.data.length ∧ ofBytes pdu.data 0 = 0xc0 then
      rlcAmProcessStatusPdu entity (ofBytes pdu.data) pdu.data.length
    else
      .ok ({ entity with entity := .am { am with rxBuffer := am.rxBuffer ++ [pdu] } }, .ok ())

def rlcReceivePdu (entity : RlcEntity) (pdu : RlcPdu) :
    Except RlcFault (RlcEntity × Except UesimError Unit) :=
  if ¬ entity.active then .ok (entity, .error .invalidParam)
  else
    match entity.mode with
    | .tm => rlcTmReceivePdu entity pdu
    | .um => rlcUmReceivePdu entity pdu
    | .am => rlcAmReceivePdu entity pdu
    | .max => .ok (entity, .error .invalidParam)

def rlcQueueSdu (entity : RlcEntity) (sdu : RlcSdu) :
    Except RlcFault (RlcEntity × Except UesimError Unit) :=
  match entity.mode with
  | .tm => do
      let tm ← entity.tm
      .ok ({ entity with entity := .tm { tm with txBuffer := tm.txBuffer ++ [sdu] } }, .ok ())
  | .am => do
      let am ← entity.am
      .ok ({ entity with entity := .am { am with txBuffer := am.txBuffer ++ [sdu] } }, .ok ())
  | _ => .ok (entity, .error .invalidParam)

/-- In AM the receive queue holds PDUs. An SDU has its data where a PDU has it, and its number where a
PDU has its sequence number. -/
def rlcDequeueSdu (entity : RlcEntity) : Except RlcFault (RlcEntity × Except UesimError RlcSdu) :=
  match entity.mode with
  | .tm => do
      let tm ← entity.tm
      match tm.rxBuffer with
      | [] => .ok (entity, .error .invalidParam)
      | sdu :: rest => .ok ({ entity with entity := .tm { tm with rxBuffer := rest } }, .ok sdu)
  | .am => do
      let am ← entity.am
      match am.rxBuffer with
      | [] => .ok (entity, .error .invalidParam)
      | pdu :: rest =>
          .ok ({ entity with entity := .am { am with rxBuffer := rest } }, .ok ⟨pdu.data, pdu.sn⟩)
  | _ => .ok (entity, .error .invalidParam)

/-! ### Runs -/

inductive RlcOp where
  | configure (config : RlcConfig)
  | activate
  | deactivate
  | suspend
  | resume
  | processTx (sdu : List Byte)
  | receive (pdu : RlcPdu)
  | queue (sdu : RlcSdu)
  | dequeue

def RlcEntity.step (entity : RlcEntity) : RlcOp → Except RlcFault RlcEntity
  | .configure config => .ok (rlcConfigureEntity entity config).1
  | .activate => .ok (rlcActivateEntity entity).1
  | .deactivate => .ok (rlcDeactivateEntity entity).1
  | .suspend => .ok (rlcSuspendEntity entity).1
  | .resume => .ok (rlcResumeEntity entity).1
  | .processTx sdu => .ok (rlcProcessTxData entity sdu).1
  | .receive pdu => (rlcReceivePdu entity pdu).map Prod.fst
  | .queue sdu => (rlcQueueSdu entity sdu).map Prod.fst
  | .dequeue => (rlcDequeueSdu entity).map Prod.fst

def RlcEntity.run : RlcEntity → List RlcOp → Except RlcFault RlcEntity
  | entity, [] => .ok entity
  | entity, op :: ops => do
      let next ← entity.step op
      next.run ops

end Uesim
