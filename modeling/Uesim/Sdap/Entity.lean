import Uesim.Library.ScanTable
import Uesim.Types

/-!
# The SDAP entity

A table that maps QoS flows to bearers, and the calls that put a header of one byte in front of what is sent
and take it off what is received. Statistics and identifiers of entities are left out.
-/

namespace Uesim

open Bytes

structure SdapQosMapping where
  qfi : Byte
  drbId : Byte
  reflectiveQos : Bool
  active : Bool
  deriving DecidableEq

abbrev SdapQosFlowMap := { entries : List SdapQosMapping // entries.length = 64 }

structure SdapConfig where
  pduSessionId : Word
  numQosFlows : Byte
  qosMappings : SdapQosFlowMap
  defaultDrbConfigured : Bool
  defaultDrbId : Byte

structure SdapEntity where
  pduSessionId : Word
  config : SdapConfig
  qosFlowMap : SdapQosFlowMap
  active : Bool

/-- A table that `calloc` has cleared. -/
def SdapQosFlowMap.empty : SdapQosFlowMap :=
  ⟨List.replicate 64 { qfi := 0, drbId := 0, reflectiveQos := false, active := false }, rfl⟩

/-- An entity for which there is memory. -/
def sdapCreateEntity (pduSessionId : Word) : Option SdapConfig → SdapEntity
  | some config => { pduSessionId, config, qosFlowMap := config.qosMappings, active := false }
  | none =>
      { pduSessionId
        config :=
          { pduSessionId
            numQosFlows := 0
            qosMappings := .empty
            defaultDrbConfigured := false
            defaultDrbId := 0 }
        qosFlowMap := .empty
        active := false }

def sdapConfigureEntity (entity : SdapEntity) (config : SdapConfig) : SdapEntity :=
  { entity with config, qosFlowMap := config.qosMappings }

def sdapActivateEntity (entity : SdapEntity) : SdapEntity := { entity with active := true }

def sdapDeactivateEntity (entity : SdapEntity) : SdapEntity := { entity with active := false }

/-! ### The table of flows -/

def SdapQosFlowMap.replaceFirst (p : SdapQosMapping → Bool) (f : SdapQosMapping → SdapQosMapping)
    (flows : SdapQosFlowMap) : Option SdapQosFlowMap :=
  match h : ScanTable.replaceFirst p f flows.1 with
  | none => none
  | some entries => some ⟨entries, (ScanTable.length_replaceFirst h).trans flows.2⟩

def SdapEntity.setFlows (entity : SdapEntity) (qosFlowMap : SdapQosFlowMap) (numQosFlows : Byte) :
    SdapEntity :=
  { entity with qosFlowMap, config := { entity.config with numQosFlows } }

def sdapMapQosFlow (entity : SdapEntity) (qfi drbId : Byte) (reflectiveQos : Bool) :
    SdapEntity × Except UesimError Unit :=
  if qfi > 63 then (entity, .error .invalidParam)
  else
    match entity.qosFlowMap.replaceFirst (fun mapping => !mapping.active)
        (fun _ => { qfi, drbId, reflectiveQos, active := true }) with
    | some flows => (entity.setFlows flows (entity.config.numQosFlows + 1), .ok ())
    | none => (entity, .error .capacity)

def sdapUnmapQosFlow (entity : SdapEntity) (qfi : Byte) : SdapEntity × Except UesimError Unit :=
  match entity.qosFlowMap.replaceFirst (fun mapping => mapping.active && mapping.qfi = qfi)
      (fun mapping => { mapping with active := false }) with
  | some flows => (entity.setFlows flows (entity.config.numQosFlows - 1), .ok ())
  | none => (entity, .error .notFound)

def sdapUpdateQosMapping (entity : SdapEntity) (qfi newDrbId : Byte) :
    SdapEntity × Except UesimError Unit :=
  match entity.qosFlowMap.replaceFirst (fun mapping => mapping.active && mapping.qfi = qfi)
      (fun mapping => { mapping with drbId := newDrbId }) with
  | some flows => (entity.setFlows flows entity.config.numQosFlows, .ok ())
  | none => (entity, .error .notFound)

/-- The first active entry of the flow. -/
def SdapEntity.mapping (entity : SdapEntity) (qfi : Byte) : Option SdapQosMapping :=
  ScanTable.get SdapQosMapping.active SdapQosMapping.qfi entity.qosFlowMap.1 qfi

/-- The result is an `int8_t`: its sign is the highest bit of the bearer. -/
def sdapGetDrbForQos (entity : SdapEntity) (qfi : Byte) : Int :=
  match entity.mapping qfi with
  | some mapping => mapping.drbId.toInt
  | none => if entity.config.defaultDrbConfigured then entity.config.defaultDrbId.toInt else -1

def sdapIsReflectiveQos (entity : SdapEntity) (qfi : Byte) : Bool :=
  match entity.mapping qfi with
  | some mapping => mapping.reflectiveQos
  | none => false

/-! ### PDUs -/

structure SdapPdu where
  data : List Byte
  qfi : Byte
  isControl : Bool
  deriving DecidableEq

structure SdapSdu where
  data : List Byte
  dataLength : Nat
  qfi : Byte
  drbId : Byte
  deriving DecidableEq

/-- Whether there is memory for the copy of the payload and for the SDU. -/
structure SdapAllocation where
  sduData : Bool
  sdu : Bool

def SdapAllocation.granted : SdapAllocation := { sduData := true, sdu := true }

/-- The bit that tells data from control is zero. -/
def sdapDataHeader (qfi : Byte) (rqi : Bool) : Byte :=
  let flow : Byte := qfi &&& 0x3F
  let indication : Byte := if rqi then 1 else 0
  flow ||| indication <<< 6

def sdapBuildDataPdu (sduData : List Byte) (qfi : Byte) (rqi memory : Bool) :
    Except UesimError SdapPdu :=
  if memory then
    .ok { data := sdapDataHeader qfi rqi :: sduData, qfi, isControl := false }
  else .error .memory

/-- The flow, the reflective indication and the payload. -/
def sdapParseDataPdu (pduData : List Byte) (memory : Bool) : Except UesimError (Byte × Bool × List Byte) :=
  match pduData with
  | [] => .error .invalidParam
  | header :: sduData =>
      if sduData.length > 0 ∧ memory = false then .error .memory
      else .ok (header &&& 0x3F, header >>> 6 &&& 0x01 ≠ 0, sduData)

def sdapProcessUlSdu (entity : SdapEntity) (data : List Byte) (qfi : Byte) (memory : Bool) :
    Except UesimError SdapPdu :=
  if entity.active then
    if sdapGetDrbForQos entity qfi < 0 then .error .notFound
    else sdapBuildDataPdu data qfi (sdapIsReflectiveQos entity qfi) memory
  else .error .invalidParam

/-- What mapping the flow returns is ignored. -/
def sdapProcessDlPdu (entity : SdapEntity) (pduData : List Byte) (drbId : Byte)
    (memory : SdapAllocation) : SdapEntity × Except UesimError SdapSdu :=
  match sdapParseDataPdu pduData memory.sduData with
  | .error e => (entity, .error e)
  | .ok (qfi, rqi, sduData) =>
      if memory.sdu then
        (if rqi then (sdapMapQosFlow entity qfi drbId true).1 else entity,
          .ok { data := sduData, dataLength := pduData.length - 1, qfi, drbId })
      else (entity, .error .memory)

def sdapSendEndMarker (qfi : Byte) (memory : Bool) : Except UesimError SdapPdu :=
  if memory then .ok { data := [0x80 ||| 0x00, qfi], qfi := 0, isControl := true } else .error .memory

def sdapSendReflectiveQos (qfi drbId : Byte) (memory : Bool) : Except UesimError SdapPdu :=
  if memory then .ok { data := [0x80 ||| 0x01, qfi, drbId], qfi := 0, isControl := true }
  else .error .memory

def sdapHandleControlPdu (entity : SdapEntity) : List Byte → SdapEntity × Except UesimError Unit
  | header :: qfi :: rest =>
      if header &&& 0x0F = 0x00 then (entity, .ok ())
      else if header &&& 0x0F = 0x01 then
        match rest with
        | drbId :: _ => ((sdapMapQosFlow entity qfi drbId true).1, .ok ())
        | [] => (entity, .ok ())
      else (entity, .error .protocol)
  | _ => (entity, .error .invalidParam)

end Uesim
