import Uesim.Types

/-!
# Bearers and their entities

A UE has four SRBs and up to 32 DRBs, and an RLC and a PDCP entity for each of them. A DRB is configured by
its own number, and looked up and removed by a number that counts the SRBs before it.
-/

namespace Uesim

open Bytes

def uesimMaxSrb : Nat := 4
def uesimMaxDrb : Nat := 32
def uesimMaxRlcEntities : Nat := 36
def uesimMaxPdcpEntities : Nat := 36

structure UeBearerConfig where
  active : Bool
  bearerId : Byte
  lcid : Byte
  priority : Byte
  prioritizedBitRate : BitVec 16
  bucketSizeDuration : BitVec 16

/-- Entities by bearer, with the number of those that are not `NULL`. -/
structure EntityTable (n : Nat) where
  entities : Fin n → Option Nat
  numActive : Byte

structure BearerTable (n : Nat) where
  config : Fin n → UeBearerConfig
  numActive : Byte

structure UeBearers where
  rlc : EntityTable uesimMaxRlcEntities
  pdcp : EntityTable uesimMaxPdcpEntities
  srbs : BearerTable uesimMaxSrb
  drbs : BearerTable uesimMaxDrb

abbrev UeBearersAnswer := UeBearers × Except UesimError Unit

/-- Where the configuration of a bearer is. -/
inductive BearerSlot where
  | srb (i : Fin uesimMaxSrb)
  | drb (i : Fin uesimMaxDrb)
  deriving DecidableEq

namespace EntityTable

variable {n : Nat}

def empty (n : Nat) : EntityTable n := { entities := fun _ => none, numActive := 0 }

def set (table : EntityTable n) (i : Fin n) (entity : Option Nat) : EntityTable n :=
  { entities := Function.update table.entities i entity
    numActive :=
      if entity.isSome && (table.entities i).isNone then table.numActive + 1
      else if entity.isNone && (table.entities i).isSome then table.numActive - 1
      else table.numActive }

end EntityTable

namespace BearerTable

variable {n : Nat}

def empty (n : Nat) : BearerTable n :=
  { config := fun _ =>
      { active := false
        bearerId := 0
        lcid := 0
        priority := 0
        prioritizedBitRate := 0
        bucketSizeDuration := 0 }
    numActive := 0 }

def configure (table : BearerTable n) (i : Fin n) (config : UeBearerConfig) : BearerTable n :=
  { config := Function.update table.config i { config with active := true }
    numActive :=
      if !(table.config i).active && table.numActive.toNat < n then table.numActive + 1
      else table.numActive }

def deactivate (table : BearerTable n) (i : Fin n) : BearerTable n :=
  if (table.config i).active then
    { config := Function.update table.config i { table.config i with active := false }
      numActive := if table.numActive.toNat > 0 then table.numActive - 1 else table.numActive }
  else table

end BearerTable

def UeBearers.initial : UeBearers :=
  { rlc := .empty _, pdcp := .empty _, srbs := .empty _, drbs := .empty _ }

def ueSetRlcEntity (ue : UeBearers) (bearerId : Byte) (entity : Option Nat) : UeBearersAnswer :=
  if h : bearerId.toNat < uesimMaxRlcEntities then
    ({ ue with rlc := ue.rlc.set ⟨bearerId.toNat, h⟩ entity }, .ok ())
  else (ue, .error .invalidParam)

def ueRemoveRlcEntity (ue : UeBearers) (bearerId : Byte) : UeBearersAnswer :=
  ueSetRlcEntity ue bearerId none

def ueSetPdcpEntity (ue : UeBearers) (bearerId : Byte) (entity : Option Nat) : UeBearersAnswer :=
  if h : bearerId.toNat < uesimMaxPdcpEntities then
    ({ ue with pdcp := ue.pdcp.set ⟨bearerId.toNat, h⟩ entity }, .ok ())
  else (ue, .error .invalidParam)

def ueRemovePdcpEntity (ue : UeBearers) (bearerId : Byte) : UeBearersAnswer :=
  ueSetPdcpEntity ue bearerId none

def ueConfigureSrb (ue : UeBearers) (srbId lcid priority : Byte) : UeBearersAnswer :=
  if h : srbId.toNat < uesimMaxSrb then
    let config : UeBearerConfig :=
      { active := true
        bearerId := srbId
        lcid
        priority
        prioritizedBitRate := 8
        bucketSizeDuration := 10 }
    ({ ue with srbs := ue.srbs.configure ⟨srbId.toNat, h⟩ config }, .ok ())
  else (ue, .error .invalidParam)

/-- The number that is stored is the one it was called with, from 0 on. -/
def ueConfigureDrb (ue : UeBearers) (drbId lcid priority : Byte) (pbr bsd : BitVec 16) : UeBearersAnswer :=
  if h : drbId.toNat < uesimMaxDrb then
    let config : UeBearerConfig :=
      { active := true
        bearerId := drbId
        lcid
        priority
        prioritizedBitRate := pbr
        bucketSizeDuration := bsd }
    ({ ue with drbs := ue.drbs.configure ⟨drbId.toNat, h⟩ config }, .ok ())
  else (ue, .error .invalidParam)

def ueRemoveBearer (ue : UeBearers) (bearerId : Byte) : UeBearersAnswer :=
  if h : bearerId.toNat < uesimMaxSrb then
    ({ ue with srbs := ue.srbs.deactivate ⟨bearerId.toNat, h⟩ }, .ok ())
  else
    let drbIdx := bearerId - BitVec.ofNat 8 uesimMaxSrb
    if h : drbIdx.toNat < uesimMaxDrb then
      ({ ue with drbs := ue.drbs.deactivate ⟨drbIdx.toNat, h⟩ }, .ok ())
    else (ue, .error .notFound)

def ueGetBearerConfig (bearerId : Byte) : Option BearerSlot :=
  if h : bearerId.toNat < uesimMaxSrb then some (.srb ⟨bearerId.toNat, h⟩)
  else
    let drbIdx := bearerId - BitVec.ofNat 8 uesimMaxSrb
    if h : drbIdx.toNat < uesimMaxDrb then some (.drb ⟨drbIdx.toNat, h⟩)
    else none

def UeBearers.config (ue : UeBearers) : BearerSlot → UeBearerConfig
  | .srb i => ue.srbs.config i
  | .drb i => ue.drbs.config i

end Uesim
