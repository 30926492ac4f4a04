import Uesim.Mac.Harq
import Uesim.Mac.LchBuffer

/-!
# The MAC entity

The configuration and the state that the procedures of the MAC layer share. Statistics, grants and times are
left out.
-/

namespace Uesim

open Bytes

/-- `max` is the number of channels. -/
inductive MacLogicalChannel where
  | bcch
  | pcch
  | ccch
  | dcch
  | dtch
  | max
  deriving DecidableEq

structure MacLchInfo where
  lchId : MacLogicalChannel
  priority : Byte
  servedBytes : Word
  queuedBytes : Word

inductive MacRachState where
  | idle
  | active
  | success
  | failed
  deriving DecidableEq

/-- The target power is a signed number, and the step is in tenths. -/
structure MacRachConfig where
  preambleTransMax : Byte
  powerRampingStep : BitVec 16
  raContentionResolutionTimer : BitVec 16
  preambleInitialRxTargetPower : BitVec 16

structure MacSrConfig where
  srId : Byte
  srTransMax : Byte
  srCounter : Byte
  pucchResource : Byte
  period : BitVec 16
  srPending : Bool
  srProhibited : Bool

/-- The channels are those below `num_lch_configured`. -/
structure MacConfig where
  cRnti : BitVec 16
  rachConfig : MacRachConfig
  srConfig : MacSrConfig
  lchConfig : List MacLchInfo

structure MacTb where
  data : List Byte
  tbId : BitVec 16
  harqProcessId : Byte
  rnti : BitVec 16
  deriving DecidableEq

structure MacEntity where
  config : MacConfig
  ulHarq : Fin 16 → MacHarqProcess
  lchBuffers : MacLogicalChannel → SoundMacLchBuffer
  tbQueue : List MacTb
  tbCounter : Word
  active : Bool
  rachState : MacRachState
  rachPreambleIndex : Byte
  rachAttempt : Byte
  rachPower : BitVec 16
  rachBackoff : BitVec 16
  rachContentionTimer : BitVec 16
  timingAdvance : Word
  rachUlGrant : Word

def macSetDefaultConfig : MacConfig :=
  { cRnti := 0x1234
    rachConfig :=
      { preambleTransMax := 7
        powerRampingStep := 100
        raContentionResolutionTimer := 64
        preambleInitialRxTargetPower := 0 }
    srConfig :=
      { srId := 1
        srTransMax := 20
        srCounter := 0
        pucchResource := 0
        period := 0
        srPending := false
        srProhibited := false }
    lchConfig := [] }

/-- An entity for which there is memory. -/
def macCreateEntity (config : Option MacConfig) : MacEntity :=
  { config := config.getD macSetDefaultConfig
    ulHarq := fun i => macHarqInitProcess (BitVec.ofNat 8 i)
    lchBuffers := fun _ => .init 65536
    tbQueue := []
    tbCounter := 0
    active := false
    rachState := .idle
    rachPreambleIndex := 0
    rachAttempt := 0
    rachPower := 0
    rachBackoff := 0
    rachContentionTimer := 0
    timingAdvance := 0
    rachUlGrant := 0 }

def macActivateEntity (entity : MacEntity) : MacEntity := { entity with active := true }

def MacEntity.updateSr (entity : MacEntity) (f : MacSrConfig → MacSrConfig) : MacEntity :=
  { entity with config := { entity.config with srConfig := f entity.config.srConfig } }

def macTriggerSchedulingRequest (entity : MacEntity) : MacEntity × Except UesimError Unit :=
  if entity.active then (entity.updateSr fun sr => { sr with srPending := true }, .ok ())
  else (entity, .error .invalidParam)

end Uesim
