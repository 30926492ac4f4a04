import Uesim.Library.Runs
import Uesim.Types

/-!
# HARQ processes of the PHY

Each direction has up to sixteen processes, and a process is found by a remainder. Feedback goes to the
downlink and retransmissions go to the uplink, whatever the number was meant for, and only an acknowledgement
and an initialisation set the count of retransmissions back.
-/

namespace Uesim

open Bytes

def phyMaxHarqProc : Nat := 16

structure PhyHarqProcess where
  processId : Byte
  active : Bool
  isDownlink : Bool
  ndi : Byte
  rv : Byte
  tbSize : BitVec 32
  tbData : Option (List Byte)
  retxCount : Byte
  maxRetx : Byte

/-- The processes of one direction. -/
structure PhyHarqArray where
  procs : Fin phyMaxHarqProc → PhyHarqProcess
  num : Byte
  num_le : num.toNat ≤ phyMaxHarqProc

structure PhyStats where
  txBytes : BitVec 64
  rxBytes : BitVec 64
  txPackets : BitVec 64
  rxPackets : BitVec 64
  harqRetx : BitVec 64
  harqFailures : BitVec 64

/-- `phy_context_t` as far as the HARQ processes go. -/
structure PhyContext where
  harqDl : PhyHarqArray
  harqUl : PhyHarqArray
  stats : PhyStats

structure PhyPdu where
  data : List Byte
  length : BitVec 64
  harqId : Byte
  isDownlink : Bool

/-- The context comes from `uesim_calloc`. -/
def phyCreateContext : PhyContext :=
  let proc : PhyHarqProcess :=
    { processId := 0, active := false, isDownlink := false, ndi := 0, rv := 0, tbSize := 0, tbData := none
      retxCount := 0, maxRetx := 0 }
  let procs : PhyHarqArray := { procs := fun _ => proc, num := 0, num_le := Nat.zero_le _ }
  { harqDl := procs
    harqUl := procs
    stats :=
      { txBytes := 0, rxBytes := 0, txPackets := 0, rxPackets := 0, harqRetx := 0, harqFailures := 0 } }

namespace PhyHarqArray

/-- The process of a number. There is none if the remainder is one by zero. -/
def find (array : PhyHarqArray) (harqId : Byte) : Option (Fin phyMaxHarqProc) :=
  if h : 0 < array.num.toNat then
    some ⟨harqId.toNat % array.num.toNat, Nat.lt_of_lt_of_le (Nat.mod_lt _ h) array.num_le⟩
  else none

def set (array : PhyHarqArray) (i : Fin phyMaxHarqProc) (proc : PhyHarqProcess) : PhyHarqArray :=
  { array with procs := Function.update array.procs i proc }

def init (array : PhyHarqArray) (num : Byte) (isDownlink : Bool) : PhyHarqArray :=
  let capped : Byte := if num.toNat > phyMaxHarqProc then BitVec.ofNat 8 phyMaxHarqProc else num
  { procs := fun i =>
      if i.val < capped.toNat then
        { array.procs i with
          processId := BitVec.ofNat 8 i.val
          isDownlink
          active := false
          retxCount := 0
          maxRetx := 4
          tbData := none }
      else array.procs i
    num := capped
    num_le := by
      dsimp only [capped]
      split
      · exact Nat.le_refl _
      · rename_i hle
        exact Nat.not_lt.mp hle }

end PhyHarqArray

namespace PhyContext

def harq (ctx : PhyContext) : Bool → PhyHarqArray
  | true => ctx.harqDl
  | false => ctx.harqUl

def setHarq (ctx : PhyContext) (array : PhyHarqArray) : Bool → PhyContext
  | true => { ctx with harqDl := array }
  | false => { ctx with harqUl := array }

end PhyContext

/-- What a call returns, if it does not divide by zero. -/
abbrev PhyAnswer := Option (PhyContext × Except UesimError Unit)

def phyInitHarq (ctx : PhyContext) (numDl numUl : Byte) : PhyContext :=
  { ctx with harqDl := ctx.harqDl.init numDl true, harqUl := ctx.harqUl.init numUl false }

/-- The old block is freed before it is known whether there is memory for the new one. -/
def PhyHarqProcess.tx (proc : PhyHarqProcess) (data : List Byte) (isDownlink : Bool) : PhyHarqProcess :=
  { proc with
    tbData := some data
    tbSize := BitVec.ofNat 32 data.length
    active := true
    isDownlink
    ndi := if proc.retxCount = 0 then 1 else 0 }

def phyHarqTx (ctx : PhyContext) (harqId : Byte) (data : Option (List Byte))
    (isDownlink allocated : Bool) : PhyAnswer :=
  match data with
  | none => some (ctx, .error .invalidParam)
  | some data =>
      (ctx.harq isDownlink).find harqId |>.map fun i =>
        let proc := (ctx.harq isDownlink).procs i
        if allocated then
          let ctx := ctx.setHarq ((ctx.harq isDownlink).set i (proc.tx data isDownlink)) isDownlink
          ({ ctx with
              stats :=
                { ctx.stats with
                  txPackets := ctx.stats.txPackets + 1
                  txBytes := ctx.stats.txBytes + BitVec.ofNat 64 data.length } },
            .ok ())
        else
          (ctx.setHarq ((ctx.harq isDownlink).set i { proc with tbData := none }) isDownlink, .error .memory)

/-- `wanted` says whether there is somewhere to put the PDU, and the other two whether there is memory for
it. -/
def phyHarqRx (ctx : PhyContext) (harqId : Byte) (wanted pduAllocated dataAllocated : Bool) :
    Option (PhyContext × Except UesimError PhyPdu) :=
  if !wanted then some (ctx, .error .invalidParam)
  else
    ctx.harqDl.find harqId |>.map fun i =>
      let proc := ctx.harqDl.procs i
      match proc.active, proc.tbData with
      | true, some data =>
          if pduAllocated && dataAllocated then
            ({ ctx with
                stats :=
                  { ctx.stats with
                    rxPackets := ctx.stats.rxPackets + 1
                    rxBytes := ctx.stats.rxBytes + proc.tbSize.setWidth 64 } },
              .ok
                { data := data.take proc.tbSize.toNat
                  length := proc.tbSize.setWidth 64
                  harqId
                  isDownlink := true })
          else (ctx, .error .memory)
      | _, _ => (ctx, .error .notFound)

namespace PhyHarqProcess

def ack (proc : PhyHarqProcess) : PhyHarqProcess :=
  { proc with active := false, retxCount := 0, tbData := none }

def nack (proc : PhyHarqProcess) : PhyHarqProcess :=
  if proc.retxCount + 1 ≥ proc.maxRetx then
    { proc with retxCount := proc.retxCount + 1, active := false, tbData := none }
  else { proc with retxCount := proc.retxCount + 1 }

end PhyHarqProcess

/-- Only the downlink is looked at. -/
def phyHarqFeedback (ctx : PhyContext) (harqId : Byte) (ack : Bool) : PhyAnswer :=
  ctx.harqDl.find harqId |>.map fun i =>
    let proc := ctx.harqDl.procs i
    if ack then ({ ctx with harqDl := ctx.harqDl.set i proc.ack }, .ok ())
    else
      let failed : BitVec 64 := if proc.retxCount + 1 ≥ proc.maxRetx then 1 else 0
      ({ ctx with
          harqDl := ctx.harqDl.set i proc.nack
          stats :=
            { ctx.stats with
              harqRetx := ctx.stats.harqRetx + 1
              harqFailures := ctx.stats.harqFailures + failed } },
        .ok ())

/-- Only the uplink is looked at. -/
def phyHarqRetx (ctx : PhyContext) (harqId : Byte) : PhyAnswer :=
  ctx.harqUl.find harqId |>.map fun i =>
    let proc := ctx.harqUl.procs i
    if !proc.active || proc.tbData.isNone then (ctx, .error .notFound)
    else
      let retxCount := proc.retxCount + 1
      ({ ctx with
          harqUl := ctx.harqUl.set i { proc with retxCount, rv := if retxCount < 4 then retxCount else 3 }
          stats := { ctx.stats with harqRetx := ctx.stats.harqRetx + 1 } },
        .ok ())

def phyGetAvailableHarq (ctx : PhyContext) (isDownlink : Bool) : Byte :=
  let array := ctx.harq isDownlink
  let free (i : Fin phyMaxHarqProc) : Bool := i.val < array.num.toNat && !(array.procs i).active
  match (List.finRange phyMaxHarqProc).find? free with
  | some i => BitVec.ofNat 8 i.val
  | none => 0xFF

end Uesim
