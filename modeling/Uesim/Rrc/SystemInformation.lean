import Uesim.Asn1.RrcMessages

/-!
# System information

The blocks that a cell broadcasts are kept with the times at which they came. Two of them share one time. That
a block is too old is looked up in one place when the timers are updated, and in another when it is used.
-/

namespace Uesim

open Bytes BitMemory

structure RrcMib where
  sfn : BitVec 16
  subcarrierSpacing : Byte
  dmrsTypeAPosition : Byte
  pdcchConfigSib1 : Byte
  cellBarred : Byte
  intraFreqReselection : Byte
  spare : Byte

structure RrcPlmnId where
  mcc : BitVec 16
  mnc : BitVec 16
  mncLength : Byte

/-- Without the members that are always zero. -/
structure RrcSib1 where
  plmnId : RrcPlmnId
  tac : BitVec 16
  cellId : Word
  cellReserved : Bool
  siPeriodicity : BitVec 16
  siWindowLength : BitVec 16

/-- Without the members that are always zero. -/
structure RrcSib2 where
  priority : Byte
  qRxLevMin : Byte
  qQualMin : Byte
  qHyst : Byte
  tReselEutra : Byte

structure RrcNeighborCell where
  pci : BitVec 16
  earfcn : Word
  qOffset : Byte

structure RrcSib3 where
  neighbors : List RrcNeighborCell
  intraFreqEarfcn : Word
  qOffsetRange : Byte

structure RrcSiContext where
  mib : RrcMib
  sib1 : RrcSib1
  sib2 : RrcSib2
  sib3 : RrcSib3
  mibValid : Bool
  sib1Valid : Bool
  sib2Valid : Bool
  sib3Valid : Bool
  siExpiryTime : Word
  lastMibTime : Word
  lastSib1Time : Word
  lastSiTime : Word
  sfn : BitVec 16

def rrcSiInit : RrcSiContext :=
  { mib := ⟨0, 0, 0, 0, 0, 0, 0⟩
    sib1 := ⟨⟨0, 0, 0⟩, 0, 0, false, 0, 0⟩
    sib2 := ⟨0, 0, 0, 0, 0⟩
    sib3 := ⟨[], 0, 0⟩
    mibValid := false
    sib1Valid := false
    sib2Valid := false
    sib3Valid := false
    siExpiryTime := 0
    lastMibTime := 0
    lastSib1Time := 0
    lastSiTime := 0
    sfn := 0 }

def rrcSiReset (ctx : RrcSiContext) : RrcSiContext :=
  { ctx with
    mibValid := false
    sib1Valid := false
    sib2Valid := false
    sib3Valid := false
    siExpiryTime := 0 }

/-! ### MIB -/

def rrcDecodeMib (data : Memory) (len : Nat) : Except UesimError RrcMib :=
  if len < 4 then .error .invalidParam
  else
    let (bitOffset, sfn) := asn1TakeBits data 0 10
    let (bitOffset, scs) := asn1TakeBits data bitOffset 1
    let (bitOffset, dmrs) := asn1TakeBits data bitOffset 1
    let (bitOffset, pdcch) := asn1TakeBits data bitOffset 8
    let (bitOffset, barred) := asn1TakeBits data bitOffset 1
    let (bitOffset, reselection) := asn1TakeBits data bitOffset 1
    let (_, spare) := asn1TakeBits data bitOffset 12
    .ok
      { sfn := sfn.setWidth 16
        subcarrierSpacing := scs.setWidth 8
        dmrsTypeAPosition := dmrs.setWidth 8
        pdcchConfigSib1 := pdcch.setWidth 8
        cellBarred := barred.setWidth 8
        intraFreqReselection := reselection.setWidth 8
        spare := (spare >>> 4).setWidth 8 }

/-- The MIB of a barred cell is kept, and refused. -/
def rrcHandleMib (ctx : RrcSiContext) (data : Memory) (len : Nat) (now : Word) :
    RrcSiContext × Except UesimError Unit :=
  match rrcDecodeMib data len with
  | .error e => (ctx, .error e)
  | .ok mib =>
      ({ ctx with mib, mibValid := true, lastMibTime := now, sfn := mib.sfn },
        if mib.cellBarred ≠ 0 then .error .protocol else .ok ())

def rrcIsMibValid (ctx : RrcSiContext) (now : Word) : Bool :=
  ctx.mibValid && decide (now - ctx.lastMibTime < 160)

/-! ### SIB1 -/

def rrcDecodeSib1 (data : Memory) (len : Nat) : Except UesimError RrcSib1 :=
  if len < 8 then .error .invalidParam
  else
    let (bitOffset, plmn) := asn1TakeBits data 0 24
    let (bitOffset, tac) := asn1TakeBits data bitOffset 24
    let (bitOffset, _) := asn1TakeBits data bitOffset 4
    let (bitOffset, cellLow) := asn1TakeBits data bitOffset 32
    let (bitOffset, reserved) := asn1TakeBits data bitOffset 1
    let (bitOffset, periodicity) := asn1TakeBits data bitOffset 3
    let (_, window) := asn1TakeBits data bitOffset 3
    .ok
      { plmnId := { mcc := (plmn >>> 12).setWidth 16, mnc := (plmn &&& 0xFFF).setWidth 16, mncLength := 3 }
        tac := tac.setWidth 16
        -- of the 36 bits the low ones fit
        cellId := cellLow
        cellReserved := reserved != 0
        siPeriodicity := 8 <<< periodicity.toNat
        siWindowLength := 5 <<< window.toNat }

def rrcHandleSib1 (ctx : RrcSiContext) (data : Memory) (len : Nat) (now : Word) :
    RrcSiContext × Except UesimError Unit :=
  match rrcDecodeSib1 data len with
  | .error e => (ctx, .error e)
  | .ok sib1 => ({ ctx with sib1, sib1Valid := true, lastSib1Time := now }, .ok ())

def rrcIsSib1Valid (ctx : RrcSiContext) (now : Word) : Bool :=
  ctx.sib1Valid && decide (now - ctx.lastSib1Time < 600000)

/-! ### SIB2 and SIB3 -/

def rrcDecodeSib2 (data : Memory) (len : Nat) : Except UesimError RrcSib2 :=
  if len < 4 then .error .invalidParam
  else
    let (bitOffset, priority) := asn1TakeBits data 0 3
    let (bitOffset, qRxLev) := asn1TakeBits data bitOffset 6
    let (bitOffset, qQual) := asn1TakeBits data bitOffset 5
    let (bitOffset, qHyst) := asn1TakeBits data bitOffset 4
    let (_, tResel) := asn1TakeBits data bitOffset 3
    .ok
      { priority := priority.setWidth 8
        qRxLevMin := qRxLev.setWidth 8 - 70
        qQualMin := qQual.setWidth 8 - 34
        qHyst := qHyst.setWidth 8
        tReselEutra := tResel.setWidth 8 }

def rrcHandleSib2 (ctx : RrcSiContext) (data : Memory) (len : Nat) (now : Word) :
    RrcSiContext × Except UesimError Unit :=
  match rrcDecodeSib2 data len with
  | .error e => (ctx, .error e)
  | .ok sib2 => ({ ctx with sib2, sib2Valid := true, lastSiTime := now }, .ok ())

def rrcDecodeNeighbors (data : Memory) : Nat → Nat → List RrcNeighborCell
  | 0, _ => []
  | count + 1, bitOffset =>
      let (bitOffset, pci) := asn1TakeBits data bitOffset 16
      let (bitOffset, earfcn) := asn1TakeBits data bitOffset 18
      let (bitOffset, qOffset) := asn1TakeBits data bitOffset 5
      { pci := pci.setWidth 16, earfcn, qOffset := qOffset.setWidth 8 - 16 }
        :: rrcDecodeNeighbors data count bitOffset

def rrcDecodeSib3 (data : Memory) (len : Nat) : Except UesimError RrcSib3 :=
  if len < 4 then .error .invalidParam
  else
    let (bitOffset, earfcn) := asn1TakeBits data 0 18
    let (bitOffset, qOffsetRange) := asn1TakeBits data bitOffset 5
    let (bitOffset, numNeighbors) := asn1TakeBits data bitOffset 4
    .ok
      { neighbors := rrcDecodeNeighbors data (if numNeighbors > 32 then 32 else numNeighbors.toNat) bitOffset
        intraFreqEarfcn := earfcn
        qOffsetRange := qOffsetRange.setWidth 8 }

/-- The time is that of SIB2 as well. -/
def rrcHandleSib3 (ctx : RrcSiContext) (data : Memory) (len : Nat) (now : Word) :
    RrcSiContext × Except UesimError Unit :=
  match rrcDecodeSib3 data len with
  | .error e => (ctx, .error e)
  | .ok sib3 => ({ ctx with sib3, sib3Valid := true, lastSiTime := now }, .ok ())

/-! ### Timers -/

namespace RrcSiContext

def expireMib (ctx : RrcSiContext) (now : Word) : RrcSiContext :=
  if ctx.mibValid ∧ now - ctx.lastMibTime > 160 then { ctx with mibValid := false } else ctx

def expireSib1 (ctx : RrcSiContext) (now : Word) : RrcSiContext :=
  if ctx.sib1Valid ∧ now - ctx.lastSib1Time > 600000 then { ctx with sib1Valid := false } else ctx

/-- Without a SIB2 no SIB3 expires. -/
def expireSi (ctx : RrcSiContext) (now : Word) : RrcSiContext :=
  if ctx.sib2Valid ∧ now - ctx.lastSiTime > 1800000 then { ctx with sib2Valid := false, sib3Valid := false }
  else ctx

end RrcSiContext

def rrcUpdateSiTimers (ctx : RrcSiContext) (now : Word) : RrcSiContext :=
  ((ctx.expireMib now).expireSib1 now).expireSi now

def rrcIsSiValid (ctx : RrcSiContext) : Bool := ctx.mibValid && ctx.sib1Valid

end Uesim
