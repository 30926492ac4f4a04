import Uesim.Library.CountedArray
import Uesim.Types

/-!
# The gNB manager

The manager keeps up to 32 gNBs in a list, and each of them up to five cells, the first of which is its
primary cell. The primary cell is a pointer into the list: when a gNB is removed, those behind it move down
with their pointers as they were.
-/

namespace Uesim

open Bytes

def gnbMaxInstances : Nat := 32
def gnbMaxCellsPerGnb : Nat := 5

structure GnbCellInfo where
  pci : BitVec 16
  cellId : BitVec 32
  tac : BitVec 16
  arfcn : BitVec 32
  scs : Byte
  bandwidthMhz : Byte
  rsrp : BitVec 32
  rsrq : BitVec 32
  sinr : BitVec 32
  deriving DecidableEq

/-- A pointer to a cell: a place of the list, and a cell there. -/
structure GnbCellPointer where
  slot : Fin gnbMaxInstances
  cell : Nat
  deriving DecidableEq

structure GnbExtendedContext where
  gnbId : BitVec 32
  cells : CountedArray GnbCellInfo gnbMaxCellsPerGnb
  primaryCell : Option GnbCellPointer

/-- The number of gNBs is the count of the list. -/
structure GnbManager where
  gnbList : CountedArray GnbExtendedContext gnbMaxInstances

abbrev GnbManagerAnswer := GnbManager × Except UesimError Unit

namespace GnbExtendedContext

/-- What `memset` leaves. -/
def zero : GnbExtendedContext :=
  { gnbId := 0
    cells :=
      .empty _
        { pci := 0
          cellId := 0
          tac := 0
          arfcn := 0
          scs := 0
          bandwidthMhz := 0
          rsrp := 0
          rsrq := 0
          sinr := 0 }
    primaryCell := none }

def findCellByPci (gnb : GnbExtendedContext) (pci : BitVec 16) : Option Nat :=
  gnb.cells.indexOf fun cell => cell.pci = pci

end GnbExtendedContext

namespace GnbManager

def gnb (manager : GnbManager) (slot : Fin gnbMaxInstances) : GnbExtendedContext :=
  manager.gnbList.cells[slot]

def setGnb (manager : GnbManager) (slot : Fin gnbMaxInstances) (gnb : GnbExtendedContext) : GnbManager :=
  { gnbList := manager.gnbList.setAt slot.val gnb }

end GnbManager

def gnbManagerCreate : GnbManager := { gnbList := .empty _ .zero }

def gnbManagerFindById (manager : GnbManager) (gnbId : BitVec 32) : Option Nat :=
  manager.gnbList.indexOf fun gnb => gnb.gnbId = gnbId

/-- Where the mutex cannot be made, the place behind the list has been written to. -/
def gnbManagerAdd (manager : GnbManager) (gnbId : BitVec 32) (mutexMade : Bool) : GnbManagerAnswer :=
  match manager.gnbList.push { GnbExtendedContext.zero with gnbId } with
  | none => (manager, .error .capacity)
  | some grown =>
      if (gnbManagerFindById manager gnbId).isSome then (manager, .error .alreadyExists)
      else if !mutexMade then ({ gnbList := { manager.gnbList with cells := grown.cells } }, .error .thread)
      else ({ gnbList := grown }, .ok ())

def gnbManagerRemove (manager : GnbManager) (gnbId : BitVec 32) : GnbManagerAnswer :=
  match gnbManagerFindById manager gnbId with
  | none => (manager, .error .notFound)
  | some found => ({ gnbList := manager.gnbList.removeAt found }, .ok ())

/-- The gNB is known by its place in the list. -/
def gnbAddCell (manager : GnbManager) (slot : Fin gnbMaxInstances) (cell : GnbCellInfo) : GnbManagerAnswer :=
  let gnb := manager.gnb slot
  match gnb.cells.push cell with
  | none => (manager, .error .capacity)
  | some cells =>
      if (gnb.findCellByPci cell.pci).isSome then (manager, .error .alreadyExists)
      else
        let primaryCell := if gnb.cells.count = 0 then some { slot, cell := 0 } else gnb.primaryCell
        (manager.setGnb slot { gnb with cells, primaryCell }, .ok ())

def gnbRemoveCell (manager : GnbManager) (slot : Fin gnbMaxInstances) (pci : BitVec 16) : GnbManagerAnswer :=
  let gnb := manager.gnb slot
  match gnb.findCellByPci pci with
  | none => (manager, .error .notFound)
  | some found =>
      let primaryCell :=
        if gnb.primaryCell = some { slot, cell := found } then
          if gnb.cells.count > 1 then some { slot, cell := 0 } else none
        else gnb.primaryCell
      (manager.setGnb slot { gnb with cells := gnb.cells.removeAt found, primaryCell }, .ok ())

def gnbUpdateMeasurements (manager : GnbManager) (slot : Fin gnbMaxInstances) (rsrp rsrq sinr : BitVec 32) :
    GnbManager :=
  match (manager.gnb slot).primaryCell with
  | none => manager
  | some primary =>
      let owner := manager.gnb primary.slot
      match owner.cells.cells[primary.cell]? with
      | none => manager
      | some cell =>
          manager.setGnb primary.slot
            { owner with cells := owner.cells.setAt primary.cell { cell with rsrp, rsrq, sinr } }

end Uesim
