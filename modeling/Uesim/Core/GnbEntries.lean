import Uesim.Core.GnbManager
import Uesim.Library.Runs

/-!
# The entries of the gNB manager do not alias

As long as no gNB with cells moves down in the list, each primary cell is the first cell of its own entry.
Behind a gNB that is removed the pointers stay, and lead to the entries of others.
-/

namespace Uesim

open Bytes

inductive GnbManagerOp where
  | add (gnbId : BitVec 32) (mutexMade : Bool)
  | remove (gnbId : BitVec 32)
  | addCell (slot : Fin gnbMaxInstances) (cell : GnbCellInfo)
  | removeCell (slot : Fin gnbMaxInstances) (pci : BitVec 16)
  | updateMeasurements (slot : Fin gnbMaxInstances) (rsrp rsrq sinr : BitVec 32)

def gnbManagerStep (manager : GnbManager) : GnbManagerOp → GnbManager
  | .add gnbId mutexMade => (gnbManagerAdd manager gnbId mutexMade).1
  | .remove gnbId => (gnbManagerRemove manager gnbId).1
  | .addCell slot cell => (gnbAddCell manager slot cell).1
  | .removeCell slot pci => (gnbRemoveCell manager slot pci).1
  | .updateMeasurements slot rsrp rsrq sinr => gnbUpdateMeasurements manager slot rsrp rsrq sinr

/-- The primary cell is the first one of the entry in this place. -/
def GnbExtendedContext.PrimaryFirst (gnb : GnbExtendedContext) (slot : Fin gnbMaxInstances) : Prop :=
  gnb.primaryCell = if gnb.cells.count = 0 then none else some { slot, cell := 0 }

namespace GnbManager

/-- The gNBs are those of the list, not what is left behind it. -/
def Lists (manager : GnbManager) (slot : Fin gnbMaxInstances) : Prop := slot.val < manager.gnbList.count

def primaryPci (manager : GnbManager) (slot : Fin gnbMaxInstances) : Option (BitVec 16) :=
  (manager.gnb slot).primaryCell.bind fun primary =>
    ((manager.gnb primary.slot).cells.cells[primary.cell]?).map GnbCellInfo.pci

/-- No entry points into another one. -/
structure Separate (manager : GnbManager) : Prop where
  distinct : (manager.gnbList.toList.map GnbExtendedContext.gnbId).Nodup
  null_iff : ∀ slot, manager.Lists slot →
    ((manager.gnb slot).primaryCell = none ↔ (manager.gnb slot).cells.count = 0)
  own : ∀ slot, manager.Lists slot → ∀ primary, (manager.gnb slot).primaryCell = some primary →
    primary.slot = slot ∧ primary.cell < (manager.gnb slot).cells.count
  removal : ∀ slot, manager.Lists slot → ∀ pci found, (manager.gnb slot).findCellByPci pci = some found →
    (manager.gnb slot).primaryCell ≠ some { slot, cell := found } →
    (gnbRemoveCell manager slot pci).1.primaryPci slot = manager.primaryPci slot
  update : ∀ slot, manager.Lists slot → ∀ rsrp rsrq sinr other, manager.Lists other → other ≠ slot →
    ((gnbUpdateMeasurements manager slot rsrp rsrq sinr).gnb other).cells = (manager.gnb other).cells

/-- This is kept for what is left behind the list as well. -/
structure Sound (manager : GnbManager) : Prop where
  distinct : (manager.gnbList.toList.map GnbExtendedContext.gnbId).Nodup
  primary : ∀ slot, (manager.gnb slot).PrimaryFirst slot

/-- No gNB with cells is behind one that is removed. -/
def Safe (manager : GnbManager) : GnbManagerOp → Prop
  | .remove gnbId => ∀ found, gnbManagerFindById manager gnbId = some found →
      ∀ slot, manager.Lists slot → found < slot.val → (manager.gnb slot).cells.count = 0
  | _ => True

variable {manager : GnbManager} {slot other : Fin gnbMaxInstances} {entry : GnbExtendedContext}

@[simp]
theorem gnb_setGnb_self (manager : GnbManager) (slot : Fin gnbMaxInstances) (entry : GnbExtendedContext) :
    (manager.setGnb slot entry).gnb slot = entry :=
  Vector.getElem_setIfInBounds_self slot.isLt

theorem gnb_setGnb_of_ne (manager : GnbManager) (h : other ≠ slot) (entry : GnbExtendedContext) :
    (manager.setGnb slot entry).gnb other = manager.gnb other :=
  Vector.getElem_setIfInBounds_ne other.isLt fun heq => h (Fin.ext heq.symm)

theorem gnbIds_setGnb (h : entry.gnbId = (manager.gnb slot).gnbId) :
    (manager.setGnb slot entry).gnbList.toList.map GnbExtendedContext.gnbId
      = manager.gnbList.toList.map GnbExtendedContext.gnbId := by
  unfold setGnb
  dsimp only
  rw [CountedArray.toList_setAt, List.map_set, h]
  by_cases hlt : slot.val < manager.gnbList.toList.length
  · have hid : (manager.gnbList.toList.map GnbExtendedContext.gnbId).get
        ⟨slot.val, by rwa [List.length_map]⟩ = (manager.gnb slot).gnbId := by
      rw [List.get_eq_getElem]
      rw [List.getElem_map, CountedArray.getElem_toList _ hlt slot.isLt]
      rfl
    rw [← hid, List.get_eq_getElem, List.set_getElem_self]
  · refine List.set_eq_of_length_le ?_
    rw [List.length_map]
    exact Nat.le_of_not_lt hlt

namespace Sound

theorem primaryCell_eq (h : manager.Sound) (slot : Fin gnbMaxInstances) :
    (manager.gnb slot).primaryCell
      = if (manager.gnb slot).cells.count = 0 then none else some { slot, cell := 0 } := h.primary slot

theorem null_iff (h : manager.Sound) (slot : Fin gnbMaxInstances) :
    (manager.gnb slot).primaryCell = none ↔ (manager.gnb slot).cells.count = 0 := by
  rw [h.primaryCell_eq]
  split
  · rename_i hcount
    exact iff_of_true rfl hcount
  · rename_i hcount
    exact iff_of_false (Option.some_ne_none _) hcount

theorem eq_of_primary (h : manager.Sound) {primary : GnbCellPointer}
    (hprimary : (manager.gnb slot).primaryCell = some primary) :
    primary = { slot, cell := 0 } ∧ 0 < (manager.gnb slot).cells.count := by
  rw [h.primaryCell_eq] at hprimary
  split at hprimary
  · cases hprimary
  · rename_i hcount
    exact ⟨(Option.some.inj hprimary).symm, Nat.pos_of_ne_zero hcount⟩

theorem lt_count_of_find {pci : BitVec 16} {found : Nat} (hfound : entry.findCellByPci pci = some found) :
    found < entry.cells.count := by
  obtain ⟨hlt, -, -⟩ := List.findIdx?_eq_some_iff_getElem.mp hfound
  rwa [CountedArray.length_toList] at hlt

/-- Where a cell behind the first one is taken out, the first one stays. -/
theorem getElem_removeAt_zero (cells : CountedArray GnbCellInfo gnbMaxCellsPerGnb) {found : Nat}
    (hpos : 0 < found) (hlt : found < cells.count) : (cells.removeAt found).cells[0]? = cells.cells[0]? := by
  have hle := cells.count_le
  unfold gnbMaxCellsPerGnb at hle
  have hzero := CountedArray.getElem_shiftDown cells.cells found (cells.count - 1 - found)
    (k := 0) (by decide) (by unfold gnbMaxCellsPerGnb; omega)
  rw [dif_neg (by omega)] at hzero
  rw [Vector.getElem?_eq_getElem (by decide), Vector.getElem?_eq_getElem (by decide)]
  exact congrArg some hzero

theorem primaryPci_removeCell (h : manager.Sound) {pci : BitVec 16} {found : Nat}
    (hfound : (manager.gnb slot).findCellByPci pci = some found)
    (hother : (manager.gnb slot).primaryCell ≠ some { slot, cell := found }) :
    (gnbRemoveCell manager slot pci).1.primaryPci slot = manager.primaryPci slot := by
  have hlt := lt_count_of_find hfound
  have hprimary : (manager.gnb slot).primaryCell = some { slot, cell := 0 } := by
    rw [h.primaryCell_eq, if_neg (by omega)]
  have hpos : 0 < found := by
    refine Nat.pos_of_ne_zero fun hzero => hother ?_
    rw [hprimary, hzero]
  unfold gnbRemoveCell
  dsimp only
  rw [hfound]
  dsimp only
  rw [if_neg hother]
  unfold primaryPci
  rw [gnb_setGnb_self]
  dsimp only
  rw [hprimary, Option.bind_some, Option.bind_some, gnb_setGnb_self]
  dsimp only
  rw [getElem_removeAt_zero _ hpos hlt]

theorem cells_updateMeasurements (h : manager.Sound) (rsrp rsrq sinr : BitVec 32) (hne : other ≠ slot) :
    (gnbUpdateMeasurements manager slot rsrp rsrq sinr).gnb other = manager.gnb other := by
  unfold gnbUpdateMeasurements
  cases hprimary : (manager.gnb slot).primaryCell with
  | none => rfl
  | some primary =>
      obtain ⟨rfl, -⟩ := h.eq_of_primary hprimary
      dsimp only
      split
      · rfl
      · exact gnb_setGnb_of_ne manager hne _

theorem separate (h : manager.Sound) : manager.Separate :=
  { distinct := h.distinct
    null_iff := fun slot _ => h.null_iff slot
    own := by
      intro slot _ primary hprimary
      obtain ⟨rfl, hpos⟩ := h.eq_of_primary hprimary
      exact ⟨rfl, hpos⟩
    removal := fun _ _ _ _ hfound hother => h.primaryPci_removeCell hfound hother
    update := fun _ _ rsrp rsrq sinr _ _ hne =>
      congrArg GnbExtendedContext.cells (h.cells_updateMeasurements rsrp rsrq sinr hne) }

/-! ### Single operations -/

/-- One entry changes, and its primary cell is its first one. -/
theorem setGnb (h : manager.Sound) (hid : entry.gnbId = (manager.gnb slot).gnbId)
    (hprimary : entry.PrimaryFirst slot) :
    (manager.setGnb slot entry).Sound :=
  { distinct := by
      rw [gnbIds_setGnb hid]
      exact h.distinct
    primary := by
      intro other
      by_cases heq : other = slot
      · subst heq
        rw [gnb_setGnb_self]
        exact hprimary
      · rw [gnb_setGnb_of_ne manager heq]
        exact h.primary other }

theorem count_push {array array' : CountedArray GnbCellInfo gnbMaxCellsPerGnb} {cell : GnbCellInfo}
    (h : array.push cell = some array') : array'.count = array.count + 1 := by
  rw [← CountedArray.length_toList, CountedArray.toList_push h, List.length_append,
    CountedArray.length_toList]
  rfl

theorem addCell (h : manager.Sound) (slot : Fin gnbMaxInstances) (cell : GnbCellInfo) :
    (gnbAddCell manager slot cell).1.Sound := by
  unfold gnbAddCell
  dsimp only
  split
  · exact h
  · rename_i cells hpush
    split
    · exact h
    · refine h.setGnb rfl ?_
      unfold GnbExtendedContext.PrimaryFirst
      rw [count_push hpush, if_neg (Nat.succ_ne_zero _)]
      split
      · rfl
      · rename_i hcount
        rw [h.primaryCell_eq, if_neg hcount]

theorem removeCell (h : manager.Sound) (slot : Fin gnbMaxInstances) (pci : BitVec 16) :
    (gnbRemoveCell manager slot pci).1.Sound := by
  unfold gnbRemoveCell
  dsimp only
  cases hfound : (manager.gnb slot).findCellByPci pci with
  | none => exact h
  | some found =>
      refine h.setGnb rfl ?_
      have hlt := lt_count_of_find hfound
      have hprimary : (manager.gnb slot).primaryCell = some { slot, cell := 0 } := by
        rw [h.primaryCell_eq, if_neg (by omega)]
      change _ = if (manager.gnb slot).cells.count - 1 = 0 then none else _
      rw [hprimary]
      by_cases hzero : found = 0
      · rw [hzero, if_pos rfl]
        by_cases hone : (manager.gnb slot).cells.count > 1
        · rw [if_pos hone, if_neg (by omega)]
        · rw [if_neg hone, if_pos (by omega)]
      · have hne : (some { slot, cell := 0 } : Option GnbCellPointer) ≠ some { slot, cell := found } := by
          intro heq
          exact hzero (congrArg GnbCellPointer.cell (Option.some.inj heq)).symm
        rw [if_neg hne, if_neg (by omega)]

theorem updateMeasurements (h : manager.Sound) (slot : Fin gnbMaxInstances) (rsrp rsrq sinr : BitVec 32) :
    (gnbUpdateMeasurements manager slot rsrp rsrq sinr).Sound := by
  unfold gnbUpdateMeasurements
  cases hprimary : (manager.gnb slot).primaryCell with
  | none => exact h
  | some primary =>
      obtain ⟨rfl, -⟩ := h.eq_of_primary hprimary
      dsimp only
      split
      · exact h
      · exact h.setGnb rfl (h.primary slot)

/-- The place behind the list is empty, and nothing else has changed. -/
theorem primary_push (h : manager.Sound) {gnbId : BitVec 32}
    {grown : CountedArray GnbExtendedContext gnbMaxInstances}
    (hpush : manager.gnbList.push { GnbExtendedContext.zero with gnbId } = some grown)
    (slot : Fin gnbMaxInstances) : (grown.cells.get slot).PrimaryFirst slot := by
  unfold CountedArray.push at hpush
  split at hpush
  · rename_i hroom
    rw [← Option.some.inj hpush]
    change ((manager.gnbList.cells.set manager.gnbList.count _ hroom)[slot.val]).PrimaryFirst slot
    rw [Vector.getElem_set]
    split
    · rfl
    · exact h.primary slot
  · cases hpush

theorem toList_of_push {array grown : CountedArray GnbExtendedContext gnbMaxInstances}
    (hpush : array.push entry = some grown) :
    ({ array with cells := grown.cells } : CountedArray GnbExtendedContext gnbMaxInstances).toList
      = array.toList := by
  unfold CountedArray.push at hpush
  split at hpush
  · rw [← Option.some.inj hpush]
    unfold CountedArray.toList
    dsimp only
    rw [Vector.toList_set, List.take_set_of_le (Nat.le_refl _)]
  · cases hpush

theorem add (h : manager.Sound) (gnbId : BitVec 32) (mutexMade : Bool) :
    (gnbManagerAdd manager gnbId mutexMade).1.Sound := by
  unfold gnbManagerAdd
  split
  · exact h
  · rename_i grown hpush
    split
    · exact h
    · rename_i hnew
      split
      · refine { distinct := ?_, primary := fun slot => h.primary_push hpush slot }
        dsimp only
        rw [toList_of_push hpush]
        exact h.distinct
      · refine { distinct := ?_, primary := fun slot => h.primary_push hpush slot }
        dsimp only
        rw [CountedArray.toList_push hpush, List.map_append, List.map_singleton]
        refine List.nodup_append'.mpr ⟨h.distinct, List.nodup_singleton _, ?_⟩
        rw [List.disjoint_singleton, List.mem_map]
        rintro ⟨other, hmem, hid⟩
        have hnone : gnbManagerFindById manager gnbId = none := Option.not_isSome_iff_eq_none.mp hnew
        have hother := CountedArray.indexOf_eq_none_iff.mp hnone other hmem
        exact of_decide_eq_false hother hid

theorem gnb_removeAt {found : Nat} (hlt : found < manager.gnbList.count) (slot : Fin gnbMaxInstances) :
    ({ gnbList := manager.gnbList.removeAt found } : GnbManager).gnb slot
      = if h : found ≤ slot.val ∧ slot.val + 1 < manager.gnbList.count then
          manager.gnb ⟨slot.val + 1, Nat.lt_of_lt_of_le h.2 manager.gnbList.count_le⟩
        else manager.gnb slot := by
  have hle := manager.gnbList.count_le
  have hshift := CountedArray.getElem_shiftDown manager.gnbList.cells found
    (manager.gnbList.count - 1 - found) slot.isLt (by omega)
  refine hshift.trans ?_
  by_cases hmoved : found ≤ slot.val ∧ slot.val + 1 < manager.gnbList.count
  · rw [dif_pos hmoved, dif_pos (by omega)]
    rfl
  · rw [dif_neg hmoved, dif_neg (by omega)]
    rfl

theorem remove (h : manager.Sound) {gnbId : BitVec 32} (hsafe : manager.Safe (.remove gnbId)) :
    (gnbManagerRemove manager gnbId).1.Sound := by
  unfold gnbManagerRemove
  cases hfound : gnbManagerFindById manager gnbId with
  | none => exact h
  | some found =>
      obtain ⟨hlt, -, -⟩ := List.findIdx?_eq_some_iff_getElem.mp hfound
      rw [CountedArray.length_toList] at hlt
      dsimp only
      refine { distinct := ?_, primary := ?_ }
      · dsimp only
        rw [CountedArray.toList_removeAt _ hlt]
        exact h.distinct.sublist ((List.eraseIdx_sublist _ _).map _)
      · intro slot
        rw [gnb_removeAt hlt]
        split
        · rename_i hmoved
          have hcount := hsafe found hfound
            ⟨slot.val + 1, Nat.lt_of_lt_of_le hmoved.2 manager.gnbList.count_le⟩ hmoved.2
            (Nat.lt_succ_of_le hmoved.1)
          unfold GnbExtendedContext.PrimaryFirst
          rw [h.primaryCell_eq, if_pos hcount, if_pos hcount]
        · exact h.primary slot

/-! ### Runs -/

theorem step (h : manager.Sound) {op : GnbManagerOp} (hsafe : manager.Safe op) :
    (gnbManagerStep manager op).Sound := by
  cases op with
  | add gnbId mutexMade => exact h.add gnbId mutexMade
  | remove gnbId => exact h.remove hsafe
  | addCell slot cell => exact h.addCell slot cell
  | removeCell slot pci => exact h.removeCell slot pci
  | updateMeasurements slot rsrp rsrq sinr => exact h.updateMeasurements slot rsrp rsrq sinr

/-- A gNB with cells that moves down still points to where it was. -/
theorem safe_of_separate (h : manager.Sound) {op : GnbManagerOp}
    (hafter : (gnbManagerStep manager op).Separate) : manager.Safe op := by
  cases op with
  | remove gnbId =>
      intro found hfound slot hlists hbehind
      obtain ⟨hlt, -, -⟩ := List.findIdx?_eq_some_iff_getElem.mp hfound
      rw [CountedArray.length_toList] at hlt
      by_contra hcount
      have hslot := slot.isLt
      have hpred : slot.val - 1 < gnbMaxInstances := by omega
      have hremove : gnbManagerStep manager (.remove gnbId)
          = { gnbList := manager.gnbList.removeAt found } := by
        rw [gnbManagerStep, gnbManagerRemove, hfound]
      have hmoved : (gnbManagerStep manager (.remove gnbId)).gnb ⟨slot.val - 1, hpred⟩
          = manager.gnb slot := by
        unfold Lists at hlists
        have hmoves : found ≤ slot.val - 1 ∧ slot.val - 1 + 1 < manager.gnbList.count := by omega
        rw [hremove, gnb_removeAt hlt, dif_pos hmoves]
        congr 1
        exact Fin.ext (Nat.sub_add_cancel (Nat.one_le_of_lt hbehind))
      have hlists' : (gnbManagerStep manager (.remove gnbId)).Lists ⟨slot.val - 1, hpred⟩ := by
        rw [hremove]
        unfold Lists at hlists ⊢
        change slot.val - 1 < manager.gnbList.count - 1
        omega
      have hprimary : (manager.gnb slot).primaryCell = some { slot, cell := 0 } := by
        rw [h.primaryCell_eq, if_neg hcount]
      rw [← hmoved] at hprimary
      have hown := congrArg Fin.val (hafter.own _ hlists' _ hprimary).1
      dsimp only at hown
      omega
  | _ => trivial

end Sound

theorem create_sound : gnbManagerCreate.Sound :=
  { distinct := List.nodup_nil
    primary := by
      intro slot
      have hzero : gnbManagerCreate.gnb slot = GnbExtendedContext.zero := by
        unfold gnb gnbManagerCreate CountedArray.empty
        exact Vector.getElem_replicate slot.isLt
      rw [hzero]
      rfl }

end GnbManager

/-- **The entries do not alias in exactly the runs that remove no gNB with cells behind it.** -/
theorem gnbManagerRun_separate_iff (ops : List GnbManagerOp) :
    Runs.Throughout gnbManagerStep GnbManager.Separate gnbManagerCreate ops
      ↔ Runs.Always gnbManagerStep GnbManager.Safe gnbManagerCreate ops :=
  @Runs.throughout_iff _ _ gnbManagerStep GnbManager.Sound GnbManager.Safe GnbManager.Separate
    (fun _ h => h.separate) (fun _ _ h => ⟨h.safe_of_separate, fun hsafe => (h.step hsafe).separate⟩)
    (fun _ _ h hsafe => h.step hsafe) _ GnbManager.create_sound ops

/-- The second of two gNBs has a cell when the first one is removed. -/
theorem gnbManagerRun_not_separate :
    ¬Runs.Throughout gnbManagerStep GnbManager.Separate gnbManagerCreate
      [.add 1 true, .add 2 true,
        .addCell ⟨1, by decide⟩ { GnbExtendedContext.zero.cells.cells[0] with pci := 7 }, .remove 1] := by
  rintro ⟨-, -, -, -, h⟩
  have hown := h.own ⟨0, by decide⟩ (by unfold GnbManager.Lists; decide)
    { slot := ⟨1, by decide⟩, cell := 0 } (by decide)
  cases hown.1

end Uesim
