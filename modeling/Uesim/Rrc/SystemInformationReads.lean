import Uesim.Asn1.RrcReads
import Uesim.Rrc.SystemInformation

/-!
# What the decoders of system information find

A block is refused when it is shorter than a constant. The constant covers all that is read of SIB2; of an MIB
and of SIB1 the last fields lie behind it, and how many neighbors SIB3 lists is found in the block itself. A
member of a block holds the integer that its field spells when it is as wide as the field, which the members
for the spare bits, the tracking area and the cell identity are not.
-/

namespace Uesim

open Bytes BitMemory

/-! ### The decoders as programs -/

def rrcReadMib (len : Nat) : Reading (Except UesimError RrcMib) := do
  if len < 4 then pure (.error .invalidParam)
  else
    let (bitOffset, sfn) ← asn1ReadBits 0 10
    let (bitOffset, scs) ← asn1ReadBits bitOffset 1
    let (bitOffset, dmrs) ← asn1ReadBits bitOffset 1
    let (bitOffset, pdcch) ← asn1ReadBits bitOffset 8
    let (bitOffset, barred) ← asn1ReadBits bitOffset 1
    let (bitOffset, reselection) ← asn1ReadBits bitOffset 1
    let (_, spare) ← asn1ReadBits bitOffset 12
    pure (.ok
      { sfn := sfn.setWidth 16
        subcarrierSpacing := scs.setWidth 8
        dmrsTypeAPosition := dmrs.setWidth 8
        pdcchConfigSib1 := pdcch.setWidth 8
        cellBarred := barred.setWidth 8
        intraFreqReselection := reselection.setWidth 8
        spare := (spare >>> 4).setWidth 8 })

def rrcReadSib1 (len : Nat) : Reading (Except UesimError RrcSib1) := do
  if len < 8 then pure (.error .invalidParam)
  else
    let (bitOffset, plmn) ← asn1ReadBits 0 24
    let (bitOffset, tac) ← asn1ReadBits bitOffset 24
    let (bitOffset, _) ← asn1ReadBits bitOffset 4
    let (bitOffset, cellLow) ← asn1ReadBits bitOffset 32
    let (bitOffset, reserved) ← asn1ReadBits bitOffset 1
    let (bitOffset, periodicity) ← asn1ReadBits bitOffset 3
    let (_, window) ← asn1ReadBits bitOffset 3
    pure (.ok
      { plmnId := { mcc := (plmn >>> 12).setWidth 16, mnc := (plmn &&& 0xFFF).setWidth 16, mncLength := 3 }
        tac := tac.setWidth 16
        cellId := cellLow
        cellReserved := reserved != 0
        siPeriodicity := 8 <<< periodicity.toNat
        siWindowLength := 5 <<< window.toNat })

def rrcReadSib2 (len : Nat) : Reading (Except UesimError RrcSib2) := do
  if len < 4 then pure (.error .invalidParam)
  else
    let (bitOffset, priority) ← asn1ReadBits 0 3
    let (bitOffset, qRxLev) ← asn1ReadBits bitOffset 6
    let (bitOffset, qQual) ← asn1ReadBits bitOffset 5
    let (bitOffset, qHyst) ← asn1ReadBits bitOffset 4
    let (_, tResel) ← asn1ReadBits bitOffset 3
    pure (.ok
      { priority := priority.setWidth 8
        qRxLevMin := qRxLev.setWidth 8 - 70
        qQualMin := qQual.setWidth 8 - 34
        qHyst := qHyst.setWidth 8
        tReselEutra := tResel.setWidth 8 })

def rrcReadNeighbors : Nat → Nat → Reading (List RrcNeighborCell)
  | 0, _ => pure []
  | count + 1, bitOffset => do
      let (bitOffset, pci) ← asn1ReadBits bitOffset 16
      let (bitOffset, earfcn) ← asn1ReadBits bitOffset 18
      let (bitOffset, qOffset) ← asn1ReadBits bitOffset 5
      let rest ← rrcReadNeighbors count bitOffset
      pure ({ pci := pci.setWidth 16, earfcn, qOffset := qOffset.setWidth 8 - 16 } :: rest)

def rrcReadSib3 (len : Nat) : Reading (Except UesimError RrcSib3) := do
  if len < 4 then pure (.error .invalidParam)
  else
    let (bitOffset, earfcn) ← asn1ReadBits 0 18
    let (bitOffset, qOffsetRange) ← asn1ReadBits bitOffset 5
    let (bitOffset, numNeighbors) ← asn1ReadBits bitOffset 4
    let neighbors ← rrcReadNeighbors (if numNeighbors > 32 then 32 else numNeighbors.toNat) bitOffset
    pure (.ok { neighbors, intraFreqEarfcn := earfcn, qOffsetRange := qOffsetRange.setWidth 8 })

section Refine

variable (data : Memory) (len : Nat)

theorem run_rrcReadMib : (rrcReadMib len).run data = rrcDecodeMib data len := by
  rw [rrcReadMib, rrcDecodeMib]
  split
  · rfl
  · simp only [Reading.run_bind, Reading.run_pure, run_asn1ReadBits]

theorem run_rrcReadSib1 : (rrcReadSib1 len).run data = rrcDecodeSib1 data len := by
  rw [rrcReadSib1, rrcDecodeSib1]
  split
  · rfl
  · simp only [Reading.run_bind, Reading.run_pure, run_asn1ReadBits]

theorem run_rrcReadSib2 : (rrcReadSib2 len).run data = rrcDecodeSib2 data len := by
  rw [rrcReadSib2, rrcDecodeSib2]
  split
  · rfl
  · simp only [Reading.run_bind, Reading.run_pure, run_asn1ReadBits]

theorem run_rrcReadNeighbors (count bitOffset : Nat) :
    (rrcReadNeighbors count bitOffset).run data = rrcDecodeNeighbors data count bitOffset := by
  induction count generalizing bitOffset with
  | zero => rfl
  | succ count ih =>
      simp only [rrcReadNeighbors, rrcDecodeNeighbors, Reading.run_bind, Reading.run_pure,
        run_asn1ReadBits, ih]

theorem run_rrcReadSib3 : (rrcReadSib3 len).run data = rrcDecodeSib3 data len := by
  rw [rrcReadSib3, rrcDecodeSib3]
  split
  · rfl
  · simp only [Reading.run_bind, Reading.run_pure, run_asn1ReadBits, run_rrcReadNeighbors]

end Refine

/-! ### What is found in a block -/

structure RrcMib.FoundIn (mib : RrcMib) (data : Memory) : Prop where
  sfn : mib.sfn.toNat = integerAt data 0 10
  subcarrierSpacing : mib.subcarrierSpacing.toNat = integerAt data 10 1
  dmrsTypeAPosition : mib.dmrsTypeAPosition.toNat = integerAt data 11 1
  pdcchConfigSib1 : mib.pdcchConfigSib1.toNat = integerAt data 12 8
  cellBarred : mib.cellBarred.toNat = integerAt data 20 1
  intraFreqReselection : mib.intraFreqReselection.toNat = integerAt data 21 1
  spare : mib.spare.toNat = integerAt data 22 12

/-- The periodicity is eight radio frames, doubled so many times, and the window five milliseconds. -/
structure RrcSib1.FoundIn (sib1 : RrcSib1) (data : Memory) : Prop where
  mcc : sib1.plmnId.mcc.toNat = integerAt data 0 12
  mnc : sib1.plmnId.mnc.toNat = integerAt data 12 12
  tac : sib1.tac.toNat = integerAt data 24 24
  cellId : sib1.cellId.toNat = integerAt data 48 36
  cellReserved : sib1.cellReserved.toNat = integerAt data 84 1
  siPeriodicity : sib1.siPeriodicity.toNat = 8 * 2 ^ integerAt data 85 3
  siWindowLength : sib1.siWindowLength.toNat = 5 * 2 ^ integerAt data 88 3

structure RrcSib2.FoundIn (sib2 : RrcSib2) (data : Memory) : Prop where
  priority : sib2.priority.toNat = integerAt data 0 3
  qRxLevMin : sib2.qRxLevMin.toInt = integerAt data 3 6 - 70
  qQualMin : sib2.qQualMin.toInt = integerAt data 9 5 - 34
  qHyst : sib2.qHyst.toNat = integerAt data 14 4
  tReselEutra : sib2.tReselEutra.toNat = integerAt data 18 3

structure RrcNeighborCell.FoundAt (cell : RrcNeighborCell) (data : Memory) (pos : Nat) : Prop where
  pci : cell.pci.toNat = integerAt data pos 16
  earfcn : cell.earfcn.toNat = integerAt data (pos + 16) 18
  qOffset : cell.qOffset.toInt = integerAt data (pos + 34) 5 - 16

structure RrcSib3.FoundIn (sib3 : RrcSib3) (data : Memory) : Prop where
  intraFreqEarfcn : sib3.intraFreqEarfcn.toNat = integerAt data 0 18
  qOffsetRange : sib3.qOffsetRange.toNat = integerAt data 18 5
  count : sib3.neighbors.length = integerAt data 23 4
  neighbors : ∀ i (cell : RrcNeighborCell), sib3.neighbors[i]? = some cell → cell.FoundAt data (27 + 39 * i)

/-- A block is refused, or nothing behind it is read; and what is returned is found in it. -/
def RrcSiExact {μ : Type} (found : μ → Memory → Prop) (decode : Memory → Nat → Except UesimError μ)
    (read : Nat → Reading (Except UesimError μ)) (data : Memory) (len : Nat) : Prop :=
  RejectsOrStays (read len) data len ∧ ∀ si, decode data len = .ok si → found si data

section Exact

variable (data : Memory) (len : Nat)

theorem rrcSiExact_iff {μ : Type} {found : μ → Memory → Prop} {decode : Memory → Nat → Except UesimError μ}
    {read : Nat → Reading (Except UesimError μ)} {minLen : Nat} {fields : Reading (Except UesimError μ)}
    {si : μ} (hrun : (read len).run data = decode data len)
    (hread : read len = if len < minLen then pure (.error .invalidParam) else fields)
    (hok : fields.run data = .ok si) :
    RrcSiExact found decode read data len ↔ len < minLen ∨ fields.Within data len ∧ found si data := by
  rw [RrcSiExact, ← hrun, hread, rejectsOrStays_ite_iff data hok]
  by_cases hshort : len < minLen
  · refine iff_of_true ⟨fun hlong => absurd hlong (Nat.not_le.mpr hshort), ?_⟩ (.inl hshort)
    intro si' hsi
    rw [if_pos hshort] at hsi
    cases hsi
  · have hlong : minLen ≤ len := Nat.le_of_not_lt hshort
    rw [if_neg hshort, hok]
    constructor
    · rintro ⟨hwithin, hfound⟩
      exact .inr ⟨hwithin hlong, hfound si rfl⟩
    · rintro (hlt | ⟨hwithin, hfound⟩)
      · exact absurd hlt hshort
      · refine ⟨fun _ => hwithin, fun si' hsi => ?_⟩
        cases hsi
        exact hfound

/-- A member that is as wide as its field holds what the field spells. -/
theorem toNat_setWidth_readBits {w : Nat} (pos : Nat) {width : Nat} (hword : width ≤ 32)
    (hmember : width ≤ w) :
    ((readBits data pos (0 : Word) width).setWidth w).toNat = integerAt data pos width := by
  have hlt : integerAt data pos width < 2 ^ w :=
    Nat.lt_of_lt_of_le (integerAt_lt data pos width) (Nat.pow_le_pow_right (by decide) hmember)
  rw [BitVec.toNat_setWidth, toNat_readBits data pos hword, Nat.mod_eq_of_lt hlt]

theorem toNat_readMibSpare :
    ((readBits data 22 (0 : Word) 12 >>> 4).setWidth 8).toNat = integerAt data 22 12 / 16 := by
  have hlt := integerAt_lt data 22 12
  rw [BitVec.toNat_setWidth, BitVec.toNat_ushiftRight, toNat_readBits data 22 (by decide),
    Nat.shiftRight_eq_div_pow]
  omega

theorem rrcReadMib_exact_iff :
    RrcSiExact RrcMib.FoundIn rrcDecodeMib rrcReadMib data len
      ↔ len < 4 ∨ 5 ≤ len ∧ integerAt data 22 12 = 0 := by
  refine (rrcSiExact_iff data len (run_rrcReadMib data len) rfl (by
    simp (disch := decide) only [Reading.run_bind, Reading.run_pure, run_asn1ReadBits, asn1TakeBits_eq]
    rfl)).trans ?_
  have hspare := toNat_readMibSpare data
  simp (disch := decide) only [Reading.within_bind, Reading.within_pure, run_asn1ReadBits, asn1TakeBits_eq,
    within_asn1ReadBits, and_true, Nat.zero_add]
  constructor
  · rintro (hshort | ⟨hwithin, hfound⟩)
    · exact .inl hshort
    · have hsame := hspare.symm.trans hfound.spare
      omega
  · rintro (hshort | ⟨hlong, hblank⟩)
    · exact .inl hshort
    · refine .inr ⟨by omega, ?_⟩
      constructor
      case spare => exact hspare.trans (by rw [hblank])
      all_goals exact toNat_setWidth_readBits data _ (by decide) (by decide)

theorem toInt_setWidth_sub (value : Word) {offset : Nat} (hvalue : value.toNat < 64)
    (hoffset : offset ≤ 70) :
    (value.setWidth 8 - BitVec.ofNat 8 offset).toInt = value.toNat - offset := by
  have hbyte : (value.setWidth 8).toNat = value.toNat := by
    rw [BitVec.toNat_setWidth]
    omega
  have hdiff : (value.setWidth 8 - BitVec.ofNat 8 offset).toNat = (256 - offset + value.toNat) % 256 := by
    rw [BitVec.toNat_sub, hbyte, BitVec.toNat_ofNat, Nat.mod_eq_of_lt (show offset < 2 ^ 8 by omega)]
  rw [BitVec.toInt_eq_toNat_cond, hdiff]
  omega

theorem toInt_readBits_sub (pos : Nat) {width offset : Nat} (hwidth : width ≤ 6) (hoffset : offset ≤ 70) :
    ((readBits data pos (0 : Word) width).setWidth 8 - BitVec.ofNat 8 offset).toInt
      = integerAt data pos width - offset := by
  have hvalue : (readBits data pos (0 : Word) width).toNat = integerAt data pos width :=
    toNat_readBits data pos (by omega)
  have hlt : integerAt data pos width < 2 ^ 6 :=
    Nat.lt_of_lt_of_le (integerAt_lt data pos width) (Nat.pow_le_pow_right (by decide) hwidth)
  rw [toInt_setWidth_sub _ (by omega) hoffset, hvalue]

theorem rrcReadSib2_exact : RrcSiExact RrcSib2.FoundIn rrcDecodeSib2 rrcReadSib2 data len := by
  refine (rrcSiExact_iff data len (run_rrcReadSib2 data len) rfl (by
    simp (disch := decide) only [Reading.run_bind, Reading.run_pure, run_asn1ReadBits, asn1TakeBits_eq]
    rfl)).mpr ?_
  simp (disch := decide) only [Reading.within_bind, Reading.within_pure, run_asn1ReadBits, asn1TakeBits_eq,
    within_asn1ReadBits, and_true, Nat.zero_add]
  by_cases hshort : len < 4
  · exact .inl hshort
  · refine .inr ⟨by omega, ?_⟩
    constructor
    case qRxLevMin => exact toInt_readBits_sub data 3 (by decide) (by decide)
    case qQualMin => exact toInt_readBits_sub data 9 (by decide) (by decide)
    all_goals exact toNat_setWidth_readBits data _ (by decide) (by decide)

theorem toNat_readMcc :
    ((readBits data 0 (0 : Word) 24 >>> 12).setWidth 16).toNat = integerAt data 0 12 := by
  have hboth : integerAt data 0 24 = 2 ^ 12 * integerAt data 0 12 + integerAt data 12 12 :=
    integerAt_add data 0 12 12
  have hmcc := integerAt_lt data 0 12
  have hmnc := integerAt_lt data 12 12
  rw [BitVec.toNat_setWidth, BitVec.toNat_ushiftRight, toNat_readBits data 0 (by decide),
    Nat.shiftRight_eq_div_pow]
  omega

theorem toNat_readMnc :
    ((readBits data 0 (0 : Word) 24 &&& 0xFFF).setWidth 16).toNat = integerAt data 12 12 := by
  have hboth : integerAt data 0 24 = 2 ^ 12 * integerAt data 0 12 + integerAt data 12 12 :=
    integerAt_add data 0 12 12
  have hmnc := integerAt_lt data 12 12
  have hmask : (0xFFF : Word).toNat = 2 ^ 12 - 1 := rfl
  rw [BitVec.toNat_setWidth, BitVec.toNat_and, toNat_readBits data 0 (by decide), hmask,
    Nat.and_two_pow_sub_one_eq_mod]
  omega

theorem toNat_readTac :
    ((readBits data 24 (0 : Word) 24).setWidth 16).toNat = integerAt data 24 24 % 2 ^ 16 := by
  rw [BitVec.toNat_setWidth, toNat_readBits data 24 (by decide)]

/-- Of the cell identity the low thirty-two bits are kept. -/
theorem toNat_readCellLow : (readBits data 52 (0 : Word) 32).toNat = integerAt data 48 36 % 2 ^ 32 := by
  have hboth : integerAt data 48 36 = 2 ^ 32 * integerAt data 48 4 + integerAt data 52 32 :=
    integerAt_add data 48 4 32
  have hlow := integerAt_lt data 52 32
  rw [toNat_readBits data 52 (by decide)]
  omega

theorem toNat_readFlag (pos : Nat) : (readBits data pos (0 : Word) 1 != 0).toNat = integerAt data pos 1 := by
  rw [readBits, readBits, integerAt, integerAt]
  cases bitAt data pos <;> rfl

theorem toNat_doubled {units n : Nat} (hunits : units ≤ 8) (hn : n < 8) :
    (BitVec.ofNat 16 units <<< n).toNat = units * 2 ^ n := by
  have hpow : 2 ^ n ≤ 2 ^ 7 := Nat.pow_le_pow_right (by decide) (by omega)
  have hlt : units * 2 ^ n < 2 ^ 16 := Nat.lt_of_le_of_lt (Nat.mul_le_mul hunits hpow) (by decide)
  rw [BitVec.toNat_shiftLeft, BitVec.toNat_ofNat, Nat.mod_eq_of_lt (show units < 2 ^ 16 by omega),
    Nat.shiftLeft_eq, Nat.mod_eq_of_lt hlt]

theorem toNat_doubled_readBits (pos : Nat) {units : Nat} (hunits : units ≤ 8) :
    (BitVec.ofNat 16 units <<< (readBits data pos (0 : Word) 3).toNat).toNat
      = units * 2 ^ integerAt data pos 3 := by
  rw [toNat_readBits data pos (by decide)]
  exact toNat_doubled hunits (integerAt_lt data pos 3)

theorem rrcReadSib1_exact_iff :
    RrcSiExact RrcSib1.FoundIn rrcDecodeSib1 rrcReadSib1 data len
      ↔ len < 8 ∨ 12 ≤ len ∧ integerAt data 24 24 < 2 ^ 16 ∧ integerAt data 48 36 < 2 ^ 32 := by
  refine (rrcSiExact_iff data len (run_rrcReadSib1 data len) rfl (by
    simp (disch := decide) only [Reading.run_bind, Reading.run_pure, run_asn1ReadBits, asn1TakeBits_eq]
    rfl)).trans ?_
  have htac := toNat_readTac data
  have hcell := toNat_readCellLow data
  simp (disch := decide) only [Reading.within_bind, Reading.within_pure, run_asn1ReadBits, asn1TakeBits_eq,
    within_asn1ReadBits, and_true, Nat.zero_add]
  constructor
  · rintro (hshort | ⟨hwithin, hfound⟩)
    · exact .inl hshort
    · have htacSame := htac.symm.trans hfound.tac
      have hcellSame := hcell.symm.trans hfound.cellId
      omega
  · rintro (hshort | ⟨hlong, htacLow, hcellLow⟩)
    · exact .inl hshort
    · refine .inr ⟨by omega, ?_⟩
      constructor
      case mcc => exact toNat_readMcc data
      case mnc => exact toNat_readMnc data
      case tac => exact htac.trans (Nat.mod_eq_of_lt htacLow)
      case cellId => exact hcell.trans (Nat.mod_eq_of_lt hcellLow)
      case cellReserved => exact toNat_readFlag data 84
      case siPeriodicity => exact toNat_doubled_readBits data 85 (Nat.le_refl 8)
      case siWindowLength => exact toNat_doubled_readBits data 88 (show 5 ≤ 8 by decide)

/-! ### The neighbors of SIB3 -/

theorem within_rrcReadNeighbors (count bitOffset : Nat) :
    (rrcReadNeighbors count bitOffset).Within data len ↔ count = 0 ∨ bitOffset + 39 * count ≤ 8 * len := by
  induction count generalizing bitOffset with
  | zero => exact iff_of_true (Reading.within_pure _ _ _) (.inl rfl)
  | succ count ih =>
      simp (disch := decide) only [rrcReadNeighbors, Reading.within_bind, Reading.within_pure,
        run_asn1ReadBits, asn1TakeBits_eq, within_asn1ReadBits, and_true, ih]
      omega

theorem length_rrcDecodeNeighbors (count bitOffset : Nat) :
    (rrcDecodeNeighbors data count bitOffset).length = count := by
  induction count generalizing bitOffset with
  | zero => rfl
  | succ count ih => simp only [rrcDecodeNeighbors, List.length_cons, ih]

theorem foundAt_of_getElem? {count bitOffset i : Nat} {cell : RrcNeighborCell}
    (h : (rrcDecodeNeighbors data count bitOffset)[i]? = some cell) :
    cell.FoundAt data (bitOffset + 39 * i) := by
  induction count generalizing bitOffset i with
  | zero => cases h
  | succ count ih =>
      simp (disch := decide) only [rrcDecodeNeighbors, asn1TakeBits_eq] at h
      cases i with
      | zero =>
          cases h
          constructor
          case pci => exact toNat_setWidth_readBits data bitOffset (by decide) (by decide)
          case earfcn => exact toNat_readBits data (bitOffset + 16) (by decide)
          case qOffset => exact toInt_readBits_sub data (bitOffset + 34) (by decide) (by decide)
      | succ i =>
          have hrest := ih h
          rwa [show bitOffset + 16 + 18 + 5 + 39 * i = bitOffset + 39 * (i + 1) by omega] at hrest

/-- The count has four bits, so that its limit is never reached. -/
theorem toNat_readNeighborCount :
    (if readBits data 23 (0 : Word) 4 > 32 then 32 else (readBits data 23 (0 : Word) 4).toNat)
      = integerAt data 23 4 := by
  have hlt := integerAt_lt data 23 4
  have hvalue : (readBits data 23 (0 : Word) 4).toNat = integerAt data 23 4 :=
    toNat_readBits data 23 (by decide)
  split
  · rename_i hmany
    rw [gt_iff_lt, BitVec.lt_def, hvalue] at hmany
    change 32 < _ at hmany
    omega
  · exact hvalue

theorem rrcReadSib3_exact_iff :
    RrcSiExact RrcSib3.FoundIn rrcDecodeSib3 rrcReadSib3 data len
      ↔ len < 4 ∨ 27 + 39 * integerAt data 23 4 ≤ 8 * len := by
  refine (rrcSiExact_iff data len (run_rrcReadSib3 data len) rfl (by
    simp (disch := decide) only [Reading.run_bind, Reading.run_pure, run_asn1ReadBits, asn1TakeBits_eq]
    rfl)).trans ?_
  simp (disch := decide) only [Reading.within_bind, Reading.within_pure, run_asn1ReadBits, asn1TakeBits_eq,
    within_asn1ReadBits, and_true, Nat.reduceAdd, run_rrcReadNeighbors, within_rrcReadNeighbors,
    toNat_readNeighborCount]
  constructor
  · rintro (hshort | ⟨hwithin, -⟩)
    · exact .inl hshort
    · omega
  · rintro (hshort | hroom)
    · exact .inl hshort
    · by_cases hshort : len < 4
      · exact .inl hshort
      · refine .inr ⟨by omega, ?_⟩
        constructor
        case intraFreqEarfcn => exact toNat_readBits data 0 (by decide)
        case qOffsetRange => exact toNat_setWidth_readBits data 18 (by decide) (by decide)
        case count => exact length_rrcDecodeNeighbors data _ _
        case neighbors => exact fun i cell hcell => foundAt_of_getElem? data hcell

/-- **System information is decoded exactly when it is complete and fits its members.** SIB2 is whenever it is
not refused. The others need the bytes of all their fields, and numbers that fit the members they go to. -/
theorem rrcDecodeSi_exact_iff :
    (RrcSiExact RrcMib.FoundIn rrcDecodeMib rrcReadMib data len
        ↔ len < 4 ∨ 5 ≤ len ∧ integerAt data 22 12 = 0)
      ∧ (RrcSiExact RrcSib1.FoundIn rrcDecodeSib1 rrcReadSib1 data len
        ↔ len < 8 ∨ 12 ≤ len ∧ integerAt data 24 24 < 2 ^ 16 ∧ integerAt data 48 36 < 2 ^ 32)
      ∧ RrcSiExact RrcSib2.FoundIn rrcDecodeSib2 rrcReadSib2 data len
      ∧ (RrcSiExact RrcSib3.FoundIn rrcDecodeSib3 rrcReadSib3 data len
        ↔ len < 4 ∨ 27 + 39 * integerAt data 23 4 ≤ 8 * len) :=
  ⟨rrcReadMib_exact_iff data len, rrcReadSib1_exact_iff data len, rrcReadSib2_exact data len,
    rrcReadSib3_exact_iff data len⟩

/-- An MIB of four bytes, a SIB1 whose tracking area needs seventeen bits, and a SIB3 that ends where its
neighbor is announced. -/
theorem rrcDecodeSi_not_exact :
    ¬RrcSiExact RrcMib.FoundIn rrcDecodeMib rrcReadMib zeros 4
      ∧ ¬RrcSiExact RrcSib1.FoundIn rrcDecodeSib1 rrcReadSib1 
        (ofBytes [0, 0, 0, 1, 0, 0, 0, 0, 0, 0, 0, 0]) 12
      ∧ ¬RrcSiExact RrcSib3.FoundIn rrcDecodeSib3 rrcReadSib3 (ofBytes [0, 0, 0, 0x20]) 4 := by
  rw [rrcReadMib_exact_iff, rrcReadSib1_exact_iff, rrcReadSib3_exact_iff]
  decide

end Exact

end Uesim
