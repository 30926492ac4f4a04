import Mathlib.Data.List.FinRange
import Uesim.Mac.Entity

/-!
# Buffer status reports

A report has eight groups, and the entity has the buffers of five channels. What is taken for the last three
groups is whatever lies behind the buffers. The size of a group is told as an index into a table, which says
no less than the size up to the last entry of the table.
-/

namespace Uesim

open Bytes

inductive MacBsrType where
  | single
  | short
  | long
  | truncated

structure MacBsrCe where
  bsrType : MacBsrType
  lcgId : Byte
  lcgNum : Byte
  bufferSize : Fin 8 → Byte

def macBsrBufferSizeToIndex (bufferSize : Word) : Byte :=
  if bufferSize = 0 then 0
  else if bufferSize ≤ 10 then 1
  else if bufferSize ≤ 20 then 2
  else if bufferSize ≤ 40 then 3
  else if bufferSize ≤ 80 then 4
  else if bufferSize ≤ 160 then 5
  else if bufferSize ≤ 320 then 6
  else if bufferSize ≤ 640 then 7
  else if bufferSize ≤ 1280 then 8
  else if bufferSize ≤ 2560 then 9
  else if bufferSize ≤ 5120 then 10
  else if bufferSize ≤ 10240 then 11
  else if bufferSize ≤ 20480 then 12
  else if bufferSize ≤ 40960 then 13
  else if bufferSize ≤ 81920 then 14
  else 15

def macBsrSizes : List Word :=
  [0, 10, 20, 40, 80, 160, 320, 640, 1280, 2560, 5120, 10240, 20480, 40960, 81920, 150000]

def macBsrIndexToBufferSize (index : Byte) : Word :=
  if index < 16 then macBsrSizes.getD index.toNat 0 else 0

/-- The channels that have a buffer, in the order of the array. -/
def macLogicalChannels : List MacLogicalChannel := [.bcch, .pcch, .ccch, .dcch, .dtch]

def MacEntity.lchBytes (entity : MacEntity) (lch : MacLogicalChannel) : Word :=
  macLchBufferGetBytes (entity.lchBuffers lch).buffer

/-- What `mac_lch_buffer_get_bytes` answers for this place of `lch_buffers`. Behind the array it is `behind`
that says so. -/
def MacEntity.lchBytesAt (entity : MacEntity) (behind : Nat → Word) (i : Nat) : Word :=
  macLogicalChannels[i]?.elim (behind i) entity.lchBytes

section Reports

variable (entity : MacEntity) (behind : Nat → Word)

/-- One round, with the places of `lch_buffers` that were asked for. -/
def macBsrConstructStep (state : MacBsrCe × List Nat) (i : Fin 8) : MacBsrCe × List Nat :=
  let bytes := entity.lchBytesAt behind i
  ({ state.1 with
      bufferSize := Function.update state.1.bufferSize i (macBsrBufferSizeToIndex bytes)
      lcgNum := if bytes > 0 then state.1.lcgNum + 1 else state.1.lcgNum },
    state.2 ++ [i.val])

def macBsrConstruct (bsrType : MacBsrType) (bsr : MacBsrCe) : MacBsrCe × List Nat :=
  (List.finRange 8).foldl (macBsrConstructStep entity behind) ({ bsr with bsrType, lcgNum := 0 }, [])

/-- The bytes and the group that are largest so far, and the places that were asked for. -/
def macBsrHighestStep (state : Word × Byte × List Nat) (i : Fin 8) : Word × Byte × List Nat :=
  let bytes := entity.lchBytesAt behind i
  if bytes > state.1 then (bytes, BitVec.ofNat 8 i, state.2.2 ++ [i.val])
  else (state.1, state.2.1, state.2.2 ++ [i.val])

def macBsrGetHighestPriorityLcg : Byte × List Nat :=
  ((List.finRange 8).foldl (macBsrHighestStep entity behind) (0, 0, [])).2

end Reports

/-! ### What a report says -/

section Loops

variable {entity : MacEntity} {behind : Nat → Word}

theorem macBsrConstructStep_foldl (groups : List (Fin 8)) (state : MacBsrCe × List Nat)
    (hroom : state.1.lcgNum.toNat + groups.length < 256) :
    (groups.foldl (macBsrConstructStep entity behind) state).1.lcgNum.toNat
        = state.1.lcgNum.toNat + groups.countP (fun i : Fin 8 => entity.lchBytesAt behind i > 0)
      ∧ (groups.foldl (macBsrConstructStep entity behind) state).1.bufferSize
        = (fun i => if i ∈ groups then macBsrBufferSizeToIndex (entity.lchBytesAt behind i)
            else state.1.bufferSize i)
      ∧ (groups.foldl (macBsrConstructStep entity behind) state).2 = state.2 ++ groups.map (·.val) := by
  induction groups generalizing state with
  | nil => exact ⟨rfl, rfl, (List.append_nil _).symm⟩
  | cons i groups ih =>
      rw [List.length_cons] at hroom
      have hone : (1 : Byte).toNat = 1 := rfl
      have hnum : (macBsrConstructStep entity behind state i).1.lcgNum.toNat
          = state.1.lcgNum.toNat + if entity.lchBytesAt behind i > 0 then 1 else 0 := by
        rw [macBsrConstructStep]
        split
        · rw [BitVec.toNat_add, hone]
          omega
        · rfl
      obtain ⟨hcount, hsizes, hreads⟩ := ih (macBsrConstructStep entity behind state i)
        (by rw [hnum]; split <;> omega)
      rw [List.foldl_cons]
      refine ⟨?_, ?_, ?_⟩
      · rw [hcount, hnum, List.countP_cons]
        simp only [decide_eq_true_eq]
        omega
      · rw [hsizes]
        funext j
        by_cases hlater : j ∈ groups
        · rw [if_pos hlater, if_pos (List.mem_cons_of_mem i hlater)]
        · rw [if_neg hlater, macBsrConstructStep]
          by_cases heq : j = i
          · subst heq
            rw [if_pos List.mem_cons_self]
            exact Function.update_self ..
          · rw [if_neg (List.not_mem_cons_of_ne_of_not_mem heq hlater)]
            exact Function.update_of_ne heq ..
      · rw [hreads, macBsrConstructStep, List.map_cons, List.append_assoc, List.singleton_append]

theorem macBsrHighestStep_foldl (groups : List (Fin 8)) (state : Word × Byte × List Nat) :
    (groups.foldl (macBsrHighestStep entity behind) state).2.2 = state.2.2 ++ groups.map (·.val) := by
  induction groups generalizing state with
  | nil => exact (List.append_nil _).symm
  | cons i groups ih =>
      have hstep : (macBsrHighestStep entity behind state i).2.2 = state.2.2 ++ [i.val] := by
        rw [macBsrHighestStep]
        split <;> rfl
      rw [List.foldl_cons, ih, hstep, List.map_cons, List.append_assoc, List.singleton_append]

end Loops

theorem macBsrIndexToBufferSize_le (index : Byte) : macBsrIndexToBufferSize index ≤ 150000 := by
  have htable : ∀ i < 16, macBsrSizes.getD i 0 ≤ 150000 := by decide
  rw [macBsrIndexToBufferSize]
  split
  · rename_i hindex
    exact htable index.toNat (BitVec.lt_def.mp hindex)
  · decide

theorem le_or_eq_last (bytes : Word) :
    bytes ≤ macBsrIndexToBufferSize (macBsrBufferSizeToIndex bytes)
      ∨ macBsrBufferSizeToIndex bytes = 15 := by
  unfold macBsrBufferSizeToIndex
  by_cases hzero : bytes = 0
  · rw [if_pos hzero]
    exact .inl (BitVec.le_of_eq hzero)
  rw [if_neg hzero]
  iterate 14
    refine iteInduction
      (motive := fun index => bytes ≤ macBsrIndexToBufferSize index ∨ index = 15) .inl fun _ => ?_
  exact .inr rfl

/-- The table says no less than the size, up to its last entry. -/
theorem le_macBsrIndexToBufferSize_iff (bytes : Word) :
    bytes ≤ macBsrIndexToBufferSize (macBsrBufferSizeToIndex bytes) ↔ bytes ≤ 150000 := by
  constructor
  · exact fun hcovers => BitVec.le_trans hcovers (macBsrIndexToBufferSize_le _)
  · intro hbytes
    rcases le_or_eq_last bytes with hcovers | hlast
    · exact hcovers
    · rw [hlast]
      exact hbytes

section Reports

variable (entity : MacEntity) (behind : Nat → Word) (bsrType : MacBsrType) (bsr : MacBsrCe)

theorem lcgNum_macBsrConstruct :
    (macBsrConstruct entity behind bsrType bsr).1.lcgNum.toNat
      = macLogicalChannels.countP (fun lch => entity.lchBytes lch > 0)
        + [5, 6, 7].countP (fun i => behind i > 0) := by
  have hgroups : (List.finRange 8).countP (fun i : Fin 8 => entity.lchBytesAt behind i > 0)
      = (macLogicalChannels.map entity.lchBytes ++ [5, 6, 7].map behind).countP (· > 0) :=
    (List.countP_map (p := fun bytes : Word => decide (bytes > 0))
      (f := fun i : Fin 8 => entity.lchBytesAt behind i)).symm
  rw [macBsrConstruct, (macBsrConstructStep_foldl _ _ (by simp)).1, hgroups, List.countP_append,
    List.countP_map, List.countP_map]
  exact Nat.zero_add _

theorem reads_macBsrConstruct :
    (macBsrConstruct entity behind bsrType bsr).2 = List.range 8 := by
  rw [macBsrConstruct, (macBsrConstructStep_foldl _ _ (by simp)).2.2]
  rfl

theorem reads_macBsrGetHighestPriorityLcg :
    (macBsrGetHighestPriorityLcg entity behind).2 = List.range 8 := by
  rw [macBsrGetHighestPriorityLcg, macBsrHighestStep_foldl]
  rfl

theorem bufferSize_macBsrConstruct (i : Fin 8) :
    (macBsrConstruct entity behind bsrType bsr).1.bufferSize i
      = macBsrBufferSizeToIndex (entity.lchBytesAt behind i) := by
  rw [macBsrConstruct, (macBsrConstructStep_foldl _ _ (by simp)).2.1]
  exact if_pos (List.mem_finRange i)

/-- The reports ask only for places of the array. -/
def MacBsrInArray : Prop :=
  (∀ i ∈ (macBsrConstruct entity behind bsrType bsr).2, i < macLogicalChannels.length)
    ∧ ∀ i ∈ (macBsrGetHighestPriorityLcg entity behind).2, i < macLogicalChannels.length

/-- As many groups as there are channels with something in their buffers. -/
def MacBsrCounts : Prop :=
  (macBsrConstruct entity behind bsrType bsr).1.lcgNum.toNat
    = macLogicalChannels.countP (fun lch => entity.lchBytes lch > 0)

/-- The size that the report tells for a channel is no less than what is queued there. -/
def MacBsrTruthful : Prop :=
  ∀ (i : Fin 8) lch, macLogicalChannels[i.val]? = some lch →
    entity.lchBytes lch
      ≤ macBsrIndexToBufferSize ((macBsrConstruct entity behind bsrType bsr).1.bufferSize i)

variable {entity behind bsrType bsr}

theorem not_macBsrInArray : ¬MacBsrInArray entity behind bsrType bsr := by
  intro ⟨hreport, _⟩
  rw [reads_macBsrConstruct] at hreport
  exact absurd (hreport 7 (by decide)) (by decide)

/-- The number is right if nothing is found behind the array. -/
theorem macBsrCounts_iff : MacBsrCounts entity behind bsrType bsr ↔ ∀ i ∈ [5, 6, 7], behind i = 0 := by
  have hzero : [5, 6, 7].countP (fun i => behind i > 0) = 0 ↔ ∀ i ∈ [5, 6, 7], behind i = 0 := by
    rw [List.countP_eq_zero]
    refine forall₂_congr fun i _ => ?_
    rw [decide_eq_true_eq, gt_iff_lt, BitVec.not_lt]
    exact BitVec.le_zero_iff
  rw [MacBsrCounts, lcgNum_macBsrConstruct, ← hzero]
  exact Nat.add_eq_left

theorem macBsrTruthful_iff :
    MacBsrTruthful entity behind bsrType bsr ↔ ∀ lch ∈ macLogicalChannels, entity.lchBytes lch ≤ 150000 := by
  have hchannel : ∀ (i : Fin 8) lch, macLogicalChannels[i.val]? = some lch →
      (entity.lchBytes lch
          ≤ macBsrIndexToBufferSize ((macBsrConstruct entity behind bsrType bsr).1.bufferSize i)
        ↔ entity.lchBytes lch ≤ 150000) := by
    intro i lch hlch
    have hbytes : entity.lchBytesAt behind i = entity.lchBytes lch := by
      rw [MacEntity.lchBytesAt, hlch]
      rfl
    rw [bufferSize_macBsrConstruct, hbytes, le_macBsrIndexToBufferSize_iff]
  constructor
  · intro htruthful lch hmem
    obtain ⟨i, hi⟩ := List.mem_iff_getElem?.mp hmem
    have hlt : i < 8 := Nat.lt_trans (List.getElem?_eq_some_iff.mp hi).1 (by decide)
    exact (hchannel ⟨i, hlt⟩ lch hi).mp (htruthful ⟨i, hlt⟩ lch hi)
  · exact fun hbytes i lch hlch => (hchannel i lch hlch).mpr (hbytes lch (List.mem_of_getElem? hlch))

/-- No buffer of an entity that was created takes as much as the table cannot tell. -/
theorem macBsrTruthful_of_limit
    (hlimit : ∀ lch ∈ macLogicalChannels, (entity.lchBuffers lch).buffer.maxBytes ≤ 150000) :
    MacBsrTruthful entity behind bsrType bsr := by
  refine macBsrTruthful_iff.mpr fun lch hmem => BitVec.le_trans ?_ (hlimit lch hmem)
  obtain ⟨queue, hholds⟩ := (entity.lchBuffers lch).holds
  exact hholds.shows.within

end Reports

/-- **No report stays inside the array. Its number is right where nothing lies behind the array, and its
sizes where no channel has more than the table can tell.** -/
theorem macBsr_not_sound (entity : MacEntity) (behind : Nat → Word) (bsrType : MacBsrType)
    (bsr : MacBsrCe) :
    ¬(MacBsrInArray entity behind bsrType bsr ∧ MacBsrCounts entity behind bsrType bsr
        ∧ MacBsrTruthful entity behind bsrType bsr)
      ∧ (MacBsrCounts entity behind bsrType bsr ↔ ∀ i ∈ [5, 6, 7], behind i = 0)
      ∧ (MacBsrTruthful entity behind bsrType bsr
        ↔ ∀ lch ∈ macLogicalChannels, entity.lchBytes lch ≤ 150000) :=
  ⟨fun hsound => not_macBsrInArray hsound.1, macBsrCounts_iff, macBsrTruthful_iff⟩

theorem macBsr_not_sound_created :
    ¬(MacBsrInArray (macCreateEntity none) (fun _ => 0) .long ⟨.long, 0, 0, fun _ => 0⟩
        ∧ MacBsrCounts (macCreateEntity none) (fun _ => 0) .long ⟨.long, 0, 0, fun _ => 0⟩
        ∧ MacBsrTruthful (macCreateEntity none) (fun _ => 0) .long ⟨.long, 0, 0, fun _ => 0⟩) := by
  intro ⟨⟨hreport, _⟩, _⟩
  rw [reads_macBsrConstruct] at hreport
  exact absurd (hreport 5 (by decide)) (by decide)

end Uesim
