import Uesim.Library.Segments
import Uesim.Rlc.Entity

/-!
# Segmentation and reassembly

The transmitting side cuts an SDU into PDUs of full size and a last one, with consecutive sequence
numbers and framing. The receiving side joins the data of the PDUs that it is given, in the order that
it is given them, and looks at neither.
-/

namespace Uesim

open Bytes Segments

structure RlcEntity.Segmenting (entity : RlcEntity) : Prop where
  active : entity.active = true
  status : entity.status = .active
  mode : entity.mode = .um ∨ entity.mode = .am

/-- The length is not zero and does not overflow when the size of a PDU is added to it. -/
structure IsSduLength (length : Nat) : Prop where
  pos : 1 ≤ length
  no_overflow : length + rlcMaxPduSize ≤ 2 ^ 64

/-! ### What the loop makes -/

theorem rlcNumPdus_eq {length : Nat} (h : IsSduLength length) :
    rlcNumPdus length = (length + rlcMaxPduSize - 1) / rlcMaxPduSize := by
  have hlt : length + rlcMaxPduSize - 1 < 2 ^ 64 := by
    have := h.no_overflow
    have := h.pos
    omega
  rw [rlcNumPdus, Nat.mod_eq_of_lt hlt]

theorem rlcNumPdus_bounds {length : Nat} (h : IsSduLength length) :
    length ≤ rlcNumPdus length * rlcMaxPduSize ∧ 0 < rlcNumPdus length
      ∧ ∀ i < rlcNumPdus length, i * rlcMaxPduSize < length := by
  have hpos := h.pos
  rw [rlcNumPdus_eq h]
  unfold rlcMaxPduSize
  refine ⟨by omega, by omega, fun i hi => ?_⟩
  omega

theorem rlcSegmentPdu_data {sdu : List Byte} (h : IsSduLength sdu.length) {i : Nat}
    (hi : i < rlcNumPdus sdu.length) (pduCounter : Word) :
    (rlcSegmentPdu sdu (rlcNumPdus sdu.length) i pduCounter).data
      = Segments.segment rlcMaxPduSize sdu i := by
  unfold rlcSegmentPdu Segments.segment
  dsimp only
  split
  · -- the last segment takes what is left, which is no more than a full one
    rename_i hlast
    obtain ⟨hcover, -, -⟩ := rlcNumPdus_bounds h
    have hsize : sdu.length - i * rlcMaxPduSize ≤ rlcMaxPduSize := by
      have hcount : rlcNumPdus sdu.length = i + 1 := by omega
      rw [hcount, Nat.succ_mul] at hcover
      omega
    have hlength : (sdu.drop (i * rlcMaxPduSize)).length = sdu.length - i * rlcMaxPduSize :=
      List.length_drop
    rw [List.take_of_length_le (by omega), List.take_of_length_le (by omega)]
  · rfl

theorem rlcSegmentLoop_eq (sdu : List Byte) (numPdus rounds i : Nat) (pduCounter : Word) :
    rlcSegmentLoop sdu numPdus rounds i pduCounter
      = ((List.range rounds).map fun j =>
          rlcSegmentPdu sdu numPdus (i + j) (pduCounter + BitVec.ofNat 32 j),
        pduCounter + BitVec.ofNat 32 rounds) := by
  induction rounds generalizing i pduCounter with
  | zero => simp [rlcSegmentLoop]
  | succ rounds ih =>
      have hstep : ∀ j, pduCounter + 1 + BitVec.ofNat 32 j = pduCounter + BitVec.ofNat 32 (j + 1) := by
        intro j
        rw [Nat.add_comm j 1, BitVec.ofNat_add, BitVec.add_assoc]
        rfl
      rw [rlcSegmentLoop, ih, List.range_succ_eq_map, List.map_cons, List.map_map, hstep]
      refine Prod.ext (congrArg₂ List.cons ?_ (List.map_congr_left fun j _ => ?_)) rfl
      · simp
      · rw [Function.comp_apply, hstep, Nat.add_assoc, Nat.add_comm 1 j]

def rlcSegmentsOf (sdu : List Byte) (pduCounter : Word) : List RlcPdu :=
  (List.range (rlcNumPdus sdu.length)).map fun i =>
    rlcSegmentPdu sdu (rlcNumPdus sdu.length) i (pduCounter + BitVec.ofNat 32 i)

theorem length_rlcSegmentsOf (sdu : List Byte) (pduCounter : Word) :
    (rlcSegmentsOf sdu pduCounter).length = rlcNumPdus sdu.length := by
  simp [rlcSegmentsOf]

theorem rlcProcessTxData_eq {entity : RlcEntity} (h : entity.Segmenting) {sdu : List Byte}
    (hsdu : IsSduLength sdu.length) :
    rlcProcessTxData entity sdu
      = ({ entity with
          pduCounter := entity.pduCounter + BitVec.ofNat 32 (rlcNumPdus sdu.length) },
        .ok (rlcSegmentsOf sdu entity.pduCounter)) := by
  have hlength : sdu.length ≠ 0 := Nat.ne_of_gt hsdu.pos
  have hloop := rlcSegmentLoop_eq sdu (rlcNumPdus sdu.length) (rlcNumPdus sdu.length) 0
    entity.pduCounter
  simp only [Nat.zero_add] at hloop
  have hsegment : ∀ mode, entity.mode = mode → rlcSegmentSdu mode entity sdu
      = ({ entity with
          pduCounter := entity.pduCounter + BitVec.ofNat 32 (rlcNumPdus sdu.length) },
        .ok (rlcSegmentsOf sdu entity.pduCounter)) := by
    intro mode hmode
    simp only [rlcSegmentSdu, hlength, hmode, hloop, ne_eq, not_true_eq_false, or_self, if_false,
      rlcSegmentsOf]
  rw [rlcProcessTxData, if_neg hlength, if_neg (by simp [h.active]), if_neg (by simp [h.status])]
  rcases h.mode with hmode | hmode
  · refine Eq.trans ?_ (hsegment .um hmode)
    rw [hmode]
    rfl
  · refine Eq.trans ?_ (hsegment .am hmode)
    rw [hmode]
    rfl

theorem rlcProcessRxData_eq {entity : RlcEntity} (h : entity.Segmenting) {pduList : List RlcPdu}
    (hne : pduList ≠ []) :
    rlcProcessRxData entity pduList = .ok (pduList.flatMap RlcPdu.data) := by
  have hreassemble : ∀ mode, entity.mode = mode →
      rlcReassembleSdu mode entity pduList = .ok (pduList.flatMap RlcPdu.data) := by
    intro mode hmode
    rw [rlcReassembleSdu, if_neg (by simp [hne, hmode])]
  rw [rlcProcessRxData, if_neg hne, if_neg (by simp [h.active]), if_neg (by simp [h.status])]
  rcases h.mode with hmode | hmode
  · rw [hmode]
    exact hreassemble .um hmode
  · rw [hmode]
    exact hreassemble .am hmode

/-! ### What the PDUs of one SDU are -/

/-- The framing of as many PDUs: whole for one, first, middle ones and last for several. -/
def rlcFramingOf : Nat → List Byte
  | 0 => []
  | 1 => [0]
  | numPdus + 2 => 1 :: List.replicate numPdus 3 ++ [2]

theorem map_rlcFramingInfo (numPdus : Nat) :
    (List.range numPdus).map (rlcFramingInfo numPdus) = rlcFramingOf numPdus := by
  rcases numPdus with _ | _ | numPdus
  · rfl
  · rfl
  · have hmiddle : (List.range numPdus).map (fun i => rlcFramingInfo (numPdus + 2) (i + 1))
        = List.replicate numPdus 3 := by
      refine List.eq_replicate_iff.mpr ⟨by simp, fun b hb => ?_⟩
      obtain ⟨i, hi, rfl⟩ := List.mem_map.mp hb
      have hlt := List.mem_range.mp hi
      unfold rlcFramingInfo
      rw [if_neg (by omega), if_neg (by omega), if_neg (by omega)]
    have hlast : rlcFramingInfo (numPdus + 2) (numPdus + 1) = 2 := by
      unfold rlcFramingInfo
      rw [if_neg (by omega), if_neg (by omega), if_pos (by omega)]
    have hfirst : rlcFramingInfo (numPdus + 2) 0 = 1 := by
      unfold rlcFramingInfo
      rw [if_neg (by omega), if_pos rfl]
    rw [List.range_succ, List.map_append, List.map_singleton, hlast, List.range_succ_eq_map,
      List.map_cons, hfirst, List.map_map]
    exact congrArg (fun middle => 1 :: middle ++ [2]) hmiddle

/-- Sizes and framing that the PDUs of one SDU must have. -/
structure WellSegmented (pdus : List RlcPdu) : Prop where
  payload : ∀ pdu ∈ pdus, 1 ≤ pdu.data.length ∧ pdu.data.length ≤ rlcMaxPduSize
  framing : pdus.map RlcPdu.fi = rlcFramingOf pdus.length

theorem flatMap_data_rlcSegmentsOf {sdu : List Byte} (h : IsSduLength sdu.length) (pduCounter : Word) :
    (rlcSegmentsOf sdu pduCounter).flatMap RlcPdu.data = sdu := by
  obtain ⟨hcover, -, -⟩ := rlcNumPdus_bounds h
  rw [rlcSegmentsOf, List.flatMap_map]
  calc (List.range (rlcNumPdus sdu.length)).flatMap (fun i =>
        (rlcSegmentPdu sdu (rlcNumPdus sdu.length) i (pduCounter + BitVec.ofNat 32 i)).data)
      = (List.range (rlcNumPdus sdu.length)).flatMap (Segments.segment rlcMaxPduSize sdu) :=
        List.flatMap_congr fun i hi => rlcSegmentPdu_data h (List.mem_range.mp hi) _
    _ = sdu := flatMap_segment rlcMaxPduSize hcover

theorem wellSegmented_rlcSegmentsOf {sdu : List Byte} (h : IsSduLength sdu.length)
    (pduCounter : Word) : WellSegmented (rlcSegmentsOf sdu pduCounter) := by
  refine ⟨fun pdu hpdu => ?_, ?_⟩
  · obtain ⟨i, hi, rfl⟩ := List.mem_map.mp hpdu
    have hlt := List.mem_range.mp hi
    obtain ⟨-, -, hinside⟩ := rlcNumPdus_bounds h
    have hi' := hinside i hlt
    have hpos : 0 < rlcMaxPduSize := by decide
    rw [rlcSegmentPdu_data h hlt, Segments.segment, List.length_take, List.length_drop]
    omega
  · rw [length_rlcSegmentsOf, rlcSegmentsOf, List.map_map, ← map_rlcFramingInfo]
    rfl

theorem sns_rlcSegmentsOf (sdu : List Byte) (pduCounter : Word) :
    (rlcSegmentsOf sdu pduCounter).map RlcPdu.sn
      = (List.range (rlcSegmentsOf sdu pduCounter).length).map fun i =>
          (pduCounter + BitVec.ofNat 32 i).setWidth 16 := by
  rw [length_rlcSegmentsOf, rlcSegmentsOf, List.map_map]
  rfl

theorem segmenting_activate {bearer : Nat} {mode : RlcMode} {config : Option RlcConfig}
    {entity : RlcEntity} (hmode : mode = .um ∨ mode = .am)
    (h : rlcCreateEntity bearer mode config = .ok entity) :
    (rlcActivateEntity entity).1.Segmenting := by
  unfold rlcCreateEntity at h
  split at h
  · cases h
  · rcases hmode with rfl | rfl
    · obtain rfl := Except.ok.inj h
      exact ⟨rfl, rfl, .inl rfl⟩
    · obtain rfl := Except.ok.inj h
      exact ⟨rfl, rfl, .inr rfl⟩

theorem exists_segmenting : ∃ entity : RlcEntity, entity.Segmenting :=
  ⟨_, segmenting_activate (.inl rfl) (rfl : rlcCreateEntity 4 .um none = .ok _)⟩

/-! ### One SDU after another -/

def rlcProcessTxAll : RlcEntity → List (List Byte) → List (Except UesimError (List RlcPdu))
  | _, [] => []
  | entity, sdu :: sdus =>
      (rlcProcessTxData entity sdu).2 :: rlcProcessTxAll (rlcProcessTxData entity sdu).1 sdus

/-- Every SDU becomes a list of PDUs that is rejoined to it, and the sequence numbers go on from list
to list. -/
def RlcRoundTrips (sender receiver : RlcEntity) (sdus : List (List Byte)) : Prop :=
  ∃ pduLists, rlcProcessTxAll sender sdus = pduLists.map .ok
    ∧ List.Forall₂ (fun sdu pdus => WellSegmented pdus ∧ rlcProcessRxData receiver pdus = .ok sdu)
      sdus pduLists
    ∧ pduLists.flatten.map RlcPdu.sn = (List.range pduLists.flatten.length).map fun i =>
      (sender.pduCounter + BitVec.ofNat 32 i).setWidth 16

theorem rlcProcessRxData_rlcSegmentsOf {receiver : RlcEntity} (h : receiver.Segmenting)
    {sdu : List Byte} (hsdu : IsSduLength sdu.length) (pduCounter : Word) :
    rlcProcessRxData receiver (rlcSegmentsOf sdu pduCounter) = .ok sdu := by
  have hne : rlcSegmentsOf sdu pduCounter ≠ [] := by
    apply List.ne_nil_of_length_pos
    rw [length_rlcSegmentsOf]
    exact (rlcNumPdus_bounds hsdu).2.1
  rw [rlcProcessRxData_eq h hne, flatMap_data_rlcSegmentsOf hsdu]

/-- **Segmentation and reassembly are a round trip** for every sequence of SDUs. -/
theorem rlcRoundTrips_of_segmenting {sender receiver : RlcEntity} (hsender : sender.Segmenting)
    (hreceiver : receiver.Segmenting) {sdus : List (List Byte)}
    (hsdus : ∀ sdu ∈ sdus, IsSduLength sdu.length) : RlcRoundTrips sender receiver sdus := by
  induction sdus generalizing sender with
  | nil => exact ⟨[], rfl, .nil, rfl⟩
  | cons sdu sdus ih =>
      have hsdu := hsdus sdu List.mem_cons_self
      have hsent := rlcProcessTxData_eq hsender hsdu
      have hnext : (rlcProcessTxData sender sdu).1.Segmenting := by
        rw [hsent]
        exact ⟨hsender.active, hsender.status, hsender.mode⟩
      obtain ⟨pduLists, hall, hlists, hsns⟩ :=
        ih hnext fun other hother => hsdus other (List.mem_cons_of_mem sdu hother)
      have hfirst := wellSegmented_rlcSegmentsOf hsdu sender.pduCounter
      refine ⟨rlcSegmentsOf sdu sender.pduCounter :: pduLists, ?_, .cons
        ⟨hfirst, rlcProcessRxData_rlcSegmentsOf hreceiver hsdu _⟩ hlists, ?_⟩
      · rw [rlcProcessTxAll, hall, List.map_cons, hsent]
      · have hcounter : ∀ i, (rlcProcessTxData sender sdu).1.pduCounter + BitVec.ofNat 32 i
            = sender.pduCounter
              + BitVec.ofNat 32 ((rlcSegmentsOf sdu sender.pduCounter).length + i) := by
          intro i
          rw [hsent, length_rlcSegmentsOf, BitVec.ofNat_add]
          exact BitVec.add_assoc _ _ _
        rw [List.flatten_cons, List.map_append, List.length_append, List.range_add, List.map_append,
          List.map_map, hsns, sns_rlcSegmentsOf]
        refine congrArg _ (List.map_congr_left fun i _ => ?_)
        rw [hcounter]
        rfl

/-- One SDU of one PDU and one of several. -/
theorem rlcRoundTrips_two_sdus :
    ∃ entity : RlcEntity,
      RlcRoundTrips entity entity [[1, 2, 3], List.replicate (2 * rlcMaxPduSize) 0] := by
  obtain ⟨entity, h⟩ := exists_segmenting
  refine ⟨entity, rlcRoundTrips_of_segmenting h h fun sdu hsdu => ?_⟩
  rcases List.mem_pair.mp hsdu with rfl | rfl
  · exact ⟨by decide, by decide⟩
  · rw [List.length_replicate]
    exact ⟨by decide, by decide⟩

/-! ### PDUs lost, repeated and out of order -/

/-- What arrives when the PDUs at these places are delivered, in this order. -/
def rlcDelivered (pdus : List RlcPdu) (pattern : List Nat) : List RlcPdu :=
  pattern.filterMap fun i => pdus[i]?

/-- The receiving side refuses what arrives of the SDU, or returns the SDU. -/
def NeverCorrupts (sender receiver : RlcEntity) (sdu : List Byte) (pattern : List Nat) : Prop :=
  ∀ pdus, (rlcProcessTxData sender sdu).2 = .ok pdus →
    ∀ out, rlcProcessRxData receiver (rlcDelivered pdus pattern) = .ok out → out = sdu

theorem flatMap_data_rlcDelivered {sdu : List Byte} (h : IsSduLength sdu.length) (pduCounter : Word)
    {pattern : List Nat} (hpattern : ∀ i ∈ pattern, i < rlcNumPdus sdu.length) :
    (rlcDelivered (rlcSegmentsOf sdu pduCounter) pattern).length = pattern.length
      ∧ (rlcDelivered (rlcSegmentsOf sdu pduCounter) pattern).flatMap RlcPdu.data
        = pattern.flatMap (Segments.segment rlcMaxPduSize sdu) := by
  induction pattern with
  | nil => exact ⟨rfl, rfl⟩
  | cons i pattern ih =>
      have hi := hpattern i List.mem_cons_self
      have hget : (rlcSegmentsOf sdu pduCounter)[i]?
          = some (rlcSegmentPdu sdu (rlcNumPdus sdu.length) i (pduCounter + BitVec.ofNat 32 i)) := by
        simp [rlcSegmentsOf, hi]
      obtain ⟨hlength, hdata⟩ := ih fun j hj => hpattern j (List.mem_cons_of_mem i hj)
      have hcons : rlcDelivered (rlcSegmentsOf sdu pduCounter) (i :: pattern)
          = rlcSegmentPdu sdu (rlcNumPdus sdu.length) i (pduCounter + BitVec.ofNat 32 i)
            :: rlcDelivered (rlcSegmentsOf sdu pduCounter) pattern :=
        List.filterMap_cons_some hget
      rw [hcons]
      refine ⟨by rw [List.length_cons, List.length_cons, hlength], ?_⟩
      rw [List.flatMap_cons, List.flatMap_cons, hdata, rlcSegmentPdu_data h hi]

theorem neverCorrupts_iff {sender receiver : RlcEntity} (hsender : sender.Segmenting)
    (hreceiver : receiver.Segmenting) {sdu : List Byte} (h : IsSduLength sdu.length)
    {pattern : List Nat} (hpattern : ∀ i ∈ pattern, i < rlcNumPdus sdu.length) :
    NeverCorrupts sender receiver sdu pattern
      ↔ pattern ≠ [] → pattern.flatMap (Segments.segment rlcMaxPduSize sdu) = sdu := by
  obtain ⟨hlength, hdata⟩ := flatMap_data_rlcDelivered h sender.pduCounter hpattern
  have hsent : (rlcProcessTxData sender sdu).2 = .ok (rlcSegmentsOf sdu sender.pduCounter) := by
    rw [rlcProcessTxData_eq hsender h]
  constructor
  · intro hnever hne
    apply hnever _ hsent
    rw [rlcProcessRxData_eq hreceiver, hdata]
    exact List.ne_nil_of_length_pos (hlength ▸ List.length_pos_of_ne_nil hne)
  · intro hsame pdus hpdus out hout
    obtain rfl := Except.ok.inj (hsent.symm.trans hpdus)
    by_cases hne : rlcDelivered (rlcSegmentsOf sdu sender.pduCounter) pattern = []
    · rw [hne] at hout
      cases hout
    · rw [rlcProcessRxData_eq hreceiver hne, hdata] at hout
      rw [← Except.ok.inj hout]
      apply hsame
      rintro rfl
      exact hne rfl

/-- **No SDU of a length is corrupted exactly when nothing of it arrives or every PDU once and in
order.** -/
theorem rlcReassembly_never_corrupts_iff {sender receiver : RlcEntity} (hsender : sender.Segmenting)
    (hreceiver : receiver.Segmenting) {length : Nat} (h : IsSduLength length) {pattern : List Nat}
    (hpattern : ∀ i ∈ pattern, i < rlcNumPdus length) :
    (∀ sdu : List Byte, sdu.length = length → NeverCorrupts sender receiver sdu pattern)
      ↔ pattern = [] ∨ pattern = List.range (rlcNumPdus length) := by
  obtain ⟨hcover, -, hinside⟩ := rlcNumPdus_bounds h
  have hbytes : Nontrivial Byte := ⟨0, 1, by decide⟩
  have hiff := reassembles_iff (α := Byte) rlcMaxPduSize hcover hinside hpattern
  by_cases hne : pattern = []
  · refine iff_of_true (fun sdu hsdu => ?_) (.inl hne)
    subst hsdu
    exact (neverCorrupts_iff hsender hreceiver h hpattern).mpr fun hnot => absurd hne hnot
  · rw [or_iff_right hne, ← hiff]
    constructor
    · intro hall sdu hsdu
      subst hsdu
      exact (neverCorrupts_iff hsender hreceiver h hpattern).mp (hall sdu rfl) hne
    · intro hall sdu hsdu
      subst hsdu
      exact (neverCorrupts_iff hsender hreceiver h hpattern).mpr fun _ => hall sdu rfl

theorem rlcReassembly_never_corrupts_single :
    ∃ entity : RlcEntity, NeverCorrupts entity entity [1, 2, 3] [0] := by
  obtain ⟨entity, h⟩ := exists_segmenting
  have hlength : IsSduLength 3 := ⟨by decide, by decide⟩
  exact ⟨entity, (rlcReassembly_never_corrupts_iff h h hlength (by decide)).mpr (.inr (by decide))
    [1, 2, 3] rfl⟩

/-- The last of two PDUs is lost, and the receiving side returns the data of the first. -/
theorem rlcReassembly_corrupts_truncated :
    ∃ entity : RlcEntity, entity.Segmenting
      ∧ ¬ NeverCorrupts entity entity (List.replicate (rlcMaxPduSize + 1) 0) [0] := by
  obtain ⟨entity, h⟩ := exists_segmenting
  have hlength : IsSduLength (List.replicate (rlcMaxPduSize + 1) (0 : Byte)).length := by
    rw [List.length_replicate]
    exact ⟨by decide, by decide⟩
  have hpattern : ∀ i ∈ [0], i < rlcNumPdus (List.replicate (rlcMaxPduSize + 1) (0 : Byte)).length := by
    rw [List.length_replicate]
    decide
  refine ⟨entity, h, fun hnever => ?_⟩
  rw [neverCorrupts_iff h h hlength hpattern] at hnever
  have hsame := congrArg List.length (hnever (List.cons_ne_nil _ _))
  simp [Segments.segment] at hsame

end Uesim
