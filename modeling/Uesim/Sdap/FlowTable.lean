import Uesim.Library.Runs
import Uesim.Sdap.Entity

/-!
# The flow table as a map

Mapping a flow takes the first free entry without looking for one that the flow already has. The table is a
finite map as long as only new flows are mapped, by a call or by what is received.
-/

namespace Uesim

open Bytes

inductive SdapCall where
  | map (qfi drbId : Byte) (reflectiveQos : Bool)
  | unmap (qfi : Byte)
  | update (qfi newDrbId : Byte)
  | dlPdu (pduData : List Byte) (drbId : Byte) (memory : SdapAllocation)
  | controlPdu (data : List Byte)

def sdapCall (entity : SdapEntity) : SdapCall → SdapEntity
  | .map qfi drbId reflectiveQos => (sdapMapQosFlow entity qfi drbId reflectiveQos).1
  | .unmap qfi => (sdapUnmapQosFlow entity qfi).1
  | .update qfi newDrbId => (sdapUpdateQosMapping entity qfi newDrbId).1
  | .dlPdu pduData drbId memory => (sdapProcessDlPdu entity pduData drbId memory).1
  | .controlPdu data => (sdapHandleControlPdu entity data).1

/-- The mapping that a call asks for, itself or by what it has received. -/
def SdapCall.mapped : SdapCall → Option SdapQosMapping
  | .map qfi drbId reflectiveQos => some { qfi, drbId, reflectiveQos, active := true }
  | .unmap _ => none
  | .update _ _ => none
  | .dlPdu pduData drbId memory =>
      match sdapParseDataPdu pduData memory.sduData with
      | .error _ => none
      | .ok (qfi, rqi, _) =>
          if memory.sdu = true ∧ rqi = true then some { qfi, drbId, reflectiveQos := true, active := true }
          else none
  | .controlPdu data =>
      match data with
      | header :: qfi :: drbId :: _ =>
          if header &&& 0x0F = 0x01 then some { qfi, drbId, reflectiveQos := true, active := true }
          else none
      | _ => none

/-! ### The map that the table stands for -/

/-- The bearer of every flow that has one, and whether its mapping is reflective. -/
abbrev SdapFlows := Byte → Option (Byte × Bool)

/-- What the calls are for. Flows above 63 are not mapped. -/
def SdapFlows.call (flows : SdapFlows) : SdapCall → SdapFlows
  | .unmap qfi => Function.update flows qfi none
  | .update qfi newDrbId =>
      Function.update flows qfi ((flows qfi).map fun flow => (newDrbId, flow.2))
  | call =>
      match call.mapped with
      | some mapping =>
          if mapping.qfi > 63 then flows
          else Function.update flows mapping.qfi (some (mapping.drbId, mapping.reflectiveQos))
      | none => flows

namespace SdapEntity

def activeMappings (entity : SdapEntity) : List SdapQosMapping :=
  ScanTable.held SdapQosMapping.active entity.qosFlowMap.1

def flows (entity : SdapEntity) : SdapFlows := fun qfi =>
  (entity.mapping qfi).map fun mapping => (mapping.drbId, mapping.reflectiveQos)

def defaultDrb (entity : SdapEntity) : Int :=
  if entity.config.defaultDrbConfigured then entity.config.defaultDrbId.toNat else -1

/-- The call does to the table what it is for, and returns what the map says. -/
structure ServesMap (entity : SdapEntity) (call : SdapCall) : Prop where
  flows : (sdapCall entity call).flows = entity.flows.call call
  distinct : ((sdapCall entity call).activeMappings.map SdapQosMapping.qfi).Nodup
  counted : (sdapCall entity call).config.numQosFlows.toNat = (sdapCall entity call).activeMappings.length
  mapped : ∀ mapping, call.mapped = some mapping → mapping.qfi ≤ 63 →
    (sdapMapQosFlow entity mapping.qfi mapping.drbId mapping.reflectiveQos).2 = .ok ()
      ∧ sdapGetDrbForQos (sdapCall entity call) mapping.qfi = mapping.drbId.toNat
  unmapped : ∀ qfi, call = .unmap qfi → (sdapUnmapQosFlow entity qfi).2 = .ok () →
    sdapGetDrbForQos (sdapCall entity call) qfi = (sdapCall entity call).defaultDrb

/-- A flow that the call maps has no active entry, and its bearer is a positive `int8_t`. -/
def MapsNewFlow (entity : SdapEntity) (call : SdapCall) : Prop :=
  ∀ mapping, call.mapped = some mapping → mapping.qfi ≤ 63 →
    entity.mapping mapping.qfi = none ∧ mapping.drbId.toNat < 128

/-- The table of an entity without a default bearer whose active entries are of different flows. -/
structure IsFlowTable (entity : SdapEntity) : Prop where
  distinct : ScanTable.Distinct SdapQosMapping.active SdapQosMapping.qfi entity.qosFlowMap.1
  qfi_le : ∀ mapping ∈ entity.activeMappings, mapping.qfi ≤ 63
  counted : entity.config.numQosFlows.toNat = entity.activeMappings.length
  no_default : entity.config.defaultDrbConfigured = false

section SetFlows

variable {entity : SdapEntity} {flows : SdapQosFlowMap} {num : Byte}

@[simp]
theorem qosFlowMap_setFlows : (entity.setFlows flows num).qosFlowMap = flows := rfl

@[simp]
theorem numQosFlows_setFlows : (entity.setFlows flows num).config.numQosFlows = num := rfl

@[simp]
theorem defaultDrbConfigured_setFlows :
    (entity.setFlows flows num).config.defaultDrbConfigured = entity.config.defaultDrbConfigured := rfl

end SetFlows

theorem replaceFirst_eq_some {flows flows' : SdapQosFlowMap} {p : SdapQosMapping → Bool}
    {f : SdapQosMapping → SdapQosMapping} (h : flows.replaceFirst p f = some flows') :
    ScanTable.replaceFirst p f flows.1 = some flows'.1 := by
  rw [SdapQosFlowMap.replaceFirst] at h
  split at h
  · cases h
  · rename_i entries heq
    cases h
    exact heq

theorem replaceFirst_eq_none {flows : SdapQosFlowMap} {p : SdapQosMapping → Bool}
    {f : SdapQosMapping → SdapQosMapping} (h : flows.replaceFirst p f = none) :
    ScanTable.replaceFirst p f flows.1 = none := by
  rw [SdapQosFlowMap.replaceFirst] at h
  split at h
  · assumption
  · cases h

/-! ### What each call does -/

section Calls

variable {entity : SdapEntity} {qfi drbId : Byte} {reflectiveQos : Bool}

theorem sdapMapQosFlow_of_gt (hqfi : ¬qfi ≤ 63) :
    sdapMapQosFlow entity qfi drbId reflectiveQos = (entity, .error .invalidParam) :=
  if_pos (BitVec.not_le.mp hqfi)

theorem sdapMapQosFlow_cases (entity : SdapEntity) (drbId : Byte) (reflectiveQos : Bool)
    (hqfi : qfi ≤ 63) :
    (∃ flows, sdapMapQosFlow entity qfi drbId reflectiveQos
        = (entity.setFlows flows (entity.config.numQosFlows + 1), .ok ())
      ∧ (entity.setFlows flows (entity.config.numQosFlows + 1)).activeMappings.Perm
        ({ qfi, drbId, reflectiveQos, active := true } :: entity.activeMappings))
    ∨ (sdapMapQosFlow entity qfi drbId reflectiveQos = (entity, .error .capacity)
      ∧ ScanTable.replaceFirst (fun mapping => !mapping.active)
        (fun _ => { qfi, drbId, reflectiveQos, active := true }) entity.qosFlowMap.1 = none) := by
  rw [sdapMapQosFlow, if_neg (BitVec.not_lt.mpr hqfi)]
  split
  · rename_i flows hput
    exact .inl ⟨flows, rfl, ScanTable.held_put rfl (replaceFirst_eq_some hput)⟩
  · rename_i hfull
    exact .inr ⟨rfl, replaceFirst_eq_none hfull⟩

theorem sdapUnmapQosFlow_cases (entity : SdapEntity) (qfi : Byte) :
    (∃ flows mapping, sdapUnmapQosFlow entity qfi
        = (entity.setFlows flows (entity.config.numQosFlows - 1), .ok ())
      ∧ entity.mapping qfi = some mapping
      ∧ entity.activeMappings.Perm
        (mapping :: (entity.setFlows flows (entity.config.numQosFlows - 1)).activeMappings))
    ∨ (sdapUnmapQosFlow entity qfi = (entity, .error .notFound) ∧ entity.mapping qfi = none) := by
  rw [sdapUnmapQosFlow]
  split
  · rename_i flows hdrop
    obtain ⟨mapping, hfound, hperm⟩ :=
      ScanTable.exists_held_drop (replaceFirst_eq_some hdrop) fun _ => rfl
    exact .inl ⟨flows, mapping, rfl, hfound, hperm⟩
  · rename_i hnone
    exact .inr ⟨rfl, ScanTable.get_eq_none_of_replaceFirst (replaceFirst_eq_none hnone)⟩

theorem sdapUpdateQosMapping_cases (entity : SdapEntity) (qfi newDrbId : Byte) :
    (∃ flows mapping rest, sdapUpdateQosMapping entity qfi newDrbId
        = (entity.setFlows flows entity.config.numQosFlows, .ok ())
      ∧ entity.mapping qfi = some mapping
      ∧ entity.activeMappings.Perm (mapping :: ScanTable.held SdapQosMapping.active rest)
      ∧ (entity.setFlows flows entity.config.numQosFlows).activeMappings.Perm
        ({ mapping with drbId := newDrbId } :: ScanTable.held SdapQosMapping.active rest))
    ∨ (sdapUpdateQosMapping entity qfi newDrbId = (entity, .error .notFound)
      ∧ entity.mapping qfi = none) := by
  rw [sdapUpdateQosMapping]
  split
  · rename_i flows hchange
    obtain ⟨mapping, rest, hfound, hbefore, hafter⟩ :=
      ScanTable.exists_held_change (replaceFirst_eq_some hchange) fun _ => rfl
    exact .inl ⟨flows, mapping, rest, rfl, hfound, hbefore, hafter⟩
  · rename_i hnone
    exact .inr ⟨rfl, ScanTable.get_eq_none_of_replaceFirst (replaceFirst_eq_none hnone)⟩

theorem sdapCall_of_mapped {call : SdapCall} {mapping : SdapQosMapping} (h : call.mapped = some mapping) :
    sdapCall entity call
      = (sdapMapQosFlow entity mapping.qfi mapping.drbId mapping.reflectiveQos).1 := by
  cases call with
  | map qfi drbId reflectiveQos =>
      cases h
      rfl
  | unmap qfi => cases h
  | update qfi newDrbId => cases h
  | dlPdu pduData drbId memory =>
      rw [SdapCall.mapped] at h
      rw [sdapCall, sdapProcessDlPdu]
      cases hparse : sdapParseDataPdu pduData memory.sduData with
      | error e =>
          rw [hparse] at h
          cases h
      | ok parsed =>
          obtain ⟨qfi, rqi, sduData⟩ := parsed
          rw [hparse] at h
          dsimp only at h ⊢
          split at h
          · rename_i hasked
            cases h
            simp only [hasked.1, hasked.2, if_true]
          · cases h
  | controlPdu data =>
      rcases data with _ | ⟨header, _ | ⟨qfi, _ | ⟨drbId, rest⟩⟩⟩
      · cases h
      · cases h
      · cases h
      · rw [SdapCall.mapped] at h
        split at h
        · rename_i htype
          cases h
          rw [sdapCall, sdapHandleControlPdu, htype, if_neg (by decide), if_pos rfl]
        · cases h

end Calls

/-! ### The table stays a map -/

section Kept

variable {entity : SdapEntity} {qfi drbId : Byte} {reflectiveQos : Bool}

theorem mapping_eq_none_iff :
    entity.mapping qfi = none ↔ qfi ∉ entity.activeMappings.map SdapQosMapping.qfi :=
  ScanTable.get_eq_none_iff

theorem length_activeMappings_le (entity : SdapEntity) : entity.activeMappings.length ≤ 64 := by
  rw [← entity.qosFlowMap.2]
  exact List.length_filter_le _ _

/-- **Mapping a new flow adds it to the map.** -/
theorem IsFlowTable.map (h : entity.IsFlowTable) (hqfi : qfi ≤ 63) (hnew : entity.mapping qfi = none)
    (drbId : Byte) (reflectiveQos : Bool) :
    ∃ entity', sdapMapQosFlow entity qfi drbId reflectiveQos = (entity', .ok ()) ∧ entity'.IsFlowTable
      ∧ entity'.mapping
        = Function.update entity.mapping qfi (some { qfi, drbId, reflectiveQos, active := true }) := by
  have hfresh := mapping_eq_none_iff.mp hnew
  rcases sdapMapQosFlow_cases entity drbId reflectiveQos hqfi with ⟨flows, heq, hperm⟩ | ⟨-, hfull⟩
  · have hdistinct := (ScanTable.distinct_of_perm_cons_iff hperm h.distinct).mpr hfresh
    refine ⟨_, heq, ⟨hdistinct, fun mapping hmem => ?_, ?_, h.no_default⟩,
      ScanTable.Distinct.get_of_perm_cons hdistinct hperm⟩
    · rcases List.mem_cons.mp (hperm.mem_iff.mp hmem) with rfl | hmem
      · exact hqfi
      · exact h.qfi_le mapping hmem
    · have hlength := hperm.length_eq
      have hcounted := h.counted
      have hle := length_activeMappings_le (entity.setFlows flows (entity.config.numQosFlows + 1))
      rw [List.length_cons] at hlength
      rw [numQosFlows_setFlows, BitVec.toNat_add, hcounted, hlength]
      exact Nat.mod_eq_of_lt (by change entity.activeMappings.length + 1 < 2 ^ 8; omega)
  · -- 64 entries are enough for 64 flows
    have hflow : ∀ q : Byte, q ≤ 63 → q ∈ (Finset.range 64).image (BitVec.ofNat 8) := by
      intro q hq
      have hle : q.toNat ≤ 63 := BitVec.le_def.mp hq
      exact Finset.mem_image.mpr ⟨q.toNat, Finset.mem_range.mpr (by omega), (BitVec.ofNat_toNat 8 q).trans (BitVec.setWidth_eq q)⟩
    have hroom : ((Finset.range 64).image (BitVec.ofNat 8)).card ≤ entity.qosFlowMap.1.length := by
      rw [entity.qosFlowMap.2]
      exact Finset.card_image_le
    obtain ⟨entries, hput⟩ := h.distinct.exists_put (fun mapping hmem => hflow _ (h.qfi_le mapping hmem))
      hroom (hflow qfi hqfi) hfresh { qfi, drbId, reflectiveQos, active := true }
    rw [hfull] at hput
    cases hput

/-- **Unmapping a flow takes it out of the map.** -/
theorem IsFlowTable.unmap (h : entity.IsFlowTable) (qfi : Byte) :
    (sdapUnmapQosFlow entity qfi).1.IsFlowTable
      ∧ (sdapUnmapQosFlow entity qfi).1.mapping = Function.update entity.mapping qfi none := by
  rcases sdapUnmapQosFlow_cases entity qfi with ⟨flows, mapping, heq, hfound, hperm⟩ | ⟨heq, hnone⟩
  · rw [heq]
    let entity' := entity.setFlows flows (entity.config.numQosFlows - 1)
    change entity'.IsFlowTable ∧ entity'.mapping = Function.update entity.mapping qfi none
    have hkey : mapping.qfi = qfi := (ScanTable.mem_of_get hfound).2
    have hdistinct : ScanTable.Distinct SdapQosMapping.active SdapQosMapping.qfi flows.1 :=
      ScanTable.Distinct.of_perm_cons hperm h.distinct
    refine ⟨⟨hdistinct, fun other hmem => ?_, ?_, h.no_default⟩, ?_⟩
    · exact h.qfi_le other (hperm.mem_iff.mpr (List.mem_cons_of_mem mapping hmem))
    · have hlength := hperm.length_eq
      have hcounted := h.counted
      have hlt := entity.config.numQosFlows.isLt
      rw [List.length_cons] at hlength
      rw [numQosFlows_setFlows, BitVec.toNat_sub, hcounted, hlength]
      change (2 ^ 8 - 1 + (entity'.activeMappings.length + 1)) % 2 ^ 8 = entity'.activeMappings.length
      have hlt' : entity'.activeMappings.length ≤ 64 := length_activeMappings_le entity'
      omega
    · have hget := ScanTable.Distinct.get_of_perm_cons h.distinct hperm
      have hgone : entity'.mapping qfi = none := by
        rw [mapping_eq_none_iff, ← hkey]
        exact (ScanTable.distinct_of_perm_cons_iff hperm hdistinct).mp h.distinct
      funext q
      by_cases hq : q = qfi
      · rw [hq, hgone, Function.update_self]
      · have hother := congrFun hget q
        rw [hkey, Function.update_of_ne hq] at hother
        rw [Function.update_of_ne hq]
        exact hother.symm
  · rw [heq]
    exact ⟨h, (Function.update_eq_self_iff.mpr hnone.symm).symm⟩

/-- **Updating a flow changes its bearer in the map.** -/
theorem IsFlowTable.update (h : entity.IsFlowTable) (qfi newDrbId : Byte) :
    (sdapUpdateQosMapping entity qfi newDrbId).1.IsFlowTable
      ∧ (sdapUpdateQosMapping entity qfi newDrbId).1.mapping
        = Function.update entity.mapping qfi
          ((entity.mapping qfi).map fun mapping => { mapping with drbId := newDrbId }) := by
  rcases sdapUpdateQosMapping_cases entity qfi newDrbId with
    ⟨flows, mapping, rest, heq, hfound, hbefore, hafter⟩ | ⟨heq, hnone⟩
  · rw [heq]
    have hkey : mapping.qfi = qfi := (ScanTable.mem_of_get hfound).2
    obtain ⟨hdistinct, hget⟩ := h.distinct.change hbefore hafter rfl
    refine ⟨⟨hdistinct, fun other hmem => ?_, ?_, h.no_default⟩, ?_⟩
    · rcases List.mem_cons.mp (hafter.mem_iff.mp hmem) with rfl | hmem
      · exact h.qfi_le mapping (hbefore.mem_iff.mpr List.mem_cons_self)
      · exact h.qfi_le other (hbefore.mem_iff.mpr (List.mem_cons_of_mem mapping hmem))
    · exact h.counted.trans (hbefore.length_eq.trans hafter.length_eq.symm)
    · subst hkey
      rw [hfound]
      exact hget
  · rw [heq, hnone]
    exact ⟨h, (Function.update_eq_self_iff.mpr hnone.symm).symm⟩

end Kept

/-! ### One call -/

section OneCall

variable {entity : SdapEntity} {call : SdapCall} {mapping : SdapQosMapping}

theorem sdapGetDrbForQos_of_mapping {qfi : Byte} (h : entity.mapping qfi = some mapping) :
    sdapGetDrbForQos entity qfi = mapping.drbId.toInt := by
  rw [sdapGetDrbForQos, h]

theorem toInt_eq_toNat_iff (drbId : Byte) : drbId.toInt = drbId.toNat ↔ drbId.toNat < 128 := by
  rw [BitVec.toInt_eq_toNat_cond]
  split <;> omega

theorem flows_of_update {entity' : SdapEntity} {qfi : Byte} {found : Option SdapQosMapping}
    (h : entity'.mapping = Function.update entity.mapping qfi found) :
    entity'.flows = Function.update entity.flows qfi
      (found.map fun mapping => (mapping.drbId, mapping.reflectiveQos)) := by
  funext q
  rw [flows, h]
  by_cases hq : q = qfi
  · rw [hq, Function.update_self, Function.update_self]
  · rw [Function.update_of_ne hq, Function.update_of_ne hq]
    rfl

theorem flows_call_of_mapped {flows : SdapFlows} (h : call.mapped = some mapping) :
    flows.call call = if mapping.qfi > 63 then flows
      else Function.update flows mapping.qfi (some (mapping.drbId, mapping.reflectiveQos)) := by
  cases call with
  | unmap qfi => cases h
  | update qfi newDrbId => cases h
  | map qfi drbId reflectiveQos =>
      cases h
      rfl
  | dlPdu pduData drbId memory => simp only [SdapFlows.call, h]
  | controlPdu data => simp only [SdapFlows.call, h]

theorem sdapCall_dlPdu_of_not_mapped {pduData : List Byte} {drbId : Byte} {memory : SdapAllocation}
    (h : (SdapCall.dlPdu pduData drbId memory).mapped = none) :
    sdapCall entity (.dlPdu pduData drbId memory) = entity := by
  rw [SdapCall.mapped] at h
  rw [sdapCall, sdapProcessDlPdu]
  cases hparse : sdapParseDataPdu pduData memory.sduData with
  | error e => rfl
  | ok parsed =>
      obtain ⟨qfi, rqi, sduData⟩ := parsed
      rw [hparse] at h
      dsimp only at h ⊢
      split at h
      · cases h
      · rename_i hnot
        rcases Bool.eq_false_or_eq_true memory.sdu with hsdu | hsdu
        · have hrqi : rqi = false := by
            simpa [hsdu] using hnot
          simp only [hsdu, hrqi, if_true, if_neg Bool.false_ne_true]
        · simp only [hsdu, if_neg Bool.false_ne_true]

theorem sdapCall_controlPdu_of_not_mapped {data : List Byte}
    (h : (SdapCall.controlPdu data).mapped = none) : sdapCall entity (.controlPdu data) = entity := by
  rcases data with _ | ⟨header, _ | ⟨qfi, _ | ⟨drbId, rest⟩⟩⟩
  · rfl
  · rfl
  · unfold sdapCall sdapHandleControlPdu
    dsimp only
    split
    · rfl
    · split <;> rfl
  · rw [SdapCall.mapped] at h
    rw [sdapCall, sdapHandleControlPdu]
    split at h
    · cases h
    · rename_i htype
      rw [if_neg htype]
      split <;> rfl

/-- **A call that maps no flow a second time does to the map what it is for.** -/
theorem IsFlowTable.step (h : entity.IsFlowTable) (hnew : entity.MapsNewFlow call) :
    (sdapCall entity call).IsFlowTable ∧ (sdapCall entity call).flows = entity.flows.call call := by
  cases hmapped : call.mapped with
  | some mapping =>
      rw [sdapCall_of_mapped hmapped, flows_call_of_mapped hmapped]
      by_cases hqfi : mapping.qfi ≤ 63
      · obtain ⟨entity', heq, htable, hmap⟩ := h.map hqfi (hnew mapping hmapped hqfi).1 mapping.drbId
          mapping.reflectiveQos
        rw [heq, if_neg (BitVec.not_lt.mpr hqfi)]
        exact ⟨htable, flows_of_update hmap⟩
      · rw [sdapMapQosFlow_of_gt hqfi, if_pos (BitVec.not_le.mp hqfi)]
        exact ⟨h, rfl⟩
  | none =>
      cases call with
      | map qfi drbId reflectiveQos => cases hmapped
      | unmap qfi => exact ⟨(h.unmap qfi).1, flows_of_update (h.unmap qfi).2⟩
      | update qfi newDrbId =>
          refine ⟨(h.update qfi newDrbId).1, (flows_of_update (h.update qfi newDrbId).2).trans ?_⟩
          rw [Option.map_map, SdapFlows.call, SdapEntity.flows, Option.map_map]
          rfl
      | dlPdu pduData drbId memory =>
          rw [sdapCall_dlPdu_of_not_mapped hmapped]
          refine ⟨h, ?_⟩
          simp only [SdapFlows.call, hmapped]
      | controlPdu data =>
          rw [sdapCall_controlPdu_of_not_mapped hmapped]
          refine ⟨h, ?_⟩
          simp only [SdapFlows.call, hmapped]

theorem IsFlowTable.servesMap (h : entity.IsFlowTable) (hnew : entity.MapsNewFlow call) :
    entity.ServesMap call := by
  obtain ⟨htable, hflows⟩ := h.step hnew
  refine ⟨hflows, htable.distinct, htable.counted, fun mapping hmapped hqfi => ?_, ?_⟩
  · obtain ⟨hfresh, hsign⟩ := hnew mapping hmapped hqfi
    obtain ⟨entity', heq, -, hmap⟩ := h.map hqfi hfresh mapping.drbId mapping.reflectiveQos
    have hfound := congrFun hmap mapping.qfi
    rw [Function.update_self] at hfound
    rw [sdapCall_of_mapped hmapped, heq, sdapGetDrbForQos_of_mapping hfound]
    exact ⟨rfl, (toInt_eq_toNat_iff mapping.drbId).mpr hsign⟩
  · rintro qfi rfl -
    have hgone := congrFun (h.unmap qfi).2 qfi
    rw [Function.update_self] at hgone
    change (sdapCall entity (.unmap qfi)).mapping qfi = none at hgone
    rw [sdapGetDrbForQos, hgone, defaultDrb, htable.no_default]
    rfl

/-- **The table is served exactly when what is mapped is new.** -/
theorem IsFlowTable.servesMap_iff (h : entity.IsFlowTable) :
    entity.ServesMap call ↔ entity.MapsNewFlow call := by
  refine ⟨fun hserves mapping hmapped hqfi => ?_, h.servesMap⟩
  obtain ⟨hok, hget⟩ := hserves.mapped mapping hmapped hqfi
  have hdistinct := hserves.distinct
  rw [sdapCall_of_mapped hmapped] at hget hdistinct
  rcases sdapMapQosFlow_cases entity mapping.drbId mapping.reflectiveQos hqfi with
    ⟨flows, heq, hperm⟩ | ⟨heq, -⟩
  · rw [heq] at hget hdistinct
    have hfresh := (ScanTable.distinct_of_perm_cons_iff hperm h.distinct).mp hdistinct
    have hmap := congrFun (ScanTable.Distinct.get_of_perm_cons hdistinct hperm) mapping.qfi
    rw [Function.update_self] at hmap
    refine ⟨mapping_eq_none_iff.mpr hfresh, (toInt_eq_toNat_iff mapping.drbId).mp ?_⟩
    rw [← hget]
    exact (sdapGetDrbForQos_of_mapping hmap).symm
  · rw [heq] at hok
    cases hok

end OneCall

end SdapEntity

/-! ### Whole runs -/

theorem sdapCreateEntity_isFlowTable (pduSessionId : Word) :
    (sdapCreateEntity pduSessionId none).IsFlowTable := by
  have hempty : (sdapCreateEntity pduSessionId none).activeMappings = [] := rfl
  refine ⟨List.nodup_nil, fun mapping hmem => ?_, rfl, rfl⟩
  rw [hempty] at hmem
  cases hmem

/-- **The table of an entity that is created without a configuration is a map throughout exactly when every
flow that is mapped has no active entry and its bearer is below 128.** -/
theorem sdapFlowTable_servesMap_iff (pduSessionId : Word) (calls : List SdapCall) :
    Runs.Always sdapCall SdapEntity.ServesMap (sdapCreateEntity pduSessionId none) calls
      ↔ Runs.Always sdapCall SdapEntity.MapsNewFlow (sdapCreateEntity pduSessionId none) calls :=
  Runs.always_iff (fun _ _ h => h.servesMap_iff) (fun _ _ h hnew => (h.step hnew).1)
    (sdapCreateEntity_isFlowTable pduSessionId) calls

/-- A flow is mapped to one bearer and then to another one. -/
theorem sdapFlowTable_not_servesMap :
    ¬Runs.Always sdapCall SdapEntity.ServesMap (sdapCreateEntity 1 none)
      [.map 5 1 false, .map 5 2 false] := by
  rintro ⟨-, hserves, -⟩
  have hget := (hserves.mapped _ rfl (by decide)).2
  exact absurd hget (by decide)

end Uesim
