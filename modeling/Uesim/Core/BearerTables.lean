import Uesim.Core.Bearers
import Uesim.Library.Counting
import Uesim.Library.Runs

/-!
# The tables of bearers over runs

The four counters are right in every run. An SRB is found and removed by the number that its configuration
holds, and no DRB is: its number is one of an SRB, or leads to the DRB four places before it.
-/

namespace Uesim

open Bytes

inductive BearerOp where
  | configureSrb (srbId lcid priority : Byte)
  | configureDrb (drbId lcid priority : Byte) (pbr bsd : BitVec 16)
  | removeBearer (bearerId : Byte)
  | setRlcEntity (bearerId : Byte) (entity : Option Nat)
  | removeRlcEntity (bearerId : Byte)
  | setPdcpEntity (bearerId : Byte) (entity : Option Nat)
  | removePdcpEntity (bearerId : Byte)

def bearerStep (ue : UeBearers) : BearerOp → UeBearers
  | .configureSrb srbId lcid priority => (ueConfigureSrb ue srbId lcid priority).1
  | .configureDrb drbId lcid priority pbr bsd => (ueConfigureDrb ue drbId lcid priority pbr bsd).1
  | .removeBearer bearerId => (ueRemoveBearer ue bearerId).1
  | .setRlcEntity bearerId entity => (ueSetRlcEntity ue bearerId entity).1
  | .removeRlcEntity bearerId => (ueRemoveRlcEntity ue bearerId).1
  | .setPdcpEntity bearerId entity => (ueSetPdcpEntity ue bearerId entity).1
  | .removePdcpEntity bearerId => (ueRemovePdcpEntity ue bearerId).1

def EntityTable.Counted {n : Nat} (table : EntityTable n) : Prop :=
  table.numActive.toNat = Counting.count Option.isSome table.entities

def BearerTable.Counted {n : Nat} (table : BearerTable n) : Prop :=
  table.numActive.toNat = Counting.count UeBearerConfig.active table.config

namespace UeBearers

structure Counted (ue : UeBearers) : Prop where
  rlc : ue.rlc.Counted
  pdcp : ue.pdcp.Counted
  srbs : ue.srbs.Counted
  drbs : ue.drbs.Counted

/-- The counters are right, and an active configuration is found and removed by its own number. -/
structure Consistent (ue : UeBearers) : Prop where
  counted : ue.Counted
  found : ∀ slot, (ue.config slot).active = true → ueGetBearerConfig (ue.config slot).bearerId = some slot
  removed : ∀ slot, (ue.config slot).active = true → ∀ other,
    (((ueRemoveBearer ue (ue.config slot).bearerId).1.config other).active = true
      ↔ (ue.config other).active = true ∧ other ≠ slot)

/-- What holds as long as there is no DRB. -/
structure Sound (ue : UeBearers) : Prop where
  counted : ue.Counted
  srb : ∀ i, (ue.srbs.config i).active = true → (ue.srbs.config i).bearerId.toNat = i.val
  drb : ∀ i, (ue.drbs.config i).active = false

end UeBearers

def BearerOp.Safe : BearerOp → Prop
  | .configureDrb drbId _ _ _ _ => uesimMaxDrb ≤ drbId.toNat
  | _ => True

/-! ### Counters -/

theorem Byte.toNat_add_one {counter : Byte} (h : counter.toNat < 255) :
    (counter + 1).toNat = counter.toNat + 1 := by
  rw [BitVec.toNat_add, show (1 : Byte).toNat = 1 from rfl]
  exact Nat.mod_eq_of_lt (by omega)

theorem Byte.toNat_sub_one {counter : Byte} (h : 0 < counter.toNat) :
    (counter - 1).toNat = counter.toNat - 1 := by
  rw [BitVec.toNat_sub, show (1 : Byte).toNat = 1 from rfl]
  have hlt := counter.isLt
  omega

namespace EntityTable

variable {n : Nat} {table : EntityTable n}

theorem Counted.set (h : table.Counted) (hn : n ≤ 255) (i : Fin n) (entity : Option Nat) :
    (table.set i entity).Counted := by
  have hupdate := Counting.count_update_add Option.isSome table.entities i entity
  unfold Counted at h ⊢
  unfold EntityTable.set
  dsimp only
  cases hold : table.entities i with
  | none =>
      rw [hold] at hupdate
      cases entity with
      | none => exact h.trans hupdate.symm
      | some entity =>
          have hempty : Option.isSome (table.entities i) = false := by rw [hold]; rfl
          have hroom := Counting.count_lt_card hempty
          rw [Fintype.card_fin, ← h] at hroom
          change (table.numActive + 1).toNat = _
          rw [Byte.toNat_add_one (by omega), h]
          exact hupdate.symm
  | some old =>
      rw [hold] at hupdate
      have hfull : Option.isSome (table.entities i) = true := by rw [hold]; rfl
      have hpos := Counting.count_pos hfull
      rw [← h] at hpos
      cases entity with
      | none =>
          change (table.numActive - 1).toNat = _
          rw [Byte.toNat_sub_one hpos, h]
          exact Nat.sub_eq_of_eq_add hupdate.symm
      | some entity =>
          change table.numActive.toNat = _
          rw [h]
          exact (Nat.add_right_cancel hupdate).symm

end EntityTable

namespace BearerTable

variable {n : Nat} {table : BearerTable n}

theorem Counted.configure (h : table.Counted) (hn : n ≤ 255) (i : Fin n) (config : UeBearerConfig) :
    (table.configure i config).Counted := by
  have hupdate :=
    Counting.count_update_add UeBearerConfig.active table.config i { config with active := true }
  unfold Counted at h ⊢
  unfold BearerTable.configure
  dsimp only
  cases hold : (table.config i).active with
  | false =>
      have hroom := Counting.count_lt_card hold
      rw [Fintype.card_fin, ← h] at hroom
      rw [hold] at hupdate
      rw [if_pos (by rw [decide_eq_true hroom]; rfl), Byte.toNat_add_one (by omega), h]
      exact hupdate.symm
  | true =>
      rw [hold] at hupdate
      rw [if_neg (by simp), h]
      exact (Nat.add_right_cancel hupdate).symm

theorem Counted.deactivate (h : table.Counted) (i : Fin n) : (table.deactivate i).Counted := by
  have hupdate :=
    Counting.count_update_add UeBearerConfig.active table.config i { table.config i with active := false }
  unfold BearerTable.deactivate
  split
  · rename_i hold
    have hpos := Counting.count_pos hold
    unfold Counted at h ⊢
    rw [← h] at hpos
    rw [hold] at hupdate
    dsimp only
    rw [if_pos hpos, Byte.toNat_sub_one hpos, h]
    exact Nat.sub_eq_of_eq_add hupdate.symm
  · exact h

theorem config_configure (table : BearerTable n) (i j : Fin n) (config : UeBearerConfig) :
    (table.configure i config).config j = if j = i then { config with active := true } else table.config j :=
  Function.update_apply ..

theorem active_deactivate (table : BearerTable n) (i j : Fin n) :
    ((table.deactivate i).config j).active = true ↔ (table.config j).active = true ∧ j ≠ i := by
  unfold BearerTable.deactivate
  split
  · dsimp only
    by_cases heq : j = i
    · rw [heq, Function.update_self]
      exact iff_of_false Bool.false_ne_true fun h => h.2 rfl
    · rw [Function.update_of_ne heq]
      exact (and_iff_left heq).symm
  · rename_i hinactive
    refine ⟨fun hactive => ⟨hactive, ?_⟩, And.left⟩
    rintro rfl
    exact hinactive hactive

theorem bearerId_deactivate (table : BearerTable n) (i j : Fin n) :
    ((table.deactivate i).config j).bearerId = (table.config j).bearerId := by
  unfold BearerTable.deactivate
  split
  · dsimp only
    by_cases heq : j = i
    · rw [heq, Function.update_self]
    · rw [Function.update_of_ne heq]
  · rfl

end BearerTable

/-- **The four counters are right in every run.** -/
theorem bearerStep_counted {ue : UeBearers} (h : ue.Counted) (op : BearerOp) :
    (bearerStep ue op).Counted := by
  cases op with
  | configureSrb srbId lcid priority =>
      rw [bearerStep, ueConfigureSrb]
      split
      · exact { h with srbs := h.srbs.configure (by decide) _ _ }
      · exact h
  | configureDrb drbId lcid priority pbr bsd =>
      rw [bearerStep, ueConfigureDrb]
      split
      · exact { h with drbs := h.drbs.configure (by decide) _ _ }
      · exact h
  | removeBearer bearerId =>
      rw [bearerStep, ueRemoveBearer]
      split
      · exact { h with srbs := h.srbs.deactivate _ }
      · dsimp only
        split
        · exact { h with drbs := h.drbs.deactivate _ }
        · exact h
  | setRlcEntity bearerId entity =>
      rw [bearerStep, ueSetRlcEntity]
      split
      · exact { h with rlc := h.rlc.set (by decide) _ _ }
      · exact h
  | removeRlcEntity bearerId =>
      rw [bearerStep, ueRemoveRlcEntity, ueSetRlcEntity]
      split
      · exact { h with rlc := h.rlc.set (by decide) _ _ }
      · exact h
  | setPdcpEntity bearerId entity =>
      rw [bearerStep, ueSetPdcpEntity]
      split
      · exact { h with pdcp := h.pdcp.set (by decide) _ _ }
      · exact h
  | removePdcpEntity bearerId =>
      rw [bearerStep, ueRemovePdcpEntity, ueSetPdcpEntity]
      split
      · exact { h with pdcp := h.pdcp.set (by decide) _ _ }
      · exact h

namespace UeBearers

variable {ue : UeBearers}

theorem Sound.consistent (h : ue.Sound) : ue.Consistent := by
  have hsrb : ∀ slot, (ue.config slot).active = true → ∃ i, slot = .srb i ∧
      (ue.config slot).bearerId.toNat = i.val := by
    intro slot hactive
    cases slot with
    | srb i => exact ⟨i, rfl, h.srb i hactive⟩
    | drb i =>
        change (ue.drbs.config i).active = true at hactive
        rw [h.drb i] at hactive
        cases hactive
  exact
    { counted := h.counted
      found := by
        intro slot hactive
        obtain ⟨i, rfl, hid⟩ := hsrb slot hactive
        unfold ueGetBearerConfig
        rw [dif_pos (by rw [hid]; exact i.isLt)]
        exact congrArg (fun j => some (BearerSlot.srb j)) (Fin.ext hid)
      removed := by
        intro slot hactive other
        obtain ⟨i, rfl, hid⟩ := hsrb slot hactive
        have hlt : (ue.config (.srb i)).bearerId.toNat < uesimMaxSrb := by
          rw [hid]
          exact i.isLt
        have hi : (⟨(ue.config (.srb i)).bearerId.toNat, hlt⟩ : Fin uesimMaxSrb) = i := Fin.ext hid
        unfold ueRemoveBearer
        rw [dif_pos hlt, hi]
        cases other with
        | srb j =>
            refine (ue.srbs.active_deactivate i j).trans (and_congr_right fun _ => not_congr ?_)
            exact ⟨congrArg BearerSlot.srb, BearerSlot.srb.inj⟩
        | drb j => exact (and_iff_left fun heq => by cases heq).symm }

/-- A DRB is not found by the number that its configuration holds. -/
theorem get_drb_ne (drbId : Byte) (h : drbId.toNat < uesimMaxDrb) :
    ueGetBearerConfig drbId ≠ some (.drb ⟨drbId.toNat, h⟩) := by
  unfold ueGetBearerConfig
  split
  · exact fun heq => by cases heq
  · rename_i hsrb
    dsimp only
    split
    · intro heq
      have hval := congrArg Fin.val (BearerSlot.drb.inj (Option.some.inj heq))
      have hsub : (drbId - BitVec.ofNat 8 uesimMaxSrb).toNat = drbId.toNat - 4 := by
        rw [BitVec.toNat_sub]
        have hlt := drbId.isLt
        unfold uesimMaxSrb at hsrb ⊢
        rw [BitVec.toNat_ofNat]
        omega
      dsimp only at hval
      unfold uesimMaxSrb at hsrb
      omega
    · exact fun heq => by cases heq

theorem Sound.configureSrb (h : ue.Sound) (srbId lcid priority : Byte) (i : Fin uesimMaxSrb) :
    ((ueConfigureSrb ue srbId lcid priority).1.srbs.config i).active = true →
      ((ueConfigureSrb ue srbId lcid priority).1.srbs.config i).bearerId.toNat = i.val := by
  unfold ueConfigureSrb
  split
  · dsimp only
    rw [BearerTable.config_configure]
    split
    · rename_i heq
      exact fun _ => (congrArg Fin.val heq).symm
    · exact h.srb i
  · exact h.srb i

theorem Sound.removeBearer (h : ue.Sound) (bearerId : Byte) :
    (∀ i, ((ueRemoveBearer ue bearerId).1.srbs.config i).active = true →
      ((ueRemoveBearer ue bearerId).1.srbs.config i).bearerId.toNat = i.val) ∧
    ∀ i, ((ueRemoveBearer ue bearerId).1.drbs.config i).active = false := by
  unfold ueRemoveBearer
  split
  · refine ⟨fun i hactive => ?_, h.drb⟩
    rw [BearerTable.bearerId_deactivate]
    exact h.srb i ((ue.srbs.active_deactivate _ i).mp hactive).1
  · dsimp only
    split
    · refine ⟨h.srb, fun i => ?_⟩
      rw [← Bool.not_eq_true, BearerTable.active_deactivate, h.drb i]
      exact fun hactive => Bool.false_ne_true hactive.1
    · exact ⟨h.srb, h.drb⟩

theorem Sound.of_bearers_eq (h : ue.Sound) {after : UeBearers} (hcounted : after.Counted)
    (hsrbs : after.srbs = ue.srbs) (hdrbs : after.drbs = ue.drbs) : after.Sound :=
  { counted := hcounted
    srb := by
      rw [hsrbs]
      exact h.srb
    drb := by
      rw [hdrbs]
      exact h.drb }

theorem bearers_ueSetRlcEntity (ue : UeBearers) (bearerId : Byte) (entity : Option Nat) :
    (ueSetRlcEntity ue bearerId entity).1.srbs = ue.srbs ∧
      (ueSetRlcEntity ue bearerId entity).1.drbs = ue.drbs := by
  unfold ueSetRlcEntity
  split <;> exact ⟨rfl, rfl⟩

theorem bearers_ueSetPdcpEntity (ue : UeBearers) (bearerId : Byte) (entity : Option Nat) :
    (ueSetPdcpEntity ue bearerId entity).1.srbs = ue.srbs ∧
      (ueSetPdcpEntity ue bearerId entity).1.drbs = ue.drbs := by
  unfold ueSetPdcpEntity
  split <;> exact ⟨rfl, rfl⟩

theorem Sound.step (h : ue.Sound) {op : BearerOp} (hsafe : op.Safe) : (bearerStep ue op).Sound := by
  have hcounted := bearerStep_counted h.counted op
  cases op with
  | configureSrb srbId lcid priority =>
      refine { counted := hcounted, srb := h.configureSrb srbId lcid priority, drb := fun i => ?_ }
      rw [bearerStep, ueConfigureSrb]
      split <;> exact h.drb i
  | configureDrb drbId lcid priority pbr bsd =>
      have hsame : bearerStep ue (.configureDrb drbId lcid priority pbr bsd) = ue := by
        rw [bearerStep, ueConfigureDrb, dif_neg (Nat.not_lt.mpr hsafe)]
      rw [hsame]
      exact h
  | removeBearer bearerId =>
      obtain ⟨hsrb, hdrb⟩ := h.removeBearer bearerId
      exact { counted := hcounted, srb := hsrb, drb := hdrb }
  | setRlcEntity bearerId entity =>
      obtain ⟨hsrbs, hdrbs⟩ := bearers_ueSetRlcEntity ue bearerId entity
      exact h.of_bearers_eq hcounted hsrbs hdrbs
  | removeRlcEntity bearerId =>
      obtain ⟨hsrbs, hdrbs⟩ := bearers_ueSetRlcEntity ue bearerId none
      exact h.of_bearers_eq hcounted hsrbs hdrbs
  | setPdcpEntity bearerId entity =>
      obtain ⟨hsrbs, hdrbs⟩ := bearers_ueSetPdcpEntity ue bearerId entity
      exact h.of_bearers_eq hcounted hsrbs hdrbs
  | removePdcpEntity bearerId =>
      obtain ⟨hsrbs, hdrbs⟩ := bearers_ueSetPdcpEntity ue bearerId none
      exact h.of_bearers_eq hcounted hsrbs hdrbs

theorem safe_of_consistent {op : BearerOp} (h : (bearerStep ue op).Consistent) : op.Safe := by
  cases op with
  | configureDrb drbId lcid priority pbr bsd =>
      by_contra hnot
      have hlt : drbId.toNat < uesimMaxDrb := Nat.lt_of_not_le hnot
      have hconfig : (bearerStep ue (.configureDrb drbId lcid priority pbr bsd)).drbs.config
            ⟨drbId.toNat, hlt⟩
          = { active := true
              bearerId := drbId
              lcid
              priority
              prioritizedBitRate := pbr
              bucketSizeDuration := bsd } := by
        rw [bearerStep, ueConfigureDrb, dif_pos hlt]
        dsimp only
        rw [BearerTable.config_configure, if_pos rfl]
      have hfound := h.found (.drb ⟨drbId.toNat, hlt⟩) (congrArg UeBearerConfig.active hconfig)
      rw [UeBearers.config, hconfig] at hfound
      exact get_drb_ne drbId hlt hfound
  | _ => trivial

theorem initial_sound : initial.Sound :=
  { counted :=
      { rlc := (Counting.count_eq_zero_of_forall _ _ fun _ => rfl).symm
        pdcp := (Counting.count_eq_zero_of_forall _ _ fun _ => rfl).symm
        srbs := (Counting.count_eq_zero_of_forall _ _ fun _ => rfl).symm
        drbs := (Counting.count_eq_zero_of_forall _ _ fun _ => rfl).symm }
    srb := fun _ hactive => by cases hactive
    drb := fun _ => rfl }

end UeBearers

/-- **The tables of a UE are consistent in exactly the runs that configure no DRB.** -/
theorem bearerRun_consistent_iff (ops : List BearerOp) :
    Runs.Throughout bearerStep UeBearers.Consistent UeBearers.initial ops
      ↔ Runs.Always bearerStep (fun _ op => op.Safe) UeBearers.initial ops :=
  @Runs.throughout_iff _ _ bearerStep UeBearers.Sound (fun _ op => op.Safe) UeBearers.Consistent
    (fun _ h => h.consistent)
    (fun _ _ h => ⟨UeBearers.safe_of_consistent, fun hsafe => (h.step hsafe).consistent⟩)
    (fun _ _ h hsafe => h.step hsafe) _ UeBearers.initial_sound ops

theorem bearerRun_not_consistent :
    ¬Runs.Throughout bearerStep UeBearers.Consistent UeBearers.initial [.configureDrb 1 4 1 0 0] := by
  rintro ⟨-, h⟩
  have hfound := h.found (.drb ⟨1, by decide⟩) rfl
  cases hfound

end Uesim
