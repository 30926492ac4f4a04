import Uesim.Rlc.Entity

/-!
# The life of an RLC entity

Calls dispatch on the mode, and configuration writes the mode without a look at the member that
creation initialised. The member itself stays the one of the mode of creation, and a member for AM
never gets a window.
-/

namespace Uesim

open Bytes BitMemory

/-! ### Which member a call accesses -/

def RlcEntity.Matches (entity : RlcEntity) : Prop := entity.entity.mode = entity.mode

def RlcOp.modeAfter (mode : RlcMode) : RlcOp → RlcMode
  | .configure config => if config.mode = .max then mode else config.mode
  | _ => mode

theorem exists_ok_of_bind {α β : Type} {x : Except RlcFault α} {f : α → Except RlcFault β} {b : β}
    (h : x >>= f = .ok b) : ∃ a, x = .ok a ∧ f a = .ok b := by
  cases x with
  | error fault => cases h
  | ok a => exact ⟨a, rfl, h⟩

theorem exists_ok_of_map {α β : Type} {x : Except RlcFault α} {f : α → β} {b : β}
    (h : x.map f = .ok b) : ∃ a, x = .ok a ∧ f a = b := by
  cases x with
  | error fault => cases h
  | ok a => exact ⟨a, rfl, Except.ok.inj h⟩

theorem tm_eq_ok_iff {entity : RlcEntity} {tm : RlcTmEntity} :
    entity.tm = .ok tm ↔ entity.entity = .tm tm := by
  cases hmember : entity.entity <;> simp [RlcEntity.tm, hmember]

theorem um_eq_ok_iff {entity : RlcEntity} {um : RlcUmEntity} :
    entity.um = .ok um ↔ entity.entity = .um um := by
  cases hmember : entity.entity <;> simp [RlcEntity.um, hmember]

theorem am_eq_ok_iff {entity : RlcEntity} {am : RlcAmEntity} :
    entity.am = .ok am ↔ entity.entity = .am am := by
  cases hmember : entity.entity <;> simp [RlcEntity.am, hmember]

theorem rlcDestroyEntity_ne_member_iff {entity : RlcEntity} (hmode : entity.mode ≠ .max) :
    rlcDestroyEntity entity ≠ .error .member ↔ entity.Matches := by
  unfold rlcDestroyEntity RlcEntity.Matches
  cases hentity : entity.mode with
  | max => exact absurd hentity hmode
  | tm => cases hmember : entity.entity <;> simp [RlcEntity.tm, hmember, Except.map, RlcMember.mode]
  | um => cases hmember : entity.entity <;> simp [RlcEntity.um, hmember, Except.map, RlcMember.mode]
  | am => cases hmember : entity.entity <;> simp [RlcEntity.am, hmember, Except.map, RlcMember.mode]

/-! ### What a call leaves -/

def RlcMember.windows : RlcMember → Option (Option RlcAmTxWindow × Option RlcAmRxWindow)
  | am member => some (member.txWindow, member.rxWindow)
  | _ => none

/-- The member is still for the same mode and has the windows that it had. -/
structure KeepsMember (entity next : RlcEntity) : Prop where
  mode : next.entity.mode = entity.entity.mode
  windows : next.entity.windows = entity.entity.windows

theorem KeepsMember.of_eq {entity next : RlcEntity} (h : next.entity = entity.entity) :
    KeepsMember entity next := ⟨by rw [h], by rw [h]⟩

theorem KeepsMember.of_tm {entity next : RlcEntity} {tm tm' : RlcTmEntity}
    (h : entity.tm = .ok tm) (hnext : next.entity = .tm tm') : KeepsMember entity next := by
  rw [tm_eq_ok_iff] at h
  exact ⟨by rw [h, hnext]; rfl, by rw [h, hnext]; rfl⟩

theorem KeepsMember.of_um {entity next : RlcEntity} {um um' : RlcUmEntity}
    (h : entity.um = .ok um) (hnext : next.entity = .um um') : KeepsMember entity next := by
  rw [um_eq_ok_iff] at h
  exact ⟨by rw [h, hnext]; rfl, by rw [h, hnext]; rfl⟩

theorem KeepsMember.of_am {entity next : RlcEntity} {am am' : RlcAmEntity}
    (h : entity.am = .ok am) (hnext : next.entity = .am am') (htx : am'.txWindow = am.txWindow)
    (hrx : am'.rxWindow = am.rxWindow) : KeepsMember entity next := by
  rw [am_eq_ok_iff] at h
  refine ⟨by rw [h, hnext]; rfl, ?_⟩
  rw [h, hnext, RlcMember.windows, RlcMember.windows, htx, hrx]

theorem rlcStatusCpt_of_indicator {statusData : Memory} (h : statusData 0 = 0xc0) :
    rlcStatusCpt statusData ≠ 0 := by
  rw [rlcStatusCpt, h]
  decide

theorem rlcAmProcessStatusPdu_of_indicator {entity : RlcEntity} {am : RlcAmEntity}
    (hmode : entity.mode = .am) (ham : entity.am = .ok am) {statusData : Memory}
    (hdata : statusData 0 = 0xc0) {statusLength : Nat} (hlength : statusLength ≠ 0) :
    rlcAmProcessStatusPdu entity statusData statusLength = .ok (entity, .error .protocol) := by
  have hcpt := rlcStatusCpt_of_indicator hdata
  rw [rlcAmProcessStatusPdu, if_neg hlength, if_neg (not_not.mpr hmode), ham]
  dsimp only [bind, Except.bind]
  cases hwindow : am.txWindow with
  | none => exact if_pos hcpt
  | some win =>
      have hrefused : rlcAmProcessStatus win statusData statusLength entity.config.snLength
          = (win, .error .protocol) := by
        rw [rlcAmProcessStatus, if_neg hlength, if_pos hcpt]
      dsimp only
      rw [hrefused, ← hwindow, ← am_eq_ok_iff.mp ham]

theorem rlcProcessTxData_frame (entity : RlcEntity) (sdu : List Byte) :
    (rlcProcessTxData entity sdu).1.entity = entity.entity
      ∧ (rlcProcessTxData entity sdu).1.mode = entity.mode := by
  have hsegment : ∀ mode, (rlcSegmentSdu mode entity sdu).1.entity = entity.entity
      ∧ (rlcSegmentSdu mode entity sdu).1.mode = entity.mode := by
    intro mode
    unfold rlcSegmentSdu
    split <;> exact ⟨rfl, rfl⟩
  have htm : (rlcTmProcessTxData entity sdu).1 = entity := by
    unfold rlcTmProcessTxData
    split <;> rfl
  unfold rlcProcessTxData
  split
  · exact ⟨rfl, rfl⟩
  split
  · exact ⟨rfl, rfl⟩
  split
  · exact ⟨rfl, rfl⟩
  split
  · rw [htm]
    exact ⟨rfl, rfl⟩
  · exact hsegment .um
  · exact hsegment .am
  · exact ⟨rfl, rfl⟩

theorem rlcReceivePdu_frame {entity next : RlcEntity} {pdu : RlcPdu}
    {result : Except UesimError Unit} (h : rlcReceivePdu entity pdu = .ok (next, result)) :
    KeepsMember entity next ∧ next.mode = entity.mode := by
  have hrefuse : ∀ {error : UesimError}, (.ok (entity, .error error)
      : Except RlcFault (RlcEntity × Except UesimError Unit)) = .ok (next, result) →
      KeepsMember entity next ∧ next.mode = entity.mode := by
    intro error heq
    obtain rfl := (Prod.mk.inj (Except.ok.inj heq)).1
    exact ⟨.of_eq rfl, rfl⟩
  unfold rlcReceivePdu at h
  split at h
  · exact hrefuse h
  split at h
  · unfold rlcTmReceivePdu at h
    split at h
    · exact hrefuse h
    · obtain ⟨tm, htm, heq⟩ := exists_ok_of_bind h
      obtain rfl := (Prod.mk.inj (Except.ok.inj heq)).1
      exact ⟨.of_tm htm rfl, rfl⟩
  · unfold rlcUmReceivePdu at h
    split at h
    · exact hrefuse h
    · obtain ⟨um, hum, heq⟩ := exists_ok_of_bind h
      obtain rfl := (Prod.mk.inj (Except.ok.inj heq)).1
      exact ⟨.of_um hum rfl, rfl⟩
  · unfold rlcAmReceivePdu at h
    split at h
    · exact hrefuse h
    · rename_i hmode
      obtain ⟨am, ham, heq⟩ := exists_ok_of_bind h
      split at heq
      · rename_i hstatus
        have hlength : pdu.data.length ≠ 0 := by
          have := hstatus.1
          omega
        rw [rlcAmProcessStatusPdu_of_indicator (not_not.mp hmode) ham hstatus.2 hlength] at heq
        exact hrefuse heq
      · obtain rfl := (Prod.mk.inj (Except.ok.inj heq)).1
        exact ⟨.of_am ham rfl rfl rfl, rfl⟩
  · exact hrefuse h

theorem rlcQueueSdu_frame {entity next : RlcEntity} {sdu : RlcSdu} {result : Except UesimError Unit}
    (h : rlcQueueSdu entity sdu = .ok (next, result)) :
    KeepsMember entity next ∧ next.mode = entity.mode := by
  unfold rlcQueueSdu at h
  split at h
  · obtain ⟨tm, htm, heq⟩ := exists_ok_of_bind h
    obtain rfl := (Prod.mk.inj (Except.ok.inj heq)).1
    exact ⟨.of_tm htm rfl, rfl⟩
  · obtain ⟨am, ham, heq⟩ := exists_ok_of_bind h
    obtain rfl := (Prod.mk.inj (Except.ok.inj heq)).1
    exact ⟨.of_am ham rfl rfl rfl, rfl⟩
  · obtain rfl := (Prod.mk.inj (Except.ok.inj h)).1
    exact ⟨.of_eq rfl, rfl⟩

theorem rlcDequeueSdu_frame {entity next : RlcEntity} {result : Except UesimError RlcSdu}
    (h : rlcDequeueSdu entity = .ok (next, result)) :
    KeepsMember entity next ∧ next.mode = entity.mode := by
  unfold rlcDequeueSdu at h
  split at h
  · obtain ⟨tm, htm, heq⟩ := exists_ok_of_bind h
    split at heq
    · obtain rfl := (Prod.mk.inj (Except.ok.inj heq)).1
      exact ⟨.of_eq rfl, rfl⟩
    · obtain rfl := (Prod.mk.inj (Except.ok.inj heq)).1
      exact ⟨.of_tm htm rfl, rfl⟩
  · obtain ⟨am, ham, heq⟩ := exists_ok_of_bind h
    split at heq
    · obtain rfl := (Prod.mk.inj (Except.ok.inj heq)).1
      exact ⟨.of_eq rfl, rfl⟩
    · obtain rfl := (Prod.mk.inj (Except.ok.inj heq)).1
      exact ⟨.of_am ham rfl rfl rfl, rfl⟩
  · obtain rfl := (Prod.mk.inj (Except.ok.inj h)).1
    exact ⟨.of_eq rfl, rfl⟩

/-- **What one call does**: it keeps the member, and only configuration writes the mode. -/
theorem RlcEntity.step_frame {entity next : RlcEntity} {op : RlcOp} (h : entity.step op = .ok next) :
    KeepsMember entity next ∧ next.mode = op.modeAfter entity.mode := by
  cases op with
  | configure config =>
      obtain rfl := Except.ok.inj h
      unfold rlcConfigureEntity RlcOp.modeAfter
      dsimp only
      split <;> exact ⟨.of_eq rfl, rfl⟩
  | activate => obtain rfl := Except.ok.inj h; exact ⟨.of_eq rfl, rfl⟩
  | deactivate => obtain rfl := Except.ok.inj h; exact ⟨.of_eq rfl, rfl⟩
  | suspend => obtain rfl := Except.ok.inj h; exact ⟨.of_eq rfl, rfl⟩
  | resume =>
      obtain rfl := Except.ok.inj h
      unfold rlcResumeEntity
      split <;> exact ⟨.of_eq rfl, rfl⟩
  | processTx sdu =>
      obtain rfl := Except.ok.inj h
      obtain ⟨hentity, hmode⟩ := rlcProcessTxData_frame entity sdu
      exact ⟨.of_eq hentity, hmode⟩
  | receive pdu =>
      obtain ⟨⟨next, result⟩, hreceive, rfl⟩ := exists_ok_of_map h
      exact rlcReceivePdu_frame hreceive
  | queue sdu =>
      obtain ⟨⟨next, result⟩, hqueue, rfl⟩ := exists_ok_of_map h
      exact rlcQueueSdu_frame hqueue
  | dequeue =>
      obtain ⟨⟨next, result⟩, hdequeue, rfl⟩ := exists_ok_of_map h
      exact rlcDequeueSdu_frame hdequeue

theorem RlcEntity.run_frame {entity next : RlcEntity} {ops : List RlcOp}
    (h : entity.run ops = .ok next) : KeepsMember entity next := by
  induction ops generalizing entity with
  | nil =>
      obtain rfl := Except.ok.inj h
      exact .of_eq rfl
  | cons op ops ih =>
      obtain ⟨mid, hstep, hrun⟩ := exists_ok_of_bind h
      have hfirst := (RlcEntity.step_frame hstep).1
      have hrest := ih hrun
      exact ⟨hrest.mode.trans hfirst.mode, hrest.windows.trans hfirst.windows⟩

theorem RlcEntity.run_append (entity : RlcEntity) (ops ops' : List RlcOp) :
    entity.run (ops ++ ops') = (do
      let mid ← entity.run ops
      mid.run ops') := by
  induction ops generalizing entity with
  | nil => rfl
  | cons op ops ih =>
      rw [List.cons_append, RlcEntity.run, RlcEntity.run]
      cases entity.step op with
      | error fault => rfl
      | ok mid => exact ih mid

/-! ### Calls on an entity that matches its mode -/

theorem exists_tm_of_matches {entity : RlcEntity} (h : entity.Matches) (hmode : entity.mode = .tm) :
    ∃ tm, entity.tm = .ok tm := by
  rw [RlcEntity.Matches, hmode] at h
  cases hmember : entity.entity with
  | tm tm => exact ⟨tm, tm_eq_ok_iff.mpr hmember⟩
  | um um => rw [hmember] at h; cases h
  | am am => rw [hmember] at h; cases h

theorem exists_um_of_matches {entity : RlcEntity} (h : entity.Matches) (hmode : entity.mode = .um) :
    ∃ um, entity.um = .ok um := by
  rw [RlcEntity.Matches, hmode] at h
  cases hmember : entity.entity with
  | tm tm => rw [hmember] at h; cases h
  | um um => exact ⟨um, um_eq_ok_iff.mpr hmember⟩
  | am am => rw [hmember] at h; cases h

theorem exists_am_of_matches {entity : RlcEntity} (h : entity.Matches) (hmode : entity.mode = .am) :
    ∃ am, entity.am = .ok am := by
  rw [RlcEntity.Matches, hmode] at h
  cases hmember : entity.entity with
  | tm tm => rw [hmember] at h; cases h
  | um um => rw [hmember] at h; cases h
  | am am => exact ⟨am, am_eq_ok_iff.mpr hmember⟩

theorem exists_rlcReceivePdu {entity : RlcEntity} (h : entity.Matches) (pdu : RlcPdu) :
    ∃ returned, rlcReceivePdu entity pdu = .ok returned := by
  unfold rlcReceivePdu
  split
  · exact ⟨_, rfl⟩
  cases hmode : entity.mode with
  | tm =>
      obtain ⟨tm, htm⟩ := exists_tm_of_matches h hmode
      exact ⟨_, by simp only [rlcTmReceivePdu, hmode, ne_eq, not_true_eq_false, if_false, htm]; rfl⟩
  | um =>
      obtain ⟨um, hum⟩ := exists_um_of_matches h hmode
      exact ⟨_, by simp only [rlcUmReceivePdu, hmode, ne_eq, not_true_eq_false, if_false, hum]; rfl⟩
  | am =>
      obtain ⟨am, ham⟩ := exists_am_of_matches h hmode
      by_cases hstatus : 2 ≤ pdu.data.length ∧ ofBytes pdu.data 0 = 0xc0
      · have hlength : pdu.data.length ≠ 0 := by
          have := hstatus.1
          omega
        have hrefused := rlcAmProcessStatusPdu_of_indicator hmode ham hstatus.2 hlength
        exact ⟨_, by
          simp only [rlcAmReceivePdu, hmode, ne_eq, not_true_eq_false, if_false, ham]
          exact (if_pos hstatus).trans hrefused⟩
      · exact ⟨_, by
          simp only [rlcAmReceivePdu, hmode, ne_eq, not_true_eq_false, if_false, ham]
          exact if_neg hstatus⟩
  | max => exact ⟨_, rfl⟩

theorem exists_rlcQueueSdu {entity : RlcEntity} (h : entity.Matches) (sdu : RlcSdu) :
    ∃ returned, rlcQueueSdu entity sdu = .ok returned := by
  unfold rlcQueueSdu
  cases hmode : entity.mode with
  | tm =>
      obtain ⟨tm, htm⟩ := exists_tm_of_matches h hmode
      exact ⟨_, by simp only [htm]; rfl⟩
  | um => exact ⟨_, rfl⟩
  | am =>
      obtain ⟨am, ham⟩ := exists_am_of_matches h hmode
      exact ⟨_, by simp only [ham]; rfl⟩
  | max => exact ⟨_, rfl⟩

theorem exists_rlcDequeueSdu {entity : RlcEntity} (h : entity.Matches) :
    ∃ returned, rlcDequeueSdu entity = .ok returned := by
  unfold rlcDequeueSdu
  cases hmode : entity.mode with
  | tm =>
      obtain ⟨tm, htm⟩ := exists_tm_of_matches h hmode
      cases hbuffer : tm.rxBuffer with
      | nil => exact ⟨_, by simp only [htm, bind, Except.bind, hbuffer]; rfl⟩
      | cons sdu rest => exact ⟨_, by simp only [htm, bind, Except.bind, hbuffer]; rfl⟩
  | um => exact ⟨_, rfl⟩
  | am =>
      obtain ⟨am, ham⟩ := exists_am_of_matches h hmode
      cases hbuffer : am.rxBuffer with
      | nil => exact ⟨_, by simp only [ham, bind, Except.bind, hbuffer]; rfl⟩
      | cons pdu rest => exact ⟨_, by simp only [ham, bind, Except.bind, hbuffer]; rfl⟩
  | max => exact ⟨_, rfl⟩

theorem RlcEntity.exists_step {entity : RlcEntity} (h : entity.Matches) (op : RlcOp) :
    ∃ next, entity.step op = .ok next := by
  cases op with
  | receive pdu =>
      obtain ⟨returned, hreturned⟩ := exists_rlcReceivePdu h pdu
      exact ⟨returned.1, by rw [RlcEntity.step, hreturned]; rfl⟩
  | queue sdu =>
      obtain ⟨returned, hreturned⟩ := exists_rlcQueueSdu h sdu
      exact ⟨returned.1, by rw [RlcEntity.step, hreturned]; rfl⟩
  | dequeue =>
      obtain ⟨returned, hreturned⟩ := exists_rlcDequeueSdu h
      exact ⟨returned.1, by rw [RlcEntity.step, hreturned]; rfl⟩
  | _ => exact ⟨_, rfl⟩

/-- **A run that configures no other mode** never faults, and the entity matches its mode after it. -/
theorem RlcEntity.exists_run {entity : RlcEntity} (h : entity.Matches) {ops : List RlcOp}
    (hops : ∀ config, RlcOp.configure config ∈ ops →
      config.mode = .max ∨ config.mode = entity.mode) :
    ∃ next, entity.run ops = .ok next ∧ next.Matches ∧ next.mode = entity.mode := by
  induction ops generalizing entity with
  | nil => exact ⟨entity, rfl, h, rfl⟩
  | cons op ops ih =>
      obtain ⟨mid, hstep⟩ := RlcEntity.exists_step h op
      obtain ⟨hkeeps, hmode⟩ := RlcEntity.step_frame hstep
      have hsame : mid.mode = entity.mode := by
        rw [hmode]
        unfold RlcOp.modeAfter
        split
        · rename_i config
          split
          · rfl
          · rename_i hmax
            exact (hops config List.mem_cons_self).resolve_left hmax
        · rfl
      have hmatches : mid.Matches := by
        rw [RlcEntity.Matches, hkeeps.mode, hsame]
        exact h
      obtain ⟨next, hrun, hnext, hnextMode⟩ := ih hmatches fun config hconfig => by
        rw [hsame]
        exact hops config (List.mem_cons_of_mem op hconfig)
      refine ⟨next, ?_, hnext, hnextMode.trans hsame⟩
      rw [RlcEntity.run, hstep]
      exact hrun

theorem rlcCreateEntity_cases {bearer : Nat} {mode : RlcMode} {config : Option RlcConfig}
    {entity : RlcEntity} (h : rlcCreateEntity bearer mode config = .ok entity) :
    entity.mode = mode ∧ rlcMemberOf mode = some entity.entity := by
  unfold rlcCreateEntity at h
  split at h
  · cases h
  · split at h
    · cases h
    · rename_i member hmember
      obtain rfl := Except.ok.inj h
      exact ⟨rfl, hmember⟩

theorem mode_of_rlcMemberOf {mode : RlcMode} {member : RlcMember} (h : rlcMemberOf mode = some member) :
    member.mode = mode ∧ mode ≠ .max := by
  cases mode with
  | max => cases h
  | tm => obtain rfl := Option.some.inj h; exact ⟨rfl, by decide⟩
  | um => obtain rfl := Option.some.inj h; exact ⟨rfl, by decide⟩
  | am => obtain rfl := Option.some.inj h; exact ⟨rfl, by decide⟩

/-- Every call of the sequence, and destruction after any of them, accesses the member that creation
initialised and no other. -/
def RlcEntity.AccessesOwnMember (entity : RlcEntity) (ops : List RlcOp) : Prop :=
  ∀ done, done <+: ops →
    ∃ next, entity.run done = .ok next ∧ rlcDestroyEntity next ≠ .error .member

/-- **The mode is the one of the member through a run exactly when no call configures another mode**
than the one of creation. A configuration with a mode that does not exist is refused. -/
theorem rlcConfigureEntity_accessesOwnMember_iff {bearer : Nat} {mode : RlcMode}
    {config : Option RlcConfig} {entity : RlcEntity}
    (h : rlcCreateEntity bearer mode config = .ok entity) (ops : List RlcOp) :
    entity.AccessesOwnMember ops
      ↔ ∀ config, RlcOp.configure config ∈ ops → config.mode = .max ∨ config.mode = mode := by
  obtain ⟨hmode, hmember⟩ := rlcCreateEntity_cases h
  obtain ⟨hown, hmax⟩ := mode_of_rlcMemberOf hmember
  constructor
  · intro haccess config hconfig
    by_contra hother
    rw [not_or] at hother
    obtain ⟨before, after, rfl⟩ := List.append_of_mem hconfig
    -- destroying the entity right after this call would access the member of the new mode
    obtain ⟨next, hrun, hdestroy⟩ := haccess (before ++ [.configure config])
      ⟨after, by rw [List.append_assoc, List.singleton_append]⟩
    have hkeeps := RlcEntity.run_frame hrun
    rw [RlcEntity.run_append] at hrun
    obtain ⟨mid, -, hlast⟩ := exists_ok_of_bind hrun
    obtain ⟨last, hstep, hnil⟩ := exists_ok_of_bind hlast
    obtain rfl := Except.ok.inj hnil
    have hnextMode : last.mode = config.mode :=
      (RlcEntity.step_frame hstep).2.trans (if_neg hother.1)
    have hmatches := (rlcDestroyEntity_ne_member_iff (hnextMode ▸ hother.1)).mp hdestroy
    apply hother.2
    rw [← hnextMode, ← hmatches, hkeeps.mode, hown]
  · intro hops done hdone
    have hmatches : entity.Matches := hown.trans hmode.symm
    obtain ⟨next, hrun, hnext, hnextMode⟩ := RlcEntity.exists_run hmatches fun config hconfig => by
      rw [hmode]
      exact hops config (hdone.subset hconfig)
    refine ⟨next, hrun, (rlcDestroyEntity_ne_member_iff ?_).mpr hnext⟩
    rw [hnextMode, hmode]
    exact hmax

/-! ### Windows of an entity that creation made -/

/-- The status PDU gets past its checks with work for a loop of the processing function. -/
def ReachesWindow (entity : RlcEntity) (statusData : Memory) (statusLength : Nat) : Prop :=
  entity.mode = .am ∧ statusLength ≠ 0 ∧ rlcStatusCpt statusData = 0
    ∧ (rlcStatusAckSn statusData entity.config.snLength ≠ 0
      ∨ bitAt statusData (rlcStatusHeaderBits entity.config.snLength) = true
        ∧ (rlcStatusHeaderBits entity.config.snLength + 1) / 8 < statusLength)

theorem ne_window_of_bind {α β : Type} {x : Except RlcFault α} {f : α → Except RlcFault β}
    (hx : x ≠ .error .window) (hf : ∀ a, x = .ok a → f a ≠ .error .window) :
    x >>= f ≠ .error .window := by
  cases x with
  | error fault => exact fun h => hx (congrArg Except.error (Except.error.inj h))
  | ok a => exact hf a rfl

/-- The receiving function never comes to a window: what it takes for a status PDU is refused. -/
theorem rlcReceivePdu_ne_window (entity : RlcEntity) (pdu : RlcPdu) :
    rlcReceivePdu entity pdu ≠ .error .window := by
  unfold rlcReceivePdu
  split
  · exact nofun
  split
  · unfold rlcTmReceivePdu
    split
    · exact nofun
    · refine ne_window_of_bind ?_ fun _ _ => nofun
      unfold RlcEntity.tm
      split <;> exact nofun
  · unfold rlcUmReceivePdu
    split
    · exact nofun
    · refine ne_window_of_bind ?_ fun _ _ => nofun
      unfold RlcEntity.um
      split <;> exact nofun
  · unfold rlcAmReceivePdu
    split
    · exact nofun
    · rename_i hmode
      refine ne_window_of_bind ?_ fun am ham => ?_
      · unfold RlcEntity.am
        split <;> exact nofun
      · split
        · rename_i hstatus
          have hlength : pdu.data.length ≠ 0 := by
            have := hstatus.1
            omega
          rw [rlcAmProcessStatusPdu_of_indicator (not_not.mp hmode) ham hstatus.2 hlength]
          exact nofun
        · exact nofun
  · exact nofun

theorem exists_am_of_run {bearer : Nat} {config : Option RlcConfig} {entity : RlcEntity}
    (h : rlcCreateEntity bearer .am config = .ok entity) {ops : List RlcOp} {next : RlcEntity}
    (hrun : entity.run ops = .ok next) :
    ∃ am, next.am = .ok am ∧ am.txWindow = none ∧ am.rxWindow = none := by
  obtain ⟨-, hmember⟩ := rlcCreateEntity_cases h
  have hkeeps := RlcEntity.run_frame hrun
  have hwindows : next.entity.windows = some (none, none) := by
    rw [hkeeps.windows, ← Option.some.inj hmember]
    rfl
  cases hnext : next.entity with
  | tm tm => rw [hnext] at hwindows; cases hwindows
  | um um => rw [hnext] at hwindows; cases hwindows
  | am am =>
      rw [hnext] at hwindows
      obtain ⟨htx, hrx⟩ := Prod.mk.inj (Option.some.inj hwindows)
      exact ⟨am, am_eq_ok_iff.mpr hnext, htx, hrx⟩

theorem rlcAmProcessStatusPdu_ne_window_iff {entity : RlcEntity} {am : RlcAmEntity}
    (ham : entity.am = .ok am) (htx : am.txWindow = none) (statusData : Memory) (statusLength : Nat) :
    rlcAmProcessStatusPdu entity statusData statusLength ≠ .error .window
      ↔ ¬ ReachesWindow entity statusData statusLength := by
  unfold ReachesWindow
  by_cases hlength : statusLength = 0
  · rw [rlcAmProcessStatusPdu, if_pos hlength]
    exact iff_of_true nofun fun h => h.2.1 hlength
  by_cases hmode : entity.mode = .am
  · have hbody : rlcAmProcessStatusPdu entity statusData statusLength
        = if rlcStatusCpt statusData ≠ 0 then .ok (entity, .error .protocol)
          else if rlcStatusAckSn statusData entity.config.snLength ≠ 0 then .error .window
          else if bitAt statusData (rlcStatusHeaderBits entity.config.snLength)
              ∧ (rlcStatusHeaderBits entity.config.snLength + 1) / 8 < statusLength then
            .error .window
          else .ok (entity, .ok ()) := by
      rw [rlcAmProcessStatusPdu, if_neg hlength, if_neg (not_not.mpr hmode), ham]
      dsimp only [bind, Except.bind]
      rw [htx]
    rw [hbody]
    by_cases hcpt : rlcStatusCpt statusData = 0
    · rw [if_neg (not_not.mpr hcpt)]
      by_cases hack : rlcStatusAckSn statusData entity.config.snLength = 0
      · rw [if_neg (not_not.mpr hack)]
        split
        · rename_i hnack
          exact iff_of_false (not_not.mpr rfl)
            (not_not.mpr ⟨hmode, hlength, hcpt, .inr hnack⟩)
        · rename_i hnack
          exact iff_of_true nofun fun h => h.2.2.2.elim (absurd hack) hnack
      · rw [if_pos hack]
        exact iff_of_false (not_not.mpr rfl) (not_not.mpr ⟨hmode, hlength, hcpt, .inl hack⟩)
    · rw [if_pos hcpt]
      exact iff_of_true nofun fun h => hcpt h.2.2.1
  · rw [rlcAmProcessStatusPdu, if_neg hlength, if_pos hmode]
    exact iff_of_true nofun fun h => hmode h.1

/-- **After any run, only a status PDU that is given to its processing function directly comes to a
window that nothing has initialised**: one with CPT zero that acknowledges or lists something. -/
theorem rlcAm_window_not_used_iff {bearer : Nat} {config : Option RlcConfig} {entity : RlcEntity}
    (h : rlcCreateEntity bearer .am config = .ok entity) {ops : List RlcOp} {next : RlcEntity}
    (hrun : entity.run ops = .ok next) :
    (∀ pdu, rlcReceivePdu next pdu ≠ .error .window)
      ∧ (∀ fuel, rlcAmGenerateStatusPdu fuel next ≠ some (.error .window))
      ∧ ∀ statusData statusLength,
        rlcAmProcessStatusPdu next statusData statusLength ≠ .error .window
          ↔ ¬ ReachesWindow next statusData statusLength := by
  obtain ⟨am, ham, htx, hrx⟩ := exists_am_of_run h hrun
  refine ⟨rlcReceivePdu_ne_window next, fun fuel => ?_,
    rlcAmProcessStatusPdu_ne_window_iff ham htx⟩
  rw [rlcAmGenerateStatusPdu]
  split
  · exact nofun
  · rw [ham]
    dsimp only
    rw [hrx]
    exact nofun

/-- An active entity accepts a status PDU that acknowledges and lists nothing. -/
theorem rlcAm_window_not_used_accepted :
    ∃ entity next, rlcCreateEntity 1 .am (some ⟨.am, 12⟩) = .ok entity
      ∧ entity.run [.activate] = .ok next
      ∧ rlcAmProcessStatusPdu next (ofBytes [0x00, 0x00]) 2 ≠ .error .window
      ∧ rlcAmProcessStatusPdu next (ofBytes [0x00, 0x00]) 2 = .ok (next, .ok ()) := by
  have hcreate : rlcCreateEntity 1 .am (some ⟨.am, 12⟩) = .ok _ := rfl
  have hrun : RlcEntity.run ⟨.am, .configured, ⟨.am, 12⟩, .am ⟨none, none, [], []⟩, 0, 0, false⟩ [.activate]
      = .ok _ := rfl
  refine ⟨_, _, hcreate, hrun, ((rlcAm_window_not_used_iff hcreate hrun).2.2 _ _).mpr fun h => ?_, rfl⟩
  rcases h.2.2.2 with hack | hnack
  · exact hack (by decide)
  · exact absurd hnack.1 (by decide)

/-- A signalling entity is created and activated, and the first status PDU with CPT zero and an ACK_SN
other than zero divides by zero. -/
theorem rlcAm_window_used_uninitialised :
    ∃ entity next, rlcCreateEntity 1 .am none = .ok entity ∧ entity.run [.activate] = .ok next
      ∧ rlcAmProcessStatusPdu next (ofBytes [0x00, 0x02]) 2 = .error .window :=
  ⟨_, _, rfl, rfl, rfl⟩

/-- A TM entity is configured for AM and destroyed. -/
theorem rlcConfigureEntity_not_accessesOwnMember :
    ∃ entity, rlcCreateEntity 0 .tm none = .ok entity
      ∧ ¬ entity.AccessesOwnMember [.configure ⟨.am, 12⟩] := by
  refine ⟨_, rfl, fun haccess => ?_⟩
  obtain ⟨next, hrun, hdestroy⟩ := haccess _ (List.prefix_refl _)
  obtain rfl := Except.ok.inj hrun
  exact hdestroy rfl

/-- An AM entity stays one through a configuration for AM. -/
theorem rlcConfigureEntity_accessesOwnMember_am :
    ∃ entity, rlcCreateEntity 1 .am none = .ok entity
      ∧ entity.AccessesOwnMember [.configure ⟨.am, 12⟩, .activate, .receive ⟨[1], 0, 0, 0, false⟩] := by
  have hcreate : rlcCreateEntity 1 .am none = .ok _ := rfl
  refine ⟨_, hcreate, (rlcConfigureEntity_accessesOwnMember_iff hcreate _).mpr fun config hconfig => ?_⟩
  simp only [List.mem_cons, RlcOp.configure.injEq, reduceCtorEq, List.not_mem_nil, or_false] at hconfig
  obtain rfl := hconfig
  exact .inr rfl

end Uesim
