import Uesim.Library.Runs
import Uesim.Mac.LogicalChannels
import Uesim.Mac.RandomAccess

/-!
# Scheduling requests

A request is transmitted up to `trans_max` times, and then random access is tried instead. The counter of
the transmissions goes back to zero when a request is cancelled, and not when it is answered. And one of the
two triggers sets it back and the other does not.
-/

namespace Uesim

open Bytes

def macSrConfig (entity : MacEntity) (srId pucchResource : Byte) (period : BitVec 16) (transMax : Byte) :
    MacEntity :=
  entity.updateSr fun _ =>
    { srId
      pucchResource
      period
      srTransMax := transMax
      srCounter := 0
      srPending := false
      srProhibited := false }

def macSrTrigger (entity : MacEntity) : MacEntity :=
  if entity.config.srConfig.srProhibited then entity
  else entity.updateSr fun sr => { sr with srPending := true, srCounter := 0 }

def macSrCancel (entity : MacEntity) : MacEntity :=
  entity.updateSr fun sr => { sr with srPending := false, srCounter := 0 }

def macSrTransmit (entity : MacEntity) : MacEntity × Except UesimError Unit :=
  if entity.config.srConfig.srPending then
    let entity := entity.updateSr fun sr => { sr with srCounter := sr.srCounter + 1 }
    if entity.config.srConfig.srCounter ≥ entity.config.srConfig.srTransMax then
      macInitiateRandomAccess (entity.updateSr fun sr => { sr with srPending := false, srCounter := 0 })
    else (entity, .ok ())
  else (entity, .error .invalidParam)

/-- Of the response only the length is looked at. -/
def macProcessSchedulingResponse (entity : MacEntity) (length : Nat) : MacEntity × Except UesimError Unit :=
  if length = 0 then (entity, .error .invalidParam)
  else if entity.active then (entity.updateSr fun sr => { sr with srPending := false }, .ok ())
  else (entity, .error .invalidParam)

/-- `elsewhere` is whatever else happens to the entity. Nothing else changes the configuration of the
requests. -/
inductive MacSrOp where
  | triggerSchedulingRequest
  | srTrigger
  | srCancel
  | queueLogicalChannelData (lchId : MacLogicalChannel) (data : MacLchData) (allocation : MacLchAllocation)
  | processSchedulingResponse (length : Nat)
  | srTransmit
  | elsewhere (entity : MacEntity)

/-- The entity, and how often the pending request has been transmitted since there is one. -/
structure MacSrHistory where
  entity : MacEntity
  transmissions : Nat

namespace MacSrHistory

def start (entity : MacEntity) : MacSrHistory := { entity, transmissions := 0 }

def Pending (history : MacSrHistory) : Prop := history.entity.config.srConfig.srPending

instance (history : MacSrHistory) : Decidable history.Pending := inferInstanceAs (Decidable (_ = _))

/-- A step that transmits nothing. As long as no request is pending, no transmission counts. -/
def goesOn (history : MacSrHistory) (entity : MacEntity) : MacSrHistory :=
  { entity, transmissions := if history.Pending then history.transmissions else 0 }

end MacSrHistory

def macSrStep (history : MacSrHistory) : MacSrOp → MacSrHistory
  | .triggerSchedulingRequest => history.goesOn (macTriggerSchedulingRequest history.entity).1
  | .srTrigger => history.goesOn (macSrTrigger history.entity)
  | .srCancel => history.goesOn (macSrCancel history.entity)
  | .queueLogicalChannelData lchId data allocation =>
      history.goesOn (macQueueLogicalChannelData history.entity lchId data allocation).1
  | .processSchedulingResponse length =>
      history.goesOn (macProcessSchedulingResponse history.entity length).1
  | .srTransmit =>
      { entity := (macSrTransmit history.entity).1
        transmissions := if history.Pending then history.transmissions + 1 else 0 }
  | .elsewhere entity => history.goesOn (entity.updateSr fun _ => history.entity.config.srConfig)

namespace MacSrHistory

/-- Random access is started by a pending request only, and by its last transmission. -/
def KeepsSr (history : MacSrHistory) : MacSrOp → Prop
  | .srTransmit =>
      history.entity.rachState ≠ .active → (macSrTransmit history.entity).1.rachState = .active →
        history.Pending
          ∧ history.transmissions + 1 = history.entity.config.srConfig.srTransMax.toNat
  | _ => True

def Queues (history : MacSrHistory) (lchId : MacLogicalChannel) (data : MacLchData)
    (allocation : MacLchAllocation) : Prop :=
  data.length ≠ 0 ∧ lchId ≠ .max ∧ history.entity.active
    ∧ ((history.entity.lchBuffers lchId).enqueue data allocation).2 = .ok ()

/-- A request that is raised without setting the counter back finds it at zero, and one that is raised
again has not been transmitted. -/
def Fresh (history : MacSrHistory) : MacSrOp → Prop
  | .triggerSchedulingRequest =>
      history.entity.active → ¬history.Pending → history.entity.config.srConfig.srCounter = 0
  | .srTrigger =>
      history.entity.config.srConfig.srProhibited = false → history.Pending →
        history.entity.config.srConfig.srCounter = 0
  | .queueLogicalChannelData lchId data allocation =>
      history.Queues lchId data allocation → ¬history.Pending →
        history.entity.config.srConfig.srCounter = 0
  | _ => True

structure Sound (history : MacSrHistory) : Prop where
  counter : history.entity.config.srConfig.srCounter < history.entity.config.srConfig.srTransMax
  transmissions :
    history.Pending → history.entity.config.srConfig.srCounter.toNat = history.transmissions

/-! ### Fresh runs -/

variable {history : MacSrHistory}

/-- The counter is kept or set back, and a request that is pending afterwards counts from where it stands. -/
theorem Sound.goesOn (h : history.Sound) {entity : MacEntity}
    (htransMax : entity.config.srConfig.srTransMax = history.entity.config.srConfig.srTransMax)
    (hcounter : entity.config.srConfig.srCounter = history.entity.config.srConfig.srCounter
      ∨ entity.config.srConfig.srCounter = 0)
    (hpending : entity.config.srConfig.srPending →
      entity.config.srConfig.srCounter
        = if history.Pending then history.entity.config.srConfig.srCounter else 0) :
    (history.goesOn entity).Sound := by
  constructor
  · have hlt := h.counter
    rw [MacSrHistory.goesOn]
    dsimp only
    rw [htransMax]
    rcases hcounter with hkept | hzero
    · rwa [hkept]
    · rw [hzero]
      exact Nat.lt_of_le_of_lt (Nat.zero_le _) hlt
  · intro hpends
    rw [MacSrHistory.goesOn]
    dsimp only
    rw [hpending hpends]
    split
    · rename_i hbefore
      exact h.transmissions hbefore
    · rfl

theorem Sound.goesOn_of_eq (h : history.Sound) {entity : MacEntity} (pending : Bool)
    (hconfig : entity.config.srConfig = { history.entity.config.srConfig with srPending := pending })
    (hfresh : pending → ¬history.Pending → history.entity.config.srConfig.srCounter = 0) :
    (history.goesOn entity).Sound := by
  refine h.goesOn (by rw [hconfig]) (.inl (by rw [hconfig])) fun hpends => ?_
  rw [hconfig] at hpends ⊢
  split
  · rfl
  · rename_i hbefore
    exact hfresh hpends hbefore

theorem Sound.goesOn_of_same (h : history.Sound) {entity : MacEntity}
    (hconfig : entity.config.srConfig = history.entity.config.srConfig) :
    (history.goesOn entity).Sound :=
  h.goesOn_of_eq history.entity.config.srConfig.srPending hconfig
    fun hpends hbefore => absurd hpends hbefore

theorem srConfig_macQueueLogicalChannelData {lchId : MacLogicalChannel} {data : MacLchData}
    {allocation : MacLchAllocation} (h : history.Queues lchId data allocation) :
    (macQueueLogicalChannelData history.entity lchId data allocation).1.config.srConfig
      = { history.entity.config.srConfig with srPending := true } := by
  obtain ⟨hdata, hlchId, hactive, henqueue⟩ := h
  rw [macQueueLogicalChannelData, if_neg hdata, if_neg hlchId, if_pos hactive]
  split
  · rename_i buffer e heq
    rw [heq] at henqueue
    cases henqueue
  · dsimp only
    split
    · rename_i hpending
      have hpends : history.entity.config.srConfig.srPending = true := hpending
      exact congrArg (fun pending => { history.entity.config.srConfig with srPending := pending }) hpends
    · rw [macTriggerSchedulingRequest, if_pos (by exact hactive)]
      rfl

theorem srConfig_macQueueLogicalChannelData_refused {lchId : MacLogicalChannel} {data : MacLchData}
    {allocation : MacLchAllocation} (h : ¬history.Queues lchId data allocation) :
    (macQueueLogicalChannelData history.entity lchId data allocation).1.config.srConfig
      = history.entity.config.srConfig := by
  rw [macQueueLogicalChannelData]
  split
  · rfl
  rename_i hdata
  split
  · rfl
  rename_i hlchId
  split
  · rename_i hactive
    split
    · rfl
    · rename_i buffer henqueue
      exact absurd ⟨hdata, hlchId, hactive, congrArg Prod.snd henqueue⟩ h
  · rfl

theorem macSrTransmit_before (hpending : history.Pending)
    (hbefore : history.entity.config.srConfig.srCounter + 1 < history.entity.config.srConfig.srTransMax) :
    macSrTransmit history.entity
      = (history.entity.updateSr fun sr => { sr with srCounter := sr.srCounter + 1 }, .ok ()) := by
  rw [Pending] at hpending
  rw [macSrTransmit, if_pos hpending]
  exact if_neg (BitVec.not_le.mpr hbefore)

theorem macSrTransmit_last (hpending : history.Pending)
    (hlast : history.entity.config.srConfig.srTransMax ≤ history.entity.config.srConfig.srCounter + 1) :
    macSrTransmit history.entity
      = macInitiateRandomAccess
        ((history.entity.updateSr fun sr => { sr with srCounter := sr.srCounter + 1 }).updateSr
          fun sr => { sr with srPending := false, srCounter := 0 }) := by
  rw [Pending] at hpending
  rw [macSrTransmit, if_pos hpending]
  exact if_pos hlast

theorem macSrTransmit_refused (hpending : ¬history.Pending) :
    macSrTransmit history.entity = (history.entity, .error .invalidParam) := if_neg hpending

theorem config_macInitiateRandomAccess (entity : MacEntity) :
    (macInitiateRandomAccess entity).1.config = entity.config := by
  rw [macInitiateRandomAccess]
  split
  · exact (macSendRachPreamble_keeps entity 1).2
  · rfl

theorem Sound.srTransmit (h : history.Sound) : (macSrStep history .srTransmit).Sound := by
  have hcounter : history.entity.config.srConfig.srCounter.toNat
      < history.entity.config.srConfig.srTransMax.toNat := h.counter
  rw [macSrStep]
  by_cases hpending : history.Pending
  · rw [if_pos hpending]
    by_cases hbefore : history.entity.config.srConfig.srCounter + 1
        < history.entity.config.srConfig.srTransMax
    · rw [macSrTransmit_before hpending hbefore]
      refine ⟨hbefore, fun _ => ?_⟩
      dsimp only
      rw [← h.transmissions hpending]
      change (_ + 1) % 2 ^ 8 = _
      omega
    · rw [macSrTransmit_last hpending (BitVec.not_lt.mp hbefore)]
      constructor
      · dsimp only
        rw [config_macInitiateRandomAccess]
        exact Nat.lt_of_le_of_lt (Nat.zero_le _) hcounter
      · intro hpends
        rw [Pending] at hpends
        dsimp only at hpends
        rw [config_macInitiateRandomAccess] at hpends
        cases hpends
  · rw [if_neg hpending, macSrTransmit_refused hpending]
    exact ⟨h.counter, fun hpends => absurd hpends hpending⟩

theorem Sound.step (h : history.Sound) (op : MacSrOp) (hfresh : history.Fresh op) :
    (macSrStep history op).Sound := by
  cases op with
  | triggerSchedulingRequest =>
      rw [macSrStep, macTriggerSchedulingRequest]
      split
      · rename_i hactive
        exact h.goesOn_of_eq true rfl fun _ hbefore => hfresh hactive hbefore
      · exact h.goesOn_of_same rfl
  | srTrigger =>
      rw [macSrStep, macSrTrigger]
      split
      · exact h.goesOn_of_same rfl
      · rename_i hprohibited
        refine h.goesOn rfl (.inr rfl) fun _ => ?_
        split
        · rename_i hbefore
          exact (hfresh (Bool.eq_false_iff.mpr hprohibited) hbefore).symm
        · rfl
  | srCancel => exact h.goesOn rfl (.inr rfl) fun hpends => absurd hpends Bool.false_ne_true
  | queueLogicalChannelData lchId data allocation =>
      rw [macSrStep]
      by_cases hqueues : history.Queues lchId data allocation
      · exact h.goesOn_of_eq true (srConfig_macQueueLogicalChannelData hqueues)
          fun _ hbefore => hfresh hqueues hbefore
      · exact h.goesOn_of_same (srConfig_macQueueLogicalChannelData_refused hqueues)
  | processSchedulingResponse length =>
      rw [macSrStep, macProcessSchedulingResponse]
      split
      · exact h.goesOn_of_same rfl
      split
      · exact h.goesOn_of_eq false rfl fun hpends => absurd hpends Bool.false_ne_true
      · exact h.goesOn_of_same rfl
  | srTransmit => exact h.srTransmit
  | elsewhere entity => exact h.goesOn_of_same rfl

theorem Sound.keepsSr (h : history.Sound) (op : MacSrOp) : history.KeepsSr op := by
  cases op with
  | srTransmit =>
      intro hidle hstarts
      by_cases hpending : history.Pending
      · refine ⟨hpending, ?_⟩
        have hcounter : history.entity.config.srConfig.srCounter.toNat
            < history.entity.config.srConfig.srTransMax.toNat := h.counter
        by_cases hbefore : history.entity.config.srConfig.srCounter + 1
            < history.entity.config.srConfig.srTransMax
        · rw [macSrTransmit_before hpending hbefore] at hstarts
          exact absurd hstarts hidle
        · have hlast : history.entity.config.srConfig.srTransMax.toNat
              ≤ (history.entity.config.srConfig.srCounter.toNat + 1) % 2 ^ 8 := BitVec.not_lt.mp hbefore
          rw [← h.transmissions hpending]
          omega
      · rw [macSrTransmit_refused hpending] at hstarts
        exact absurd hstarts hidle
  | _ => trivial

/-! ### A counter that is wrong -/

theorem rachState_macInitiateRandomAccess {entity : MacEntity} (hactive : entity.active)
    (hidle : entity.rachState ≠ .active) : (macInitiateRandomAccess entity).1.rachState = .active := by
  rw [macInitiateRandomAccess_eq hactive, macSendRachPreamble, if_pos hactive, if_neg (by decide),
    if_neg hidle]

theorem toNat_succ {counter limit : Byte} (h : counter < limit) :
    (counter + 1).toNat = counter.toNat + 1 := by
  have hlt : counter.toNat < limit.toNat := h
  rw [BitVec.toNat_add]
  change (_ + 1) % 2 ^ 8 = _
  omega

/-- The counter of the pending request is not the number of its transmissions. -/
structure Miscounts (history : MacSrHistory) : Prop where
  pending : history.Pending
  counter : history.entity.config.srConfig.srCounter < history.entity.config.srConfig.srTransMax
  transmissions : history.entity.config.srConfig.srCounter.toNat ≠ history.transmissions

theorem Miscounts.wrong (h : history.Miscounts) (hactive : history.entity.active)
    (hidle : history.entity.rachState ≠ .active) (before : Nat)
    (hbefore : history.entity.config.srConfig.srCounter.toNat + 1 + before
      = history.entity.config.srConfig.srTransMax.toNat) :
    ¬Runs.Always macSrStep KeepsSr history (List.replicate (before + 1) .srTransmit) := by
  induction before generalizing history with
  | zero =>
      rintro ⟨hkeeps, -⟩
      have hlast : history.entity.config.srConfig.srTransMax
          ≤ history.entity.config.srConfig.srCounter + 1 := by
        rw [BitVec.le_def, toNat_succ h.counter]
        omega
      have hstarts : (macSrTransmit history.entity).1.rachState = .active := by
        rw [macSrTransmit_last h.pending hlast]
        exact rachState_macInitiateRandomAccess hactive hidle
      have htransmissions := (hkeeps hidle hstarts).2
      have hcounter := h.transmissions
      omega
  | succ before ih =>
      rintro ⟨-, hrest⟩
      have hmore : history.entity.config.srConfig.srCounter + 1
          < history.entity.config.srConfig.srTransMax := by
        rw [BitVec.lt_def, toNat_succ h.counter]
        omega
      have hstep : macSrStep history .srTransmit
          = { entity := history.entity.updateSr fun sr => { sr with srCounter := sr.srCounter + 1 }
              transmissions := history.transmissions + 1 } := by
        rw [macSrStep, macSrTransmit_before h.pending hmore, if_pos h.pending]
      have hnext : (macSrStep history .srTransmit).Miscounts := by
        rw [hstep]
        refine ⟨h.pending, hmore, ?_⟩
        change (history.entity.config.srConfig.srCounter + 1).toNat ≠ history.transmissions + 1
        rw [toNat_succ h.counter]
        exact fun heq => h.transmissions (Nat.succ.inj heq)
      refine ih hnext (by rw [hstep]; exact hactive) (by rw [hstep]; exact hidle) ?_ hrest
      rw [hstep]
      change (history.entity.config.srConfig.srCounter + 1).toNat + 1 + before = _
      rw [toNat_succ h.counter, Nat.add_right_comm _ 1 before]
      exact hbefore

theorem Sound.miscounts_of_raised (h : history.Sound) (hpending : ¬history.Pending)
    (hcounter : history.entity.config.srConfig.srCounter ≠ 0) {entity : MacEntity}
    (hconfig : entity.config.srConfig = { history.entity.config.srConfig with srPending := true }) :
    (history.goesOn entity).Miscounts := by
  rw [MacSrHistory.goesOn, if_neg hpending]
  refine ⟨congrArg MacSrConfig.srPending hconfig, ?_, ?_⟩
  · dsimp only
    rw [hconfig]
    exact h.counter
  · dsimp only
    rw [hconfig]
    exact fun hzero => hcounter (BitVec.eq_of_toNat_eq hzero)

theorem Sound.miscounts (h : history.Sound) (op : MacSrOp) (hstale : ¬history.Fresh op) :
    (macSrStep history op).Miscounts := by
  cases op with
  | triggerSchedulingRequest =>
      rw [Fresh] at hstale
      push Not at hstale
      obtain ⟨hactive, hpending, hcounter⟩ := hstale
      rw [macSrStep, macTriggerSchedulingRequest, if_pos hactive]
      exact h.miscounts_of_raised hpending hcounter rfl
  | srTrigger =>
      rw [Fresh] at hstale
      push Not at hstale
      obtain ⟨hprohibited, hpending, hcounter⟩ := hstale
      rw [macSrStep, macSrTrigger, if_neg (Bool.eq_false_iff.mp hprohibited),
        MacSrHistory.goesOn, if_pos hpending,
        ← h.transmissions hpending]
      refine ⟨rfl, Nat.lt_of_le_of_lt (Nat.zero_le _) h.counter, fun hzero => ?_⟩
      exact hcounter (BitVec.eq_of_toNat_eq hzero.symm)
  | queueLogicalChannelData lchId data allocation =>
      rw [Fresh] at hstale
      push Not at hstale
      obtain ⟨hqueues, hpending, hcounter⟩ := hstale
      exact h.miscounts_of_raised hpending hcounter (srConfig_macQueueLogicalChannelData hqueues)
  | srCancel => exact absurd trivial hstale
  | processSchedulingResponse length => exact absurd trivial hstale
  | srTransmit => exact absurd trivial hstale
  | elsewhere entity => exact absurd trivial hstale

end MacSrHistory

def MacSrEnds (ops : List MacSrOp) : Prop :=
  ∀ op ∈ ops, op = .srTransmit ∨ ∃ entity, op = .elsewhere entity

theorem MacSrEnds.fresh {ops : List MacSrOp} (h : MacSrEnds ops) (history : MacSrHistory) :
    Runs.Always macSrStep MacSrHistory.Fresh history ops := by
  refine Runs.always_of_forall (fun op hop history => ?_) history
  rcases h op hop with rfl | ⟨entity, rfl⟩
  · trivial
  · trivial

def macSrReady : MacEntity := macActivateEntity (macCreateEntity none)

theorem MacSrHistory.Miscounts.exists_wrong {history : MacSrHistory} (h : history.Miscounts) :
    ∃ more, MacSrEnds more ∧ ¬Runs.Always macSrStep MacSrHistory.KeepsSr history more := by
  have hcounter : history.entity.config.srConfig.srCounter.toNat
      < history.entity.config.srConfig.srTransMax.toNat := h.counter
  obtain ⟨before, hbefore⟩ := Nat.exists_eq_add_of_lt hcounter
  refine ⟨.elsewhere macSrReady :: List.replicate (before + 1) .srTransmit, ?_, fun hgood => ?_⟩
  · intro op hop
    rcases List.mem_cons.mp hop with rfl | hrest
    · exact .inr ⟨_, rfl⟩
    · exact .inl (List.eq_of_mem_replicate hrest)
  · have hready : (macSrStep history (.elsewhere macSrReady)).Miscounts := by
      rw [macSrStep, MacSrHistory.goesOn, if_pos h.pending]
      exact ⟨h.pending, h.counter, h.transmissions⟩
    refine hready.wrong rfl nofun before ?_ hgood.2
    change history.entity.config.srConfig.srCounter.toNat + 1 + before
      = history.entity.config.srConfig.srTransMax.toNat
    omega

/-- **Random access is started only by the last of `trans_max` transmissions of a pending request, in the run
and whatever end a part of it comes to, exactly if every request is raised afresh.** -/
theorem macSr_keepsSr_iff (entity : MacEntity) (srId pucchResource : Byte) (period : BitVec 16)
    (transMax : Byte) (htransMax : 1 ≤ transMax) (ops : List MacSrOp) :
    (∀ count more, MacSrEnds more →
        Runs.Always macSrStep MacSrHistory.KeepsSr
          (.start (macSrConfig entity srId pucchResource period transMax)) (ops.take count ++ more))
      ↔ Runs.Always macSrStep MacSrHistory.Fresh
        (.start (macSrConfig entity srId pucchResource period transMax)) ops := by
  have hsound : (MacSrHistory.start (macSrConfig entity srId pucchResource period transMax)).Sound :=
    ⟨htransMax, nofun⟩
  exact Runs.always_iff_ends (fun _ op h _ => h.keepsSr op) (fun _ op h hfresh => h.step op hfresh)
    (fun history _ h => h.fresh history) (fun _ op h hstale => (h.miscounts op hstale).exists_wrong)
    hsound ops

/-- Two transmissions are allowed, and are made. -/
theorem macSr_keepsSr_twice :
    Runs.Always macSrStep MacSrHistory.KeepsSr (.start (macSrConfig macSrReady 1 0 0 2))
      [.triggerSchedulingRequest, .srTransmit, .srTransmit] :=
  (macSr_keepsSr_iff macSrReady 1 0 0 2 (by decide) [.triggerSchedulingRequest, .srTransmit, .srTransmit]).mpr
    ⟨fun _ _ => rfl, trivial, trivial, trivial⟩ 3 [] nofun

/-- The first request is answered after one transmission, and the second one is given up after one. -/
theorem macSr_not_keepsSr :
    ¬Runs.Always macSrStep MacSrHistory.KeepsSr (.start (macSrConfig macSrReady 1 0 0 2))
      [.triggerSchedulingRequest, .srTransmit, .processSchedulingResponse 1, .triggerSchedulingRequest,
        .srTransmit] := by
  rintro ⟨-, -, -, -, hkeeps, -⟩
  exact absurd (hkeeps (by decide) (by decide)).2 (by decide)

end Uesim
