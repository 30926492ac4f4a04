import Uesim.Mac.Entity

/-!
# Logical channels

What is queued on a channel is counted twice: in the buffer of the channel, and in the first entry of the
configuration that names it. Entries can be added while something is queued, and sorting can put another one
first.
-/

namespace Uesim

open Bytes

def macConfigureLogicalChannel (entity : MacEntity) (info : MacLchInfo) :
    MacEntity × Except UesimError Unit :=
  if info.lchId = .max then (entity, .error .invalidParam)
  else if entity.config.lchConfig.length < 32 then
    ({ entity with
        config := { entity.config with lchConfig := entity.config.lchConfig ++ [info] } }, .ok ())
  else (entity, .error .invalidParam)

def macPrioritizePass : Nat → List MacLchInfo → List MacLchInfo
  | comparisons + 1, first :: second :: rest =>
      if first.priority > second.priority then
        second :: macPrioritizePass comparisons (first :: rest)
      else first :: macPrioritizePass comparisons (second :: rest)
  | _, infos => infos

/-- The outer loop, with so many rounds to go, each of as many comparisons. -/
def macPrioritizeLoop : Nat → List MacLchInfo → List MacLchInfo
  | 0, infos => infos
  | rounds + 1, infos => macPrioritizeLoop rounds (macPrioritizePass (rounds + 1) infos)

def macPrioritizeLogicalChannels (entity : MacEntity) : MacEntity :=
  { entity with
    config := { entity.config with
      lchConfig := macPrioritizeLoop (entity.config.lchConfig.length - 1) entity.config.lchConfig } }

def macUpdateLch (lchId : MacLogicalChannel) (f : MacLchInfo → MacLchInfo) :
    List MacLchInfo → List MacLchInfo
  | [] => []
  | info :: infos =>
      if info.lchId = lchId then f info :: infos else info :: macUpdateLch lchId f infos

/-- The entity with another buffer for the channel, and its first entry updated. -/
def MacEntity.setLch (entity : MacEntity) (lchId : MacLogicalChannel) (buffer : SoundMacLchBuffer)
    (f : MacLchInfo → MacLchInfo) : MacEntity :=
  { entity with
    lchBuffers := Function.update entity.lchBuffers lchId buffer
    config := { entity.config with lchConfig := macUpdateLch lchId f entity.config.lchConfig } }

def MacLchInfo.queue (info : MacLchInfo) (length : Word) : MacLchInfo :=
  { info with queuedBytes := info.queuedBytes + length }

def macQueueLogicalChannelData (entity : MacEntity) (lchId : MacLogicalChannel) (data : MacLchData)
    (allocation : MacLchAllocation) : MacEntity × Except UesimError Unit :=
  if data.length = 0 then (entity, .error .invalidParam)
  else if lchId = .max then (entity, .error .invalidParam)
  else if entity.active then
    match (entity.lchBuffers lchId).enqueue data allocation with
    | (_, .error e) => (entity, .error e)
    | (buffer, .ok ()) =>
        let entity := entity.setLch lchId buffer fun info => info.queue (data.length.setWidth 32)
        if entity.config.srConfig.srPending then (entity, .ok ())
        else ((macTriggerSchedulingRequest entity).1, .ok ())
  else (entity, .error .invalidParam)

def MacLchInfo.serve (info : MacLchInfo) (length : Word) : MacLchInfo :=
  { info with
    servedBytes := info.servedBytes + length
    queuedBytes := if info.queuedBytes ≥ length then info.queuedBytes - length else 0 }

def macDequeueLogicalChannelData (entity : MacEntity) (lchId : MacLogicalChannel) :
    MacEntity × Except UesimError MacLchData :=
  if lchId = .max then (entity, .error .invalidParam)
  else if entity.active then
    match (entity.lchBuffers lchId).dequeue with
    | (_, .error e) => (entity, .error e)
    | (buffer, .ok data) =>
        (entity.setLch lchId buffer fun info => info.serve (data.length.setWidth 32), .ok data)
  else (entity, .error .invalidParam)

/-! ### The entries of a channel -/

def macQueuedBytes (lchId : MacLogicalChannel) (infos : List MacLchInfo) : Nat :=
  (infos.map fun info => if info.lchId = lchId then info.queuedBytes.toNat else 0).sum

def macFirstLch (lchId : MacLogicalChannel) (infos : List MacLchInfo) : Option MacLchInfo :=
  infos.find? fun info => info.lchId = lchId

section Entries

variable {lchId other : MacLogicalChannel} {infos : List MacLchInfo} {f : MacLchInfo → MacLchInfo}

theorem macQueuedBytes_cons (lchId : MacLogicalChannel) (info : MacLchInfo) (infos : List MacLchInfo) :
    macQueuedBytes lchId (info :: infos)
      = (if info.lchId = lchId then info.queuedBytes.toNat else 0) + macQueuedBytes lchId infos := rfl

theorem macQueuedBytes_perm {infos' : List MacLchInfo} (h : infos.Perm infos') :
    macQueuedBytes lchId infos = macQueuedBytes lchId infos' :=
  (h.map _).sum_nat

theorem macPrioritizePass_perm (comparisons : Nat) (infos : List MacLchInfo) :
    (macPrioritizePass comparisons infos).Perm infos := by
  fun_induction macPrioritizePass comparisons infos with
  | case1 comparisons first second rest hswap ih => exact (ih.cons second).trans (.swap first second rest)
  | case2 comparisons first second rest hswap ih => exact ih.cons first
  | case3 => exact .refl _

theorem macPrioritizeLoop_perm (rounds : Nat) (infos : List MacLchInfo) :
    (macPrioritizeLoop rounds infos).Perm infos := by
  induction rounds generalizing infos with
  | zero => exact .refl _
  | succ rounds ih => exact (ih _).trans (macPrioritizePass_perm _ _)

theorem map_lchId_macUpdateLch (hf : ∀ info, (f info).lchId = info.lchId) :
    (macUpdateLch lchId f infos).map (·.lchId) = infos.map (·.lchId) := by
  induction infos with
  | nil => rfl
  | cons info infos ih =>
      rw [macUpdateLch]
      split
      · rw [List.map_cons, List.map_cons, hf]
      · rw [List.map_cons, List.map_cons, ih]

theorem macQueuedBytes_update_other (hf : ∀ info, (f info).lchId = info.lchId) (hne : other ≠ lchId) :
    macQueuedBytes other (macUpdateLch lchId f infos) = macQueuedBytes other infos := by
  induction infos with
  | nil => rfl
  | cons info infos ih =>
      rw [macUpdateLch]
      split
      · rename_i hinfo
        have hother : ¬info.lchId = other := fun h => hne (h.symm.trans hinfo)
        rw [macQueuedBytes_cons, macQueuedBytes_cons, hf, if_neg hother, if_neg hother]
      · rw [macQueuedBytes_cons, macQueuedBytes_cons, ih]

theorem macQueuedBytes_update_self (hf : ∀ info, (f info).lchId = info.lchId) {first : MacLchInfo}
    (hfirst : macFirstLch lchId infos = some first) :
    macQueuedBytes lchId (macUpdateLch lchId f infos) + first.queuedBytes.toNat
      = macQueuedBytes lchId infos + (f first).queuedBytes.toNat := by
  induction infos with
  | nil => cases hfirst
  | cons info infos ih =>
      rw [macUpdateLch]
      by_cases hinfo : info.lchId = lchId
      · have hsame : info = first := by
          simpa [macFirstLch, hinfo] using hfirst
        subst hsame
        rw [if_pos hinfo, macQueuedBytes_cons, macQueuedBytes_cons, hf, if_pos hinfo, if_pos hinfo]
        omega
      · have hrest : macFirstLch lchId infos = some first := by
          simpa [macFirstLch, hinfo] using hfirst
        have hsum := ih hrest
        rw [if_neg hinfo, macQueuedBytes_cons, macQueuedBytes_cons, if_neg hinfo]
        omega

theorem queuedBytes_le {first : MacLchInfo} (hfirst : macFirstLch lchId infos = some first) :
    first.queuedBytes.toNat ≤ macQueuedBytes lchId infos := by
  induction infos with
  | nil => cases hfirst
  | cons info infos ih =>
      rw [macQueuedBytes_cons]
      by_cases hinfo : info.lchId = lchId
      · have hsame : info = first := by
          simpa [macFirstLch, hinfo] using hfirst
        rw [if_pos hinfo, hsame]
        exact Nat.le_add_right _ _
      · have hrest : macFirstLch lchId infos = some first := by
          simpa [macFirstLch, hinfo] using hfirst
        exact Nat.le_trans (ih hrest) (Nat.le_add_left _ _)

theorem exists_first (h : lchId ∈ infos.map (·.lchId)) : ∃ first, macFirstLch lchId infos = some first := by
  obtain ⟨info, hinfo, hid⟩ := List.mem_map.mp h
  cases hfirst : macFirstLch lchId infos with
  | none =>
      have hnone := List.find?_eq_none.mp hfirst info hinfo
      exact absurd (decide_eq_true hid) hnone
  | some first => exact ⟨first, rfl⟩

theorem macQueuedBytes_append (infos : List MacLchInfo) (info : MacLchInfo) :
    macQueuedBytes lchId (infos ++ [info])
      = macQueuedBytes lchId infos + if info.lchId = lchId then info.queuedBytes.toNat else 0 := by
  simp [macQueuedBytes]

theorem macQueuedBytes_of_not_mem (h : lchId ∉ infos.map (·.lchId)) : macQueuedBytes lchId infos = 0 := by
  induction infos with
  | nil => rfl
  | cons info infos ih =>
      rw [List.map_cons, List.mem_cons, not_or] at h
      rw [macQueuedBytes_cons, if_neg (Ne.symm h.1), ih h.2]

end Entries

/-! ### Both counts agree -/

namespace MacEntity

def Configured (entity : MacEntity) (lchId : MacLogicalChannel) : Prop :=
  lchId ∈ entity.config.lchConfig.map (·.lchId)

def bufferedBytes (entity : MacEntity) (lchId : MacLogicalChannel) : Nat :=
  (macLchBufferGetBytes (entity.lchBuffers lchId).buffer).toNat

/-- The entries of a channel that has some count the bytes in its buffer. -/
def Accounted (entity : MacEntity) : Prop :=
  ∀ lchId, entity.Configured lchId →
    macQueuedBytes lchId entity.config.lchConfig = entity.bufferedBytes lchId

section SetLch

variable {entity : MacEntity} {lchId : MacLogicalChannel} {buffer : SoundMacLchBuffer}
  {f : MacLchInfo → MacLchInfo}

@[simp]
theorem lchBuffers_setLch :
    (entity.setLch lchId buffer f).lchBuffers = Function.update entity.lchBuffers lchId buffer := rfl

@[simp]
theorem lchConfig_setLch : (entity.setLch lchId buffer f).config.lchConfig
    = macUpdateLch lchId f entity.config.lchConfig := rfl

theorem configured_of_first {first : MacLchInfo}
    (hfirst : macFirstLch lchId entity.config.lchConfig = some first) : entity.Configured lchId := by
  have hfound := List.find?_some hfirst
  exact List.mem_map.mpr ⟨first, List.mem_of_find?_eq_some hfirst, of_decide_eq_true hfound⟩

theorem configured_setLch (hf : ∀ info, (f info).lchId = info.lchId) (other : MacLogicalChannel) :
    (entity.setLch lchId buffer f).Configured other ↔ entity.Configured other := by
  rw [Configured, Configured]
  exact iff_of_eq (congrArg (other ∈ ·) (map_lchId_macUpdateLch hf))

theorem Accounted.setLch_iff (h : entity.Accounted) (hf : ∀ info, (f info).lchId = info.lchId) :
    (entity.setLch lchId buffer f).Accounted
      ↔ ∀ first, macFirstLch lchId entity.config.lchConfig = some first →
        entity.bufferedBytes lchId + (f first).queuedBytes.toNat
          = buffer.buffer.totalBytes.toNat + first.queuedBytes.toNat := by
  have hself : (entity.setLch lchId buffer f).bufferedBytes lchId
      = buffer.buffer.totalBytes.toNat := by
    rw [bufferedBytes, lchBuffers_setLch, Function.update_self, macLchBufferGetBytes]
  constructor
  · intro hset first hfirst
    have hconfigured := configured_of_first hfirst
    have hnew := hset lchId ((configured_setLch hf lchId).mpr hconfigured)
    have hold := h lchId hconfigured
    have hsum := macQueuedBytes_update_self hf hfirst
    rw [hself, lchConfig_setLch] at hnew
    omega
  · intro hboth other hother
    have hconfigured := (configured_setLch hf other).mp hother
    have hold := h other hconfigured
    by_cases hsame : other = lchId
    · subst hsame
      obtain ⟨first, hfirst⟩ := exists_first hconfigured
      have hsum := macQueuedBytes_update_self hf hfirst
      have heq := hboth first hfirst
      rw [hself, lchConfig_setLch]
      omega
    · have hbuffer : (entity.setLch lchId buffer f).bufferedBytes other
          = entity.bufferedBytes other := by
        rw [bufferedBytes, lchBuffers_setLch, Function.update_of_ne hsame, bufferedBytes]
      rw [hbuffer, ← hold]
      exact macQueuedBytes_update_other hf hsame

end SetLch

end MacEntity

/-! ### One call -/

/-- A channel is configured with nothing queued. -/
inductive MacLchCall where
  | configure (info : MacLchInfo) (unused : info.queuedBytes = 0)
  | queue (lchId : MacLogicalChannel) (data : MacLchData) (allocation : MacLchAllocation)
  | dequeue (lchId : MacLogicalChannel)
  | prioritize

def macLchCall (entity : MacEntity) : MacLchCall → MacEntity
  | .configure info _ => (macConfigureLogicalChannel entity info).1
  | .queue lchId data allocation => (macQueueLogicalChannelData entity lchId data allocation).1
  | .dequeue lchId => (macDequeueLogicalChannelData entity lchId).1
  | .prioritize => macPrioritizeLogicalChannels entity

namespace MacEntity

/-- The first entry of a channel comes while its buffer is empty, and what is dequeued is not more than the
first entry of the channel counts. -/
def KeepsCount (entity : MacEntity) : MacLchCall → Prop
  | .configure info _ => info.lchId ≠ .max → entity.config.lchConfig.length < 32 →
      ¬entity.Configured info.lchId → entity.bufferedBytes info.lchId = 0
  | .queue _ _ _ => True
  | .dequeue lchId => lchId ≠ .max → entity.active = true →
      ∀ first data, macFirstLch lchId entity.config.lchConfig = some first →
        macLchBufferPeek (entity.lchBuffers lchId).buffer = some data →
          data.bytes.length ≤ first.queuedBytes.toNat
  | .prioritize => True

variable {entity : MacEntity}

theorem Accounted.configure_iff (h : entity.Accounted) (info : MacLchInfo)
    (hunused : info.queuedBytes = 0) :
    (macLchCall entity (.configure info hunused)).Accounted
      ↔ entity.KeepsCount (.configure info hunused) := by
  rw [macLchCall, macConfigureLogicalChannel]
  split
  · rename_i hmax
    exact iff_of_true h fun hne => absurd hmax hne
  rename_i hmax
  split
  · rename_i hroom
    have hqueued : ∀ lchId, macQueuedBytes lchId (entity.config.lchConfig ++ [info])
        = macQueuedBytes lchId entity.config.lchConfig := by
      intro lchId
      have hzero : (0 : Word).toNat = 0 := rfl
      rw [macQueuedBytes_append, hunused, hzero, ite_self, Nat.add_zero]
    constructor
    · intro hadded _ _ hnew
      have hsum := hadded info.lchId (List.mem_map.mpr ⟨info, by simp, rfl⟩)
      change macQueuedBytes info.lchId (entity.config.lchConfig ++ [info])
        = entity.bufferedBytes info.lchId at hsum
      rw [← hsum, hqueued, macQueuedBytes_of_not_mem hnew]
    · intro hkeeps lchId hconfigured
      change macQueuedBytes lchId (entity.config.lchConfig ++ [info]) = entity.bufferedBytes lchId
      rw [hqueued]
      by_cases hold : entity.Configured lchId
      · exact h lchId hold
      · have hlast : lchId = info.lchId := by
          obtain ⟨other, hother, hid⟩ := List.mem_map.mp hconfigured
          rcases List.mem_append.mp hother with hbefore | hthis
          · exact absurd (List.mem_map.mpr ⟨other, hbefore, hid⟩) hold
          · rw [← hid, List.mem_singleton.mp hthis]
        rw [macQueuedBytes_of_not_mem hold]
        subst hlast
        exact (hkeeps hmax hroom hold).symm
  · rename_i hfull
    exact iff_of_true h fun _ hroom => absurd hroom hfull

theorem Accounted.queue (h : entity.Accounted) (lchId : MacLogicalChannel) (data : MacLchData)
    (allocation : MacLchAllocation) : (macLchCall entity (.queue lchId data allocation)).Accounted := by
  rw [macLchCall, macQueueLogicalChannelData]
  split
  · exact h
  split
  · exact h
  split
  · split
    · exact h
    · rename_i buffer henqueue
      have hcount : buffer.buffer.totalBytes.toNat = entity.bufferedBytes lchId + data.bytes.length := by
        rcases (entity.lchBuffers lchId).enqueue_cases data allocation with ⟨-, htotal⟩ | ⟨⟨e, he⟩, -⟩
        · rw [henqueue] at htotal
          exact htotal
        · rw [henqueue] at he
          cases he
      have hkept : ∀ info : MacLchInfo, (info.queue (data.length.setWidth 32)).lchId = info.lchId :=
        fun _ => rfl
      have hset : (entity.setLch lchId buffer fun info =>
          info.queue (data.length.setWidth 32)).Accounted := by
        refine (h.setLch_iff hkept).mpr fun first hfirst => ?_
        have hle := queuedBytes_le hfirst
        have hsum := h lchId (configured_of_first hfirst)
        have hlt := buffer.buffer.totalBytes.isLt
        rw [MacLchInfo.queue, BitVec.toNat_add, BitVec.toNat_setWidth, toNat_length]
        omega
      dsimp only
      split
      · exact hset
      · rw [macTriggerSchedulingRequest]
        split
        · exact hset
        · exact hset
  · exact h

theorem queuedBytes_serve (info : MacLchInfo) (length : Word) :
    (info.serve length).queuedBytes.toNat = info.queuedBytes.toNat - length.toNat := by
  rw [MacLchInfo.serve]
  dsimp only
  split
  · rename_i hge
    exact BitVec.toNat_sub_of_le hge
  · rename_i hlt
    rw [ge_iff_le, BitVec.le_def] at hlt
    change 0 = _
    omega

theorem Accounted.serve_iff (h : entity.Accounted) {lchId : MacLogicalChannel} {buffer : SoundMacLchBuffer}
    {data : MacLchData}
    (hcount : buffer.buffer.totalBytes.toNat + data.bytes.length = entity.bufferedBytes lchId) :
    (entity.setLch lchId buffer fun info => info.serve (data.length.setWidth 32)).Accounted
      ↔ ∀ first, macFirstLch lchId entity.config.lchConfig = some first →
        data.bytes.length ≤ first.queuedBytes.toNat := by
  have hkept : ∀ info : MacLchInfo, (info.serve (data.length.setWidth 32)).lchId = info.lchId :=
    fun _ => rfl
  have hlt : entity.bufferedBytes lchId < 2 ^ 32 := BitVec.isLt _
  have hlength : (data.length.setWidth 32).toNat = data.bytes.length := by
    rw [BitVec.toNat_setWidth, toNat_length]
    omega
  refine (h.setLch_iff hkept).trans (forall_congr' fun first => forall_congr' fun _ => ?_)
  rw [queuedBytes_serve, hlength]
  omega

theorem Accounted.dequeue_iff (h : entity.Accounted) (lchId : MacLogicalChannel) :
    (macLchCall entity (.dequeue lchId)).Accounted ↔ entity.KeepsCount (.dequeue lchId) := by
  rw [macLchCall, macDequeueLogicalChannelData]
  split
  · rename_i hmax
    exact iff_of_true h fun hne => absurd hmax hne
  rename_i hmax
  split
  · rename_i hactive
    rcases (entity.lchBuffers lchId).dequeue_cases with ⟨data, hpeek, hok, hcount⟩ | ⟨hnone, ⟨e, he⟩, -⟩
    · split
      · rename_i buffer e hdequeue
        rw [hdequeue] at hok
        cases hok
      · rename_i buffer out hdequeue
        rw [hdequeue] at hok hcount
        cases hok
        refine (h.serve_iff hcount).trans ⟨fun hall => ?_, fun hkeeps => ?_⟩
        · intro _ _ first other hfirst hother
          rw [hpeek] at hother
          cases hother
          exact hall first hfirst
        · exact fun first hfirst => hkeeps hmax hactive first data hfirst hpeek
    · split
      · refine iff_of_true h fun _ _ first data _ hpeek => ?_
        rw [hnone] at hpeek
        cases hpeek
      · rename_i buffer out hdequeue
        rw [hdequeue] at he
        cases he
  · rename_i hinactive
    exact iff_of_true h fun _ hactive => absurd hactive hinactive

theorem Accounted.prioritize (h : entity.Accounted) : (macLchCall entity .prioritize).Accounted := by
  have hperm := macPrioritizeLoop_perm (entity.config.lchConfig.length - 1) entity.config.lchConfig
  intro lchId hconfigured
  exact (macQueuedBytes_perm hperm).trans (h lchId ((hperm.map _).mem_iff.mp hconfigured))

theorem Accounted.call_iff (h : entity.Accounted) (call : MacLchCall) :
    (macLchCall entity call).Accounted ↔ entity.KeepsCount call := by
  cases call with
  | configure info hunused => exact h.configure_iff info hunused
  | queue lchId data allocation => exact iff_of_true (h.queue lchId data allocation) trivial
  | dequeue lchId => exact h.dequeue_iff lchId
  | prioritize => exact iff_of_true h.prioritize trivial

end MacEntity

/-! ### Whole runs -/

/-- **Entries and buffers agree throughout exactly when no channel is configured late and no call dequeues
more than the first entry counts.** -/
theorem macEntity_accounted_iff (entity : MacEntity) (h : entity.Accounted) (calls : List MacLchCall) :
    Runs.Throughout macLchCall MacEntity.Accounted entity calls
      ↔ Runs.Always macLchCall MacEntity.KeepsCount entity calls :=
  Runs.throughout_iff (fun _ h => h) (fun _ call h => h.call_iff call)
    (fun _ call h hkeeps => (h.call_iff call).mpr hkeeps) h calls

theorem macCreateEntity_accounted : (macActivateEntity (macCreateEntity none)).Accounted :=
  fun _ h => by cases h

/-- Two bytes that are queued on a configured channel and taken out again. -/
theorem macEntity_accounted_queued :
    Runs.Throughout macLchCall MacEntity.Accounted (macActivateEntity (macCreateEntity none))
      [.configure { lchId := .dcch, priority := 1, servedBytes := 0, queuedBytes := 0 } rfl,
        .queue .dcch { bytes := [0x7E, 0x00], inMemory := by decide } (.only 0), .prioritize,
        .dequeue .dcch] := by
  refine (macEntity_accounted_iff _ macCreateEntity_accounted _).mpr
    ⟨fun _ _ _ => rfl, trivial, trivial, fun _ _ first data hfirst hpeek => ?_, trivial⟩
  cases hfirst
  cases hpeek
  decide

/-- Two bytes are queued on a channel, and then it is configured. -/
theorem macEntity_not_accounted :
    ¬Runs.Throughout macLchCall MacEntity.Accounted (macActivateEntity (macCreateEntity none))
      [.queue .dcch { bytes := [0x7E, 0x00], inMemory := by decide } (.only 0),
        .configure { lchId := .dcch, priority := 1, servedBytes := 0, queuedBytes := 0 } rfl] := by
  rintro ⟨-, -, haccounted⟩
  have hsum := haccounted .dcch (List.mem_singleton.mpr rfl)
  exact absurd hsum (by decide)

end Uesim
