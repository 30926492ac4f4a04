import Uesim.Mac.Entity

/-!
# Sending transport blocks

Blocks are given HARQ processes in turn, from one counter that all entities share, and sending one starts
its process whatever that is doing. So a block is safe until it is answered only if the feedback comes
before the turn comes round.
-/

namespace Uesim

open Bytes

def macCreateTransportBlock (entity : MacEntity) (dataLength : Nat) (allocated : Bool) :
    MacEntity × Except UesimError MacTb :=
  if allocated then
    ({ entity with tbCounter := entity.tbCounter + 1 },
      .ok
        { data := List.replicate dataLength 0
          tbId := entity.tbCounter.setWidth 16
          harqProcessId := 0
          rnti := 0 })
  else (entity, .error .memory)

def macQueueTransportBlock (entity : MacEntity) (tb : MacTb) : MacEntity × Except UesimError Unit :=
  if entity.active then ({ entity with tbQueue := entity.tbQueue ++ [tb] }, .ok ())
  else (entity, .error .invalidParam)

/-- Besides the entity the counter of HARQ processes moves on. -/
def macProcessTxData (entity : MacEntity) (harqProcessCounter : Word) (data : List Byte)
    (allocated : Bool) : MacEntity × Word × Except UesimError MacTb :=
  if data.length = 0 then (entity, harqProcessCounter, .error .invalidParam)
  else if entity.active then
    match macCreateTransportBlock entity data.length allocated with
    | (entity, .error e) => (entity, harqProcessCounter, .error e)
    | (entity, .ok tb) =>
        let tb :=
          { tb with
            data
            harqProcessId := (harqProcessCounter % 16).setWidth 8
            rnti := entity.config.cRnti }
        match macQueueTransportBlock entity tb with
        | (entity, .error e) => (entity, harqProcessCounter + 1, .error e)
        | (entity, .ok ()) => (entity, harqProcessCounter + 1, .ok tb)
  else (entity, harqProcessCounter, .error .invalidParam)

def macTransmitTb (entity : MacEntity) (tb : MacTb) (allocated : Bool) :
    MacEntity × Except UesimError Unit :=
  if entity.active then
    if h : tb.harqProcessId.toNat < 16 then
      let i : Fin 16 := ⟨tb.harqProcessId.toNat, h⟩
      let (process, result) := macHarqStartTransmission (entity.ulHarq i) tb.data allocated
      ({ entity with ulHarq := Function.update entity.ulHarq i process }, result)
    else (entity, .error .invalidParam)
  else (entity, .error .invalidParam)

/-- `mac_harq_process_ack` for one of the uplink processes. -/
def macUlHarqAck (entity : MacEntity) (i : Fin 16) (ack : Byte) : MacEntity :=
  { entity with
    ulHarq := Function.update entity.ulHarq i (macHarqProcessAck (entity.ulHarq i) ack) }

/-! ### Runs -/

/-- Data may be processed by another entity, which moves the same counter. -/
inductive MacTxOp where
  | processTxData (data : List Byte) (allocated : Bool)
  | processElsewhere
  | transmitTb (tb : MacTb) (allocated : Bool)
  | harqAck (i : Fin 16) (ack : Byte)

/-- `feedback` is what every process has heard of the block it holds, if it holds one. -/
structure MacTxHistory where
  entity : MacEntity
  harqProcessCounter : Word
  feedback : Fin 16 → Option (List Byte)

/-- The feedback is that of a block that is starting, and there is none if the block was lost. -/
def macFeedbackOf (feedback : Option (List Byte)) : Except UesimError Unit → Option (List Byte)
  | .ok () => some []
  | .error .memory => none
  | .error _ => feedback

def macTxStep (history : MacTxHistory) : MacTxOp → MacTxHistory
  | .processTxData data allocated =>
      let outcome := macProcessTxData history.entity history.harqProcessCounter data allocated
      { history with entity := outcome.1, harqProcessCounter := outcome.2.1 }
  | .processElsewhere => { history with harqProcessCounter := history.harqProcessCounter + 1 }
  | .transmitTb tb allocated =>
      let outcome := macTransmitTb history.entity tb allocated
      { history with
        entity := outcome.1
        feedback := fun i =>
          if i.val = tb.harqProcessId.toNat then macFeedbackOf (history.feedback i) outcome.2
          else history.feedback i }
  | .harqAck i ack =>
      { history with
        entity := macUlHarqAck history.entity i ack
        feedback := Function.update history.feedback i ((history.feedback i).map (· ++ [ack])) }

/-- Starting the process frees a block that it holds. -/
def MacHarqProcess.Frees (process : MacHarqProcess) (data : List Byte) : Prop :=
  data.length ≠ 0 ∧ process.tbData ≠ none

/-- The call frees the block of a process that waits for feedback. -/
def MacEntity.Replaces (entity : MacEntity) (tb : MacTb) : Prop :=
  entity.active = true ∧ ∃ h : tb.harqProcessId.toNat < 16,
    (entity.ulHarq ⟨_, h⟩).Frees tb.data ∧ (entity.ulHarq ⟨_, h⟩).state ≠ .idle

instance (entity : MacEntity) (tb : MacTb) : Decidable (entity.Replaces tb) := by
  unfold MacEntity.Replaces MacHarqProcess.Frees
  infer_instance

def MacTxHistory.KeepsBlocks (history : MacTxHistory) : MacTxOp → Prop
  | .transmitTb tb _ => ¬history.entity.Replaces tb
  | _ => True

instance (history : MacTxHistory) : DecidablePred history.KeepsBlocks
  | .transmitTb _ _ => inferInstanceAs (Decidable (¬_))
  | .processTxData _ _ => inferInstanceAs (Decidable True)
  | .processElsewhere => inferInstanceAs (Decidable True)
  | .harqAck _ _ => inferInstanceAs (Decidable True)

def macNacks (acks : List Byte) : Nat := acks.countP (· ≠ 1)

/-- The last feedback was an ACK, or the NACKs, counted in a byte, have used up the retransmissions. -/
def MacAnswered (acks : List Byte) : Prop := acks.getLast? = some 1 ∨ 4 ≤ macNacks acks % 256

/-- No block is sent on a process that holds an unanswered one. -/
def MacTxHistory.Waits (history : MacTxHistory) : MacTxOp → Prop
  | .transmitTb tb _ => history.entity.active = true → tb.data.length ≠ 0 →
      ∀ h : tb.harqProcessId.toNat < 16, ∀ acks, history.feedback ⟨_, h⟩ = some acks → MacAnswered acks
  | _ => True

/-! ### What a process has heard -/

theorem macNacks_append (acks : List Byte) (ack : Byte) :
    macNacks (acks ++ [ack]) = macNacks acks + if ack = 1 then 0 else 1 := by
  rw [macNacks, macNacks, List.countP_append, List.countP_singleton]
  by_cases hack : ack = 1 <;> simp [hack]

theorem macAnswered_append (acks : List Byte) (ack : Byte) :
    MacAnswered (acks ++ [ack]) ↔ ack = 1 ∨ 4 ≤ (macNacks acks + 1) % 256 := by
  rw [MacAnswered, List.getLast?_concat, macNacks_append, Option.some_inj]
  by_cases hack : ack = 1
  · exact iff_of_true (.inl hack) (.inl hack)
  · rw [if_neg hack]

namespace MacHarqProcess

/-- The process holds a block and has heard this feedback since it was started. -/
structure Heard (process : MacHarqProcess) (acks : List Byte) : Prop where
  tbData : process.tbData ≠ none
  count : process.numRetransmissions.toNat = macNacks acks % 256
  idle : process.state = .idle ↔ MacAnswered acks

/-- What is recorded of the process is what it has heard. -/
structure Matches (process : MacHarqProcess) (feedback : Option (List Byte)) : Prop where
  max : process.maxRetransmissions = 4
  lost : feedback = none → process.tbData = none
  heard : ∀ acks, feedback = some acks → process.Heard acks

variable {process : MacHarqProcess} {feedback : Option (List Byte)}

theorem macHarqInitProcess_matches (i : Byte) : (macHarqInitProcess i).Matches none :=
  ⟨rfl, fun _ => rfl, fun _ h => by cases h⟩

theorem Matches.ack (h : process.Matches feedback) (ack : Byte) :
    (macHarqProcessAck process ack).Matches (feedback.map (· ++ [ack])) := by
  have hnext : ∀ acks, process.Heard acks →
      (process.numRetransmissions + 1).toNat = (macNacks acks + 1) % 256 := by
    intro acks hheard
    rw [BitVec.toNat_add, hheard.count]
    change (macNacks acks % 256 + 1) % 2 ^ 8 = (macNacks acks + 1) % 256
    omega
  by_cases hack : ack = 1
  · rw [macHarqProcessAck_ack hack]
    refine ⟨h.max, fun hnone => h.lost (Option.map_eq_none_iff.mp hnone), fun acks hacks => ?_⟩
    obtain ⟨before, hbefore, rfl⟩ := Option.map_eq_some_iff.mp hacks
    have hheard := h.heard before hbefore
    refine ⟨hheard.tbData, ?_, iff_of_true rfl ((macAnswered_append _ _).mpr (.inl hack))⟩
    rw [macNacks_append, if_pos hack, Nat.add_zero]
    exact hheard.count
  · rw [macHarqProcessAck_nack hack]
    refine ⟨h.max, fun hnone => h.lost (Option.map_eq_none_iff.mp hnone), fun acks hacks => ?_⟩
    obtain ⟨before, hbefore, rfl⟩ := Option.map_eq_some_iff.mp hacks
    have hheard := h.heard before hbefore
    have hcount := hnext before hheard
    refine ⟨hheard.tbData, ?_, ?_⟩
    · rw [macNacks_append, if_neg hack]
      exact hcount
    · rw [macAnswered_append, or_iff_right hack, ← hcount]
      dsimp only
      have hless : process.numRetransmissions + 1 < process.maxRetransmissions
          ↔ (process.numRetransmissions + 1).toNat < 4 := by
        rw [h.max, BitVec.lt_def]
        rfl
      simp only [hless]
      split
      · rename_i hfew
        exact iff_of_false (by simp) (Nat.not_le.mpr hfew)
      · rename_i hmany
        exact iff_of_true rfl (Nat.le_of_not_lt hmany)

theorem Matches.start (h : process.Matches feedback) (data : List Byte) (allocated : Bool) :
    (macHarqStartTransmission process data allocated).1.Matches
      (macFeedbackOf feedback (macHarqStartTransmission process data allocated).2) := by
  rw [macHarqStartTransmission]
  split
  · exact h
  split
  · refine ⟨h.max, fun hnone => by simp [macFeedbackOf] at hnone, fun acks hacks => ?_⟩
    obtain rfl : [] = acks := Option.some.inj hacks
    exact ⟨Option.some_ne_none _, rfl, iff_of_false (by simp) (by unfold MacAnswered; decide)⟩
  · exact ⟨h.max, fun _ => rfl, fun _ hacks => by cases hacks⟩

end MacHarqProcess

/-! ### Whole runs -/

namespace MacTxHistory

def Tracks (history : MacTxHistory) : Prop :=
  ∀ i, (history.entity.ulHarq i).Matches (history.feedback i)

theorem ulHarq_macCreateTransportBlock (entity : MacEntity) (dataLength : Nat) (allocated : Bool) :
    (macCreateTransportBlock entity dataLength allocated).1.ulHarq = entity.ulHarq := by
  rw [macCreateTransportBlock]
  split
  · rfl
  · rfl

theorem ulHarq_macQueueTransportBlock (entity : MacEntity) (tb : MacTb) :
    (macQueueTransportBlock entity tb).1.ulHarq = entity.ulHarq := by
  rw [macQueueTransportBlock]
  split
  · rfl
  · rfl

theorem ulHarq_macProcessTxData (entity : MacEntity) (harqProcessCounter : Word) (data : List Byte)
    (allocated : Bool) :
    (macProcessTxData entity harqProcessCounter data allocated).1.ulHarq = entity.ulHarq := by
  have hcreate := ulHarq_macCreateTransportBlock entity data.length allocated
  rw [macProcessTxData]
  split
  · rfl
  split
  · split
    · rename_i created e heq
      rw [heq] at hcreate
      exact hcreate
    · rename_i created tb heq
      rw [heq] at hcreate
      have hqueue := ulHarq_macQueueTransportBlock created
        { tb with
          data
          harqProcessId := (harqProcessCounter % 16).setWidth 8
          rnti := created.config.cRnti }
      dsimp only
      split
      · rename_i queued e heq
        rw [heq] at hqueue
        exact hqueue.trans hcreate
      · rename_i queued heq
        rw [heq] at hqueue
        exact hqueue.trans hcreate
  · rfl

theorem macTransmitTb_cases (entity : MacEntity) (tb : MacTb) (allocated : Bool) :
    macTransmitTb entity tb allocated = (entity, .error .invalidParam)
      ∨ ∃ h : tb.harqProcessId.toNat < 16,
        (macTransmitTb entity tb allocated).1.ulHarq
            = Function.update entity.ulHarq ⟨_, h⟩
              (macHarqStartTransmission (entity.ulHarq ⟨_, h⟩) tb.data allocated).1
          ∧ (macTransmitTb entity tb allocated).2
            = (macHarqStartTransmission (entity.ulHarq ⟨_, h⟩) tb.data allocated).2 := by
  rw [macTransmitTb]
  split
  · split
    · rename_i hid
      exact .inr ⟨hid, rfl, rfl⟩
    · exact .inl rfl
  · exact .inl rfl

theorem Tracks.transmitTb {history : MacTxHistory} (h : history.Tracks) (tb : MacTb)
    (allocated : Bool) : (macTxStep history (.transmitTb tb allocated)).Tracks := by
  intro i
  rw [macTxStep]
  dsimp only
  rcases macTransmitTb_cases history.entity tb allocated with hrefused | ⟨hid, hulHarq, hresult⟩
  · rw [hrefused]
    split
    · exact h i
    · exact h i
  · rw [hulHarq, hresult]
    by_cases hsame : i.val = tb.harqProcessId.toNat
    · obtain rfl : i = ⟨tb.harqProcessId.toNat, hid⟩ := Fin.ext hsame
      rw [if_pos hsame, Function.update_self]
      exact (h _).start tb.data allocated
    · have hne : i ≠ ⟨tb.harqProcessId.toNat, hid⟩ := fun hi => hsame (congrArg Fin.val hi)
      rw [if_neg hsame, Function.update_of_ne hne]
      exact h i

theorem Tracks.step {history : MacTxHistory} (h : history.Tracks) (op : MacTxOp) :
    (macTxStep history op).Tracks := by
  cases op with
  | processTxData data allocated =>
      intro i
      rw [macTxStep]
      dsimp only
      rw [ulHarq_macProcessTxData]
      exact h i
  | processElsewhere => exact h
  | transmitTb tb allocated => exact h.transmitTb tb allocated
  | harqAck i ack =>
      intro j
      rw [macTxStep, macUlHarqAck]
      dsimp only
      by_cases hsame : j = i
      · subst hsame
        rw [Function.update_self, Function.update_self]
        exact (h j).ack ack
      · rw [Function.update_of_ne hsame, Function.update_of_ne hsame]
        exact h j

theorem Tracks.keepsBlocks_iff {history : MacTxHistory} (h : history.Tracks) (op : MacTxOp) :
    history.KeepsBlocks op ↔ history.Waits op := by
  cases op with
  | transmitTb tb allocated =>
      constructor
      · intro hkeeps hactive hdata hid acks hacks
        have hheard := (h ⟨_, hid⟩).heard acks hacks
        by_contra hanswer
        exact hkeeps ⟨hactive, hid, ⟨hdata, hheard.tbData⟩, fun hidle => hanswer (hheard.idle.mp hidle)⟩
      · rintro hwaits ⟨hactive, hid, ⟨hdata, hheld⟩, hstate⟩
        cases hfeedback : history.feedback ⟨_, hid⟩ with
        | none => exact hheld ((h ⟨_, hid⟩).lost hfeedback)
        | some acks =>
            have hheard := (h ⟨_, hid⟩).heard acks hfeedback
            exact hstate (hheard.idle.mpr (hwaits hactive hdata hid acks hfeedback))
  | processTxData data allocated => exact Iff.rfl
  | processElsewhere => exact Iff.rfl
  | harqAck i ack => exact Iff.rfl

end MacTxHistory

/-- **No block is replaced before its feedback exactly when every block that is sent finds the one before it
on its process answered.** -/
theorem macTransmitTb_keepsBlocks_iff (history : MacTxHistory) (h : history.Tracks)
    (ops : List MacTxOp) :
    Runs.Always macTxStep MacTxHistory.KeepsBlocks history ops
      ↔ Runs.Always macTxStep MacTxHistory.Waits history ops :=
  Runs.always_iff (fun _ op h => h.keepsBlocks_iff op) (fun _ op h _ => h.step op) h ops

/-- An entity that is created and activated, and has sent nothing. -/
def macTxStart (config : Option MacConfig) : MacTxHistory :=
  { entity := macActivateEntity (macCreateEntity config)
    harqProcessCounter := 0
    feedback := fun _ => none }

theorem macTxStart_tracks (config : Option MacConfig) : (macTxStart config).Tracks :=
  fun _ => MacHarqProcess.macHarqInitProcess_matches _

/-- Two blocks on one process, the second after an ACK. -/
theorem macTransmitTb_keepsBlocks_acked :
    Runs.Always macTxStep MacTxHistory.KeepsBlocks (macTxStart none)
      [.transmitTb { data := [1], tbId := 0, harqProcessId := 0, rnti := 0x1234 } true, .harqAck 0 1,
        .transmitTb { data := [2], tbId := 16, harqProcessId := 0, rnti := 0x1234 } true] := by
  refine (macTransmitTb_keepsBlocks_iff _ (macTxStart_tracks none) _).mpr
    ⟨fun _ _ _ acks hacks => ?_, trivial, fun _ _ _ acks hacks => ?_, trivial⟩
  · cases hacks
  · cases hacks
    exact .inl rfl

/-- Blocks that carry a byte each, as the calls that process the data make them. -/
def macTxBlocks (sends : Nat) : List MacTb :=
  (List.range sends).map fun k =>
    { data := [BitVec.ofNat 8 k]
      tbId := BitVec.ofNat 16 k
      harqProcessId := BitVec.ofNat 8 (k % 16)
      rnti := 0x1234 }

def macTxSends (blocks : List MacTb) : List MacTxOp :=
  blocks.flatMap fun tb => [.processTxData tb.data true, .transmitTb tb true]

/-- Seventeen blocks are sent before any feedback, and the last one replaces the first. -/
theorem macTransmitTb_not_keepsBlocks :
    ((macTxSends (macTxBlocks 17)).foldl macTxStep (macTxStart none)).entity.tbQueue = macTxBlocks 17
      ∧ ¬Runs.Always macTxStep MacTxHistory.KeepsBlocks (macTxStart none)
        (macTxSends (macTxBlocks 17)) := by
  decide

end Uesim
