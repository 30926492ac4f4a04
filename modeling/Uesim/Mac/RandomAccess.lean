import Uesim.Library.BitMemory
import Uesim.Mac.Entity

/-!
# Random access

A preamble is sent, and the response is searched for the entry that answers it. The search takes a payload
to be four bytes, which are six, so behind an entry of another preamble it goes on inside of that entry.
And a response without an answer leaves the procedure active, so that there is no next preamble.
-/

namespace Uesim

open Bytes BitMemory

def macSendRachPreamble (entity : MacEntity) (preambleIndex : Byte) :
    MacEntity × Except UesimError Unit :=
  if entity.active then
    if preambleIndex ≥ 64 then (entity, .error .invalidParam)
    else if entity.rachState = .active then (entity, .error .protocol)
    else
      ({ entity with
          rachState := .active
          rachPreambleIndex := preambleIndex
          rachPower :=
            if entity.rachAttempt > 0 then
              entity.rachPower + entity.config.rachConfig.powerRampingStep / 10
            else entity.config.rachConfig.preambleInitialRxTargetPower
          rachContentionTimer := entity.config.rachConfig.raContentionResolutionTimer },
        .ok ())
  else (entity, .error .invalidParam)

def macInitiateRandomAccess (entity : MacEntity) : MacEntity × Except UesimError Unit :=
  if entity.active then macSendRachPreamble entity 1 else (entity, .error .invalidParam)

inductive MacRar where
  | matched (taCommand ulGrant tcRnti : BitVec 16)
  | truncated
  | notFound
  deriving DecidableEq

def macRarTaCommand (byte0 byte1 : Byte) : BitVec 16 :=
  (byte0 &&& 0x7F).setWidth 16 <<< 5 ||| ((byte1 >>> 3) &&& 0x1F).setWidth 16

/-- The bits that are shifted by seventeen do not fit. -/
def macRarUlGrant (byte1 byte2 byte3 : Byte) : BitVec 16 :=
  ((byte1 &&& 0x07).setWidth 32 <<< 17).setWidth 16
    ||| (byte2.setWidth 32 <<< 9 ||| ((byte3 >>> 7) &&& 0x01).setWidth 32 <<< 8).setWidth 16
    ||| (byte3 &&& 0xFF).setWidth 16

def macRarTcRnti (byte4 byte5 : Byte) : BitVec 16 := byte4.setWidth 16 <<< 8 ||| byte5.setWidth 16

def macRarPayload (response : Memory) (length offset : Nat) : MacRar :=
  if offset + 4 > length then .truncated
  else
    .matched (macRarTaCommand (response offset) (response (offset + 1)))
      (macRarUlGrant (response (offset + 1)) (response (offset + 2)) (response (offset + 3)))
      (if offset + 5 < length then macRarTcRnti (response (offset + 4)) (response (offset + 5)) else 0)

/-- The loop over the subheaders, on so many rounds. Every round moves the offset on, so there are no more
than bytes. -/
def macRarLoop (preambleIndex : Byte) (response : Memory) (length : Nat) : Nat → Nat → MacRar
  | 0, _ => .notFound
  | rounds + 1, offset =>
      if offset < length then
        let subheader := response offset
        let eBit := subheader.getLsbD 7
        let tBit := subheader.getLsbD 6
        let rapid := subheader &&& 0x3F
        if tBit ∧ rapid = preambleIndex then macRarPayload response length (offset + 1)
        else if eBit then
          macRarLoop preambleIndex response length rounds (if tBit then offset + 1 + 4 else offset + 1)
        else .notFound
      else .notFound

def macFindRar (preambleIndex : Byte) (response : Memory) (length : Nat) : MacRar :=
  macRarLoop preambleIndex response length length 0

/-- `rand` is the random number for the backoff. -/
def macReceiveRachResponse (entity : MacEntity) (response : Memory) (length : Nat) (rand : Word) :
    MacEntity × Except UesimError Unit :=
  if length = 0 then (entity, .error .invalidParam)
  else if entity.active then
    if entity.rachState ≠ .active then (entity, .error .protocol)
    else if length < 5 then (entity, .error .protocol)
    else
      match macFindRar entity.rachPreambleIndex response length with
      | .truncated => (entity, .error .protocol)
      | .notFound =>
          let entity := { entity with rachAttempt := entity.rachAttempt + 1 }
          if entity.rachAttempt ≥ entity.config.rachConfig.preambleTransMax then
            ({ entity with rachState := .failed }, .error .maxRetries)
          else ({ entity with rachBackoff := (rand % 10 + 1).setWidth 16 }, .error .retry)
      | .matched taCommand ulGrant tcRnti =>
          ({ entity with
              rachState := .success
              timingAdvance := taCommand.setWidth 32 * 512
              config := { entity.config with
                cRnti := if tcRnti ≠ 0 then tcRnti else entity.config.cRnti }
              rachUlGrant := ulGrant.setWidth 32
              rachContentionTimer := 0 },
            .ok ())
  else (entity, .error .invalidParam)

/-! ### Responses -/

/-- An entry of a response: the preamble it answers, and its payload. -/
structure MacRarEntry where
  rapid : BitVec 6
  byte0 : Byte
  byte1 : Byte
  byte2 : Byte
  byte3 : Byte
  byte4 : Byte
  byte5 : Byte

namespace MacRarEntry

def payload (entry : MacRarEntry) : List Byte :=
  [entry.byte0, entry.byte1, entry.byte2, entry.byte3, entry.byte4, entry.byte5]

/-- The bits one to twelve of the payload. -/
def taCommand (entry : MacRarEntry) : Nat := entry.byte0.toNat % 2 ^ 7 * 2 ^ 5 + entry.byte1.toNat / 2 ^ 3

def tcRnti (entry : MacRarEntry) : Nat := entry.byte4.toNat * 2 ^ 8 + entry.byte5.toNat

def Answers (entry : MacRarEntry) (preambleIndex : Byte) : Prop := entry.rapid.setWidth 8 = preambleIndex

instance (entry : MacRarEntry) (preambleIndex : Byte) : Decidable (entry.Answers preambleIndex) :=
  inferInstanceAs (Decidable (_ = _))

end MacRarEntry

def macRarSubheader (extension : Bool) (rapid : BitVec 6) : Byte :=
  BitVec.ofBool extension ++ (1 : BitVec 1) ++ rapid

/-- The entries one behind the other, all but the last with the extension bit. -/
def macRarPdu : List MacRarEntry → List Byte
  | [] => []
  | entry :: entries =>
      macRarSubheader (!entries.isEmpty) entry.rapid :: (entry.payload ++ macRarPdu entries)

/-! ### Sending a preamble -/

section Send

variable {entity : MacEntity}

theorem macSendRachPreamble_ok_iff (hactive : entity.active) (preambleIndex : Byte) :
    (macSendRachPreamble entity preambleIndex).2 = .ok ()
      ↔ preambleIndex < 64 ∧ entity.rachState ≠ .active := by
  rw [macSendRachPreamble, if_pos hactive]
  split
  · rename_i hge
    exact iff_of_false nofun fun h => absurd hge (BitVec.not_le.mpr h.1)
  split
  · rename_i hstate
    exact iff_of_false nofun fun h => h.2 hstate
  · rename_i hlt hstate
    exact iff_of_true rfl ⟨BitVec.not_le.mp hlt, hstate⟩

theorem macSendRachPreamble_keeps (entity : MacEntity) (preambleIndex : Byte) :
    (macSendRachPreamble entity preambleIndex).1.active = entity.active
      ∧ (macSendRachPreamble entity preambleIndex).1.config = entity.config := by
  rw [macSendRachPreamble]
  split
  · split
    · exact ⟨rfl, rfl⟩
    split
    · exact ⟨rfl, rfl⟩
    · exact ⟨rfl, rfl⟩
  · exact ⟨rfl, rfl⟩

theorem rachPower_macSendRachPreamble {preambleIndex : Byte}
    (h : (macSendRachPreamble entity preambleIndex).2 = .ok ()) :
    (macSendRachPreamble entity preambleIndex).1.rachPower
      = if entity.rachAttempt > 0 then entity.rachPower + entity.config.rachConfig.powerRampingStep / 10
        else entity.config.rachConfig.preambleInitialRxTargetPower := by
  rw [macSendRachPreamble] at h ⊢
  split at h
  · split at h
    · cases h
    split at h
    · cases h
    · rename_i hactive hlt hstate
      rw [if_pos hactive, if_neg hlt, if_neg hstate]
  · cases h

theorem macInitiateRandomAccess_eq (hactive : entity.active) :
    macInitiateRandomAccess entity = macSendRachPreamble entity 1 := if_pos hactive

end Send

/-! ### What the search finds -/

theorem macRarTcRnti_toNat (byte4 byte5 : Byte) :
    (macRarTcRnti byte4 byte5).toNat = byte4.toNat * 2 ^ 8 + byte5.toNat := by
  have h4 : byte4.toNat % 2 ^ 16 = byte4.toNat := Nat.mod_eq_of_lt (by omega)
  have h5 : byte5.toNat % 2 ^ 16 = byte5.toNat := Nat.mod_eq_of_lt (by omega)
  have hshift : byte4.toNat <<< 8 % 2 ^ 16 = byte4.toNat <<< 8 :=
    Nat.mod_eq_of_lt (by rw [Nat.shiftLeft_eq]; omega)
  rw [macRarTcRnti, BitVec.toNat_or, BitVec.toNat_shiftLeft, BitVec.toNat_setWidth, BitVec.toNat_setWidth,
    h4, h5, hshift, ← Nat.shiftLeft_add_eq_or_of_lt byte5.isLt, Nat.shiftLeft_eq]

theorem macRarTaCommand_toNat (byte0 byte1 : Byte) :
    (macRarTaCommand byte0 byte1).toNat = byte0.toNat % 2 ^ 7 * 2 ^ 5 + byte1.toNat / 2 ^ 3 := by
  have hhigh : (byte0 &&& 0x7F).toNat = byte0.toNat % 2 ^ 7 := by
    rw [BitVec.toNat_and]
    exact Nat.and_two_pow_sub_one_eq_mod _ 7
  have hlow : ((byte1 >>> 3) &&& 0x1F).toNat = byte1.toNat / 2 ^ 3 := by
    rw [BitVec.toNat_and, BitVec.toNat_ushiftRight, Nat.shiftRight_eq_div_pow]
    exact (Nat.and_two_pow_sub_one_eq_mod _ 5).trans (Nat.mod_eq_of_lt (by omega))
  have h0 : byte0.toNat % 2 ^ 7 % 2 ^ 16 = byte0.toNat % 2 ^ 7 := Nat.mod_eq_of_lt (by omega)
  have h1 : byte1.toNat / 2 ^ 3 % 2 ^ 16 = byte1.toNat / 2 ^ 3 := Nat.mod_eq_of_lt (by omega)
  have hshift : (byte0.toNat % 2 ^ 7) <<< 5 % 2 ^ 16 = (byte0.toNat % 2 ^ 7) <<< 5 :=
    Nat.mod_eq_of_lt (by rw [Nat.shiftLeft_eq]; omega)
  rw [macRarTaCommand, BitVec.toNat_or, BitVec.toNat_shiftLeft, BitVec.toNat_setWidth,
    BitVec.toNat_setWidth, hhigh, hlow, h0, h1, hshift, ← Nat.shiftLeft_add_eq_or_of_lt (by omega),
    Nat.shiftLeft_eq]

theorem macRarSubheader_extension (extension : Bool) (rapid : BitVec 6) :
    (macRarSubheader extension rapid).getLsbD 7 = extension := by
  rw [macRarSubheader, BitVec.getLsbD_append, BitVec.getLsbD_append]
  simp

theorem macRarSubheader_type (extension : Bool) (rapid : BitVec 6) :
    (macRarSubheader extension rapid).getLsbD 6 = true := by
  rw [macRarSubheader, BitVec.getLsbD_append, BitVec.getLsbD_append]
  simp

theorem macRarSubheader_rapid (extension : Bool) (rapid : BitVec 6) :
    macRarSubheader extension rapid &&& 0x3F = rapid.setWidth 8 := by
  apply BitVec.eq_of_getLsbD_eq
  intro i hi
  have hmask : (0x3F : BitVec 8).getLsbD i = decide (i < 6) := by
    rw [show (0x3F : BitVec 8) = (BitVec.allOnes 6).setWidth 8 from rfl, BitVec.getLsbD_setWidth,
      BitVec.getLsbD_allOnes]
    simp [hi]
  rw [BitVec.getLsbD_and, hmask, macRarSubheader, BitVec.getLsbD_append, BitVec.getLsbD_setWidth]
  by_cases h : i < 6
  · simp [h, hi]
  · simp [h, BitVec.getLsbD_of_ge rapid i (by omega)]

theorem macRarSubheader_matches (extension : Bool) {p : Byte} (hp : p < 64) :
    macRarSubheader extension (p.setWidth 6) &&& 0x3F = p := by
  rw [macRarSubheader_rapid]
  apply BitVec.eq_of_toNat_eq
  rw [BitVec.toNat_setWidth, BitVec.toNat_setWidth]
  have hlt : p.toNat < 64 := hp
  omega

theorem macRar_rapid_lt (subheader : Byte) : (subheader &&& 0x3F).toNat < 64 := by
  rw [BitVec.toNat_and]
  exact Nat.and_lt_two_pow (n := 6) _ (by decide)

theorem length_macRarPdu (entries : List MacRarEntry) : (macRarPdu entries).length = 7 * entries.length := by
  induction entries with
  | nil => rfl
  | cons entry entries ih =>
      rw [macRarPdu, List.length_cons, List.length_append, ih, List.length_cons]
      change 6 + 7 * entries.length + 1 = 7 * (entries.length + 1)
      omega

theorem length_macRarPdu_cons (entry : MacRarEntry) (entries : List MacRarEntry) :
    (macRarPdu (entry :: entries)).length = 7 * entries.length + 6 + 1 := by
  rw [length_macRarPdu, List.length_cons]
  omega

theorem le_length_macRarPdu (entry : MacRarEntry) (entries : List MacRarEntry) :
    5 ≤ (macRarPdu (entry :: entries)).length := by
  rw [length_macRarPdu_cons]
  omega

section Loop

variable {p : Byte} {response : Memory} {length offset : Nat}

theorem macRarLoop_matches (hoffset : offset < length) (htype : (response offset).getLsbD 6 = true)
    (hrapid : response offset &&& 0x3F = p) (rounds : Nat) :
    macRarLoop p response length (rounds + 1) offset = macRarPayload response length (offset + 1) := by
  rw [macRarLoop, if_pos hoffset]
  exact if_pos ⟨htype, hrapid⟩

theorem macRarLoop_skips (hoffset : offset < length) (htype : (response offset).getLsbD 6 = true)
    (hrapid : response offset &&& 0x3F ≠ p) (rounds : Nat) :
    macRarLoop p response length (rounds + 1) offset
      = if (response offset).getLsbD 7 then macRarLoop p response length rounds (offset + 5)
        else .notFound := by
  rw [macRarLoop, if_pos hoffset]
  dsimp only
  rw [if_neg fun h => hrapid h.2, if_pos htype]

theorem macRarLoop_ends (hextension : (response offset).getLsbD 7 = false)
    (htype : (response offset).getLsbD 6 = false) (rounds : Nat) :
    macRarLoop p response length (rounds + 1) offset = .notFound := by
  rw [macRarLoop]
  dsimp only
  rw [htype, hextension]
  simp

theorem macRarLoop_of_ge (hp : 64 ≤ p) (rounds : Nat) :
    macRarLoop p response length rounds offset = .notFound := by
  induction rounds generalizing offset with
  | zero => rfl
  | succ rounds ih =>
      have hne : response offset &&& 0x3F ≠ p := by
        rintro rfl
        exact absurd (macRar_rapid_lt (response offset)) (Nat.not_lt.mpr hp)
      rw [macRarLoop]
      dsimp only
      split
      · rw [if_neg fun h => hne h.2]
        split
        · exact ih
        · rfl
      · rfl

end Loop

section Entries

variable {p : Byte} {entry : MacRarEntry} {entries : List MacRarEntry}

theorem macRarPdu_subheader (entry : MacRarEntry) (entries : List MacRarEntry) :
    ofBytes (macRarPdu (entry :: entries)) 0 = macRarSubheader (!entries.isEmpty) entry.rapid := rfl

theorem macRarPdu_type (entry : MacRarEntry) (entries : List MacRarEntry) :
    (ofBytes (macRarPdu (entry :: entries)) 0).getLsbD 6 = true := by
  rw [macRarPdu_subheader, macRarSubheader_type]

theorem macRarPdu_byte4 (entry : MacRarEntry) (entries : List MacRarEntry) :
    ofBytes (macRarPdu (entry :: entries)) 5 = entry.byte4 := rfl

theorem macFindRar_first (h : entry.Answers p) :
    macFindRar p (ofBytes (macRarPdu (entry :: entries))) (macRarPdu (entry :: entries)).length
      = .matched (macRarTaCommand entry.byte0 entry.byte1) (macRarUlGrant entry.byte1 entry.byte2 entry.byte3)
        (macRarTcRnti entry.byte4 entry.byte5) := by
  have hrapid : ofBytes (macRarPdu (entry :: entries)) 0 &&& 0x3F = p := by
    rw [macRarPdu_subheader, macRarSubheader_rapid]
    exact h
  rw [macFindRar, length_macRarPdu_cons, macRarLoop_matches (by omega) (macRarPdu_type entry entries) hrapid,
    macRarPayload, if_neg (by omega), if_pos (by omega)]
  rfl

theorem macFindRar_other (h : ¬entry.Answers p) :
    macFindRar p (ofBytes (macRarPdu (entry :: entries))) (macRarPdu (entry :: entries)).length
      = if entries = [] then .notFound
        else macRarLoop p (ofBytes (macRarPdu (entry :: entries))) (7 * entries.length + 6 + 1)
          (7 * entries.length + 6) 5 := by
  have hrapid : ofBytes (macRarPdu (entry :: entries)) 0 &&& 0x3F ≠ p := by
    rw [macRarPdu_subheader, macRarSubheader_rapid]
    exact h
  rw [macFindRar, length_macRarPdu_cons, macRarLoop_skips (by omega) (macRarPdu_type entry entries) hrapid,
    macRarPdu_subheader, macRarSubheader_extension]
  cases entries with
  | nil => rfl
  | cons next entries => rfl

theorem macFindRar_ends (h : ¬entry.Answers p) (hbyte : entry.byte4 = 0) :
    macFindRar p (ofBytes (macRarPdu (entry :: entries))) (macRarPdu (entry :: entries)).length
      = .notFound := by
  rw [macFindRar_other h]
  split
  · rfl
  · apply macRarLoop_ends
    · rw [macRarPdu_byte4, hbyte]
      rfl
    · rw [macRarPdu_byte4, hbyte]
      rfl

theorem macFindRar_inside (h : ¬entry.Answers p) (hentries : entries ≠ [])
    (hbyte : entry.byte4 = macRarSubheader false (p.setWidth 6)) (hp : p < 64) :
    ∃ taCommand ulGrant tcRnti,
      macFindRar p (ofBytes (macRarPdu (entry :: entries))) (macRarPdu (entry :: entries)).length
        = .matched taCommand ulGrant tcRnti := by
  have hmore : 0 < entries.length := List.length_pos_iff.mpr hentries
  rw [macFindRar_other h, if_neg hentries, macRarLoop_matches (by omega), macRarPayload, if_neg (by omega)]
  · exact ⟨_, _, _, rfl⟩
  · rw [macRarPdu_byte4, hbyte, macRarSubheader_type]
  · rw [macRarPdu_byte4, hbyte, macRarSubheader_matches false hp]

end Entries

/-! ### What is done with it -/

section Receive

variable {entity : MacEntity} {response : Memory} {length : Nat}

theorem macReceiveRachResponse_matched (hactive : entity.active) (hstate : entity.rachState = .active)
    (hlength : 5 ≤ length) {taCommand ulGrant tcRnti : BitVec 16}
    (h : macFindRar entity.rachPreambleIndex response length = .matched taCommand ulGrant tcRnti)
    (rand : Word) :
    macReceiveRachResponse entity response length rand
      = ({ entity with
            rachState := .success
            timingAdvance := taCommand.setWidth 32 * 512
            config := { entity.config with
              cRnti := if tcRnti ≠ 0 then tcRnti else entity.config.cRnti }
            rachUlGrant := ulGrant.setWidth 32
            rachContentionTimer := 0 },
          .ok ()) := by
  rw [macReceiveRachResponse, if_neg (by omega), if_pos hactive, if_neg (not_not.mpr hstate),
    if_neg (by omega), h]

theorem macReceiveRachResponse_notFound (hactive : entity.active) (hstate : entity.rachState = .active)
    (hlength : 5 ≤ length) (h : macFindRar entity.rachPreambleIndex response length = .notFound)
    (rand : Word) :
    macReceiveRachResponse entity response length rand
      = if entity.rachAttempt + 1 ≥ entity.config.rachConfig.preambleTransMax then
          ({ entity with rachAttempt := entity.rachAttempt + 1, rachState := .failed }, .error .maxRetries)
        else
          ({ entity with
              rachAttempt := entity.rachAttempt + 1
              rachBackoff := (rand % 10 + 1).setWidth 16 },
            .error .retry) := by
  rw [macReceiveRachResponse, if_neg (by omega), if_pos hactive, if_neg (not_not.mpr hstate),
    if_neg (by omega), h]

end Receive

/-- The response is understood: it is a success exactly if an entry answers the preamble, and then what
the first such entry says is recorded. -/
def MacEntity.ReadsRar (entity : MacEntity) (entries : List MacRarEntry) : Prop :=
  ∀ rand,
    let received :=
      macReceiveRachResponse entity (ofBytes (macRarPdu entries)) (macRarPdu entries).length rand
    (received.2 = .ok () ↔ ∃ entry ∈ entries, entry.Answers entity.rachPreambleIndex)
      ∧ ∀ entry, entries.find? (·.Answers entity.rachPreambleIndex) = some entry →
          received.1.timingAdvance.toNat = 512 * entry.taCommand
            ∧ (entry.tcRnti ≠ 0 → received.1.config.cRnti.toNat = entry.tcRnti)

section ReadsRar

variable {entity : MacEntity} {entry : MacRarEntry} {entries : List MacRarEntry}

theorem readsRar_first (hactive : entity.active) (hstate : entity.rachState = .active)
    (h : entry.Answers entity.rachPreambleIndex) : entity.ReadsRar (entry :: entries) := by
  intro rand
  dsimp only
  rw [macReceiveRachResponse_matched hactive hstate (le_length_macRarPdu _ _) (macFindRar_first h) rand]
  refine ⟨iff_of_true rfl ⟨entry, List.mem_cons_self, h⟩, fun first hfirst => ?_⟩
  rw [List.find?_cons_of_pos (by simpa using h)] at hfirst
  obtain rfl : entry = first := Option.some.inj hfirst
  constructor
  · dsimp only
    rw [BitVec.toNat_mul, BitVec.toNat_setWidth, macRarTaCommand_toNat, MacRarEntry.taCommand]
    change _ % 2 ^ 32 * 512 % 2 ^ 32 = _
    omega
  · intro hrnti
    have hne : macRarTcRnti entry.byte4 entry.byte5 ≠ 0 := by
      intro hzero
      apply hrnti
      rw [MacRarEntry.tcRnti, ← macRarTcRnti_toNat, hzero]
      rfl
    dsimp only
    rw [if_pos hne, macRarTcRnti_toNat]
    rfl

theorem readsRar_notFound (hactive : entity.active) (hstate : entity.rachState = .active)
    (hlength : 5 ≤ (macRarPdu entries).length)
    (h : macFindRar entity.rachPreambleIndex (ofBytes (macRarPdu entries)) (macRarPdu entries).length
      = .notFound) :
    entity.ReadsRar entries ↔ ∀ entry ∈ entries, ¬entry.Answers entity.rachPreambleIndex := by
  have hrefused : ∀ rand, (macReceiveRachResponse entity (ofBytes (macRarPdu entries))
      (macRarPdu entries).length rand).2 ≠ .ok () := by
    intro rand
    rw [macReceiveRachResponse_notFound hactive hstate hlength h rand]
    split
    · exact nofun
    · exact nofun
  constructor
  · intro hreads entry hmem hanswers
    exact hrefused 0 ((hreads 0).1.mpr ⟨entry, hmem, hanswers⟩)
  · intro hnone rand
    refine ⟨iff_of_false (hrefused rand) fun ⟨entry, hmem, hanswers⟩ => hnone entry hmem hanswers,
      fun entry hfirst => ?_⟩
    have hanswers : entry.Answers entity.rachPreambleIndex := by simpa using List.find?_some hfirst
    exact absurd hanswers (hnone entry (List.mem_of_find?_eq_some hfirst))

/-- Several entries of which the first one does not answer are understood for some of the payloads only. -/
theorem not_readsRar_other (hactive : entity.active) (hstate : entity.rachState = .active)
    (h : ¬entry.Answers entity.rachPreambleIndex) (hentries : entries ≠ [])
    (hpreamble : entity.rachPreambleIndex < 64) :
    ∃ byte4, ¬entity.ReadsRar ({ entry with byte4 } :: entries) := by
  by_cases hlater : ∃ later ∈ entries, later.Answers entity.rachPreambleIndex
  · -- the search ends before the entry that answers
    obtain ⟨later, hmem, hanswers⟩ := hlater
    let ended : MacRarEntry := { entry with byte4 := 0 }
    have hended : ¬ended.Answers entity.rachPreambleIndex := h
    refine ⟨ended.byte4, fun hreads => ?_⟩
    have hlength := le_length_macRarPdu ended entries
    have hnone := (readsRar_notFound hactive hstate hlength (macFindRar_ends hended rfl)).mp hreads
    exact hnone later (List.mem_cons_of_mem _ hmem) hanswers
  · -- the search takes a byte of the payload for an entry that answers
    let misread : MacRarEntry :=
      { entry with byte4 := macRarSubheader false (entity.rachPreambleIndex.setWidth 6) }
    have hmisread : ¬misread.Answers entity.rachPreambleIndex := h
    refine ⟨misread.byte4, fun hreads => ?_⟩
    obtain ⟨taCommand, ulGrant, tcRnti, hfound⟩ := macFindRar_inside hmisread hentries rfl hpreamble
    have hlength := le_length_macRarPdu misread entries
    have hresult := macReceiveRachResponse_matched hactive hstate hlength hfound 0
    obtain ⟨found, hmem, hanswers⟩ := (hreads 0).1.mp (by rw [hresult])
    rcases List.mem_cons.mp hmem with rfl | hrest
    · exact h hanswers
    · exact hlater ⟨found, hrest, hanswers⟩

theorem readsRar_nil : entity.ReadsRar [] := by
  intro rand
  refine ⟨iff_of_false ?_ ?_, fun entry hfirst => nomatch hfirst⟩
  · have hempty : macReceiveRachResponse entity (ofBytes []) 0 rand = (entity, .error .invalidParam) := rfl
    rw [macRarPdu, List.length_nil, hempty]
    exact nofun
  · rintro ⟨entry, hmem, -⟩
    cases hmem

theorem readsRar_single (hactive : entity.active) (hstate : entity.rachState = .active) :
    entity.ReadsRar [entry] := by
  by_cases hanswers : entry.Answers entity.rachPreambleIndex
  · exact readsRar_first hactive hstate hanswers
  · refine (readsRar_notFound hactive hstate (le_length_macRarPdu _ _)
      ((macFindRar_other hanswers).trans (if_pos rfl))).mpr fun only hmem => ?_
    rwa [List.mem_singleton.mp hmem]

theorem readsRar_of_ge (hactive : entity.active) (hstate : entity.rachState = .active)
    (hpreamble : 64 ≤ entity.rachPreambleIndex) : entity.ReadsRar entries := by
  cases entries with
  | nil => exact readsRar_nil
  | cons entry entries =>
      refine (readsRar_notFound hactive hstate (le_length_macRarPdu entry entries)
        (macRarLoop_of_ge hpreamble _)).mpr ?_
      intro any _ hanswers
      have hlt : any.rapid.toNat < 64 := any.rapid.isLt
      have hge : 64 ≤ (any.rapid.setWidth 8).toNat := by
        rw [show any.rapid.setWidth 8 = _ from hanswers]
        exact hpreamble
      rw [BitVec.toNat_setWidth] at hge
      omega

end ReadsRar

/-- **Responses to these preambles are understood whatever they say exactly if there is at most one entry,
or the first one answers, or there is no such preamble.** -/
theorem macReceiveRachResponse_reads_iff (entity : MacEntity) (hactive : entity.active)
    (hstate : entity.rachState = .active) (rapids : List (BitVec 6)) :
    (∀ entries, entries.map MacRarEntry.rapid = rapids → entity.ReadsRar entries)
      ↔ rapids.length ≤ 1 ∨ rapids.head?.map (·.setWidth 8) = some entity.rachPreambleIndex
        ∨ 64 ≤ entity.rachPreambleIndex := by
  constructor
  · intro hreads
    by_contra hcondition
    push Not at hcondition
    obtain ⟨hmany, hfirst, hpreamble⟩ := hcondition
    cases rapids with
    | nil => exact absurd hmany (by decide)
    | cons rapid rest =>
        -- entries of nothing but zeros, up to one byte
        let entryOf (rapid : BitVec 6) : MacRarEntry := ⟨rapid, 0, 0, 0, 0, 0, 0⟩
        have hmap : (rest.map entryOf).map MacRarEntry.rapid = rest := by
          rw [List.map_map]
          exact List.map_id rest
        have hother : ¬(entryOf rapid).Answers entity.rachPreambleIndex :=
          fun hanswers => hfirst (congrArg some hanswers)
        have hrest : rest.map entryOf ≠ [] := by
          intro hnil
          rw [List.map_eq_nil_iff.mp hnil, List.length_singleton] at hmany
          exact Nat.lt_irrefl 1 hmany
        obtain ⟨byte4, hnot⟩ :=
          not_readsRar_other hactive hstate hother hrest (BitVec.not_le.mp hpreamble)
        exact hnot (hreads _ (congrArg (rapid :: ·) hmap))
  · rintro hcondition entries rfl
    rcases hcondition with hfew | hfirst | hpreamble
    · rw [List.length_map] at hfew
      cases entries with
      | nil => exact readsRar_nil
      | cons entry rest =>
          obtain rfl : rest = [] := List.length_eq_zero_iff.mp (by simpa using hfew)
          exact readsRar_single hactive hstate
    · cases entries with
      | nil => exact readsRar_nil
      | cons entry entries => exact readsRar_first hactive hstate (Option.some.inj hfirst)
    · exact readsRar_of_ge hactive hstate hpreamble

def macRachStart (config : Option MacConfig) (preambleIndex : Byte) : MacEntity :=
  (macSendRachPreamble (macActivateEntity (macCreateEntity config)) preambleIndex).1

theorem macReceiveRachResponse_reads_first :
    (macRachStart none 1).ReadsRar [⟨1, 0, 8, 0, 0, 0x56, 0x78⟩, ⟨2, 0, 8, 0, 0, 0x12, 0x34⟩] :=
  (macReceiveRachResponse_reads_iff (macRachStart none 1) rfl rfl [1, 2]).mpr (.inr (.inl rfl)) _ rfl

/-- The second entry answers the preamble, and is not found. -/
theorem macReceiveRachResponse_not_reads :
    ¬(macRachStart none 2).ReadsRar [⟨1, 0, 8, 0, 0, 0, 1⟩, ⟨2, 0, 8, 0, 0, 0x12, 0x34⟩] := by
  intro hreads
  exact absurd ((hreads 0).1.mpr ⟨_, List.mem_cons_of_mem _ List.mem_cons_self, rfl⟩) (by decide)

end Uesim
