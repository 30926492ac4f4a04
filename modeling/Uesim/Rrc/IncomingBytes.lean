import Uesim.Core.Memory
import Uesim.Rrc.MessageRoundTrip

/-!
# What is read of incoming RRC messages

The number of data bytes comes from the message, and is added to the length of the header before the sum is
compared. A sum that wraps around passes the comparison. The handlers take the data for structures without a
look at their number, which matters for the one that reads behind the first byte.
-/

namespace Uesim

open Bytes BitMemory

/-- `data_length` on the wire. -/
def rrcWireDataLength (data : Memory) : BitVec 64 :=
  leWord (data 16) (data 17) (data 18) (data 19) ++ leWord (data 12) (data 13) (data 14) (data 15)

section Reads

variable (ue : UeContext) (data : Memory) (len : BitVec 64) (granted : BitVec 64 → Bool)
  (outcome : RrcOutcome)

/-- What is read of the bytes lies in front of their end, and what is read of the data in front of theirs. -/
structure RrcReadInside : Prop where
  decode : len ≠ 0 → (rrcDecodeMessage len granted).Within data len.toNat
  handle : len ≠ 0 → ∀ message, (rrcDecodeMessage len granted).run data = .ok message →
    (rrcReceiveMessage ue message outcome).Within message.memory message.dataLength.toNat

/-- The sum of the lengths does not wrap around, and the data of a handover command that is there reach to the
end of its target. -/
structure RrcHeaderSound : Prop where
  noWrap : (rrcWireDataLength data).toNat < 2 ^ 64 - 20
  target : rrcWireType data = RrcMessageType.handoverCommand.code → rrcWireDataLength data ≠ 0 →
    20 + (rrcWireDataLength data).toNat ≤ len.toNat → 4 ≤ (rrcWireDataLength data).toNat

/-! ### The decoder -/

theorem within_rrcReadWord {start limit : Nat} (h : start + 4 ≤ limit) :
    (rrcReadWord start).Within data limit := by
  intro i hi
  change i ∈ [start, start + 1, start + 2, start + 3] at hi
  simp only [List.mem_cons, List.not_mem_nil, or_false] at hi
  omega

theorem toNat_rrcMinLength_add (dataLength : BitVec 64) :
    (rrcMinLength + dataLength).toNat = (20 + dataLength.toNat) % 2 ^ 64 := BitVec.toNat_add _ _

/-- What is behind the header is copied if the sum of the lengths lets it pass and there is memory. -/
theorem rrcDecodeMessage_within_iff :
    (rrcDecodeMessage len granted).Within data len.toNat
      ↔ (20 ≤ len.toNat → granted (rrcWireDataLength data) = true →
          (rrcWireDataLength data).toNat < 2 ^ 64 - 20) := by
  unfold rrcDecodeMessage
  split
  · rename_i hshort
    have hlen : len.toNat < 20 := hshort
    exact iff_of_true (Reading.within_pure _ _ _) fun h => absurd hlen (Nat.not_lt.mpr h)
  · rename_i hlong
    have hlen : 20 ≤ len.toNat := Nat.le_of_not_lt hlong
    simp only [Reading.within_bind, within_rrcReadWord data (show 0 + 4 ≤ len.toNat by omega),
      within_rrcReadWord data (show 4 + 4 ≤ len.toNat by omega),
      within_rrcReadWord data (show 8 + 4 ≤ len.toNat by omega),
      within_rrcReadWord data (show 12 + 4 ≤ len.toNat by omega),
      within_rrcReadWord data (show 16 + 4 ≤ len.toNat by omega), true_and]
    have hwire : (rrcReadWord 16).run data ++ (rrcReadWord 12).run data = rrcWireDataLength data := rfl
    rw [hwire]
    have hsum := toNat_rrcMinLength_add (rrcWireDataLength data)
    have hmax := (rrcWireDataLength data).isLt
    have hlimit := len.isLt
    split
    · split
      · rename_i hpast
        have hpast : len.toNat < (rrcMinLength + rrcWireDataLength data).toNat := hpast
        refine iff_of_true (Reading.within_pure _ _ _) fun _ _ => ?_
        omega
      · rename_i hpos hpast
        have hpast : ¬len.toNat < (rrcMinLength + rrcWireDataLength data).toNat := hpast
        have hpos : 0 < (rrcWireDataLength data).toNat := hpos
        split
        · rename_i hgranted
          rw [Reading.within_bind, Reading.within_bytes]
          constructor
          · rintro ⟨hbytes, -⟩ - -
            omega
          · intro h
            have hwrap := h hlen hgranted
            exact ⟨Or.inr (by omega), Reading.within_pure _ _ _⟩
        · rename_i hrefused
          exact iff_of_true (Reading.within_pure _ _ _) fun _ hgranted => absurd hgranted hrefused
    · rename_i hnone
      have hzero : ¬0 < (rrcWireDataLength data).toNat := hnone
      refine iff_of_true (Reading.within_pure _ _ _) fun _ _ => ?_
      omega

structure RrcDecodedFrom (message : RrcDecodedMessage) : Prop where
  length_le : 20 ≤ len.toNat
  messageType : message.messageType = rrcWireType data
  dataLength : message.dataLength = rrcWireDataLength data
  granted : rrcWireDataLength data ≠ 0 → granted (rrcWireDataLength data) = true
  enough : rrcWireDataLength data ≠ 0 → (rrcMinLength + rrcWireDataLength data).toNat ≤ len.toNat
  hasData : message.data.isSome ↔ rrcWireDataLength data ≠ 0

theorem rrcDecodeMessage_decodedFrom {message : RrcDecodedMessage}
    (h : (rrcDecodeMessage len granted).run data = .ok message) :
    RrcDecodedFrom data len granted message := by
  unfold rrcDecodeMessage at h
  split at h
  · cases h
  · rename_i hlong
    have hlen : 20 ≤ len.toNat := Nat.le_of_not_lt hlong
    simp only [Reading.run_bind] at h
    have hwire : (rrcReadWord 16).run data ++ (rrcReadWord 12).run data = rrcWireDataLength data := rfl
    rw [hwire] at h
    split at h
    · rename_i hsome
      have hne : rrcWireDataLength data ≠ 0 := (BitVec.pos_iff_ne_zero _).mp hsome
      split at h
      · cases h
      · rename_i henough
        split at h
        · rename_i hgranted
          rw [Reading.run_bind] at h
          cases h
          exact ⟨hlen, rfl, rfl, fun _ => hgranted, fun _ => Nat.le_of_not_lt henough, iff_of_true rfl hne⟩
        · cases h
    · rename_i hnone
      have hzero : ¬rrcWireDataLength data ≠ 0 := fun hne => hnone ((BitVec.pos_iff_ne_zero _).mpr hne)
      cases h
      exact ⟨hlen, rfl, rfl, fun hne => absurd hne hzero, fun hne => absurd hne hzero,
        iff_of_false Bool.false_ne_true hzero⟩

theorem exists_rrcDecodeMessage (hlen : 20 ≤ len.toNat) (hne : rrcWireDataLength data ≠ 0)
    (hgranted : granted (rrcWireDataLength data) = true)
    (henough : (rrcMinLength + rrcWireDataLength data).toNat ≤ len.toNat) :
    ∃ message, (rrcDecodeMessage len granted).run data = .ok message := by
  have hlong : ¬len < rrcMinLength := Nat.not_lt.mpr hlen
  have hpast : ¬len < rrcMinLength + rrcWireDataLength data := Nat.not_lt.mpr henough
  have hwire : (rrcReadWord 16).run data ++ (rrcReadWord 12).run data = rrcWireDataLength data := rfl
  have hsome : rrcWireDataLength data > 0 := (BitVec.pos_iff_ne_zero _).mpr hne
  unfold rrcDecodeMessage
  rw [if_neg hlong]
  simp only [Reading.run_bind, hwire, if_pos hsome, if_neg hpast, if_pos hgranted]
  exact ⟨_, rfl⟩

/-! ### The handlers -/

theorem RrcMessageType.ofCode_eq_some_iff {value : Word} {messageType : RrcMessageType} :
    RrcMessageType.ofCode value = some messageType ↔ value = messageType.code := by
  constructor
  · intro h
    have hfound := List.find?_some h
    exact (of_decide_eq_true hfound).symm
  · rintro rfl
    cases messageType <;> rfl

theorem within_rrcReadTransactionId (mem : Memory) {limit : Nat} (hpos : 0 < limit) :
    rrcReadTransactionId.Within mem limit := by
  intro i hi
  obtain rfl := List.mem_singleton.mp hi
  exact hpos

theorem within_rrcReadTargetPci (mem : Memory) {limit : Nat} :
    rrcReadTargetPci.Within mem limit ↔ 4 ≤ limit := by
  constructor
  · intro h
    exact h 3 (List.mem_cons_of_mem 2 List.mem_cons_self)
  · intro h i hi
    change i ∈ [2, 3] at hi
    simp only [List.mem_cons, List.not_mem_nil, or_false] at hi
    omega

theorem rrcHandleReading_within_iff (mem : Memory) {limit : Nat} (hpos : 0 < limit)
    (messageType : RrcMessageType) :
    (rrcHandleReading ue outcome messageType true).Within mem limit
      ↔ (messageType = .handoverCommand → 4 ≤ limit) := by
  have hfirst := within_rrcReadTransactionId mem hpos
  unfold rrcHandleReading
  rw [if_pos rfl]
  cases messageType with
  | handoverCommand =>
      have hcommand : (RrcMessageType.handoverCommand = .handoverCommand → 4 ≤ limit) ↔ 4 ≤ limit :=
        imp_iff_right rfl
      rw [Reading.within_bind, within_rrcReadTargetPci, hcommand]
      apply and_iff_left
      split
      · exact Reading.within_bind.mpr ⟨hfirst, Reading.within_pure _ _ _⟩
      · exact Reading.within_pure _ _ _
  | setup | reestablishment | reconfiguration =>
      refine iff_of_true (Reading.within_bind.mpr ⟨hfirst, Reading.within_pure _ _ _⟩) fun h => ?_
      cases h
  | _ =>
      refine iff_of_true (Reading.within_pure _ _ _) fun h => ?_
      cases h

variable {data len granted} in
theorem rrcReceiveMessage_within_iff {message : RrcDecodedMessage}
    (h : RrcDecodedFrom data len granted message) :
    (rrcReceiveMessage ue message outcome).Within message.memory message.dataLength.toNat
      ↔ (rrcWireType data = RrcMessageType.handoverCommand.code → rrcWireDataLength data ≠ 0 →
          4 ≤ (rrcWireDataLength data).toNat) := by
  rw [rrcReceiveMessage, h.messageType, h.dataLength]
  cases htype : RrcMessageType.ofCode (rrcWireType data) with
  | none =>
      refine iff_of_true (Reading.within_pure _ _ _) fun hcommand => ?_
      rw [RrcMessageType.ofCode_eq_some_iff.mpr hcommand] at htype
      cases htype
  | some messageType =>
      have hcommand : messageType = .handoverCommand
          ↔ rrcWireType data = RrcMessageType.handoverCommand.code := by
        rw [← RrcMessageType.ofCode_eq_some_iff, htype, Option.some_inj]
      by_cases hne : rrcWireDataLength data = 0
      · have hnone : message.data.isSome = false := by
          rw [Bool.eq_false_iff]
          exact fun hsome => h.hasData.mp hsome hne
        rw [hnone]
        exact iff_of_true (Reading.within_pure _ _ _) fun _ hsome => absurd hne hsome
      · have hpos : 0 < (rrcWireDataLength data).toNat := (BitVec.pos_iff_ne_zero _).mpr hne
        dsimp only
        rw [h.hasData.mpr hne, rrcHandleReading_within_iff ue outcome message.memory hpos, hcommand]
        exact imp_congr_right fun _ => (imp_iff_right hne).symm

/-- **Exactly the messages whose header is sound are read inside.** -/
theorem rrcReadInside_iff :
    RrcReadInside ue data len granted outcome
      ↔ (20 ≤ len.toNat → granted (rrcWireDataLength data) = true → RrcHeaderSound data len) := by
  have hne : 20 ≤ len.toNat → len ≠ 0 := by
    rintro hlen rfl
    exact absurd hlen (by decide)
  have hsum := toNat_rrcMinLength_add (rrcWireDataLength data)
  constructor
  · intro h hlen hgranted
    have hwrap := (rrcDecodeMessage_within_iff data len granted).mp (h.decode (hne hlen)) hlen hgranted
    refine ⟨hwrap, fun hcommand hsome henough => ?_⟩
    obtain ⟨message, hmessage⟩ := exists_rrcDecodeMessage data len granted hlen hsome hgranted (by omega)
    have hdecoded := rrcDecodeMessage_decodedFrom data len granted hmessage
    have hhandle := h.handle (hne hlen) message hmessage
    exact (rrcReceiveMessage_within_iff ue outcome hdecoded).mp hhandle hcommand hsome
  · intro h
    refine ⟨fun _ => ?_, fun _ message hmessage => ?_⟩
    · exact (rrcDecodeMessage_within_iff data len granted).mpr fun hlen hgranted => (h hlen hgranted).noWrap
    · have hdecoded := rrcDecodeMessage_decodedFrom data len granted hmessage
      refine (rrcReceiveMessage_within_iff ue outcome hdecoded).mpr fun hcommand hsome => ?_
      have hsound := h hdecoded.length_le (hdecoded.granted hsome)
      have henough := hdecoded.enough hsome
      have hwrap := hsound.noWrap
      exact hsound.target hcommand hsome (by omega)

variable {ue data len granted outcome} in
theorem RrcReadInside.process_eq {data' : Memory} (h : RrcReadInside ue data len granted outcome)
    (hsame : ∀ i < len.toNat, data' i = data i) :
    rrcProcessIncomingMessage ue data' len granted outcome
      = rrcProcessIncomingMessage ue data len granted outcome := by
  unfold rrcProcessIncomingMessage
  split
  · rfl
  · rename_i hne
    rw [(h.decode hne).run_eq hsame]

end Reads

/-- What `uesim_malloc` serves, from the pool or else from the C library. -/
def MemoryPool.grants (pool : MemoryPool) (system : Size → Bool) (size : Size) : Bool :=
  (uesimMalloc pool size).2.isSome || system size

/-- A pool of which 64 bytes are used has room for a length just below `2 ^ 64`, and twenty-four bytes are
read far behind their end. -/
theorem rrcWrappingLength_not_readInside :
    ¬RrcReadInside rrcIdleUe
      (ofBytes
        [1, 0, 0, 0, 0, 0, 0, 0, 0, 0, 0, 0, 0xFC, 0xFF, 0xFF, 0xFF, 0xFF, 0xFF, 0xFF, 0xFF, 0, 0, 0, 0])
      24 (MemoryPool.grants ⟨4096, 1024, 64, by decide⟩ fun _ => false) rrcAllSent := by
  intro h
  have hwrap := (rrcDecodeMessage_within_iff _ _ _).mp (h.decode (by decide)) (by decide) (by decide)
  exact absurd hwrap (by decide)

end Uesim
