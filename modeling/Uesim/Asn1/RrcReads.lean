import Uesim.Asn1.RrcContainers
import Uesim.Asn1.RrcFixedMessages

/-!
# What the decoders look at

`asn1_decode_bits` is given no length, so a decoder stays inside of the message only if its test of the
length covers all that it goes on to read. The tests do, except where the message itself says how much
there is to read: the count of RAT types and the flag of a redirection.
-/

namespace Uesim

open Bytes BitMemory

/-! ### The decoders of containers as programs -/

/-- `rrcDecodeContainer` as a program. -/
def rrcReadContainer (len dataOffset maxLen : Nat) (container : Memory) : Reading (Memory × Nat) := do
  if dataOffset < len then
    let containerLen := if len - dataOffset < maxLen then len - dataOffset else maxLen
    let bytes ← Reading.bytes dataOffset containerLen
    pure (copy container 0 (ofBytes bytes) containerLen, containerLen)
  else pure (container, 0)

/-- The transaction identifier, six spare bits and a configuration. -/
def rrcReadConfig (len maxLen : Nat) (config : Memory) : Reading (Byte × Memory × Nat) := do
  let (bitOffset, tid) ← asn1ReadBits 0 2
  let (bitOffset, _) ← asn1ReadBits bitOffset 6
  let container ← rrcReadContainer len ((bitOffset + 7) / 8) maxLen config
  pure (tid.setWidth 8, container)

def rrcReadSetup (len : Nat) (msg : RrcSetup) : Reading (Except UesimError RrcSetup) := do
  if len < 4 then pure (.error .invalidParam)
  else
    let (rrcTransactionId, radioBearerConfig, configLen) ← rrcReadConfig len 256 msg.radioBearerConfig
    pure (.ok { rrcTransactionId, radioBearerConfig, configLen })

def rrcReadSetupComplete (len : Nat) (msg : RrcSetupComplete) :
    Reading (Except UesimError RrcSetupComplete) := do
  if len < 2 then pure (.error .invalidParam)
  else
    let (bitOffset, tid) ← asn1ReadBits 0 2
    let (bitOffset, plmn) ← asn1ReadBits bitOffset 4
    let (bitOffset, _) ← asn1ReadBits bitOffset 2
    let (nasPdu, nasPduLen) ←
      rrcReadContainer len (asn1SkipToByteBoundary bitOffset / 8) 1024 msg.nasPdu
    pure (.ok
      { rrcTransactionId := tid.setWidth 8, selectedPlmn := plmn.setWidth 8, nasPdu, nasPduLen })

def rrcReadReestablishment (len : Nat) (msg : RrcReestablishment) :
    Reading (Except UesimError RrcReestablishment) := do
  if len < 4 then pure (.error .invalidParam)
  else
    let (rrcTransactionId, radioBearerConfig, configLen) ← rrcReadConfig len 256 msg.radioBearerConfig
    pure (.ok { rrcTransactionId, radioBearerConfig, configLen })

def rrcReadReconfiguration (len : Nat) (msg : RrcReconfiguration) :
    Reading (Except UesimError RrcReconfiguration) := do
  if len < 4 then pure (.error .invalidParam)
  else
    let (rrcTransactionId, radioBearerConfig, configLen) ← rrcReadConfig len 512 msg.radioBearerConfig
    pure (.ok { msg with
      rrcTransactionId
      radioBearerConfig
      configLen
      measConfigLen := 0
      hasMobilityConfig := false
      mobilityConfigLen := 0 })

def rrcReadHandoverCommand (len : Nat) (msg : RrcHandoverCommand) :
    Reading (Except UesimError RrcHandoverCommand) := do
  if len < 10 then pure (.error .invalidParam)
  else
    let (bitOffset, tid) ← asn1ReadBits 0 2
    let (bitOffset, _) ← asn1ReadBits bitOffset 6
    let (bitOffset, pci) ← asn1ReadBits bitOffset 16
    let (bitOffset, cellId) ← asn1ReadBits bitOffset 28
    let (bitOffset, crnti) ← asn1ReadBits bitOffset 16
    let (radioBearerConfig, configLen) ←
      rrcReadContainer len ((bitOffset + 7) / 8) 512 msg.radioBearerConfig
    pure (.ok
      { rrcTransactionId := tid.setWidth 8
        targetPci := pci.setWidth 16
        targetCellId := cellId
        newCRnti := crnti.setWidth 8
        radioBearerConfig
        configLen })

/-! ### What the readers return and read -/

section Readers

variable (data : Memory) (len : Nat)

theorem run_asn1ReadBits (bitOffset numBits : Nat) :
    (asn1ReadBits bitOffset numBits).run data = asn1TakeBits data bitOffset numBits := by
  rw [asn1ReadBits]
  split
  · rename_i hmany
    rw [asn1TakeBits, asn1DecodeBits, if_pos hmany]
    rfl
  · rename_i hfew
    rw [asn1TakeBits_eq data bitOffset (Nat.le_of_not_lt hfew)]
    simp

theorem within_asn1ReadBits {bitOffset numBits : Nat} (hpos : 0 < numBits) (hbits : numBits ≤ 32) :
    (asn1ReadBits bitOffset numBits).Within data len ↔ bitOffset + numBits ≤ 8 * len := by
  rw [asn1ReadBits, if_neg (Nat.not_lt.mpr hbits), Reading.within_bind, Reading.within_bits]
  simp only [Reading.within_pure, and_true, Nat.ne_of_gt hpos, false_or]

theorem run_rrcReadContainer (dataOffset maxLen : Nat) (container : Memory) :
    (rrcReadContainer len dataOffset maxLen container).run data
      = rrcDecodeContainer data len dataOffset maxLen container := by
  have hcopy : ∀ count, copy container 0 (ofBytes ((List.range' dataOffset count).map data)) count
      = copy container 0 (fun i => data (dataOffset + i)) count := by
    intro count
    funext i
    unfold copy
    split
    · rename_i hin
      have hlt : i < count := by omega
      simp [ofBytes, hlt]
    · rfl
  rw [rrcReadContainer, rrcDecodeContainer]
  split
  · simp [hcopy]
  · rfl

theorem within_rrcReadContainer (dataOffset maxLen : Nat) (container : Memory) :
    (rrcReadContainer len dataOffset maxLen container).Within data len := by
  rw [rrcReadContainer]
  split
  · rename_i hinside
    rw [Reading.within_bind, Reading.within_bytes]
    refine ⟨.inr ?_, Reading.within_pure _ _ _⟩
    split <;> omega
  · exact Reading.within_pure _ _ _

theorem within_asn1ReadEnumerated {bitOffset : Nat} {numValues : Word} (hmany : 1 < numValues)
    (hbits : countBits (numValues - 1) ≤ 32) (hpos : 0 < countBits (numValues - 1)) :
    (asn1ReadEnumerated bitOffset numValues).Within data len
      ↔ bitOffset + countBits (numValues - 1) ≤ 8 * len := by
  rw [asn1ReadEnumerated, if_neg (BitVec.not_le.mpr hmany)]
  exact within_asn1ReadBits data len hpos hbits

theorem run_asn1ReadEnumerated {bitOffset : Nat} {numValues : Word} (hmany : 1 < numValues) :
    (asn1ReadEnumerated bitOffset numValues).run data
      = asn1TakeBits data bitOffset (countBits (numValues - 1)) := by
  rw [asn1ReadEnumerated, if_neg (BitVec.not_le.mpr hmany)]
  exact run_asn1ReadBits data _ _

end Readers

/-! ### The programs return what the decoders return -/

section Refine

variable (data : Memory) (len : Nat)

theorem run_rrcReadConfig (maxLen : Nat) (config : Memory) :
    (rrcReadConfig len maxLen config).run data
      = ((asn1TakeBits data 0 2).2.setWidth 8, rrcDecodeContainer data len 1 maxLen config) := by
  simp (disch := decide) only [rrcReadConfig, Reading.run_bind, Reading.run_pure, run_asn1ReadBits,
    run_rrcReadContainer, asn1TakeBits_eq]

theorem run_rrcReadSetup (msg : RrcSetup) :
    (rrcReadSetup len msg).run data = rrcDecodeSetup data len msg := by
  rw [rrcReadSetup, rrcDecodeSetup]
  split
  · rfl
  · rw [Reading.run_bind, run_rrcReadConfig]
    simp (disch := decide) only [asn1TakeBits_eq, Reading.run_pure]

theorem run_rrcReadSetupComplete (msg : RrcSetupComplete) :
    (rrcReadSetupComplete len msg).run data = rrcDecodeSetupComplete data len msg := by
  rw [rrcReadSetupComplete, rrcDecodeSetupComplete]
  split
  · rfl
  · simp only [Reading.run_bind, Reading.run_pure, run_asn1ReadBits, run_rrcReadContainer]

theorem run_rrcReadReestablishment (msg : RrcReestablishment) :
    (rrcReadReestablishment len msg).run data = rrcDecodeReestablishment data len msg := by
  rw [rrcReadReestablishment, rrcDecodeReestablishment]
  split
  · rfl
  · rw [Reading.run_bind, run_rrcReadConfig]
    simp (disch := decide) only [asn1TakeBits_eq, Reading.run_pure]

theorem run_rrcReadReconfiguration (msg : RrcReconfiguration) :
    (rrcReadReconfiguration len msg).run data = rrcDecodeReconfiguration data len msg := by
  rw [rrcReadReconfiguration, rrcDecodeReconfiguration]
  split
  · rfl
  · rw [Reading.run_bind, run_rrcReadConfig]
    simp (disch := decide) only [asn1TakeBits_eq, Reading.run_pure]

theorem run_rrcReadHandoverCommand (msg : RrcHandoverCommand) :
    (rrcReadHandoverCommand len msg).run data = rrcDecodeHandoverCommand data len msg := by
  rw [rrcReadHandoverCommand, rrcDecodeHandoverCommand]
  split
  · rfl
  · simp only [Reading.run_bind, Reading.run_pure, run_asn1ReadBits, run_rrcReadContainer]

end Refine

/-! ### Staying inside of the message -/

/-- The message is rejected, or nothing but the message is read. -/
def RejectsOrStays {μ : Type} (decode : Reading (Except UesimError μ)) (data : Memory) (len : Nat) :
    Prop :=
  (∃ e, decode.run data = .error e) ∨ decode.Within data len

/-- A decoder with the message that it fills in, if it keeps something of it. -/
inductive RrcDecoder where
  | setupRequest
  | setup (msg : RrcSetup)
  | setupComplete (msg : RrcSetupComplete)
  | reestRequest
  | reestablishment (msg : RrcReestablishment)
  | reconfiguration (msg : RrcReconfiguration)
  | reconfigComplete
  | measurementReport
  | handoverCommand (msg : RrcHandoverCommand)
  | ueCapEnquiry (msg : RrcUeCapEnquiry)
  | connectionRelease

namespace RrcDecoder

def StaysInside (data : Memory) (len : Nat) : RrcDecoder → Prop
  | setupRequest => RejectsOrStays (rrcDecodeSetupRequest len) data len
  | setup msg => RejectsOrStays (rrcReadSetup len msg) data len
  | setupComplete msg => RejectsOrStays (rrcReadSetupComplete len msg) data len
  | reestRequest => RejectsOrStays (rrcDecodeReestRequest len) data len
  | reestablishment msg => RejectsOrStays (rrcReadReestablishment len msg) data len
  | reconfiguration msg => RejectsOrStays (rrcReadReconfiguration len msg) data len
  | reconfigComplete => RejectsOrStays (rrcDecodeReconfigComplete len) data len
  | measurementReport => RejectsOrStays (rrcDecodeMeasurementReport len) data len
  | handoverCommand msg => RejectsOrStays (rrcReadHandoverCommand len msg) data len
  | ueCapEnquiry msg => RejectsOrStays (rrcDecodeUeCapEnquiry len msg) data len
  | connectionRelease => RejectsOrStays (rrcDecodeConnectionRelease len) data len

/-- What the message says that there is to read is there: the RAT types that it counts, four bits each and
at most eight of them, and the carrier of a redirection. -/
def Complete (data : Memory) (len : Nat) : RrcDecoder → Prop
  | ueCapEnquiry _ => 2 ≤ len → 8 + 4 * min ((data 0).toNat % 16) 8 ≤ 8 * len
  | connectionRelease => len = 2 → (data 0).getLsbD 4 = false
  | _ => True

end RrcDecoder

section Inside

variable (data : Memory) {len : Nat}

/-- A decoder that rejects what is too short stays inside of the message if it does so where it goes on. -/
theorem rejectsOrStays_ite {μ : Type} {minLen : Nat} {decode : Reading (Except UesimError μ)}
    (h : ¬len < minLen → decode.Within data len) :
    RejectsOrStays (if len < minLen then pure (.error .invalidParam) else decode) data len := by
  split
  · exact .inl ⟨_, rfl⟩
  · rename_i hlong
    exact .inr (h hlong)

theorem within_rrcReadConfig (hlen : 1 ≤ len) (maxLen : Nat) (config : Memory) :
    (rrcReadConfig len maxLen config).Within data len := by
  simp (disch := decide) only [rrcReadConfig, Reading.within_bind, Reading.within_pure,
    run_asn1ReadBits, asn1TakeBits_eq, within_asn1ReadBits, within_rrcReadContainer, and_true]
  omega

theorem rejectsOrStays_config {μ : Type} {minLen maxLen : Nat} {config : Memory}
    {finish : Byte × Memory × Nat → Reading (Except UesimError μ)} (hmin : 1 ≤ minLen)
    (hfinish : ∀ read, (finish read).Within data len) :
    RejectsOrStays (if len < minLen then pure (.error .invalidParam)
      else rrcReadConfig len maxLen config >>= finish) data len := by
  apply rejectsOrStays_ite
  intro hlen
  rw [Reading.within_bind]
  exact ⟨within_rrcReadConfig data (by omega) _ _, hfinish _⟩

theorem within_rrcReadUeIdentity {bitOffset : Nat} (h : bitOffset + 40 ≤ 8 * len) :
    (rrcReadUeIdentity bitOffset).Within data len := by
  simp (disch := decide) only [rrcReadUeIdentity, Reading.within_bind, Reading.within_pure,
    run_asn1ReadBits, asn1TakeBits_eq, within_asn1ReadBits, and_true]
  omega

theorem countBits_establishmentCause : countBits ((4 : Word) - 1) = 2 := by decide

theorem countBits_reestablishmentCause : countBits ((3 : Word) - 1) = 2 := by decide

theorem rrcDecodeSetupRequest_stays : RejectsOrStays (rrcDecodeSetupRequest len) data len := by
  apply rejectsOrStays_ite
  intro hlen
  simp (disch := decide) only [Reading.within_bind, Reading.within_pure, run_asn1ReadBits,
    run_asn1ReadEnumerated, asn1TakeBits_eq, within_asn1ReadBits, within_asn1ReadEnumerated,
    countBits_establishmentCause, and_true]
  have hidentity := within_rrcReadUeIdentity data (show 0 + 2 + 1 + 40 ≤ 8 * len by omega)
  exact ⟨by omega, by omega, hidentity⟩

theorem rrcDecodeReestRequest_stays : RejectsOrStays (rrcDecodeReestRequest len) data len := by
  apply rejectsOrStays_ite
  intro hlen
  simp (disch := decide) only [Reading.within_bind, Reading.within_pure, run_asn1ReadBits,
    run_asn1ReadEnumerated, asn1TakeBits_eq, within_asn1ReadBits, within_asn1ReadEnumerated,
    countBits_reestablishmentCause, and_true]
  have hidentity := within_rrcReadUeIdentity data
    (show 0 + 2 + 16 + 16 + 8 + 8 + 40 ≤ 8 * len by omega)
  exact ⟨by omega, by omega, by omega, by omega, by omega, hidentity⟩

theorem rrcReadSetup_stays (msg : RrcSetup) : RejectsOrStays (rrcReadSetup len msg) data len := by
  apply rejectsOrStays_config data (by decide)
  exact fun _ => Reading.within_pure _ _ _

theorem rrcReadReestablishment_stays (msg : RrcReestablishment) :
    RejectsOrStays (rrcReadReestablishment len msg) data len := by
  apply rejectsOrStays_config data (by decide)
  exact fun _ => Reading.within_pure _ _ _

theorem rrcReadReconfiguration_stays (msg : RrcReconfiguration) :
    RejectsOrStays (rrcReadReconfiguration len msg) data len := by
  apply rejectsOrStays_config data (by decide)
  exact fun _ => Reading.within_pure _ _ _

theorem rrcReadSetupComplete_stays (msg : RrcSetupComplete) :
    RejectsOrStays (rrcReadSetupComplete len msg) data len := by
  apply rejectsOrStays_ite
  intro hlen
  simp (disch := decide) only [Reading.within_bind, Reading.within_pure, run_asn1ReadBits,
    asn1TakeBits_eq, within_asn1ReadBits, within_rrcReadContainer, and_true]
  omega

theorem rrcReadHandoverCommand_stays (msg : RrcHandoverCommand) :
    RejectsOrStays (rrcReadHandoverCommand len msg) data len := by
  apply rejectsOrStays_ite
  intro hlen
  simp (disch := decide) only [Reading.within_bind, Reading.within_pure, run_asn1ReadBits,
    asn1TakeBits_eq, within_asn1ReadBits, within_rrcReadContainer, and_true]
  omega

theorem rrcDecodeReconfigComplete_stays :
    RejectsOrStays (rrcDecodeReconfigComplete len) data len := by
  apply rejectsOrStays_ite
  intro hlen
  simp (disch := decide) only [Reading.within_bind, Reading.within_pure, within_asn1ReadBits, and_true]
  omega

theorem rrcDecodeMeasurementReport_stays :
    RejectsOrStays (rrcDecodeMeasurementReport len) data len := by
  apply rejectsOrStays_ite
  intro hlen
  simp (disch := decide) only [Reading.within_bind, Reading.within_pure, run_asn1ReadBits,
    asn1TakeBits_eq, within_asn1ReadBits, and_true]
  omega

/-! ### The two whose fields depend on the message -/

theorem within_rrcReadRatTypes (rounds i bitOffset : Nat) (ratTypes : Memory) :
    (rrcReadRatTypes rounds i bitOffset ratTypes).Within data len
      ↔ rounds = 0 ∨ bitOffset + 4 * rounds ≤ 8 * len := by
  induction rounds generalizing i bitOffset ratTypes with
  | zero => exact iff_of_true (Reading.within_pure _ _ _) (.inl rfl)
  | succ rounds ih =>
      simp (disch := decide) only [rrcReadRatTypes, Reading.within_bind, run_asn1ReadBits,
        asn1TakeBits_eq, within_asn1ReadBits, ih]
      omega

theorem readBits_ratTypes : (readBits data 4 (0 : Word) 4).toNat = (data 0).toNat % 16 := by
  have hcount : readBits data 4 (0 : Word) 4 = ((data 0).setWidth 4).setWidth 32 := by
    apply BitVec.eq_of_getLsbD_eq
    intro i hi
    rw [getLsbD_readBits, BitVec.getLsbD_setWidth, BitVec.getLsbD_setWidth]
    by_cases hlow : i < 4
    · have hbyte : (4 + 4 - 1 - i) / 8 = 0 := by omega
      have hbit : 7 - (4 + 4 - 1 - i) % 8 = i := by omega
      simp [bitAt, hbyte, hbit, hlow, hi]
    · simp [hlow]
  rw [hcount, BitVec.toNat_setWidth, BitVec.toNat_setWidth]
  have hsmall : (data 0).toNat % 2 ^ 4 < 2 ^ 32 := by omega
  exact Nat.mod_eq_of_lt hsmall

theorem rrcNumRatTypes_eq : (if readBits data 4 (0 : Word) 4 < 8
    then (readBits data 4 (0 : Word) 4).toNat else 8) = min ((data 0).toNat % 16) 8 := by
  have hcount := readBits_ratTypes data
  have hlt : readBits data 4 (0 : Word) 4 < 8 ↔ (data 0).toNat % 16 < 8 := by
    rw [BitVec.lt_def, hcount]
    rfl
  rw [hcount]
  simp only [hlt]
  split <;> omega

theorem rejectsOrStays_ite_iff {μ : Type} {minLen : Nat} {decode : Reading (Except UesimError μ)}
    {msg : μ} (hok : decode.run data = .ok msg) :
    RejectsOrStays (if len < minLen then pure (.error .invalidParam) else decode) data len
      ↔ (minLen ≤ len → decode.Within data len) := by
  constructor
  · intro h hlong
    rw [if_neg (Nat.not_lt.mpr hlong)] at h
    rcases h with ⟨e, he⟩ | hwithin
    · rw [hok] at he
      cases he
    · exact hwithin
  · intro h
    exact rejectsOrStays_ite data fun hlong => h (Nat.le_of_not_lt hlong)

theorem rrcDecodeUeCapEnquiry_stays_iff (msg : RrcUeCapEnquiry) :
    RejectsOrStays (rrcDecodeUeCapEnquiry len msg) data len
      ↔ (RrcDecoder.ueCapEnquiry msg).Complete data len := by
  refine (rejectsOrStays_ite_iff data (by
    simp only [Reading.run_bind, Reading.run_pure]
    rfl)).trans (forall_congr' fun hlen => ?_)
  simp (disch := decide) only [Reading.within_bind, Reading.within_pure, run_asn1ReadBits,
    asn1TakeBits_eq, within_asn1ReadBits, within_rrcReadRatTypes, Nat.zero_add, rrcNumRatTypes_eq,
    and_true]
  omega

theorem run_asn1ReadBoolean (bitOffset : Nat) :
    (asn1ReadBoolean bitOffset).run data = (bitOffset + 1, bitAt data bitOffset) := by
  simp (disch := decide) only [asn1ReadBoolean, Reading.run_bind, Reading.run_pure,
    run_asn1ReadBits, asn1TakeBits_eq]
  rw [readBits, readBits]
  cases bitAt data bitOffset <;> rfl

theorem within_asn1ReadBoolean {bitOffset : Nat} :
    (asn1ReadBoolean bitOffset).Within data len ↔ bitOffset + 1 ≤ 8 * len := by
  simp (disch := decide) only [asn1ReadBoolean, Reading.within_bind, Reading.within_pure,
    within_asn1ReadBits, and_true]

theorem rrcDecodeConnectionRelease_stays_iff :
    RejectsOrStays (rrcDecodeConnectionRelease len) data len
      ↔ RrcDecoder.connectionRelease.Complete data len := by
  have hflag : bitAt data 3 = (data 0).getLsbD 4 := rfl
  cases hredirect : (data 0).getLsbD 4 with
  | false =>
      refine iff_of_true (rejectsOrStays_ite data fun hlen => ?_) fun _ => hredirect
      simp (disch := decide) only [Reading.within_bind, Reading.within_pure, run_asn1ReadBits,
        asn1TakeBits_eq, within_asn1ReadBits, within_asn1ReadBoolean, run_asn1ReadBoolean,
        Nat.zero_add, hflag, hredirect, Bool.false_eq_true, if_false, and_true]
      omega
  | true =>
      refine (rejectsOrStays_ite_iff data (by
        simp (disch := decide) only [Reading.run_bind, run_asn1ReadBits, asn1TakeBits_eq,
          run_asn1ReadBoolean, Nat.zero_add, hflag, hredirect, if_true, Reading.run_pure]
        rfl)).trans ?_
      simp (disch := decide) only [Reading.within_bind, Reading.within_pure, run_asn1ReadBits,
        asn1TakeBits_eq, within_asn1ReadBits, within_asn1ReadBoolean, run_asn1ReadBoolean,
        Nat.zero_add, hflag, hredirect, if_true, and_true, RrcDecoder.Complete,
        Bool.true_eq_false]
      constructor
      · intro h htwo
        have hthree := h (by omega)
        omega
      · intro h hlen
        have hthree : len ≠ 2 := h
        omega

end Inside

/-- **A decoder stays inside of the message exactly when what the message announces is there.** -/
theorem rrcDecoder_staysInside_iff (decoder : RrcDecoder) (data : Memory) (len : Nat) :
    decoder.StaysInside data len ↔ decoder.Complete data len := by
  cases decoder with
  | setupRequest => exact iff_of_true (rrcDecodeSetupRequest_stays data) trivial
  | setup msg => exact iff_of_true (rrcReadSetup_stays data msg) trivial
  | setupComplete msg => exact iff_of_true (rrcReadSetupComplete_stays data msg) trivial
  | reestRequest => exact iff_of_true (rrcDecodeReestRequest_stays data) trivial
  | reestablishment msg => exact iff_of_true (rrcReadReestablishment_stays data msg) trivial
  | reconfiguration msg => exact iff_of_true (rrcReadReconfiguration_stays data msg) trivial
  | reconfigComplete => exact iff_of_true (rrcDecodeReconfigComplete_stays data) trivial
  | measurementReport => exact iff_of_true (rrcDecodeMeasurementReport_stays data) trivial
  | handoverCommand msg => exact iff_of_true (rrcReadHandoverCommand_stays data msg) trivial
  | ueCapEnquiry msg => exact rrcDecodeUeCapEnquiry_stays_iff data msg
  | connectionRelease => exact rrcDecodeConnectionRelease_stays_iff data

/-- A release of two bytes with the flag of a redirection, whose carrier would be in the third. -/
theorem rrcDecoder_not_staysInside :
    ¬RrcDecoder.connectionRelease.StaysInside (ofBytes [0x10, 0x00]) 2 := by
  intro h
  exact absurd ((rrcDecodeConnectionRelease_stays_iff _).mp h rfl) (by decide)

end Uesim
