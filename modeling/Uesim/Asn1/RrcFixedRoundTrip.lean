import Uesim.Asn1.RrcReads

/-!
# Messages of fixed layout on the wire

Encoder and decoder agree on every field. They disagree on how many establishment causes there are, on how
long a measurement report is, and on whether an enquiry may ask for nothing; and the decoder of a release
clears the carrier of a redirection that is not there.
-/

namespace Uesim

open Bytes BitMemory

/-! ### The encoders as lists of fields -/

theorem asn1EncodeEnumerated_eq {buf : Asn1Buffer} (value : Word) {numValues : Word}
    (hmany : 1 < numValues) :
    asn1EncodeEnumerated buf value numValues
      = asn1EncodeBits buf value (countBits (numValues - 1)) :=
  if_neg (BitVec.not_le.mpr hmany)

def rrcSetupRequestFields (msg : RrcSetupRequest) : List (Word × Nat) :=
  (msg.establishmentCause, 2) :: (0, 1) :: rrcUeIdentityFields msg.ueIdentity

def rrcReestRequestFields (msg : RrcReestRequest) : List (Word × Nat) :=
  (msg.reestablishmentCause, 2) ::
    ([(msg.pci.setWidth 32, 16), (msg.cRnti, 16), (msg.shortMacI.1.setWidth 32, 8),
      (msg.shortMacI.2.setWidth 32, 8)] ++ rrcUeIdentityFields msg.ueIdentity)

def rrcMeasurementReportFields (msg : RrcMeasurementReport) : List (Word × Nat) :=
  [(msg.measId.setWidth 32, 6), (0, 2), (msg.rsrp + 140, 8), (msg.rsrq + 20, 7),
    (msg.pci.setWidth 32, 16), (msg.cellId, 28)]

def rrcRatTypeFields (msg : RrcUeCapEnquiry) : List (Word × Nat) :=
  (List.range (min msg.numRatTypes 8)).map fun i => ((msg.ratTypes i).setWidth 32, 4)

def rrcUeCapEnquiryFields (msg : RrcUeCapEnquiry) : List (Word × Nat) :=
  [(msg.enquiryId.setWidth 32, 4), (BitVec.ofNat 32 msg.numRatTypes, 4)] ++ rrcRatTypeFields msg

def rrcRedirectFields (msg : RrcConnectionRelease) : List (Word × Nat) :=
  if msg.redirectCarrier then [(msg.redirectEarfcn.setWidth 32, 16)] else []

def rrcConnectionReleaseFields (msg : RrcConnectionRelease) : List (Word × Nat) :=
  [(msg.releaseCause.setWidth 32, 3), (if msg.redirectCarrier then 1 else 0, 1)]
    ++ rrcRedirectFields msg ++ [(0, 5)]

theorem asn1EncodeFields_cons (value : Word) (numBits : Nat) (buf : Asn1Buffer)
    (fields : List (Word × Nat)) :
    asn1EncodeFields buf ((value, numBits) :: fields)
      = asn1EncodeFields (asn1EncodeBits buf value numBits).1 fields := rfl

theorem rrcEncodeSetupRequest_eq (buf : Asn1Buffer) (msg : RrcSetupRequest) :
    rrcEncodeSetupRequest buf msg
      = (asn1EncodeFields (asn1Clear buf) (rrcSetupRequestFields msg), .ok ()) := by
  rw [rrcEncodeSetupRequest, asn1EncodeEnumerated_eq _ (by decide), countBits_establishmentCause,
    rrcSetupRequestFields, asn1EncodeFields_cons msg.establishmentCause]

theorem rrcEncodeReestRequest_eq (buf : Asn1Buffer) (msg : RrcReestRequest) :
    rrcEncodeReestRequest buf msg
      = (asn1EncodeFields (asn1Clear buf) (rrcReestRequestFields msg), .ok ()) := by
  rw [rrcEncodeReestRequest, asn1EncodeEnumerated_eq _ (by decide), countBits_reestablishmentCause,
    rrcReestRequestFields, asn1EncodeFields_cons msg.reestablishmentCause]

theorem rrcEncodeMeasurementReport_eq (buf : Asn1Buffer) (msg : RrcMeasurementReport) :
    rrcEncodeMeasurementReport buf msg
      = (asn1EncodeFields (asn1Clear buf) (rrcMeasurementReportFields msg), .ok ()) := by
  rw [rrcEncodeMeasurementReport, rrcMeasurementReportFields]

theorem rrcEncodeUeCapEnquiry_eq (buf : Asn1Buffer) (msg : RrcUeCapEnquiry) :
    rrcEncodeUeCapEnquiry buf msg
      = (asn1EncodeFields (asn1Clear buf) (rrcUeCapEnquiryFields msg), .ok ()) := by
  rw [rrcEncodeUeCapEnquiry, rrcUeCapEnquiryFields, rrcRatTypeFields]

theorem rrcEncodeConnectionRelease_eq (buf : Asn1Buffer) (msg : RrcConnectionRelease) :
    rrcEncodeConnectionRelease buf msg
      = (asn1EncodeFields (asn1Clear buf) (rrcConnectionReleaseFields msg), .ok ()) := by
  rw [rrcEncodeConnectionRelease, rrcConnectionReleaseFields, rrcRedirectFields]
  cases msg.redirectCarrier <;> rfl

/-! ### What an encoder with room leaves -/

/-- The buffer holds exactly these fields. -/
structure Asn1Buffer.HasFields (encoded : Asn1Buffer) (fields : List (Word × Nat)) : Prop where
  bitOffset : encoded.bitOffset = fieldsWidth fields
  values : (∀ field ∈ fields, field.1.toNat < 2 ^ field.2) →
    readFields encoded.data 0 (fields.map (·.2)) = fields.map (·.1)

theorem asn1EncodeFields_hasFields {buf encoded : Asn1Buffer} {fields : List (Word × Nat)}
    (hencoded : encoded = asn1EncodeFields (asn1Clear buf) fields)
    (hbits : ∀ field ∈ fields, field.2 ≤ 32) (hroom : fieldsWidth fields ≤ 8 * buf.capacity) :
    encoded.HasFields fields := by
  subst hencoded
  have hfits : (asn1Clear buf).bitOffset + fieldsWidth fields ≤ 8 * (asn1Clear buf).capacity := by
    change 0 + fieldsWidth fields ≤ 8 * buf.capacity
    omega
  rw [asn1EncodeFields_eq (asn1Clear_tight buf) hbits hfits]
  refine ⟨Nat.zero_add _, fun hvalues => ?_⟩
  exact readFields_writeFields (asn1Clear_blank buf) (by omega) hvalues

/-! ### The identity of the UE -/

theorem rrcRandomValue_eq {value : BitVec 64} (h : value.toNat < 2 ^ 39) :
    rrcRandomValue ((value >>> 8).setWidth 32) ((value &&& 0xFF).setWidth 32) = value := by
  apply BitVec.eq_of_getLsbD_eq
  intro i hi
  rw [rrcRandomValue, BitVec.getLsbD_or, BitVec.getLsbD_shiftLeft, BitVec.getLsbD_setWidth,
    BitVec.getLsbD_setWidth, BitVec.getLsbD_setWidth, BitVec.getLsbD_setWidth,
    BitVec.getLsbD_ushiftRight, BitVec.getLsbD_and]
  have hmask : (0xFF : BitVec 64).getLsbD i = decide (i < 8) := by
    rw [show (0xFF : BitVec 64) = (BitVec.allOnes 8).setWidth 64 from rfl, BitVec.getLsbD_setWidth,
      BitVec.getLsbD_allOnes]
    simp [hi]
  rw [hmask]
  by_cases hlow : i < 8
  · have hword : i < 32 := by omega
    simp [hlow, hi, hword]
  · have hsum : 8 + (i - 8) = i := by omega
    by_cases hword : i - 8 < 32
    · have hlt : i - 8 < 64 := by omega
      simp [hlow, hi, hword, hsum, hlt]
    · have hclear : value.getLsbD i = false := by
        apply Nat.testBit_lt_two_pow
        exact Nat.lt_of_lt_of_le h (Nat.pow_le_pow_right Nat.two_pos (by omega))
      simp [hlow, hword, hclear]

theorem run_rrcReadUeIdentity (data : Memory) (bitOffset : Nat) :
    (rrcReadUeIdentity bitOffset).run data
      = { type := (readBits data bitOffset (0 : Word) 1).setWidth 8
          randomValue := rrcRandomValue (readBits data (bitOffset + 1) 0 31)
            (readBits data (bitOffset + 1 + 31) 0 8) } := by
  simp (disch := decide) only [rrcReadUeIdentity, Reading.run_bind, Reading.run_pure,
    run_asn1ReadBits, asn1TakeBits_eq]

/-- An identity with a type of one bit and a random value of thirty-nine. -/
def RrcUeIdentity.Fits (ueIdentity : RrcUeIdentity) : Prop :=
  ueIdentity.type.toNat < 2 ∧ ueIdentity.randomValue.toNat < 2 ^ 39

theorem RrcUeIdentity.Fits.values {ueIdentity : RrcUeIdentity} (h : ueIdentity.Fits) :
    ∀ field ∈ rrcUeIdentityFields ueIdentity, field.1.toNat < 2 ^ field.2 := by
  obtain ⟨htype, hrandom⟩ := h
  have hhigh : (ueIdentity.randomValue >>> 8).toNat < 2 ^ 31 := by
    rw [BitVec.toNat_ushiftRight, Nat.shiftRight_eq_div_pow]
    omega
  have hlow : (ueIdentity.randomValue &&& 0xFF).toNat < 2 ^ 8 := by
    rw [BitVec.toNat_and]
    exact Nat.lt_of_le_of_lt Nat.and_le_right (by decide)
  simp only [rrcUeIdentityFields, List.forall_mem_cons]
  exact ⟨toNat_setWidth_lt htype, toNat_setWidth_lt hhigh, toNat_setWidth_lt hlow,
    List.forall_mem_nil _⟩

theorem RrcUeIdentity.Fits.run_eq {ueIdentity : RrcUeIdentity} (h : ueIdentity.Fits) {data : Memory}
    {bitOffset : Nat}
    (hread : readFields data bitOffset ((rrcUeIdentityFields ueIdentity).map (·.2))
      = (rrcUeIdentityFields ueIdentity).map (·.1)) :
    (rrcReadUeIdentity bitOffset).run data = ueIdentity := by
  obtain ⟨htype, hrest⟩ := List.cons.inj hread
  obtain ⟨hhigh, hrest⟩ := List.cons.inj hrest
  obtain ⟨hlow, -⟩ := List.cons.inj hrest
  have htype : readBits data bitOffset 0 1 = ueIdentity.type.setWidth 32 := htype
  have hhigh : readBits data (bitOffset + 1) 0 31
    = (ueIdentity.randomValue >>> 8).setWidth 32 := hhigh
  have hlow : readBits data (bitOffset + 1 + 31) 0 8
    = (ueIdentity.randomValue &&& 0xFF).setWidth 32 := hlow
  rw [run_rrcReadUeIdentity, htype, hhigh, hlow, rrcRandomValue_eq h.2,
    setWidth_setWidth_word (by decide)]

theorem rrcRandomValue_lt {high low : Word} (hhigh : high.toNat < 2 ^ 31) (hlow : low.toNat < 2 ^ 8) :
    (rrcRandomValue high low).toNat < 2 ^ 39 := by
  have hshift : high.toNat <<< 8 < 2 ^ 39 := by
    rw [Nat.shiftLeft_eq]
    omega
  have hhigh64 : high.toNat % 2 ^ 64 = high.toNat := Nat.mod_eq_of_lt (by omega)
  have hlow64 : low.toNat % 2 ^ 64 = low.toNat := Nat.mod_eq_of_lt (by omega)
  have hshift64 : high.toNat <<< 8 % 2 ^ 64 = high.toNat <<< 8 := Nat.mod_eq_of_lt (by omega)
  rw [rrcRandomValue, BitVec.toNat_or, BitVec.toNat_shiftLeft, BitVec.toNat_setWidth,
    BitVec.toNat_setWidth, hhigh64, hlow64, hshift64]
  exact Nat.or_lt_two_pow hshift (by omega)

theorem rrcReadUeIdentity_fits (data : Memory) (bitOffset : Nat) :
    ((rrcReadUeIdentity bitOffset).run data).Fits := by
  rw [run_rrcReadUeIdentity]
  refine ⟨?_, rrcRandomValue_lt (toNat_readBits_lt _ _ _) (toNat_readBits_lt _ _ _)⟩
  exact Nat.lt_of_le_of_lt (Nat.mod_le _ _) (toNat_readBits_lt data bitOffset 1)

/-! ### Setup request -/

theorem run_rrcDecodeSetupRequest {data : Memory} {len : Nat} (hlen : 6 ≤ len) :
    (rrcDecodeSetupRequest len).run data
      = .ok { ueIdentity := (rrcReadUeIdentity 3).run data
              establishmentCause := readBits data 0 0 2 } := by
  rw [rrcDecodeSetupRequest, if_neg (Nat.not_lt.mpr hlen)]
  simp (disch := decide) only [Reading.run_bind, Reading.run_pure, run_asn1ReadBits,
    run_asn1ReadEnumerated, asn1TakeBits_eq, countBits_establishmentCause, Nat.reduceAdd]

theorem rrcEncodeSetupRequest_survives_iff {msg : RrcSetupRequest} {buf : Asn1Buffer}
    (hidentity : msg.ueIdentity.Fits) (hroom : 43 ≤ 8 * buf.capacity) :
    Survives Eq (fun data len _ => (rrcDecodeSetupRequest len).run data)
        (rrcEncodeSetupRequest buf msg) msg
      ↔ msg.establishmentCause.toNat < 4 := by
  have hwidth : fieldsWidth (rrcSetupRequestFields msg) = 43 := by
    simp [fieldsWidth, rrcSetupRequestFields, rrcUeIdentityFields]
  have hfields : (rrcEncodeSetupRequest buf msg).1.HasFields (rrcSetupRequestFields msg) := by
    refine asn1EncodeFields_hasFields (by rw [rrcEncodeSetupRequest_eq]) ?_ (hwidth.trans_le hroom)
    simp [rrcSetupRequestFields, rrcUeIdentityFields]
  have hoffset : (rrcEncodeSetupRequest buf msg).1.bitOffset = 43 := hfields.bitOffset.trans hwidth
  have hlen : 6 ≤ asn1BufferLength (rrcEncodeSetupRequest buf msg).1 := by
    rw [asn1BufferLength, hoffset]
  refine survives_iff (fun _ => _) rfl (fun _ => run_rrcDecodeSetupRequest hlen) fun _ => ?_
  constructor
  · intro hsame
    rw [congrArg RrcSetupRequest.establishmentCause hsame]
    exact toNat_readBits_lt _ _ _
  · intro hcause
    have hvalues : ∀ field ∈ rrcSetupRequestFields msg, field.1.toNat < 2 ^ field.2 := by
      simp only [rrcSetupRequestFields, List.forall_mem_cons]
      exact ⟨hcause, by decide, hidentity.values⟩
    obtain ⟨hread, hrest⟩ := List.cons.inj (hfields.values hvalues)
    obtain ⟨-, hrest⟩ := List.cons.inj hrest
    have hread : readBits (rrcEncodeSetupRequest buf msg).1.data 0 0 2 = msg.establishmentCause :=
      hread
    have hidentityRead : (rrcReadUeIdentity 3).run (rrcEncodeSetupRequest buf msg).1.data
      = msg.ueIdentity := hidentity.run_eq hrest
    rw [hread, hidentityRead]

/-! ### Reestablishment request -/

theorem run_rrcDecodeReestRequest {data : Memory} {len : Nat} (hlen : 12 ≤ len) :
    (rrcDecodeReestRequest len).run data
      = .ok { ueIdentity := (rrcReadUeIdentity 50).run data
              reestablishmentCause := readBits data 0 0 2
              pci := (readBits data 2 (0 : Word) 16).setWidth 16
              cRnti := readBits data 18 0 16
              shortMacI := ((readBits data 34 (0 : Word) 8).setWidth 8,
                (readBits data 42 (0 : Word) 8).setWidth 8) } := by
  rw [rrcDecodeReestRequest, if_neg (Nat.not_lt.mpr hlen)]
  simp (disch := decide) only [Reading.run_bind, Reading.run_pure, run_asn1ReadBits,
    run_asn1ReadEnumerated, asn1TakeBits_eq, countBits_reestablishmentCause, Nat.reduceAdd]

theorem rrcEncodeReestRequest_survives_iff {msg : RrcReestRequest} {buf : Asn1Buffer}
    (hcrnti : msg.cRnti.toNat < 2 ^ 16) (hroom : 90 ≤ 8 * buf.capacity) :
    Survives Eq (fun data len _ => (rrcDecodeReestRequest len).run data)
        (rrcEncodeReestRequest buf msg) msg
      ↔ msg.reestablishmentCause.toNat < 4 ∧ msg.ueIdentity.Fits := by
  have hwidth : fieldsWidth (rrcReestRequestFields msg) = 90 := by
    simp [fieldsWidth, rrcReestRequestFields, rrcUeIdentityFields]
  have hfields : (rrcEncodeReestRequest buf msg).1.HasFields (rrcReestRequestFields msg) := by
    refine asn1EncodeFields_hasFields (by rw [rrcEncodeReestRequest_eq]) ?_ (hwidth.trans_le hroom)
    simp [rrcReestRequestFields, rrcUeIdentityFields]
  have hoffset : (rrcEncodeReestRequest buf msg).1.bitOffset = 90 := hfields.bitOffset.trans hwidth
  have hlen : 12 ≤ asn1BufferLength (rrcEncodeReestRequest buf msg).1 := by
    rw [asn1BufferLength, hoffset]
  refine survives_iff (fun _ => _) rfl (fun _ => run_rrcDecodeReestRequest hlen) fun _ => ?_
  constructor
  · intro hsame
    rw [congrArg RrcReestRequest.reestablishmentCause hsame,
      congrArg RrcReestRequest.ueIdentity hsame]
    exact ⟨toNat_readBits_lt _ _ _, rrcReadUeIdentity_fits _ _⟩
  · rintro ⟨hcause, hidentity⟩
    have hvalues : ∀ field ∈ rrcReestRequestFields msg, field.1.toNat < 2 ^ field.2 := by
      simp only [rrcReestRequestFields, List.cons_append, List.nil_append, List.forall_mem_cons]
      exact ⟨hcause, toNat_setWidth_lt msg.pci.isLt, hcrnti, toNat_setWidth_lt msg.shortMacI.1.isLt,
        toNat_setWidth_lt msg.shortMacI.2.isLt, hidentity.values⟩
    obtain ⟨hcauseRead, hrest⟩ := List.cons.inj (hfields.values hvalues)
    obtain ⟨hpciRead, hrest⟩ := List.cons.inj hrest
    obtain ⟨hcrntiRead, hrest⟩ := List.cons.inj hrest
    obtain ⟨hmac0Read, hrest⟩ := List.cons.inj hrest
    obtain ⟨hmac1Read, hrest⟩ := List.cons.inj hrest
    generalize (rrcEncodeReestRequest buf msg).1.data = data at *
    have hcauseRead : readBits data 0 0 2 = msg.reestablishmentCause := hcauseRead
    have hpciRead : readBits data 2 0 16 = msg.pci.setWidth 32 := hpciRead
    have hcrntiRead : readBits data 18 0 16 = msg.cRnti := hcrntiRead
    have hmac0Read : readBits data 34 0 8 = msg.shortMacI.1.setWidth 32 := hmac0Read
    have hmac1Read : readBits data 42 0 8 = msg.shortMacI.2.setWidth 32 := hmac1Read
    have hidentityRead : (rrcReadUeIdentity 50).run data = msg.ueIdentity := hidentity.run_eq hrest
    rw [hcauseRead, hpciRead, hcrntiRead, hmac0Read, hmac1Read, hidentityRead,
      setWidth_setWidth_word (by decide), setWidth_setWidth_word (by decide),
      setWidth_setWidth_word (by decide)]

/-! ### Measurement report -/

theorem rrcEncodeMeasurementReport_not_survives {msg : RrcMeasurementReport} {buf : Asn1Buffer}
    (hroom : 67 ≤ 8 * buf.capacity) :
    ¬Survives Eq (fun data len _ => (rrcDecodeMeasurementReport len).run data)
        (rrcEncodeMeasurementReport buf msg) msg := by
  have hwidth : fieldsWidth (rrcMeasurementReportFields msg) = 67 := by
    simp [fieldsWidth, rrcMeasurementReportFields]
  have hfields : (rrcEncodeMeasurementReport buf msg).1.HasFields (rrcMeasurementReportFields msg) := by
    refine asn1EncodeFields_hasFields (by rw [rrcEncodeMeasurementReport_eq]) ?_ (hwidth.trans_le hroom)
    simp [rrcMeasurementReportFields]
  have hoffset : (rrcEncodeMeasurementReport buf msg).1.bitOffset = 67 :=
    hfields.bitOffset.trans hwidth
  refine not_survives .invalidParam fun _ => ?_
  rw [asn1BufferLength, hoffset]
  rfl

/-! ### UE capability enquiry -/

theorem run_rrcReadRatTypes (data : Memory) (rounds i bitOffset : Nat) (ratTypes : Memory) (j : Nat) :
    (rrcReadRatTypes rounds i bitOffset ratTypes).run data j
      = if i ≤ j ∧ j < i + rounds
        then (readBits data (bitOffset + 4 * (j - i)) (0 : Word) 4).setWidth 8 else ratTypes j := by
  induction rounds generalizing i bitOffset ratTypes with
  | zero =>
      have hnone : ¬(i ≤ j ∧ j < i + 0) := by omega
      rw [rrcReadRatTypes, Reading.run_pure, if_neg hnone]
  | succ rounds ih =>
      simp (disch := decide) only [rrcReadRatTypes, Reading.run_bind, run_asn1ReadBits,
        asn1TakeBits_eq, ih]
      by_cases hfirst : j = i
      · subst hfirst
        have hlater : ¬(j + 1 ≤ j ∧ j < j + 1 + rounds) := by omega
        have hhere : j ≤ j ∧ j < j + (rounds + 1) := by omega
        rw [if_neg hlater, if_pos hhere, Function.update_self, Nat.sub_self, Nat.mul_zero,
          Nat.add_zero]
      · have hsame : (i + 1 ≤ j ∧ j < i + 1 + rounds) ↔ (i ≤ j ∧ j < i + (rounds + 1)) := by omega
        rw [Function.update_of_ne hfirst]
        simp only [hsame]
        split
        · rename_i hin
          have hpos : bitOffset + 4 + 4 * (j - (i + 1)) = bitOffset + 4 * (j - i) := by omega
          rw [hpos]
        · rfl

/-- The same enquiry, apart from the types behind the last one. -/
structure RrcUeCapEnquiry.Same (msg decoded : RrcUeCapEnquiry) : Prop where
  enquiryId : decoded.enquiryId = msg.enquiryId
  numRatTypes : decoded.numRatTypes = msg.numRatTypes
  ratTypes : ∀ i < msg.numRatTypes, decoded.ratTypes i = msg.ratTypes i

/-- What the decoder makes of the count. -/
def rrcDecodedRatTypes (data : Memory) : Nat :=
  if readBits data 4 (0 : Word) 4 < 8 then (readBits data 4 (0 : Word) 4).toNat else 8

theorem run_rrcDecodeUeCapEnquiry {data : Memory} {len : Nat} (hlen : 2 ≤ len)
    (old : RrcUeCapEnquiry) :
    (rrcDecodeUeCapEnquiry len old).run data
      = .ok { enquiryId := (readBits data 0 (0 : Word) 4).setWidth 8
              ratTypes := (rrcReadRatTypes (rrcDecodedRatTypes data) 0 8 old.ratTypes).run data
              numRatTypes := rrcDecodedRatTypes data } := by
  rw [rrcDecodeUeCapEnquiry, if_neg (Nat.not_lt.mpr hlen)]
  simp (disch := decide) only [Reading.run_bind, Reading.run_pure, run_asn1ReadBits,
    asn1TakeBits_eq, Nat.zero_add, Nat.reduceAdd, rrcDecodedRatTypes]

theorem rrcDecodedRatTypes_eq {data : Memory} {numRatTypes : Nat} (hnum : numRatTypes ≤ 8)
    (hread : readBits data 4 0 4 = BitVec.ofNat 32 numRatTypes) :
    rrcDecodedRatTypes data = numRatTypes := by
  have htoNat : (BitVec.ofNat 32 numRatTypes).toNat = numRatTypes := by
    rw [BitVec.toNat_ofNat]
    omega
  rw [rrcDecodedRatTypes, hread, htoNat]
  split
  · rfl
  · rename_i hlarge
    rw [BitVec.lt_def, htoNat] at hlarge
    exact Nat.le_antisymm (Nat.le_of_not_lt hlarge) hnum

theorem rrcRatTypeFields_eq {msg : RrcUeCapEnquiry} (hnum : msg.numRatTypes ≤ 8) :
    rrcRatTypeFields msg
      = (List.range msg.numRatTypes).map fun i => ((msg.ratTypes i).setWidth 32, 4) := by
  rw [rrcRatTypeFields, Nat.min_eq_left hnum]

theorem rrcRatTypeFields_widths {msg : RrcUeCapEnquiry} (hnum : msg.numRatTypes ≤ 8) :
    (rrcRatTypeFields msg).map (·.2) = List.replicate msg.numRatTypes 4 := by
  rw [rrcRatTypeFields_eq hnum, List.map_map]
  simp [Function.comp_def]

theorem fieldsWidth_rrcUeCapEnquiryFields {msg : RrcUeCapEnquiry} (hnum : msg.numRatTypes ≤ 8) :
    fieldsWidth (rrcUeCapEnquiryFields msg) = 8 + 4 * msg.numRatTypes := by
  have htypes : fieldsWidth (rrcRatTypeFields msg) = 4 * msg.numRatTypes := by
    rw [fieldsWidth, rrcRatTypeFields_widths hnum]
    simp [Nat.mul_comm]
  rw [rrcUeCapEnquiryFields, List.cons_append, List.cons_append, List.nil_append,
    fieldsWidth_cons, fieldsWidth_cons, htypes]
  omega

theorem rrcUeCapEnquiryFields_widths_le (msg : RrcUeCapEnquiry) :
    ∀ field ∈ rrcUeCapEnquiryFields msg, field.2 ≤ 32 := by
  rw [rrcUeCapEnquiryFields, rrcRatTypeFields]
  simp only [List.cons_append, List.nil_append, List.forall_mem_cons, List.forall_mem_map]
  exact ⟨by decide, by decide, fun _ _ => by decide⟩

theorem rrcUeCapEnquiryFields_values_lt {msg : RrcUeCapEnquiry} (hnum : msg.numRatTypes ≤ 8)
    (htypes : ∀ i < msg.numRatTypes, (msg.ratTypes i).toNat < 16) (hid : msg.enquiryId.toNat < 16) :
    ∀ field ∈ rrcUeCapEnquiryFields msg, field.1.toNat < 2 ^ field.2 := by
  rw [rrcUeCapEnquiryFields, rrcRatTypeFields_eq hnum]
  simp only [List.cons_append, List.nil_append, List.forall_mem_cons, List.forall_mem_map]
  refine ⟨toNat_setWidth_lt hid, ?_, fun i hi => ?_⟩
  · rw [BitVec.toNat_ofNat]
    omega
  · exact toNat_setWidth_lt (htypes i (List.mem_range.mp hi))

theorem readBits_rrcRatTypes {msg : RrcUeCapEnquiry} {data : Memory} (hnum : msg.numRatTypes ≤ 8)
    (h : readFields data 8 ((rrcRatTypeFields msg).map (·.2)) = (rrcRatTypeFields msg).map (·.1)) :
    ∀ i < msg.numRatTypes, readBits data (8 + 4 * i) 0 4 = (msg.ratTypes i).setWidth 32 := by
  rw [rrcRatTypeFields_widths hnum, readFields_replicate, rrcRatTypeFields_eq hnum, List.map_map,
    List.map_inj_left] at h
  exact fun i hi => h i (List.mem_range.mpr hi)

theorem rrcEncodeUeCapEnquiry_survives_iff {msg : RrcUeCapEnquiry} {buf : Asn1Buffer}
    (hnum : msg.numRatTypes ≤ 8) (htypes : ∀ i < msg.numRatTypes, (msg.ratTypes i).toNat < 16)
    (hroom : 8 + 4 * msg.numRatTypes ≤ 8 * buf.capacity) :
    Survives RrcUeCapEnquiry.Same (fun data len old => (rrcDecodeUeCapEnquiry len old).run data)
        (rrcEncodeUeCapEnquiry buf msg) msg
      ↔ msg.enquiryId.toNat < 16 ∧ msg.numRatTypes ≠ 0 := by
  have hwidth := fieldsWidth_rrcUeCapEnquiryFields hnum
  have hfields : (rrcEncodeUeCapEnquiry buf msg).1.HasFields (rrcUeCapEnquiryFields msg) :=
    asn1EncodeFields_hasFields (by rw [rrcEncodeUeCapEnquiry_eq]) (rrcUeCapEnquiryFields_widths_le msg)
      (hwidth.trans_le hroom)
  have hlen : asn1BufferLength (rrcEncodeUeCapEnquiry buf msg).1
      = (8 + 4 * msg.numRatTypes + 7) / 8 := by
    rw [asn1BufferLength, hfields.bitOffset, hwidth]
  by_cases hzero : msg.numRatTypes = 0
  · refine iff_of_false (not_survives .invalidParam fun _ => ?_) fun h => h.2 hzero
    rw [hlen, hzero]
    rfl
  have hlong : 2 ≤ asn1BufferLength (rrcEncodeUeCapEnquiry buf msg).1 := by
    rw [hlen]
    omega
  refine survives_iff (fun _ => _) rfl (run_rrcDecodeUeCapEnquiry hlong) fun old => ?_
  constructor
  · intro hsame
    exact ⟨toNat_lt_of_readBits hsame.enquiryId, hzero⟩
  · rintro ⟨hid, -⟩
    have hvalues := rrcUeCapEnquiryFields_values_lt hnum htypes hid
    obtain ⟨hidRead, hrest⟩ := List.cons.inj (hfields.values hvalues)
    obtain ⟨hnumRead, hrest⟩ := List.cons.inj hrest
    generalize (rrcEncodeUeCapEnquiry buf msg).1.data = data at *
    have hidRead : readBits data 0 0 4 = msg.enquiryId.setWidth 32 := hidRead
    have hcount := rrcDecodedRatTypes_eq hnum hnumRead
    refine ⟨?_, hcount, fun i hi => ?_⟩
    · rw [hidRead, setWidth_setWidth_word (by decide)]
    · have hin : 0 ≤ i ∧ i < 0 + msg.numRatTypes := ⟨Nat.zero_le i, by omega⟩
      dsimp only
      rw [hcount, run_rrcReadRatTypes, if_pos hin, Nat.sub_zero, readBits_rrcRatTypes hnum hrest i hi,
        setWidth_setWidth_word (by decide)]

/-! ### Connection release -/

theorem run_rrcDecodeConnectionRelease {data : Memory} {len : Nat} (hlen : 2 ≤ len) :
    (rrcDecodeConnectionRelease len).run data
      = .ok { releaseCause := (readBits data 0 (0 : Word) 3).setWidth 8
              redirectCarrier := bitAt data 3
              redirectEarfcn :=
                if bitAt data 3 then (readBits data 4 (0 : Word) 16).setWidth 16 else 0 } := by
  rw [rrcDecodeConnectionRelease, if_neg (Nat.not_lt.mpr hlen)]
  simp (disch := decide) only [Reading.run_bind, run_asn1ReadBits, asn1TakeBits_eq,
    run_asn1ReadBoolean, Nat.zero_add, Nat.reduceAdd]
  cases bitAt data 3 <;> rfl

theorem bitAt_of_readBits {data : Memory} {pos : Nat} {value : Bool}
    (h : readBits data pos 0 1 = if value then (1 : Word) else 0) : bitAt data pos = value := by
  rw [readBits, readBits] at h
  cases hbit : bitAt data pos <;> cases value
  · rfl
  · rw [hbit] at h
    exact absurd h (by decide)
  · rw [hbit] at h
    exact absurd h (by decide)
  · rfl

theorem fieldsWidth_rrcConnectionReleaseFields (msg : RrcConnectionRelease) :
    fieldsWidth (rrcConnectionReleaseFields msg) = if msg.redirectCarrier then 25 else 9 := by
  rw [rrcConnectionReleaseFields, rrcRedirectFields]
  cases msg.redirectCarrier <;> rfl

theorem rrcEncodeConnectionRelease_survives_iff {msg : RrcConnectionRelease} {buf : Asn1Buffer}
    (hcause : msg.releaseCause.toNat < 8)
    (hroom : (if msg.redirectCarrier then 25 else 9) ≤ 8 * buf.capacity) :
    Survives Eq (fun data len _ => (rrcDecodeConnectionRelease len).run data)
        (rrcEncodeConnectionRelease buf msg) msg
      ↔ msg.redirectCarrier = true ∨ msg.redirectEarfcn = 0 := by
  have hwidth := fieldsWidth_rrcConnectionReleaseFields msg
  have hvalues : ∀ field ∈ rrcConnectionReleaseFields msg,
      field.2 ≤ 32 ∧ field.1.toNat < 2 ^ field.2 := by
    rw [rrcConnectionReleaseFields, rrcRedirectFields]
    have hcause32 : (msg.releaseCause.setWidth 32).toNat < 2 ^ 3 := toNat_setWidth_lt hcause
    have hearfcn : (msg.redirectEarfcn.setWidth 32).toNat < 2 ^ 16 :=
      toNat_setWidth_lt msg.redirectEarfcn.isLt
    cases msg.redirectCarrier
    · simp only [Bool.false_eq_true, if_false, List.append_nil, List.cons_append, List.nil_append,
        List.forall_mem_cons]
      exact ⟨⟨by decide, hcause32⟩, by decide, by decide, List.forall_mem_nil _⟩
    · simp only [if_true, List.cons_append, List.nil_append, List.forall_mem_cons]
      exact ⟨⟨by decide, hcause32⟩, by decide, ⟨by decide, hearfcn⟩, by decide, List.forall_mem_nil _⟩
  have hfields : (rrcEncodeConnectionRelease buf msg).1.HasFields (rrcConnectionReleaseFields msg) :=
    asn1EncodeFields_hasFields (by rw [rrcEncodeConnectionRelease_eq])
      (fun field hfield => (hvalues field hfield).1) (hwidth.trans_le hroom)
  have hlong : 2 ≤ asn1BufferLength (rrcEncodeConnectionRelease buf msg).1 := by
    rw [asn1BufferLength, hfields.bitOffset, hwidth]
    split <;> decide
  refine survives_iff (fun _ => _) rfl (fun _ => run_rrcDecodeConnectionRelease hlong) fun _ => ?_
  obtain ⟨hcauseRead, hrest⟩ :=
    List.cons.inj (hfields.values fun field hfield => (hvalues field hfield).2)
  obtain ⟨hflagRead, hrest⟩ := List.cons.inj hrest
  generalize (rrcEncodeConnectionRelease buf msg).1.data = data at *
  have hcauseRead : readBits data 0 0 3 = msg.releaseCause.setWidth 32 := hcauseRead
  have hflag : bitAt data 3 = msg.redirectCarrier := bitAt_of_readBits hflagRead
  rw [hcauseRead, hflag, setWidth_setWidth_word (by decide)]
  obtain ⟨cause, redirect, earfcn⟩ := msg
  cases redirect with
  | false => simp
  | true =>
      have hearfcnRead : readBits data 4 0 16 = earfcn.setWidth 32 := (List.cons.inj hrest).1
      refine iff_of_true ?_ (.inl rfl)
      rw [hearfcnRead, if_pos rfl, setWidth_setWidth_word (by decide)]

/-! ### All of them -/

inductive RrcFixedMessage where
  | setupRequest (msg : RrcSetupRequest)
  | reestRequest (msg : RrcReestRequest)
  | measurementReport (msg : RrcMeasurementReport)
  | ueCapEnquiry (msg : RrcUeCapEnquiry)
  | connectionRelease (msg : RrcConnectionRelease)

namespace RrcFixedMessage

def WithinRanges : RrcFixedMessage → Prop
  | setupRequest msg =>
      (∃ cause : RrcEstablishmentCause, cause.code = msg.establishmentCause) ∧ msg.ueIdentity.Fits
  | reestRequest msg => msg.cRnti.toNat < 2 ^ 16
  | measurementReport msg =>
      msg.measId.toNat < 64 ∧ (-140 ≤ msg.rsrp.toInt ∧ msg.rsrp.toInt ≤ 115)
        ∧ (-20 ≤ msg.rsrq.toInt ∧ msg.rsrq.toInt ≤ 107) ∧ msg.cellId.toNat < 2 ^ 28
  | ueCapEnquiry msg => msg.numRatTypes ≤ 8 ∧ ∀ i < msg.numRatTypes, (msg.ratTypes i).toNat < 16
  | connectionRelease msg => msg.releaseCause.toNat < 8

def encodedBits : RrcFixedMessage → Nat
  | setupRequest _ => 43
  | reestRequest _ => 90
  | measurementReport _ => 67
  | ueCapEnquiry msg => 8 + 4 * msg.numRatTypes
  | connectionRelease msg => if msg.redirectCarrier then 25 else 9

/-- Encoded into the buffer and decoded from as many bytes as that takes, the message is the same. -/
def SurvivesWire (buf : Asn1Buffer) : RrcFixedMessage → Prop
  | setupRequest msg =>
      Survives Eq (fun data len _ => (rrcDecodeSetupRequest len).run data)
        (rrcEncodeSetupRequest buf msg) msg
  | reestRequest msg =>
      Survives Eq (fun data len _ => (rrcDecodeReestRequest len).run data)
        (rrcEncodeReestRequest buf msg) msg
  | measurementReport msg =>
      Survives Eq (fun data len _ => (rrcDecodeMeasurementReport len).run data)
        (rrcEncodeMeasurementReport buf msg) msg
  | ueCapEnquiry msg =>
      Survives RrcUeCapEnquiry.Same (fun data len old => (rrcDecodeUeCapEnquiry len old).run data)
        (rrcEncodeUeCapEnquiry buf msg) msg
  | connectionRelease msg =>
      Survives Eq (fun data len _ => (rrcDecodeConnectionRelease len).run data)
        (rrcEncodeConnectionRelease buf msg) msg

/-- The cause has two bits, the message is as long as its decoder expects, and nothing is set that goes
unsent. -/
def FitsLayout : RrcFixedMessage → Prop
  | setupRequest msg => msg.establishmentCause.toNat < 4
  | reestRequest msg => msg.reestablishmentCause.toNat < 4 ∧ msg.ueIdentity.Fits
  | measurementReport _ => False
  | ueCapEnquiry msg => msg.enquiryId.toNat < 16 ∧ msg.numRatTypes ≠ 0
  | connectionRelease msg => msg.redirectCarrier = true ∨ msg.redirectEarfcn = 0

end RrcFixedMessage

/-- **A message of fixed layout survives the wire exactly when both sides agree on its layout.** -/
theorem rrcFixedMessage_survivesWire_iff (message : RrcFixedMessage) (buf : Asn1Buffer)
    (hranges : message.WithinRanges) (hroom : message.encodedBits ≤ 8 * buf.capacity) :
    message.SurvivesWire buf ↔ message.FitsLayout := by
  cases message with
  | setupRequest msg => exact rrcEncodeSetupRequest_survives_iff hranges.2 hroom
  | reestRequest msg => exact rrcEncodeReestRequest_survives_iff hranges hroom
  | measurementReport msg => exact iff_of_false (rrcEncodeMeasurementReport_not_survives hroom) id
  | ueCapEnquiry msg => exact rrcEncodeUeCapEnquiry_survives_iff hranges.1 hranges.2 hroom
  | connectionRelease msg => exact rrcEncodeConnectionRelease_survives_iff hranges hroom

/-- A setup request for an emergency comes back. -/
theorem rrcFixedMessage_survivesWire_emergency :
    (RrcFixedMessage.setupRequest
      { ueIdentity := { type := 1, randomValue := 0x123456789 }
        establishmentCause := RrcEstablishmentCause.emergency.code }).SurvivesWire
      { data := zeros, size := 0, capacity := 6, bitOffset := 0 } :=
  (rrcFixedMessage_survivesWire_iff (.setupRequest
    { ueIdentity := { type := 1, randomValue := 0x123456789 }
      establishmentCause := RrcEstablishmentCause.emergency.code })
    { data := zeros, size := 0, capacity := 6, bitOffset := 0 }
    ⟨⟨.emergency, rfl⟩, by unfold RrcUeIdentity.Fits; decide⟩ (by decide : 43 ≤ 8 * 6)).mpr
    (by unfold RrcFixedMessage.FitsLayout; decide)

/-- A request for terminating data is written with the two low bits of its cause, and a measurement report
is refused by its decoder. -/
theorem rrcFixedMessage_not_survivesWire :
    ∃ request report buf, (RrcFixedMessage.setupRequest request).WithinRanges
      ∧ (RrcFixedMessage.setupRequest request).encodedBits ≤ 8 * buf.capacity
      ∧ request.establishmentCause = RrcEstablishmentCause.mtData.code
      ∧ ¬(RrcFixedMessage.setupRequest request).SurvivesWire buf
      ∧ (RrcFixedMessage.measurementReport report).WithinRanges
      ∧ (RrcFixedMessage.measurementReport report).encodedBits ≤ 8 * buf.capacity
      ∧ ¬(RrcFixedMessage.measurementReport report).SurvivesWire buf := by
  have hidentity : RrcUeIdentity.Fits { type := 0, randomValue := 5 } := by
    unfold RrcUeIdentity.Fits
    decide
  refine ⟨{ ueIdentity := { type := 0, randomValue := 5 }
            establishmentCause := RrcEstablishmentCause.mtData.code },
    { measId := 1, rsrp := -80, rsrq := -10, pci := 1, cellId := 1 },
    { data := zeros, size := 0, capacity := 64, bitOffset := 0 },
    ⟨⟨.mtData, rfl⟩, hidentity⟩, (by decide : 43 ≤ 8 * 64), rfl, ?_,
    by unfold RrcFixedMessage.WithinRanges; decide, (by decide : 67 ≤ 8 * 64),
    rrcEncodeMeasurementReport_not_survives (by decide)⟩
  intro h
  have hcause := (rrcEncodeSetupRequest_survives_iff hidentity (by decide)).mp h
  exact absurd hcause (by decide)

end Uesim
