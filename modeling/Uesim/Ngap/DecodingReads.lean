import Uesim.Library.Reading
import Uesim.Nas.DecodingReads
import Uesim.Ngap.NasTransport

/-!
# What is read of an NGAP message

Four bytes are asked for, and what is behind them is read without a look at the length: the identifiers of the
UE, and in an initial message the cause behind them. The user location and the NAS message are read only where
the length allows it.
-/

namespace Uesim

open Bytes BitMemory Reading

/-! ### The decoder as a program that reads -/

def ngapReadBits (bitOffset numBits : Nat) (old : Word) : Reading (Nat × Word) := do
  if numBits > 32 then pure (bitOffset, old)
  else
    let value ← bits bitOffset (0 : Word) numBits
    pure (bitOffset + numBits, value)

def ngapReadPlmnId (dataOffset : Nat) : Reading (Octets 3) :=
  .byte dataOffset fun b0 => .byte (dataOffset + 1) fun b1 => .byte (dataOffset + 2) fun b2 =>
    .done ⟨[b0, b1, b2], rfl⟩

/-- As many bytes are copied as the array holds. -/
def ngapReadNasPdu (len dataOffset : Nat) : Reading NgapNasPdu :=
  if dataOffset < len then do
    let nasPdu ← bytes dataOffset (min (len - dataOffset) ngapMaxNasPdu)
    pure (ngapCopyNasPdu nasPdu)
  else pure ngapNoNasPdu

def ngapReadUserLocation (uninit : Word) (len bitOffset : Nat) : Reading (Nat × NgapUserLocationInfoNr) :=
  let dataOffset := asn1SkipToByteBoundary bitOffset / 8
  if dataOffset + 10 ≤ len then do
    let plmnId ← ngapReadPlmnId dataOffset
    let (bitOffset, cellId) ← ngapReadBits ((dataOffset + 3) * 8) 36 uninit
    let (bitOffset, tac) ← ngapReadBits bitOffset 24 uninit
    pure (bitOffset, ⟨⟨plmnId, cellId⟩, tac⟩)
  else pure (asn1SkipToByteBoundary bitOffset, ngapNoUserLocation)

def ngapReadInitialUeMessage (uninit : Word) (len bitOffset : Nat) : Reading NgapInitialUeMessage := do
  let (bitOffset, ranUeId) ← ngapReadBits bitOffset 32 uninit
  let (bitOffset, userLocation) ← ngapReadUserLocation uninit len bitOffset
  let (bitOffset, cause) ← ngapReadBits bitOffset 4 uninit
  let (bitOffset, _) ← ngapReadBits bitOffset 4 uninit
  let nasPdu ← ngapReadNasPdu len (asn1SkipToByteBoundary bitOffset / 8)
  pure { ueIds := ⟨ranUeId, 0⟩, userLocation, rrcEstablishmentCause := cause.setWidth 8, nasPdu }

def ngapReadUplinkNasTransport (uninit : Word) (len bitOffset : Nat) : Reading NgapUplinkNasTransport := do
  let (bitOffset, ranUeId) ← ngapReadBits bitOffset 32 uninit
  let (bitOffset, amfUeIdLo) ← ngapReadBits bitOffset 32 uninit
  let (bitOffset, amfUeIdHi) ← ngapReadBits bitOffset 8 uninit
  let nasPdu ← ngapReadNasPdu len (asn1SkipToByteBoundary bitOffset / 8 + 10)
  pure
    { ueIds := ⟨ranUeId, (amfUeIdHi.setWidth 64 <<< 32) ||| amfUeIdLo.setWidth 64⟩
      userLocation := ngapNoUserLocation
      nasPdu }

def ngapReadPayload (uninit : Word) (len bitOffset : Nat) (procedureCode : Word) : Reading NgapPayload :=
  if procedureCode = 21 then pure (.ngSetupRequest ngapNoSetupRequest)
  else if procedureCode = 24 then do
    let req ← ngapReadInitialUeMessage uninit len bitOffset
    pure (.initialUeMessage req)
  else if procedureCode = 36 then do
    let req ← ngapReadUplinkNasTransport uninit len bitOffset
    pure (.uplinkNasTransport req)
  else if procedureCode = 28 then pure (.ueContextReleaseRequest ⟨⟨0, 0⟩, ⟨0, 0⟩⟩)
  else if procedureCode = 25 then pure (.other 4)
  else if procedureCode = 29 then pure (.other 16)
  else if procedureCode = 33 then pure (.other 26)
  else if procedureCode = 40 then pure (.other 35)
  else pure (.other 38)

/-- `ngap_decode_message` with its reads of the message. -/
def ngapReadMessage (uninit : Word) (len : Nat) : Reading (Except UesimError NgapMessage) :=
  if len < 4 then pure (.error .invalidParam)
  else do
    let (bitOffset, procedureCode) ← ngapReadBits 0 8 uninit
    let (bitOffset, criticality) ← ngapReadBits bitOffset 2 uninit
    let (bitOffset, _) ← ngapReadBits bitOffset 6 uninit
    let (bitOffset, transactionId) ← ngapReadBits bitOffset 8 uninit
    let payload ← ngapReadPayload uninit len (asn1SkipToByteBoundary bitOffset) procedureCode
    pure (.ok { procedureCode, criticality := criticality.setWidth 8, transactionId, payload })

/-! ### Its result -/

section Run

variable (uninit : Word) (data : Memory) (len bitOffset : Nat)

theorem run_ngapReadBits (numBits : Nat) (old : Word) :
    (ngapReadBits bitOffset numBits old).run data = ngapDecodeBits data bitOffset numBits old := by
  rw [ngapReadBits]
  split
  · rename_i hmany
    rw [NgapNasTransport.ngapDecodeBits_refused data bitOffset hmany, run_pure]
  · rename_i hfew
    rw [NgapNasTransport.ngapDecodeBits_eq data bitOffset (Nat.le_of_not_lt hfew), run_bind, run_bits,
      run_pure]

theorem run_ngapReadNasPdu (dataOffset : Nat) :
    (ngapReadNasPdu len dataOffset).run data = ngapDecodeNasPdu data len dataOffset := by
  rw [ngapReadNasPdu, ngapDecodeNasPdu]
  split
  · rw [run_bind, run_bytes, run_pure]
    apply Subtype.ext
    change List.take _ _ = List.take _ _
    rcases Nat.le_total (len - dataOffset) ngapMaxNasPdu with hfits | hlong
    · rw [Nat.min_eq_left hfits]
    · rw [Nat.min_eq_right hlong, ← List.map_take, ← List.map_take, List.take_range'_of_length_le le_rfl,
        List.take_range'_of_length_ge hlong]
  · rfl

theorem run_ngapReadInitialUeMessage :
    (ngapReadInitialUeMessage uninit len bitOffset).run data
      = ngapDecodeInitialUeMessage uninit data len bitOffset := by
  rw [ngapReadInitialUeMessage, ngapDecodeInitialUeMessage]
  simp only [run_bind, run_pure, run_ngapReadBits, run_ngapReadNasPdu, ngapReadUserLocation]
  split
  · simp only [run_bind, run_pure, run_ngapReadBits]
    rfl
  · rfl

theorem run_ngapReadUplinkNasTransport :
    (ngapReadUplinkNasTransport uninit len bitOffset).run data
      = ngapDecodeUplinkNasTransport uninit data len bitOffset := by
  rw [ngapReadUplinkNasTransport, ngapDecodeUplinkNasTransport]
  simp only [run_bind, run_pure, run_ngapReadBits, run_ngapReadNasPdu]

theorem run_ngapReadPayload (procedureCode : Word) :
    (ngapReadPayload uninit len bitOffset procedureCode).run data
      = ngapDecodePayload uninit data len bitOffset procedureCode := by
  rw [ngapReadPayload, ngapDecodePayload]
  split
  · rfl
  split
  · rw [run_bind, run_ngapReadInitialUeMessage, run_pure]
  split
  · rw [run_bind, run_ngapReadUplinkNasTransport, run_pure]
  iterate 5
    split
    · rfl
  rfl

theorem run_ngapReadMessage :
    (ngapReadMessage uninit len).run data = ngapDecodeMessage uninit data len := by
  rw [ngapReadMessage, ngapDecodeMessage]
  split
  · rfl
  · simp only [run_bind, run_pure, run_ngapReadBits, run_ngapReadPayload]

end Run

/-! ### What is read -/

section Within

variable {data : Memory} {len : Nat}

theorem within_ngapReadBits {bitOffset numBits : Nat} {old : Word} (hpos : 0 < numBits)
    (hbits : numBits ≤ 32) :
    (ngapReadBits bitOffset numBits old).Within data len ↔ bitOffset + numBits ≤ 8 * len := by
  rw [ngapReadBits, if_neg (Nat.not_lt.mpr hbits), within_bind, within_bits]
  simp only [within_pure, and_true, Nat.ne_of_gt hpos, false_or]

theorem within_ngapReadBits_refused {bitOffset numBits : Nat} {old : Word} (hbits : 32 < numBits) :
    (ngapReadBits bitOffset numBits old).Within data len := by
  rw [ngapReadBits, if_pos hbits]
  exact within_pure _ _ _

theorem within_ngapReadNasPdu (dataOffset : Nat) : (ngapReadNasPdu len dataOffset).Within data len := by
  rw [ngapReadNasPdu]
  split
  · exact within_bind.mpr ⟨within_bytes.mpr (.inr (by omega)), within_pure _ _ _⟩
  · exact within_pure _ _ _

theorem within_ngapReadPlmnId {dataOffset : Nat} (h : dataOffset + 3 ≤ len) :
    (ngapReadPlmnId dataOffset).Within data len := by
  simp only [ngapReadPlmnId, within_byte, within_done, and_true]
  omega

/-- The cell identity is not read, and the tracking area code is read in its place. -/
theorem ngapReadUserLocation_of_le (uninit : Word) (h : 17 ≤ len) :
    (ngapReadUserLocation uninit len 56).Within data len
      ∧ ((ngapReadUserLocation uninit len 56).run data).1 = 104 := by
  have hlocation : asn1SkipToByteBoundary 56 / 8 + 10 ≤ len := h
  rw [ngapReadUserLocation]
  dsimp only
  rw [if_pos hlocation]
  simp (disch := decide) only [within_bind, run_bind, run_pure, run_ngapReadBits, within_pure, and_true,
    NgapNasTransport.ngapDecodeBits_refused, NgapNasTransport.ngapDecodeBits_eq, within_ngapReadBits,
    within_ngapReadBits_refused, true_and]
  refine ⟨⟨within_ngapReadPlmnId ?_, ?_⟩, rfl⟩
  · change 7 + 3 ≤ len
    omega
  · change 80 + 24 ≤ 8 * len
    omega

theorem ngapReadUserLocation_of_lt (uninit : Word) (h : len < 17) :
    (ngapReadUserLocation uninit len 56).Within data len
      ∧ ((ngapReadUserLocation uninit len 56).run data).1 = 56 := by
  have hlocation : ¬asn1SkipToByteBoundary 56 / 8 + 10 ≤ len := Nat.not_le.mpr h
  rw [ngapReadUserLocation]
  dsimp only
  rw [if_neg hlocation]
  exact ⟨within_pure _ _ _, rfl⟩

/-- Up to the cause the length has been compared only where there is a user location. -/
theorem within_ngapReadInitialUeMessage (uninit : Word) :
    (ngapReadInitialUeMessage uninit len 24).Within data len ↔ 8 ≤ len := by
  rw [ngapReadInitialUeMessage]
  simp (disch := decide) only [within_bind, run_ngapReadBits, NgapNasTransport.ngapDecodeBits_eq,
    within_ngapReadBits, within_ngapReadNasPdu, within_pure, and_true]
  by_cases hlocation : 17 ≤ len
  · obtain ⟨hwithin, hoffset⟩ := @ngapReadUserLocation_of_le data len uninit hlocation
    rw [hoffset, and_iff_right hwithin]
    omega
  · obtain ⟨hwithin, hoffset⟩ := @ngapReadUserLocation_of_lt data len uninit (Nat.lt_of_not_le hlocation)
    rw [hoffset, and_iff_right hwithin]
    omega

theorem within_ngapReadUplinkNasTransport (uninit : Word) :
    (ngapReadUplinkNasTransport uninit len 24).Within data len ↔ 12 ≤ len := by
  rw [ngapReadUplinkNasTransport]
  simp (disch := decide) only [within_bind, run_ngapReadBits, NgapNasTransport.ngapDecodeBits_eq,
    within_ngapReadBits, within_ngapReadNasPdu, within_pure, and_true]
  omega

theorem within_ngapReadPayload (uninit procedureCode : Word) :
    (ngapReadPayload uninit len 24 procedureCode).Within data len
      ↔ (procedureCode = 24 → 8 ≤ len) ∧ (procedureCode = 36 → 12 ≤ len) := by
  by_cases hinitial : procedureCode = 24
  · subst hinitial
    rw [ngapReadPayload, if_neg (by decide), if_pos rfl, within_bind, within_ngapReadInitialUeMessage]
    simp [within_pure]
  by_cases huplink : procedureCode = 36
  · subst huplink
    rw [ngapReadPayload, if_neg (by decide), if_neg (by decide), if_pos rfl, within_bind,
      within_ngapReadUplinkNasTransport]
    simp [within_pure]
  · refine iff_of_true ?_ ⟨fun h => absurd h hinitial, fun h => absurd h huplink⟩
    rw [ngapReadPayload, if_neg hinitial, if_neg huplink]
    repeat' split
    all_goals exact within_pure _ _ _

theorem readBits_procedureCode (data : Memory) : readBits data 0 (0 : Word) 8 = (data 0).setWidth 32 := by
  apply BitVec.eq_of_getLsbD_eq
  intro i hi
  rw [getLsbD_readBits, BitVec.getLsbD_setWidth]
  by_cases hlow : i < 8
  · have hbyte : (0 + 8 - 1 - i) / 8 = 0 := by omega
    have hbit : 7 - (0 + 8 - 1 - i) % 8 = i := by omega
    simp [bitAt, hbyte, hbit, hlow, hi]
  · have hhigh : (data 0).getLsbD i = false := BitVec.getLsbD_of_ge _ _ (Nat.le_of_not_lt hlow)
    simp [hlow, hhigh]

theorem procedureCode_eq_iff (data : Memory) (code : Byte) :
    readBits data 0 (0 : Word) 8 = code.setWidth 32 ↔ data 0 = code := by
  rw [readBits_procedureCode, ← BitVec.toNat_inj, BitVec.toNat_setWidth, BitVec.toNat_setWidth,
    ← BitVec.toNat_inj]
  omega

/-- The length covers the identifiers and the cause where the procedure code asks for them. -/
theorem within_ngapReadMessage (uninit : Word) (hlen : 4 ≤ len) :
    (ngapReadMessage uninit len).Within data len
      ↔ (data 0 = 24 → 8 ≤ len) ∧ (data 0 = 36 → 12 ≤ len) := by
  have hinitial := procedureCode_eq_iff data 24
  have huplink := procedureCode_eq_iff data 36
  rw [← hinitial, ← huplink, ngapReadMessage, if_neg (Nat.not_lt.mpr hlen)]
  simp (disch := decide) only [within_bind, run_ngapReadBits, NgapNasTransport.ngapDecodeBits_eq,
    within_ngapReadBits, within_pure, and_true]
  have hskip : asn1SkipToByteBoundary (0 + 8 + 2 + 6 + 8) = 24 := rfl
  rw [hskip, within_ngapReadPayload]
  have hheader : 0 + 8 + 2 + 6 + 8 ≤ 8 * len := by omega
  constructor
  · rintro ⟨-, -, -, -, hpayload⟩
    exact hpayload
  · intro hpayload
    exact ⟨by omega, by omega, by omega, hheader, hpayload⟩

end Within

/-! ### The NAS message in it -/

def NgapPayload.nasPdu : NgapPayload → List Byte
  | .initialUeMessage req => req.nasPdu.1
  | .uplinkNasTransport req => req.nasPdu.1
  | _ => []

section NasPdu

variable {data : Memory} {len : Nat}

theorem partBelow_ngapDecodeNasPdu (data : Memory) (len dataOffset : Nat) :
    PartBelow data len (ngapDecodeNasPdu data len dataOffset).1 := by
  rw [← run_ngapReadNasPdu, ngapReadNasPdu]
  split
  · rename_i hinside
    rw [run_bind, run_bytes, run_pure]
    refine ⟨dataOffset, min (len - dataOffset) ngapMaxNasPdu, by omega, ?_⟩
    apply List.take_of_length_le
    rw [List.length_map, List.length_range']
    exact Nat.min_le_right _ _
  · exact partBelow_nil data len

theorem partBelow_ngapDecodePayload (uninit : Word) (data : Memory) (len bitOffset : Nat)
    (procedureCode : Word) :
    PartBelow data len (ngapDecodePayload uninit data len bitOffset procedureCode).nasPdu := by
  rw [ngapDecodePayload]
  split
  · exact partBelow_nil data len
  split
  · exact partBelow_ngapDecodeNasPdu data len _
  split
  · exact partBelow_ngapDecodeNasPdu data len _
  iterate 5
    split
    · exact partBelow_nil data len
  exact partBelow_nil data len

theorem length_nasPdu_le (payload : NgapPayload) : payload.nasPdu.length ≤ ngapMaxNasPdu := by
  cases payload with
  | initialUeMessage req => exact req.nasPdu.2
  | uplinkNasTransport req => exact req.nasPdu.2
  | ngSetupRequest req => exact Nat.zero_le _
  | ueContextReleaseRequest req => exact Nat.zero_le _
  | ueContextReleaseComplete req => exact Nat.zero_le _
  | other messageType => exact Nat.zero_le _

end NasPdu

/-- The message is rejected, or it is read below its length, and the NAS message that comes out fits into its
array and is a part of it, whatever lies behind it and whatever the stack held. -/
def NgapMessageBounded (data : Memory) (len : Nat) : Prop :=
  ∀ mem : Memory, (∀ i < len, mem i = data i) → ∀ uninit,
    (∃ e, (ngapReadMessage uninit len).run mem = .error e)
      ∨ (ngapReadMessage uninit len).Within mem len
        ∧ ∀ decoded, (ngapReadMessage uninit len).run mem = .ok decoded →
          decoded.payload.nasPdu.length ≤ ngapMaxNasPdu ∧ PartBelow mem len decoded.payload.nasPdu

theorem ngapMessageBounded_iff {data : Memory} {len : Nat} :
    NgapMessageBounded data len
      ↔ len < 4 ∨ (data 0 = 24 → 8 ≤ len) ∧ (data 0 = 36 → 12 ≤ len) := by
  by_cases hshort : len < 4
  · refine iff_of_true (fun mem _ uninit => .inl ⟨.invalidParam, ?_⟩) (.inl hshort)
    rw [ngapReadMessage, if_pos hshort, run_pure]
  rw [or_iff_right hshort]
  have hok (uninit : Word) (mem : Memory) :
      ¬∃ e, (ngapReadMessage uninit len).run mem = .error e := by
    rintro ⟨e, herror⟩
    rw [run_ngapReadMessage, ngapDecodeMessage, if_neg hshort] at herror
    cases herror
  constructor
  · intro h
    rcases h data (fun _ _ => rfl) 0 with herror | ⟨hwithin, -⟩
    · exact absurd herror (hok 0 data)
    · exact (within_ngapReadMessage 0 (Nat.le_of_not_lt hshort)).mp hwithin
  · intro h mem hsame uninit
    refine .inr ⟨(within_ngapReadMessage uninit (Nat.le_of_not_lt hshort)).mpr ?_, fun decoded hdecoded => ?_⟩
    · rwa [hsame 0 (by omega)]
    · refine ⟨length_nasPdu_le _, ?_⟩
      rw [run_ngapReadMessage] at hdecoded
      rw [(NgapNasTransport.ngapDecodeMessage_eq hdecoded).2]
      exact partBelow_ngapDecodePayload _ _ _ _ _

/-- **When NGAP and NAS messages are decoded within their length.** -/
theorem decoding_bounded_iff (message : NasMessage) (data : Memory) (len : BitVec 64) :
    (NgapMessageBounded data len.toNat
        ↔ len.toNat < 4 ∨ (data 0 = 24 → 8 ≤ len.toNat) ∧ (data 0 = 36 → 12 ≤ len.toNat))
      ∧ (NasMessageBounded message data len ↔ len ≠ 1) :=
  ⟨ngapMessageBounded_iff, nasMessageBounded_iff⟩

/-- The four bytes of a header only, an initial message and an uplink transport, and a NAS message of one
byte. -/
theorem decoding_not_bounded :
    ¬NgapMessageBounded (ofBytes [24, 0, 0, 0]) 4 ∧ ¬NgapMessageBounded (ofBytes [36, 0, 0, 0]) 4
      ∧ ¬NasMessageBounded ⟨⟨0, 0, 0, 0, 0⟩, none, false, false⟩ (ofBytes [0x7e]) 1 := by
  refine ⟨fun h => ?_, fun h => ?_, not_nasMessageBounded_one⟩
  · rcases ngapMessageBounded_iff.mp h with hshort | ⟨hinitial, -⟩
    · exact absurd hshort (by decide)
    · exact absurd (hinitial rfl) (by decide)
  · rcases ngapMessageBounded_iff.mp h with hshort | ⟨-, huplink⟩
    · exact absurd hshort (by decide)
    · exact absurd (huplink rfl) (by decide)

end Uesim
