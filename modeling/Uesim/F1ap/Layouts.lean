import Uesim.F1ap.Messages

/-!
# What the F1AP decoder reads

For each structure the values that fit its fields, and its layout: the fields that the encoder writes, and
what the decoder may find in them. The decoder returns fitting messages only, the one whose layout the bytes
show.
-/

namespace Uesim

open Bytes BitMemory

/-! ### Digits -/

section Digits

variable {low high : Byte}

theorem toNat_lowDigit (b : Byte) : (b &&& (0x0F : Byte)).toNat = b.toNat % 16 := by
  rw [BitVec.toNat_and]
  exact Nat.and_two_pow_sub_one_eq_mod _ 4

theorem lowDigit_lt (b : Byte) : (b &&& (0x0F : Byte)).toNat < 16 := by
  rw [toNat_lowDigit]
  exact Nat.mod_lt _ (by decide)

theorem toNat_highDigit (b : Byte) : (b >>> 4).toNat = b.toNat / 16 := by
  rw [BitVec.toNat_ushiftRight, Nat.shiftRight_eq_div_pow]

theorem toNat_highDigit_and (b : Byte) : (b >>> 4 &&& (0x0F : Byte)).toNat = b.toNat / 16 := by
  have hb := b.isLt
  rw [toNat_lowDigit, toNat_highDigit]
  omega

theorem toNat_f1apDigits (hlow : low.toNat < 16) (hhigh : high.toNat < 16) :
    (f1apDigits low high).toNat = low.toNat + 16 * high.toNat := by
  have hshift : ((high.setWidth 32 : Word) <<< 4).toNat = high.toNat <<< 4 := by
    rw [BitVec.toNat_shiftLeft, BitVec.toNat_setWidth_of_le (by decide), Nat.shiftLeft_eq]
    omega
  rw [f1apDigits, BitVec.toNat_or, BitVec.toNat_setWidth_of_le (by decide), hshift, Nat.or_comm,
    ← Nat.shiftLeft_add_eq_or_of_lt (by omega), Nat.shiftLeft_eq]
  omega

theorem toNat_setWidth_byte {v : Word} (hv : v.toNat < 2 ^ 8) : (v.setWidth 8 : Byte).toNat = v.toNat :=
  (BitVec.toNat_setWidth _ _).trans (Nat.mod_eq_of_lt hv)

/-- Two digits are found in a byte exactly if it is what the encoder makes of them. -/
theorem digits_eq_iff {v : Word} (hv : v.toNat < 2 ^ 8) (hlow : low.toNat < 16) (hhigh : high.toNat < 16) :
    ((v.setWidth 8 : Byte) &&& (0x0F : Byte) = low ∧ (v.setWidth 8 : Byte) >>> 4 &&& (0x0F : Byte) = high)
      ↔ v = f1apDigits low high := by
  rw [← BitVec.toNat_inj, ← BitVec.toNat_inj, ← BitVec.toNat_inj, toNat_lowDigit, toNat_highDigit_and,
    toNat_setWidth_byte hv, toNat_f1apDigits hlow hhigh]
  omega

end Digits

def F1apMnc.Fits : F1apMnc → Prop
  | two digit0 digit1 => digit0.toNat < 16 ∧ digit1.toNat < 16
  | three digit0 digit1 digit2 => digit0.toNat < 16 ∧ digit1.toNat < 16 ∧ digit2.toNat < 16

structure F1apPlmnId.Fits (plmn : F1apPlmnId) : Prop where
  mcc0 : plmn.mcc0.toNat < 16
  mcc1 : plmn.mcc1.toNat < 16
  mcc2 : plmn.mcc2.toNat < 16
  mnc : plmn.mnc.Fits

/-- The last byte is written with 15 in its higher half, by which it shows two digits. -/
def F1apMnc.layout : F1apMnc → List (Slot 32)
  | two digit0 digit1 =>
      [.exact (f1apDigits digit0 digit1, 8),
        { written := 0xF0, width := 8, shows := fun v => v.toNat / 16 = 15 }]
  | three digit0 digit1 digit2 =>
      [.exact (f1apDigits digit0 digit1, 8),
        { written := f1apDigits digit2 0xF, width := 8,
          shows := fun v => v.toNat / 16 ≠ 15 ∧ v.toNat % 16 = digit2.toNat }]

def F1apPlmnId.layout (plmn : F1apPlmnId) : List (Slot 32) :=
  [.exact (f1apDigits plmn.mcc0 plmn.mcc1, 8),
    { written := f1apDigits plmn.mcc2 0xF, width := 8, shows := fun v => v.toNat % 16 = plmn.mcc2.toNat }]
    ++ plmn.mnc.layout

theorem F1apPlmnId.map_field_layout (plmn : F1apPlmnId) :
    plmn.layout.map Slot.field = f1apEncodePlmnId plmn := by
  rw [layout, f1apEncodePlmnId, List.map_append]
  cases plmn.mnc <;> rfl

theorem F1apPlmnId.slotsWidth_layout (plmn : F1apPlmnId) : slotsWidth plmn.layout = 32 := by
  rw [layout, slotsWidth_append]
  cases plmn.mnc <;> rfl

theorem F1apPlmnId.narrow_layout (plmn : F1apPlmnId) : ∀ slot ∈ plmn.layout, slot.width ≤ 32 := by
  rw [layout, List.forall_mem_append]
  cases plmn.mnc <;> simp [F1apMnc.layout, Slot.exact]

def f1apMncOfBytes (b3 b4 : Byte) : F1apMnc :=
  if b4 >>> 4 = (0x0F : Byte) then .two (b3 &&& (0x0F : Byte)) (b3 >>> 4 &&& (0x0F : Byte))
  else .three (b3 &&& (0x0F : Byte)) (b3 >>> 4 &&& (0x0F : Byte)) (b4 &&& (0x0F : Byte))

theorem f1apMncOfBytes_fits (b3 b4 : Byte) : (f1apMncOfBytes b3 b4).Fits := by
  rw [f1apMncOfBytes]
  split
  · exact ⟨lowDigit_lt _, lowDigit_lt _⟩
  · exact ⟨lowDigit_lt _, lowDigit_lt _, lowDigit_lt _⟩

theorem f1apMncOfBytes_eq_iff {mem : Memory} {pos : Nat} {mnc : F1apMnc} (hmnc : mnc.Fits) :
    f1apMncOfBytes ((readBits mem pos (0 : Word) 8).setWidth 8)
        ((readBits mem (pos + 8) (0 : Word) 8).setWidth 8) = mnc
      ↔ Shown mem pos mnc.layout := by
  have hread : ∀ pos, (readBits mem pos (0 : Word) 8).toNat < 2 ^ 8 := fun pos =>
    toNat_readBits_lt mem pos 8
  have hmarker : ((readBits mem (pos + 8) (0 : Word) 8).setWidth 8 : Byte) >>> 4 = (0x0F : Byte)
      ↔ (readBits mem (pos + 8) (0 : Word) 8).toNat / 16 = 15 := by
    rw [← BitVec.toNat_inj, toNat_highDigit, toNat_setWidth_byte (hread _)]
    rfl
  rw [f1apMncOfBytes]
  cases mnc with
  | two digit0 digit1 =>
      change _ ↔ readBits mem pos 0 8 = f1apDigits digit0 digit1
        ∧ (readBits mem (pos + 8) (0 : Word) 8).toNat / 16 = 15 ∧ True
      rw [← digits_eq_iff (hread pos) hmnc.1 hmnc.2, ← hmarker, and_true]
      split
      · rename_i htwo
        rw [F1apMnc.two.injEq, and_iff_left htwo]
      · rename_i htwo
        exact iff_of_false (fun h => by cases h) fun h => htwo h.2
  | three digit0 digit1 digit2 =>
      change _ ↔ readBits mem pos 0 8 = f1apDigits digit0 digit1
        ∧ ((readBits mem (pos + 8) (0 : Word) 8).toNat / 16 ≠ 15
          ∧ (readBits mem (pos + 8) (0 : Word) 8).toNat % 16 = digit2.toNat) ∧ True
      rw [← digits_eq_iff (hread pos) hmnc.1 hmnc.2.1, ne_eq, ← hmarker, and_true]
      split
      · rename_i htwo
        exact iff_of_false (fun h => by cases h) fun h => h.2.1 htwo
      · rename_i htwo
        rw [F1apMnc.three.injEq, and_iff_right htwo, ← BitVec.toNat_inj (x := _ &&& _) (y := digit2),
          toNat_lowDigit, toNat_setWidth_byte (hread _), and_assoc]

theorem reads_f1apPlmnId : Reads f1apDecodePlmnId F1apPlmnId.Fits F1apPlmnId.layout := by
  refine ⟨fun mem pos => ?_, fun mem pos plmn hplmn => ?_, fun mem pos => ?_, fun {plmn} _ => ?_⟩
  · exact ⟨lowDigit_lt _, lowDigit_lt _, lowDigit_lt _, f1apMncOfBytes_fits _ _⟩
  · have hread : ∀ pos, (readBits mem pos (0 : Word) 8).toNat < 2 ^ 8 := fun pos =>
      toNat_readBits_lt mem pos 8
    rw [F1apPlmnId.layout, shown_append]
    change F1apPlmnId.mk _ _ _ (f1apMncOfBytes _ _) = plmn
      ↔ (readBits mem pos 0 8 = f1apDigits plmn.mcc0 plmn.mcc1
          ∧ (readBits mem (pos + 8) (0 : Word) 8).toNat % 16 = plmn.mcc2.toNat ∧ True)
        ∧ Shown mem (pos + 16) plmn.mnc.layout
    rw [← f1apMncOfBytes_eq_iff hplmn.mnc, ← digits_eq_iff (hread pos) hplmn.mcc0 hplmn.mcc1, and_true,
      ← toNat_setWidth_byte (hread _), ← toNat_lowDigit, BitVec.toNat_inj]
    constructor
    · rintro rfl
      exact ⟨⟨⟨rfl, rfl⟩, rfl⟩, rfl⟩
    · rintro ⟨⟨⟨h0, h1⟩, h2⟩, h3⟩
      cases plmn
      cases h0
      cases h1
      cases h2
      cases h3
      rfl
  · rw [F1apPlmnId.slotsWidth_layout]
    rfl
  · exact plmn.narrow_layout

/-! ### Parts of messages -/

def F1apCause.Fits (cause : F1apCause) : Prop := cause.causeType.toNat < 2 ^ 2

def F1apSlice.Fits (slice : F1apSlice) : Prop := slice.sd.toNat < 2 ^ 24

def F1apQosFlow.Fits (flow : F1apQosFlow) : Prop := flow.qfi.toNat < 2 ^ 6

def F1apDrbInfo.Fits (drb : F1apDrbInfo) : Prop :=
  drb.drbId.toNat < 2 ^ 5 ∧ drb.sdtMode.toNat < 2 ^ 1 ∧ drb.rlcMode.toNat < 2 ^ 2
    ∧ drb.ulUpTnlInfo.count.toNat < 2 ^ 4 ∧ drb.qosFlows.Fits 6 F1apQosFlow.Fits

def F1apFailedDrb.Fits (drb : F1apFailedDrb) : Prop := drb.drbId.toNat < 2 ^ 5 ∧ drb.cause.Fits

def F1apServedCellInfo.Fits (cell : F1apServedCellInfo) : Prop :=
  cell.nrCellId.toNat < 2 ^ 36 ∧ cell.pci.toNat < 2 ^ 10 ∧ cell.tac.toNat < 2 ^ 24
    ∧ cell.plmns.Fits 8 F1apPlmnId.Fits ∧ cell.slices.Fits 8 F1apSlice.Fits
    ∧ cell.ngranDuplexMode.toNat < 2 ^ 4

def F1apGnbDuId.Fits (id : F1apGnbDuId) : Prop := id.gnbDuName.length ≤ 63

def F1apGnbCuId.Fits (id : F1apGnbCuId) : Prop := id.gnbCuId.toNat < 2 ^ 32 ∧ id.gnbCuName.length ≤ 63

def F1apGnbDuId.layout (id : F1apGnbDuId) : List (Slot 32) :=
  .exact (id.gnbDuId, 32) :: asn1NameLayout id.gnbDuName

def F1apGnbCuId.layout (id : F1apGnbCuId) : List (Slot 32) :=
  .exact (id.gnbCuId.setWidth 32, 32) :: asn1NameLayout id.gnbCuName

def F1apServedCellInfo.layout (cell : F1apServedCellInfo) : List (Slot 32) :=
  exactly (f1apEncodeNrCellId cell.nrCellId ++ [(cell.pci.setWidth 32, 10), (cell.tac, 24)])
    ++ cell.plmns.layout 8 F1apPlmnId.layout
    ++ exactly (cell.slices.fields 8 f1apEncodeSlice ++ [(cell.ngranDuplexMode.setWidth 32, 4)])

theorem reads_f1apNrCellId :
    Reads f1apDecodeNrCellId (fun id => id.toNat < 2 ^ 36) (fun id => exactly (f1apEncodeNrCellId id)) :=
  reads_wide (by decide) (by decide)

theorem reads_f1apRanUeId :
    Reads (asn1ReadWide 8) (fun id => id.toNat < 2 ^ 40) (fun id => exactly (asn1EncodeWide 0xFF 8 id)) :=
  reads_wide (by decide) (by decide)

theorem reads_f1apAmbr :
    Reads (asn1ReadWide 32) (fun _ => True) (fun value => exactly (f1apEncodeAmbr value)) :=
  (reads_wide (by decide) (by decide)).congr (fun value => iff_of_true value.isLt trivial) fun _ _ => rfl

theorem reads_f1apCause :
    Reads f1apDecodeCause F1apCause.Fits (fun cause => exactly (f1apEncodeCause cause)) := by
  refine (Reads.part (reads_bits (by decide)) F1apCause.causeType (by simp) fun _ =>
    Reads.part reads_byte F1apCause.causeValue (by simp) fun _ => reads_record _).congr ?_ ?_
  · intro cause
    simp [F1apCause.Fits]
  · intro cause _
    simp [f1apEncodeCause, asn1EncodeByte]

theorem reads_f1apUeIds :
    Reads f1apDecodeUeIds (fun _ => True) (fun ids => exactly (f1apEncodeUeIds ids)) := by
  refine (Reads.part reads_word F1apUeIds.gnbCuUeF1apId (by simp) fun _ =>
    Reads.part reads_word F1apUeIds.gnbDuUeF1apId (by simp) fun _ => reads_record _).congr ?_ ?_
  · simp
  · intro ids _
    simp [f1apEncodeUeIds]

theorem reads_f1apSlice :
    Reads f1apDecodeSlice F1apSlice.Fits (fun slice => exactly (f1apEncodeSlice slice)) := by
  refine (Reads.part reads_byte F1apSlice.sst (by simp) fun _ =>
    Reads.part (reads_bits (by decide)) F1apSlice.sd (by simp) fun _ => reads_record _).congr ?_ ?_
  · intro slice
    simp [F1apSlice.Fits]
  · intro slice _
    simp [f1apEncodeSlice, asn1EncodeByte]

theorem reads_f1apTnlInfo :
    Reads f1apDecodeTnlInfo (fun _ => True) (fun tnl => exactly (f1apEncodeTnlInfo tnl)) := by
  refine (Reads.part reads_word F1apTnlInfo.ip (by simp) fun _ =>
    Reads.part (reads_whole (by decide)) F1apTnlInfo.port (by simp) fun _ =>
    Reads.part reads_word F1apTnlInfo.teid (by simp) fun _ => reads_record _).congr ?_ ?_
  · simp
  · intro tnl _
    simp [f1apEncodeTnlInfo]

theorem reads_f1apQosFlow :
    Reads f1apDecodeQosFlow F1apQosFlow.Fits (fun flow => exactly (f1apEncodeQosFlow flow)) := by
  refine (Reads.part (reads_bits (by decide)) F1apQosFlow.qfi (by simp) fun _ =>
    Reads.part reads_byte F1apQosFlow.fiveQi (by simp) fun _ => reads_record _).congr ?_ ?_
  · intro flow
    simp [F1apQosFlow.Fits]
  · intro flow _
    simp [f1apEncodeQosFlow, asn1EncodeByte]

theorem reads_f1apDrbInfo :
    Reads f1apDecodeDrbInfo F1apDrbInfo.Fits (fun drb => exactly (f1apEncodeDrbInfo drb)) := by
  refine (Reads.part (reads_bits (by decide)) F1apDrbInfo.drbId (by simp) fun _ =>
    Reads.part (reads_bits (by decide)) F1apDrbInfo.sdtMode (by simp) fun _ =>
    Reads.part (reads_bits (by decide)) F1apDrbInfo.rlcMode (by simp) fun _ =>
    Reads.part (reads_counted reads_f1apTnlInfo (by decide)) F1apDrbInfo.ulUpTnlInfo (by simp) fun _ =>
    Reads.part (reads_counted reads_f1apQosFlow (by decide)) F1apDrbInfo.qosFlows (by simp) fun _ =>
    reads_record _).congr ?_ ?_
  · intro drb
    simp [F1apDrbInfo.Fits, Counted.Fits]
  · intro drb _
    simp [f1apEncodeDrbInfo, Counted.exactly_fields]

theorem reads_f1apFailedDrb :
    Reads f1apDecodeFailedDrb F1apFailedDrb.Fits (fun drb => exactly (f1apEncodeFailedDrb drb)) := by
  refine (Reads.part (reads_bits (by decide)) F1apFailedDrb.drbId (by simp) fun _ =>
    Reads.part reads_f1apCause F1apFailedDrb.cause (by simp) fun _ => reads_record _).congr ?_ ?_
  · intro drb
    simp [F1apFailedDrb.Fits]
  · intro drb _
    simp [f1apEncodeFailedDrb]

theorem reads_f1apServedCellInfo :
    Reads f1apDecodeServedCellInfo F1apServedCellInfo.Fits F1apServedCellInfo.layout := by
  refine (Reads.part reads_f1apNrCellId F1apServedCellInfo.nrCellId (by simp) fun _ =>
    Reads.part (reads_bits (by decide)) F1apServedCellInfo.pci (by simp) fun _ =>
    Reads.part (reads_bits (by decide)) F1apServedCellInfo.tac (by simp) fun _ =>
    Reads.part (reads_counted reads_f1apPlmnId (by decide)) F1apServedCellInfo.plmns (by simp) fun _ =>
    Reads.part (reads_counted reads_f1apSlice (by decide)) F1apServedCellInfo.slices (by simp) fun _ =>
    Reads.part (reads_bits (by decide)) F1apServedCellInfo.ngranDuplexMode (by simp) fun _ =>
    reads_record _).congr ?_ ?_
  · intro cell
    simp [F1apServedCellInfo.Fits]
  · intro cell _
    simp [F1apServedCellInfo.layout, Counted.exactly_fields]

theorem reads_f1apGnbDuId : Reads f1apDecodeGnbDuId F1apGnbDuId.Fits F1apGnbDuId.layout := by
  refine (Reads.part reads_word F1apGnbDuId.gnbDuId (by simp) fun _ =>
    Reads.part reads_name F1apGnbDuId.gnbDuName (by simp) fun _ => reads_record _).congr ?_ ?_
  · intro id
    simp [F1apGnbDuId.Fits]
  · intro id _
    simp [F1apGnbDuId.layout]

theorem reads_f1apGnbCuId : Reads f1apDecodeGnbCuId F1apGnbCuId.Fits F1apGnbCuId.layout := by
  refine (Reads.part (reads_bits (by decide)) F1apGnbCuId.gnbCuId (by simp) fun _ =>
    Reads.part reads_name F1apGnbCuId.gnbCuName (by simp) fun _ => reads_record _).congr ?_ ?_
  · intro id
    simp [F1apGnbCuId.Fits]
  · intro id _
    simp [F1apGnbCuId.layout]

/-! ### Messages -/

def F1apF1SetupRequest.Fits (req : F1apF1SetupRequest) : Prop :=
  req.gnbDuId.Fits ∧ req.servedCells.Fits 8 F1apServedCellInfo.Fits

def F1apF1SetupResponse.Fits (resp : F1apF1SetupResponse) : Prop :=
  resp.gnbCuId.Fits ∧ resp.cellsToActivate.Fits 8 F1apServedCellInfo.Fits

/-- Nothing but zeros can come out of the array of SRBs. -/
def F1apUeContextSetupRequest.Fits (req : F1apUeContextSetupRequest) : Prop :=
  req.ranUeId.toNat < 2 ^ 40 ∧ req.plmn.Fits ∧ req.drbsToSetup.Fits 4 F1apDrbInfo.Fits
    ∧ req.srbsToSetup.Fits 2 (· = ⟨0, 0⟩) ∧ req.nrCellId.toNat < 2 ^ 36
    ∧ req.servCellIdx.toNat < 2 ^ 8 ∧ req.sd.toNat < 2 ^ 24 ∧ req.rrcContainer.count.toNat < 2 ^ 16

def F1apUeContextSetupResponse.Fits (resp : F1apUeContextSetupResponse) : Prop :=
  resp.drbsSetup.Fits 4 F1apDrbInfo.Fits ∧ resp.drbsFailed.Fits 4 F1apFailedDrb.Fits
    ∧ resp.srbsSetup.Fits 2 (·.toNat < 2 ^ 2) ∧ resp.duToCuRrcContainer.count.toNat < 2 ^ 16

def F1apDlRrcMessageTransfer.Fits (transfer : F1apDlRrcMessageTransfer) : Prop :=
  transfer.srbId.toNat < 2 ^ 2 ∧ transfer.rrcContainer.count.toNat < 2 ^ 16
    ∧ transfer.oldGnbDuUeF1apId.count.toNat < 2 ^ 1

def F1apUlRrcMessageTransfer.Fits (transfer : F1apUlRrcMessageTransfer) : Prop :=
  transfer.srbId.toNat < 2 ^ 2 ∧ transfer.rrcContainer.count.toNat < 2 ^ 16

def F1apNotify.Fits (notify : F1apNotify) : Prop :=
  notify.notificationType.toNat < 2 ^ 4 ∧ notify.cause.Fits

def F1apErrorIndication.Fits (err : F1apErrorIndication) : Prop :=
  err.ueIds.count.toNat < 2 ^ 1 ∧ err.cause.Fits 1 F1apCause.Fits

def f1apHandledTypes : List Word := [0, 1, 2, 5, 14, 15, 17, 18, 22, 23, 24, 25]

def F1apPayload.Fits : F1apPayload → Prop
  | f1SetupRequest req => req.Fits
  | f1SetupResponse resp => resp.Fits
  | f1SetupFailure fail => fail.cause.Fits
  | errorIndication err => err.Fits
  | ueContextSetupRequest req => req.Fits
  | ueContextSetupResponse resp => resp.Fits
  | ueContextReleaseCommand cmd => cmd.cause.Fits ∧ cmd.rrcContainer.count.toNat < 2 ^ 16
  | ueContextReleaseComplete comp => comp.rrcContainer.count.toNat < 2 ^ 16
  | ueContextReleaseRequest req => req.cause.Fits
  | dlRrcMessageTransfer transfer => transfer.Fits
  | ulRrcMessageTransfer transfer => transfer.Fits
  | notify note => note.Fits
  | unhandled messageType => messageType ∉ f1apHandledTypes

def F1apMessage.Fits (msg : F1apMessage) : Prop :=
  InterfaceMessage.HeaderFits F1apPayload.messageType F1apPayload.Fits msg

def F1apF1SetupRequest.layout (req : F1apF1SetupRequest) : List (Slot 32) :=
  req.gnbDuId.layout ++ req.servedCells.layout 8 F1apServedCellInfo.layout
    ++ exactly ([(req.ranac.setWidth 32, 8)] ++ asn1EncodeOctets req.gnbDuRrcVersion)

def F1apF1SetupResponse.layout (resp : F1apF1SetupResponse) : List (Slot 32) :=
  resp.gnbCuId.layout ++ resp.cellsToActivate.layout 8 F1apServedCellInfo.layout
    ++ exactly ([(resp.transportLayerAddress, 32)] ++ asn1EncodeOctets resp.gnbCuRrcVersion)

/-- The entries of the SRBs are not among the fields. -/
def F1apUeContextSetupRequest.layout (req : F1apUeContextSetupRequest) : List (Slot 32) :=
  exactly (f1apEncodeUeIds req.ueIds ++ asn1EncodeWide 0xFF 8 req.ranUeId) ++ req.plmn.layout
    ++ exactly (req.drbsToSetup.fields 4 f1apEncodeDrbInfo ++ [(req.srbsToSetup.count.setWidth 32, 2)]
      ++ f1apEncodeAmbr req.ueAmbrDl ++ f1apEncodeAmbr req.ueAmbrUl ++ f1apEncodeNrCellId req.nrCellId
      ++ [(req.servCellIdx.setWidth 32, 8), (req.sst.setWidth 32, 8), (req.sd, 24)]
      ++ f1apEncodeRrcContainer req.rrcContainer)

def F1apDlRrcMessageTransfer.layout (transfer : F1apDlRrcMessageTransfer) : List (Slot 32) :=
  exactly (f1apEncodeUeIds transfer.ueIds ++ [(transfer.srbId.setWidth 32, 2)]
    ++ f1apEncodeRrcContainer transfer.rrcContainer
    ++ transfer.oldGnbDuUeF1apId.fields 1 fun id => [(id, 32)])

def F1apPayload.layout : F1apPayload → List (Slot 32)
  | f1SetupRequest req => req.layout
  | f1SetupResponse resp => resp.layout
  | ueContextSetupRequest req => req.layout
  | dlRrcMessageTransfer transfer => transfer.layout
  | payload => exactly (f1apEncodePayload payload)

def F1apMessage.layout (msg : F1apMessage) : List (Slot 32) :=
  msg.headerLayout F1apPayload.messageType F1apPayload.layout

theorem reads_f1apF1SetupRequest :
    Reads f1apDecodeF1SetupRequest F1apF1SetupRequest.Fits F1apF1SetupRequest.layout := by
  refine (Reads.part reads_f1apGnbDuId F1apF1SetupRequest.gnbDuId (by simp) fun _ =>
    Reads.part (reads_counted reads_f1apServedCellInfo (by decide))
      F1apF1SetupRequest.servedCells (by simp) fun _ =>
    Reads.part reads_byte F1apF1SetupRequest.ranac (by simp) fun _ =>
    Reads.part (reads_octets 4) F1apF1SetupRequest.gnbDuRrcVersion (by simp) fun _ =>
    reads_record _).congr ?_ ?_
  · intro req
    simp [F1apF1SetupRequest.Fits]
  · intro req _
    simp [F1apF1SetupRequest.layout, asn1EncodeByte]

theorem reads_f1apF1SetupResponse :
    Reads f1apDecodeF1SetupResponse F1apF1SetupResponse.Fits F1apF1SetupResponse.layout := by
  refine (Reads.part reads_f1apGnbCuId F1apF1SetupResponse.gnbCuId (by simp) fun _ =>
    Reads.part (reads_counted reads_f1apServedCellInfo (by decide))
      F1apF1SetupResponse.cellsToActivate (by simp) fun _ =>
    Reads.part reads_word F1apF1SetupResponse.transportLayerAddress (by simp) fun _ =>
    Reads.part (reads_octets 4) F1apF1SetupResponse.gnbCuRrcVersion (by simp) fun _ =>
    reads_record _).congr ?_ ?_
  · intro resp
    simp [F1apF1SetupResponse.Fits]
  · intro resp _
    simp [F1apF1SetupResponse.layout]

theorem reads_f1apF1SetupFailure :
    Reads f1apDecodeF1SetupFailure (·.cause.Fits) (fun fail => exactly (f1apEncodeF1SetupFailure fail)) := by
  refine (Reads.part reads_f1apCause F1apF1SetupFailure.cause (by simp) fun _ =>
    Reads.part reads_word F1apF1SetupFailure.timeToWait (by simp) fun _ => reads_record _).congr ?_ ?_
  · simp
  · intro fail _
    simp [f1apEncodeF1SetupFailure]

theorem reads_f1apSrbsToSetup :
    Reads f1apDecodeSrbsToSetup (Counted.Fits 2 (· = ⟨0, 0⟩))
      (fun srbs => exactly [(srbs.count.setWidth 32, 2)]) := by
  refine (Reads.part (reads_bits (by decide)) Counted.count (by simp) fun _ => reads_record _).congr ?_ ?_
  · intro srbs
    rw [and_true, Counted.Fits]
    apply and_congr_right
    intro _
    rw [Counted.ext_iff, and_iff_right rfl, eq_comm, List.eq_replicate_iff,
      and_iff_right srbs.length_items]
  · intro srbs _
    rfl

theorem reads_f1apUeContextSetupRequest :
    Reads f1apDecodeUeContextSetupRequest F1apUeContextSetupRequest.Fits
      F1apUeContextSetupRequest.layout := by
  refine (Reads.part reads_f1apUeIds F1apUeContextSetupRequest.ueIds (by simp) fun _ =>
    Reads.part reads_f1apRanUeId F1apUeContextSetupRequest.ranUeId (by simp) fun _ =>
    Reads.part reads_f1apPlmnId F1apUeContextSetupRequest.plmn (by simp) fun _ =>
    Reads.part (reads_counted reads_f1apDrbInfo (by decide))
      F1apUeContextSetupRequest.drbsToSetup (by simp) fun _ =>
    Reads.part reads_f1apSrbsToSetup F1apUeContextSetupRequest.srbsToSetup (by simp) fun _ =>
    Reads.part reads_f1apAmbr F1apUeContextSetupRequest.ueAmbrDl (by simp) fun _ =>
    Reads.part reads_f1apAmbr F1apUeContextSetupRequest.ueAmbrUl (by simp) fun _ =>
    Reads.part reads_f1apNrCellId F1apUeContextSetupRequest.nrCellId (by simp) fun _ =>
    Reads.part (reads_bits (by decide)) F1apUeContextSetupRequest.servCellIdx (by simp) fun _ =>
    Reads.part reads_byte F1apUeContextSetupRequest.sst (by simp) fun _ =>
    Reads.part (reads_bits (by decide)) F1apUeContextSetupRequest.sd (by simp) fun _ =>
    Reads.part reads_container F1apUeContextSetupRequest.rrcContainer (by simp) fun _ =>
    reads_record _).congr ?_ ?_
  · intro req
    simp [F1apUeContextSetupRequest.Fits]
  · intro req _
    simp [F1apUeContextSetupRequest.layout, Counted.exactly_fields, f1apEncodeRrcContainer, asn1EncodeByte]

theorem reads_f1apUeContextSetupResponse :
    Reads f1apDecodeUeContextSetupResponse F1apUeContextSetupResponse.Fits
      (fun resp => exactly (f1apEncodeUeContextSetupResponse resp)) := by
  refine (Reads.part reads_f1apUeIds F1apUeContextSetupResponse.ueIds (by simp) fun _ =>
    Reads.part (reads_counted reads_f1apDrbInfo (by decide))
      F1apUeContextSetupResponse.drbsSetup (by simp) fun _ =>
    Reads.part (reads_counted reads_f1apFailedDrb (by decide))
      F1apUeContextSetupResponse.drbsFailed (by simp) fun _ =>
    Reads.part (reads_counted (reads_bits (by decide)) (by decide))
      F1apUeContextSetupResponse.srbsSetup (by simp) fun _ =>
    Reads.part reads_container F1apUeContextSetupResponse.duToCuRrcContainer (by simp) fun _ =>
    reads_record _).congr ?_ ?_
  · intro resp
    simp [F1apUeContextSetupResponse.Fits]
  · intro resp _
    simp [f1apEncodeUeContextSetupResponse, Counted.exactly_fields, f1apEncodeRrcContainer]

theorem reads_f1apUeContextReleaseRequest :
    Reads f1apDecodeUeContextReleaseRequest (·.cause.Fits)
      (fun req => exactly (f1apEncodeUeIds req.ueIds ++ f1apEncodeCause req.cause)) := by
  refine (Reads.part reads_f1apUeIds F1apUeContextReleaseRequest.ueIds (by simp) fun _ =>
    Reads.part reads_f1apCause F1apUeContextReleaseRequest.cause (by simp) fun _ =>
    reads_record _).congr ?_ ?_
  · simp
  · simp

theorem reads_f1apUeContextReleaseCommand :
    Reads f1apDecodeUeContextReleaseCommand
      (fun cmd => cmd.cause.Fits ∧ cmd.rrcContainer.count.toNat < 2 ^ 16)
      (fun cmd => exactly (f1apEncodePayload (.ueContextReleaseCommand cmd))) := by
  refine (Reads.part reads_f1apUeIds F1apUeContextReleaseCommand.ueIds (by simp) fun _ =>
    Reads.part reads_f1apCause F1apUeContextReleaseCommand.cause (by simp) fun _ =>
    Reads.part reads_container F1apUeContextReleaseCommand.rrcContainer (by simp) fun _ =>
    reads_record _).congr ?_ ?_
  · simp
  · intro cmd _
    simp [f1apEncodePayload, f1apEncodeRrcContainer]

theorem reads_f1apUeContextReleaseComplete :
    Reads f1apDecodeUeContextReleaseComplete (·.rrcContainer.count.toNat < 2 ^ 16)
      (fun comp => exactly (f1apEncodePayload (.ueContextReleaseComplete comp))) := by
  refine (Reads.part reads_f1apUeIds F1apUeContextReleaseComplete.ueIds (by simp) fun _ =>
    Reads.part reads_container F1apUeContextReleaseComplete.rrcContainer (by simp) fun _ =>
    reads_record _).congr ?_ ?_
  · simp
  · intro comp _
    simp [f1apEncodePayload, f1apEncodeRrcContainer]

theorem reads_f1apDlRrcMessageTransfer :
    Reads f1apDecodeDlRrcMessageTransfer F1apDlRrcMessageTransfer.Fits F1apDlRrcMessageTransfer.layout := by
  refine (Reads.part reads_f1apUeIds F1apDlRrcMessageTransfer.ueIds (by simp) fun _ =>
    Reads.part (reads_bits (by decide)) F1apDlRrcMessageTransfer.srbId (by simp) fun _ =>
    Reads.part reads_container F1apDlRrcMessageTransfer.rrcContainer (by simp) fun _ =>
    Reads.part (reads_counted reads_word (by decide))
      F1apDlRrcMessageTransfer.oldGnbDuUeF1apId (by simp) fun _ => reads_record _).congr ?_ ?_
  · intro transfer
    simp [F1apDlRrcMessageTransfer.Fits, Counted.Fits]
  · intro transfer _
    simp [F1apDlRrcMessageTransfer.layout, Counted.exactly_fields, f1apEncodeRrcContainer]

theorem reads_f1apUlRrcMessageTransfer :
    Reads f1apDecodeUlRrcMessageTransfer F1apUlRrcMessageTransfer.Fits
      (fun transfer => exactly (f1apEncodePayload (.ulRrcMessageTransfer transfer))) := by
  refine (Reads.part reads_f1apUeIds F1apUlRrcMessageTransfer.ueIds (by simp) fun _ =>
    Reads.part (reads_bits (by decide)) F1apUlRrcMessageTransfer.srbId (by simp) fun _ =>
    Reads.part reads_container F1apUlRrcMessageTransfer.rrcContainer (by simp) fun _ =>
    reads_record _).congr ?_ ?_
  · intro transfer
    simp [F1apUlRrcMessageTransfer.Fits]
  · intro transfer _
    simp [f1apEncodePayload, f1apEncodeRrcContainer]

theorem reads_f1apNotify :
    Reads f1apDecodeNotify F1apNotify.Fits (fun note => exactly (f1apEncodePayload (.notify note))) := by
  refine (Reads.part reads_f1apUeIds F1apNotify.ueIds (by simp) fun _ =>
    Reads.part (reads_bits (by decide)) F1apNotify.notificationType (by simp) fun _ =>
    Reads.part reads_f1apCause F1apNotify.cause (by simp) fun _ => reads_record _).congr ?_ ?_
  · intro note
    simp [F1apNotify.Fits]
  · intro note _
    simp [f1apEncodePayload]

theorem reads_f1apErrorIndication :
    Reads f1apDecodeErrorIndication F1apErrorIndication.Fits
      (fun err => exactly (f1apEncodePayload (.errorIndication err))) := by
  refine (Reads.part (reads_counted reads_f1apUeIds (by decide))
      F1apErrorIndication.ueIds (by simp) fun _ =>
    Reads.part (reads_counted reads_f1apCause (by decide)) F1apErrorIndication.cause (by simp) fun _ =>
    reads_record _).congr ?_ ?_
  · intro err
    simp [F1apErrorIndication.Fits, Counted.Fits]
  · intro err _
    simp [f1apEncodePayload, Counted.exactly_fields]

/-! ### The message -/

theorem reads_f1apPayload (messageType : Word) :
    Reads (f1apDecodePayload messageType)
      (fun payload => payload.messageType = messageType ∧ payload.Fits) F1apPayload.layout := by
  rw [f1apDecodePayload]
  refine Reads.ite (fun h => ?_) fun h0 => Reads.ite (fun h => ?_) fun h1 => Reads.ite (fun h => ?_) fun h2 =>
    Reads.ite (fun h => ?_) fun h14 => Reads.ite (fun h => ?_) fun h15 => Reads.ite (fun h => ?_) fun h22 =>
    Reads.ite (fun h => ?_) fun h17 => Reads.ite (fun h => ?_) fun h18 => Reads.ite (fun h => ?_) fun h23 =>
    Reads.ite (fun h => ?_) fun h24 => Reads.ite (fun h => ?_) fun h25 => Reads.ite (fun h => ?_) fun h5 => ?_
  · exact reads_f1apF1SetupRequest.case (fun _ _ h => F1apPayload.f1SetupRequest.inj h)
      (fun payload => by cases payload <;> simp +contextual [h, F1apPayload.messageType, F1apPayload.Fits,
        f1apHandledTypes]) fun _ => rfl
  · exact reads_f1apF1SetupResponse.case (fun _ _ h => F1apPayload.f1SetupResponse.inj h)
      (fun payload => by cases payload <;> simp +contextual [h, F1apPayload.messageType, F1apPayload.Fits,
        f1apHandledTypes]) fun _ => rfl
  · exact reads_f1apF1SetupFailure.case (fun _ _ h => F1apPayload.f1SetupFailure.inj h)
      (fun payload => by cases payload <;> simp +contextual [h, F1apPayload.messageType, F1apPayload.Fits,
        f1apHandledTypes]) fun _ => rfl
  · exact reads_f1apUeContextSetupRequest.case (fun _ _ h => F1apPayload.ueContextSetupRequest.inj h)
      (fun payload => by cases payload <;> simp +contextual [h, F1apPayload.messageType, F1apPayload.Fits,
        f1apHandledTypes]) fun _ => rfl
  · exact reads_f1apUeContextSetupResponse.case (fun _ _ h => F1apPayload.ueContextSetupResponse.inj h)
      (fun payload => by cases payload <;> simp +contextual [h, F1apPayload.messageType, F1apPayload.Fits,
        f1apHandledTypes]) fun _ => rfl
  · exact reads_f1apUeContextReleaseRequest.case (fun _ _ h => F1apPayload.ueContextReleaseRequest.inj h)
      (fun payload => by cases payload <;> simp +contextual [h, F1apPayload.messageType, F1apPayload.Fits,
        f1apHandledTypes]) fun _ => rfl
  · exact reads_f1apUeContextReleaseCommand.case (fun _ _ h => F1apPayload.ueContextReleaseCommand.inj h)
      (fun payload => by cases payload <;> simp +contextual [h, F1apPayload.messageType, F1apPayload.Fits,
        f1apHandledTypes]) fun _ => rfl
  · exact reads_f1apUeContextReleaseComplete.case (fun _ _ h => F1apPayload.ueContextReleaseComplete.inj h)
      (fun payload => by cases payload <;> simp +contextual [h, F1apPayload.messageType, F1apPayload.Fits,
        f1apHandledTypes]) fun _ => rfl
  · exact reads_f1apDlRrcMessageTransfer.case (fun _ _ h => F1apPayload.dlRrcMessageTransfer.inj h)
      (fun payload => by cases payload <;> simp +contextual [h, F1apPayload.messageType, F1apPayload.Fits,
        f1apHandledTypes]) fun _ => rfl
  · exact reads_f1apUlRrcMessageTransfer.case (fun _ _ h => F1apPayload.ulRrcMessageTransfer.inj h)
      (fun payload => by cases payload <;> simp +contextual [h, F1apPayload.messageType, F1apPayload.Fits,
        f1apHandledTypes]) fun _ => rfl
  · exact reads_f1apNotify.case (fun _ _ h => F1apPayload.notify.inj h)
      (fun payload => by cases payload <;> simp +contextual [h, F1apPayload.messageType, F1apPayload.Fits,
        f1apHandledTypes]) fun _ => rfl
  · exact reads_f1apErrorIndication.case (fun _ _ h => F1apPayload.errorIndication.inj h)
      (fun payload => by cases payload <;> simp +contextual [h, F1apPayload.messageType, F1apPayload.Fits,
        f1apHandledTypes]) fun _ => rfl
  · apply (reads_pure (F1apPayload.unhandled messageType)).congr
    · intro payload
      constructor
      · rintro rfl
        refine ⟨rfl, ?_⟩
        simp only [F1apPayload.Fits, f1apHandledTypes, List.mem_cons, List.not_mem_nil, or_false, not_or]
        exact ⟨h0, h1, h2, h5, h14, h15, h17, h18, h22, h23, h24, h25⟩
      · rintro ⟨rfl, -⟩
        cases payload <;> simp_all [F1apPayload.messageType]
    · rintro _ rfl
      rfl

theorem reads_f1apMessage : Reads f1apReadMessage F1apMessage.Fits F1apMessage.layout :=
  reads_message reads_f1apPayload

end Uesim
