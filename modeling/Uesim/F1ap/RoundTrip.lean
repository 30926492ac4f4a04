import Uesim.F1ap.Layouts

/-!
# When an F1AP message comes back

The encoder writes the layout that the decoder reads, but for the SRBs of a context setup request, which are
written and not read. What it writes is cut to the width of its field, stops at the end of the buffer, and is
put over what the memory of the buffer held before.
-/

namespace Uesim

open Bytes BitMemory

/-! ### What the messages are taken from -/

/-- The names are strings, and the identifiers of SRBs go from 1 to 3. -/
def F1apPayload.InRange : F1apPayload → Prop
  | f1SetupRequest req => IsName req.gnbDuId.gnbDuName
  | f1SetupResponse resp => IsName resp.gnbCuId.gnbCuName
  | ueContextSetupRequest req =>
      ∀ srb ∈ req.srbsToSetup.items, 1 ≤ srb.srbId.toNat ∧ srb.srbId.toNat ≤ 3
  | _ => True

def F1apMnc.length : F1apMnc → Nat
  | two _ _ => 2
  | three _ _ _ => 3

def F1apPayload.plmns : F1apPayload → List F1apPlmnId
  | f1SetupRequest req => req.servedCells.items.flatMap (·.plmns.items)
  | f1SetupResponse resp => resp.cellsToActivate.items.flatMap (·.plmns.items)
  | ueContextSetupRequest req => [req.plmn]
  | _ => []

/-! ### The encoder writes the layout -/

theorem F1apServedCellInfo.map_field_layout (cell : F1apServedCellInfo) :
    cell.layout.map Slot.field = f1apEncodeServedCellInfo cell := by
  simp [layout, f1apEncodeServedCellInfo, map_field_exactly,
    Counted.map_field_layout F1apPlmnId.map_field_layout]

theorem F1apGnbDuId.map_field_layout {id : F1apGnbDuId} (hname : IsName id.gnbDuName) :
    id.layout.map Slot.field = f1apEncodeGnbDuId id := by
  rw [layout, List.map_cons, asn1EncodeName_eq hname]
  rfl

theorem F1apGnbCuId.map_field_layout {id : F1apGnbCuId} (hname : IsName id.gnbCuName) :
    id.layout.map Slot.field = f1apEncodeGnbCuId id := by
  rw [layout, List.map_cons, asn1EncodeName_eq hname, f1apEncodeGnbCuId, setWidth_and_low]
  rfl

theorem f1apSrbsToSetup_eq_nil {srbs : Counted 8 F1apSrbInfo 3} (hfits : srbs.Fits 2 (· = ⟨0, 0⟩))
    (hrange : ∀ srb ∈ srbs.items, 1 ≤ srb.srbId.toNat ∧ srb.srbId.toNat ≤ 3) : srbs.items = [] := by
  rw [List.eq_nil_iff_forall_not_mem]
  intro srb hsrb
  have hzero : srb.srbId.toNat = 0 := by
    rw [hfits.2 srb hsrb]
    rfl
  have hpos := (hrange srb hsrb).1
  omega

theorem F1apUeContextSetupRequest.map_field_layout {req : F1apUeContextSetupRequest} (hfits : req.Fits)
    (hrange : ∀ srb ∈ req.srbsToSetup.items, 1 ≤ srb.srbId.toNat ∧ srb.srbId.toNat ≤ 3) :
    req.layout.map Slot.field = f1apEncodeUeContextSetupRequest req := by
  have hsrbs : req.srbsToSetup.fields 2 f1apEncodeSrbInfo = [(req.srbsToSetup.count.setWidth 32, 2)] := by
    rw [Counted.fields, f1apSrbsToSetup_eq_nil hfits.2.2.2.1 hrange, List.flatMap_nil]
  simp [layout, f1apEncodeUeContextSetupRequest, hsrbs, map_field_exactly, F1apPlmnId.map_field_layout]

theorem f1apOldGnbDuUeF1apId_fields {id : Counted 8 Word 1} (hcount : id.count.toNat < 2 ^ 1) :
    id.fields 1 (fun word => [(word, 32)]) = f1apEncodeOldGnbDuUeF1apId id := by
  have hitems : id.items.flatMap (fun word => [(word, 32)]) = id.items.map (·, 32) :=
    List.flatMap_pure_eq_map _ _
  rw [Counted.fields, hitems, f1apEncodeOldGnbDuUeF1apId]
  split
  · rename_i hpresent
    have hone : id.count = 1 := by
      apply BitVec.eq_of_toNat_eq
      have hne : id.count.toNat ≠ 0 := fun h => hpresent (BitVec.eq_of_toNat_eq h)
      change id.count.toNat = 1
      omega
    rw [hone]
    rfl
  · rename_i hpresent
    have hzero : id.count = 0 := not_ne_iff.mp hpresent
    have hnil : id.items = [] := by
      rw [← List.length_eq_zero_iff, id.length_items, hzero]
      rfl
    rw [hzero, hnil]
    rfl

theorem F1apPayload.map_field_layout {payload : F1apPayload} (hfits : payload.Fits)
    (hrange : payload.InRange) : payload.layout.map Slot.field = f1apEncodePayload payload := by
  cases payload with
  | f1SetupRequest req =>
      simp [layout, F1apF1SetupRequest.layout, f1apEncodePayload, f1apEncodeF1SetupRequest,
        map_field_exactly, F1apGnbDuId.map_field_layout hrange,
        Counted.map_field_layout F1apServedCellInfo.map_field_layout]
  | f1SetupResponse resp =>
      simp [layout, F1apF1SetupResponse.layout, f1apEncodePayload, f1apEncodeF1SetupResponse,
        map_field_exactly, F1apGnbCuId.map_field_layout hrange,
        Counted.map_field_layout F1apServedCellInfo.map_field_layout]
  | ueContextSetupRequest req => exact F1apUeContextSetupRequest.map_field_layout hfits hrange
  | dlRrcMessageTransfer transfer =>
      rw [layout, F1apDlRrcMessageTransfer.layout, map_field_exactly,
        f1apOldGnbDuUeF1apId_fields hfits.2.2]
      rfl
  | _ => exact map_field_exactly _

theorem F1apMessage.map_field_layout {msg : F1apMessage} (hfits : msg.Fits)
    (hrange : msg.payload.InRange) :
    msg.layout.map Slot.field = f1apEncodeHeader msg ++ f1apEncodePayload msg.payload := by
  rw [layout, InterfaceMessage.headerLayout, List.map_append, map_field_exactly,
    F1apPayload.map_field_layout hfits.payload hrange]
  rfl

/-! ### A MNC of three digits -/

theorem or_marker : ∀ x < 16, 15 ||| x = 15 := by decide

/-- The byte behind a MNC is written with 15 in its higher half, and bits are only ever set over that. -/
theorem F1apMnc.length_of_shows {mnc : F1apMnc} (hfits : mnc.Fits)
    (h : ∀ slot ∈ mnc.layout,
      ∃ beneath : Word, beneath.toNat < 2 ^ slot.width ∧ slot.shows (slot.merged beneath)) :
    mnc.length = 2 := by
  cases mnc with
  | two digit0 digit1 => rfl
  | three digit0 digit1 digit2 =>
      obtain ⟨beneath, hbeneath, hmarker, -⟩ := h _ (List.mem_cons_of_mem _ List.mem_cons_self)
      have hdigit : digit2.toNat < 16 := hfits.2.2
      have hwritten : (((f1apDigits digit2 0xF).setWidth 8).setWidth 32 : Word).toNat
          = digit2.toNat + 240 := by
        rw [BitVec.toNat_setWidth_of_le (by decide), BitVec.toNat_setWidth,
          toNat_f1apDigits hdigit (by decide)]
        exact Nat.mod_eq_of_lt (by change digit2.toNat + 16 * 15 < 256; omega)
      have hhigh : (digit2.toNat + 240) >>> 4 = 15 := by
        rw [Nat.shiftRight_eq_div_pow]
        omega
      have hlow : beneath.toNat >>> 4 < 16 := by
        change beneath.toNat < 256 at hbeneath
        rw [Nat.shiftRight_eq_div_pow]
        omega
      apply absurd _ hmarker
      calc ((((f1apDigits digit2 0xF).setWidth 8).setWidth 32 : Word) ||| beneath).toNat / 16
          = ((digit2.toNat + 240) ||| beneath.toNat) >>> 4 := by
            rw [BitVec.toNat_or, hwritten, Nat.shiftRight_eq_div_pow]
        _ = (digit2.toNat + 240) >>> 4 ||| beneath.toNat >>> 4 := Nat.shiftRight_or_distrib
        _ = 15 := by rw [hhigh, or_marker _ hlow]

theorem F1apPayload.mem_layout_of_mem_plmns {payload : F1apPayload} {plmn : F1apPlmnId}
    (hplmn : plmn ∈ payload.plmns) {slot : Slot 32} (hslot : slot ∈ plmn.layout) :
    slot ∈ payload.layout := by
  have hcell : ∀ {cell : F1apServedCellInfo}, plmn ∈ cell.plmns.items → slot ∈ cell.layout := by
    intro cell hcell
    apply List.mem_append_left
    exact List.mem_append_right _ (Counted.mem_layout hcell hslot)
  cases payload with
  | f1SetupRequest req =>
      obtain ⟨cell, hmem, hplmn⟩ := List.mem_flatMap.mp hplmn
      apply List.mem_append_left
      exact List.mem_append_right _ (Counted.mem_layout hmem (hcell hplmn))
  | f1SetupResponse resp =>
      obtain ⟨cell, hmem, hplmn⟩ := List.mem_flatMap.mp hplmn
      apply List.mem_append_left
      exact List.mem_append_right _ (Counted.mem_layout hmem (hcell hplmn))
  | ueContextSetupRequest req =>
      obtain rfl := List.mem_singleton.mp hplmn
      apply List.mem_append_left
      exact List.mem_append_right _ hslot
  | _ => cases hplmn

theorem F1apPayload.plmn_fits {payload : F1apPayload} (hfits : payload.Fits) {plmn : F1apPlmnId}
    (hplmn : plmn ∈ payload.plmns) : plmn.Fits := by
  cases payload with
  | f1SetupRequest req =>
      obtain ⟨cell, hmem, hplmn⟩ := List.mem_flatMap.mp hplmn
      exact (hfits.2.2 cell hmem).2.2.2.1.2 plmn hplmn
  | f1SetupResponse resp =>
      obtain ⟨cell, hmem, hplmn⟩ := List.mem_flatMap.mp hplmn
      exact (hfits.2.2 cell hmem).2.2.2.1.2 plmn hplmn
  | ueContextSetupRequest req =>
      obtain rfl := List.mem_singleton.mp hplmn
      exact hfits.2.1
  | _ => cases hplmn

theorem F1apMessage.length_of_kept {msg : F1apMessage} (hfits : msg.Fits) {mem : Memory}
    (hkept : Kept mem 0 msg.layout) {plmn : F1apPlmnId} (hplmn : plmn ∈ msg.payload.plmns) :
    plmn.mnc.length = 2 := by
  apply F1apMnc.length_of_shows (F1apPayload.plmn_fits hfits.payload hplmn).mnc
  intro slot hslot
  apply kept_of_mem hkept
  apply List.mem_append_right
  exact F1apPayload.mem_layout_of_mem_plmns hplmn (List.mem_append_right _ hslot)

/-! ### The round trip -/

/-- **A message comes back exactly if each value fits the field it is written to, no MNC has three digits, no
SRB is to be set up, the whole message fits the buffer, and the memory of the buffer has no bit set that a
field needs clear.** -/
theorem f1apMessage_comesBack_iff (mem : Memory) {msg : F1apMessage} (hrange : msg.payload.InRange) :
    ComesBack (f1apEncodeMessage (some mem) msg) f1apDecodeMessage msg
      ↔ msg.Fits ∧ (∀ plmn ∈ msg.payload.plmns, plmn.mnc.length = 2)
        ∧ slotsWidth msg.layout ≤ 8 * f1apMaxMessageSize ∧ Kept mem 0 msg.layout := by
  have hpos := slotsWidth_headerLayout_pos F1apPayload.messageType F1apPayload.layout msg
  have hsize : 0 < f1apMaxMessageSize := by decide
  have hiff := comesBack_iff_of_map_field reads_f1apMessage hsize mem hpos fun hfits =>
    F1apMessage.map_field_layout hfits hrange
  refine hiff.trans (and_congr_right fun hfits => ?_)
  exact (and_iff_right_of_imp fun h _ hplmn => F1apMessage.length_of_kept hfits h.2 hplmn).symm

def f1apRequest (drbsToSetup : Counted 8 F1apDrbInfo 8) (srbsToSetup : Counted 8 F1apSrbInfo 3) :
    F1apMessage where
  procedureCode := 7
  criticality := 0
  payload := .ueContextSetupRequest
    { ueIds := ⟨1, 1⟩
      ranUeId := 1
      plmn := ⟨0, 0, 1, .two 0 1⟩
      drbsToSetup := drbsToSetup
      srbsToSetup := srbsToSetup
      ueAmbrDl := 0
      ueAmbrUl := 0
      nrCellId := 1
      servCellIdx := 0
      sst := 1
      sd := 0
      rrcContainer := .empty }

def f1apDrbRequest : F1apMessage := f1apRequest ⟨1, [⟨4, 0, 1, .empty, .empty⟩], rfl⟩ .empty

theorem f1apDrbRequest_inRange : f1apDrbRequest.payload.InRange := by
  simp [f1apDrbRequest, f1apRequest, F1apPayload.InRange, Counted.empty]

theorem f1apDrbRequest_fits : f1apDrbRequest.Fits := by
  refine ⟨by decide, by decide, by decide, ?_⟩
  simp [f1apDrbRequest, f1apRequest, F1apPayload.Fits, F1apUeContextSetupRequest.Fits, Counted.Fits,
    F1apDrbInfo.Fits]
  exact ⟨by decide, by decide, by decide, by decide, by decide⟩

theorem f1apDrbRequest_kept : Kept zeros 0 f1apDrbRequest.layout := by
  have hplmn : ∀ slot ∈ (F1apPlmnId.mk 0 0 1 (.two 0 1)).layout, slot.shows (slot.merged 0) := by
    simp [F1apPlmnId.layout, F1apMnc.layout, Slot.exact, Slot.merged, f1apDigits]
  refine kept_zeros (List.forall_mem_append.mpr ⟨shows_exactly (by decide), ?_⟩)
  exact List.forall_mem_append.mpr ⟨List.forall_mem_append.mpr ⟨shows_exactly (by decide), hplmn⟩,
    shows_exactly (by decide)⟩

theorem f1apDrbRequest_comesBack :
    ComesBack (f1apEncodeMessage (some zeros) f1apDrbRequest) f1apDecodeMessage f1apDrbRequest := by
  have hmnc : ∀ plmn ∈ f1apDrbRequest.payload.plmns, plmn.mnc.length = 2 := by
    simp [f1apDrbRequest, f1apRequest, F1apPayload.plmns, F1apMnc.length]
  exact (f1apMessage_comesBack_iff zeros f1apDrbRequest_inRange).mpr
    ⟨f1apDrbRequest_fits, hmnc, by decide, f1apDrbRequest_kept⟩

def f1apSrbRequest : F1apMessage := f1apRequest .empty ⟨1, [⟨1, 1⟩], rfl⟩

theorem f1apSrbRequest_not_comesBack :
    ¬ComesBack (f1apEncodeMessage (some zeros) f1apSrbRequest) f1apDecodeMessage f1apSrbRequest := by
  apply not_comesBack_of_not_good reads_f1apMessage (by decide)
  intro hfits
  have hsrb := hfits.payload.2.2.2.1.2 ⟨1, 1⟩ List.mem_cons_self
  exact absurd hsrb (by simp)

end Uesim
