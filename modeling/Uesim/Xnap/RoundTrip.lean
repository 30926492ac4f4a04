import Uesim.Xnap.Layouts

/-!
# When an XnAP message comes back

The encoder writes the layout that the decoder reads, whatever the message. What is lost are the bits of a
value that its field has no room for, the end of a message that the buffer has no room for, and the fields
that the memory of the buffer had bits in.
-/

namespace Uesim

open Bytes BitMemory

/-- The names are strings. -/
def XnapPayload.InRange : XnapPayload → Prop
  | xnSetupRequest req => IsName req.gnbName
  | xnSetupResponse resp => IsName resp.gnbName
  | _ => True

theorem XnapPayload.map_field_layout {payload : XnapPayload} (hrange : payload.InRange) :
    payload.layout.map Slot.field = xnapEncodePayload payload := by
  cases payload with
  | xnSetupRequest req =>
      simp [layout, XnapXnSetupRequest.layout, xnapEncodePayload, xnapEncodeXnSetupRequest,
        xnapEncodeGnbName, map_field_exactly, asn1EncodeName_eq hrange]
  | xnSetupResponse resp =>
      simp [layout, XnapXnSetupResponse.layout, xnapEncodePayload, xnapEncodeXnSetupResponse,
        xnapEncodeGnbName, map_field_exactly, asn1EncodeName_eq hrange]
  | _ => exact map_field_exactly _

theorem XnapMessage.map_field_layout {msg : XnapMessage} (hrange : msg.payload.InRange) :
    msg.layout.map Slot.field = xnapEncodeHeader msg ++ xnapEncodePayload msg.payload := by
  rw [layout, InterfaceMessage.headerLayout, List.map_append, map_field_exactly,
    XnapPayload.map_field_layout hrange]
  rfl

/-- **A message comes back exactly if each value fits the field it is written to, the whole message fits the
buffer, and the memory of the buffer has no bit set that a field needs clear.** -/
theorem xnapMessage_comesBack_iff (mem : Memory) {msg : XnapMessage} (hrange : msg.payload.InRange) :
    ComesBack (xnapEncodeMessage (some mem) msg) xnapDecodeMessage msg
      ↔ msg.Fits ∧ slotsWidth msg.layout ≤ 8 * xnapMaxMessageSize ∧ Kept mem 0 msg.layout := by
  have hpos := slotsWidth_headerLayout_pos XnapPayload.messageType XnapPayload.layout msg
  have hsize : 0 < xnapMaxMessageSize := by decide
  exact comesBack_iff_of_map_field reads_xnapMessage hsize mem hpos fun _ =>
    XnapMessage.map_field_layout hrange

def xnapPaging (taiList : Counted 8 Word 16) : XnapMessage where
  procedureCode := 5
  criticality := 0
  payload := .paging
    { amfUeId := 1
      ueIdentityIndex := 1
      pagingIdentityType := 0
      pagingIdentity := 1
      taiList := taiList
      pagingCause := 0
      assistanceData := .empty }

def xnapPairPaging : XnapMessage := xnapPaging ⟨2, [1, 0x3a9f00], rfl⟩

theorem xnapPairPaging_fits : xnapPairPaging.Fits := by
  refine ⟨by decide, by decide, by decide, ?_⟩
  simp [xnapPairPaging, xnapPaging, XnapPayload.Fits, XnapPaging.Fits, Counted.Fits]

theorem xnapPairPaging_kept : Kept zeros 0 xnapPairPaging.layout :=
  kept_zeros (List.forall_mem_append.mpr ⟨shows_exactly (by decide), shows_exactly (by decide)⟩)

theorem xnapPairPaging_comesBack :
    ComesBack (xnapEncodeMessage (some zeros) xnapPairPaging) xnapDecodeMessage xnapPairPaging := by
  have hrange : xnapPairPaging.payload.InRange := trivial
  exact (xnapMessage_comesBack_iff zeros hrange).mpr
    ⟨xnapPairPaging_fits, by decide, xnapPairPaging_kept⟩

/-- Sixteen tracking areas, whose number is written in four bits. -/
def xnapWidePaging : XnapMessage := xnapPaging ⟨16, List.replicate 16 1, rfl⟩

theorem xnapWidePaging_not_comesBack :
    ¬ComesBack (xnapEncodeMessage (some zeros) xnapWidePaging) xnapDecodeMessage xnapWidePaging := by
  apply not_comesBack_of_not_good reads_xnapMessage (by decide)
  intro hfits
  have htais : (16 : Byte).toNat < 2 ^ 4 := hfits.payload.2.2.1.1
  exact absurd htais (by decide)

end Uesim
