import Uesim.E1ap.Layouts

/-!
# When an E1AP message comes back

The encoder writes the layout that the decoder reads, but for the setup failure and the release request of a
bearer context, which the decoder has no case for. These come back only if there is nothing to bring back.
-/

namespace Uesim

open Bytes BitMemory

/-- The names are strings. -/
def E1apPayload.InRange : E1apPayload → Prop
  | e1SetupRequest req => IsName req.gnbCuUpId.gnbCuUpName
  | e1SetupResponse resp => IsName resp.gnbCuCpId.gnbCuCpName
  | _ => True

/-- What the encoder writes and the decoder does not read. -/
def E1apPayload.unread : E1apPayload → List (Word × Nat)
  | bearerContextSetupFailure fail => e1apEncodeUeCause fail
  | bearerContextReleaseRequest req => e1apEncodeUeCause req
  | _ => []

theorem E1apPayload.encode_eq {payload : E1apPayload} (hrange : payload.InRange) :
    e1apEncodePayload payload = payload.layout.map Slot.field ++ payload.unread := by
  cases payload with
  | e1SetupRequest req =>
      simp [layout, unread, E1apE1SetupRequest.layout, e1apEncodePayload, e1apEncodeE1SetupRequest,
        e1apEncodeCuUpId, map_field_exactly, asn1EncodeName_eq hrange]
  | e1SetupResponse resp =>
      rw [e1apEncodePayload, e1apEncodeE1SetupResponse, e1apEncodeCuCpId, setWidth_and_low]
      simp [layout, unread, E1apE1SetupResponse.layout, map_field_exactly, asn1EncodeName_eq hrange]
  | bearerContextSetupFailure fail => rfl
  | bearerContextReleaseRequest req => rfl
  | _ => exact (map_field_exactly _).symm.trans (List.append_nil _).symm

theorem E1apPayload.narrow_unread (payload : E1apPayload) : ∀ field ∈ payload.unread, field.2 ≤ 32 := by
  cases payload <;> simp [unread, e1apEncodeUeCause, e1apEncodeUeIds, e1apEncodeCause]

theorem E1apPayload.fieldsWidth_unread_le (payload : E1apPayload) :
    slotsWidth payload.layout + fieldsWidth payload.unread ≤ max (slotsWidth payload.layout) 75 := by
  cases payload with
  | bearerContextSetupFailure fail => exact Nat.le_max_right _ _
  | bearerContextReleaseRequest req => exact Nat.le_max_right _ _
  | _ => exact Nat.le_max_left _ _

/-- **A message comes back exactly if each value fits the field it is written to, a setup failure or a release
request has nothing but zeros, the whole message fits the buffer, and the memory of the buffer has no bit set
that a field needs clear.** -/
theorem e1apMessage_comesBack_iff (mem : Memory) {msg : E1apMessage} (hrange : msg.payload.InRange) :
    ComesBack (e1apEncodeMessage (some mem) msg) e1apDecodeMessage msg
      ↔ msg.Fits ∧ slotsWidth msg.layout ≤ 8 * e1apMaxMessageSize ∧ Kept mem 0 msg.layout := by
  have hpos := slotsWidth_headerLayout_pos E1apPayload.messageType E1apPayload.layout msg
  have hsize : 0 < e1apMaxMessageSize := by decide
  have hfields : e1apEncodeHeader msg ++ e1apEncodePayload msg.payload
      = msg.layout.map Slot.field ++ msg.payload.unread := by
    rw [E1apPayload.encode_eq hrange, E1apMessage.layout, InterfaceMessage.headerLayout, List.map_append,
      map_field_exactly, List.append_assoc]
    rfl
  apply comesBack_iff reads_e1apMessage hsize mem hpos (fun _ => hfields) msg.payload.narrow_unread
  intro _ hroom
  have hunread := msg.payload.fieldsWidth_unread_le
  rw [hfields, fieldsWidth_append, fieldsWidth_map_field]
  rw [E1apMessage.layout, InterfaceMessage.headerLayout, slotsWidth_append] at hroom ⊢
  change 18 + _ ≤ 8 * 65535 at hroom
  change 18 + _ + _ ≤ 8 * 65535
  omega

def e1apResponse (pdcpSnSize : Byte) : E1apMessage where
  procedureCode := 7
  criticality := 0
  payload := .bearerContextSetupResponse
    { ueIds := ⟨1, 1⟩
      pduSessionIds := .empty
      drbsSetup := ⟨1, [⟨1, pdcpSnSize, 1, .empty, .empty⟩], rfl⟩ }

def e1apShortSnResponse : E1apMessage := e1apResponse 12

theorem e1apShortSnResponse_fits : e1apShortSnResponse.Fits := by
  refine ⟨by decide, by decide, by decide, ?_⟩
  simp [e1apShortSnResponse, e1apResponse, E1apPayload.Fits, Counted.Fits, E1apDrbInfo.Fits]

theorem e1apShortSnResponse_kept : Kept zeros 0 e1apShortSnResponse.layout :=
  kept_zeros (List.forall_mem_append.mpr ⟨shows_exactly (by decide), shows_exactly (by decide)⟩)

theorem e1apShortSnResponse_comesBack :
    ComesBack (e1apEncodeMessage (some zeros) e1apShortSnResponse) e1apDecodeMessage
      e1apShortSnResponse := by
  have hrange : e1apShortSnResponse.payload.InRange := trivial
  exact (e1apMessage_comesBack_iff zeros hrange).mpr
    ⟨e1apShortSnResponse_fits, by decide, e1apShortSnResponse_kept⟩

/-- A bearer with an 18-bit sequence number, whose size is written in four bits. -/
def e1apLongSnResponse : E1apMessage := e1apResponse 18

theorem e1apLongSnResponse_not_comesBack :
    ¬ComesBack (e1apEncodeMessage (some zeros) e1apLongSnResponse) e1apDecodeMessage
      e1apLongSnResponse := by
  apply not_comesBack_of_not_good reads_e1apMessage (by decide)
  intro hfits
  have hdrb := (hfits.payload.2 _ List.mem_cons_self).2.1
  exact absurd hdrb (by decide)

end Uesim
