import Uesim.E1ap.RoundTrip
import Uesim.F1ap.RoundTrip
import Uesim.Xnap.RoundTrip

/-!
# Which input the decoders of the interfaces read safely

No decoder looks at the length of its input after it has found that it is not zero, and a count is stored as
it is read, whatever the loop behind it visits. A decoder stays inside its input and returns counts that its
arrays have room for, exactly if the input begins with a whole message of this kind.
-/

namespace Uesim

open Bytes BitMemory

/-! ### Counts within their arrays -/

def F1apServedCellInfo.InBounds (cell : F1apServedCellInfo) : Prop :=
  cell.plmns.InBounds ∧ cell.slices.InBounds

def F1apDrbInfo.InBounds (drb : F1apDrbInfo) : Prop :=
  drb.ulUpTnlInfo.InBounds ∧ drb.qosFlows.InBounds

def F1apPayload.InBounds : F1apPayload → Prop
  | f1SetupRequest req => req.servedCells.Bounded F1apServedCellInfo.InBounds
  | f1SetupResponse resp => resp.cellsToActivate.Bounded F1apServedCellInfo.InBounds
  | ueContextSetupRequest req =>
      req.drbsToSetup.Bounded F1apDrbInfo.InBounds ∧ req.srbsToSetup.InBounds ∧ req.rrcContainer.InBounds
  | ueContextSetupResponse resp =>
      resp.drbsSetup.Bounded F1apDrbInfo.InBounds ∧ resp.drbsFailed.InBounds ∧ resp.srbsSetup.InBounds
        ∧ resp.duToCuRrcContainer.InBounds
  | ueContextReleaseCommand cmd => cmd.rrcContainer.InBounds
  | ueContextReleaseComplete comp => comp.rrcContainer.InBounds
  | dlRrcMessageTransfer transfer => transfer.rrcContainer.InBounds
  | ulRrcMessageTransfer transfer => transfer.rrcContainer.InBounds
  | _ => True

def E1apDrbInfo.InBounds (drb : E1apDrbInfo) : Prop :=
  drb.qosFlows.InBounds ∧ drb.dlUpTnlInfo.InBounds

def E1apPduSessionInfo.InBounds (session : E1apPduSessionInfo) : Prop :=
  session.drbs.Bounded E1apDrbInfo.InBounds

def E1apPayload.InBounds : E1apPayload → Prop
  | e1SetupRequest req => req.supportedPlmns.InBounds ∧ req.tnla.InBounds
  | e1SetupResponse resp => resp.supportedPlmns.InBounds
  | bearerContextSetupRequest req => req.pduSessions.Bounded E1apPduSessionInfo.InBounds
  | bearerContextSetupResponse resp =>
      resp.pduSessionIds.InBounds ∧ resp.drbsSetup.Bounded E1apDrbInfo.InBounds
  | _ => True

def XnapServedCellInfo.InBounds (cell : XnapServedCellInfo) : Prop :=
  cell.plmns.InBounds ∧ cell.slices.InBounds

def XnapDrbInfo.InBounds (drb : XnapDrbInfo) : Prop :=
  drb.qosFlows.InBounds ∧ drb.dlUpTnlInfo.InBounds

def XnapPayload.InBounds : XnapPayload → Prop
  | xnSetupRequest req => req.servedCells.Bounded XnapServedCellInfo.InBounds
  | xnSetupResponse resp => resp.servedCells.Bounded XnapServedCellInfo.InBounds
  | .paging page => page.taiList.InBounds
  | handoverRequest req =>
      req.sourceToTargetContainer.InBounds ∧ req.drbsToSetup.Bounded XnapDrbInfo.InBounds
  | handoverRequestAck ack =>
      ack.targetToSourceContainer.InBounds ∧ ack.drbsSetup.Bounded XnapDrbInfo.InBounds
        ∧ ack.drbsFailed.InBounds
  | handoverCommand cmd => cmd.handoverCommand.InBounds
  | sgnbAdditionRequest req => req.drbsToSetup.Bounded XnapDrbInfo.InBounds
  | sgnbAdditionRequestAck ack => ack.drbsSetup.Bounded XnapDrbInfo.InBounds
  | _ => True

/-! ### Safe decoding -/

/-- The decoder returns -1, or it looks at bytes of its input only and returns a message with counts that its
arrays have room for. -/
def DecodesSafely {π : Type} (decode : Nat → Option (BitReader 32 (InterfaceMessage π)))
    (inBounds : π → Prop) (data : Memory) (length : Nat) : Prop :=
  ∀ reader, decode length = some reader →
    (reader.reading 0).Within data length ∧ inBounds (reader.value data 0).payload

theorem decodesSafely_iff {π : Type} {reader : BitReader 32 (InterfaceMessage π)}
    {fits : InterfaceMessage π → Prop} {layout : InterfaceMessage π → List (Slot 32)}
    (hreads : Reads reader fits layout) (inBounds : π → Prop) (data : Memory) {length : Nat}
    (hlength : 0 < length) :
    DecodesSafely (asn1DecodeMessage reader) inBounds data length
      ↔ BeginsWith (fun msg => fits msg ∧ inBounds msg.payload) layout data length := by
  rw [← hreads.within_and_iff (fun msg => inBounds msg.payload), DecodesSafely, asn1DecodeMessage,
    if_neg hlength.ne']
  constructor
  · intro h
    exact h reader rfl
  · rintro h _ ⟨⟩
    exact h

/-- **The three decoders read an input safely exactly if it begins with a whole message whose counts its
arrays have room for.** -/
theorem interface_decodesSafely_iff (data : Memory) {length : Nat} (hlength : 0 < length) :
    (DecodesSafely f1apDecodeMessage F1apPayload.InBounds data length
        ↔ BeginsWith (fun msg => F1apMessage.Fits msg ∧ msg.payload.InBounds) F1apMessage.layout data length)
      ∧ (DecodesSafely e1apDecodeMessage E1apPayload.InBounds data length
        ↔ BeginsWith (fun msg => E1apMessage.Fits msg ∧ msg.payload.InBounds) E1apMessage.layout data length)
      ∧ (DecodesSafely xnapDecodeMessage XnapPayload.InBounds data length
        ↔ BeginsWith (fun msg => XnapMessage.Fits msg ∧ msg.payload.InBounds) XnapMessage.layout data
          length) :=
  ⟨decodesSafely_iff reads_f1apMessage _ data hlength, decodesSafely_iff reads_e1apMessage _ data hlength,
    decodesSafely_iff reads_xnapMessage _ data hlength⟩

/-- A message of each interface, encoded whole, is read safely. -/
theorem interface_decodesSafely_encoded :
    (∃ data length, f1apEncodeMessage (some zeros) f1apDrbRequest = some (data, length)
        ∧ DecodesSafely f1apDecodeMessage F1apPayload.InBounds data length)
      ∧ (∃ data length, e1apEncodeMessage (some zeros) e1apShortSnResponse = some (data, length)
        ∧ DecodesSafely e1apDecodeMessage E1apPayload.InBounds data length)
      ∧ ∃ data length, xnapEncodeMessage (some zeros) xnapPairPaging = some (data, length)
        ∧ DecodesSafely xnapDecodeMessage XnapPayload.InBounds data length := by
  have hrequest : f1apDrbRequest.payload.InBounds := by
    simp [f1apDrbRequest, f1apRequest, F1apPayload.InBounds, Counted.Bounded, Counted.InBounds,
      F1apDrbInfo.InBounds]
  have hresponse : e1apShortSnResponse.payload.InBounds := by
    simp [e1apShortSnResponse, e1apResponse, E1apPayload.InBounds, Counted.Bounded, Counted.InBounds,
      E1apDrbInfo.InBounds]
  have hpaging : xnapPairPaging.payload.InBounds := by
    simp [xnapPairPaging, xnapPaging, XnapPayload.InBounds, Counted.InBounds]
  refine ⟨?_, ?_, ?_⟩
  · obtain ⟨data, length, hencoded, hlength, hbegins⟩ : ∃ data length,
        f1apEncodeMessage (some zeros) f1apDrbRequest = some (data, length) ∧ 0 < length
          ∧ BeginsWith (fun msg => F1apMessage.Fits msg ∧ msg.payload.InBounds) F1apMessage.layout data length :=
      exists_encoded_beginsWith reads_f1apMessage (by decide) (by decide) rfl
        f1apDrbRequest_fits (by decide) f1apDrbRequest_kept ⟨f1apDrbRequest_fits, hrequest⟩
    exact ⟨data, length, hencoded, (interface_decodesSafely_iff data hlength).1.mpr hbegins⟩
  · obtain ⟨data, length, hencoded, hlength, hbegins⟩ : ∃ data length,
        e1apEncodeMessage (some zeros) e1apShortSnResponse = some (data, length) ∧ 0 < length
          ∧ BeginsWith (fun msg => E1apMessage.Fits msg ∧ msg.payload.InBounds) E1apMessage.layout data length :=
      exists_encoded_beginsWith reads_e1apMessage (by decide) (by decide) rfl
        e1apShortSnResponse_fits (by decide) e1apShortSnResponse_kept ⟨e1apShortSnResponse_fits, hresponse⟩
    exact ⟨data, length, hencoded, (interface_decodesSafely_iff data hlength).2.1.mpr hbegins⟩
  · obtain ⟨data, length, hencoded, hlength, hbegins⟩ : ∃ data length,
        xnapEncodeMessage (some zeros) xnapPairPaging = some (data, length) ∧ 0 < length
          ∧ BeginsWith (fun msg => XnapMessage.Fits msg ∧ msg.payload.InBounds) XnapMessage.layout data length :=
      exists_encoded_beginsWith reads_xnapMessage (by decide) (by decide) rfl
        xnapPairPaging_fits (by decide) xnapPairPaging_kept ⟨xnapPairPaging_fits, hpaging⟩
    exact ⟨data, length, hencoded, (interface_decodesSafely_iff data hlength).2.2.mpr hbegins⟩

theorem not_beginsWith_one_byte {π : Type} {messages : InterfaceMessage π → Prop} {messageType : π → Word}
    {layout : π → List (Slot 32)} {data : Memory} :
    ¬BeginsWith messages (InterfaceMessage.headerLayout messageType layout) data 1 := by
  rintro ⟨msg, -, -, hroom⟩
  rw [InterfaceMessage.headerLayout, slotsWidth_append] at hroom
  have hheader : 18 ≤ 8 * 1 := (Nat.le_add_right 18 _).trans hroom
  exact absurd hheader (by decide)

theorem interface_not_decodesSafely_one_byte :
    ¬DecodesSafely f1apDecodeMessage F1apPayload.InBounds zeros 1
      ∧ ¬DecodesSafely e1apDecodeMessage E1apPayload.InBounds zeros 1
      ∧ ¬DecodesSafely xnapDecodeMessage XnapPayload.InBounds zeros 1 := by
  refine ⟨fun h => ?_, fun h => ?_, fun h => ?_⟩
  · exact not_beginsWith_one_byte ((decodesSafely_iff reads_f1apMessage _ zeros (by decide)).mp h)
  · exact not_beginsWith_one_byte ((decodesSafely_iff reads_e1apMessage _ zeros (by decide)).mp h)
  · exact not_beginsWith_one_byte ((decodesSafely_iff reads_xnapMessage _ zeros (by decide)).mp h)

end Uesim
