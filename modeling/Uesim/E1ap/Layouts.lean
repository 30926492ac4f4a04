import Uesim.E1ap.Messages

/-!
# What the E1AP decoder reads

For each structure the values that fit its fields, and its layout. The setup failure and the release request
of a bearer context have the empty layout, because the decoder reads nothing of them.
-/

namespace Uesim

open Bytes BitMemory

/-! ### Parts of messages -/

def E1apCause.Fits (cause : E1apCause) : Prop := cause.causeType.toNat < 2 ^ 3

def E1apTnlInfo.Fits (tnl : E1apTnlInfo) : Prop := tnl.transportType.toNat < 2 ^ 4

def E1apQosFlow.Fits (flow : E1apQosFlow) : Prop := flow.qfi.toNat < 2 ^ 6

def E1apDrbInfo.Fits (drb : E1apDrbInfo) : Prop :=
  drb.drbId.toNat < 2 ^ 5 ∧ drb.pdcpSnSize.toNat < 2 ^ 4 ∧ drb.rlcMode.toNat < 2 ^ 2
    ∧ drb.qosFlows.Fits 6 E1apQosFlow.Fits ∧ drb.dlUpTnlInfo.Fits 4 E1apTnlInfo.Fits

def E1apSNssai.Fits (sNssai : E1apSNssai) : Prop := sNssai.sd.toNat < 2 ^ 24

def E1apPduSessionInfo.Fits (session : E1apPduSessionInfo) : Prop :=
  session.pduSessionType.toNat < 2 ^ 4 ∧ session.sNssai.Fits ∧ session.drbs.Fits 4 E1apDrbInfo.Fits
    ∧ session.upfUlTnlInfo.Fits

theorem reads_e1apRate :
    Reads (asn1ReadWide 32) (fun _ => True) (fun value => exactly (e1apEncodeRate value)) :=
  (reads_wide (by decide) (by decide)).congr (fun value => iff_of_true value.isLt trivial) fun _ _ => rfl

theorem reads_e1apRanUeId :
    Reads (asn1ReadWide 8) (fun id => id.toNat < 2 ^ 40) (fun id => exactly (asn1EncodeWide 0xFF 8 id)) :=
  reads_wide (by decide) (by decide)

theorem reads_e1apCause :
    Reads e1apDecodeCause E1apCause.Fits (fun cause => exactly (e1apEncodeCause cause)) := by
  refine (Reads.part (reads_bits (by decide)) E1apCause.causeType (by simp) fun _ =>
    Reads.part reads_byte E1apCause.causeValue (by simp) fun _ => reads_record _).congr ?_ ?_
  · intro cause
    simp [E1apCause.Fits]
  · intro cause _
    simp [e1apEncodeCause, asn1EncodeByte]

theorem reads_e1apUeIds :
    Reads e1apDecodeUeIds (fun _ => True) (fun ids => exactly (e1apEncodeUeIds ids)) := by
  refine (Reads.part reads_word E1apUeIds.gnbCuCpUeE1apId (by simp) fun _ =>
    Reads.part reads_word E1apUeIds.gnbCuUpUeE1apId (by simp) fun _ => reads_record _).congr ?_ ?_
  · simp
  · intro ids _
    simp [e1apEncodeUeIds]

theorem reads_e1apTnlInfo :
    Reads e1apDecodeTnlInfo E1apTnlInfo.Fits (fun tnl => exactly (e1apEncodeTnlInfo tnl)) := by
  refine (Reads.part (reads_bits (by decide)) E1apTnlInfo.transportType (by simp) fun _ =>
    Reads.part reads_word E1apTnlInfo.ipAddress (by simp) fun _ =>
    Reads.part (reads_whole (by decide)) E1apTnlInfo.port (by simp) fun _ =>
    Reads.part reads_word E1apTnlInfo.teid (by simp) fun _ => reads_record _).congr ?_ ?_
  · intro tnl
    simp [E1apTnlInfo.Fits]
  · intro tnl _
    simp [e1apEncodeTnlInfo]

theorem reads_e1apQosFlow :
    Reads e1apDecodeQosFlow E1apQosFlow.Fits (fun flow => exactly (e1apEncodeQosFlow flow)) := by
  refine (Reads.part (reads_bits (by decide)) E1apQosFlow.qfi (by simp) fun _ =>
    Reads.part reads_byte E1apQosFlow.fiveQi (by simp) fun _ =>
    Reads.part reads_e1apRate E1apQosFlow.gfbrUl (by simp) fun _ =>
    Reads.part reads_e1apRate E1apQosFlow.gfbrDl (by simp) fun _ =>
    Reads.part reads_byte E1apQosFlow.priorityLevel (by simp) fun _ => reads_record _).congr ?_ ?_
  · intro flow
    simp [E1apQosFlow.Fits]
  · intro flow _
    simp [e1apEncodeQosFlow, asn1EncodeByte]

theorem reads_e1apDrbInfo :
    Reads e1apDecodeDrbInfo E1apDrbInfo.Fits (fun drb => exactly (e1apEncodeDrbInfo drb)) := by
  refine (Reads.part (reads_bits (by decide)) E1apDrbInfo.drbId (by simp) fun _ =>
    Reads.part (reads_bits (by decide)) E1apDrbInfo.pdcpSnSize (by simp) fun _ =>
    Reads.part (reads_bits (by decide)) E1apDrbInfo.rlcMode (by simp) fun _ =>
    Reads.part (reads_counted reads_e1apQosFlow (by decide)) E1apDrbInfo.qosFlows (by simp) fun _ =>
    Reads.part (reads_counted reads_e1apTnlInfo (by decide)) E1apDrbInfo.dlUpTnlInfo (by simp) fun _ =>
    reads_record _).congr ?_ ?_
  · intro drb
    simp [E1apDrbInfo.Fits]
  · intro drb _
    simp [e1apEncodeDrbInfo, Counted.exactly_fields]

theorem reads_e1apSNssai :
    Reads e1apDecodeSNssai E1apSNssai.Fits (fun sNssai => exactly (e1apEncodeSNssai sNssai)) := by
  refine (Reads.part reads_byte E1apSNssai.sst (by simp) fun _ =>
    Reads.part (reads_bits (by decide)) E1apSNssai.sd (by simp) fun _ => reads_record _).congr ?_ ?_
  · intro sNssai
    simp [E1apSNssai.Fits]
  · intro sNssai _
    simp [e1apEncodeSNssai, asn1EncodeByte]

theorem reads_e1apPduSessionInfo :
    Reads e1apDecodePduSessionInfo E1apPduSessionInfo.Fits
      (fun session => exactly (e1apEncodePduSessionInfo session)) := by
  refine (Reads.part reads_byte E1apPduSessionInfo.pduSessionId (by simp) fun _ =>
    Reads.part (reads_bits (by decide)) E1apPduSessionInfo.pduSessionType (by simp) fun _ =>
    Reads.part reads_word E1apPduSessionInfo.ueIpAddress (by simp) fun _ =>
    Reads.part reads_e1apSNssai E1apPduSessionInfo.sNssai (by simp) fun _ =>
    Reads.part (reads_counted reads_e1apDrbInfo (by decide)) E1apPduSessionInfo.drbs (by simp) fun _ =>
    Reads.part reads_e1apTnlInfo E1apPduSessionInfo.upfUlTnlInfo (by simp) fun _ =>
    reads_record _).congr ?_ ?_
  · intro session
    simp [E1apPduSessionInfo.Fits]
  · intro session _
    simp [e1apEncodePduSessionInfo, Counted.exactly_fields, asn1EncodeByte]

/-! ### Messages -/

def E1apE1SetupRequest.Fits (req : E1apE1SetupRequest) : Prop :=
  req.gnbCuUpId.gnbCuUpName.length ≤ 63 ∧ req.tnla.Fits 4 E1apTnlInfo.Fits

def E1apE1SetupResponse.Fits (resp : E1apE1SetupResponse) : Prop :=
  resp.gnbCuCpId.gnbCuCpId.toNat < 2 ^ 32 ∧ resp.gnbCuCpId.gnbCuCpName.length ≤ 63

def E1apBearerContextSetupRequest.Fits (req : E1apBearerContextSetupRequest) : Prop :=
  req.ranUeId.toNat < 2 ^ 40 ∧ req.pduSessions.Fits 8 E1apPduSessionInfo.Fits
    ∧ req.securityKey.count.toNat < 2 ^ 1

def E1apErrorIndication.Fits (err : E1apErrorIndication) : Prop :=
  err.ueIds.count.toNat < 2 ^ 1 ∧ err.cause.Fits 1 E1apCause.Fits

def e1apHandledTypes : List Word := [0, 1, 2, 5, 14, 15, 16, 17, 18, 22]

/-- Of a setup failure and a release request only zeros can come out of the decoder. -/
def E1apPayload.Fits : E1apPayload → Prop
  | e1SetupRequest req => req.Fits
  | e1SetupResponse resp => resp.Fits
  | e1SetupFailure fail => fail.cause.Fits
  | errorIndication err => err.Fits
  | bearerContextSetupRequest req => req.Fits
  | bearerContextSetupResponse resp => resp.drbsSetup.Fits 4 E1apDrbInfo.Fits
  | bearerContextSetupFailure fail => fail = e1apUeCauseZero
  | bearerContextReleaseCommand cmd => cmd.cause.Fits
  | bearerContextReleaseComplete _ => True
  | bearerContextReleaseRequest req => req = e1apUeCauseZero
  | unhandled messageType => messageType ∉ e1apHandledTypes

def E1apMessage.Fits (msg : E1apMessage) : Prop :=
  InterfaceMessage.HeaderFits E1apPayload.messageType E1apPayload.Fits msg

def E1apE1SetupRequest.layout (req : E1apE1SetupRequest) : List (Slot 32) :=
  .exact (req.gnbCuUpId.gnbCuUpId, 32) :: asn1NameLayout req.gnbCuUpId.gnbCuUpName
    ++ exactly (req.supportedPlmns.fields 8 asn1EncodeOctets ++ [(req.capacity, 32)]
      ++ req.tnla.fields 4 e1apEncodeTnlInfo)

def E1apE1SetupResponse.layout (resp : E1apE1SetupResponse) : List (Slot 32) :=
  .exact (resp.gnbCuCpId.gnbCuCpId.setWidth 32, 32) :: asn1NameLayout resp.gnbCuCpId.gnbCuCpName
    ++ exactly (resp.supportedPlmns.fields 8 asn1EncodeOctets)

def E1apPayload.layout : E1apPayload → List (Slot 32)
  | e1SetupRequest req => req.layout
  | e1SetupResponse resp => resp.layout
  | bearerContextSetupFailure _ => []
  | bearerContextReleaseRequest _ => []
  | payload => exactly (e1apEncodePayload payload)

def E1apMessage.layout (msg : E1apMessage) : List (Slot 32) :=
  msg.headerLayout E1apPayload.messageType E1apPayload.layout

theorem reads_e1apCuUpId :
    Reads e1apDecodeCuUpId (fun id => id.gnbCuUpName.length ≤ 63)
      (fun id => .exact (id.gnbCuUpId, 32) :: asn1NameLayout id.gnbCuUpName) := by
  refine (Reads.part reads_word E1apGnbCuUpId.gnbCuUpId (by simp) fun _ =>
    Reads.part reads_name E1apGnbCuUpId.gnbCuUpName (by simp) fun _ => reads_record _).congr ?_ ?_
  · simp
  · simp

theorem reads_e1apCuCpId :
    Reads e1apDecodeCuCpId (fun id => id.gnbCuCpId.toNat < 2 ^ 32 ∧ id.gnbCuCpName.length ≤ 63)
      (fun id => .exact (id.gnbCuCpId.setWidth 32, 32) :: asn1NameLayout id.gnbCuCpName) := by
  refine (Reads.part (reads_bits (by decide)) E1apGnbCuCpId.gnbCuCpId (by simp) fun _ =>
    Reads.part reads_name E1apGnbCuCpId.gnbCuCpName (by simp) fun _ => reads_record _).congr ?_ ?_
  · simp
  · simp

theorem reads_e1apE1SetupRequest :
    Reads e1apDecodeE1SetupRequest E1apE1SetupRequest.Fits E1apE1SetupRequest.layout := by
  refine (Reads.part reads_e1apCuUpId E1apE1SetupRequest.gnbCuUpId (by simp) fun _ =>
    Reads.part (reads_counted (reads_octets 3) (by decide))
      E1apE1SetupRequest.supportedPlmns (by simp) fun _ =>
    Reads.part reads_word E1apE1SetupRequest.capacity (by simp) fun _ =>
    Reads.part (reads_counted reads_e1apTnlInfo (by decide)) E1apE1SetupRequest.tnla (by simp) fun _ =>
    reads_record _).congr ?_ ?_
  · intro req
    have hcount := req.supportedPlmns.count.isLt
    simp [E1apE1SetupRequest.Fits, Counted.Fits, hcount]
  · intro req _
    simp [E1apE1SetupRequest.layout, Counted.exactly_fields]

theorem reads_e1apE1SetupResponse :
    Reads e1apDecodeE1SetupResponse E1apE1SetupResponse.Fits E1apE1SetupResponse.layout := by
  refine (Reads.part reads_e1apCuCpId E1apE1SetupResponse.gnbCuCpId (by simp) fun _ =>
    Reads.part (reads_counted (reads_octets 3) (by decide))
      E1apE1SetupResponse.supportedPlmns (by simp) fun _ => reads_record _).congr ?_ ?_
  · intro resp
    have hcount := resp.supportedPlmns.count.isLt
    simp [E1apE1SetupResponse.Fits, Counted.Fits, hcount]
  · intro resp _
    simp [E1apE1SetupResponse.layout, Counted.exactly_fields]

theorem reads_e1apE1SetupFailure :
    Reads e1apDecodeE1SetupFailure (·.cause.Fits)
      (fun fail => exactly (e1apEncodePayload (.e1SetupFailure fail))) := by
  refine (Reads.part reads_e1apCause E1apE1SetupFailure.cause (by simp) fun _ =>
    Reads.part reads_word E1apE1SetupFailure.timeToWait (by simp) fun _ => reads_record _).congr ?_ ?_
  · simp
  · intro fail _
    simp [e1apEncodePayload]

theorem reads_e1apBearerContextSetupRequest :
    Reads e1apDecodeBearerContextSetupRequest E1apBearerContextSetupRequest.Fits
      (fun req => exactly (e1apEncodeBearerContextSetupRequest req)) := by
  refine (Reads.part reads_e1apUeIds E1apBearerContextSetupRequest.ueIds (by simp) fun _ =>
    Reads.part reads_e1apRanUeId E1apBearerContextSetupRequest.ranUeId (by simp) fun _ =>
    Reads.part (reads_counted reads_e1apPduSessionInfo (by decide))
      E1apBearerContextSetupRequest.pduSessions (by simp) fun _ =>
    Reads.part reads_e1apRate E1apBearerContextSetupRequest.ueAmbrDl (by simp) fun _ =>
    Reads.part reads_e1apRate E1apBearerContextSetupRequest.ueAmbrUl (by simp) fun _ =>
    Reads.part (reads_counted (reads_octets 32) (by decide))
      E1apBearerContextSetupRequest.securityKey (by simp) fun _ => reads_record _).congr ?_ ?_
  · intro req
    have hkey : req.securityKey.Fits 1 (fun _ => True) ↔ req.securityKey.count.toNat < 2 ^ 1 :=
      and_iff_left fun _ _ => trivial
    simp [E1apBearerContextSetupRequest.Fits, hkey]
  · intro req _
    simp [e1apEncodeBearerContextSetupRequest, Counted.exactly_fields]

theorem reads_e1apBearerContextSetupResponse :
    Reads e1apDecodeBearerContextSetupResponse (fun resp => resp.drbsSetup.Fits 4 E1apDrbInfo.Fits)
      (fun resp => exactly (e1apEncodeBearerContextSetupResponse resp)) := by
  refine (Reads.part reads_e1apUeIds E1apBearerContextSetupResponse.ueIds (by simp) fun _ =>
    Reads.part (reads_counted reads_byte (by decide))
      E1apBearerContextSetupResponse.pduSessionIds (by simp) fun _ =>
    Reads.part (reads_counted reads_e1apDrbInfo (by decide))
      E1apBearerContextSetupResponse.drbsSetup (by simp) fun _ => reads_record _).congr ?_ ?_
  · intro resp
    have hcount := resp.pduSessionIds.count.isLt
    simp [Counted.Fits, hcount]
  · intro resp _
    simp [e1apEncodeBearerContextSetupResponse, Counted.exactly_fields]

theorem reads_e1apUeCause :
    Reads e1apDecodeUeCause (·.cause.Fits) (fun msg => exactly (e1apEncodeUeCause msg)) := by
  refine (Reads.part reads_e1apUeIds E1apUeCause.ueIds (by simp) fun _ =>
    Reads.part reads_e1apCause E1apUeCause.cause (by simp) fun _ => reads_record _).congr ?_ ?_
  · simp
  · intro msg _
    simp [e1apEncodeUeCause]

theorem reads_e1apErrorIndication :
    Reads e1apDecodeErrorIndication E1apErrorIndication.Fits
      (fun err => exactly (e1apEncodePayload (.errorIndication err))) := by
  refine (Reads.part (reads_counted reads_e1apUeIds (by decide))
      E1apErrorIndication.ueIds (by simp) fun _ =>
    Reads.part (reads_counted reads_e1apCause (by decide)) E1apErrorIndication.cause (by simp) fun _ =>
    reads_record _).congr ?_ ?_
  · intro err
    simp [E1apErrorIndication.Fits, Counted.Fits]
  · intro err _
    simp [e1apEncodePayload, Counted.exactly_fields]

theorem reads_e1apPayload (messageType : Word) :
    Reads (e1apDecodePayload messageType)
      (fun payload => payload.messageType = messageType ∧ payload.Fits) E1apPayload.layout := by
  rw [e1apDecodePayload]
  refine Reads.ite (fun h => ?_) fun h0 => Reads.ite (fun h => ?_) fun h1 => Reads.ite (fun h => ?_) fun h2 =>
    Reads.ite (fun h => ?_) fun h14 => Reads.ite (fun h => ?_) fun h15 => Reads.ite (fun h => ?_) fun h17 =>
    Reads.ite (fun h => ?_) fun h18 => Reads.ite (fun h => ?_) fun h5 => Reads.ite (fun h => ?_) fun h16 =>
    Reads.ite (fun h => ?_) fun h22 => ?_
  · exact reads_e1apE1SetupRequest.case (fun _ _ h => E1apPayload.e1SetupRequest.inj h)
      (fun payload => by cases payload <;> simp +contextual [h, E1apPayload.messageType, E1apPayload.Fits,
        e1apHandledTypes]) fun _ => rfl
  · exact reads_e1apE1SetupResponse.case (fun _ _ h => E1apPayload.e1SetupResponse.inj h)
      (fun payload => by cases payload <;> simp +contextual [h, E1apPayload.messageType, E1apPayload.Fits,
        e1apHandledTypes]) fun _ => rfl
  · exact reads_e1apE1SetupFailure.case (fun _ _ h => E1apPayload.e1SetupFailure.inj h)
      (fun payload => by cases payload <;> simp +contextual [h, E1apPayload.messageType, E1apPayload.Fits,
        e1apHandledTypes]) fun _ => rfl
  · exact reads_e1apBearerContextSetupRequest.case (fun _ _ h => E1apPayload.bearerContextSetupRequest.inj h)
      (fun payload => by cases payload <;> simp +contextual [h, E1apPayload.messageType, E1apPayload.Fits,
        e1apHandledTypes]) fun _ => rfl
  · exact reads_e1apBearerContextSetupResponse.case
      (fun _ _ h => E1apPayload.bearerContextSetupResponse.inj h)
      (fun payload => by cases payload <;> simp +contextual [h, E1apPayload.messageType, E1apPayload.Fits,
        e1apHandledTypes]) fun _ => rfl
  · exact reads_e1apUeCause.case (fun _ _ h => E1apPayload.bearerContextReleaseCommand.inj h)
      (fun payload => by cases payload <;> simp +contextual [h, E1apPayload.messageType, E1apPayload.Fits,
        e1apHandledTypes]) fun _ => rfl
  · exact reads_e1apUeIds.case (fun _ _ h => E1apPayload.bearerContextReleaseComplete.inj h)
      (fun payload => by cases payload <;> simp +contextual [h, E1apPayload.messageType, E1apPayload.Fits,
        e1apHandledTypes]) fun _ => rfl
  · exact reads_e1apErrorIndication.case (fun _ _ h => E1apPayload.errorIndication.inj h)
      (fun payload => by cases payload <;> simp +contextual [h, E1apPayload.messageType, E1apPayload.Fits,
        e1apHandledTypes]) fun _ => rfl
  · exact (reads_pure (E1apPayload.bearerContextSetupFailure e1apUeCauseZero)).congr
      (fun payload => by cases payload <;> simp +contextual [h, eq_comm (a := e1apUeCauseZero),
        E1apPayload.messageType, E1apPayload.Fits, e1apHandledTypes]) fun _ hzero => hzero ▸ rfl
  · exact (reads_pure (E1apPayload.bearerContextReleaseRequest e1apUeCauseZero)).congr
      (fun payload => by cases payload <;> simp +contextual [h, eq_comm (a := e1apUeCauseZero),
        E1apPayload.messageType, E1apPayload.Fits, e1apHandledTypes]) fun _ hzero => hzero ▸ rfl
  · apply (reads_pure (E1apPayload.unhandled messageType)).congr
    · intro payload
      constructor
      · rintro rfl
        refine ⟨rfl, ?_⟩
        simp only [E1apPayload.Fits, e1apHandledTypes, List.mem_cons, List.not_mem_nil, or_false, not_or]
        exact ⟨h0, h1, h2, h5, h14, h15, h16, h17, h18, h22⟩
      · rintro ⟨rfl, -⟩
        cases payload <;> simp_all [E1apPayload.messageType]
    · rintro _ rfl
      rfl

theorem reads_e1apMessage : Reads e1apReadMessage E1apMessage.Fits E1apMessage.layout :=
  reads_message reads_e1apPayload

end Uesim
