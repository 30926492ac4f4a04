import Uesim.Xnap.Messages

/-!
# What the XnAP decoder reads

For each structure the values that fit its fields, and its layout. Both directions agree on all fields, so
that the layout is what the encoder writes, with the length byte of a name as the only field that is looser.
-/

namespace Uesim

open Bytes BitMemory

/-! ### Parts of messages -/

def XnapCause.Fits (cause : XnapCause) : Prop := cause.causeType.toNat < 2 ^ 3

def XnapPlmnId.Fits (plmn : XnapPlmnId) : Prop := plmn.mncLength.toNat < 2 ^ 3

def XnapGlobalGnbId.Fits (id : XnapGlobalGnbId) : Prop :=
  id.mncLength.toNat < 2 ^ 3 ∧ id.gnbIdLength.toNat < 2 ^ 6

def XnapSlice.Fits (slice : XnapSlice) : Prop := slice.sd.toNat < 2 ^ 24

def XnapServedCellInfo.Fits (cell : XnapServedCellInfo) : Prop :=
  cell.pci.toNat < 2 ^ 10 ∧ cell.tac.toNat < 2 ^ 24 ∧ cell.plmns.Fits 4 XnapPlmnId.Fits
    ∧ cell.slices.Fits 4 XnapSlice.Fits ∧ cell.ngranDuplexMode.toNat < 2 ^ 4

def XnapTnlInfo.Fits (tnl : XnapTnlInfo) : Prop := tnl.transportType.toNat < 2 ^ 4

def XnapQosFlow.Fits (flow : XnapQosFlow) : Prop := flow.qfi.toNat < 2 ^ 6

def XnapDrbInfo.Fits (drb : XnapDrbInfo) : Prop :=
  drb.drbId.toNat < 2 ^ 5 ∧ drb.pdcpSnSize.toNat < 2 ^ 4 ∧ drb.rlcMode.toNat < 2 ^ 2
    ∧ drb.qosFlows.Fits 6 XnapQosFlow.Fits ∧ drb.dlUpTnlInfo.Fits 4 XnapTnlInfo.Fits

def XnapFailedDrb.Fits (drb : XnapFailedDrb) : Prop := drb.drbId.toNat < 2 ^ 5 ∧ drb.cause.Fits

theorem reads_xnapWide :
    Reads (asn1ReadWide 32) (fun _ => True) (fun value => exactly (xnapEncodeWide 32 value)) :=
  (reads_wide (by decide) (by decide)).congr (fun value => iff_of_true value.isLt trivial) fun _ _ => rfl

theorem reads_xnapUeId :
    Reads (asn1ReadWide 8) (fun id => id.toNat < 2 ^ 40) (fun id => exactly (xnapEncodeWide 8 id)) :=
  reads_wide (by decide) (by decide)

theorem reads_xnapCause :
    Reads xnapDecodeCause XnapCause.Fits (fun cause => exactly (xnapEncodeCause cause)) := by
  refine (Reads.part (reads_bits (by decide)) XnapCause.causeType (by simp) fun _ =>
    Reads.part reads_byte XnapCause.causeValue (by simp) fun _ =>
    reads_record _).congr ?_ ?_
  · intro cause
    simp [XnapCause.Fits]
  · intro cause _
    simp [xnapEncodeCause, asn1EncodeByte]

theorem reads_xnapPlmnId :
    Reads xnapDecodePlmnId XnapPlmnId.Fits (fun plmn => exactly (xnapEncodePlmnId plmn)) := by
  refine (Reads.part (reads_octets 3) XnapPlmnId.mcc (by simp) fun _ =>
    Reads.part (reads_octets 3) XnapPlmnId.mnc (by simp) fun _ =>
    Reads.part (reads_bits (by decide)) XnapPlmnId.mncLength (by simp) fun _ =>
    reads_record _).congr ?_ ?_
  · intro plmn
    simp [XnapPlmnId.Fits]
  · intro plmn _
    simp [xnapEncodePlmnId]

theorem reads_xnapGlobalGnbId :
    Reads xnapDecodeGlobalGnbId XnapGlobalGnbId.Fits (fun id => exactly (xnapEncodeGlobalGnbId id)) := by
  refine (Reads.part (reads_octets 3) XnapGlobalGnbId.mcc (by simp) fun _ =>
    Reads.part (reads_octets 3) XnapGlobalGnbId.mnc (by simp) fun _ =>
    Reads.part (reads_bits (by decide)) XnapGlobalGnbId.mncLength (by simp) fun _ =>
    Reads.part (reads_bits (by decide)) XnapGlobalGnbId.gnbIdLength (by simp) fun _ =>
    Reads.part reads_xnapWide XnapGlobalGnbId.gnbId (by simp) fun _ =>
    reads_record _).congr ?_ ?_
  · intro id
    simp [XnapGlobalGnbId.Fits]
  · intro id _
    simp [xnapEncodeGlobalGnbId]

theorem reads_xnapUeIds :
    Reads xnapDecodeUeIds (fun _ => True) (fun ids => exactly (xnapEncodeUeIds ids)) := by
  refine (Reads.part reads_word XnapUeIds.sourceGnbUeXnapId (by simp) fun _ =>
    Reads.part reads_word XnapUeIds.targetGnbUeXnapId (by simp) fun _ =>
    reads_record _).congr ?_ ?_
  · simp
  · intro ids _
    simp [xnapEncodeUeIds]

theorem reads_xnapSlice :
    Reads xnapDecodeSlice XnapSlice.Fits (fun slice => exactly (xnapEncodeSlice slice)) := by
  refine (Reads.part reads_byte XnapSlice.sst (by simp) fun _ =>
    Reads.part (reads_bits (by decide)) XnapSlice.sd (by simp) fun _ =>
    reads_record _).congr ?_ ?_
  · intro slice
    simp [XnapSlice.Fits]
  · intro slice _
    simp [xnapEncodeSlice, asn1EncodeByte]

theorem reads_xnapServedCellInfo :
    Reads xnapDecodeServedCellInfo XnapServedCellInfo.Fits
      (fun cell => exactly (xnapEncodeServedCellInfo cell)) := by
  refine (Reads.part reads_xnapWide XnapServedCellInfo.nrCellId (by simp) fun _ =>
    Reads.part (reads_bits (by decide)) XnapServedCellInfo.pci (by simp) fun _ =>
    Reads.part (reads_bits (by decide)) XnapServedCellInfo.tac (by simp) fun _ =>
    Reads.part (reads_counted reads_xnapPlmnId (by decide)) XnapServedCellInfo.plmns (by simp) fun _ =>
    Reads.part (reads_counted reads_xnapSlice (by decide)) XnapServedCellInfo.slices (by simp) fun _ =>
    Reads.part (reads_bits (by decide)) XnapServedCellInfo.ngranDuplexMode (by simp) fun _ =>
    reads_record _).congr ?_ ?_
  · intro cell
    simp [XnapServedCellInfo.Fits]
  · intro cell _
    simp [xnapEncodeServedCellInfo, Counted.exactly_fields]

theorem reads_xnapTnlInfo :
    Reads xnapDecodeTnlInfo XnapTnlInfo.Fits (fun tnl => exactly (xnapEncodeTnlInfo tnl)) := by
  refine (Reads.part (reads_bits (by decide)) XnapTnlInfo.transportType (by simp) fun _ =>
    Reads.part reads_word XnapTnlInfo.ipAddress (by simp) fun _ =>
    Reads.part (reads_whole (by decide)) XnapTnlInfo.port (by simp) fun _ =>
    Reads.part reads_word XnapTnlInfo.teid (by simp) fun _ =>
    reads_record _).congr ?_ ?_
  · intro tnl
    simp [XnapTnlInfo.Fits]
  · intro tnl _
    simp [xnapEncodeTnlInfo]

theorem reads_xnapQosFlow :
    Reads xnapDecodeQosFlow XnapQosFlow.Fits (fun flow => exactly (xnapEncodeQosFlow flow)) := by
  refine (Reads.part (reads_bits (by decide)) XnapQosFlow.qfi (by simp) fun _ =>
    Reads.part reads_byte XnapQosFlow.fiveQi (by simp) fun _ =>
    Reads.part reads_xnapWide XnapQosFlow.gfbrUl (by simp) fun _ =>
    Reads.part reads_xnapWide XnapQosFlow.gfbrDl (by simp) fun _ =>
    reads_record _).congr ?_ ?_
  · intro flow
    simp [XnapQosFlow.Fits]
  · intro flow _
    simp [xnapEncodeQosFlow, asn1EncodeByte]

theorem reads_xnapDrbInfo :
    Reads xnapDecodeDrbInfo XnapDrbInfo.Fits (fun drb => exactly (xnapEncodeDrbInfo drb)) := by
  refine (Reads.part (reads_bits (by decide)) XnapDrbInfo.drbId (by simp) fun _ =>
    Reads.part (reads_bits (by decide)) XnapDrbInfo.pdcpSnSize (by simp) fun _ =>
    Reads.part (reads_bits (by decide)) XnapDrbInfo.rlcMode (by simp) fun _ =>
    Reads.part (reads_counted reads_xnapQosFlow (by decide)) XnapDrbInfo.qosFlows (by simp) fun _ =>
    Reads.part (reads_counted reads_xnapTnlInfo (by decide)) XnapDrbInfo.dlUpTnlInfo (by simp) fun _ =>
    reads_record _).congr ?_ ?_
  · intro drb
    simp [XnapDrbInfo.Fits]
  · intro drb _
    simp [xnapEncodeDrbInfo, Counted.exactly_fields]

theorem reads_xnapFailedDrb :
    Reads xnapDecodeFailedDrb XnapFailedDrb.Fits (fun drb => exactly (xnapEncodeFailedDrb drb)) := by
  refine (Reads.part (reads_bits (by decide)) XnapFailedDrb.drbId (by simp) fun _ =>
    Reads.part reads_xnapCause XnapFailedDrb.cause (by simp) fun _ =>
    reads_record _).congr ?_ ?_
  · intro drb
    simp [XnapFailedDrb.Fits]
  · intro drb _
    simp [xnapEncodeFailedDrb]

theorem reads_xnapUeCause :
    Reads xnapDecodeUeCause (·.cause.Fits) (fun msg => exactly (xnapEncodeUeCause msg)) := by
  refine (Reads.part reads_xnapUeIds XnapUeCause.ueIds (by simp) fun _ =>
    Reads.part reads_xnapCause XnapUeCause.cause (by simp) fun _ =>
    reads_record _).congr ?_ ?_
  · simp
  · intro msg _
    simp [xnapEncodeUeCause]

/-! ### Messages -/

def XnapXnSetupRequest.Fits (req : XnapXnSetupRequest) : Prop :=
  req.globalGnbId.Fits ∧ req.gnbName.length ≤ 63 ∧ req.servedCells.Fits 8 XnapServedCellInfo.Fits
    ∧ req.gnbCuId.count.toNat < 2 ^ 1 ∧ req.gnbDuId.count.toNat < 2 ^ 1

def XnapXnSetupResponse.Fits (resp : XnapXnSetupResponse) : Prop :=
  resp.globalGnbId.Fits ∧ resp.gnbName.length ≤ 63 ∧ resp.servedCells.Fits 8 XnapServedCellInfo.Fits
    ∧ resp.gnbCuId.count.toNat < 2 ^ 1

def XnapHandoverRequest.Fits (req : XnapHandoverRequest) : Prop :=
  req.amfUeId.toNat < 2 ^ 40 ∧ req.ranUeId.toNat < 2 ^ 40 ∧ req.targetGnbId.Fits
    ∧ req.sourceToTargetContainer.count.toNat < 2 ^ 16 ∧ req.drbsToSetup.Fits 4 XnapDrbInfo.Fits
    ∧ req.snssai.Fits 1 XnapSlice.Fits ∧ req.securityKey.count.toNat < 2 ^ 1 ∧ req.plmn.Fits

def XnapHandoverRequestAck.Fits (ack : XnapHandoverRequestAck) : Prop :=
  ack.targetToSourceContainer.count.toNat < 2 ^ 16 ∧ ack.drbsSetup.Fits 4 XnapDrbInfo.Fits
    ∧ ack.drbsFailed.Fits 4 XnapFailedDrb.Fits

def XnapAssistanceData.Fits (data : XnapAssistanceData) : Prop :=
  data.pagingAttemptCount.toNat < 2 ^ 4 ∧ data.intendedNPagingAttempts.toNat < 2 ^ 4

def XnapPaging.Fits (paging : XnapPaging) : Prop :=
  paging.amfUeId.toNat < 2 ^ 40 ∧ paging.pagingIdentityType.toNat < 2 ^ 1
    ∧ paging.taiList.Fits 4 (·.toNat < 2 ^ 24) ∧ paging.pagingCause.toNat < 2 ^ 1
    ∧ paging.assistanceData.Fits 1 XnapAssistanceData.Fits

def XnapSgnbAdditionRequest.Fits (req : XnapSgnbAdditionRequest) : Prop :=
  req.ranUeId.toNat < 2 ^ 40 ∧ req.drbsToSetup.Fits 4 XnapDrbInfo.Fits
    ∧ req.securityKey.count.toNat < 2 ^ 1

def XnapErrorIndication.Fits (err : XnapErrorIndication) : Prop :=
  err.ueIds.count.toNat < 2 ^ 1 ∧ err.cause.Fits 1 XnapCause.Fits

def xnapHandledTypes : List Word := [0, 1, 2, 5, 8, 9, 10, 11, 12, 13, 14, 15, 21, 22]

def XnapPayload.Fits : XnapPayload → Prop
  | xnSetupRequest req => req.Fits
  | xnSetupResponse resp => resp.Fits
  | xnSetupFailure fail => fail.cause.Fits
  | errorIndication err => err.Fits
  | paging page => page.Fits
  | handoverRequest req => req.Fits
  | handoverRequestAck ack => ack.Fits
  | handoverPreparationFailure fail => fail.cause.Fits
  | handoverCommand cmd => cmd.handoverCommand.count.toNat < 2 ^ 16
  | handoverCancel cancel => cancel.cause.Fits
  | handoverCancelAck _ => True
  | handoverNotify notify => notify.pci.toNat < 2 ^ 10
  | sgnbAdditionRequest req => req.Fits
  | sgnbAdditionRequestAck ack => ack.drbsSetup.Fits 4 XnapDrbInfo.Fits
  | unhandled messageType => messageType ∉ xnapHandledTypes

def XnapMessage.Fits (msg : XnapMessage) : Prop :=
  InterfaceMessage.HeaderFits XnapPayload.messageType XnapPayload.Fits msg

def XnapXnSetupRequest.layout (req : XnapXnSetupRequest) : List (Slot 32) :=
  exactly (xnapEncodeGlobalGnbId req.globalGnbId) ++ asn1NameLayout req.gnbName
    ++ exactly (req.servedCells.fields 8 xnapEncodeServedCellInfo ++ req.gnbCuId.fields 1 (xnapEncodeWide 32)
      ++ req.gnbDuId.fields 1 fun id => [(id, 32)])

def XnapXnSetupResponse.layout (resp : XnapXnSetupResponse) : List (Slot 32) :=
  exactly (xnapEncodeGlobalGnbId resp.globalGnbId) ++ asn1NameLayout resp.gnbName
    ++ exactly (resp.servedCells.fields 8 xnapEncodeServedCellInfo
      ++ resp.gnbCuId.fields 1 (xnapEncodeWide 32))

def XnapPayload.layout : XnapPayload → List (Slot 32)
  | xnSetupRequest req => req.layout
  | xnSetupResponse resp => resp.layout
  | payload => exactly (xnapEncodePayload payload)

def XnapMessage.layout (msg : XnapMessage) : List (Slot 32) :=
  msg.headerLayout XnapPayload.messageType XnapPayload.layout

theorem reads_xnapXnSetupRequest :
    Reads xnapDecodeXnSetupRequest XnapXnSetupRequest.Fits XnapXnSetupRequest.layout := by
  refine (Reads.part reads_xnapGlobalGnbId XnapXnSetupRequest.globalGnbId (by simp) fun _ =>
    Reads.part reads_name XnapXnSetupRequest.gnbName (by simp) fun _ =>
    Reads.part (reads_counted reads_xnapServedCellInfo (by decide))
      XnapXnSetupRequest.servedCells (by simp) fun _ =>
    Reads.part (reads_counted reads_xnapWide (by decide)) XnapXnSetupRequest.gnbCuId (by simp) fun _ =>
    Reads.part (reads_counted reads_word (by decide)) XnapXnSetupRequest.gnbDuId (by simp) fun _ =>
    reads_record _).congr ?_ ?_
  · intro req
    simp [XnapXnSetupRequest.Fits, Counted.Fits]
  · intro req _
    simp [XnapXnSetupRequest.layout, Counted.exactly_fields]

theorem reads_xnapXnSetupResponse :
    Reads xnapDecodeXnSetupResponse XnapXnSetupResponse.Fits XnapXnSetupResponse.layout := by
  refine (Reads.part reads_xnapGlobalGnbId XnapXnSetupResponse.globalGnbId (by simp) fun _ =>
    Reads.part reads_name XnapXnSetupResponse.gnbName (by simp) fun _ =>
    Reads.part (reads_counted reads_xnapServedCellInfo (by decide))
      XnapXnSetupResponse.servedCells (by simp) fun _ =>
    Reads.part (reads_counted reads_xnapWide (by decide)) XnapXnSetupResponse.gnbCuId (by simp) fun _ =>
    reads_record _).congr ?_ ?_
  · intro resp
    simp [XnapXnSetupResponse.Fits, Counted.Fits]
  · intro resp _
    simp [XnapXnSetupResponse.layout, Counted.exactly_fields]

theorem reads_xnapXnSetupFailure :
    Reads xnapDecodeXnSetupFailure (·.cause.Fits)
      (fun fail => exactly (xnapEncodePayload (.xnSetupFailure fail))) := by
  refine (Reads.part reads_xnapCause XnapXnSetupFailure.cause (by simp) fun _ =>
    Reads.part reads_word XnapXnSetupFailure.timeToWait (by simp) fun _ =>
    reads_record _).congr ?_ ?_
  · simp
  · intro fail _
    simp [xnapEncodePayload]

theorem reads_xnapHandoverRequest :
    Reads xnapDecodeHandoverRequest XnapHandoverRequest.Fits
      (fun req => exactly (xnapEncodeHandoverRequest req)) := by
  refine (Reads.part reads_xnapUeIds XnapHandoverRequest.ueIds (by simp) fun _ =>
    Reads.part reads_xnapUeId XnapHandoverRequest.amfUeId (by simp) fun _ =>
    Reads.part reads_xnapUeId XnapHandoverRequest.ranUeId (by simp) fun _ =>
    Reads.part reads_xnapGlobalGnbId XnapHandoverRequest.targetGnbId (by simp) fun _ =>
    Reads.part reads_xnapWide XnapHandoverRequest.targetCellId (by simp) fun _ =>
    Reads.part reads_container XnapHandoverRequest.sourceToTargetContainer (by simp) fun _ =>
    Reads.part (reads_counted reads_xnapDrbInfo (by decide))
      XnapHandoverRequest.drbsToSetup (by simp) fun _ =>
    Reads.part reads_xnapWide XnapHandoverRequest.ueAmbrDl (by simp) fun _ =>
    Reads.part reads_xnapWide XnapHandoverRequest.ueAmbrUl (by simp) fun _ =>
    Reads.part (reads_counted reads_xnapSlice (by decide)) XnapHandoverRequest.snssai (by simp) fun _ =>
    Reads.part (reads_counted (reads_octets 32) (by decide))
      XnapHandoverRequest.securityKey (by simp) fun _ =>
    Reads.part reads_xnapPlmnId XnapHandoverRequest.plmn (by simp) fun _ =>
    reads_record _).congr ?_ ?_
  · intro req
    simp [XnapHandoverRequest.Fits, Counted.fits_true]
  · intro req _
    simp [xnapEncodeHandoverRequest, Counted.exactly_fields, xnapEncodeRrcContainer]

theorem reads_xnapHandoverRequestAck :
    Reads xnapDecodeHandoverRequestAck XnapHandoverRequestAck.Fits
      (fun ack => exactly (xnapEncodeHandoverRequestAck ack)) := by
  refine (Reads.part reads_xnapUeIds XnapHandoverRequestAck.ueIds (by simp) fun _ =>
    Reads.part reads_container XnapHandoverRequestAck.targetToSourceContainer (by simp) fun _ =>
    Reads.part (reads_counted reads_xnapDrbInfo (by decide))
      XnapHandoverRequestAck.drbsSetup (by simp) fun _ =>
    Reads.part (reads_counted reads_xnapFailedDrb (by decide))
      XnapHandoverRequestAck.drbsFailed (by simp) fun _ =>
    reads_record _).congr ?_ ?_
  · intro ack
    simp [XnapHandoverRequestAck.Fits]
  · intro ack _
    simp [xnapEncodeHandoverRequestAck, Counted.exactly_fields, xnapEncodeRrcContainer]

theorem reads_xnapHandoverCommand :
    Reads xnapDecodeHandoverCommand (·.handoverCommand.count.toNat < 2 ^ 16)
      (fun cmd => exactly (xnapEncodePayload (.handoverCommand cmd))) := by
  refine (Reads.part reads_xnapUeIds XnapHandoverCommand.ueIds (by simp) fun _ =>
    Reads.part reads_container XnapHandoverCommand.handoverCommand (by simp) fun _ =>
    reads_record _).congr ?_ ?_
  · simp
  · intro cmd _
    simp [xnapEncodePayload, xnapEncodeRrcContainer]

theorem reads_xnapHandoverNotify :
    Reads xnapDecodeHandoverNotify (·.pci.toNat < 2 ^ 10)
      (fun notify => exactly (xnapEncodePayload (.handoverNotify notify))) := by
  refine (Reads.part reads_xnapUeIds XnapHandoverNotify.ueIds (by simp) fun _ =>
    Reads.part reads_xnapWide XnapHandoverNotify.targetCellId (by simp) fun _ =>
    Reads.part (reads_bits (by decide)) XnapHandoverNotify.pci (by simp) fun _ =>
    reads_record _).congr ?_ ?_
  · simp
  · intro notify _
    simp [xnapEncodePayload]

theorem reads_xnapAssistanceData :
    Reads xnapDecodeAssistanceData XnapAssistanceData.Fits
      (fun data => exactly (xnapEncodeAssistanceData data)) := by
  refine (Reads.part (reads_bits (by decide)) XnapAssistanceData.pagingAttemptCount (by simp) fun _ =>
    Reads.part (reads_bits (by decide)) XnapAssistanceData.intendedNPagingAttempts (by simp) fun _ =>
    reads_record _).congr ?_ ?_
  · intro data
    simp [XnapAssistanceData.Fits]
  · intro data _
    simp [xnapEncodeAssistanceData]

theorem reads_xnapPaging :
    Reads xnapDecodePaging XnapPaging.Fits (fun paging => exactly (xnapEncodePaging paging)) := by
  refine (Reads.part reads_xnapUeId XnapPaging.amfUeId (by simp) fun _ =>
    Reads.part (reads_whole (by decide)) XnapPaging.ueIdentityIndex (by simp) fun _ =>
    Reads.part (reads_bits (by decide)) XnapPaging.pagingIdentityType (by simp) fun _ =>
    Reads.part reads_xnapWide XnapPaging.pagingIdentity (by simp) fun _ =>
    Reads.part (reads_counted (reads_bits (by decide)) (by decide))
      XnapPaging.taiList (by simp) fun _ =>
    Reads.part (reads_bits (by decide)) XnapPaging.pagingCause (by simp) fun _ =>
    Reads.part (reads_counted reads_xnapAssistanceData (by decide))
      XnapPaging.assistanceData (by simp) fun _ =>
    reads_record _).congr ?_ ?_
  · intro paging
    simp [XnapPaging.Fits]
  · intro paging _
    simp [xnapEncodePaging, Counted.exactly_fields]

theorem reads_xnapSgnbAdditionRequest :
    Reads xnapDecodeSgnbAdditionRequest XnapSgnbAdditionRequest.Fits
      (fun req => exactly (xnapEncodeSgnbAdditionRequest req)) := by
  refine (Reads.part reads_xnapUeIds XnapSgnbAdditionRequest.ueIds (by simp) fun _ =>
    Reads.part reads_xnapUeId XnapSgnbAdditionRequest.ranUeId (by simp) fun _ =>
    Reads.part reads_xnapWide XnapSgnbAdditionRequest.targetCellId (by simp) fun _ =>
    Reads.part (reads_counted reads_xnapDrbInfo (by decide))
      XnapSgnbAdditionRequest.drbsToSetup (by simp) fun _ =>
    Reads.part (reads_counted (reads_octets 32) (by decide))
      XnapSgnbAdditionRequest.securityKey (by simp) fun _ =>
    reads_record _).congr ?_ ?_
  · intro req
    simp [XnapSgnbAdditionRequest.Fits, Counted.fits_true]
  · intro req _
    simp [xnapEncodeSgnbAdditionRequest, Counted.exactly_fields]

theorem reads_xnapSgnbAdditionRequestAck :
    Reads xnapDecodeSgnbAdditionRequestAck (·.drbsSetup.Fits 4 XnapDrbInfo.Fits)
      (fun ack => exactly (xnapEncodePayload (.sgnbAdditionRequestAck ack))) := by
  refine (Reads.part reads_xnapUeIds XnapSgnbAdditionRequestAck.ueIds (by simp) fun _ =>
    Reads.part (reads_counted reads_xnapDrbInfo (by decide))
      XnapSgnbAdditionRequestAck.drbsSetup (by simp) fun _ =>
    reads_record _).congr ?_ ?_
  · simp
  · intro ack _
    simp [xnapEncodePayload, Counted.exactly_fields]

theorem reads_xnapErrorIndication :
    Reads xnapDecodeErrorIndication XnapErrorIndication.Fits
      (fun err => exactly (xnapEncodePayload (.errorIndication err))) := by
  refine (Reads.part (reads_counted reads_xnapUeIds (by decide))
      XnapErrorIndication.ueIds (by simp) fun _ =>
    Reads.part (reads_counted reads_xnapCause (by decide)) XnapErrorIndication.cause (by simp) fun _ =>
    reads_record _).congr ?_ ?_
  · intro err
    simp [XnapErrorIndication.Fits, Counted.fits_true]
  · intro err _
    simp [xnapEncodePayload, Counted.exactly_fields]

theorem reads_xnapPayload (messageType : Word) :
    Reads (xnapDecodePayload messageType)
      (fun payload => payload.messageType = messageType ∧ payload.Fits) XnapPayload.layout := by
  rw [xnapDecodePayload]
  refine Reads.ite (fun h => ?_) fun h0 => Reads.ite (fun h => ?_) fun h1 =>
    Reads.ite (fun h => ?_) fun h2 => Reads.ite (fun h => ?_) fun h9 => Reads.ite (fun h => ?_) fun h10 =>
    Reads.ite (fun h => ?_) fun h11 => Reads.ite (fun h => ?_) fun h12 =>
    Reads.ite (fun h => ?_) fun h13 => Reads.ite (fun h => ?_) fun h14 =>
    Reads.ite (fun h => ?_) fun h15 => Reads.ite (fun h => ?_) fun h8 => Reads.ite (fun h => ?_) fun h5 =>
    Reads.ite (fun h => ?_) fun h21 => Reads.ite (fun h => ?_) fun h22 => ?_
  · exact reads_xnapXnSetupRequest.case (fun _ _ h => XnapPayload.xnSetupRequest.inj h)
      (fun payload => by cases payload <;> simp +contextual [h, XnapPayload.messageType, XnapPayload.Fits,
        xnapHandledTypes]) fun _ => rfl
  · exact reads_xnapXnSetupResponse.case (fun _ _ h => XnapPayload.xnSetupResponse.inj h)
      (fun payload => by cases payload <;> simp +contextual [h, XnapPayload.messageType, XnapPayload.Fits,
        xnapHandledTypes]) fun _ => rfl
  · exact reads_xnapXnSetupFailure.case (fun _ _ h => XnapPayload.xnSetupFailure.inj h)
      (fun payload => by cases payload <;> simp +contextual [h, XnapPayload.messageType, XnapPayload.Fits,
        xnapHandledTypes]) fun _ => rfl
  · exact reads_xnapHandoverRequest.case (fun _ _ h => XnapPayload.handoverRequest.inj h)
      (fun payload => by cases payload <;> simp +contextual [h, XnapPayload.messageType, XnapPayload.Fits,
        xnapHandledTypes]) fun _ => rfl
  · exact reads_xnapHandoverRequestAck.case (fun _ _ h => XnapPayload.handoverRequestAck.inj h)
      (fun payload => by cases payload <;> simp +contextual [h, XnapPayload.messageType, XnapPayload.Fits,
        xnapHandledTypes]) fun _ => rfl
  · exact reads_xnapUeCause.case (fun _ _ h => XnapPayload.handoverPreparationFailure.inj h)
      (fun payload => by cases payload <;> simp +contextual [h, XnapPayload.messageType, XnapPayload.Fits,
        xnapHandledTypes]) fun _ => rfl
  · exact reads_xnapHandoverCommand.case (fun _ _ h => XnapPayload.handoverCommand.inj h)
      (fun payload => by cases payload <;> simp +contextual [h, XnapPayload.messageType, XnapPayload.Fits,
        xnapHandledTypes]) fun _ => rfl
  · exact reads_xnapUeCause.case (fun _ _ h => XnapPayload.handoverCancel.inj h)
      (fun payload => by cases payload <;> simp +contextual [h, XnapPayload.messageType, XnapPayload.Fits,
        xnapHandledTypes]) fun _ => rfl
  · exact reads_xnapUeIds.case (fun _ _ h => XnapPayload.handoverCancelAck.inj h)
      (fun payload => by cases payload <;> simp +contextual [h, XnapPayload.messageType, XnapPayload.Fits,
        xnapHandledTypes]) fun _ => rfl
  · exact reads_xnapHandoverNotify.case (fun _ _ h => XnapPayload.handoverNotify.inj h)
      (fun payload => by cases payload <;> simp +contextual [h, XnapPayload.messageType, XnapPayload.Fits,
        xnapHandledTypes]) fun _ => rfl
  · exact reads_xnapPaging.case (fun _ _ h => XnapPayload.paging.inj h)
      (fun payload => by cases payload <;> simp +contextual [h, XnapPayload.messageType, XnapPayload.Fits,
        xnapHandledTypes]) fun _ => rfl
  · exact reads_xnapErrorIndication.case (fun _ _ h => XnapPayload.errorIndication.inj h)
      (fun payload => by cases payload <;> simp +contextual [h, XnapPayload.messageType, XnapPayload.Fits,
        xnapHandledTypes]) fun _ => rfl
  · exact reads_xnapSgnbAdditionRequest.case (fun _ _ h => XnapPayload.sgnbAdditionRequest.inj h)
      (fun payload => by cases payload <;> simp +contextual [h, XnapPayload.messageType, XnapPayload.Fits,
        xnapHandledTypes]) fun _ => rfl
  · exact reads_xnapSgnbAdditionRequestAck.case (fun _ _ h => XnapPayload.sgnbAdditionRequestAck.inj h)
      (fun payload => by cases payload <;> simp +contextual [h, XnapPayload.messageType, XnapPayload.Fits,
        xnapHandledTypes]) fun _ => rfl
  · apply (reads_pure (XnapPayload.unhandled messageType)).congr
    · intro payload
      constructor
      · rintro rfl
        refine ⟨rfl, ?_⟩
        simp only [XnapPayload.Fits, xnapHandledTypes, List.mem_cons, List.not_mem_nil, or_false, not_or]
        exact ⟨h0, h1, h2, h5, h8, h9, h10, h11, h12, h13, h14, h15, h21, h22⟩
      · rintro ⟨rfl, -⟩
        cases payload <;> simp_all [XnapPayload.messageType]
    · rintro _ rfl
      rfl

theorem reads_xnapMessage : Reads xnapReadMessage XnapMessage.Fits XnapMessage.layout :=
  reads_message reads_xnapPayload

end Uesim
