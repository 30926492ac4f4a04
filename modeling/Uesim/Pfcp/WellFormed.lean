import Uesim.Pfcp.Messages

/-!
# Lengths of PFCP information elements

A message is well formed if whoever walks over it by types and lengths finds the elements that were encoded.
The F-SEID with an IPv4 address announces 3337 bytes, and all rules, created PDRs and usage reports announce
lengths that they or their members do not have. Messages without these are well formed.
-/

namespace Uesim

open Bytes BitMemory Tlv

/-- Behind the header a walk visits the encoded elements and those inside of them, and the message is not
longer than is allowed. -/
def PfcpMessage.WellFormed (msg : PfcpMessage) : Prop :=
  ∀ (memory : Memory) (ies : List Element) (bytes : List Byte),
    pfcpEncodePayload msg.payload = some ies → pfcpEncodeMessage (some memory) msg = some bytes →
      Visits (bytes.drop (pfcpHeaderLen msg)) ies ∧ bytes.length ≤ pfcpMaxMessageSize

/-- Nothing is encoded whose length goes wrong. -/
def PfcpPayload.WellSized : PfcpPayload → Prop
  | .sessionEstRequest req =>
      req.cpFSeid.v4Present = 0 ∧ req.createPdr.count = 0 ∧ req.createFar.count = 0
        ∧ req.createQer.count = 0 ∧ req.createUrr.count = 0
  | .sessionEstResponse resp =>
      (resp.upFSeidPresent ≠ 0 → resp.upFSeid.v4Present = 0) ∧ resp.createdPdr.count = 0
  | .sessionReportRequest req => req.upFSeid.v4Present = 0 ∧ req.usageReports.count = 0
  | _ => True

/-! ### What optional elements take -/

/-- What an optional part of `n` bytes takes. -/
def takenIf (present : Byte) (n : Nat) : Nat := if present = 0 then 0 else n

theorem takenIf_le (present : Byte) (n : Nat) : takenIf present n ≤ n := by
  rw [takenIf]
  split
  · exact Nat.zero_le n
  · exact Nat.le_refl n

theorem takenIf_eq_or (present : Byte) (n : Nat) : takenIf present n = 0 ∨ takenIf present n = n :=
  ite_eq_or_eq _ _ _

@[simp]
theorem toNat_pfcpLenIf (present : Byte) (len : BitVec 16) :
    (pfcpLenIf present len).toNat = takenIf present len.toNat :=
  apply_ite BitVec.toNat (present = 0) 0 len

@[simp]
theorem length_pfcpIf {α : Type} (present : Byte) (items : List α) :
    (pfcpIf present items).length = takenIf present items.length :=
  apply_ite List.length (present = 0) [] items

@[simp]
theorem length_elementsBytes_pfcpIf (present : Byte) (elements : List Element) :
    (elementsBytes (pfcpIf present elements)).length = takenIf present (elementsBytes elements).length :=
  apply_ite (fun elements => (elementsBytes elements).length) (present = 0) [] elements

theorem forall_mem_pfcpIf {α : Type} {P : α → Prop} {present : Byte} {items : List α} :
    (∀ a ∈ pfcpIf present items, P a) ↔ (present ≠ 0 → ∀ a ∈ items, P a) := by
  by_cases h : present = 0
  · rw [pfcpIf_of_eq h]
    exact iff_of_true (List.forall_mem_nil _) fun hne => absurd h hne
  · rw [pfcpIf_of_ne h]
    exact (imp_iff_right h).symm

@[simp]
theorem content_pfcpIe (type : PfcpIeType) (len : BitVec 16) (content : List Byte) :
    (pfcpIe type len content).content = content := Element.content_plain _ _ _

@[simp]
theorem announced_pfcpIe (type : PfcpIeType) (len : BitVec 16) (content : List Byte) :
    (pfcpIe type len content).announced = len := rfl

@[simp]
theorem announced_pfcpGroupedIe (type : PfcpIeType) (len : BitVec 16) (members : List Element) :
    (pfcpGroupedIe type len members).announced = len := rfl

@[simp]
theorem content_pfcpGroupedIe (type : PfcpIeType) (len : BitVec 16) (members : List Element) :
    (pfcpGroupedIe type len members).content = elementsBytes members := Element.content_grouped _ _ _

/-! ### Elements with the length that they announce -/

theorem sized_pfcpIe_iff {type : PfcpIeType} {len : BitVec 16} {content : List Byte} :
    (pfcpIe type len content).Sized ↔ len.toNat = content.length :=
  Element.sized_plain_iff

theorem sized_pfcpEncodeNodeId (nodeId : PfcpNodeId) : ∀ ie ∈ pfcpEncodeNodeId nodeId, ie.Sized := by
  intro ie hie
  rw [pfcpEncodeNodeId] at hie
  split at hie
  · rw [List.mem_singleton.mp hie, sized_pfcpIe_iff]
    simp
  · exact absurd hie List.not_mem_nil

theorem sized_pfcpEncodeFSeid_iff {fSeid : PfcpFSeid} :
    (pfcpEncodeFSeid fSeid).Sized ↔ fSeid.v4Present = 0 := by
  rw [pfcpEncodeFSeid, sized_pfcpIe_iff, pfcpFSeidLen]
  by_cases h : fSeid.v4Present = 0
  · rw [if_pos h, pfcpIf_of_eq h]
    exact iff_of_true rfl h
  · rw [if_neg h, pfcpIf_of_ne h]
    exact iff_of_false (by simp) h

theorem sized_pfcpEncodeCause (cause : Word) : (pfcpEncodeCause cause).Sized :=
  sized_pfcpIe_iff.mpr rfl

theorem sized_pfcpEncodeRecoveryTimeStamp (ts : BitVec 64) : (pfcpEncodeRecoveryTimeStamp ts).Sized :=
  sized_pfcpIe_iff.mpr rfl

theorem sized_pfcpEncodeSNssai (sst : Byte) (sd : Word) : (pfcpEncodeSNssai sst sd).Sized := by
  rw [pfcpEncodeSNssai]
  split
  · exact sized_pfcpIe_iff.mpr rfl
  · exact sized_pfcpIe_iff.mpr rfl

/-! ### Elements that announce other lengths -/

/-- The source interface takes five bytes and is counted with two, and the address that a F-TEID may lack is
counted. -/
theorem not_sized_pfcpEncodePdi (pdi : PfcpPdi) : ¬ (pfcpEncodePdi pdi).Sized := by
  intro h
  have hlen := h.toNat_announced
  have hip := takenIf_le pdi.ueIpPresent 9
  have hv4 := takenIf_eq_or pdi.fTeid.v4Present 4
  simp [pfcpEncodePdi, pfcpEncodeFTeid, length_elementsBytes_cons, elementsBytes_append] at hlen
  by_cases hteid : pdi.fTeidPresent = 0
  · have htaken : ∀ n, takenIf pdi.fTeidPresent n = 0 := fun n => if_pos hteid
    rw [htaken, htaken] at hlen
    omega
  · have htaken : ∀ n, takenIf pdi.fTeidPresent n = n := fun n => if_neg hteid
    rw [htaken, htaken] at hlen
    omega

theorem not_sized_pfcpEncodeCreatePdr (pdr : PfcpPdr) : ¬ (pfcpEncodeCreatePdr pdr).Sized := by
  intro h
  obtain ⟨-, hmembers⟩ := Element.sized_grouped_iff.mp h
  simp only [List.forall_mem_cons] at hmembers
  obtain ⟨-, hpdi⟩ := Element.sized_grouped_iff.mp hmembers.2.2.1
  exact not_sized_pfcpEncodePdi pdr.pdi (List.forall_mem_cons.mp hpdi).1

theorem length_pfcpEncodeCreateFar (far : PfcpFar) :
    (pfcpEncodeCreateFar far).content.length = (pfcpEncodeCreateFar far).announced.toNat + 5 := by
  have hparams := takenIf_le far.forwardingParamsPresent (5 + takenIf far.outerHeaderCreationPresent 13)
  have houter := takenIf_le far.outerHeaderCreationPresent 13
  have hmod : (5 + takenIf far.outerHeaderCreationPresent 13) % 65536
      = 5 + takenIf far.outerHeaderCreationPresent 13 := Nat.mod_eq_of_lt (by omega)
  simp [pfcpEncodeCreateFar, length_elementsBytes_cons, hmod]
  omega

theorem length_pfcpEncodeCreateQer (qer : PfcpQer) :
    (pfcpEncodeCreateQer qer).content.length = (pfcpEncodeCreateQer qer).announced.toNat + 13 := by
  have hqfi := takenIf_le qer.qfiPresent 5
  have hcorrelation := takenIf_le qer.qerCorrelationIdPresent 8
  simp [pfcpEncodeCreateQer, length_elementsBytes_cons, elementsBytes_append]
  omega

theorem length_pfcpEncodeCreateUrr (urr : PfcpUrr) :
    (pfcpEncodeCreateUrr urr).content.length = (pfcpEncodeCreateUrr urr).announced.toNat + 5 := by
  have hvolume := takenIf_le urr.volumeThresholdPresent 28
  have htime := takenIf_le urr.timeThresholdPresent 8
  have hvolumeQuota := takenIf_le urr.volumeQuotaPresent 12
  have htimeQuota := takenIf_le urr.timeQuotaPresent 8
  have hvalidity := takenIf_le urr.quotaValidityTimePresent 8
  simp [pfcpEncodeCreateUrr, length_elementsBytes_cons, elementsBytes_append]
  omega

theorem not_sized_of_length {element : Element} {missing : Nat} (hmissing : missing ≠ 0)
    (hlen : element.content.length = element.announced.toNat + missing) : ¬ element.Sized := by
  intro h
  have htoNat := h.toNat_announced
  omega

theorem not_sized_pfcpEncodeCreatedPdr (created : BitVec 16 × PfcpFTeid) :
    ¬ (pfcpEncodeCreatedPdr created).Sized := by
  intro h
  have hlen := h.toNat_announced
  simp [pfcpEncodeCreatedPdr, pfcpEncodeFTeid, length_elementsBytes_cons] at hlen
  omega

theorem not_sized_pfcpEncodeUsageReport (report : PfcpUsageReport) :
    ¬ (pfcpEncodeUsageReport report).Sized := by
  intro h
  have hlen := h.toNat_announced
  simp [pfcpEncodeUsageReport, Element.announced, length_elementsBytes_cons] at hlen

/-! ### Messages -/

theorem items_eq_nil {α : Type} {max : Nat} {counted : Counted 8 α max} (hcount : counted.count = 0) :
    counted.items = [] := by
  have hzero : counted.count.toNat = 0 := congrArg BitVec.toNat hcount
  have hlen := counted.length_items
  rw [hzero, Nat.zero_min] at hlen
  exact List.length_eq_zero_iff.mp hlen

theorem forall_sized_map_iff {α : Type} {max : Nat} (hmax : 0 < max) {encode : α → Element}
    (hencode : ∀ a, ¬ (encode a).Sized) {counted : Counted 8 α max} :
    (∀ ie ∈ counted.items.map encode, ie.Sized) ↔ counted.count = 0 := by
  constructor
  · intro h
    cases hitems : counted.items with
    | nil =>
        have hlen := counted.length_items
        rw [hitems, List.length_nil] at hlen
        have hcount : counted.count.toNat = 0 := by omega
        exact BitVec.eq_of_toNat_eq hcount
    | cons a items =>
        rw [hitems, List.map_cons] at h
        exact absurd (List.forall_mem_cons.mp h).1 (hencode a)
  · intro hcount
    rw [items_eq_nil hcount]
    exact List.forall_mem_nil _

theorem length_elementsBytes_map_le {α : Type} {max most : Nat} {encode : α → Element}
    (hencode : ∀ a, 4 + (encode a).content.length ≤ most) (counted : Counted 8 α max) :
    (elementsBytes (counted.items.map encode)).length ≤ most * max := by
  have hitems : ∀ items : List α, (elementsBytes (items.map encode)).length ≤ most * items.length := by
    intro items
    induction items with
    | nil => simp
    | cons a items ih =>
        rw [List.map_cons, length_elementsBytes_cons, List.length_cons, Nat.mul_succ]
        exact (Nat.add_le_add (hencode a) ih).trans_eq (Nat.add_comm _ _)
  calc (elementsBytes (counted.items.map encode)).length
      ≤ most * counted.items.length := hitems counted.items
    _ ≤ most * max := Nat.mul_le_mul_left most (counted.length_items.trans_le (Nat.min_le_right _ _))

theorem sized_apnDnn (apnDnn : Counted 8 Byte 256) :
    (pfcpIe .apnDnn (apnDnn.count.setWidth 16) apnDnn.items).Sized := by
  have hcount := apnDnn.count.isLt
  rw [sized_pfcpIe_iff, apnDnn.length_items, BitVec.toNat_setWidth]
  omega

theorem forall_sized_pfcpEncodeRules_iff {req : PfcpSessionEstablishmentRequest} :
    (∀ ie ∈ pfcpEncodeRules req, ie.Sized)
      ↔ req.createPdr.count = 0 ∧ req.createFar.count = 0 ∧ req.createQer.count = 0
        ∧ req.createUrr.count = 0 := by
  have hfar : ∀ far, ¬ (pfcpEncodeCreateFar far).Sized := fun far =>
    not_sized_of_length (by decide) (length_pfcpEncodeCreateFar far)
  have hqer : ∀ qer, ¬ (pfcpEncodeCreateQer qer).Sized := fun qer =>
    not_sized_of_length (by decide) (length_pfcpEncodeCreateQer qer)
  have hurr : ∀ urr, ¬ (pfcpEncodeCreateUrr urr).Sized := fun urr =>
    not_sized_of_length (by decide) (length_pfcpEncodeCreateUrr urr)
  simp only [pfcpEncodeRules, List.forall_mem_append, List.forall_mem_singleton, forall_mem_pfcpIf,
    forall_sized_map_iff (by decide : 0 < 64) not_sized_pfcpEncodeCreatePdr,
    forall_sized_map_iff (by decide : 0 < 64) hfar, forall_sized_map_iff (by decide : 0 < 64) hqer,
    forall_sized_map_iff (by decide : 0 < 32) hurr, sized_apnDnn, sized_pfcpEncodeSNssai, implies_true,
    and_true, and_assoc]

theorem forall_sized_iff {payload : PfcpPayload} {ies : List Element}
    (h : pfcpEncodePayload payload = some ies) : (∀ ie ∈ ies, ie.Sized) ↔ payload.WellSized := by
  cases payload with
  | heartbeatRequest heartbeat | heartbeatResponse heartbeat =>
      obtain rfl := Option.some.inj h
      exact iff_of_true (List.forall_mem_singleton.mpr (sized_pfcpEncodeRecoveryTimeStamp _)) trivial
  | associationSetupRequest req =>
      obtain rfl := Option.some.inj h
      apply iff_of_true _ trivial
      simp only [List.forall_mem_append, List.forall_mem_cons]
      exact ⟨sized_pfcpEncodeNodeId _, sized_pfcpEncodeRecoveryTimeStamp _, sized_pfcpIe_iff.mpr rfl,
        List.forall_mem_nil _⟩
  | associationSetupResponse resp =>
      obtain rfl := Option.some.inj h
      apply iff_of_true _ trivial
      simp only [List.forall_mem_append, List.forall_mem_cons, forall_mem_pfcpIf]
      exact ⟨⟨sized_pfcpEncodeNodeId _, sized_pfcpEncodeCause _, sized_pfcpEncodeRecoveryTimeStamp _,
        List.forall_mem_nil _⟩, fun _ => ⟨sized_pfcpIe_iff.mpr rfl, List.forall_mem_nil _⟩⟩
  | sessionEstRequest req =>
      obtain rfl := Option.some.inj h
      simp only [List.forall_mem_append, List.forall_mem_cons, sized_pfcpEncodeFSeid_iff,
        forall_sized_pfcpEncodeRules_iff, iff_true_intro (sized_pfcpEncodeNodeId req.cpNodeId), true_and,
        PfcpPayload.WellSized]
  | sessionEstResponse resp =>
      obtain rfl := Option.some.inj h
      simp only [List.forall_mem_append, List.forall_mem_singleton, forall_mem_pfcpIf,
        forall_sized_map_iff (by decide : 0 < 64) not_sized_pfcpEncodeCreatedPdr,
        sized_pfcpEncodeFSeid_iff, iff_true_intro (sized_pfcpEncodeNodeId resp.upNodeId),
        sized_pfcpEncodeCause, true_and, PfcpPayload.WellSized]
  | sessionDelRequest req =>
      obtain rfl := Option.some.inj h
      exact iff_of_true (List.forall_mem_nil _) trivial
  | sessionDelResponse resp | sessionReportResponse resp =>
      obtain rfl := Option.some.inj h
      exact iff_of_true (List.forall_mem_singleton.mpr (sized_pfcpEncodeCause _)) trivial
  | sessionReportRequest req =>
      obtain rfl := Option.some.inj h
      simp only [List.forall_mem_cons, sized_pfcpEncodeFSeid_iff,
        forall_sized_map_iff (by decide : 0 < 32) not_sized_pfcpEncodeUsageReport, PfcpPayload.WellSized]
  | other messageType => cases h

theorem wellSized_of_none {payload : PfcpPayload} (h : pfcpEncodePayload payload = none) :
    payload.WellSized := by
  cases payload with
  | other messageType => trivial
  | _ => cases h

/-! ### The whole length -/

theorem length_pfcpEncodeNodeId_le (nodeId : PfcpNodeId) :
    (elementsBytes (pfcpEncodeNodeId nodeId)).length ≤ 9 := by
  rw [pfcpEncodeNodeId]
  split <;> simp [length_elementsBytes_cons]

theorem length_content_pfcpEncodeFSeid_le (fSeid : PfcpFSeid) :
    (pfcpEncodeFSeid fSeid).content.length ≤ 13 := by
  have hv4 := takenIf_le fSeid.v4Present 4
  simp [pfcpEncodeFSeid]
  omega

theorem length_content_pfcpEncodeFTeid_le (teid : PfcpFTeid) :
    (pfcpEncodeFTeid teid).content.length ≤ 9 := by
  have hv4 := takenIf_le teid.v4Present 4
  simp [pfcpEncodeFTeid]
  omega

theorem length_content_pfcpEncodePdi_le (pdi : PfcpPdi) : (pfcpEncodePdi pdi).content.length ≤ 27 := by
  have hteid := length_content_pfcpEncodeFTeid_le pdi.fTeid
  have htaken := takenIf_le pdi.fTeidPresent (4 + (pfcpEncodeFTeid pdi.fTeid).content.length)
  have hip := takenIf_le pdi.ueIpPresent 9
  simp [pfcpEncodePdi, length_elementsBytes_cons, elementsBytes_append]
  omega

theorem length_content_pfcpEncodeCreatePdr_le (pdr : PfcpPdr) :
    4 + (pfcpEncodeCreatePdr pdr).content.length ≤ 58 := by
  have hpdi := length_content_pfcpEncodePdi_le pdr.pdi
  have hfar := takenIf_le pdr.farIdPresent 8
  simp [pfcpEncodeCreatePdr, pfcpPatchedIe, length_elementsBytes_cons]
  omega

theorem length_content_pfcpEncodeCreateFar_le (far : PfcpFar) :
    4 + (pfcpEncodeCreateFar far).content.length ≤ 35 := by
  have hparams := takenIf_le far.forwardingParamsPresent (5 + takenIf far.outerHeaderCreationPresent 13)
  have houter := takenIf_le far.outerHeaderCreationPresent 13
  simp [pfcpEncodeCreateFar, length_elementsBytes_cons]
  omega

theorem length_content_pfcpEncodeCreateQer_le (qer : PfcpQer) :
    4 + (pfcpEncodeCreateQer qer).content.length ≤ 78 := by
  have hqfi := takenIf_le qer.qfiPresent 5
  have hcorrelation := takenIf_le qer.qerCorrelationIdPresent 8
  simp [pfcpEncodeCreateQer, length_elementsBytes_cons, elementsBytes_append]
  omega

theorem length_content_pfcpEncodeCreateUrr_le (urr : PfcpUrr) :
    4 + (pfcpEncodeCreateUrr urr).content.length ≤ 86 := by
  have hvolume := takenIf_le urr.volumeThresholdPresent 28
  have htime := takenIf_le urr.timeThresholdPresent 8
  have hvolumeQuota := takenIf_le urr.volumeQuotaPresent 12
  have htimeQuota := takenIf_le urr.timeQuotaPresent 8
  have hvalidity := takenIf_le urr.quotaValidityTimePresent 8
  simp [pfcpEncodeCreateUrr, length_elementsBytes_cons, elementsBytes_append]
  omega

theorem length_content_pfcpEncodeCreatedPdr_le (created : BitVec 16 × PfcpFTeid) :
    4 + (pfcpEncodeCreatedPdr created).content.length ≤ 19 := by
  have hteid := length_content_pfcpEncodeFTeid_le created.2
  simp [pfcpEncodeCreatedPdr, length_elementsBytes_cons]
  omega

theorem length_content_pfcpEncodeUsageReport_le (report : PfcpUsageReport) :
    4 + (pfcpEncodeUsageReport report).content.length ≤ 12 := by
  simp [pfcpEncodeUsageReport, length_elementsBytes_cons]

theorem length_pfcpEncodePayload_le {payload : PfcpPayload} {ies : List Element}
    (h : pfcpEncodePayload payload = some ies) : (elementsBytes ies).length ≤ 13990 := by
  cases payload with
  | heartbeatRequest heartbeat | heartbeatResponse heartbeat =>
      obtain rfl := Option.some.inj h
      simp [length_elementsBytes_cons, pfcpEncodeRecoveryTimeStamp]
  | associationSetupRequest req =>
      obtain rfl := Option.some.inj h
      have hnode := length_pfcpEncodeNodeId_le req.nodeId
      simp [length_elementsBytes_cons, elementsBytes_append, pfcpEncodeRecoveryTimeStamp]
      omega
  | associationSetupResponse resp =>
      obtain rfl := Option.some.inj h
      have hnode := length_pfcpEncodeNodeId_le resp.nodeId
      have hup := takenIf_le resp.upFunctionFeaturesPresent 5
      simp [length_elementsBytes_cons, elementsBytes_append, pfcpEncodeRecoveryTimeStamp, pfcpEncodeCause]
      omega
  | sessionEstRequest req =>
      obtain rfl := Option.some.inj h
      have hnode := length_pfcpEncodeNodeId_le req.cpNodeId
      have hseid := length_content_pfcpEncodeFSeid_le req.cpFSeid
      have hpdr := length_elementsBytes_map_le length_content_pfcpEncodeCreatePdr_le req.createPdr
      have hfar := length_elementsBytes_map_le length_content_pfcpEncodeCreateFar_le req.createFar
      have hqer := length_elementsBytes_map_le length_content_pfcpEncodeCreateQer_le req.createQer
      have hurr := length_elementsBytes_map_le length_content_pfcpEncodeCreateUrr_le req.createUrr
      have happ := takenIf_le req.apnDnn.count (4 + req.apnDnn.items.length)
      have hitems := req.apnDnn.length_items
      have hsnssai := takenIf_le req.snssaiPresent (4 + (pfcpEncodeSNssai req.sst req.sd).content.length)
      have hsd : (pfcpEncodeSNssai req.sst req.sd).content.length ≤ 4 := by
        rw [pfcpEncodeSNssai]
        split <;> simp
      simp [pfcpEncodeRules, length_elementsBytes_cons, elementsBytes_append]
      omega
  | sessionEstResponse resp =>
      obtain rfl := Option.some.inj h
      have hnode := length_pfcpEncodeNodeId_le resp.upNodeId
      have hseid := length_content_pfcpEncodeFSeid_le resp.upFSeid
      have htaken := takenIf_le resp.upFSeidPresent (4 + (pfcpEncodeFSeid resp.upFSeid).content.length)
      have hcreated := length_elementsBytes_map_le length_content_pfcpEncodeCreatedPdr_le resp.createdPdr
      simp [length_elementsBytes_cons, elementsBytes_append, pfcpEncodeCause]
      omega
  | sessionDelRequest req =>
      obtain rfl := Option.some.inj h
      simp
  | sessionDelResponse resp | sessionReportResponse resp =>
      obtain rfl := Option.some.inj h
      simp [length_elementsBytes_cons, pfcpEncodeCause]
  | sessionReportRequest req =>
      obtain rfl := Option.some.inj h
      have hseid := length_content_pfcpEncodeFSeid_le req.upFSeid
      have hreports := length_elementsBytes_map_le length_content_pfcpEncodeUsageReport_le req.usageReports
      simp [length_elementsBytes_cons]
      omega
  | other messageType => cases h

theorem wellFormed_iff_sized {msg : PfcpMessage} {ies : List Element}
    (hies : pfcpEncodePayload msg.payload = some ies) : msg.WellFormed ↔ ∀ ie ∈ ies, ie.Sized := by
  have hbody : ∀ memory : Memory, (pfcpEncodeHeader memory msg (elementsBytes ies).length
      ++ elementsBytes ies).drop (pfcpHeaderLen msg) = elementsBytes ies := fun memory =>
    List.drop_left' (length_pfcpEncodeHeader memory msg _)
  rw [← visits_elementsBytes_iff]
  constructor
  · intro h
    have hvisits := (h zeros ies _ hies (pfcpEncodeMessage_eq hies zeros)).1
    rwa [hbody] at hvisits
  · intro hvisits memory ies' bytes hies' hbytes
    obtain rfl := Option.some.inj (hies.symm.trans hies')
    obtain rfl := Option.some.inj ((pfcpEncodeMessage_eq hies memory).symm.trans hbytes)
    refine ⟨(hbody memory).symm ▸ hvisits, ?_⟩
    have hlen := length_pfcpEncodePayload_le hies
    have hheader : pfcpHeaderLen msg ≤ 16 := by
      rw [pfcpHeaderLen]
      split <;> decide
    rw [List.length_append, length_pfcpEncodeHeader, pfcpMaxMessageSize]
    omega

/-- **A message is well formed exactly if nothing is encoded whose length goes wrong.** -/
theorem pfcpMessage_wellFormed_iff (msg : PfcpMessage) : msg.WellFormed ↔ msg.payload.WellSized := by
  cases hies : pfcpEncodePayload msg.payload with
  | some ies => exact (wellFormed_iff_sized hies).trans (forall_sized_iff hies)
  | none =>
      have hnone : msg.WellFormed := fun _ ies _ hsome _ =>
        absurd (hies.symm.trans hsome) (Option.some_ne_none ies).symm
      exact iff_of_true hnone (wellSized_of_none hies)

/-- A request that offers an IPv4 address for the answers, and no rules. -/
def pfcpAddressRequest : PfcpMessage where
  sequenceNumber := 1
  version := 1
  mp := 0
  s := 1
  seid := 0
  payload := .sessionEstRequest
    { cpNodeId := ⟨0, 0x7F000001⟩
      cpFSeid := ⟨1, 0x7F000001, ⟨List.replicate 16 0, rfl⟩, 1, 0⟩
      createPdr := .empty
      createFar := .empty
      createQer := .empty
      createUrr := .empty
      apnDnn := .empty
      sst := 0
      sd := 0
      snssaiPresent := 0 }

theorem pfcpAddressRequest_not_wellFormed : ¬ pfcpAddressRequest.WellFormed := by
  intro h
  obtain ⟨hv4, -⟩ : pfcpAddressRequest.payload.WellSized :=
    (forall_sized_iff rfl).mp ((wellFormed_iff_sized rfl).mp h)
  cases hv4

end Uesim
