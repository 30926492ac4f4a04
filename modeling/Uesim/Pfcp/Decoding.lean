import Uesim.Pfcp.WellFormed

/-!
# What the PFCP decoder makes of information elements

An element of one of six types is stored, wherever it is met, and all others are passed. Behind a length that
is wrong the decoder goes on inside of an element. Rules that are counted too short disturb nothing if an
element begins where their counted part ends.
-/

namespace Uesim

open Bytes BitMemory FieldMemory Tlv

def pfcpStoredTypes : List (BitVec 16) :=
  [PfcpIeType.nodeId.value, PfcpIeType.fSeid.value, PfcpIeType.cause.value,
    PfcpIeType.recoveryTimeStamp.value, PfcpIeType.cpFunctionFeatures.value,
    PfcpIeType.upFunctionFeatures.value]

/-- A walk over the bytes meets no element that is stored. -/
def PfcpUndisturbing (bytes : List Byte) : Prop := ∀ ie ∈ walk bytes, ie.1 ∉ pfcpStoredTypes

/-! ### Elements in the decoder -/

@[simp]
theorem pfcpDecodeIes_nil (mem : Memory) : pfcpDecodeIes mem [] = mem := by
  rw [pfcpDecodeIes, walk_nil]
  rfl

theorem pfcpDecodeIes_element (mem : Memory) {type len : BitVec 16} {content : List Byte}
    (hlen : len.toNat = content.length) (rest : List Byte) :
    pfcpDecodeIes mem (header type len ++ (content ++ rest))
      = pfcpDecodeIes (pfcpDecodeIe mem (type, content)) rest := by
  rw [pfcpDecodeIes, walk_element hlen]
  rfl

theorem pfcpDecodeIes_pfcpIe (mem : Memory) {type : PfcpIeType} {len : BitVec 16} {content : List Byte}
    (hlen : len.toNat = content.length) (ies : List Element) :
    pfcpDecodeIes mem (elementsBytes (pfcpIe type len content :: ies))
      = pfcpDecodeIes (pfcpDecodeIe mem (type.value, content)) (elementsBytes ies) := by
  rw [elementsBytes_cons, content_pfcpIe]
  exact pfcpDecodeIes_element mem hlen _

theorem beValue_singleton (byte : Byte) : beValue 8 [byte] = byte := by
  simp [beValue, appendByte]

theorem pfcpDecodeIe_nodeId (mem : Memory) (ipv4 : Word) :
    pfcpDecodeIe mem (PfcpIeType.nodeId.value, 0 :: beBytes ipv4 4)
      = store (store mem 0 (0 : Byte) 1) 4 ipv4 4 :=
  congrArg (fun v => store (store mem 0 (0 : Byte) 1) 4 v 4) (beValue_beBytes (n := 4) ipv4 (by decide))

theorem pfcpDecodeIe_cause (mem : Memory) (byte : Byte) :
    pfcpDecodeIe mem (PfcpIeType.cause.value, [byte]) = store mem 280 (byte.setWidth 32) 4 :=
  congrArg (fun v : Byte => store mem 280 (v.setWidth 32) 4) (beValue_singleton byte)

theorem pfcpDecodeIe_recoveryTimeStamp (mem : Memory) (ts : BitVec 64) :
    pfcpDecodeIe mem (PfcpIeType.recoveryTimeStamp.value, beBytes ts 4)
      = store mem 0 ((ts.setWidth 32).setWidth 64) 8 := by
  have hts : beValue 32 (beBytes ts 4) = ts.setWidth 32 := by
    rw [← beBytes_setWidth ts (Nat.le_refl 32), beValue_beBytes _ (by decide)]
  exact congrArg (fun v : Word => store mem 0 (v.setWidth 64) 8) hts

theorem pfcpDecodeIe_cpFunctionFeatures (mem : Memory) (byte : Byte) :
    pfcpDecodeIe mem (PfcpIeType.cpFunctionFeatures.value, [byte]) = store mem 288 byte 1 :=
  congrArg (fun v : Byte => store mem 288 v 1) (beValue_singleton byte)

theorem pfcpDecodeIe_upFunctionFeatures (mem : Memory) (byte : Byte) :
    pfcpDecodeIe mem (PfcpIeType.upFunctionFeatures.value, [byte])
      = store (store mem 297 byte 1) 296 (1 : Byte) 1 :=
  congrArg (fun v : Byte => store (store mem 297 v 1) 296 (1 : Byte) 1) (beValue_singleton byte)

/-- Flags and SEID of a F-SEID, in the session establishment request. -/
def pfcpStoreFSeid (mem : Memory) (flags : Byte) (seid : BitVec 64) : Memory :=
  store (store (store mem 308 (flags &&& 1) 1) 309 (flags >>> 1 &&& 1) 1) 280 seid 8

theorem pfcpDecodeIe_fSeid (mem : Memory) (flags : Byte) (seid : BitVec 64) (tail : List Byte) :
    pfcpDecodeIe mem (PfcpIeType.fSeid.value, flags :: (beBytes seid 8 ++ tail))
      = if flags &&& 1 ≠ 0 ∧ 4 ≤ tail.length then
          store (pfcpStoreFSeid mem flags seid) 288 (beValue 32 (tail.take 4)) 4
        else pfcpStoreFSeid mem flags seid := by
  have hflags : beValue 8 ((flags :: (beBytes seid 8 ++ tail)).take 1) = flags := beValue_singleton flags
  have hseid : beValue 64 (((flags :: (beBytes seid 8 ++ tail)).drop 1).take 8) = seid :=
    beValue_beBytes (n := 8) seid (by decide)
  have htail : (flags :: (beBytes seid 8 ++ tail)).drop 9 = tail := rfl
  have hlen : 13 ≤ (flags :: (beBytes seid 8 ++ tail)).length ↔ 4 ≤ tail.length := by
    simp
    omega
  change pfcpDecodeFSeid mem 280 (flags :: (beBytes seid 8 ++ tail)) = _
  rw [pfcpDecodeFSeid, if_neg (by simp), hflags]
  dsimp only
  rw [hseid, htail]
  simp only [hlen]
  rfl

theorem pfcpDecodeIe_of_notMem (mem : Memory) {ie : BitVec 16 × List Byte} (hie : ie.1 ∉ pfcpStoredTypes) :
    pfcpDecodeIe mem ie = mem := by
  simp only [pfcpStoredTypes, List.mem_cons, List.not_mem_nil, or_false, not_or] at hie
  obtain ⟨hnode, hseid, hcause, hts, hcp, hup⟩ := hie
  rw [pfcpDecodeIe, if_neg hnode, if_neg hseid, if_neg hcause, if_neg hts, if_neg hcp, if_neg hup]

theorem PfcpUndisturbing.decode {bytes : List Byte} (h : PfcpUndisturbing bytes) (mem : Memory) :
    pfcpDecodeIes mem bytes = mem := by
  rw [PfcpUndisturbing] at h
  rw [pfcpDecodeIes]
  generalize walk bytes = ies at h
  induction ies with
  | nil => rfl
  | cons ie ies ih =>
      obtain ⟨hfirst, hrest⟩ := List.forall_mem_cons.mp h
      rw [List.foldl_cons, pfcpDecodeIe_of_notMem mem hfirst, ih hrest]

/-- What a node id leaves in the cleared union. Nothing is written for other types. -/
def PfcpNodeId.stored (nodeId : PfcpNodeId) : Memory :=
  if nodeId.nodeIdType = 0 then store (store zeros 0 (0 : Byte) 1) 4 nodeId.ipv4Address 4 else zeros

theorem pfcpDecodeIes_nodeId (nodeId : PfcpNodeId) (ies : List Element) :
    pfcpDecodeIes zeros (elementsBytes (pfcpEncodeNodeId nodeId ++ ies))
      = pfcpDecodeIes nodeId.stored (elementsBytes ies) := by
  rw [pfcpEncodeNodeId, PfcpNodeId.stored]
  by_cases htype : nodeId.nodeIdType = 0
  · rw [if_pos htype, if_pos htype, List.singleton_append, pfcpDecodeIes_pfcpIe _ rfl, pfcpDecodeIe_nodeId]
  · rw [if_neg htype, if_neg htype, List.nil_append]

theorem pfcpDecodeIes_cause (mem : Memory) (cause : Word) (ies : List Element) :
    pfcpDecodeIes mem (elementsBytes (pfcpEncodeCause cause :: ies))
      = pfcpDecodeIes (store mem 280 ((cause.setWidth 8).setWidth 32) 4) (elementsBytes ies) := by
  rw [pfcpEncodeCause, pfcpDecodeIes_pfcpIe _ rfl, pfcpDecodeIe_cause]

theorem pfcpDecodeIes_recoveryTimeStamp (mem : Memory) (ts : BitVec 64) (ies : List Element) :
    pfcpDecodeIes mem (elementsBytes (pfcpEncodeRecoveryTimeStamp ts :: ies))
      = pfcpDecodeIes (store mem 0 ((ts.setWidth 32).setWidth 64) 8) (elementsBytes ies) := by
  rw [pfcpEncodeRecoveryTimeStamp, pfcpDecodeIes_pfcpIe _ rfl, pfcpDecodeIe_recoveryTimeStamp]

theorem pfcpDecodeIes_upFunctionFeatures (mem : Memory) (present features : Byte) :
    pfcpDecodeIes mem (elementsBytes (pfcpIf present [pfcpIe .upFunctionFeatures 1 [features]]))
      = if present = 0 then mem else store (store mem 297 features 1) 296 (1 : Byte) 1 := by
  by_cases hpresent : present = 0
  · rw [pfcpIf_of_eq hpresent, if_pos hpresent, elementsBytes_nil, pfcpDecodeIes_nil]
  · rw [pfcpIf_of_ne hpresent, if_neg hpresent, pfcpDecodeIes_pfcpIe _ rfl, pfcpDecodeIe_upFunctionFeatures,
      elementsBytes_nil, pfcpDecodeIes_nil]

def PfcpFSeid.flags (fSeid : PfcpFSeid) : Byte := fSeid.v4Present ||| fSeid.v6Present <<< 1

theorem pfcpDecodeIes_fSeid (mem : Memory) {fSeid : PfcpFSeid} (hv4 : fSeid.v4Present = 0)
    (ies : List Element) :
    pfcpDecodeIes mem (elementsBytes (pfcpEncodeFSeid fSeid :: ies))
      = pfcpDecodeIes (pfcpStoreFSeid mem fSeid.flags fSeid.seid) (elementsBytes ies) := by
  have hlen : pfcpFSeidLen fSeid = 9 := if_pos hv4
  have hdecode := pfcpDecodeIe_fSeid mem fSeid.flags fSeid.seid []
  rw [if_neg (by simp), List.append_nil] at hdecode
  rw [pfcpEncodeFSeid, pfcpIf_of_eq hv4, List.append_nil, hlen, pfcpDecodeIes_pfcpIe _ rfl, ← hdecode]
  rfl

theorem pfcpDecodeIes_fSeid_of_lt (mem : Memory) {fSeid : PfcpFSeid} (hv4 : fSeid.v4Present ≠ 0)
    {ies : List Element} (hshort : (elementsBytes ies).length < 3324) :
    pfcpDecodeIes mem (elementsBytes (pfcpEncodeFSeid fSeid :: ies)) = mem := by
  have hlen := length_content_pfcpEncodeFSeid_le fSeid
  have hannounced : (pfcpEncodeFSeid fSeid).announced = 3337 := if_neg hv4
  rw [pfcpDecodeIes, elementsBytes_cons, hannounced, walk_of_length_lt]
  · rfl
  · rw [List.length_append]
    change _ < 3337
    omega

theorem pfcpDecodeIes_fSeid_of_le (mem : Memory) {fSeid : PfcpFSeid} (hv4 : fSeid.v4Present ≠ 0)
    {ies : List Element} (hlong : 3324 ≤ (elementsBytes ies).length) :
    pfcpDecodeIes mem (elementsBytes (pfcpEncodeFSeid fSeid :: ies))
      = pfcpDecodeIes
        (if fSeid.flags &&& 1 ≠ 0 then
          store (pfcpStoreFSeid mem fSeid.flags fSeid.seid) 288 fSeid.ipv4Address 4
        else pfcpStoreFSeid mem fSeid.flags fSeid.seid)
        ((elementsBytes ies).drop 3324) := by
  have hlen : pfcpFSeidLen fSeid = 3337 := if_neg hv4
  have hipv4 : beValue 32 (beBytes fSeid.ipv4Address 4) = fSeid.ipv4Address := beValue_beBytes _ (by decide)
  have hdecode := pfcpDecodeIe_fSeid mem fSeid.flags fSeid.seid
    (beBytes fSeid.ipv4Address 4 ++ (elementsBytes ies).take 3324)
  have htake : (beBytes fSeid.ipv4Address 4 ++ (elementsBytes ies).take 3324).take 4
      = beBytes fSeid.ipv4Address 4 := List.take_left' rfl
  simp only [htake, hipv4, List.length_append, length_beBytes, Nat.le_add_right, and_true] at hdecode
  have hbytes : elementsBytes (pfcpEncodeFSeid fSeid :: ies)
      = header PfcpIeType.fSeid.value 3337
        ++ ((fSeid.flags :: (beBytes fSeid.seid 8
          ++ (beBytes fSeid.ipv4Address 4 ++ (elementsBytes ies).take 3324)))
          ++ (elementsBytes ies).drop 3324) := by
    rw [elementsBytes_cons, pfcpEncodeFSeid, content_pfcpIe, pfcpIf_of_ne hv4, hlen]
    simp only [List.cons_append, List.append_assoc, List.take_append_drop]
    rfl
  rw [← hdecode, hbytes, pfcpDecodeIes_element]
  have htaken : ((elementsBytes ies).take 3324).length = 3324 := List.length_take_of_le hlong
  rw [List.length_cons, List.length_append, List.length_append, length_beBytes, length_beBytes, htaken]
  rfl

/-! ### Rules that are counted too short -/

/-- What a FAR does not count begins at an element. -/
def PfcpFar.InStep (far : PfcpFar) : Prop :=
  far.forwardingParamsPresent = 0 ∨ far.outerHeaderCreationPresent = 0

/-- What a QER does not count begins at an element. -/
def PfcpQer.InStep (qer : PfcpQer) : Prop := qer.qfiPresent ≠ 0 ∧ qer.qerCorrelationIdPresent ≠ 0

/-- What a URR does not count begins at an element. -/
def PfcpUrr.InStep (urr : PfcpUrr) : Prop :=
  urr.volumeThresholdPresent = 0 ∧ urr.timeThresholdPresent = 0 ∧ urr.volumeQuotaPresent = 0
    ∧ urr.timeQuotaPresent = 0 ∧ urr.quotaValidityTimePresent = 0

/-- Whoever walks over these bytes goes on with what follows and has met no element that is stored. -/
def PfcpPassed (bytes : List Byte) : Prop :=
  ∀ rest, PfcpUndisturbing rest → PfcpUndisturbing (bytes ++ rest)

theorem undisturbing_nil : PfcpUndisturbing [] := by
  rw [PfcpUndisturbing, walk_nil]
  exact List.forall_mem_nil _

theorem PfcpPassed.undisturbing {bytes : List Byte} (h : PfcpPassed bytes) : PfcpUndisturbing bytes := by
  rw [← List.append_nil bytes]
  exact h [] undisturbing_nil

theorem passed_nil : PfcpPassed [] := fun _ hrest => hrest

theorem PfcpPassed.append {first second : List Byte} (hfirst : PfcpPassed first)
    (hsecond : PfcpPassed second) : PfcpPassed (first ++ second) := by
  intro rest hrest
  rw [List.append_assoc]
  exact hfirst _ (hsecond _ hrest)

theorem passed_element {type len : BitVec 16} {content : List Byte} (hlen : len.toNat = content.length)
    (htype : type ∉ pfcpStoredTypes) : PfcpPassed (header type len ++ content) := by
  intro rest hrest
  rw [List.append_assoc, PfcpUndisturbing, walk_element hlen]
  exact List.forall_mem_cons.mpr ⟨htype, hrest⟩

theorem passed_pfcpIe {type : PfcpIeType} {len : BitVec 16} {content : List Byte}
    (hlen : len.toNat = content.length) (htype : type.value ∉ pfcpStoredTypes) :
    PfcpPassed (elementsBytes [pfcpIe type len content]) := by
  rw [elementsBytes_cons, elementsBytes_nil, List.append_nil, content_pfcpIe]
  exact passed_element hlen htype

theorem passed_grouped {type : PfcpIeType} {len : BitVec 16} {announced others : List Element}
    (hlen : len.toNat = (elementsBytes announced).length) (htype : type.value ∉ pfcpStoredTypes)
    (hothers : PfcpPassed (elementsBytes others)) :
    PfcpPassed (elementsBytes [pfcpGroupedIe type len (announced ++ others)]) := by
  rw [elementsBytes_cons, elementsBytes_nil, List.append_nil, content_pfcpGroupedIe, elementsBytes_append,
    ← List.append_assoc]
  exact (passed_element hlen htype).append hothers

theorem passed_elements {ies : List Element} (h : ∀ ie ∈ ies, PfcpPassed (elementsBytes [ie])) :
    PfcpPassed (elementsBytes ies) := by
  induction ies with
  | nil => exact passed_nil
  | cons ie ies ih =>
      obtain ⟨hfirst, hrest⟩ := List.forall_mem_cons.mp h
      rw [← List.singleton_append, elementsBytes_append]
      exact hfirst.append (ih hrest)

theorem passed_pfcpIf {ies : List Element} (present : Byte) (h : PfcpPassed (elementsBytes ies)) :
    PfcpPassed (elementsBytes (pfcpIf present ies)) := by
  by_cases hpresent : present = 0
  · rw [pfcpIf_of_eq hpresent]
    exact passed_nil
  · rwa [pfcpIf_of_ne hpresent]

theorem passed_pfcpEncodeCreatePdr (pdr : PfcpPdr) :
    PfcpPassed (elementsBytes [pfcpEncodeCreatePdr pdr]) := by
  have hmost := length_content_pfcpEncodeCreatePdr_le pdr
  rw [elementsBytes_cons, elementsBytes_nil, List.append_nil]
  have htype : PfcpIeType.createPdr.value ∉ pfcpStoredTypes := by decide
  refine passed_element ?_ htype
  rw [pfcpEncodeCreatePdr, pfcpPatchedIe, announced_pfcpGroupedIe, content_pfcpGroupedIe,
    BitVec.toNat_ofNat]
  rw [pfcpEncodeCreatePdr, pfcpPatchedIe, content_pfcpGroupedIe] at hmost
  omega

theorem passed_pfcpEncodeCreateFar {far : PfcpFar} (hfar : far.InStep) :
    PfcpPassed (elementsBytes [pfcpEncodeCreateFar far]) := by
  rw [pfcpEncodeCreateFar]
  by_cases hparams : far.forwardingParamsPresent = 0
  · rw [pfcpIf_of_eq hparams, pfcpLenIf_of_eq hparams]
    change PfcpPassed (elementsBytes [pfcpGroupedIe .createFar 8
      ([pfcpIe .farId 4 _] ++ [pfcpIe .gateStatus 1 _])])
    exact passed_grouped rfl (by decide) (passed_pfcpIe rfl (by decide))
  · have houter := hfar.resolve_left hparams
    rw [pfcpIf_of_ne hparams, pfcpLenIf_of_ne hparams, pfcpIf_of_eq houter, pfcpLenIf_of_eq houter]
    exact passed_grouped rfl (by decide) (passed_pfcpIe rfl (by decide))

theorem passed_pfcpEncodeCreateQer {qer : PfcpQer} (hqer : qer.InStep) :
    PfcpPassed (elementsBytes [pfcpEncodeCreateQer qer]) := by
  rw [pfcpEncodeCreateQer, pfcpIf_of_ne hqer.1, pfcpIf_of_ne hqer.2, pfcpLenIf_of_ne hqer.1,
    pfcpLenIf_of_ne hqer.2, List.append_assoc]
  refine passed_grouped rfl (by decide) ?_
  rw [elementsBytes_append]
  exact (passed_pfcpIe rfl (by decide)).append (passed_pfcpIe rfl (by decide))

theorem passed_pfcpEncodeCreateUrr {urr : PfcpUrr} (hurr : urr.InStep) :
    PfcpPassed (elementsBytes [pfcpEncodeCreateUrr urr]) := by
  obtain ⟨hvolume, htime, hvolumeQuota, htimeQuota, hvalidity⟩ := hurr
  rw [pfcpEncodeCreateUrr, pfcpIf_of_eq hvolume, pfcpIf_of_eq htime, pfcpIf_of_eq hvolumeQuota,
    pfcpIf_of_eq htimeQuota, pfcpIf_of_eq hvalidity, pfcpLenIf_of_eq hvolume, pfcpLenIf_of_eq htime,
    pfcpLenIf_of_eq hvolumeQuota, pfcpLenIf_of_eq htimeQuota, pfcpLenIf_of_eq hvalidity]
  change PfcpPassed (elementsBytes [pfcpGroupedIe .createUrr 13
    ([pfcpIe .urrId 4 _, pfcpIe .measurementMethod 1 _] ++ [pfcpIe .reportingTriggers 1 _])])
  refine passed_grouped rfl (by decide) ?_
  exact passed_pfcpIe rfl (by decide)

theorem passed_pfcpEncodeRules {req : PfcpSessionEstablishmentRequest}
    (hfar : ∀ far ∈ req.createFar.items, far.InStep) (hqer : ∀ qer ∈ req.createQer.items, qer.InStep)
    (hurr : ∀ urr ∈ req.createUrr.items, urr.InStep) :
    PfcpPassed (elementsBytes (pfcpEncodeRules req)) := by
  have hsnssai : PfcpPassed (elementsBytes [pfcpEncodeSNssai req.sst req.sd]) := by
    rw [pfcpEncodeSNssai]
    split
    · exact passed_pfcpIe rfl (by decide)
    · exact passed_pfcpIe rfl (by decide)
  have hapn : PfcpPassed (elementsBytes
      [pfcpIe .apnDnn (req.apnDnn.count.setWidth 16) req.apnDnn.items]) :=
    passed_pfcpIe (sized_pfcpIe_iff.mp (sized_apnDnn req.apnDnn)) (by decide)
  simp only [pfcpEncodeRules, elementsBytes_append]
  refine ((((PfcpPassed.append ?_ ?_).append ?_).append ?_).append (passed_pfcpIf _ hapn)).append
    (passed_pfcpIf _ hsnssai)
  · exact passed_elements (List.forall_mem_map.mpr fun pdr _ => passed_pfcpEncodeCreatePdr pdr)
  · exact passed_elements (List.forall_mem_map.mpr fun far h => passed_pfcpEncodeCreateFar (hfar far h))
  · exact passed_elements (List.forall_mem_map.mpr fun qer h => passed_pfcpEncodeCreateQer (hqer qer h))
  · exact passed_elements (List.forall_mem_map.mpr fun urr h => passed_pfcpEncodeCreateUrr (hurr urr h))

end Uesim
