import Uesim.Pfcp.Decoding

/-!
# PFCP messages that come back

The decoder stores each element where one fixed member of the union has it, and reads a sequence number from
where the encoder writes it without its last byte. A message comes back if its own member has the same fields
in the same places, or zeros.
-/

namespace Uesim

open Bytes BitMemory FieldMemory Tlv

/-! ### Members of the union -/

def PfcpNodeId.At (mem : Memory) (offset : Nat) (nodeId : PfcpNodeId) : Prop :=
  load 8 mem offset 1 = nodeId.nodeIdType ∧ load 32 mem (offset + 4) 4 = nodeId.ipv4Address

/-- The memory shows a F-SEID. An address is compared only if its flag says that it is there. -/
def PfcpFSeid.At (mem : Memory) (offset : Nat) (fSeid : PfcpFSeid) : Prop :=
  load 64 mem offset 8 = fSeid.seid ∧ load 8 mem (offset + 28) 1 = fSeid.v4Present
    ∧ load 8 mem (offset + 29) 1 = fSeid.v6Present
    ∧ (fSeid.v4Present ≠ 0 → load 32 mem (offset + 8) 4 = fSeid.ipv4Address)
    ∧ (fSeid.v6Present ≠ 0 → bytesAt mem (offset + 12) 16 = fSeid.ipv6Address.1)

/-- The memory shows the payload in the member of its type. Of session establishments and report requests only
node id, F-SEID and cause are compared. -/
def PfcpPayload.At (mem : Memory) : PfcpPayload → Prop
  | heartbeatRequest heartbeat | heartbeatResponse heartbeat =>
      load 64 mem 0 8 = heartbeat.recoveryTimeStamp
  | associationSetupRequest req =>
      req.nodeId.At mem 0 ∧ load 64 mem 280 8 = req.recoveryTimeStamp
        ∧ load 8 mem 288 1 = req.cpFunctionFeatures ∧ load 8 mem 289 1 = req.upFunctionFeaturesPresent
        ∧ (req.upFunctionFeaturesPresent ≠ 0 → load 8 mem 290 1 = req.upFunctionFeatures)
  | associationSetupResponse resp =>
      resp.nodeId.At mem 0 ∧ load 32 mem 280 4 = resp.cause ∧ load 64 mem 288 8 = resp.recoveryTimeStamp
        ∧ load 8 mem 296 1 = resp.upFunctionFeaturesPresent
        ∧ (resp.upFunctionFeaturesPresent ≠ 0 → load 8 mem 297 1 = resp.upFunctionFeatures)
        ∧ load 8 mem 298 1 = resp.cpFunctionFeatures
  | sessionEstRequest req => req.cpNodeId.At mem 0 ∧ req.cpFSeid.At mem 280
  | sessionEstResponse resp =>
      resp.upNodeId.At mem 0 ∧ load 32 mem 280 4 = resp.cause ∧ load 8 mem 284 1 = resp.upFSeidPresent
        ∧ (resp.upFSeidPresent ≠ 0 → resp.upFSeid.At mem 288)
  | sessionDelRequest req => req.cpFSeid.At mem 0
  | sessionDelResponse resp => load 32 mem 0 4 = resp.cause ∧ load 8 mem 4 1 = resp.numUsageReports
  | sessionReportRequest req => req.upFSeid.At mem 0
  | sessionReportResponse resp => load 32 mem 0 4 = resp.cause
  | other _ => True

structure PfcpMessage.SameAs (msg : PfcpMessage) (decoded : PfcpDecoded) : Prop where
  messageType : decoded.messageType = msg.payload.messageType
  sequenceNumber : decoded.sequenceNumber = msg.sequenceNumber
  version : decoded.version = msg.version
  mp : decoded.mp = msg.mp
  s : decoded.s = msg.s
  seid : decoded.seid = msg.seid
  payload : msg.payload.At decoded.payload

/-- What `pfcp_encode_message` produces is decoded to the same message. -/
def PfcpMessage.ComesBack (memory : Memory) (msg : PfcpMessage) : Prop :=
  ∃ (bytes : List Byte) (decoded : PfcpDecoded), pfcpEncodeMessage (some memory) msg = some bytes
    ∧ pfcpDecodeMessage bytes = some decoded ∧ msg.SameAs decoded

/-! ### The header -/

/-- The flags fit their bits, a SEID is there only if it is sent, and the sequence number is zero. -/
def PfcpMessage.HeaderReturns (msg : PfcpMessage) : Prop :=
  msg.version < 8 ∧ msg.mp < 2 ∧ msg.s < 2 ∧ (msg.s = 0 → msg.seid = 0) ∧ msg.sequenceNumber = 0

/-- Behind the node id, the cause and the F-SEID the decoder finds nothing to store. A F-SEID with an IPv4
address leaves it the bytes behind 3337, or none. -/
def PfcpPayload.Undisturbed : PfcpPayload → Prop
  | sessionEstRequest req =>
      PfcpUndisturbing
        (if req.cpFSeid.v4Present = 0 then elementsBytes (pfcpEncodeRules req)
        else (elementsBytes (pfcpEncodeRules req)).drop 3324)
  | sessionEstResponse resp =>
      (resp.upFSeidPresent ≠ 0 ∧ resp.upFSeid.v4Present ≠ 0)
        ∨ PfcpUndisturbing (elementsBytes (resp.createdPdr.items.map pfcpEncodeCreatedPdr))
  | sessionReportRequest req =>
      req.upFSeid.v4Present ≠ 0
        ∨ PfcpUndisturbing (elementsBytes (req.usageReports.items.map pfcpEncodeUsageReport))
  | _ => True

/-- Nothing is there that the decoder would have to store elsewhere. -/
def PfcpFSeid.Absent (fSeid : PfcpFSeid) : Prop :=
  fSeid.seid = 0 ∧ fSeid.v4Present = 0 ∧ fSeid.v6Present = 0

def PfcpPayload.Returns : PfcpPayload → Prop
  | heartbeatRequest heartbeat | heartbeatResponse heartbeat => heartbeat.recoveryTimeStamp < 2 ^ 32
  | associationSetupRequest req =>
      req.nodeId.nodeIdType = 0 ∧ req.nodeId.ipv4Address = 0 ∧ req.recoveryTimeStamp = 0
        ∧ req.upFunctionFeaturesPresent = 0
  | associationSetupResponse resp =>
      resp.nodeId.nodeIdType = 0 ∧ resp.nodeId.ipv4Address = 0 ∧ resp.recoveryTimeStamp = 0
        ∧ resp.cause < 256 ∧ resp.upFunctionFeaturesPresent < 2 ∧ resp.cpFunctionFeatures = 0
  | sessionEstRequest req =>
      req.cpNodeId.nodeIdType = 0
        ∧ (req.cpFSeid.v4Present = 0
          ∨ req.cpFSeid.v4Present = 1 ∧ 3324 ≤ (elementsBytes (pfcpEncodeRules req)).length)
        ∧ req.cpFSeid.v6Present < 2
        ∧ (req.cpFSeid.v6Present ≠ 0 → req.cpFSeid.ipv6Address.1 = List.replicate 16 0)
  | sessionEstResponse resp =>
      resp.upNodeId.nodeIdType = 0 ∧ resp.cause < 256 ∧ resp.upFSeidPresent = 0
  | sessionDelRequest req => req.cpFSeid.Absent
  | sessionDelResponse resp => resp.cause = 0 ∧ resp.numUsageReports = 0
  | sessionReportRequest req => req.upFSeid.Absent
  | sessionReportResponse resp => resp.cause = 0
  | other _ => False

theorem pfcpFlags_decode {version mp s : Byte} (hversion : version < 8) (hmp : mp < 2) (hs : s < 2) :
    (version <<< 5 ||| mp <<< 4 ||| s <<< 3) >>> 5 &&& 7 = version
      ∧ (version <<< 5 ||| mp <<< 4 ||| s <<< 3) >>> 4 &&& 1 = mp
      ∧ (version <<< 5 ||| mp <<< 4 ||| s <<< 3) >>> 3 &&& 1 = s := by
  have hall : ∀ (version : Fin 8) (mp s : Fin 2),
      (BitVec.ofNat 8 version <<< 5 ||| BitVec.ofNat 8 mp <<< 4 ||| BitVec.ofNat 8 s <<< 3) >>> 5 &&& 7
          = BitVec.ofNat 8 version
        ∧ (BitVec.ofNat 8 version <<< 5 ||| BitVec.ofNat 8 mp <<< 4 ||| BitVec.ofNat 8 s <<< 3) >>> 4 &&& 1
          = BitVec.ofNat 8 mp
        ∧ (BitVec.ofNat 8 version <<< 5 ||| BitVec.ofNat 8 mp <<< 4 ||| BitVec.ofNat 8 s <<< 3) >>> 3 &&& 1
          = BitVec.ofNat 8 s := by decide
  simpa using hall ⟨version.toNat, hversion⟩ ⟨mp.toNat, hmp⟩ ⟨s.toNat, hs⟩

theorem beValue_sequenceNumber (v : Word) :
    beValue 32 [(v >>> 24).setWidth 8, (v >>> 16).setWidth 8, (v >>> 8).setWidth 8] = v >>> 8 := by
  have hzero : v >>> 8 >>> (8 * 3) = 0 := by
    rw [← BitVec.shiftRight_add]
    exact BitVec.ushiftRight_eq_zero (by decide)
  have hbytes := foldl_beBytes (v >>> 8) 3
  rw [hzero] at hbytes
  simpa [beBytes, beValue, ← BitVec.shiftRight_add] using hbytes

theorem sequenceNumber_eq_iff {v : Word} : v >>> 8 = v ↔ v = 0 := by
  constructor
  · intro h
    have hnat := congrArg BitVec.toNat h
    rw [BitVec.toNat_ushiftRight, Nat.shiftRight_eq_div_pow] at hnat
    apply BitVec.eq_of_toNat_eq
    change v.toNat = 0
    omega
  · rintro rfl
    rfl

/-- Where a decoder that knows the length of the header finds the sequence number and the SEID. -/
theorem pfcpEncodeHeader_parts (memory : Memory) (msg : PfcpMessage) (body : List Byte) :
    ((pfcpEncodeHeader memory msg body.length ++ body).drop (pfcpHeaderLen msg - 4)).take 3
        = [(msg.sequenceNumber >>> 24).setWidth 8, (msg.sequenceNumber >>> 16).setWidth 8,
          (msg.sequenceNumber >>> 8).setWidth 8]
      ∧ (msg.s ≠ 0 → ((pfcpEncodeHeader memory msg body.length ++ body).drop 4).take 8
        = beBytes msg.seid 8) := by
  rw [pfcpHeaderLen, pfcpEncodeHeader]
  by_cases hs : msg.s = 0
  · rw [if_pos hs, pfcpIf_of_eq hs]
    exact ⟨rfl, fun hne => absurd hs hne⟩
  · rw [if_neg hs, pfcpIf_of_ne hs]
    exact ⟨rfl, fun _ => rfl⟩

theorem pfcpDecodeMessage_encoded (memory : Memory) {msg : PfcpMessage} (hversion : msg.version < 8)
    (hmp : msg.mp < 2) (hs : msg.s < 2) (body : List Byte) :
    pfcpDecodeMessage (pfcpEncodeHeader memory msg body.length ++ body)
      = some
        { messageType := (msg.payload.messageType.setWidth 8).setWidth 32
          sequenceNumber := msg.sequenceNumber >>> 8
          messageLength := BitVec.ofNat 16 body.length
          version := msg.version
          mp := msg.mp
          s := msg.s
          seid := if msg.s = 0 then 0 else msg.seid
          payload := pfcpDecodeIes zeros body } := by
  obtain ⟨hversion', hmp', hs'⟩ := pfcpFlags_decode hversion hmp hs
  have hlength := length_pfcpEncodeHeader memory msg body.length
  have hlen : beValue 16 (beBytes (BitVec.ofNat 16 body.length) 2) = BitVec.ofNat 16 body.length :=
    beValue_beBytes _ (by decide)
  have hseid : beValue 64 (beBytes msg.seid 8) = msg.seid := beValue_beBytes _ (by decide)
  obtain ⟨hsequence, hseidBytes⟩ := pfcpEncodeHeader_parts memory msg body
  have hflags : (pfcpEncodeHeader memory msg body.length ++ body).getD 0 0
      = msg.version <<< 5 ||| msg.mp <<< 4 ||| msg.s <<< 3 := rfl
  have hheader : pfcpDecodeHeaderLen (pfcpEncodeHeader memory msg body.length ++ body)
      = pfcpHeaderLen msg := by
    rw [pfcpDecodeHeaderLen, hflags, hs', pfcpHeaderLen]
  have hmin : 8 ≤ pfcpHeaderLen msg := by
    rw [pfcpHeaderLen]
    split <;> decide
  have hbody : (pfcpEncodeHeader memory msg body.length ++ body).drop (pfcpHeaderLen msg) = body :=
    List.drop_left' hlength
  rw [pfcpDecodeMessage, if_neg, pfcpDecodeFields, hheader, hbody, hflags, hversion', hmp', hs', hsequence,
    beValue_sequenceNumber]
  · congr 2
    by_cases hs : msg.s = 0
    · rw [if_pos hs, if_pos hs]
    · rw [if_neg hs, if_neg hs, hseidBytes hs, hseid]
  · rw [List.length_append, hlength, hheader]
    omega

theorem pfcpDecodeMessage_flags_lt {buffer : List Byte} {decoded : PfcpDecoded}
    (h : pfcpDecodeMessage buffer = some decoded) :
    decoded.version < 8 ∧ decoded.mp < 2 ∧ decoded.s < 2 := by
  have hseven : ∀ flags : Byte, flags &&& 7 < 8 := fun flags =>
    Nat.lt_succ_of_le (Nat.and_le_right (n := flags.toNat) (m := 7))
  have hone : ∀ flags : Byte, flags &&& 1 < 2 := fun flags =>
    Nat.lt_succ_of_le (Nat.and_le_right (n := flags.toNat) (m := 1))
  rw [pfcpDecodeMessage] at h
  split at h
  · cases h
  · obtain rfl := Option.some.inj h
    exact ⟨hseven _, hone _, hone _⟩

theorem messageType_eq {payload : PfcpPayload} {ies : List Element}
    (hies : pfcpEncodePayload payload = some ies) :
    (payload.messageType.setWidth 8).setWidth 32 = payload.messageType := by
  cases payload with
  | other messageType => cases hies
  | _ => rfl

theorem pfcpComesBack_iff {msg : PfcpMessage} {ies : List Element}
    (hies : pfcpEncodePayload msg.payload = some ies) (memory : Memory) :
    msg.ComesBack memory
      ↔ msg.HeaderReturns ∧ msg.payload.At (pfcpDecodeIes zeros (elementsBytes ies)) := by
  have hbytes := pfcpEncodeMessage_eq hies memory
  constructor
  · rintro ⟨bytes, decoded, hencoded, hdecoded, hsame⟩
    obtain rfl := Option.some.inj (hbytes.symm.trans hencoded)
    obtain ⟨hversion, hmp, hs⟩ := pfcpDecodeMessage_flags_lt hdecoded
    rw [hsame.version] at hversion
    rw [hsame.mp] at hmp
    rw [hsame.s] at hs
    rw [pfcpDecodeMessage_encoded memory hversion hmp hs] at hdecoded
    obtain rfl := Option.some.inj hdecoded
    have hseid : msg.s = 0 → msg.seid = 0 := fun hzero => by
      have hdecodedSeid := hsame.seid
      rw [if_pos hzero] at hdecodedSeid
      exact hdecodedSeid.symm
    exact ⟨⟨hversion, hmp, hs, hseid, sequenceNumber_eq_iff.mp hsame.sequenceNumber⟩, hsame.payload⟩
  · rintro ⟨⟨hversion, hmp, hs, hseid, hsequence⟩, hpayload⟩
    refine ⟨_, _, hbytes, pfcpDecodeMessage_encoded memory hversion hmp hs _, ?_⟩
    exact
      { messageType := messageType_eq hies
        sequenceNumber := sequenceNumber_eq_iff.mpr hsequence
        version := rfl
        mp := rfl
        s := rfl
        seid := by
          by_cases hzero : msg.s = 0
          · rw [if_pos hzero, hseid hzero]
          · rw [if_neg hzero]
        payload := hpayload }

/-! ### What the members show -/

theorem setWidth_eq_iff_lt {w n : Nat} (hn : n ≤ w) {v : BitVec w} :
    (v.setWidth n).setWidth w = v ↔ v.toNat < 2 ^ n := by
  rw [← BitVec.toNat_inj, BitVec.toNat_setWidth, BitVec.toNat_setWidth]
  have hlt : v.toNat % 2 ^ n < 2 ^ w :=
    (Nat.mod_lt _ (Nat.two_pow_pos n)).trans_le (Nat.pow_le_pow_right (by decide) hn)
  rw [Nat.mod_eq_of_lt hlt, Nat.mod_eq_iff_lt (Nat.two_pow_pos n).ne']

theorem and_one_eq_iff {v : Byte} : v &&& 1 = v ↔ v < 2 := by
  rw [← BitVec.toNat_inj, BitVec.toNat_and]
  change v.toNat &&& 1 = v.toNat ↔ v.toNat < 2
  rw [Nat.and_one_is_mod, Nat.mod_eq_iff_lt (by decide)]

theorem one_eq_iff {v : Byte} (hv : v ≠ 0) : 1 = v ↔ v < 2 := by
  constructor
  · rintro rfl
    decide
  · intro hlt
    have hpos : v.toNat ≠ 0 := fun hzero => hv (BitVec.eq_of_toNat_eq hzero)
    have hone : v.toNat < 2 := hlt
    apply BitVec.eq_of_toNat_eq
    change 1 = v.toNat
    omega

theorem load_stored_of_le {w offset n : Nat} (nodeId : PfcpNodeId) (hoffset : 8 ≤ offset) :
    load w nodeId.stored offset n = 0 := by
  rw [PfcpNodeId.stored]
  split
  · rw [load_store_of_disjoint _ (by omega), load_store_of_disjoint _ (by omega), load_zeros]
  · rw [load_zeros]

theorem bytesAt_stored_of_le {offset n : Nat} (nodeId : PfcpNodeId) (hoffset : 8 ≤ offset) :
    bytesAt nodeId.stored offset n = List.replicate n 0 := by
  rw [PfcpNodeId.stored]
  split
  · rw [bytesAt_store_of_disjoint _ (by omega), bytesAt_store_of_disjoint _ (by omega), bytesAt_zeros]
  · rw [bytesAt_zeros]

theorem at_stored_iff (nodeId : PfcpNodeId) : nodeId.At nodeId.stored 0 ↔ nodeId.nodeIdType = 0 := by
  rw [PfcpNodeId.At, PfcpNodeId.stored]
  by_cases htype : nodeId.nodeIdType = 0
  · rw [if_pos htype, load_store_of_disjoint _ (by omega), load_store _ (by decide), load_store _ (by decide)]
    exact iff_of_true ⟨htype.symm, rfl⟩ htype
  · rw [if_neg htype, load_zeros]
    exact iff_of_false (fun h => htype h.1.symm) htype

theorem fSeid_at_iff_absent {mem : Memory} {offset : Nat} {fSeid : PfcpFSeid}
    (hzero : ∀ w i n, offset ≤ i → i + n ≤ offset + 32 → load w mem i n = 0) :
    fSeid.At mem offset ↔ fSeid.Absent := by
  rw [PfcpFSeid.At, hzero 64 _ _ (by omega) (by omega), hzero 8 _ _ (by omega) (by omega),
    hzero 8 _ _ (by omega) (by omega)]
  constructor
  · rintro ⟨hseid, hv4, hv6, -⟩
    exact ⟨hseid.symm, hv4.symm, hv6.symm⟩
  · rintro ⟨hseid, hv4, hv6⟩
    exact ⟨hseid.symm, hv4.symm, hv6.symm, fun hne => absurd hv4 hne, fun hne => absurd hv6 hne⟩

/-! ### Payloads -/

theorem at_heartbeat_iff {ts : BitVec 64} :
    load 64 (pfcpDecodeIes zeros (elementsBytes [pfcpEncodeRecoveryTimeStamp ts])) 0 8 = ts
      ↔ ts < 2 ^ 32 := by
  rw [pfcpDecodeIes_recoveryTimeStamp, elementsBytes_nil, pfcpDecodeIes_nil, load_store _ (by decide)]
  exact setWidth_eq_iff_lt (by decide)

theorem at_timeStamp_iff {mem mem' : Memory} {nodeId : PfcpNodeId} {ts : BitVec 64}
    (hmem : ∀ w i n, i + n ≤ 8 →
      load w mem' i n = load w (store mem 0 ((ts.setWidth 32).setWidth 64) 8) i n) :
    nodeId.At mem' 0 ↔ ts.setWidth 8 = nodeId.nodeIdType ∧ 0 = nodeId.ipv4Address := by
  have hlow : (((ts.setWidth 32).setWidth 64) >>> 0).setWidth 8 = ts.setWidth 8 := by simp
  have hhigh : ((ts.setWidth 32).setWidth 64 >>> 32).setWidth 32 = (0 : Word) := by
    apply BitVec.eq_of_getLsbD_eq
    intro i hi
    simp
  rw [PfcpNodeId.At, hmem _ _ _ (by decide), hmem _ _ _ (by decide),
    load_store_inside _ (by omega) (by omega) (by omega),
    load_store_inside _ (by omega) (by omega) (by omega), hlow, hhigh]

theorem at_associationSetupRequest_iff {req : PfcpAssociationSetupRequest} {ies : List Element}
    (hies : pfcpEncodePayload (.associationSetupRequest req) = some ies) :
    (PfcpPayload.associationSetupRequest req).At (pfcpDecodeIes zeros (elementsBytes ies))
      ↔ (PfcpPayload.associationSetupRequest req).Returns := by
  obtain rfl := Option.some.inj hies
  rw [pfcpDecodeIes_nodeId, pfcpDecodeIes_recoveryTimeStamp, pfcpDecodeIes_pfcpIe _ rfl,
    pfcpDecodeIe_cpFunctionFeatures, elementsBytes_nil, pfcpDecodeIes_nil]
  rw [PfcpPayload.At, at_timeStamp_iff fun w i n hi => load_store_of_disjoint _ (by omega)]
  simp (disch := omega) only [PfcpPayload.Returns, load_store_of_disjoint, load_store, load_stored_of_le,
    true_and]
  constructor
  · rintro ⟨⟨htype, hipv4⟩, hts, hup, -⟩
    rw [← hts] at htype
    exact ⟨htype.symm, hipv4.symm, hts.symm, hup.symm⟩
  · rintro ⟨htype, hipv4, hts, hup⟩
    rw [htype, hipv4, hts, hup]
    exact ⟨⟨rfl, rfl⟩, rfl, rfl, fun hne => absurd rfl hne⟩

theorem load_upFunctionFeatures {base mem : Memory} {present features : Byte}
    (hbase : load 8 base 296 1 = (0 : Byte))
    (hmem : mem = if present = 0 then base else store (store base 297 features 1) 296 (1 : Byte) 1) :
    (∀ w i n, i + n ≤ 296 ∨ 298 ≤ i → load w mem i n = load w base i n)
      ∧ (load 8 mem 296 1 = present ↔ present < 2) ∧ (present ≠ 0 → load 8 mem 297 1 = features) := by
  by_cases hpresent : present = 0
  · rw [if_pos hpresent] at hmem
    rw [hmem, hbase]
    exact ⟨fun _ _ _ _ => rfl, iff_of_true hpresent.symm (hpresent ▸ by decide),
      fun hne => absurd hpresent hne⟩
  · rw [if_neg hpresent] at hmem
    rw [hmem]
    refine ⟨fun w i n hi => ?_, ?_, fun _ => ?_⟩
    · rw [load_store_of_disjoint _ (by omega), load_store_of_disjoint _ (by omega)]
    · rw [load_store _ (by decide), one_eq_iff hpresent]
    · rw [load_store_of_disjoint _ (by omega), load_store _ (by decide)]

theorem at_associationSetupResponse_iff {resp : PfcpAssociationSetupResponse} {ies : List Element}
    (hies : pfcpEncodePayload (.associationSetupResponse resp) = some ies) :
    (PfcpPayload.associationSetupResponse resp).At (pfcpDecodeIes zeros (elementsBytes ies))
      ↔ (PfcpPayload.associationSetupResponse resp).Returns := by
  obtain rfl := Option.some.inj hies
  have hcause : (resp.cause.setWidth 8).setWidth 32 = resp.cause ↔ resp.cause < 256 :=
    setWidth_eq_iff_lt (by decide)
  simp only [List.append_assoc, List.cons_append, List.nil_append]
  rw [pfcpDecodeIes_nodeId, pfcpDecodeIes_cause, pfcpDecodeIes_recoveryTimeStamp,
    pfcpDecodeIes_upFunctionFeatures]
  generalize hbase : store (store resp.nodeId.stored 280 ((resp.cause.setWidth 8).setWidth 32) 4) 0
    ((resp.recoveryTimeStamp.setWidth 32).setWidth 64) 8 = base
  have hcleared : ∀ w i n, 284 ≤ i → load w base i n = 0 := by
    intro w i n hi
    rw [← hbase, load_store_of_disjoint _ (by omega), load_store_of_disjoint _ (by omega),
      load_stored_of_le _ (by omega)]
  have hcauseLoad : load 32 base 280 4 = (resp.cause.setWidth 8).setWidth 32 := by
    rw [← hbase, load_store_of_disjoint _ (by omega), load_store _ (by decide)]
  generalize hmem : (if resp.upFunctionFeaturesPresent = 0 then base
    else store (store base 297 resp.upFunctionFeatures 1) 296 (1 : Byte) 1) = mem
  obtain ⟨hload, hpresent, hfeatures⟩ := load_upFunctionFeatures (hcleared _ _ _ (by decide)) hmem.symm
  rw [PfcpPayload.At, at_timeStamp_iff fun w i n hi => by rw [hload _ _ _ (by omega), ← hbase]]
  simp (disch := omega) only [PfcpPayload.Returns, hload, hcleared, hcauseLoad, hcause, hpresent]
  constructor
  · rintro ⟨⟨htype, hipv4⟩, hlt, hts, hflag, -, hcp⟩
    rw [← hts] at htype
    exact ⟨htype.symm, hipv4.symm, hts.symm, hlt, hflag, hcp.symm⟩
  · rintro ⟨htype, hipv4, hts, hlt, hflag, hcp⟩
    rw [htype, hipv4, hts, hcp]
    exact ⟨⟨rfl, rfl⟩, hlt, rfl, hflag, hfeatures, rfl⟩

theorem flags_low (fSeid : PfcpFSeid) : fSeid.flags &&& 1 = fSeid.v4Present &&& 1 := by
  apply BitVec.eq_of_getLsbD_eq
  intro i hi
  by_cases hzero : i = 0
  · simp [PfcpFSeid.flags, hzero]
  · simp [hzero]

theorem flags_high {fSeid : PfcpFSeid} (hv4 : fSeid.v4Present < 2) :
    fSeid.flags >>> 1 &&& 1 = fSeid.v6Present &&& 1 := by
  have hbit : fSeid.v4Present.getLsbD 1 = false := Nat.testBit_lt_two_pow hv4
  rw [BitVec.getLsbD_eq_getElem (by decide)] at hbit
  apply BitVec.eq_of_getLsbD_eq
  intro i hi
  by_cases hzero : i = 0
  · rw [hzero]
    simp [PfcpFSeid.flags, hbit]
  · simp [hzero]

/-- The F-SEID of the session establishment request is read from where it is stored, with its address if the
flag is set. -/
theorem at_fSeid_iff {nodeId : PfcpNodeId} {fSeid : PfcpFSeid} {p : Prop} [Decidable p]
    (haddress : fSeid.v4Present ≠ 0 → fSeid.v4Present < 2 → p) {mem : Memory}
    (hmem : mem = if p then
      store (pfcpStoreFSeid nodeId.stored fSeid.flags fSeid.seid) 288 fSeid.ipv4Address 4
      else pfcpStoreFSeid nodeId.stored fSeid.flags fSeid.seid) :
    nodeId.At mem 0 ∧ fSeid.At mem 280
      ↔ nodeId.nodeIdType = 0 ∧ fSeid.v4Present < 2 ∧ fSeid.v6Present < 2
        ∧ (fSeid.v6Present ≠ 0 → fSeid.ipv6Address.1 = List.replicate 16 0) := by
  have hnode : (load 8 nodeId.stored 0 1 = nodeId.nodeIdType
      ∧ load 32 nodeId.stored 4 4 = nodeId.ipv4Address) ↔ nodeId.nodeIdType = 0 := at_stored_iff nodeId
  have hv4 : fSeid.flags &&& 1 = fSeid.v4Present ↔ fSeid.v4Present < 2 := by
    rw [flags_low, and_one_eq_iff]
  have hipv6 : bytesAt nodeId.stored 292 16 = List.replicate 16 0 :=
    bytesAt_stored_of_le nodeId (by decide)
  have hload : ∀ w i n, i + n ≤ 288 ∨ 292 ≤ i →
      load w mem i n = load w (pfcpStoreFSeid nodeId.stored fSeid.flags fSeid.seid) i n := by
    intro w i n hi
    rw [hmem]
    split
    · exact load_store_of_disjoint _ hi
    · rfl
  have hbytes : bytesAt mem 292 16
      = bytesAt (pfcpStoreFSeid nodeId.stored fSeid.flags fSeid.seid) 292 16 := by
    rw [hmem]
    split
    · exact bytesAt_store_of_disjoint _ (by decide)
    · rfl
  have hipv4 : fSeid.v4Present < 2 → fSeid.v4Present ≠ 0 → load 32 mem 288 4 = fSeid.ipv4Address := by
    intro hlt hne
    rw [hmem, if_pos (haddress hne hlt), load_store _ (by decide)]
  simp (disch := omega) only [PfcpNodeId.At, PfcpFSeid.At, hload, hbytes, pfcpStoreFSeid,
    load_store_of_disjoint, bytesAt_store_of_disjoint, load_store, Nat.zero_add, hnode, hv4, hipv6, true_and]
  refine and_congr_right fun _ => and_congr_right fun hlt => ?_
  rw [flags_high hlt, and_one_eq_iff]
  constructor
  · rintro ⟨hv6, -, hzero⟩
    exact ⟨hv6, fun hne => (hzero hne).symm⟩
  · rintro ⟨hv6, hzero⟩
    exact ⟨hv6, hipv4 hlt, fun hne => (hzero hne).symm⟩

theorem at_sessionEstRequest_iff {req : PfcpSessionEstablishmentRequest} {ies : List Element}
    (hies : pfcpEncodePayload (.sessionEstRequest req) = some ies)
    (hrest : (PfcpPayload.sessionEstRequest req).Undisturbed) :
    (PfcpPayload.sessionEstRequest req).At (pfcpDecodeIes zeros (elementsBytes ies))
      ↔ (PfcpPayload.sessionEstRequest req).Returns := by
  obtain rfl := Option.some.inj hies
  rw [pfcpDecodeIes_nodeId, PfcpPayload.At]
  rw [PfcpPayload.Undisturbed] at hrest
  by_cases hv4 : req.cpFSeid.v4Present = 0
  · rw [if_pos hv4] at hrest
    rw [pfcpDecodeIes_fSeid _ hv4, hrest.decode,
      at_fSeid_iff (p := False) (fun hne _ => absurd hv4 hne) (if_neg not_false).symm]
    exact and_congr_right fun _ => and_congr_left fun _ =>
      iff_of_true (hv4 ▸ by decide) (Or.inl hv4)
  · rw [if_neg hv4] at hrest
    by_cases hlong : 3324 ≤ (elementsBytes (pfcpEncodeRules req)).length
    · have hflag : req.cpFSeid.v4Present ≠ 0 → req.cpFSeid.v4Present < 2 → req.cpFSeid.flags &&& 1 ≠ 0 := by
        intro hne hlt
        rwa [flags_low, and_one_eq_iff.mpr hlt]
      rw [pfcpDecodeIes_fSeid_of_le _ hv4 hlong, hrest.decode, at_fSeid_iff hflag rfl]
      refine and_congr_right fun _ => and_congr_left fun _ => ?_
      rw [← one_eq_iff hv4]
      exact ⟨fun hone => Or.inr ⟨hone.symm, hlong⟩, fun h => (h.resolve_left hv4).1.symm⟩
    · rw [pfcpDecodeIes_fSeid_of_lt _ hv4 (Nat.lt_of_not_le hlong)]
      apply iff_of_false
      · rintro ⟨-, hseid⟩
        rw [fSeid_at_iff_absent fun w i n hle _ => load_stored_of_le _ (by omega)] at hseid
        exact hv4 hseid.2.1
      · rintro ⟨-, hzero | ⟨-, hlong'⟩, -⟩
        · exact hv4 hzero
        · exact hlong hlong'

theorem at_sessionEstResponse_iff {resp : PfcpSessionEstablishmentResponse} {ies : List Element}
    (hies : pfcpEncodePayload (.sessionEstResponse resp) = some ies)
    (hrest : (PfcpPayload.sessionEstResponse resp).Undisturbed) :
    (PfcpPayload.sessionEstResponse resp).At (pfcpDecodeIes zeros (elementsBytes ies))
      ↔ (PfcpPayload.sessionEstResponse resp).Returns := by
  obtain rfl := Option.some.inj hies
  have hnode : (load 8 resp.upNodeId.stored 0 1 = resp.upNodeId.nodeIdType
      ∧ load 32 resp.upNodeId.stored 4 4 = resp.upNodeId.ipv4Address) ↔ resp.upNodeId.nodeIdType = 0 :=
    at_stored_iff resp.upNodeId
  have hcause : (resp.cause.setWidth 8).setWidth 32 = resp.cause ↔ resp.cause < 256 :=
    setWidth_eq_iff_lt (by decide)
  simp only [List.append_assoc, List.cons_append, List.nil_append]
  rw [pfcpDecodeIes_nodeId, pfcpDecodeIes_cause]
  by_cases hpresent : resp.upFSeidPresent = 0
  · rw [pfcpIf_of_eq hpresent, List.nil_append, (hrest.resolve_left fun h => h.1 hpresent).decode]
    simp (disch := omega) only [PfcpPayload.At, PfcpNodeId.At, PfcpPayload.Returns, load_store_of_disjoint,
      load_store, load_stored_of_le, Nat.zero_add, hnode, hcause, hpresent, ne_eq, not_true_eq_false,
      false_implies, and_true]
  · rw [pfcpIf_of_ne hpresent, List.singleton_append]
    apply iff_of_false _ fun h => hpresent h.2.2
    rintro ⟨-, -, hflag, hseid⟩
    by_cases hv4 : resp.upFSeid.v4Present = 0
    · rw [pfcpDecodeIes_fSeid _ hv4, (hrest.resolve_left fun h => h.2 hv4).decode] at hflag hseid
      obtain ⟨hzero, -⟩ := hseid hpresent
      -- The flag is read from inside of the SEID, and the SEID from behind it.
      rw [pfcpStoreFSeid, load_store_of_disjoint _ (by omega), load_store_of_disjoint _ (by omega),
        load_store_of_disjoint _ (by omega), load_store_of_disjoint _ (by omega),
        load_stored_of_le _ (by omega)] at hzero
      rw [pfcpStoreFSeid, load_store_inside _ (by omega) (by omega) (by omega), ← hzero] at hflag
      exact hpresent hflag.symm
    · have hcreated := length_elementsBytes_map_le length_content_pfcpEncodeCreatedPdr_le resp.createdPdr
      rw [pfcpDecodeIes_fSeid_of_lt _ hv4 (by omega), load_store_of_disjoint _ (by omega),
        load_stored_of_le _ (by omega)] at hflag
      exact hpresent hflag.symm

theorem at_sessionReportRequest_iff {req : PfcpSessionReportRequest} {ies : List Element}
    (hies : pfcpEncodePayload (.sessionReportRequest req) = some ies)
    (hrest : (PfcpPayload.sessionReportRequest req).Undisturbed) :
    (PfcpPayload.sessionReportRequest req).At (pfcpDecodeIes zeros (elementsBytes ies))
      ↔ (PfcpPayload.sessionReportRequest req).Returns := by
  obtain rfl := Option.some.inj hies
  apply fSeid_at_iff_absent
  intro w i n _ hle
  by_cases hv4 : req.upFSeid.v4Present = 0
  · rw [pfcpDecodeIes_fSeid _ hv4, (hrest.resolve_left fun h => h hv4).decode, pfcpStoreFSeid,
      load_store_of_disjoint _ (by omega), load_store_of_disjoint _ (by omega),
      load_store_of_disjoint _ (by omega), load_zeros]
  · have hreports := length_elementsBytes_map_le length_content_pfcpEncodeUsageReport_le req.usageReports
    rw [pfcpDecodeIes_fSeid_of_lt _ hv4 (by omega), load_zeros]

theorem load_cause_of_le (cause : Word) {w offset n : Nat} (hle : offset + n ≤ 280) :
    load w (pfcpDecodeIes zeros (elementsBytes [pfcpEncodeCause cause])) offset n = 0 := by
  rw [pfcpDecodeIes_cause, elementsBytes_nil, pfcpDecodeIes_nil, load_store_of_disjoint _ (by omega),
    load_zeros]

theorem at_iff_returns {payload : PfcpPayload} {ies : List Element}
    (hies : pfcpEncodePayload payload = some ies) (hrest : payload.Undisturbed) :
    payload.At (pfcpDecodeIes zeros (elementsBytes ies)) ↔ payload.Returns := by
  cases payload with
  | heartbeatRequest heartbeat | heartbeatResponse heartbeat =>
      obtain rfl := Option.some.inj hies
      exact at_heartbeat_iff
  | associationSetupRequest req => exact at_associationSetupRequest_iff hies
  | associationSetupResponse resp => exact at_associationSetupResponse_iff hies
  | sessionEstRequest req => exact at_sessionEstRequest_iff hies hrest
  | sessionEstResponse resp => exact at_sessionEstResponse_iff hies hrest
  | sessionDelRequest req =>
      obtain rfl := Option.some.inj hies
      rw [elementsBytes_nil, pfcpDecodeIes_nil]
      exact fSeid_at_iff_absent fun w i n _ _ => load_zeros i n
  | sessionDelResponse resp =>
      obtain rfl := Option.some.inj hies
      rw [PfcpPayload.At, load_cause_of_le _ (by decide), load_cause_of_le _ (by decide)]
      exact and_congr eq_comm eq_comm
  | sessionReportRequest req => exact at_sessionReportRequest_iff hies hrest
  | sessionReportResponse resp =>
      obtain rfl := Option.some.inj hies
      rw [PfcpPayload.At, load_cause_of_le _ (by decide)]
      exact eq_comm
  | other messageType => cases hies

theorem not_returns_of_none {payload : PfcpPayload} (hies : pfcpEncodePayload payload = none) :
    ¬ payload.Returns := by
  cases payload with
  | other messageType => exact id
  | _ => cases hies

theorem PfcpPayload.undisturbed_of_inStep {req : PfcpSessionEstablishmentRequest}
    (hv4 : req.cpFSeid.v4Present = 0) (hfar : ∀ far ∈ req.createFar.items, far.InStep)
    (hqer : ∀ qer ∈ req.createQer.items, qer.InStep) (hurr : ∀ urr ∈ req.createUrr.items, urr.InStep) :
    (sessionEstRequest req).Undisturbed := by
  rw [Undisturbed, if_pos hv4]
  exact (passed_pfcpEncodeRules hfar hqer hurr).undisturbing

/-- **A message comes back only with its header, and where nothing disturbs the decoder exactly if its payload
returns, too.** -/
theorem pfcpMessage_comesBack_iff (memory : Memory) (msg : PfcpMessage) :
    (msg.ComesBack memory → msg.HeaderReturns)
      ∧ (msg.payload.Undisturbed → (msg.ComesBack memory ↔ msg.HeaderReturns ∧ msg.payload.Returns)) := by
  cases hies : pfcpEncodePayload msg.payload with
  | some ies =>
      rw [pfcpComesBack_iff hies]
      exact ⟨And.left, fun hrest => and_congr_right fun _ => at_iff_returns hies hrest⟩
  | none =>
      have hnever : ¬ msg.ComesBack memory := by
        rintro ⟨bytes, decoded, hbytes, -⟩
        rw [pfcpEncodeMessage, hies] at hbytes
        cases hbytes
      exact ⟨fun h => absurd h hnever,
        fun _ => iff_of_false hnever fun h => not_returns_of_none hies h.2⟩

def pfcpHeartbeat (sequenceNumber : Word) : PfcpMessage where
  sequenceNumber := sequenceNumber
  version := 1
  mp := 0
  s := 0
  seid := 0
  payload := .heartbeatRequest ⟨0xE5000000⟩

theorem pfcpHeartbeat_zero_comesBack : (pfcpHeartbeat 0).ComesBack zeros := by
  have hiff := (pfcpMessage_comesBack_iff zeros (pfcpHeartbeat 0)).2 trivial
  have hts : (0xE5000000 : BitVec 64) < 2 ^ 32 := by decide
  exact hiff.mpr ⟨⟨by decide, by decide, by decide, fun _ => rfl, rfl⟩, hts⟩

/-- The number 1 is written as 0. -/
theorem pfcpHeartbeat_one_not_comesBack : ¬ (pfcpHeartbeat 1).ComesBack zeros := by
  rw [pfcpComesBack_iff rfl]
  rintro ⟨⟨-, -, -, -, hsequence⟩, -⟩
  cases hsequence

end Uesim
