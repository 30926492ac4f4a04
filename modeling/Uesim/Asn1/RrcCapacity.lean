import Uesim.Asn1.RrcFixedRoundTrip

/-!
# Messages that do not fit

Every encoder makes a fixed list of calls and reports success at its end. A call without room stops inside
of the buffer, and those behind it go on from there. So the message is whole exactly if all of its bits fit,
and the result does not tell.
-/

namespace Uesim

open Bytes BitMemory

/-! ### Calls one after the other -/

/-- Calls whose results are not looked at. -/
def asn1Run (buf : Asn1Buffer) : List Asn1Call → Asn1Buffer
  | [] => buf
  | call :: calls => asn1Run (call.encode buf).1 calls

theorem asn1Run_append (buf : Asn1Buffer) (first second : List Asn1Call) :
    asn1Run buf (first ++ second) = asn1Run (asn1Run buf first) second := by
  induction first generalizing buf with
  | nil => rfl
  | cons call first ih => exact ih _

namespace Asn1Call

/-- The calls that the encoders of messages make. -/
def Plain : Asn1Call → Prop
  | bits _ numBits => numBits ≤ 32
  | boolean _ => True
  | octetString _ _ => True
  | _ => False

def width : Asn1Call → Nat
  | bits _ numBits => numBits
  | boolean _ => 1
  | length len => 8 * asn1LengthBytes len
  | octetString _ len => 8 * (asn1LengthBytes len + len)
  | bitString _ numBits hasConstraint fixedSize =>
      if hasConstraint ∧ fixedSize > 0 then numBits
      else 8 * (asn1LengthBytes ((numBits + 7) / 8) + (numBits + 7) / 8)

end Asn1Call

def asn1Width (calls : List Asn1Call) : Nat := (calls.map Asn1Call.width).sum

@[simp]
theorem asn1Width_nil : asn1Width [] = 0 := rfl

@[simp]
theorem asn1Width_cons (call : Asn1Call) (calls : List Asn1Call) :
    asn1Width (call :: calls) = call.width + asn1Width calls := rfl

/-! ### A call stays inside of the buffer -/

theorem asn1EncodeLength_size {buf : Asn1Buffer} {len : Nat}
    (hok : (asn1EncodeLength buf len).2 = .ok ()) :
    (asn1EncodeLength buf len).1.size = ((asn1EncodeLength buf len).1.bitOffset + 7) / 8 := by
  have hbits : ∀ {mid : Asn1Buffer} {value : Word} {numBits : Nat}, numBits ≤ 32 →
      (asn1EncodeBits mid value numBits).2 = .ok () →
      (asn1EncodeBits mid value numBits).1.size
        = ((asn1EncodeBits mid value numBits).1.bitOffset + 7) / 8 := by
    intro mid value numBits hnumBits hok
    rcases asn1EncodeBits_cases mid value hnumBits with ⟨-, hoffset, hsize⟩ | ⟨herror, -⟩
    · rw [hsize, hoffset]
    · rw [herror] at hok
      cases hok
  rw [asn1EncodeLength] at hok ⊢
  split
  · rename_i hshort
    rw [if_pos hshort] at hok
    exact hbits (by decide) hok
  · rename_i hshort
    rw [if_neg hshort] at hok
    split
    · rename_i hmedium
      rw [if_pos hmedium] at hok
      exact hbits (by decide) hok
    · rename_i hmedium
      rw [if_neg hmedium] at hok
      exact hbits (by decide) hok

theorem asn1EncodeOctetString_inside {buf : Asn1Buffer} (data : Memory) (len : Nat)
    (h : buf.bitOffset ≤ 8 * buf.capacity) :
    (asn1EncodeOctetString buf data len).1.bitOffset ≤ 8 * buf.capacity := by
  have hlength := asn1EncodeLength_advances buf len
  have hin := hlength.inside h
  have hcapacity := hlength.capacity
  have hsize := @asn1EncodeLength_size buf len
  rw [asn1EncodeOctetString]
  split
  · rename_i mid e heq
    rwa [heq] at hin
  · rename_i mid heq
    rw [heq] at hin hcapacity hsize
    have hsize := hsize rfl
    rw [asn1CopyString]
    split
    · exact hin
    · dsimp only at hin hcapacity hsize ⊢
      omega

theorem Asn1Call.Plain.inside {call : Asn1Call} (hplain : call.Plain) {buf : Asn1Buffer}
    (h : buf.bitOffset ≤ 8 * buf.capacity) :
    (call.encode buf).1.capacity = buf.capacity
      ∧ (call.encode buf).1.bitOffset ≤ 8 * buf.capacity := by
  cases call with
  | bits value numBits =>
      have hadvances := asn1EncodeBits_advances buf value numBits
      exact ⟨hadvances.capacity, hadvances.inside h⟩
  | boolean value =>
      have hadvances := asn1EncodeBits_advances buf (if value then 1 else 0) 1
      exact ⟨hadvances.capacity, hadvances.inside h⟩
  | octetString data len =>
      exact ⟨capacity_asn1EncodeOctetString buf data len, asn1EncodeOctetString_inside data len h⟩
  | length len => exact hplain.elim
  | bitString data numBits hasConstraint fixedSize => exact hplain.elim

theorem asn1Run_inside {calls : List Asn1Call} (hplain : ∀ call ∈ calls, call.Plain)
    {buf : Asn1Buffer} (h : buf.bitOffset ≤ 8 * buf.capacity) :
    (asn1Run buf calls).bitOffset ≤ 8 * buf.capacity := by
  induction calls generalizing buf with
  | nil => exact h
  | cons call calls ih =>
      obtain ⟨hfirst, hrest⟩ := List.forall_mem_cons.mp hplain
      obtain ⟨hcapacity, hin⟩ := hfirst.inside h
      rw [← hcapacity] at hin ⊢
      exact ih hrest hin

/-! ### A call with room -/

/-- The larger buffer holds the same, as far as the smaller one goes. -/
structure Asn1Buffer.Agrees (buf large : Asn1Buffer) : Prop where
  bitOffset : large.bitOffset = buf.bitOffset
  size : large.size = buf.size
  capacity_le : buf.capacity ≤ large.capacity
  data : ∀ i < buf.capacity, large.data i = buf.data i

theorem writeBits_congr {mem mem' : Memory} {capacity pos : Nat} {value : Word} {width : Nat}
    (h : ∀ i < capacity, mem' i = mem i) :
    ∀ i < capacity, writeBits mem' pos value width i = writeBits mem pos value width i := by
  intro i hi
  apply memory_ext
  intro k hk
  have hdiv : (8 * i + k) / 8 = i := by omega
  have hsame : bitAt mem' (8 * i + k) = bitAt mem (8 * i + k) := by
    rw [bitAt, bitAt, hdiv, h i hi]
  rw [bitAt_writeBits, bitAt_writeBits, hsame]

theorem copy_congr {mem mem' : Memory} {capacity start len : Nat} (src : Memory)
    (h : ∀ i < capacity, mem' i = mem i) :
    ∀ i < capacity, copy mem' start src len i = copy mem start src len i := by
  intro i hi
  rw [copy, copy, h i hi]

section Agrees

variable {buf large : Asn1Buffer}

theorem Asn1Buffer.Agrees.encodeBits (h : buf.Agrees large) (value : Word) {numBits : Nat}
    (hbits : numBits ≤ 32) (hroom : buf.bitOffset + numBits ≤ 8 * buf.capacity) :
    (asn1EncodeBits buf value numBits).1.Agrees (asn1EncodeBits large value numBits).1
      ∧ (asn1EncodeBits buf value numBits).1.bitOffset = buf.bitOffset + numBits
      ∧ (asn1EncodeBits buf value numBits).1.capacity = buf.capacity := by
  have hcapacity := h.capacity_le
  have hlarge : large.bitOffset + numBits ≤ 8 * large.capacity := by
    rw [h.bitOffset]
    omega
  rw [asn1EncodeBits_eq hbits hroom, asn1EncodeBits_eq hbits hlarge, h.bitOffset]
  exact ⟨⟨rfl, rfl, hcapacity, writeBits_congr h.data⟩, rfl, rfl⟩

theorem Asn1Buffer.Agrees.encodeOctetString (h : buf.Agrees large) (data : Memory) {len : Nat}
    (hroom : buf.bitOffset + 8 * (asn1LengthBytes len + len) ≤ 8 * buf.capacity) :
    (asn1EncodeOctetString buf data len).1.Agrees (asn1EncodeOctetString large data len).1
      ∧ (asn1EncodeOctetString buf data len).1.bitOffset
        = buf.bitOffset + 8 * (asn1LengthBytes len + len)
      ∧ (asn1EncodeOctetString buf data len).1.capacity = buf.capacity := by
  have hcapacity := h.capacity_le
  have hlarge : large.bitOffset + 8 * (asn1LengthBytes len + len) ≤ 8 * large.capacity := by
    rw [h.bitOffset]
    omega
  rw [asn1EncodeOctetString_eq hroom, asn1EncodeOctetString_eq hlarge, h.bitOffset]
  exact ⟨⟨rfl, rfl, hcapacity, copy_congr data (writeBits_congr h.data)⟩, rfl, rfl⟩

theorem Asn1Buffer.Agrees.encode (h : buf.Agrees large) {call : Asn1Call} (hplain : call.Plain)
    (hroom : buf.bitOffset + call.width ≤ 8 * buf.capacity) :
    (call.encode buf).1.Agrees (call.encode large).1
      ∧ (call.encode buf).1.bitOffset = buf.bitOffset + call.width
      ∧ (call.encode buf).1.capacity = buf.capacity := by
  cases call with
  | bits value numBits => exact h.encodeBits value hplain hroom
  | boolean value => exact h.encodeBits (if value then 1 else 0) (by decide) hroom
  | octetString data len => exact h.encodeOctetString data hroom
  | length len => exact hplain.elim
  | bitString data numBits hasConstraint fixedSize => exact hplain.elim

theorem Asn1Buffer.Agrees.run (h : buf.Agrees large) {calls : List Asn1Call}
    (hplain : ∀ call ∈ calls, call.Plain)
    (hroom : buf.bitOffset + asn1Width calls ≤ 8 * buf.capacity) :
    (asn1Run buf calls).Agrees (asn1Run large calls)
      ∧ (asn1Run buf calls).bitOffset = buf.bitOffset + asn1Width calls
      ∧ (asn1Run buf calls).capacity = buf.capacity := by
  induction calls generalizing buf large with
  | nil => exact ⟨h, rfl, rfl⟩
  | cons call calls ih =>
      obtain ⟨hfirst, hrest⟩ := List.forall_mem_cons.mp hplain
      rw [asn1Width_cons] at hroom ⊢
      obtain ⟨hagrees, hoffset, hcapacity⟩ := h.encode hfirst (by omega)
      have hroom' : (call.encode buf).1.bitOffset + asn1Width calls
          ≤ 8 * (call.encode buf).1.capacity := by
        rw [hoffset, hcapacity]
        omega
      obtain ⟨hagrees, hoffset', hcapacity'⟩ := ih hagrees hrest hroom'
      rw [hoffset, Nat.add_assoc] at hoffset'
      exact ⟨hagrees, hoffset', hcapacity'.trans hcapacity⟩

end Agrees

theorem asn1Clear_agrees {buf large : Asn1Buffer} (h : buf.capacity ≤ large.capacity) :
    (asn1Clear buf).Agrees (asn1Clear large) := by
  refine ⟨rfl, rfl, h, fun i hi => ?_⟩
  have hsmall : i < buf.capacity := hi
  have hlarge : i < large.capacity := Nat.lt_of_lt_of_le hi h
  simp only [asn1Clear, if_pos hsmall, if_pos hlarge]

/-- Every larger buffer gets as many bits, and the same bytes. -/
def EncodesCompletely (encode : Asn1Buffer → Asn1Buffer) (buf : Asn1Buffer) : Prop :=
  ∀ large : Asn1Buffer, buf.capacity ≤ large.capacity →
    (encode large).bitOffset = (encode buf).bitOffset
      ∧ ∀ i < asn1BufferLength (encode buf), (encode large).data i = (encode buf).data i

/-- **The calls leave what they would leave in any larger buffer exactly when their bits fit.** -/
theorem asn1Run_encodesCompletely_iff {calls : List Asn1Call}
    (hplain : ∀ call ∈ calls, call.Plain) (buf : Asn1Buffer) :
    EncodesCompletely (fun buf => asn1Run (asn1Clear buf) calls) buf
      ↔ asn1Width calls ≤ 8 * buf.capacity := by
  constructor
  · intro h
    -- a buffer with room for all bits has more than the full one can have
    obtain ⟨large, hlarge⟩ : ∃ large : Asn1Buffer,
        large.capacity = buf.capacity + asn1Width calls :=
      ⟨{ buf with capacity := buf.capacity + asn1Width calls }, rfl⟩
    have hagrees : (asn1Clear large).Agrees (asn1Clear large) := asn1Clear_agrees (Nat.le_refl _)
    have hroom : 0 + asn1Width calls ≤ 8 * large.capacity := by omega
    have hwide : (asn1Run (asn1Clear large) calls).bitOffset = 0 + asn1Width calls :=
      (hagrees.run hplain hroom).2.1
    have hzero : (asn1Clear buf).bitOffset ≤ 8 * (asn1Clear buf).capacity := Nat.zero_le _
    have hin : (asn1Run (asn1Clear buf) calls).bitOffset ≤ 8 * buf.capacity :=
      asn1Run_inside hplain hzero
    have hsame : (asn1Run (asn1Clear large) calls).bitOffset
        = (asn1Run (asn1Clear buf) calls).bitOffset := (h large (by omega)).1
    omega
  · intro hroom large hcapacity
    have hfits : 0 + asn1Width calls ≤ 8 * buf.capacity := by omega
    obtain ⟨hagrees, hoffset, hkept⟩ := (asn1Clear_agrees hcapacity).run hplain hfits
    have hin : (asn1Run (asn1Clear buf) calls).bitOffset ≤ 8 * buf.capacity := by
      rw [hoffset]
      exact hfits
    refine ⟨hagrees.bitOffset, fun i hi => hagrees.data i ?_⟩
    have hbytes : i < ((asn1Run (asn1Clear buf) calls).bitOffset + 7) / 8 := hi
    have hkept : (asn1Run (asn1Clear buf) calls).capacity = buf.capacity := hkept
    omega

/-! ### The encoders as lists of calls -/

def fieldCalls (fields : List (Word × Nat)) : List Asn1Call :=
  fields.map fun field => .bits field.1 field.2

theorem asn1EncodeFields_eq_run (buf : Asn1Buffer) (fields : List (Word × Nat)) :
    asn1EncodeFields buf fields = asn1Run buf (fieldCalls fields) := by
  induction fields generalizing buf with
  | nil => rfl
  | cons field fields ih => exact ih _

theorem fieldCalls_plain {fields : List (Word × Nat)} (hbits : ∀ field ∈ fields, field.2 ≤ 32) :
    ∀ call ∈ fieldCalls fields, call.Plain :=
  List.forall_mem_map.mpr hbits

def optionalCalls (present : Bool) (config : Memory) (len : Nat) : List Asn1Call :=
  if present then [.boolean true, .octetString config len] else [.boolean false]

theorem rrcEncodeOptional_eq_run (buf : Asn1Buffer) (present : Bool) (config : Memory) (len : Nat) :
    rrcEncodeOptional buf present config len = asn1Run buf (optionalCalls present config len) := by
  cases present with
  | false => rfl
  | true => rfl

theorem optionalCalls_plain (present : Bool) (config : Memory) (len : Nat) :
    ∀ call ∈ optionalCalls present config len, call.Plain := by
  rw [optionalCalls]
  split
  · exact List.forall_mem_cons.mpr ⟨trivial, List.forall_mem_singleton.mpr trivial⟩
  · exact List.forall_mem_singleton.mpr trivial

inductive RrcMessage where
  | setupRequest (msg : RrcSetupRequest)
  | setup (msg : RrcSetup)
  | setupComplete (msg : RrcSetupComplete)
  | reestRequest (msg : RrcReestRequest)
  | reestablishment (msg : RrcReestablishment)
  | reestComplete (msg : RrcReestComplete)
  | reconfiguration (msg : RrcReconfiguration)
  | reconfigComplete (msg : RrcReconfigComplete)
  | measurementReport (msg : RrcMeasurementReport)
  | handoverCommand (msg : RrcHandoverCommand)
  | handoverConfirm (msg : RrcHandoverConfirm)
  | ueCapEnquiry (msg : RrcUeCapEnquiry)
  | ueCapInfo (msg : RrcUeCapInfo)
  | connectionRelease (msg : RrcConnectionRelease)
  | handoverPrep (msg : RrcHandoverPrep)
  | securityModeCmd (msg : RrcSecurityModeCmd)
  | securityModeComplete (msg : RrcSecurityModeComplete)

namespace RrcMessage

def encode (buf : Asn1Buffer) : RrcMessage → Asn1Buffer × Except UesimError Unit
  | setupRequest msg => rrcEncodeSetupRequest buf msg
  | setup msg => rrcEncodeSetup buf msg
  | setupComplete msg => rrcEncodeSetupComplete buf msg
  | reestRequest msg => rrcEncodeReestRequest buf msg
  | reestablishment msg => rrcEncodeReestablishment buf msg
  | reestComplete msg => rrcEncodeReestComplete buf msg
  | reconfiguration msg => rrcEncodeReconfiguration buf msg
  | reconfigComplete msg => rrcEncodeReconfigComplete buf msg
  | measurementReport msg => rrcEncodeMeasurementReport buf msg
  | handoverCommand msg => rrcEncodeHandoverCommand buf msg
  | handoverConfirm msg => rrcEncodeHandoverConfirm buf msg
  | ueCapEnquiry msg => rrcEncodeUeCapEnquiry buf msg
  | ueCapInfo msg => rrcEncodeUeCapInfo buf msg
  | connectionRelease msg => rrcEncodeConnectionRelease buf msg
  | handoverPrep msg => rrcEncodeHandoverPrep buf msg
  | securityModeCmd msg => rrcEncodeSecurityModeCmd buf msg
  | securityModeComplete msg => rrcEncodeSecurityModeComplete buf msg

/-- A transaction identifier and six spare bits. -/
def configCalls (rrcTransactionId : Byte) (config : Memory) (len : Nat) : List Asn1Call :=
  fieldCalls (rrcTransactionFields rrcTransactionId) ++ [.octetString config len]

def securityFields (msg : RrcSecurityModeCmd) : List (Word × Nat) :=
  [(msg.rrcTransactionId.setWidth 32, 2), (0, 6), (msg.cipheringAlg.setWidth 32, 4),
    (msg.integrityAlg.setWidth 32, 4)]

/-- No more than four bytes of the capabilities, and none if there are none. -/
def capabilityCalls (capabilities : Memory) (len : Nat) : List Asn1Call :=
  if len > 0 then [.octetString capabilities len] else []

def calls : RrcMessage → List Asn1Call
  | setupRequest msg => fieldCalls (rrcSetupRequestFields msg)
  | setup msg => configCalls msg.rrcTransactionId msg.radioBearerConfig msg.configLen
  | setupComplete msg =>
      fieldCalls (rrcSetupCompleteFields msg) ++ [.octetString msg.nasPdu msg.nasPduLen]
  | reestRequest msg => fieldCalls (rrcReestRequestFields msg)
  | reestablishment msg => configCalls msg.rrcTransactionId msg.radioBearerConfig msg.configLen
  | reestComplete msg => fieldCalls (rrcTransactionFields msg.rrcTransactionId)
  | reconfiguration msg =>
      configCalls msg.rrcTransactionId msg.radioBearerConfig msg.configLen
        ++ optionalCalls (msg.measConfigLen > 0) msg.measConfig msg.measConfigLen
        ++ optionalCalls (msg.hasMobilityConfig && msg.mobilityConfigLen > 0) msg.mobilityConfig
          msg.mobilityConfigLen
  | reconfigComplete msg => fieldCalls (rrcTransactionFields msg.rrcTransactionId)
  | measurementReport msg => fieldCalls (rrcMeasurementReportFields msg)
  | handoverCommand msg =>
      fieldCalls (rrcHandoverFields msg) ++ [.octetString msg.radioBearerConfig msg.configLen]
  | handoverConfirm msg => fieldCalls (rrcTransactionFields msg.rrcTransactionId)
  | ueCapEnquiry msg => fieldCalls (rrcUeCapEnquiryFields msg)
  | ueCapInfo msg =>
      fieldCalls [(msg.ratType.setWidth 32, 4), (0, 4)]
        ++ [.octetString msg.capabilityContainer msg.containerLen]
  | connectionRelease msg => fieldCalls (rrcConnectionReleaseFields msg)
  | handoverPrep msg => fieldCalls (rrcMeasurementReportFields msg)
  | securityModeCmd msg =>
      fieldCalls (securityFields msg)
        ++ capabilityCalls msg.securityCapabilities (min msg.capabilitiesLen 4)
  | securityModeComplete msg => fieldCalls (rrcTransactionFields msg.rrcTransactionId)

theorem rrcEncodeConfig_eq_run (buf : Asn1Buffer) (tid : Byte) (config : Memory) (len : Nat) :
    rrcEncodeConfig buf tid config len = asn1Run (asn1Clear buf) (configCalls tid config len) := by
  rw [rrcEncodeConfig, asn1EncodeFields_eq_run, configCalls, asn1Run_append]
  rfl

theorem rrcEncodeTransaction_eq_run (buf : Asn1Buffer) (msg : RrcTransaction) :
    rrcEncodeTransaction buf msg
      = (asn1Run (asn1Clear buf) (fieldCalls (rrcTransactionFields msg.rrcTransactionId)), .ok ()) := by
  rw [rrcEncodeTransaction, asn1EncodeFields_eq_run, rrcTransactionFields]

theorem rrcEncodeSecurityModeCmd_eq_run (buf : Asn1Buffer) (msg : RrcSecurityModeCmd) :
    rrcEncodeSecurityModeCmd buf msg
      = (asn1Run (asn1Clear buf) (fieldCalls (securityFields msg)
          ++ capabilityCalls msg.securityCapabilities (min msg.capabilitiesLen 4)), .ok ()) := by
  have hcap : (if msg.capabilitiesLen > 4 then 4 else msg.capabilitiesLen)
      = min msg.capabilitiesLen 4 := by
    split <;> omega
  rw [rrcEncodeSecurityModeCmd, asn1EncodeFields_eq_run, asn1Run_append, hcap, securityFields,
    capabilityCalls]
  split
  · rfl
  · rfl

/-- **Every encoder makes its calls and succeeds.** -/
theorem encode_eq_run (message : RrcMessage) (buf : Asn1Buffer) :
    message.encode buf = (asn1Run (asn1Clear buf) message.calls, .ok ()) := by
  cases message with
  | setupRequest msg =>
      exact (rrcEncodeSetupRequest_eq buf msg).trans (by rw [asn1EncodeFields_eq_run, calls])
  | setup msg => rw [encode, rrcEncodeSetup, rrcEncodeConfig_eq_run, calls]
  | setupComplete msg =>
      rw [encode, rrcEncodeSetupComplete, asn1EncodeFields_eq_run, calls, asn1Run_append,
        rrcSetupCompleteFields]
      rfl
  | reestRequest msg =>
      exact (rrcEncodeReestRequest_eq buf msg).trans (by rw [asn1EncodeFields_eq_run, calls])
  | reestablishment msg => rw [encode, rrcEncodeReestablishment, rrcEncodeConfig_eq_run, calls]
  | reestComplete msg => exact rrcEncodeTransaction_eq_run buf msg
  | reconfiguration msg =>
      rw [encode, rrcEncodeReconfiguration, rrcEncodeConfig_eq_run, rrcEncodeOptional_eq_run,
        rrcEncodeOptional_eq_run, calls, asn1Run_append, asn1Run_append]
  | reconfigComplete msg => exact rrcEncodeTransaction_eq_run buf msg
  | measurementReport msg =>
      exact (rrcEncodeMeasurementReport_eq buf msg).trans (by rw [asn1EncodeFields_eq_run, calls])
  | handoverCommand msg =>
      rw [encode, rrcEncodeHandoverCommand, asn1EncodeFields_eq_run, calls, asn1Run_append,
        rrcHandoverFields]
      rfl
  | handoverConfirm msg => exact rrcEncodeTransaction_eq_run buf msg
  | ueCapEnquiry msg =>
      exact (rrcEncodeUeCapEnquiry_eq buf msg).trans (by rw [asn1EncodeFields_eq_run, calls])
  | ueCapInfo msg =>
      rw [encode, rrcEncodeUeCapInfo, asn1EncodeFields_eq_run, calls, asn1Run_append]
      rfl
  | connectionRelease msg =>
      exact (rrcEncodeConnectionRelease_eq buf msg).trans (by rw [asn1EncodeFields_eq_run, calls])
  | handoverPrep msg =>
      exact (rrcEncodeMeasurementReport_eq buf msg).trans (by rw [asn1EncodeFields_eq_run, calls])
  | securityModeCmd msg => exact rrcEncodeSecurityModeCmd_eq_run buf msg
  | securityModeComplete msg => exact rrcEncodeTransaction_eq_run buf msg

theorem octetString_plain (config : Memory) (len : Nat) :
    ∀ call ∈ [Asn1Call.octetString config len], call.Plain :=
  List.forall_mem_singleton.mpr trivial

theorem configCalls_plain (tid : Byte) (config : Memory) (len : Nat) :
    ∀ call ∈ configCalls tid config len, call.Plain :=
  List.forall_mem_append.mpr ⟨fieldCalls_plain (by simp [rrcTransactionFields]),
    octetString_plain config len⟩

theorem calls_plain (message : RrcMessage) : ∀ call ∈ message.calls, call.Plain := by
  have htransaction : ∀ tid, ∀ call ∈ fieldCalls (rrcTransactionFields tid), call.Plain := by
    intro tid
    exact fieldCalls_plain (by simp [rrcTransactionFields])
  have hmeasurement : ∀ msg, ∀ call ∈ fieldCalls (rrcMeasurementReportFields msg), call.Plain := by
    intro msg
    exact fieldCalls_plain (by simp [rrcMeasurementReportFields])
  cases message with
  | setupRequest msg =>
      exact fieldCalls_plain (by simp [rrcSetupRequestFields, rrcUeIdentityFields])
  | setup msg => exact configCalls_plain _ _ _
  | setupComplete msg =>
      exact List.forall_mem_append.mpr ⟨fieldCalls_plain (by simp [rrcSetupCompleteFields]),
        octetString_plain _ _⟩
  | reestRequest msg =>
      exact fieldCalls_plain (by simp [rrcReestRequestFields, rrcUeIdentityFields])
  | reestablishment msg => exact configCalls_plain _ _ _
  | reestComplete msg => exact htransaction _
  | reconfiguration msg =>
      exact List.forall_mem_append.mpr ⟨List.forall_mem_append.mpr
        ⟨configCalls_plain _ _ _, optionalCalls_plain _ _ _⟩, optionalCalls_plain _ _ _⟩
  | reconfigComplete msg => exact htransaction _
  | measurementReport msg => exact hmeasurement msg
  | handoverCommand msg =>
      exact List.forall_mem_append.mpr ⟨fieldCalls_plain (by simp [rrcHandoverFields]),
        octetString_plain _ _⟩
  | handoverConfirm msg => exact htransaction _
  | ueCapEnquiry msg => exact fieldCalls_plain (rrcUeCapEnquiryFields_widths_le msg)
  | ueCapInfo msg =>
      exact List.forall_mem_append.mpr ⟨fieldCalls_plain (by simp), octetString_plain _ _⟩
  | connectionRelease msg =>
      refine fieldCalls_plain ?_
      rw [rrcConnectionReleaseFields, rrcRedirectFields]
      split <;> simp
  | handoverPrep msg => exact hmeasurement msg
  | securityModeCmd msg =>
      refine List.forall_mem_append.mpr ⟨fieldCalls_plain (by simp [securityFields]), ?_⟩
      rw [capabilityCalls]
      split
      · exact octetString_plain _ _
      · exact List.forall_mem_nil _
  | securityModeComplete msg => exact htransaction _

/-- All bits of the message, with one to three bytes of length in front of every string. -/
def encodedBits (message : RrcMessage) : Nat := asn1Width message.calls

/-- Success means that the message is in the buffer as it would be in any larger one. -/
def NeverTruncated (message : RrcMessage) (buf : Asn1Buffer) : Prop :=
  (message.encode buf).2 = .ok () → EncodesCompletely (fun buf => (message.encode buf).1) buf

end RrcMessage

theorem RrcMessage.encodesCompletely_iff (message : RrcMessage) (buf : Asn1Buffer) :
    EncodesCompletely (fun buf => (message.encode buf).1) buf
      ↔ message.encodedBits ≤ 8 * buf.capacity := by
  have hencode : (fun buf => (message.encode buf).1)
      = fun buf => asn1Run (asn1Clear buf) message.calls := by
    funext buf
    rw [message.encode_eq_run]
  rw [hencode, encodedBits]
  exact asn1Run_encodesCompletely_iff message.calls_plain buf

theorem RrcMessage.encode_ok (message : RrcMessage) (buf : Asn1Buffer) :
    (message.encode buf).2 = .ok () := by
  rw [message.encode_eq_run]

/-- **Success means a whole message exactly when all of its bits fit into the buffer.** -/
theorem rrcMessage_neverTruncated_iff (message : RrcMessage) (buf : Asn1Buffer) :
    message.NeverTruncated buf ↔ message.encodedBits ≤ 8 * buf.capacity := by
  rw [← message.encodesCompletely_iff buf]
  exact ⟨fun h => h (message.encode_ok buf), fun h _ => h⟩

/-- A NAS PDU of 300 bytes is left out of a buffer of 256, and the setup complete is a success of four
bytes. -/
theorem rrcMessage_truncated :
    ∃ msg buf, msg.nasPduLen = 300 ∧ buf.capacity = 256
      ∧ (rrcEncodeSetupComplete buf msg).2 = .ok ()
      ∧ asn1BufferLength (rrcEncodeSetupComplete buf msg).1 = 4
      ∧ ¬(RrcMessage.setupComplete msg).NeverTruncated buf := by
  refine ⟨⟨0, 1, zeros, 300⟩, { data := zeros, size := 0, capacity := 256, bitOffset := 0 },
    rfl, rfl, rfl, by decide, fun h => ?_⟩
  have hfits := (RrcMessage.encodesCompletely_iff _ _).mp (h rfl)
  exact absurd hfits (by decide)

end Uesim
