import Uesim.Ngap.Messages

/-!
# What becomes of a NAS message

The buffer is not cleared, so that the first byte of an encoded message already depends on what the memory
held before. The NAS message is encoded with two lengths in front of it, and behind a cell identity that is
not written because its field is too wide. The decoder looks for it at a fixed byte and takes all that
follows.
-/

namespace Uesim

open Bytes BitMemory

/-! ### Calls with room -/

/-- The bits by which a call moves on. A field of more than 32 bits is refused. -/
def Asn1Call.moves : Asn1Call → Nat
  | .bits _ numBits => if numBits ≤ 32 then numBits else 0
  | .boolean _ => 1
  | .length len => 8 * asn1LengthBytes len
  | .octetString _ len => 8 * (asn1LengthBytes len + len)
  | .bitString data numBits hasConstraint fixedSize =>
      Asn1Call.width (.bitString data numBits hasConstraint fixedSize)

def asn1Moves (calls : List Asn1Call) : Nat := (calls.map Asn1Call.moves).sum

@[simp]
theorem asn1Moves_nil : asn1Moves [] = 0 := rfl

@[simp]
theorem asn1Moves_cons (call : Asn1Call) (calls : List Asn1Call) :
    asn1Moves (call :: calls) = call.moves + asn1Moves calls := rfl

@[simp]
theorem asn1Moves_append (first second : List Asn1Call) :
    asn1Moves (first ++ second) = asn1Moves first + asn1Moves second := by
  simp [asn1Moves]

def Asn1Call.NoBitString : Asn1Call → Prop
  | .bitString _ _ _ _ => False
  | _ => True

structure Asn1Buffer.MovedBy (buf after : Asn1Buffer) (width : Nat) : Prop where
  bitOffset : after.bitOffset = buf.bitOffset + width
  capacity : after.capacity = buf.capacity
  keeps : ∀ pos < buf.bitOffset, bitAt after.data pos = bitAt buf.data pos

theorem Asn1Buffer.MovedBy.of_advances {buf after : Asn1Buffer} {width : Nat} (h : buf.Advances after)
    (hoffset : after.bitOffset = buf.bitOffset + width) : buf.MovedBy after width :=
  ⟨hoffset, h.capacity, fun pos hpos => h.frame pos (.inl hpos)⟩

theorem Asn1Call.NoBitString.movedBy {call : Asn1Call} (h : call.NoBitString) {buf : Asn1Buffer}
    (hroom : buf.bitOffset + call.moves ≤ 8 * buf.capacity) :
    buf.MovedBy (call.encode buf).1 call.moves := by
  cases call with
  | bits value numBits =>
      apply Asn1Buffer.MovedBy.of_advances (asn1EncodeBits_advances buf value numBits)
      rw [moves] at hroom ⊢
      split at hroom
      · rename_i hnarrow
        rw [asn1EncodeBits_eq hnarrow hroom, if_pos hnarrow]
      · rename_i hwide
        rw [asn1EncodeBits, if_pos (Nat.not_le.mp hwide), if_neg hwide]
        rfl
  | boolean value =>
      apply Asn1Buffer.MovedBy.of_advances (asn1EncodeBits_advances buf (if value then 1 else 0) 1)
      have hone : buf.bitOffset + 1 ≤ 8 * buf.capacity := hroom
      change (asn1EncodeBits buf (if value then 1 else 0) 1).1.bitOffset = buf.bitOffset + 1
      rw [asn1EncodeBits_eq (by decide) hone]
  | length len =>
      apply Asn1Buffer.MovedBy.of_advances (asn1EncodeLength_advances buf len)
      rw [asn1EncodeLength_eq hroom]
      rfl
  | octetString data len =>
      rw [encode, asn1EncodeOctetString_eq hroom]
      refine ⟨rfl, rfl, fun pos hpos => ?_⟩
      have hbefore : pos < 8 * ((buf.bitOffset + 8 * asn1LengthBytes len + 7) / 8) := by omega
      rw [bitAt_copy_of_not_mem data (.inl hbefore), bitAt_writeBits_of_not_mem _ (.inl hpos)]
  | bitString data numBits hasConstraint fixedSize => exact h.elim

theorem asn1Run_movedBy {calls : List Asn1Call} (hcalls : ∀ call ∈ calls, call.NoBitString)
    {buf : Asn1Buffer} (hroom : buf.bitOffset + asn1Moves calls ≤ 8 * buf.capacity) :
    buf.MovedBy (asn1Run buf calls) (asn1Moves calls) := by
  induction calls generalizing buf with
  | nil => exact ⟨rfl, rfl, fun _ _ => rfl⟩
  | cons call calls ih =>
      obtain ⟨hfirst, hrest⟩ := List.forall_mem_cons.mp hcalls
      rw [asn1Moves_cons] at hroom ⊢
      have hmoved : buf.MovedBy (call.encode buf).1 call.moves := hfirst.movedBy (by omega)
      have hroom' : (call.encode buf).1.bitOffset + asn1Moves calls ≤ 8 * (call.encode buf).1.capacity := by
        rw [hmoved.bitOffset, hmoved.capacity]
        omega
      have hmoved' := ih hrest hroom'
      refine ⟨?_, hmoved'.capacity.trans hmoved.capacity, fun pos hpos => ?_⟩
      · rw [asn1Run, hmoved'.bitOffset, hmoved.bitOffset, Nat.add_assoc]
      · have hbefore : pos < (call.encode buf).1.bitOffset := by
          rw [hmoved.bitOffset]
          omega
        exact (hmoved'.keeps pos hbefore).trans (hmoved.keeps pos hpos)

/-! ### Messages for NAS messages -/

/-- What the messages are made of: the identifiers and the NAS message for the call that creates them, and
the location that is put into them. -/
inductive NgapNasTransport where
  | initialUe (ranUeId : Word) (userLocation : NgapUserLocationInfoNr) (nasPdu : List Byte)
  | uplink (ranUeId : Word) (amfUeId : BitVec 64) (userLocation : NgapUserLocationInfoNr)
      (nasPdu : List Byte)

namespace NgapNasTransport

def message : NgapNasTransport → NgapMessage
  | initialUe ranUeId userLocation nasPdu =>
      ngapCreateMessage 24 ranUeId
        (.initialUeMessage { ngapCreateInitialUeMessage ranUeId nasPdu with userLocation })
  | uplink ranUeId amfUeId userLocation nasPdu =>
      ngapCreateMessage 36 ranUeId
        (.uplinkNasTransport { ngapCreateUplinkNasTransport ranUeId amfUeId nasPdu with userLocation })

def nasPdu : NgapNasTransport → List Byte
  | initialUe _ _ nasPdu => nasPdu
  | uplink _ _ _ nasPdu => nasPdu

/-- The message has the procedure, the identifiers, the cell and the NAS message. -/
def Describes (decoded : NgapMessage) : NgapNasTransport → Prop
  | initialUe ranUeId userLocation nasPdu =>
      decoded.procedureCode = 24 ∧ ∃ req, decoded.payload = .initialUeMessage req
        ∧ req.ueIds = ⟨ranUeId, 0⟩ ∧ req.userLocation.nrCgi.cellId = userLocation.nrCgi.cellId
        ∧ req.nasPdu.1 = nasPdu
  | uplink ranUeId amfUeId userLocation nasPdu =>
      decoded.procedureCode = 36 ∧ ∃ req, decoded.payload = .uplinkNasTransport req
        ∧ req.ueIds = ⟨ranUeId, amfUeId⟩ ∧ req.userLocation.nrCgi.cellId = userLocation.nrCgi.cellId
        ∧ req.nasPdu.1 = nasPdu

/-- Whenever the message is encoded, the decoder finds the same in the bytes. -/
def ComesBack (transport : NgapNasTransport) : Prop :=
  ∀ mem uninit data length, ngapEncodeMessage (some mem) transport.message = .ok (data, length) →
    ∃ decoded, ngapDecodeMessage uninit data length = .ok decoded ∧ transport.Describes decoded

/-- The bytes are the same, whatever the memory of the buffer held before. -/
def EncodesAlike (transport : NgapNasTransport) : Prop :=
  ∀ mem mem' data data' length length',
    ngapEncodeMessage (some mem) transport.message = .ok (data, length) →
    ngapEncodeMessage (some mem') transport.message = .ok (data', length') →
    length = length' ∧ ∀ i < length, data i = data' i

/-! ### What is encoded -/

/-- The bytes for a NAS message: its length, and if there is one its length again and the message. -/
def nasBytes (nasPdu : List Byte) : Nat :=
  asn1LengthBytes (ngapCopyNasPdu nasPdu).1.length
    + if (ngapCopyNasPdu nasPdu).1.length > 0 then
        asn1LengthBytes (ngapCopyNasPdu nasPdu).1.length + (ngapCopyNasPdu nasPdu).1.length
      else 0

def encodedLength : NgapNasTransport → Nat
  | initialUe _ _ nasPdu => 15 + nasBytes nasPdu
  | uplink _ _ _ nasPdu => 19 + nasBytes nasPdu

theorem moves_ngapEncodeNasPdu (nasPdu : List Byte) :
    asn1Moves (ngapEncodeNasPdu (ngapCopyNasPdu nasPdu)) = 8 * nasBytes nasPdu := by
  rw [ngapEncodeNasPdu, asn1Moves_cons, nasBytes]
  split
  · rw [asn1Moves_cons, asn1Moves_nil, Asn1Call.moves, Asn1Call.moves]
    omega
  · rw [asn1Moves_nil, Asn1Call.moves]
    rfl

theorem moves_message (transport : NgapNasTransport) :
    asn1Moves (ngapEncodeHeader transport.message ++ ngapEncodePayload transport.message.payload)
      = 8 * transport.encodedLength := by
  cases transport with
  | initialUe ranUeId userLocation nasPdu =>
      change asn1Moves (_ ++ (_ ++ _ ++ ngapEncodeNasPdu (ngapCopyNasPdu nasPdu))) = _
      rw [asn1Moves_append, asn1Moves_append, moves_ngapEncodeNasPdu, encodedLength, Nat.mul_add,
        ← Nat.add_assoc]
      rfl
  | uplink ranUeId amfUeId userLocation nasPdu =>
      change asn1Moves (_ ++ (_ ++ _ ++ ngapEncodeNasPdu (ngapCopyNasPdu nasPdu))) = _
      rw [asn1Moves_append, asn1Moves_append, moves_ngapEncodeNasPdu, encodedLength, Nat.mul_add,
        ← Nat.add_assoc]
      rfl

theorem noBitString_message (transport : NgapNasTransport) :
    ∀ call ∈ ngapEncodeHeader transport.message ++ ngapEncodePayload transport.message.payload,
      call.NoBitString := by
  have hheader : ∀ msg, ∀ call ∈ ngapEncodeHeader msg, call.NoBitString := by
    simp [ngapEncodeHeader, Asn1Call.NoBitString]
  have hids : ∀ ids, ∀ call ∈ ngapEncodeUeIds ids, call.NoBitString := by
    simp [ngapEncodeUeIds, Asn1Call.NoBitString]
  have hlocation : ∀ location, ∀ call ∈ ngapEncodeUserLocation location, call.NoBitString := by
    simp [ngapEncodeUserLocation, ngapEncodePlmnId, Asn1Call.NoBitString]
  have hnas : ∀ nasPdu, ∀ call ∈ ngapEncodeNasPdu nasPdu, call.NoBitString := by
    intro nasPdu
    rw [ngapEncodeNasPdu, List.forall_mem_cons]
    refine ⟨trivial, ?_⟩
    split
    · exact List.forall_mem_singleton.mpr trivial
    · exact List.forall_mem_nil _
  have hcause : ∀ cause : Word, ∀ call ∈ [Asn1Call.bits cause 4, .bits 0 4], call.NoBitString := by
    simp [Asn1Call.NoBitString]
  cases transport with
  | initialUe ranUeId userLocation nasPdu =>
      refine List.forall_mem_append.mpr ⟨hheader _, List.forall_mem_append.mpr ⟨?_, hnas _⟩⟩
      exact List.forall_mem_append.mpr ⟨List.forall_mem_cons.mpr ⟨trivial, hlocation _⟩, hcause _⟩
  | uplink ranUeId amfUeId userLocation nasPdu =>
      refine List.forall_mem_append.mpr ⟨hheader _, List.forall_mem_append.mpr ⟨?_, hnas _⟩⟩
      exact List.forall_mem_append.mpr ⟨hids _, hlocation _⟩

theorem nasBytes_le (nasPdu : List Byte) : nasBytes nasPdu ≤ 6 + ngapMaxNasPdu := by
  have hlength := (ngapCopyNasPdu nasPdu).2
  have hbytes : asn1LengthBytes (ngapCopyNasPdu nasPdu).1.length ≤ 3 := by
    rw [asn1LengthBytes]
    split
    · decide
    · split <;> decide
  rw [nasBytes]
  split <;> omega

theorem encodedLength_le (transport : NgapNasTransport) :
    transport.encodedLength ≤ ngapMaxMessageSize := by
  have hle := nasBytes_le transport.nasPdu
  cases transport with
  | initialUe ranUeId userLocation nasPdu => exact (Nat.add_le_add_left hle 15).trans (by decide)
  | uplink ranUeId amfUeId userLocation nasPdu => exact (Nat.add_le_add_left hle 19).trans (by decide)

/-- The message is encoded whole, and its first byte is the code written over what the memory held. -/
theorem ngapEncodeMessage_message (transport : NgapNasTransport) (mem : Memory) :
    ∃ data, ngapEncodeMessage (some mem) transport.message = .ok (data, transport.encodedLength)
      ∧ ∀ pos < 8, bitAt data pos = bitAt (writeBits mem 0 transport.message.procedureCode 8) pos := by
  let buf : Asn1Buffer := ⟨mem, 0, ngapMaxMessageSize, 0⟩
  let mid : Asn1Buffer :=
    ⟨writeBits mem 0 transport.message.procedureCode 8, 1, ngapMaxMessageSize, 8⟩
  have hfirst : asn1EncodeBits buf transport.message.procedureCode 8 = (mid, .ok ()) := by
    have hroom : buf.bitOffset + 8 ≤ 8 * buf.capacity := by
      change 0 + 8 ≤ 8 * ngapMaxMessageSize
      decide
    simp [asn1EncodeBits_eq (by decide) hroom, buf, mid]
  obtain ⟨calls, hcalls⟩ : ∃ calls, ngapEncodeHeader transport.message
      ++ ngapEncodePayload transport.message.payload
        = .bits transport.message.procedureCode 8 :: calls := ⟨_, rfl⟩
  have hmoves := transport.moves_message
  have hplain := transport.noBitString_message
  have hle := transport.encodedLength_le
  rw [hcalls, asn1Moves_cons] at hmoves
  change 8 + _ = _ at hmoves
  rw [hcalls] at hplain
  have hrun : mid.MovedBy (asn1Run mid calls) (asn1Moves calls) := by
    apply asn1Run_movedBy fun call hcall => hplain call (List.mem_cons_of_mem _ hcall)
    change 8 + _ ≤ 8 * ngapMaxMessageSize
    omega
  refine ⟨(asn1Run mid calls).data, ?_, fun pos hpos => hrun.keeps pos hpos⟩
  have hlength : asn1BufferLength (asn1Run mid calls) = transport.encodedLength := by
    rw [asn1BufferLength, hrun.bitOffset]
    change (8 + asn1Moves calls + 7) / 8 = _
    omega
  rw [← hlength, ngapEncodeMessage, hcalls]
  change Except.ok ((asn1Run (asn1EncodeBits buf transport.message.procedureCode 8).1 calls).data,
    asn1BufferLength (asn1Run (asn1EncodeBits buf transport.message.procedureCode 8).1 calls)) = _
  rw [hfirst]

/-! ### The memory shows through -/

theorem getLsbD_procedureCode (transport : NgapNasTransport) :
    transport.message.procedureCode.getLsbD 7 = false := by
  cases transport with
  | initialUe ranUeId userLocation nasPdu =>
      change (24 : Word).getLsbD 7 = false
      decide
  | uplink ranUeId amfUeId userLocation nasPdu =>
      change (36 : Word).getLsbD 7 = false
      decide

theorem bitAt_zero_encoded (transport : NgapNasTransport) {mem data : Memory} {length : Nat}
    (hencoded : ngapEncodeMessage (some mem) transport.message = .ok (data, length)) :
    bitAt data 0 = bitAt mem 0 := by
  obtain ⟨_, hencoded', hbits⟩ := ngapEncodeMessage_message transport mem
  obtain ⟨rfl, -⟩ := Prod.mk.inj (Except.ok.inj (hencoded'.symm.trans hencoded))
  rw [hbits 0 (by decide), bitAt_writeBits, getLsbD_procedureCode, Bool.and_false, Bool.or_false]

def ones : Memory := fun _ => 0xFF

theorem encodedLength_pos (transport : NgapNasTransport) : 0 < transport.encodedLength := by
  cases transport with
  | initialUe ranUeId userLocation nasPdu => exact Nat.add_pos_left (by decide) _
  | uplink ranUeId amfUeId userLocation nasPdu => exact Nat.add_pos_left (by decide) _

theorem not_encodesAlike (transport : NgapNasTransport) : ¬transport.EncodesAlike := by
  intro halike
  obtain ⟨data, hdata, -⟩ := ngapEncodeMessage_message transport zeros
  obtain ⟨data', hdata', -⟩ := ngapEncodeMessage_message transport ones
  have hbyte := (halike _ _ _ _ _ _ hdata hdata').2 0 transport.encodedLength_pos
  have hclear : bitAt data 0 = false := (bitAt_zero_encoded transport hdata).trans rfl
  have hset : bitAt data' 0 = true := (bitAt_zero_encoded transport hdata').trans rfl
  have hsame : bitAt data 0 = bitAt data' 0 := congrArg (·.getLsbD 7) hbyte
  rw [hclear, hset] at hsame
  cases hsame

/-! ### What is decoded -/

theorem ngapDecodeBits_eq (data : Memory) (bitOffset : Nat) {numBits : Nat} (hbits : numBits ≤ 32)
    (old : Word) :
    ngapDecodeBits data bitOffset numBits old
      = (bitOffset + numBits, readBits data bitOffset 0 numBits) := by
  rw [ngapDecodeBits, asn1DecodeBits_eq data bitOffset hbits]

theorem ngapDecodeBits_refused (data : Memory) (bitOffset : Nat) {numBits : Nat} (hbits : 32 < numBits)
    (old : Word) : ngapDecodeBits data bitOffset numBits old = (bitOffset, old) := by
  rw [ngapDecodeBits, asn1DecodeBits, if_pos hbits]

theorem ngapDecodeMessage_eq {uninit : Word} {data : Memory} {len : Nat} {decoded : NgapMessage}
    (hdecoded : ngapDecodeMessage uninit data len = .ok decoded) :
    decoded.procedureCode = readBits data 0 0 8
      ∧ decoded.payload = ngapDecodePayload uninit data len 24 (readBits data 0 0 8) := by
  rw [ngapDecodeMessage] at hdecoded
  split at hdecoded
  · cases hdecoded
  · simp (disch := decide) only [ngapDecodeBits_eq] at hdecoded
    obtain rfl := Except.ok.inj hdecoded
    exact ⟨rfl, rfl⟩

theorem Describes.procedureCode {transport : NgapNasTransport} {decoded : NgapMessage}
    (h : transport.Describes decoded) : decoded.procedureCode = transport.message.procedureCode := by
  cases transport with
  | initialUe ranUeId userLocation nasPdu => exact h.1
  | uplink ranUeId amfUeId userLocation nasPdu => exact h.1

theorem not_comesBack (transport : NgapNasTransport) : ¬transport.ComesBack := by
  intro hback
  obtain ⟨data, hdata, -⟩ := ngapEncodeMessage_message transport ones
  obtain ⟨decoded, hdecoded, hdescribes⟩ := hback ones 0 _ _ hdata
  have hcode : readBits data 0 0 8 = transport.message.procedureCode := by
    rw [← (ngapDecodeMessage_eq hdecoded).1, hdescribes.procedureCode]
  have hset : (readBits data 0 (0 : Word) 8).getLsbD 7 = bitAt ones 0 := by
    rw [getLsbD_readBits, ← bitAt_zero_encoded transport hdata]
    rfl
  rw [hcode, getLsbD_procedureCode] at hset
  cases hset

/-- **No message comes back from every memory, and none is encoded alike in every memory.** -/
theorem not_comesBack_and_not_encodesAlike (transport : NgapNasTransport) :
    ¬transport.ComesBack ∧ ¬transport.EncodesAlike :=
  ⟨transport.not_comesBack, transport.not_encodesAlike⟩

/-! ### Where the NAS message is looked for -/

theorem length_ngapDecodeNasPdu (data : Memory) (len dataOffset : Nat) :
    (ngapDecodeNasPdu data len dataOffset).1.length = min ngapMaxNasPdu (len - dataOffset) := by
  rw [ngapDecodeNasPdu]
  split
  · rw [ngapCopyNasPdu, List.length_take, List.length_map, List.length_range']
  · rename_i hend
    rw [Nat.sub_eq_zero_of_le (Nat.not_lt.mp hend), Nat.min_zero]
    rfl

/-- The cell identity is not read, so that the tracking area code is read in its place. -/
theorem nasPdu_ngapDecodeInitialUeMessage (uninit : Word) (data : Memory) {len : Nat} (hlen : 17 ≤ len) :
    (ngapDecodeInitialUeMessage uninit data len 24).nasPdu = ngapDecodeNasPdu data len 14 := by
  have hlocation : asn1SkipToByteBoundary (24 + 32) / 8 + 10 ≤ len := hlen
  rw [ngapDecodeInitialUeMessage]
  simp (disch := decide) only [ngapDecodeBits_eq, ngapDecodeBits_refused, if_pos hlocation]
  rfl

theorem nasPdu_ngapDecodeUplinkNasTransport (uninit : Word) (data : Memory) (len : Nat) :
    (ngapDecodeUplinkNasTransport uninit data len 24).nasPdu = ngapDecodeNasPdu data len 22 := by
  rw [ngapDecodeUplinkNasTransport]
  simp (disch := decide) only [ngapDecodeBits_eq]
  rfl

theorem length_ngapCopyNasPdu (nasPdu : List Byte) :
    (ngapCopyNasPdu nasPdu).1.length = min ngapMaxNasPdu nasPdu.length := List.length_take

/-- **Whatever the memory holds, a NAS message does not come back, unless it is empty or fills the array.**
The bytes in front of it are taken for a part of it, or its first byte is lost. -/
theorem not_describes_of_nasPdu (transport : NgapNasTransport) (hne : transport.nasPdu ≠ [])
    (hlen : transport.nasPdu.length ≠ ngapMaxNasPdu) {mem data : Memory} {length : Nat} {uninit : Word}
    {decoded : NgapMessage}
    (hencoded : ngapEncodeMessage (some mem) transport.message = .ok (data, length))
    (hdecoded : ngapDecodeMessage uninit data length = .ok decoded) : ¬transport.Describes decoded := by
  obtain ⟨_, hencoded', -⟩ := ngapEncodeMessage_message transport mem
  obtain ⟨rfl, rfl⟩ := Prod.mk.inj (Except.ok.inj (hencoded'.symm.trans hencoded))
  obtain ⟨hcode, hpayload⟩ := ngapDecodeMessage_eq hdecoded
  have hpos : 0 < transport.nasPdu.length := List.length_pos_iff.mpr hne
  have hbytes := asn1LengthBytes_pos (ngapCopyNasPdu transport.nasPdu).1.length
  have hmax : ngapMaxNasPdu = 4096 := rfl
  intro hdescribes
  have hprocedure := hdescribes.procedureCode
  rw [hcode] at hprocedure
  rw [hprocedure] at hpayload
  have hcopied : (ngapCopyNasPdu transport.nasPdu).1.length > 0 := by
    rw [length_ngapCopyNasPdu]
    omega
  have hnas : nasBytes transport.nasPdu = 2 * asn1LengthBytes (ngapCopyNasPdu transport.nasPdu).1.length
      + min ngapMaxNasPdu transport.nasPdu.length := by
    rw [nasBytes, if_pos hcopied, length_ngapCopyNasPdu]
    omega
  cases transport with
  | initialUe ranUeId userLocation nasPdu =>
      obtain ⟨-, req, hreq, -, -, hsame⟩ := hdescribes
      obtain rfl := NgapPayload.initialUeMessage.inj (hpayload.symm.trans hreq)
      have hlong : 17 ≤ (initialUe ranUeId userLocation nasPdu).encodedLength := by
        change 17 ≤ 15 + nasBytes (initialUe ranUeId userLocation nasPdu).nasPdu
        omega
      have hlength := congrArg List.length hsame
      rw [nasPdu_ngapDecodeInitialUeMessage _ _ hlong, length_ngapDecodeNasPdu] at hlength
      change min ngapMaxNasPdu (15 + nasBytes (initialUe ranUeId userLocation nasPdu).nasPdu - 14)
        = (initialUe ranUeId userLocation nasPdu).nasPdu.length at hlength
      omega
  | uplink ranUeId amfUeId userLocation nasPdu =>
      obtain ⟨-, req, hreq, -, -, hsame⟩ := hdescribes
      obtain rfl := NgapPayload.uplinkNasTransport.inj (hpayload.symm.trans hreq)
      have hlength := congrArg List.length hsame
      rw [nasPdu_ngapDecodeUplinkNasTransport, length_ngapDecodeNasPdu] at hlength
      change min ngapMaxNasPdu (19 + nasBytes (uplink ranUeId amfUeId userLocation nasPdu).nasPdu - 22)
        = (uplink ranUeId amfUeId userLocation nasPdu).nasPdu.length at hlength
      omega

def ngapShortUplink : NgapNasTransport := .uplink 1 1 ngapNoUserLocation [0x7E, 0]

/-- It is lost in clear memory, too. -/
theorem ngapShortUplink_not_describes :
    ∃ data length, ngapEncodeMessage (some zeros) ngapShortUplink.message = .ok (data, length)
      ∧ ∀ uninit decoded, ngapDecodeMessage uninit data length = .ok decoded →
        ¬ngapShortUplink.Describes decoded := by
  obtain ⟨data, hencoded, -⟩ := ngapEncodeMessage_message ngapShortUplink zeros
  have hne : ngapShortUplink.nasPdu ≠ [] := List.cons_ne_nil _ _
  have hlen : ngapShortUplink.nasPdu.length ≠ ngapMaxNasPdu := by decide
  exact ⟨data, _, hencoded, fun _ _ hdecoded => not_describes_of_nasPdu _ hne hlen hencoded hdecoded⟩

end NgapNasTransport

end Uesim
