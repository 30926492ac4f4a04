import Uesim.Asn1.RrcMessages
import Uesim.Library.Reading

/-!
# RRC messages of fixed layout

The messages that carry no container, and the remaining encoders. The decoders are programs that read the
message, so that besides what they return one can ask which bytes they look at.
-/

namespace Uesim

open Bytes BitMemory

structure RrcUeIdentity where
  type : Byte
  randomValue : BitVec 64

inductive RrcEstablishmentCause where
  | emergency
  | mtAccess
  | moSignalling
  | moData
  | mtData
  | delayTolerant

def RrcEstablishmentCause.code : RrcEstablishmentCause → Word
  | emergency => 0
  | mtAccess => 1
  | moSignalling => 2
  | moData => 3
  | mtData => 4
  | delayTolerant => 5

inductive RrcReestablishmentCause where
  | reconfigFailure
  | handoverFailure
  | otherFailure

def RrcReestablishmentCause.code : RrcReestablishmentCause → Word
  | reconfigFailure => 0
  | handoverFailure => 1
  | otherFailure => 2

/-- The cause is held as its value, because a decoder makes one of any bits. -/
structure RrcSetupRequest where
  ueIdentity : RrcUeIdentity
  establishmentCause : Word

structure RrcReestRequest where
  ueIdentity : RrcUeIdentity
  reestablishmentCause : Word
  pci : BitVec 16
  cRnti : Word
  shortMacI : Byte × Byte

/-- Powers are signed numbers of thirty-two bits. -/
structure RrcMeasurementReport where
  measId : Byte
  rsrp : Word
  rsrq : Word
  pci : BitVec 16
  cellId : Word

/-- `rrc_handover_prep_t` has the members of a measurement report. -/
abbrev RrcHandoverPrep := RrcMeasurementReport

structure RrcUeCapEnquiry where
  enquiryId : Byte
  ratTypes : Memory
  numRatTypes : Nat

structure RrcUeCapInfo where
  ratType : Byte
  capabilityContainer : Memory
  containerLen : Nat

structure RrcConnectionRelease where
  releaseCause : Byte
  redirectCarrier : Bool
  redirectEarfcn : BitVec 16

structure RrcSecurityModeCmd where
  rrcTransactionId : Byte
  cipheringAlg : Byte
  integrityAlg : Byte
  securityCapabilities : Memory
  capabilitiesLen : Nat

/-- The messages whose only member is the transaction identifier. -/
structure RrcTransaction where
  rrcTransactionId : Byte

abbrev RrcReestComplete := RrcTransaction

abbrev RrcReconfigComplete := RrcTransaction

abbrev RrcHandoverConfirm := RrcTransaction

abbrev RrcSecurityModeComplete := RrcTransaction

/-! ### Encoders -/

def rrcUeIdentityFields (ueIdentity : RrcUeIdentity) : List (Word × Nat) :=
  [(ueIdentity.type.setWidth 32, 1), ((ueIdentity.randomValue >>> 8).setWidth 32, 31),
    ((ueIdentity.randomValue &&& 0xFF).setWidth 32, 8)]

def rrcEncodeSetupRequest (buf : Asn1Buffer) (msg : RrcSetupRequest) :
    Asn1Buffer × Except UesimError Unit :=
  let buf := (asn1EncodeEnumerated (asn1Clear buf) msg.establishmentCause 4).1
  (asn1EncodeFields buf ((0, 1) :: rrcUeIdentityFields msg.ueIdentity), .ok ())

def rrcEncodeReestRequest (buf : Asn1Buffer) (msg : RrcReestRequest) :
    Asn1Buffer × Except UesimError Unit :=
  let buf := (asn1EncodeEnumerated (asn1Clear buf) msg.reestablishmentCause 3).1
  (asn1EncodeFields buf
    ([(msg.pci.setWidth 32, 16), (msg.cRnti, 16), (msg.shortMacI.1.setWidth 32, 8),
      (msg.shortMacI.2.setWidth 32, 8)] ++ rrcUeIdentityFields msg.ueIdentity), .ok ())

def rrcEncodeTransaction (buf : Asn1Buffer) (msg : RrcTransaction) :
    Asn1Buffer × Except UesimError Unit :=
  (asn1EncodeFields (asn1Clear buf) [(msg.rrcTransactionId.setWidth 32, 2), (0, 6)], .ok ())

def rrcEncodeReestComplete (buf : Asn1Buffer) (msg : RrcReestComplete) :
    Asn1Buffer × Except UesimError Unit := rrcEncodeTransaction buf msg

def rrcEncodeReconfigComplete (buf : Asn1Buffer) (msg : RrcReconfigComplete) :
    Asn1Buffer × Except UesimError Unit := rrcEncodeTransaction buf msg

def rrcEncodeHandoverConfirm (buf : Asn1Buffer) (msg : RrcHandoverConfirm) :
    Asn1Buffer × Except UesimError Unit := rrcEncodeTransaction buf msg

def rrcEncodeSecurityModeComplete (buf : Asn1Buffer) (msg : RrcSecurityModeComplete) :
    Asn1Buffer × Except UesimError Unit := rrcEncodeTransaction buf msg

def rrcEncodeMeasurementReport (buf : Asn1Buffer) (msg : RrcMeasurementReport) :
    Asn1Buffer × Except UesimError Unit :=
  (asn1EncodeFields (asn1Clear buf)
    [(msg.measId.setWidth 32, 6), (0, 2), (msg.rsrp + 140, 8), (msg.rsrq + 20, 7),
      (msg.pci.setWidth 32, 16), (msg.cellId, 28)], .ok ())

def rrcEncodeHandoverPrep (buf : Asn1Buffer) (msg : RrcHandoverPrep) :
    Asn1Buffer × Except UesimError Unit := rrcEncodeMeasurementReport buf msg

/-- The count is written as it is, and then no more than eight types. -/
def rrcEncodeUeCapEnquiry (buf : Asn1Buffer) (msg : RrcUeCapEnquiry) :
    Asn1Buffer × Except UesimError Unit :=
  (asn1EncodeFields (asn1Clear buf)
    ([(msg.enquiryId.setWidth 32, 4), (BitVec.ofNat 32 msg.numRatTypes, 4)]
      ++ (List.range (min msg.numRatTypes 8)).map fun i => ((msg.ratTypes i).setWidth 32, 4)),
    .ok ())

def rrcEncodeUeCapInfo (buf : Asn1Buffer) (msg : RrcUeCapInfo) :
    Asn1Buffer × Except UesimError Unit :=
  let buf := asn1EncodeFields (asn1Clear buf) [(msg.ratType.setWidth 32, 4), (0, 4)]
  ((asn1EncodeOctetString buf msg.capabilityContainer msg.containerLen).1, .ok ())

def rrcEncodeConnectionRelease (buf : Asn1Buffer) (msg : RrcConnectionRelease) :
    Asn1Buffer × Except UesimError Unit :=
  let buf := (asn1EncodeBits (asn1Clear buf) (msg.releaseCause.setWidth 32) 3).1
  let buf := (asn1EncodeBoolean buf msg.redirectCarrier).1
  let buf :=
    if msg.redirectCarrier then (asn1EncodeBits buf (msg.redirectEarfcn.setWidth 32) 16).1 else buf
  ((asn1EncodeBits buf 0 5).1, .ok ())

def rrcEncodeSecurityModeCmd (buf : Asn1Buffer) (msg : RrcSecurityModeCmd) :
    Asn1Buffer × Except UesimError Unit :=
  let buf := asn1EncodeFields (asn1Clear buf)
    [(msg.rrcTransactionId.setWidth 32, 2), (0, 6), (msg.cipheringAlg.setWidth 32, 4),
      (msg.integrityAlg.setWidth 32, 4)]
  let capLen := if msg.capabilitiesLen > 4 then 4 else msg.capabilitiesLen
  (if capLen > 0 then (asn1EncodeOctetString buf msg.securityCapabilities capLen).1 else buf, .ok ())

/-! ### Decoders -/

/-- `asn1_decode_bits` with a result that is not looked at. No decoder asks for more than thirty-two
bits. -/
def asn1ReadBits (bitOffset numBits : Nat) : Reading (Nat × Word) := do
  if numBits > 32 then pure (bitOffset, 0)
  else
    let value ← Reading.bits bitOffset (0 : Word) numBits
    pure (bitOffset + numBits, value)

def asn1ReadBoolean (bitOffset : Nat) : Reading (Nat × Bool) := do
  let (bitOffset, value) ← asn1ReadBits bitOffset 1
  pure (bitOffset, value != 0)

def asn1ReadEnumerated (bitOffset : Nat) (numValues : Word) : Reading (Nat × Word) :=
  if numValues ≤ 1 then pure (bitOffset, 0)
  else asn1ReadBits bitOffset (countBits (numValues - 1))

/-- `((uint64_t)high << 8) | low` -/
def rrcRandomValue (high low : Word) : BitVec 64 := high.setWidth 64 <<< 8 ||| low.setWidth 64

def rrcReadUeIdentity (bitOffset : Nat) : Reading RrcUeIdentity := do
  let (bitOffset, type) ← asn1ReadBits bitOffset 1
  let (bitOffset, high) ← asn1ReadBits bitOffset 31
  let (_, low) ← asn1ReadBits bitOffset 8
  pure { type := type.setWidth 8, randomValue := rrcRandomValue high low }

def rrcDecodeSetupRequest (len : Nat) : Reading (Except UesimError RrcSetupRequest) := do
  if len < 6 then pure (.error .invalidParam)
  else
    let (bitOffset, cause) ← asn1ReadEnumerated 0 4
    let (bitOffset, _) ← asn1ReadBits bitOffset 1
    let ueIdentity ← rrcReadUeIdentity bitOffset
    pure (.ok { ueIdentity, establishmentCause := cause })

def rrcDecodeReestRequest (len : Nat) : Reading (Except UesimError RrcReestRequest) := do
  if len < 12 then pure (.error .invalidParam)
  else
    let (bitOffset, cause) ← asn1ReadEnumerated 0 3
    let (bitOffset, pci) ← asn1ReadBits bitOffset 16
    let (bitOffset, crnti) ← asn1ReadBits bitOffset 16
    let (bitOffset, mac0) ← asn1ReadBits bitOffset 8
    let (bitOffset, mac1) ← asn1ReadBits bitOffset 8
    let ueIdentity ← rrcReadUeIdentity bitOffset
    pure (.ok
      { ueIdentity
        reestablishmentCause := cause
        pci := pci.setWidth 16
        cRnti := crnti
        shortMacI := (mac0.setWidth 8, mac1.setWidth 8) })

def rrcDecodeReconfigComplete (len : Nat) : Reading (Except UesimError RrcReconfigComplete) := do
  if len < 1 then pure (.error .invalidParam)
  else
    let (_, tid) ← asn1ReadBits 0 2
    pure (.ok { rrcTransactionId := tid.setWidth 8 })

def rrcDecodeMeasurementReport (len : Nat) : Reading (Except UesimError RrcMeasurementReport) := do
  if len < 10 then pure (.error .invalidParam)
  else
    let (bitOffset, measId) ← asn1ReadBits 0 6
    let (bitOffset, _) ← asn1ReadBits bitOffset 2
    let (bitOffset, rsrp) ← asn1ReadBits bitOffset 8
    let (bitOffset, rsrq) ← asn1ReadBits bitOffset 7
    let (bitOffset, pci) ← asn1ReadBits bitOffset 16
    let (_, cellId) ← asn1ReadBits bitOffset 28
    pure (.ok
      { measId := measId.setWidth 8
        rsrp := rsrp - 140
        rsrq := rsrq - 20
        pci := pci.setWidth 16
        cellId })

/-- The loop over the types, with so many to go, from type `i` on. -/
def rrcReadRatTypes : Nat → Nat → Nat → Memory → Reading Memory
  | 0, _, _, ratTypes => pure ratTypes
  | rounds + 1, i, bitOffset, ratTypes => do
      let (bitOffset, rat) ← asn1ReadBits bitOffset 4
      rrcReadRatTypes rounds (i + 1) bitOffset (Function.update ratTypes i (rat.setWidth 8))

/-- The message that is filled in keeps its other types. -/
def rrcDecodeUeCapEnquiry (len : Nat) (msg : RrcUeCapEnquiry) :
    Reading (Except UesimError RrcUeCapEnquiry) := do
  if len < 2 then pure (.error .invalidParam)
  else
    let (bitOffset, eid) ← asn1ReadBits 0 4
    let (bitOffset, num) ← asn1ReadBits bitOffset 4
    let numRatTypes := if num < 8 then num.toNat else 8
    let ratTypes ← rrcReadRatTypes numRatTypes 0 bitOffset msg.ratTypes
    pure (.ok { enquiryId := eid.setWidth 8, ratTypes, numRatTypes })

def rrcDecodeConnectionRelease (len : Nat) : Reading (Except UesimError RrcConnectionRelease) := do
  if len < 2 then pure (.error .invalidParam)
  else
    let (bitOffset, cause) ← asn1ReadBits 0 3
    let (bitOffset, redirect) ← asn1ReadBoolean bitOffset
    if redirect then
      let (_, earfcn) ← asn1ReadBits bitOffset 16
      pure (.ok
        { releaseCause := cause.setWidth 8
          redirectCarrier := redirect
          redirectEarfcn := earfcn.setWidth 16 })
    else
      pure (.ok { releaseCause := cause.setWidth 8, redirectCarrier := redirect, redirectEarfcn := 0 })

end Uesim
