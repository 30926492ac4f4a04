import Uesim.Asn1.Per

/-!
# RRC messages that carry containers

The encoders clear the buffer, write a few bit fields and then a container as an octet string. The decoders
read the fields back and take what follows for the container.
-/

namespace Uesim

open Bytes BitMemory

/-- `rrc_setup_t`, of which the encoder and the decoder use these members. -/
structure RrcSetup where
  rrcTransactionId : Byte
  radioBearerConfig : Memory
  configLen : Nat

structure RrcSetupComplete where
  rrcTransactionId : Byte
  selectedPlmn : Byte
  nasPdu : Memory
  nasPduLen : Nat

structure RrcReestablishment where
  rrcTransactionId : Byte
  radioBearerConfig : Memory
  configLen : Nat

structure RrcReconfiguration where
  rrcTransactionId : Byte
  radioBearerConfig : Memory
  configLen : Nat
  measConfig : Memory
  measConfigLen : Nat
  hasMobilityConfig : Bool
  mobilityConfig : Memory
  mobilityConfigLen : Nat

structure RrcHandoverCommand where
  rrcTransactionId : Byte
  targetPci : BitVec 16
  targetCellId : Word
  newCRnti : Byte
  radioBearerConfig : Memory
  configLen : Nat

/-! ### Encoders -/

/-- `memset(buf->data, 0, buf->capacity)` with both counts set to zero. -/
def asn1Clear (buf : Asn1Buffer) : Asn1Buffer :=
  { buf with
    data := fun i => if i < buf.capacity then 0 else buf.data i
    size := 0
    bitOffset := 0 }

/-- Writers one after the other. No encoder looks at their results. -/
def asn1EncodeFields (buf : Asn1Buffer) : List (Word × Nat) → Asn1Buffer
  | [] => buf
  | (value, numBits) :: fields => asn1EncodeFields (asn1EncodeBits buf value numBits).1 fields

/-- The transaction identifier with six spare bits, and the radio bearer configuration. -/
def rrcEncodeConfig (buf : Asn1Buffer) (rrcTransactionId : Byte) (radioBearerConfig : Memory)
    (configLen : Nat) : Asn1Buffer :=
  let buf := asn1EncodeFields (asn1Clear buf) [(rrcTransactionId.setWidth 32, 2), (0, 6)]
  (asn1EncodeOctetString buf radioBearerConfig configLen).1

def rrcEncodeSetup (buf : Asn1Buffer) (msg : RrcSetup) : Asn1Buffer × Except UesimError Unit :=
  (rrcEncodeConfig buf msg.rrcTransactionId msg.radioBearerConfig msg.configLen, .ok ())

def rrcEncodeSetupComplete (buf : Asn1Buffer) (msg : RrcSetupComplete) :
    Asn1Buffer × Except UesimError Unit :=
  let buf := asn1EncodeFields (asn1Clear buf)
    [(msg.rrcTransactionId.setWidth 32, 2), (msg.selectedPlmn.setWidth 32, 4), (0, 2)]
  ((asn1EncodeOctetString buf msg.nasPdu msg.nasPduLen).1, .ok ())

def rrcEncodeReestablishment (buf : Asn1Buffer) (msg : RrcReestablishment) :
    Asn1Buffer × Except UesimError Unit :=
  (rrcEncodeConfig buf msg.rrcTransactionId msg.radioBearerConfig msg.configLen, .ok ())

def rrcEncodeOptional (buf : Asn1Buffer) (present : Bool) (config : Memory) (len : Nat) :
    Asn1Buffer :=
  if present then (asn1EncodeOctetString (asn1EncodeBoolean buf true).1 config len).1
  else (asn1EncodeBoolean buf false).1

def rrcEncodeReconfiguration (buf : Asn1Buffer) (msg : RrcReconfiguration) :
    Asn1Buffer × Except UesimError Unit :=
  let buf := rrcEncodeConfig buf msg.rrcTransactionId msg.radioBearerConfig msg.configLen
  let buf := rrcEncodeOptional buf (msg.measConfigLen > 0) msg.measConfig msg.measConfigLen
  let buf := rrcEncodeOptional buf (msg.hasMobilityConfig && msg.mobilityConfigLen > 0)
    msg.mobilityConfig msg.mobilityConfigLen
  (buf, .ok ())

def rrcEncodeHandoverCommand (buf : Asn1Buffer) (msg : RrcHandoverCommand) :
    Asn1Buffer × Except UesimError Unit :=
  let buf := asn1EncodeFields (asn1Clear buf)
    [(msg.rrcTransactionId.setWidth 32, 2), (0, 6), (msg.targetPci.setWidth 32, 16),
      (msg.targetCellId, 28), (msg.newCRnti.setWidth 32, 16)]
  ((asn1EncodeOctetString buf msg.radioBearerConfig msg.configLen).1, .ok ())

/-! ### Decoders -/

/-- A reader whose result is not looked at. -/
def asn1TakeBits (data : Memory) (bitOffset numBits : Nat) : Nat × Word :=
  let (bitOffset, value) := asn1DecodeBits data bitOffset numBits
  (bitOffset, value.toOption.getD 0)

/-- All that follows from byte `dataOffset` on, as much of it as the array holds. The array keeps its
other bytes. -/
def rrcDecodeContainer (data : Memory) (len dataOffset maxLen : Nat) (container : Memory) :
    Memory × Nat :=
  if dataOffset < len then
    let containerLen := if len - dataOffset < maxLen then len - dataOffset else maxLen
    (copy container 0 (fun i => data (dataOffset + i)) containerLen, containerLen)
  else (container, 0)

/-- The decoders fill in a message, whose arrays hold what they held before behind what is copied. -/
def rrcDecodeSetup (data : Memory) (len : Nat) (msg : RrcSetup) : Except UesimError RrcSetup :=
  if len < 4 then .error .invalidParam
  else
    let (bitOffset, tid) := asn1TakeBits data 0 2
    let (bitOffset, _) := asn1TakeBits data bitOffset 6
    let (config, configLen) :=
      rrcDecodeContainer data len ((bitOffset + 7) / 8) 256 msg.radioBearerConfig
    .ok { rrcTransactionId := tid.setWidth 8, radioBearerConfig := config, configLen }

def rrcDecodeSetupComplete (data : Memory) (len : Nat) (msg : RrcSetupComplete) :
    Except UesimError RrcSetupComplete :=
  if len < 2 then .error .invalidParam
  else
    let (bitOffset, tid) := asn1TakeBits data 0 2
    let (bitOffset, plmn) := asn1TakeBits data bitOffset 4
    let (bitOffset, _) := asn1TakeBits data bitOffset 2
    let (nasPdu, nasPduLen) :=
      rrcDecodeContainer data len (asn1SkipToByteBoundary bitOffset / 8) 1024 msg.nasPdu
    .ok { rrcTransactionId := tid.setWidth 8, selectedPlmn := plmn.setWidth 8, nasPdu, nasPduLen }

def rrcDecodeReestablishment (data : Memory) (len : Nat) (msg : RrcReestablishment) :
    Except UesimError RrcReestablishment :=
  if len < 4 then .error .invalidParam
  else
    let (bitOffset, tid) := asn1TakeBits data 0 2
    let (bitOffset, _) := asn1TakeBits data bitOffset 6
    let (config, configLen) :=
      rrcDecodeContainer data len ((bitOffset + 7) / 8) 256 msg.radioBearerConfig
    .ok { rrcTransactionId := tid.setWidth 8, radioBearerConfig := config, configLen }

def rrcDecodeReconfiguration (data : Memory) (len : Nat) (msg : RrcReconfiguration) :
    Except UesimError RrcReconfiguration :=
  if len < 4 then .error .invalidParam
  else
    let (bitOffset, tid) := asn1TakeBits data 0 2
    let (bitOffset, _) := asn1TakeBits data bitOffset 6
    let (config, configLen) :=
      rrcDecodeContainer data len ((bitOffset + 7) / 8) 512 msg.radioBearerConfig
    .ok { msg with
      rrcTransactionId := tid.setWidth 8
      radioBearerConfig := config
      configLen
      measConfigLen := 0
      hasMobilityConfig := false
      mobilityConfigLen := 0 }

def rrcDecodeHandoverCommand (data : Memory) (len : Nat) (msg : RrcHandoverCommand) :
    Except UesimError RrcHandoverCommand :=
  if len < 10 then .error .invalidParam
  else
    let (bitOffset, tid) := asn1TakeBits data 0 2
    let (bitOffset, _) := asn1TakeBits data bitOffset 6
    let (bitOffset, pci) := asn1TakeBits data bitOffset 16
    let (bitOffset, cellId) := asn1TakeBits data bitOffset 28
    let (bitOffset, crnti) := asn1TakeBits data bitOffset 16
    let (config, configLen) :=
      rrcDecodeContainer data len ((bitOffset + 7) / 8) 512 msg.radioBearerConfig
    .ok
      { rrcTransactionId := tid.setWidth 8
        targetPci := pci.setWidth 16
        targetCellId := cellId
        newCRnti := crnti.setWidth 8
        radioBearerConfig := config
        configLen }

end Uesim
