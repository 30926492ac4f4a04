import Uesim.Library.FieldMemory
import Uesim.Library.Loop
import Uesim.Library.Tlv
import Uesim.Types

/-!
# Packet capture

A capture writes packets to a file, either behind a header each or as PCAPNG blocks. The packets are made up
layer by layer in one scratch buffer, and a layer passes the buffer on as the payload of the next.
-/

namespace Uesim

open Bytes Tlv BitMemory FieldMemory

def pcapMaxSnaplen : Nat := 65535
def pcapDefaultSnaplen : Word := 65535

def pcapLinktypeRaw : BitVec 16 := 101
def pcapPortGtpu : BitVec 16 := 2152

/-! ### What is written to the file -/

/-- The bytes of a number in the memory of a little-endian machine. -/
def littleEndian (v : BitVec w) (n : Nat) : List Byte := (beBytes v n).reverse

/-- A 32-bit field of bytes that begin with one. -/
def leField (bytes : List Byte) : Nat := (beValue 32 (bytes.take 4).reverse).toNat

@[simp]
theorem length_littleEndian (v : BitVec w) (n : Nat) : (littleEndian v n).length = n := by
  rw [littleEndian, List.length_reverse, length_beBytes]

theorem leField_littleEndian_append (v : Word) (rest : List Byte) :
    leField (littleEndian v 4 ++ rest) = v.toNat := by
  rw [leField, List.take_left' (length_littleEndian v 4), littleEndian, List.reverse_reverse,
    beValue_beBytes v (by decide)]

structure PcapFileHeader where
  magicNumber : Word
  versionMajor : BitVec 16
  versionMinor : BitVec 16
  thiszone : Word
  sigfigs : Word
  snaplen : Word
  network : Word

def PcapFileHeader.toBytes (header : PcapFileHeader) : List Byte :=
  littleEndian header.magicNumber 4 ++ littleEndian header.versionMajor 2
    ++ littleEndian header.versionMinor 2 ++ littleEndian header.thiszone 4
    ++ littleEndian header.sigfigs 4 ++ littleEndian header.snaplen 4 ++ littleEndian header.network 4

structure PcapPacketHeader where
  tsSec : Word
  tsUsec : Word
  inclLen : Word
  origLen : Word

def PcapPacketHeader.toBytes (header : PcapPacketHeader) : List Byte :=
  littleEndian header.tsSec 4 ++ littleEndian header.tsUsec 4 ++ littleEndian header.inclLen 4
    ++ littleEndian header.origLen 4

def pcapngSectionHeader : Word := 0x0A0D0D0A
def pcapngInterfaceDesc : Word := 1
def pcapngEnhancedPacket : Word := 6

structure PcapngSectionHeader where
  blockType : Word
  blockTotalLength : Word
  byteOrderMagic : Word
  majorVersion : BitVec 16
  minorVersion : BitVec 16
  sectionLength : BitVec 64

def PcapngSectionHeader.toBytes (shb : PcapngSectionHeader) : List Byte :=
  littleEndian shb.blockType 4 ++ littleEndian shb.blockTotalLength 4 ++ littleEndian shb.byteOrderMagic 4
    ++ littleEndian shb.majorVersion 2 ++ littleEndian shb.minorVersion 2
    ++ littleEndian shb.sectionLength 8

structure PcapngInterfaceDesc where
  blockType : Word
  blockTotalLength : Word
  linkType : BitVec 16
  reserved : BitVec 16
  snapLen : Word

def PcapngInterfaceDesc.toBytes (idb : PcapngInterfaceDesc) : List Byte :=
  littleEndian idb.blockType 4 ++ littleEndian idb.blockTotalLength 4 ++ littleEndian idb.linkType 2
    ++ littleEndian idb.reserved 2 ++ littleEndian idb.snapLen 4

structure PcapngEnhancedPacket where
  blockType : Word
  blockTotalLength : Word
  interfaceId : Word
  timestampHigh : Word
  timestampLow : Word
  capturedLen : Word
  originalLen : Word

def PcapngEnhancedPacket.toBytes (epb : PcapngEnhancedPacket) : List Byte :=
  littleEndian epb.blockType 4 ++ littleEndian epb.blockTotalLength 4 ++ littleEndian epb.interfaceId 4
    ++ littleEndian epb.timestampHigh 4 ++ littleEndian epb.timestampLow 4
    ++ littleEndian epb.capturedLen 4 ++ littleEndian epb.originalLen 4

theorem PcapPacketHeader.length_toBytes (header : PcapPacketHeader) : header.toBytes.length = 16 := by
  simp only [toBytes, List.length_append, length_littleEndian]

theorem PcapngSectionHeader.length_toBytes (shb : PcapngSectionHeader) : shb.toBytes.length = 24 := by
  simp only [toBytes, List.length_append, length_littleEndian]

theorem PcapngEnhancedPacket.length_toBytes (epb : PcapngEnhancedPacket) : epb.toBytes.length = 28 := by
  simp only [toBytes, List.length_append, length_littleEndian]

/-! ### The capture -/

/-- What `payload` points to. -/
inductive Payload where
  | null
  | bytes (data : List Byte)
  | packetBuffer
  deriving DecidableEq

def Payload.read (payload : Payload) (packetBuffer : Memory) : Memory :=
  match payload with
  | .null => zeros
  | .bytes data => ofBytes data
  | .packetBuffer => packetBuffer

structure PcapCapture where
  /-- What the file holds since it was opened, each header, description and packet by itself. -/
  file : List (List Byte)
  isOpen : Bool
  usePcapng : Bool
  snapLen : Word
  numInterfaces : Nat
  packetsCaptured : BitVec 64
  bytesCaptured : BitVec 64
  ngapPackets : BitVec 64
  gtpuPackets : BitVec 64
  packetBuffer : Memory
  bufferSize : Nat
  /-- One past the highest index at which the buffer has been written. -/
  bufferEnd : Nat

def pcapCaptureCreate (usePcapng : Bool) (packetBuffer : Memory) : PcapCapture where
  file := []
  isOpen := false
  usePcapng := usePcapng
  snapLen := pcapDefaultSnaplen
  numInterfaces := 0
  packetsCaptured := 0
  bytesCaptured := 0
  ngapPackets := 0
  gtpuPackets := 0
  packetBuffer := packetBuffer
  bufferSize := pcapMaxSnaplen
  bufferEnd := 0

namespace PcapCapture

def fwrite (pcap : PcapCapture) (bytes : List Byte) : PcapCapture :=
  { pcap with file := pcap.file ++ [bytes] }

/-- Copy to the packet buffer. -/
def memcpy (pcap : PcapCapture) (start : Nat) (src : Memory) (len : Nat) : PcapCapture :=
  { pcap with
    packetBuffer := copy pcap.packetBuffer start src len
    bufferEnd := max pcap.bufferEnd (start + len) }

/-- Set successive bytes of the packet buffer. -/
def put (pcap : PcapCapture) (start : Nat) (bytes : List Byte) : PcapCapture :=
  pcap.memcpy start (ofBytes bytes) bytes.length

end PcapCapture

def pcapCaptureAddInterface (pcap : PcapCapture) (linkType : BitVec 16) : Except UesimError PcapCapture :=
  if 16 ≤ pcap.numInterfaces then
    .error .capacity
  else
    let idb : PcapngInterfaceDesc :=
      { blockType := pcapngInterfaceDesc
        blockTotalLength := 16
        linkType := linkType
        reserved := 0
        snapLen := pcap.snapLen }
    let written := if pcap.usePcapng && pcap.isOpen then pcap.fwrite idb.toBytes else pcap
    .ok { written with numInterfaces := pcap.numInterfaces + 1 }

def sectionHeaderBlock : PcapngSectionHeader where
  blockType := pcapngSectionHeader
  blockTotalLength := 28
  byteOrderMagic := 0x0A0D0D0A
  majorVersion := 1
  minorVersion := 0
  sectionLength := 0xFFFFFFFFFFFFFFFF

def PcapCapture.fileHeader (pcap : PcapCapture) : PcapFileHeader where
  magicNumber := 0xA1B2C3D4
  versionMajor := 2
  versionMinor := 4
  thiszone := 0
  sigfigs := 0
  snaplen := pcap.snapLen
  network := pcapLinktypeRaw.setWidth 32

/-- `pcap_capture_open` where `fopen` succeeds or not. The default interface is added before the capture
counts as open. -/
def pcapCaptureOpen (pcap : PcapCapture) (fopens : Bool) : Except UesimError PcapCapture :=
  if pcap.isOpen then
    .error .invalidParam
  else if !fopens then
    .error .file
  else
    let empty : PcapCapture := { pcap with file := [] }
    if pcap.usePcapng then
      let headed := empty.fwrite sectionHeaderBlock.toBytes
      let described :=
        if pcap.numInterfaces = 0 then
          (pcapCaptureAddInterface headed pcapLinktypeRaw).toOption.getD headed
        else
          headed
      .ok { described with isOpen := true }
    else
      .ok { empty.fwrite pcap.fileHeader.toBytes with isOpen := true }

def pcapCaptureClose (pcap : PcapCapture) : PcapCapture := { pcap with isOpen := false }

/-! ### Packets -/

def pcapFormatTimestamp (ns : BitVec 64) : Word × Word :=
  (BitVec.ofNat 32 (ns.toNat / 1000000000), BitVec.ofNat 32 (ns.toNat % 1000000000 / 1000))

namespace PcapCapture

def captureLen (pcap : PcapCapture) (len : Nat) : Nat :=
  if pcap.snapLen.toNat < len then pcap.snapLen.toNat else len

/-- The block or record of a packet of which these bytes are captured. -/
def packetBlock (pcap : PcapCapture) (captured : List Byte) (len : Nat) (interfaceId : Word)
    (tsNs : BitVec 64) : List Byte :=
  if pcap.usePcapng then
    let epb : PcapngEnhancedPacket :=
      { blockType := pcapngEnhancedPacket
        blockTotalLength := BitVec.ofNat 32 (32 + (captured.length + 3) / 4 * 4 + 4)
        interfaceId := interfaceId
        timestampHigh := BitVec.ofNat 32 (tsNs.toNat / 2 ^ 32)
        timestampLow := BitVec.ofNat 32 tsNs.toNat
        capturedLen := BitVec.ofNat 32 captured.length
        originalLen := BitVec.ofNat 32 len }
    epb.toBytes ++ captured ++ List.replicate ((4 - captured.length % 4) % 4) 0
      ++ littleEndian epb.blockTotalLength 4
  else
    let header : PcapPacketHeader :=
      { tsSec := (pcapFormatTimestamp tsNs).1
        tsUsec := (pcapFormatTimestamp tsNs).2
        inclLen := BitVec.ofNat 32 captured.length
        origLen := BitVec.ofNat 32 len }
    header.toBytes ++ captured

end PcapCapture

def pcapCaptureRawPacket (pcap : PcapCapture) (data : Payload) (len : Nat) (interfaceId : Word)
    (tsNs : BitVec 64) : Except UesimError PcapCapture :=
  if data = .null ∨ pcap.isOpen = false then
    .error .invalidParam
  else
    let captured := bytesAt (data.read pcap.packetBuffer) 0 (pcap.captureLen len)
    .ok { pcap.fwrite (pcap.packetBlock captured len interfaceId tsNs) with
          packetsCaptured := pcap.packetsCaptured + 1
          bytesCaptured := pcap.bytesCaptured + BitVec.ofNat 64 len }

/-! ### Checksums -/

/-- Add up 16-bit words, the last of which may be half a word. -/
def sumWords (data : Memory) (sum : Word) : Nat → Word
  | 0 => sum
  | 1 => sum + (data 0).setWidth 32 <<< 8
  | len + 2 =>
      let word := (data 0).setWidth 32 <<< 8 ||| (data 1).setWidth 32
      sumWords (fun i => data (i + 2)) (sum + word) len

def foldCarry (sum : Word) : Word := (sum &&& (0xFFFF : Word)) + sum >>> 16

/-- Fold the carries into the low 16 bits; no sum needs more than two rounds. -/
def foldCarries (sum : Word) : Word := (Loop.run foldCarry (fun sum => sum >>> 16 == 0) 3 sum).getD 0

def pcapCalcChecksum (data : Memory) (len : Nat) : BitVec 16 :=
  ~~~(foldCarries (sumWords data 0 len)).setWidth 16

theorem toNat_foldCarry (sum : Word) : (foldCarry sum).toNat = sum.toNat % 2 ^ 16 + sum.toNat / 2 ^ 16 := by
  have hlow : (sum &&& (0xFFFF : Word)).toNat = sum.toNat % 2 ^ 16 := by
    rw [BitVec.toNat_and]
    exact Nat.and_two_pow_sub_one_eq_mod sum.toNat 16
  have hhigh : (sum >>> 16).toNat = sum.toNat / 2 ^ 16 := by
    rw [BitVec.toNat_ushiftRight, Nat.shiftRight_eq_div_pow]
  have hsum := sum.isLt
  rw [foldCarry, BitVec.toNat_add, hlow, hhigh]
  omega

theorem ushiftRight_eq_zero_iff (sum : Word) : sum >>> 16 = 0 ↔ sum.toNat < 2 ^ 16 := by
  rw [← BitVec.toNat_inj, BitVec.toNat_ushiftRight, Nat.shiftRight_eq_div_pow]
  exact Nat.div_eq_zero_iff_lt (by decide)

theorem isSome_run_foldCarry (sum : Word) :
    (Loop.run foldCarry (fun sum => sum >>> 16 == 0) 3 sum).isSome := by
  have hsum := sum.isLt
  have hfirst := toNat_foldCarry sum
  have hsecond := toNat_foldCarry (foldCarry sum)
  have hends : foldCarry (foldCarry sum) >>> 16 = 0 :=
    (ushiftRight_eq_zero_iff _).mpr (by omega)
  rw [Loop.run, Loop.run, Loop.run]
  split
  · rfl
  · split
    · rfl
    · rw [if_pos (by simpa using hends)]
      rfl

def crc32cBit (crc : Word) : Word := if crc &&& 1 = 1 then (crc >>> 1) ^^^ 0x82F63B78 else crc >>> 1

/-- The table that `init_crc32c_table` fills. -/
def crc32cTable (i : Word) : Word := crc32cBit^[8] i

def crc32cByte (crc : Word) (byte : Byte) : Word :=
  crc >>> 8 ^^^ crc32cTable ((crc ^^^ byte.setWidth 32) &&& (0xFF : Word))

def calcCrc32c (data : Memory) (len : Nat) : Word :=
  ~~~(bytesAt data 0 len).foldl crc32cByte (0xFFFFFFFF : Word)

/-! ### Headers in front of a payload -/

namespace PcapCapture

/-- The IPv4 header, first without its checksum. -/
def putIpHeader (pcap : PcapCapture) (totalLen : Nat) (protocol : Byte) (srcIp dstIp : Word) : PcapCapture :=
  let headed := pcap.put 0
    ([0x45, 0x00] ++ beBytes (BitVec.ofNat 16 totalLen) 2
      ++ [0x00, 0x00, 0x40, 0x00, 64, protocol, 0x00, 0x00] ++ beBytes srcIp 4 ++ beBytes dstIp 4)
  headed.put 10 (beBytes (pcapCalcChecksum headed.packetBuffer 20) 2)

end PcapCapture

def pcapCaptureIp (pcap : PcapCapture) (payload : Payload) (len : Nat) (protocol : Byte) (srcIp dstIp : Word)
    (interfaceId : Word) (tsNs : BitVec 64) : Except UesimError PcapCapture :=
  if payload = .null ∨ pcap.isOpen = false then
    .error .invalidParam
  else
    let totalLen := 20 + len
    let headed := pcap.putIpHeader totalLen protocol srcIp dstIp
    let copied := headed.memcpy 20 (payload.read headed.packetBuffer) len
    pcapCaptureRawPacket copied .packetBuffer totalLen interfaceId tsNs

/-- An SCTP packet with one DATA chunk, in the packet buffer. -/
def PcapCapture.sctpPacket (pcap : PcapCapture) (payload : Payload) (len : Nat) (srcPort dstPort : BitVec 16)
    (ppid streamId ssn tsn : Word) : PcapCapture :=
  let paddedLen := (12 + 16 + len + 3) / 4 * 4
  let common := pcap.put 0 (beBytes srcPort 2 ++ beBytes dstPort 2 ++ [0, 0, 0, 0] ++ [0, 0, 0, 0])
  let chunk := common.put 12
    ([0x00, 0x00] ++ beBytes (BitVec.ofNat 16 ((16 + len + 3) / 4 * 4)) 2 ++ beBytes tsn 4
      ++ beBytes (streamId.setWidth 16) 2 ++ beBytes (ssn.setWidth 16) 2 ++ beBytes ppid 4)
  let copied := chunk.memcpy 28 (payload.read chunk.packetBuffer) len
  let padding := (4 - (16 + len) % 4) % 4
  let padded := copied.put (28 + len) (List.replicate padding 0)
  let summed := padded.put 8 (beBytes (calcCrc32c padded.packetBuffer paddedLen) 4)
  { summed with ngapPackets := summed.ngapPackets + 1 }

def pcapCaptureSctp (pcap : PcapCapture) (payload : Payload) (len : Nat) (srcIp dstIp : Word)
    (srcPort dstPort : BitVec 16) (ppid streamId ssn tsn : Word) (tsNs : BitVec 64) :
    Except UesimError PcapCapture :=
  if payload = .null ∨ pcap.isOpen = false then
    .error .invalidParam
  else
    let paddedLen := (12 + 16 + len + 3) / 4 * 4
    let packet := pcap.sctpPacket payload len srcPort dstPort ppid streamId ssn tsn
    pcapCaptureIp packet .packetBuffer paddedLen 132 srcIp dstIp 0 tsNs

/-- A UDP datagram in the packet buffer. What the buffer held before stands in the checksum field while the
header is added up. -/
def PcapCapture.udpDatagram (pcap : PcapCapture) (payload : Payload) (len : Nat) (srcIp dstIp : Word)
    (srcPort dstPort : BitVec 16) : PcapCapture :=
  let udpLen := BitVec.ofNat 16 (8 + len)
  let headed := pcap.put 0 (beBytes srcPort 2 ++ beBytes dstPort 2 ++ beBytes udpLen 2)
  let pseudoHeader := beBytes srcIp 4 ++ beBytes dstIp 4 ++ [0x00, 17] ++ beBytes udpLen 2
  let pseudoSum := (~~~pcapCalcChecksum (ofBytes pseudoHeader) 12).setWidth 32
  let headerSum := sumWords headed.packetBuffer pseudoSum 8
  let sum := sumWords (payload.read headed.packetBuffer) headerSum len
  let udpChecksum := ~~~(foldCarries sum).setWidth 16
  let summed := headed.put 6 (beBytes udpChecksum 2)
  summed.memcpy 8 (payload.read summed.packetBuffer) len

def pcapCaptureUdp (pcap : PcapCapture) (payload : Payload) (len : Nat) (srcIp dstIp : Word)
    (srcPort dstPort : BitVec 16) (interfaceId : Word) (tsNs : BitVec 64) : Except UesimError PcapCapture :=
  if payload = .null ∨ pcap.isOpen = false then
    .error .invalidParam
  else
    pcapCaptureIp (pcap.udpDatagram payload len srcIp dstIp srcPort dstPort) .packetBuffer (8 + len) 17
      srcIp dstIp interfaceId tsNs

/-- A GTP-U message in the packet buffer. -/
def PcapCapture.gtpuMessage (pcap : PcapCapture) (payload : Payload) (len : Nat) (teid : Word)
    (messageType : Byte) : PcapCapture :=
  let flags : Byte := if messageType = 255 then 0x30 ||| 0x10 else 0x30
  let headed := pcap.put 0 ([flags, messageType] ++ beBytes (BitVec.ofNat 16 len) 2 ++ beBytes teid 4)
  let copied := headed.memcpy 8 (payload.read headed.packetBuffer) len
  { copied with gtpuPackets := copied.gtpuPackets + 1 }

def pcapCaptureGtpu (pcap : PcapCapture) (payload : Payload) (len : Nat) (srcIp dstIp teid : Word)
    (messageType : Byte) (tsNs : BitVec 64) : Except UesimError PcapCapture :=
  if payload = .null ∨ pcap.isOpen = false then
    .error .invalidParam
  else
    pcapCaptureUdp (pcap.gtpuMessage payload len teid messageType) .packetBuffer (8 + len) srcIp dstIp
      pcapPortGtpu pcapPortGtpu 0 tsNs

end Uesim
