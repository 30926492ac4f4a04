import Uesim.Transport.PcapCapture

/-!
# What a capture holds

A captured packet ought to be what was sent behind its headers, and a PCAPNG file ought to be read block by
block. The IPv4 header is written over the front of the buffer that holds the rest of the packet, and the
first block announces more bytes than it has.
-/

namespace Uesim

open Bytes Tlv BitMemory FieldMemory

/-! ### Packets -/

/-- Bytes whose checksum is among them. -/
def ChecksumVerifies (bytes : List Byte) : Prop := pcapCalcChecksum (ofBytes bytes) bytes.length = 0

def beField (bytes : List Byte) (offset : Nat) : Nat := (beValue 16 ((bytes.drop offset).take 2)).toNat

/-- An IPv4 header without options in front of its content. -/
def IsIpPacket (record content : List Byte) (protocol : Byte) (srcIp dstIp : Word) : Prop :=
  ∃ header, header.length = 20 ∧ record = header ++ content
    ∧ header.take 1 = [0x45]
    ∧ beField header 2 = record.length
    ∧ (header.drop 9).take 1 = [protocol]
    ∧ (header.drop 12).take 8 = beBytes srcIp 4 ++ beBytes dstIp 4
    ∧ ChecksumVerifies header

def IsUdpDatagram (datagram content : List Byte) (srcIp dstIp : Word) (srcPort dstPort : BitVec 16) : Prop :=
  ∃ header, header.length = 8 ∧ datagram = header ++ content
    ∧ header.take 4 = beBytes srcPort 2 ++ beBytes dstPort 2
    ∧ beField header 4 = datagram.length
    ∧ ChecksumVerifies
        (beBytes srcIp 4 ++ beBytes dstIp 4 ++ [0, 17] ++ (header.drop 4).take 2 ++ datagram)

def IsGtpuMessage (message content : List Byte) (teid : Word) (messageType : Byte) : Prop :=
  ∃ header, header.length = 8 ∧ message = header ++ content
    ∧ (header.drop 1).take 1 = [messageType]
    ∧ beField header 2 = content.length
    ∧ header.drop 4 = beBytes teid 4

/-- A common header with the verification tag zero and one DATA chunk, zeros behind its content. -/
def IsSctpPacket (packet content : List Byte) (srcPort dstPort : BitVec 16) (ppid streamId ssn tsn : Word) :
    Prop :=
  ∃ header padding, header.length = 28 ∧ padding = List.replicate ((4 - content.length % 4) % 4) 0
    ∧ packet = header ++ content ++ padding
    ∧ header.take 8 = beBytes srcPort 2 ++ beBytes dstPort 2 ++ [0, 0, 0, 0]
    ∧ (header.drop 12).take 2 = [0, 0]
    ∧ beField header 14 = 16 + content.length + padding.length
    ∧ header.drop 16 = beBytes tsn 4 ++ beBytes (streamId.setWidth 16) 2 ++ beBytes (ssn.setWidth 16) 2
        ++ beBytes ppid 4

/-- A payload with the arguments of the function that captures it. -/
inductive Sent where
  | udp (payload : List Byte) (srcIp dstIp : Word) (srcPort dstPort : BitVec 16) (interfaceId : Word)
  | gtpu (payload : List Byte) (srcIp dstIp teid : Word) (messageType : Byte)
  | sctp (payload : List Byte) (srcIp dstIp : Word) (srcPort dstPort : BitVec 16)
      (ppid streamId ssn tsn : Word)

namespace Sent

def capture (sent : Sent) (pcap : PcapCapture) (tsNs : BitVec 64) : Except UesimError PcapCapture :=
  match sent with
  | udp payload srcIp dstIp srcPort dstPort interfaceId =>
      pcapCaptureUdp pcap (.bytes payload) payload.length srcIp dstIp srcPort dstPort interfaceId tsNs
  | gtpu payload srcIp dstIp teid messageType =>
      pcapCaptureGtpu pcap (.bytes payload) payload.length srcIp dstIp teid messageType tsNs
  | sctp payload srcIp dstIp srcPort dstPort ppid streamId ssn tsn =>
      pcapCaptureSctp pcap (.bytes payload) payload.length srcIp dstIp srcPort dstPort ppid streamId ssn tsn
        tsNs

/-- The bytes are the packet that carries the payload. -/
def IsRecord (sent : Sent) (record : List Byte) : Prop :=
  match sent with
  | udp payload srcIp dstIp srcPort dstPort _ =>
      ∃ datagram, IsIpPacket record datagram 17 srcIp dstIp
        ∧ IsUdpDatagram datagram payload srcIp dstIp srcPort dstPort
  | gtpu payload srcIp dstIp teid messageType =>
      ∃ datagram message, IsIpPacket record datagram 17 srcIp dstIp
        ∧ IsUdpDatagram datagram message srcIp dstIp pcapPortGtpu pcapPortGtpu
        ∧ IsGtpuMessage message payload teid messageType
  | sctp payload srcIp dstIp srcPort dstPort ppid streamId ssn tsn =>
      ∃ packet, IsIpPacket record packet 132 srcIp dstIp
        ∧ IsSctpPacket packet payload srcPort dstPort ppid streamId ssn tsn

end Sent

/-! ### Blocks -/

/-- Walk through a file by the lengths of its blocks, which each block repeats at its end. -/
def walkBlocks : Nat → List Byte → Option (List (List Byte))
  | _, [] => some []
  | 0, _ :: _ => none
  | fuel + 1, bytes@(_ :: _) =>
      let total := leField (bytes.drop 4)
      if total < 12 ∨ bytes.length < total ∨ leField (bytes.drop (total - 4)) ≠ total then
        none
      else
        (walkBlocks fuel (bytes.drop total)).map (bytes.take total :: ·)

def isBlock (blockType : Word) (block : List Byte) : Bool := leField block == blockType.toNat

/-- Every packet block names one of the interfaces described in front of it. -/
def NamesDescribed (blocks : List (List Byte)) : Prop :=
  ∀ front packet rest, blocks = front ++ packet :: rest → isBlock pcapngEnhancedPacket packet = true →
    leField (packet.drop 8) < front.countP (isBlock pcapngInterfaceDesc)

structure PcapCapture.VisitsItsBlocks (pcap : PcapCapture) : Prop where
  walk : walkBlocks pcap.file.flatten.length pcap.file.flatten = some pcap.file
  described : NamesDescribed pcap.file

/-- The captured bytes in the block or record of a packet. -/
def packetData (usePcapng : Bool) (block : List Byte) : List Byte :=
  if usePcapng then (block.drop 28).take (leField (block.drop 20))
  else (block.drop 16).take (leField (block.drop 8))

/-- The packet that the file ends with. -/
def PcapCapture.lastRecord (pcap : PcapCapture) : List Byte :=
  packetData pcap.usePcapng (pcap.file.getLastD [])

/-- The capture that a payload has been added to holds what was sent. -/
structure PcapCapture.ContainsWhatWasSent (pcap : PcapCapture) (sent : Sent) : Prop where
  inside : pcap.bufferEnd ≤ pcap.bufferSize
  record : sent.IsRecord pcap.lastRecord
  blocks : pcap.usePcapng = true → pcap.VisitsItsBlocks

/-! ### What an operation leaves -/

/-- The capture goes on with what it has written and with its settings. -/
structure PcapCapture.Extends (before after : PcapCapture) : Prop where
  file : before.file <+: after.file
  isOpen : after.isOpen = before.isOpen
  usePcapng : after.usePcapng = before.usePcapng
  snapLen : after.snapLen = before.snapLen

namespace PcapCapture.Extends

theorem refl (pcap : PcapCapture) : pcap.Extends pcap := ⟨List.prefix_rfl, rfl, rfl, rfl⟩

theorem trans {a b c : PcapCapture} (hab : a.Extends b) (hbc : b.Extends c) : a.Extends c where
  file := hab.file.trans hbc.file
  isOpen := hbc.isOpen.trans hab.isOpen
  usePcapng := hbc.usePcapng.trans hab.usePcapng
  snapLen := hbc.snapLen.trans hab.snapLen

theorem memcpy (pcap : PcapCapture) (start : Nat) (src : Memory) (len : Nat) :
    pcap.Extends (pcap.memcpy start src len) :=
  ⟨List.prefix_rfl, rfl, rfl, rfl⟩

theorem put (pcap : PcapCapture) (start : Nat) (bytes : List Byte) : pcap.Extends (pcap.put start bytes) :=
  memcpy pcap start _ _

theorem countNgap (pcap : PcapCapture) (count : BitVec 64) :
    pcap.Extends { pcap with ngapPackets := count } :=
  ⟨List.prefix_rfl, rfl, rfl, rfl⟩

theorem countGtpu (pcap : PcapCapture) (count : BitVec 64) :
    pcap.Extends { pcap with gtpuPackets := count } :=
  ⟨List.prefix_rfl, rfl, rfl, rfl⟩

theorem putIpHeader (pcap : PcapCapture) (totalLen : Nat) (protocol : Byte) (srcIp dstIp : Word) :
    pcap.Extends (pcap.putIpHeader totalLen protocol srcIp dstIp) :=
  (put pcap 0 _).trans (put _ 10 _)

theorem udpDatagram (pcap : PcapCapture) (payload : Payload) (len : Nat) (srcIp dstIp : Word)
    (srcPort dstPort : BitVec 16) :
    pcap.Extends (pcap.udpDatagram payload len srcIp dstIp srcPort dstPort) :=
  ((put pcap _ _).trans (put _ _ _)).trans (memcpy _ _ _ _)

theorem gtpuMessage (pcap : PcapCapture) (payload : Payload) (len : Nat) (teid : Word) (messageType : Byte) :
    pcap.Extends (pcap.gtpuMessage payload len teid messageType) := by
  refine trans ?_ (countGtpu _ _)
  exact (put pcap 0 _).trans (memcpy _ 8 _ len)

theorem sctpPacket (pcap : PcapCapture) (payload : Payload) (len : Nat) (srcPort dstPort : BitVec 16)
    (ppid streamId ssn tsn : Word) :
    pcap.Extends (pcap.sctpPacket payload len srcPort dstPort ppid streamId ssn tsn) := by
  refine trans ?_ (countNgap _ _)
  refine trans ?_ (put _ 8 _)
  refine trans ?_ (put _ (28 + len) _)
  exact ((put pcap 0 _).trans (put _ 12 _)).trans (memcpy _ 28 _ len)

variable {pcap after : PcapCapture} {payload : Payload} {len : Nat} {srcIp dstIp : Word} {tsNs : BitVec 64}

theorem rawPacket {interfaceId : Word}
    (h : pcapCaptureRawPacket pcap payload len interfaceId tsNs = .ok after) : pcap.Extends after := by
  rw [pcapCaptureRawPacket] at h
  split at h
  · cases h
  · cases h
    exact ⟨List.prefix_append _ _, rfl, rfl, rfl⟩

theorem ip {protocol : Byte} {interfaceId : Word}
    (h : pcapCaptureIp pcap payload len protocol srcIp dstIp interfaceId tsNs = .ok after) :
    pcap.Extends after := by
  rw [pcapCaptureIp] at h
  split at h
  · cases h
  · exact ((putIpHeader pcap _ _ _ _).trans (memcpy _ _ _ _)).trans (rawPacket h)

theorem udp {srcPort dstPort : BitVec 16} {interfaceId : Word}
    (h : pcapCaptureUdp pcap payload len srcIp dstIp srcPort dstPort interfaceId tsNs = .ok after) :
    pcap.Extends after := by
  rw [pcapCaptureUdp] at h
  split at h
  · cases h
  · exact (udpDatagram pcap _ _ _ _ _ _).trans (ip h)

theorem gtpu {teid : Word} {messageType : Byte}
    (h : pcapCaptureGtpu pcap payload len srcIp dstIp teid messageType tsNs = .ok after) :
    pcap.Extends after := by
  rw [pcapCaptureGtpu] at h
  split at h
  · cases h
  · exact (gtpuMessage pcap _ _ _ _).trans (udp h)

theorem sctp {srcPort dstPort : BitVec 16} {ppid streamId ssn tsn : Word}
    (h : pcapCaptureSctp pcap payload len srcIp dstIp srcPort dstPort ppid streamId ssn tsn tsNs
      = .ok after) : pcap.Extends after := by
  rw [pcapCaptureSctp] at h
  split at h
  · cases h
  · exact (sctpPacket pcap _ _ _ _ _ _ _ _).trans (ip h)

theorem sent {sent : Sent} (h : sent.capture pcap tsNs = .ok after) : pcap.Extends after := by
  cases sent with
  | udp => exact udp h
  | gtpu => exact gtpu h
  | sctp => exact sctp h

end PcapCapture.Extends

/-! ### The captured bytes -/

theorem packetData_packetBlock (pcap : PcapCapture) {captured : List Byte} (h : captured.length < 2 ^ 32)
    (len : Nat) (interfaceId : Word) (tsNs : BitVec 64) :
    packetData pcap.usePcapng (pcap.packetBlock captured len interfaceId tsNs) = captured := by
  have hlen : captured.length % 4294967296 = captured.length := Nat.mod_eq_of_lt h
  cases hmode : pcap.usePcapng with
  | true =>
      rw [packetData, PcapCapture.packetBlock, if_pos hmode, if_pos rfl]
      simp [PcapngEnhancedPacket.toBytes, List.drop_append, List.drop_eq_nil_of_le,
        leField_littleEndian_append, hlen]
  | false =>
      rw [packetData, PcapCapture.packetBlock, hmode]
      simp [PcapPacketHeader.toBytes, List.drop_append, List.drop_eq_nil_of_le,
        leField_littleEndian_append, hlen]

theorem take_drop_bytesAt (mem : Memory) {n start count : Nat} (h : start + count ≤ n) :
    ((bytesAt mem 0 n).drop start).take count = bytesAt mem start count := by
  rw [bytesAt, ← List.map_drop, ← List.map_take, List.drop_range', List.take_range'_of_length_ge (by omega),
    Nat.zero_add, Nat.mul_one]
  rfl

theorem lastRecord_rawPacket {pcap : PcapCapture} (hopen : pcap.isOpen = true)
    (hsnap : pcap.snapLen = pcapDefaultSnaplen) (len : Nat) (interfaceId : Word) (tsNs : BitVec 64) :
    ∃ after, pcapCaptureRawPacket pcap .packetBuffer len interfaceId tsNs = .ok after
      ∧ after.lastRecord = bytesAt pcap.packetBuffer 0 (min len pcapMaxSnaplen) := by
  have hnot : ¬(Payload.packetBuffer = .null ∨ pcap.isOpen = false) := by simp [hopen]
  have hlen : pcap.captureLen len = min len pcapMaxSnaplen := by
    rw [PcapCapture.captureLen, hsnap]
    change (if pcapMaxSnaplen < len then pcapMaxSnaplen else len) = _
    split <;> omega
  refine ⟨_, by rw [pcapCaptureRawPacket, if_neg hnot], ?_⟩
  rw [hlen]
  change packetData pcap.usePcapng ((pcap.file ++ [_]).getLastD []) = _
  rw [List.getLastD_concat]
  apply packetData_packetBlock
  have hcaptured : (bytesAt pcap.packetBuffer 0 (min len pcapMaxSnaplen)).length ≤ 65535 := by
    rw [bytesAt, List.length_map, List.length_range']
    exact min_le_right len pcapMaxSnaplen
  exact lt_of_le_of_lt hcaptured (by decide)

/-- What the header of IPv4 leaves at the index of the packet identification and flags. -/
theorem putIpHeader_packetBuffer (pcap : PcapCapture) (totalLen : Nat) (protocol : Byte)
    (srcIp dstIp : Word) :
    bytesAt (pcap.putIpHeader totalLen protocol srcIp dstIp).packetBuffer 4 4 = [0, 0, 0x40, 0] := by
  have hbyte (i : Nat) (hi : i < 10) (first : PcapCapture) (bytes checksum : List Byte)
      (hlen : bytes.length = 20) :
      ((first.put 0 bytes).put 10 checksum).packetBuffer i = bytes.getD i 0 := by
    calc ((first.put 0 bytes).put 10 checksum).packetBuffer i
        = (first.put 0 bytes).packetBuffer i := copy_of_not_mem _ (.inl hi)
      _ = bytes.getD i 0 := copy_of_mem _ (Nat.zero_le i) (by omega)
  rw [PcapCapture.putIpHeader, bytesAt]
  change [_, _, _, _] = _
  rw [hbyte 4, hbyte 5, hbyte 6, hbyte 7]
  all_goals first | rfl | omega

/-- **The front of the IPv4 header stands where the header of the packet was.** -/
theorem pcapCaptureIp_packetBuffer {pcap : PcapCapture} (hopen : pcap.isOpen = true)
    (hsnap : pcap.snapLen = pcapDefaultSnaplen) {len : Nat} (hlen : 8 ≤ len) (protocol : Byte)
    (srcIp dstIp interfaceId : Word) (tsNs : BitVec 64) :
    ∃ after, pcapCaptureIp pcap .packetBuffer len protocol srcIp dstIp interfaceId tsNs = .ok after
      ∧ (after.lastRecord.drop 24).take 4 = [0, 0, 0x40, 0] := by
  have hnot : ¬(Payload.packetBuffer = .null ∨ pcap.isOpen = false) := by simp [hopen]
  rw [pcapCaptureIp, if_neg hnot]
  set headed := pcap.putIpHeader (20 + len) protocol srcIp dstIp with hheaded
  have hkept := (PcapCapture.Extends.putIpHeader pcap (20 + len) protocol srcIp dstIp).trans
    (.memcpy headed 20 headed.packetBuffer len)
  obtain ⟨after, hafter, hrecord⟩ := lastRecord_rawPacket (hkept.isOpen.trans hopen)
    (hkept.snapLen.trans hsnap) (20 + len) interfaceId tsNs
  refine ⟨after, hafter, ?_⟩
  have hmoved (i : Nat) (hi : i < 8) :
      (headed.memcpy 20 headed.packetBuffer len).packetBuffer (20 + i) = headed.packetBuffer i := by
    calc copy headed.packetBuffer 20 headed.packetBuffer len (20 + i)
        = headed.packetBuffer (20 + i - 20) := copy_of_mem _ (Nat.le_add_right 20 i) (by omega)
      _ = headed.packetBuffer i := congrArg headed.packetBuffer (Nat.add_sub_cancel_left 20 i)
  calc (after.lastRecord.drop 24).take 4
      = bytesAt (headed.memcpy 20 headed.packetBuffer len).packetBuffer 24 4 := by
        rw [hrecord]
        apply take_drop_bytesAt
        have hmax : 28 ≤ pcapMaxSnaplen := by decide
        omega
    _ = bytesAt headed.packetBuffer 4 4 := by
        change [_, _, _, _] = [_, _, _, _]
        rw [hmoved 4 (by omega), hmoved 5 (by omega), hmoved 6 (by omega), hmoved 7 (by omega)]
    _ = [0, 0, 0x40, 0] := putIpHeader_packetBuffer pcap _ protocol srcIp dstIp

theorem pcapCaptureUdp_spec {pcap : PcapCapture} {payload : Payload} (hpayload : payload ≠ .null)
    (hopen : pcap.isOpen = true) (hsnap : pcap.snapLen = pcapDefaultSnaplen) (len : Nat) (srcIp dstIp : Word)
    (srcPort dstPort : BitVec 16) (interfaceId : Word) (tsNs : BitVec 64) :
    ∃ after, pcapCaptureUdp pcap payload len srcIp dstIp srcPort dstPort interfaceId tsNs = .ok after
      ∧ (after.lastRecord.drop 24).take 4 = [0, 0, 0x40, 0] := by
  have hkept := PcapCapture.Extends.udpDatagram pcap payload len srcIp dstIp srcPort dstPort
  rw [pcapCaptureUdp, if_neg (by simp [hpayload, hopen])]
  apply pcapCaptureIp_packetBuffer
  · rw [hkept.isOpen, hopen]
  · rw [hkept.snapLen, hsnap]
  · exact Nat.le_add_right 8 len

/-- **Every capture ends with a packet whose transport header is the front of an IPv4 header.** -/
theorem Sent.capture_spec {pcap : PcapCapture} (hopen : pcap.isOpen = true)
    (hsnap : pcap.snapLen = pcapDefaultSnaplen) (sent : Sent) (tsNs : BitVec 64) :
    ∃ after, sent.capture pcap tsNs = .ok after
      ∧ (after.lastRecord.drop 24).take 4 = [0, 0, 0x40, 0] := by
  have hbytes (data : List Byte) : Payload.bytes data ≠ .null := by simp
  cases sent with
  | udp payload srcIp dstIp srcPort dstPort interfaceId =>
      exact pcapCaptureUdp_spec (hbytes payload) hopen hsnap _ _ _ _ _ _ _
  | gtpu payload srcIp dstIp teid messageType =>
      have hkept := PcapCapture.Extends.gtpuMessage pcap (.bytes payload) payload.length teid messageType
      rw [capture, pcapCaptureGtpu, if_neg (by simp [hopen])]
      apply pcapCaptureUdp_spec
      · simp
      · rw [hkept.isOpen, hopen]
      · rw [hkept.snapLen, hsnap]
  | sctp payload srcIp dstIp srcPort dstPort ppid streamId ssn tsn =>
      have hkept := PcapCapture.Extends.sctpPacket pcap (.bytes payload) payload.length srcPort dstPort ppid
        streamId ssn tsn
      rw [capture, pcapCaptureSctp, if_neg (by simp [hopen])]
      apply pcapCaptureIp_packetBuffer
      · rw [hkept.isOpen, hopen]
      · rw [hkept.snapLen, hsnap]
      · omega

theorem take_drop_front {front : List Byte} (rest : List Byte) {start count : Nat}
    (h : start + count ≤ front.length) :
    ((front ++ rest).drop start).take count = (front.drop start).take count := by
  have hcount : count ≤ (front.drop start).length := by
    rw [List.length_drop]
    omega
  rw [List.drop_append_of_le_length (by omega), List.take_append_of_le_length hcount]

theorem IsIpPacket.drop_content {record content : List Byte} {protocol : Byte} {srcIp dstIp : Word}
    (h : IsIpPacket record content protocol srcIp dstIp) (n : Nat) :
    record.drop (20 + n) = content.drop n := by
  obtain ⟨header, hlen, rfl, -⟩ := h
  rw [List.drop_append, List.drop_eq_nil_of_le (by omega), hlen, Nat.add_sub_cancel_left, List.nil_append]

theorem not_isUdpDatagram {datagram content : List Byte} {srcIp dstIp : Word} {srcPort dstPort : BitVec 16}
    (h : (datagram.drop 4).take 4 = [0, 0, 0x40, 0]) :
    ¬IsUdpDatagram datagram content srcIp dstIp srcPort dstPort := by
  rintro ⟨header, hlen, rfl, -, hlength, -⟩
  have hzero : (header.drop 4).take 2 = [0, 0] := by
    calc (header.drop 4).take 2
        = (((header ++ content).drop 4).take 4).take 2 := by
          rw [take_drop_front content (by omega), List.take_take]
          rfl
      _ = [0, 0] := by
          rw [h]
          rfl
  have hfield : beField header 4 = 0 := by
    rw [beField, hzero]
    rfl
  rw [hfield, List.length_append, hlen] at hlength
  omega

theorem not_isSctpPacket {packet content : List Byte} {srcPort dstPort : BitVec 16}
    {ppid streamId ssn tsn : Word} (h : (packet.drop 4).take 4 = [0, 0, 0x40, 0]) :
    ¬IsSctpPacket packet content srcPort dstPort ppid streamId ssn tsn := by
  rintro ⟨header, padding, hlen, -, rfl, hfront, -⟩
  have htag : (header.drop 4).take 4 = [0, 0, 0, 0] := by
    calc (header.drop 4).take 4
        = (header.take 8).drop 4 := List.take_drop.symm ▸ rfl
      _ = [0, 0, 0, 0] := by
          rw [hfront]
          rfl
  have htag' : (header.drop 4).take 4 = [0, 0, 0x40, 0] := by
    rw [← h, List.append_assoc, take_drop_front _ (by omega)]
  exact absurd (htag.symm.trans htag') (by decide)

theorem Sent.not_isRecord {record : List Byte} (h : (record.drop 24).take 4 = [0, 0, 0x40, 0]) (sent : Sent) :
    ¬sent.IsRecord record := by
  cases sent with
  | udp =>
      rintro ⟨datagram, hip, hudp⟩
      rw [hip.drop_content 4] at h
      exact not_isUdpDatagram h hudp
  | gtpu =>
      rintro ⟨datagram, message, hip, hudp, -⟩
      rw [hip.drop_content 4] at h
      exact not_isUdpDatagram h hudp
  | sctp =>
      rintro ⟨packet, hip, hsctp⟩
      rw [hip.drop_content 4] at h
      exact not_isSctpPacket h hsctp

/-! ### The file -/

/-- The first block that a walk visits has the length that it announces. -/
theorem leField_of_walkBlocks {fuel : Nat} {block rest : List Byte} {blocks : List (List Byte)}
    (hlen : 8 ≤ block.length) (h : walkBlocks fuel (block ++ rest) = some (block :: blocks)) :
    leField (block.drop 4) = block.length := by
  have hfield : leField ((block ++ rest).drop 4) = leField (block.drop 4) := by
    rw [leField, leField, take_drop_front rest (by omega)]
  rw [← hfield]
  revert h
  obtain ⟨first, bytes, hbytes⟩ : ∃ first bytes, block ++ rest = first :: bytes := by
    apply List.exists_cons_of_ne_nil
    intro hnil
    rw [(List.append_eq_nil_iff.mp hnil).1] at hlen
    cases hlen
  rw [hbytes]
  cases fuel with
  | zero =>
      intro h
      cases h
  | succ fuel =>
      intro h
      rw [walkBlocks] at h
      split at h
      · cases h
      · rename_i hgood
        obtain ⟨tail, -, htail⟩ := Option.map_eq_some_iff.mp h
        have hblock := congrArg List.length (List.cons.inj htail).1
        rw [List.length_take] at hblock
        omega

theorem not_visitsItsBlocks {pcap : PcapCapture} {blocks : List (List Byte)}
    (h : pcap.file = sectionHeaderBlock.toBytes :: blocks) : ¬pcap.VisitsItsBlocks := by
  rintro ⟨hwalk, -⟩
  rw [h, List.flatten_cons] at hwalk
  have hlen := PcapngSectionHeader.length_toBytes sectionHeaderBlock
  have hfield := leField_of_walkBlocks (by omega) hwalk
  have hannounced : leField (sectionHeaderBlock.toBytes.drop 4) = 28 := by decide
  omega

/-! ### Captures that can be reached -/

inductive PcapOp where
  | openFile (fopens : Bool)
  | close
  | addInterface (linkType : BitVec 16)
  | rawPacket (data : Payload) (len : Nat) (interfaceId : Word) (tsNs : BitVec 64)
  | ip (payload : Payload) (len : Nat) (protocol : Byte) (srcIp dstIp interfaceId : Word) (tsNs : BitVec 64)
  | packet (sent : Sent) (tsNs : BitVec 64)

def PcapOp.apply (pcap : PcapCapture) (op : PcapOp) : Except UesimError PcapCapture :=
  match op with
  | openFile fopens => pcapCaptureOpen pcap fopens
  | close => .ok (pcapCaptureClose pcap)
  | addInterface linkType => pcapCaptureAddInterface pcap linkType
  | rawPacket data len interfaceId tsNs => pcapCaptureRawPacket pcap data len interfaceId tsNs
  | ip payload len protocol srcIp dstIp interfaceId tsNs =>
      pcapCaptureIp pcap payload len protocol srcIp dstIp interfaceId tsNs
  | packet sent tsNs => sent.capture pcap tsNs

/-- A call that fails changes nothing. -/
def PcapOp.step (pcap : PcapCapture) (op : PcapOp) : PcapCapture := (op.apply pcap).toOption.getD pcap

/-- What holds between the calls: an open PCAPNG file begins with the section header. -/
structure PcapCapture.Prepared (pcap : PcapCapture) : Prop where
  snapLen : pcap.snapLen = pcapDefaultSnaplen
  headed : pcap.usePcapng = true → pcap.isOpen = true → [sectionHeaderBlock.toBytes] <+: pcap.file

theorem PcapCapture.Prepared.of_extends {pcap after : PcapCapture} (h : pcap.Prepared)
    (hext : pcap.Extends after) : after.Prepared where
  snapLen := hext.snapLen.trans h.snapLen
  headed hmode hopen := by
    rw [hext.usePcapng] at hmode
    rw [hext.isOpen] at hopen
    exact (h.headed hmode hopen).trans hext.file

theorem PcapCapture.Extends.addInterface {pcap after : PcapCapture} {linkType : BitVec 16}
    (h : pcapCaptureAddInterface pcap linkType = .ok after) : pcap.Extends after := by
  rw [pcapCaptureAddInterface] at h
  split at h
  · cases h
  · cases h
    split
    · exact ⟨List.prefix_append _ _, rfl, rfl, rfl⟩
    · exact ⟨List.prefix_rfl, rfl, rfl, rfl⟩

theorem prepared_pcapCaptureCreate (usePcapng : Bool) (packetBuffer : Memory) :
    (pcapCaptureCreate usePcapng packetBuffer).Prepared :=
  ⟨rfl, fun _ hopen => Bool.noConfusion hopen⟩

theorem PcapCapture.Prepared.openFile {pcap after : PcapCapture} (h : pcap.Prepared) {fopens : Bool}
    (hok : pcapCaptureOpen pcap fopens = .ok after) : after.Prepared := by
  rw [pcapCaptureOpen] at hok
  split at hok
  · cases hok
  · split at hok
    · cases hok
    · split at hok
      · set headed := PcapCapture.fwrite { pcap with file := [] } sectionHeaderBlock.toBytes
        cases hok
        have hdescribed : headed.Extends
            (if pcap.numInterfaces = 0 then
              (pcapCaptureAddInterface headed pcapLinktypeRaw).toOption.getD headed
            else
              headed) := by
          split
          · cases hadd : pcapCaptureAddInterface headed pcapLinktypeRaw with
            | error _ => exact .refl headed
            | ok _ => exact .addInterface hadd
          · exact .refl headed
        exact ⟨hdescribed.snapLen.trans h.snapLen, fun _ _ => hdescribed.file⟩
      · rename_i hmode
        cases hok
        exact ⟨h.snapLen, fun hng _ => absurd hng hmode⟩

theorem PcapCapture.Prepared.step {pcap : PcapCapture} (h : pcap.Prepared) (op : PcapOp) :
    (PcapOp.step pcap op).Prepared := by
  rw [PcapOp.step]
  cases hresult : op.apply pcap with
  | error _ => exact h
  | ok after =>
      change after.Prepared
      cases op with
      | openFile => exact h.openFile hresult
      | close =>
          cases hresult
          exact ⟨h.snapLen, fun _ hopen => Bool.noConfusion hopen⟩
      | addInterface => exact h.of_extends (.addInterface hresult)
      | rawPacket => exact h.of_extends (.rawPacket hresult)
      | ip => exact h.of_extends (.ip hresult)
      | packet => exact h.of_extends (.sent hresult)

theorem PcapCapture.Prepared.run {pcap : PcapCapture} (h : pcap.Prepared) (ops : List PcapOp) :
    (ops.foldl PcapOp.step pcap).Prepared := by
  induction ops generalizing pcap with
  | nil => exact h
  | cons op ops ih => exact ih (h.step op)

/-- **No captured packet is what was sent, and no PCAPNG file can be walked through.** -/
theorem captured_packets_are_wrong (usePcapng : Bool) (packetBuffer : Memory) (ops : List PcapOp)
    (sent : Sent) (tsNs : BitVec 64)
    (hopen : (ops.foldl PcapOp.step (pcapCaptureCreate usePcapng packetBuffer)).isOpen = true) :
    ∃ after,
      sent.capture (ops.foldl PcapOp.step (pcapCaptureCreate usePcapng packetBuffer)) tsNs = .ok after
        ∧ ¬after.ContainsWhatWasSent sent
        ∧ ¬sent.IsRecord after.lastRecord
        ∧ (after.usePcapng = true → ¬after.VisitsItsBlocks) := by
  have hprepared := (prepared_pcapCaptureCreate usePcapng packetBuffer).run ops
  obtain ⟨after, hafter, hrecord⟩ := sent.capture_spec hopen hprepared.snapLen tsNs
  refine ⟨after, hafter, fun h => sent.not_isRecord hrecord h.record, sent.not_isRecord hrecord, ?_⟩
  intro hmode
  have hext := PcapCapture.Extends.sent hafter
  obtain ⟨blocks, hblocks⟩ := (hprepared.of_extends hext).headed hmode (hext.isOpen.trans hopen)
  exact not_visitsItsBlocks hblocks.symm

theorem captured_packets_are_wrong_udp :
    ∃ after, (Sent.udp [1, 2, 3] 0x0A2D0001 0x0A2D0002 40000 53 0).capture
        ([PcapOp.openFile true].foldl PcapOp.step (pcapCaptureCreate true zeros)) 0 = .ok after
      ∧ ¬after.ContainsWhatWasSent (.udp [1, 2, 3] 0x0A2D0001 0x0A2D0002 40000 53 0)
      ∧ ¬(Sent.udp [1, 2, 3] 0x0A2D0001 0x0A2D0002 40000 53 0).IsRecord after.lastRecord
      ∧ (after.usePcapng = true → ¬after.VisitsItsBlocks) :=
  captured_packets_are_wrong true zeros [.openFile true] _ 0 rfl

/-- In a file of plain records as well, the UDP header of an empty payload is not the captured one. -/
theorem empty_udp_payload_not_captured :
    ∃ after,
      (Sent.udp [] 0x7F000001 0x0A000002 1234 2152 0).capture
          (PcapOp.step (pcapCaptureCreate false zeros) (.openFile true)) 0 = .ok after
        ∧ ¬after.ContainsWhatWasSent (.udp [] 0x7F000001 0x0A000002 1234 2152 0) := by
  have hprepared := (prepared_pcapCaptureCreate false zeros).step (.openFile true)
  obtain ⟨after, hafter, hrecord⟩ :=
    (Sent.udp [] 0x7F000001 0x0A000002 1234 2152 0).capture_spec rfl hprepared.snapLen 0
  exact ⟨after, hafter, fun h => Sent.not_isRecord hrecord _ h.record⟩

end Uesim
