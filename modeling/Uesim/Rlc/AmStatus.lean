import Uesim.Library.BitMemory
import Uesim.Rlc.AmTxWindow

/-!
# Status PDUs of acknowledged mode

What the transmitting side reads from a status PDU and what it does with its window, and what the
receiving side writes into one. Both sides work on single bytes at a bit offset of their own. The
bytes behind the status PDU are part of the memory that the reading side is given, since it reads
fields that it has begun to their end.
-/

namespace Uesim

open Bytes BitMemory

/-! ### Reading a status PDU -/

def rlcStatusCpt (statusData : Memory) : Byte := (statusData 0 >>> 5) &&& 0x07

def rlcStatusAckSn (statusData : Memory) (snLength : Byte) : BitVec 16 :=
  if snLength = 12 then
    ((statusData 0 &&& 0x1f).setWidth 16 <<< 7) ||| ((statusData 1 >>> 1) &&& 0x7f).setWidth 16
  else
    ((statusData 0 &&& 0x1f).setWidth 16 <<< 13) ||| ((statusData 1).setWidth 16 <<< 5)
      ||| ((statusData 2 >>> 3) &&& 0x1f).setWidth 16

def rlcStatusHeaderBits (snLength : Byte) : Nat := if snLength = 12 then 16 else 24

/-- A NACK_SN and the bit offset behind it. A part of it that does not end with its byte is read from
the one byte that it starts in. -/
def rlcStatusNackSn (statusData : Memory) (snLength : Byte) (bitOffset : Nat) : BitVec 16 × Nat :=
  let part := fun bitOffset => statusData (bitOffset / 8) >>> (7 - bitOffset % 8)
  if snLength = 12 then
    (((part bitOffset &&& 0x1f).setWidth 16 <<< 7) ||| (part (bitOffset + 5) &&& 0x7f).setWidth 16,
      bitOffset + 12)
  else
    (((part bitOffset &&& 0x1f).setWidth 16 <<< 13) ||| ((part (bitOffset + 5)).setWidth 16 <<< 5)
      ||| (part (bitOffset + 13) &&& 0x1f).setWidth 16, bitOffset + 18)

/-- One round of the loop that removes acknowledged PDUs. Only the PDU in front of a slot is freed, and
the slot forgets the others. -/
def rlcAmReleaseNext (snLength : Byte) (win : RlcAmTxWindow) : RlcAmTxWindow :=
  { win.setSlot (win.index win.vtA) [] with vtA := (win.vtA + 1) &&& rlcSnMask snLength }

/-- The loop moves VT(A) until it meets ACK_SN. VT(A) has sixteen bits, so it is back where it was by
then or has met it. -/
def rlcAmReleaseUntil (ackSn : BitVec 16) (snLength : Byte) (win : RlcAmTxWindow) : RlcAmTxWindow :=
  (Loop.run (rlcAmReleaseNext snLength) (fun win => win.vtA == ackSn) (2 ^ 16 + 1) win).getD win

def rlcAmMarkForRetransmission (win : RlcAmTxWindow) (nackSn : BitVec 16) : RlcAmTxWindow :=
  let idx := win.index nackSn
  match win.slot idx with
  | [] => win
  | pdu :: rest => win.setSlot idx ({ pdu with isSegment := true } :: rest)

structure RlcNackScan where
  win : RlcAmTxWindow
  bitOffset : Nat
  e1 : Bool

def rlcAmProcessNack (statusData : Memory) (snLength : Byte) (scan : RlcNackScan) : RlcNackScan :=
  let nack := rlcStatusNackSn statusData snLength scan.bitOffset
  let e1 := bitAt statusData nack.2
  let e2 := bitAt statusData (nack.2 + 1)
  { win := rlcAmMarkForRetransmission scan.win nack.1
    bitOffset := if e2 then nack.2 + 2 + 32 else nack.2 + 2
    e1 := e1 }

def rlcAmNacksEnd (statusLength : Nat) (scan : RlcNackScan) : Bool :=
  !(scan.e1 && decide (scan.bitOffset / 8 < statusLength))

def rlcNackScanStart (statusData : Memory) (snLength : Byte) (win : RlcAmTxWindow) : RlcNackScan :=
  { win := win
    bitOffset := rlcStatusHeaderBits snLength + 1
    e1 := bitAt statusData (rlcStatusHeaderBits snLength) }

/-- Every round moves the bit offset on, so there are no more rounds than bits. -/
def rlcAmProcessNacks (statusData : Memory) (statusLength : Nat) (snLength : Byte)
    (win : RlcAmTxWindow) : RlcAmTxWindow :=
  let start := rlcNackScanStart statusData snLength win
  ((Loop.run (rlcAmProcessNack statusData snLength) (rlcAmNacksEnd statusLength)
    (8 * statusLength + 1) start).getD start).win

/-- Processing a status PDU with an initialised window. -/
def rlcAmProcessStatus (win : RlcAmTxWindow) (statusData : Memory) (statusLength : Nat)
    (snLength : Byte) : RlcAmTxWindow × Except UesimError Unit :=
  if statusLength = 0 then (win, .error .invalidParam)
  else if rlcStatusCpt statusData ≠ 0 then (win, .error .protocol)
  else
    (rlcAmProcessNacks statusData statusLength snLength
      (rlcAmReleaseUntil (rlcStatusAckSn statusData snLength) snLength win), .ok ())

/-! ### Writing a status PDU -/

def rlcStatusHeader (ackSn : BitVec 16) (snLength : Byte) : Memory :=
  if snLength = 12 then
    ofBytes [0x80 ||| ((ackSn >>> 7) &&& 0x1f).setWidth 8, ((ackSn &&& 0x7f) <<< 1).setWidth 8]
  else
    ofBytes [0x80 ||| ((ackSn >>> 13) &&& 0x1f).setWidth 8, ((ackSn >>> 5) &&& 0xff).setWidth 8,
      ((ackSn &&& 0x1f) <<< 3).setWidth 8]

structure RlcStatusWriter where
  pdu : Memory
  bitOffset : Nat
  nackCount : Nat
  sn : BitVec 16

def rlcStatusWriteNack (snLength : Byte) (w : RlcStatusWriter) : RlcStatusWriter :=
  let pdu := setBit w.pdu w.bitOffset
  let b := w.bitOffset + 1
  if snLength = 12 then
    let pdu := orByte pdu (b / 8) (((w.sn >>> 7) &&& 0x1f).setWidth 8)
    let pdu := orByte pdu ((b + 5) / 8) (((w.sn &&& 0x7f) <<< (7 - (b + 5) % 8)).setWidth 8)
    { w with pdu := pdu, bitOffset := b + 5 + 7 + 1, nackCount := w.nackCount + 1 }
  else
    let pdu := orByte pdu (b / 8) (((w.sn >>> 13) &&& 0x1f).setWidth 8)
    let pdu := orByte pdu ((b + 5) / 8) (((w.sn >>> 5) &&& 0xff).setWidth 8)
    let pdu := orByte pdu ((b + 13) / 8) (((w.sn &&& 0x1f) <<< (7 - (b + 13) % 8)).setWidth 8)
    { w with pdu := pdu, bitOffset := b + 13 + 5 + 1, nackCount := w.nackCount + 1 }

def rlcStatusWriteNext (win : RlcAmRxWindow) (snLength : Byte) (w : RlcStatusWriter) :
    RlcStatusWriter :=
  let w := if win.slot (win.index w.sn) = [] then rlcStatusWriteNack snLength w else w
  { w with sn := (w.sn + 1) &&& rlcSnMask snLength }

def rlcStatusWriteEnds (win : RlcAmRxWindow) (w : RlcStatusWriter) : Bool :=
  w.sn == win.vrH || decide (16 ≤ w.nackCount)

def rlcStatusWriteStart (win : RlcAmRxWindow) (snLength : Byte) : RlcStatusWriter :=
  { pdu := rlcStatusHeader win.vrR snLength
    bitOffset := rlcStatusHeaderBits snLength
    nackCount := 0
    sn := win.vrR }

/-- The buffer and the length of the status PDU of an initialised window, on so many evaluations of
the loop test. -/
def rlcAmGenerateStatus (fuel : Nat) (win : RlcAmRxWindow) (snLength : Byte) :
    Option (Memory × Nat) :=
  (Loop.run (rlcStatusWriteNext win snLength) (rlcStatusWriteEnds win) fuel
    (rlcStatusWriteStart win snLength)).map fun w =>
      (clearBit w.pdu w.bitOffset, (w.bitOffset + 7) / 8)

/-! ### The two sides do not agree on the first byte -/

/-- The header sets the bit for D/C where the reading side has the first bit of CPT. -/
theorem rlcStatusCpt_header (ackSn : BitVec 16) (snLength : Byte) :
    rlcStatusCpt (rlcStatusHeader ackSn snLength) = 4 := by
  have hbyte : ∀ b : Byte, (((0x80 : Byte) ||| (b &&& 0x1f)) >>> 5) &&& 0x07 = 4 := by
    decide +kernel
  have hfield : ∀ x : BitVec 16, (x &&& 0x1f).setWidth 8 = x.setWidth 8 &&& 0x1f := by
    intro x
    rw [BitVec.setWidth_and]
    rfl
  unfold rlcStatusCpt rlcStatusHeader
  split
  · change (((0x80 : Byte) ||| ((ackSn >>> 7) &&& 0x1f).setWidth 8) >>> 5) &&& 0x07 = 4
    rw [hfield, hbyte]
  · change (((0x80 : Byte) ||| ((ackSn >>> 13) &&& 0x1f).setWidth 8) >>> 5) &&& 0x07 = 4
    rw [hfield, hbyte]

def RlcStatusWriter.KeepsHeader (ackSn : BitVec 16) (snLength : Byte) (w : RlcStatusWriter) : Prop :=
  16 ≤ w.bitOffset ∧ w.pdu 0 = rlcStatusHeader ackSn snLength 0

theorem keepsHeader_writeNack {ackSn : BitVec 16} {snLength : Byte} {w : RlcStatusWriter}
    (h : w.KeepsHeader ackSn snLength) : (rlcStatusWriteNack snLength w).KeepsHeader ackSn snLength := by
  obtain ⟨hoffset, hpdu⟩ := h
  have hflag : 0 ≠ w.bitOffset / 8 := by omega
  have hzero : ∀ k, 0 ≠ (w.bitOffset + k) / 8 := fun k => by omega
  unfold rlcStatusWriteNack
  split
  · refine ⟨by dsimp only; omega, ?_⟩
    dsimp only
    rw [orByte_of_ne (hzero 6), orByte_of_ne (hzero 1), setBit_of_ne hflag, hpdu]
  · refine ⟨by dsimp only; omega, ?_⟩
    dsimp only
    rw [orByte_of_ne (hzero 14), orByte_of_ne (hzero 6), orByte_of_ne (hzero 1),
      setBit_of_ne hflag, hpdu]

theorem keepsHeader_writeNext {ackSn : BitVec 16} {snLength : Byte} {win : RlcAmRxWindow}
    {w : RlcStatusWriter} (h : w.KeepsHeader ackSn snLength) :
    (rlcStatusWriteNext win snLength w).KeepsHeader ackSn snLength := by
  unfold rlcStatusWriteNext
  split
  · exact keepsHeader_writeNack h
  · exact h

/-- Every status PDU that is written has two bytes at least, and what the reading side takes for CPT
is four. -/
theorem rlcStatusCpt_generate {fuel : Nat} {win : RlcAmRxWindow} {snLength : Byte} {pdu : Memory}
    {length : Nat} (h : rlcAmGenerateStatus fuel win snLength = some (pdu, length)) :
    2 ≤ length ∧ rlcStatusCpt pdu = 4 := by
  obtain ⟨w, hrun, heq⟩ := Option.map_eq_some_iff.mp h
  obtain ⟨rfl, rfl⟩ := Prod.mk.inj heq
  have hstart : (rlcStatusWriteStart win snLength).KeepsHeader win.vrR snLength := by
    refine ⟨?_, rfl⟩
    change 16 ≤ rlcStatusHeaderBits snLength
    unfold rlcStatusHeaderBits
    split <;> omega
  obtain ⟨hoffset, hpdu⟩ := Loop.run_induction (rlcStatusWriteNext win snLength)
    (rlcStatusWriteEnds win) (P := fun w => w.KeepsHeader win.vrR snLength)
    (fun w => keepsHeader_writeNext) hstart hrun
  have hfirst : clearBit w.pdu w.bitOffset 0 = rlcStatusHeader win.vrR snLength 0 := by
    rw [clearBit_of_ne (by omega), hpdu]
  refine ⟨by omega, ?_⟩
  rw [← rlcStatusCpt_header win.vrR snLength, rlcStatusCpt, rlcStatusCpt, hfirst]

end Uesim
