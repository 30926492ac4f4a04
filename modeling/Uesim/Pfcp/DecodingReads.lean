import Uesim.Library.TlvReading
import Uesim.Pfcp.Messages

/-!
# What is read of a PFCP message

The header is read where the length allows it. The walk over the elements compares each length with what is
left before it looks at the content, and each decoder of a content has its own least length. So every byte
string is decoded or rejected within its length.
-/

namespace Uesim

open Bytes BitMemory Reading FieldMemory Tlv

/-! ### The decoder as a program that reads -/

def pfcpReadNodeId (mem : Memory) (offset start len : Nat) : Reading Memory :=
  if len < 1 then pure mem
  else do
    let nodeIdType ← readNumber 8 start 1
    let mem := store mem offset nodeIdType 1
    if nodeIdType = 0 ∧ 5 ≤ len then do
      let ipv4Address ← readNumber 32 (start + 1) 4
      pure (store mem (offset + 4) ipv4Address 4)
    else pure mem

def pfcpReadFSeid (mem : Memory) (offset start len : Nat) : Reading Memory :=
  if len < 9 then pure mem
  else do
    let flags ← readNumber 8 start 1
    let mem := store mem (offset + 28) (flags &&& 1) 1
    let mem := store mem (offset + 29) (flags >>> 1 &&& 1) 1
    let seid ← readNumber 64 (start + 1) 8
    let mem := store mem offset seid 8
    if flags &&& 1 ≠ 0 ∧ 13 ≤ len then do
      let ipv4Address ← readNumber 32 (start + 9) 4
      pure (store mem (offset + 8) ipv4Address 4)
    else pure mem

/-- A field of so many bytes at the beginning of the content, if it is there. -/
def pfcpReadField (mem : Memory) (w start len fieldLen : Nat) (put : BitVec w → Memory) : Reading Memory :=
  if fieldLen ≤ len then do
    let field ← readNumber w start fieldLen
    pure (put field)
  else pure mem

/-- One turn of the loop over the elements. -/
def pfcpReadIe (mem : Memory) (ieType : BitVec 16) (start len : Nat) : Reading Memory :=
  if ieType = PfcpIeType.nodeId.value then pfcpReadNodeId mem 0 start len
  else if ieType = PfcpIeType.fSeid.value then pfcpReadFSeid mem 280 start len
  else if ieType = PfcpIeType.cause.value then
    pfcpReadField mem 8 start len 1 fun cause => store mem 280 (cause.setWidth 32) 4
  else if ieType = PfcpIeType.recoveryTimeStamp.value then
    pfcpReadField mem 32 start len 4 fun recoveryTimeStamp =>
      store mem 0 (recoveryTimeStamp.setWidth 64) 8
  else if ieType = PfcpIeType.cpFunctionFeatures.value then
    pfcpReadField mem 8 start len 1 fun features => store mem 288 features 1
  else if ieType = PfcpIeType.upFunctionFeatures.value then
    pfcpReadField mem 8 start len 1 fun features => store (store mem 297 features 1) 296 (1 : Byte) 1
  else pure mem

/-- The SEID is there if its flag is set. -/
def pfcpReadSeid (flags : Byte) : Reading (BitVec 64) :=
  if flags >>> 3 &&& 1 = 0 then pure 0 else readNumber 64 4 8

/-- `pfcp_decode_message` with its reads of the buffer. No result if the walk over the elements does not end
within as many rounds as there are bytes. -/
def pfcpReadMessage (length : Nat) : Reading (Option (Option PfcpDecoded)) :=
  if length < 4 then pure (some none)
  else
    .byte 0 fun flags => .byte 1 fun messageType => do
      let messageLength ← readNumber 16 2 2
      let headerLen := if flags >>> 3 &&& 1 = 0 then 8 else 16
      if length < headerLen then pure (some none)
      else do
        let seid ← pfcpReadSeid flags
        let sequenceNumber ← readNumber 32 (headerLen - 4) 3
        let payload ← readWalk pfcpReadIe length (length + 1) headerLen zeros
        pure (payload.map fun payload => some
          { messageType := messageType.setWidth 32
            sequenceNumber
            messageLength
            version := flags >>> 5 &&& 7
            mp := flags >>> 4 &&& 1
            s := flags >>> 3 &&& 1
            seid
            payload })

/-! ### Its result -/

section Run

variable {buffer : List Byte} {start len : Nat}

theorem length_content (h : start + len ≤ buffer.length) : ((buffer.drop start).take len).length = len := by
  rw [List.length_take, List.length_drop]
  omega

theorem run_pfcpReadNodeId (h : start + len ≤ buffer.length) (mem : Memory) (offset : Nat) :
    (pfcpReadNodeId mem offset start len).run (ofBytes buffer)
      = pfcpDecodeNodeId mem offset ((buffer.drop start).take len) := by
  rw [pfcpReadNodeId, pfcpDecodeNodeId, length_content h]
  split
  · rfl
  · have htype := run_readNumber_content (i := 0) (n := 1) 8 h (by omega)
    rw [Nat.add_zero, List.drop_zero] at htype
    rw [run_bind, htype]
    dsimp only
    split
    · rw [run_bind, run_readNumber_content 32 h (by omega), run_pure]
    · rfl

theorem run_pfcpReadFSeid (h : start + len ≤ buffer.length) (mem : Memory) (offset : Nat) :
    (pfcpReadFSeid mem offset start len).run (ofBytes buffer)
      = pfcpDecodeFSeid mem offset ((buffer.drop start).take len) := by
  rw [pfcpReadFSeid, pfcpDecodeFSeid, length_content h]
  split
  · rfl
  · have hflags := run_readNumber_content (i := 0) (n := 1) 8 h (by omega)
    rw [Nat.add_zero, List.drop_zero] at hflags
    rw [run_bind, hflags, run_bind, run_readNumber_content 64 h (by omega)]
    dsimp only
    split
    · rw [run_bind, run_readNumber_content 32 h (by omega), run_pure]
    · rfl

theorem run_pfcpReadField (h : start + len ≤ buffer.length) (mem : Memory) {w : Nat} (fieldLen : Nat)
    (put : BitVec w → Memory) :
    (pfcpReadField mem w start len fieldLen put).run (ofBytes buffer)
      = if fieldLen ≤ ((buffer.drop start).take len).length then
          put (beValue w (((buffer.drop start).take len).take fieldLen))
        else mem := by
  rw [pfcpReadField, length_content h]
  split
  · have hfield := run_readNumber_content (i := 0) (n := fieldLen) w h (by omega)
    rw [Nat.add_zero, List.drop_zero] at hfield
    rw [run_bind, hfield, run_pure]
  · rfl

theorem run_pfcpReadIe (mem : Memory) (ieType : BitVec 16) (start len : Nat)
    (h : start + len ≤ buffer.length) :
    (pfcpReadIe mem ieType start len).run (ofBytes buffer)
      = pfcpDecodeIe mem (ieType, (buffer.drop start).take len) := by
  rw [pfcpReadIe, pfcpDecodeIe]
  dsimp only
  split
  · exact run_pfcpReadNodeId h mem 0
  split
  · exact run_pfcpReadFSeid h mem 280
  split
  · exact run_pfcpReadField h mem 1 _
  split
  · exact run_pfcpReadField h mem 4 _
  split
  · exact run_pfcpReadField h mem 1 _
  split
  · exact run_pfcpReadField h mem 1 _
  · rfl

theorem run_pfcpReadMessage (buffer : List Byte) :
    (pfcpReadMessage buffer.length).run (ofBytes buffer) = some (pfcpDecodeMessage buffer) := by
  have hat (i : Nat) : ofBytes buffer i = buffer.getD i 0 := rfl
  rw [pfcpReadMessage, pfcpDecodeMessage]
  by_cases hshort : buffer.length < 4
  · rw [if_pos hshort, if_pos (.inl hshort), run_pure]
  have hnumber : (readNumber 16 2 2).run (ofBytes buffer) = beValue 16 ((buffer.drop 2).take 2) :=
    run_readNumber 16 (by omega)
  have hheader : pfcpDecodeHeaderLen buffer = if buffer.getD 0 0 >>> 3 &&& 1 = 0 then 8 else 16 := rfl
  rw [if_neg hshort, run, run, run_bind, hat, hat, hnumber, ← hheader]
  by_cases hlength : buffer.length < pfcpDecodeHeaderLen buffer
  · rw [if_pos hlength, if_pos (.inr hlength), run_pure]
  have hwalk : (readWalk pfcpReadIe buffer.length (buffer.length + 1) (pfcpDecodeHeaderLen buffer) zeros).run
      (ofBytes buffer) = some (pfcpDecodeIes zeros (buffer.drop (pfcpDecodeHeaderLen buffer))) :=
    run_readWalk run_pfcpReadIe (by omega) (Nat.succ_pos _) zeros
  have hleast : 8 ≤ pfcpDecodeHeaderLen buffer := by
    rw [hheader]
    split <;> decide
  have hseid : (pfcpReadSeid (buffer.getD 0 0)).run (ofBytes buffer)
      = if buffer.getD 0 0 >>> 3 &&& 1 = 0 then 0
        else beValue 64 ((buffer.drop 4).take 8) := by
    rw [pfcpReadSeid]
    split
    · rfl
    · rename_i hs
      rw [hheader, if_neg hs] at hlength
      exact run_readNumber 64 (by omega)
  rw [if_neg hlength, if_neg (not_or.mpr ⟨hshort, hlength⟩), run_bind, run_bind, run_bind, hseid,
    run_readNumber 32 (by omega), hwalk, run_pure]
  rfl

end Run

/-! ### What is read -/

section Within

variable {data : Memory} {length start len : Nat}

theorem within_pfcpReadNodeId (h : start + len ≤ length) (mem : Memory) (offset : Nat) :
    (pfcpReadNodeId mem offset start len).Within data length := by
  rw [pfcpReadNodeId]
  split
  · exact within_pure _ _ _
  · refine within_bind.mpr ⟨within_readNumber data 8 (by omega), ?_⟩
    dsimp only
    split
    · rename_i haddress
      exact within_bind.mpr ⟨within_readNumber data 32 (by omega), within_pure _ _ _⟩
    · exact within_pure _ _ _

theorem within_pfcpReadFSeid (h : start + len ≤ length) (mem : Memory) (offset : Nat) :
    (pfcpReadFSeid mem offset start len).Within data length := by
  rw [pfcpReadFSeid]
  split
  · exact within_pure _ _ _
  · rw [within_bind, within_bind]
    refine ⟨within_readNumber data 8 (by omega), within_readNumber data 64 (by omega), ?_⟩
    dsimp only
    split
    · rename_i haddress
      exact within_bind.mpr ⟨within_readNumber data 32 (by omega), within_pure _ _ _⟩
    · exact within_pure _ _ _

theorem within_pfcpReadField (h : start + len ≤ length) (mem : Memory) {w : Nat} (fieldLen : Nat)
    (put : BitVec w → Memory) : (pfcpReadField mem w start len fieldLen put).Within data length := by
  rw [pfcpReadField]
  split
  · exact within_bind.mpr ⟨within_readNumber data w (by omega), within_pure _ _ _⟩
  · exact within_pure _ _ _

/-- What is looked at of an element is its content. -/
theorem within_pfcpReadIe (mem : Memory) (ieType : BitVec 16) (start len : Nat) (h : start + len ≤ length) :
    (pfcpReadIe mem ieType start len).Within data length := by
  rw [pfcpReadIe]
  split
  · exact within_pfcpReadNodeId h mem 0
  split
  · exact within_pfcpReadFSeid h mem 280
  split
  · exact within_pfcpReadField h mem 1 _
  split
  · exact within_pfcpReadField h mem 4 _
  split
  · exact within_pfcpReadField h mem 1 _
  split
  · exact within_pfcpReadField h mem 1 _
  · exact within_pure _ _ _

theorem within_pfcpReadSeid {flags : Byte} (h : (if flags >>> 3 &&& 1 = 0 then 8 else 16) ≤ length) :
    (pfcpReadSeid flags).Within data length := by
  rw [pfcpReadSeid]
  split
  · exact within_pure _ _ _
  · rename_i hs
    rw [if_neg hs] at h
    exact within_readNumber data 64 (by omega)

theorem within_pfcpReadMessage (data : Memory) (length : Nat) :
    (pfcpReadMessage length).Within data length := by
  rw [pfcpReadMessage]
  split
  · exact within_pure _ _ _
  rw [within_byte, within_byte, within_bind]
  refine ⟨by omega, by omega, within_readNumber data 16 (by omega), ?_⟩
  dsimp only
  by_cases hlength : length < if data 0 >>> 3 &&& 1 = 0 then 8 else 16
  · rw [if_pos hlength]
    exact within_pure _ _ _
  · have hleast : 8 ≤ if data 0 >>> 3 &&& 1 = 0 then 8 else 16 := by split <;> decide
    rw [if_neg hlength, within_bind, within_bind, within_bind]
    exact ⟨within_pfcpReadSeid (Nat.le_of_not_lt hlength), within_readNumber data 32 (by omega),
      within_readWalk within_pfcpReadIe _ _ _, within_pure _ _ _⟩

end Within

/-- **Every byte string, whatever lies behind it, is decoded or rejected within its length, and the decoder
ends.** -/
theorem pfcpReadMessage_bounded (data : Memory) (length : Nat) :
    (pfcpReadMessage length).Within data length
      ∧ (pfcpReadMessage length).run data = some (pfcpDecodeMessage ((List.range length).map data)) := by
  have hwithin := within_pfcpReadMessage data length
  have hsame : ∀ i < length, ofBytes ((List.range length).map data) i = data i := by
    intro i hi
    simp [ofBytes, hi]
  have hrun := run_pfcpReadMessage ((List.range length).map data)
  rw [List.length_map, List.length_range, hwithin.run_eq hsame] at hrun
  exact ⟨hwithin, hrun⟩

end Uesim
