import Uesim.Library.Bytes
import Uesim.Types

/-!
# Lists of network slices in a message

An entry is one byte, and three more if it has a slice differentiator. Whether it has one is not written: the
decoder takes the next three bytes of the message for it wherever there are three. So an entry without one
comes back only at the very end of the message.
-/

namespace Uesim

open Bytes

def nasMaxSNssai : Nat := 8

/-- A slice. What goes with a flag is there or not. -/
structure NasSNssai where
  sst : Byte
  sd : Option Word
  mappedSst : Option Byte
  mappedSd : Option Word
  deriving DecidableEq

def nasSdBytes (sd : Word) : List Byte := [byteOf sd 2, byteOf sd 1, byteOf sd 0]

def nasSlicePut (bufferSize : Nat) (buffer bytes : List Byte) : Except UesimError (List Byte) :=
  if bufferSize < buffer.length + bytes.length then .error .invalidParam else .ok (buffer ++ bytes)

def nasSliceEncodeSNssai (slice : NasSNssai) (bufferSize : Nat) : Except UesimError (List Byte) := do
  let buffer ← nasSlicePut bufferSize [] [slice.sst]
  let buffer ← nasSlicePut bufferSize buffer ((slice.sd.map nasSdBytes).getD [])
  match slice.mappedSst with
  | none => .ok buffer
  | some mappedSst =>
      let buffer ← nasSlicePut bufferSize buffer [mappedSst]
      nasSlicePut bufferSize buffer ((slice.mappedSd.map nasSdBytes).getD [])

/-- A slice and the number of bytes that it took. There is a differentiator wherever three bytes are left. -/
def nasSliceDecodeSNssai : List Byte → Except UesimError (NasSNssai × Nat)
  | [] => .error .invalidParam
  | sst :: sd2 :: sd1 :: sd0 :: _ =>
      .ok ({ sst := sst, sd := some (beWord 0 sd2 sd1 sd0), mappedSst := none, mappedSd := none }, 4)
  | sst :: _ => .ok ({ sst := sst, sd := none, mappedSst := none, mappedSd := none }, 1)

def nasSliceEncodeEntries (bufferSize : Nat) : List NasSNssai → List Byte → Except UesimError (List Byte)
  | [], buffer => .ok buffer
  | slice :: slices, buffer => do
      let bytes ← nasSliceEncodeSNssai slice (bufferSize - buffer.length)
      nasSliceEncodeEntries bufferSize slices (buffer ++ bytes)

/-- The number of slices is that of the list. -/
def nasSliceEncodeNssai (slices : List NasSNssai) (bufferSize : Nat) : Except UesimError (List Byte) :=
  if slices.length = 0 ∨ nasMaxSNssai < slices.length then .error .invalidParam
  else if bufferSize < 1 then .error .invalidParam
  else do
    let buffer ← nasSliceEncodeEntries bufferSize slices [0]
    .ok (buffer.set 0 (BitVec.ofNat 8 (buffer.length - 1)))

/-- Entries are taken from the rest of the buffer until the list is over, the array is full or nothing is
left. -/
def nasSliceDecodeEntries (limit : Nat) : Nat → Nat → List Byte → List NasSNssai
  | 0, _, _ => []
  | room + 1, len, rest =>
      if len < limit then
        match nasSliceDecodeSNssai rest with
        | .error _ => []
        | .ok (slice, sliceLen) =>
            slice :: nasSliceDecodeEntries limit room (len + sliceLen) (rest.drop sliceLen)
      else []

def nasSliceDecodeNssai (maxCount : Nat) : List Byte → Except UesimError (List NasSNssai)
  | [] => .error .invalidParam
  | nssaiLen :: rest =>
      if rest.length < nssaiLen.toNat then .error .invalidParam
      else .ok (nasSliceDecodeEntries (nssaiLen.toNat + 1) maxCount 1 rest)

/-! ### What is written -/

namespace NasSNssai

def bytes (slice : NasSNssai) : List Byte :=
  slice.sst :: (slice.sd.map nasSdBytes).getD []
    ++ (slice.mappedSst.map fun mappedSst =>
      mappedSst :: (slice.mappedSd.map nasSdBytes).getD []).getD []

theorem length_sdBytes_le (sd : Option Word) : ((sd.map nasSdBytes).getD []).length ≤ 3 := by
  cases sd with
  | none => exact Nat.zero_le _
  | some sd => exact Nat.le_refl _

theorem length_bytes_le (slice : NasSNssai) : slice.bytes.length ≤ 8 := by
  have hsd := length_sdBytes_le slice.sd
  have hmapped := length_sdBytes_le slice.mappedSd
  rw [bytes, List.length_append, List.length_cons]
  cases slice.mappedSst with
  | none => exact Nat.le_trans (Nat.add_le_add_right hsd _) (by decide)
  | some mappedSst =>
      simp only [Option.map_some, Option.getD_some, List.length_cons]
      omega

theorem length_bytes_pos (slice : NasSNssai) : 0 < slice.bytes.length := Nat.succ_pos _

end NasSNssai

theorem nasSlicePut_eq_ok {bufferSize : Nat} {buffer bytes buffer' : List Byte}
    (h : nasSlicePut bufferSize buffer bytes = .ok buffer') : buffer' = buffer ++ bytes := by
  unfold nasSlicePut at h
  split at h
  · cases h
  · exact (Except.ok.inj h).symm

theorem nasSliceEncodeSNssai_eq_ok {slice : NasSNssai} {bufferSize : Nat} {buffer : List Byte}
    (h : nasSliceEncodeSNssai slice bufferSize = .ok buffer) : buffer = slice.bytes := by
  obtain ⟨first, hfirst, h⟩ := exists_of_bind_eq_ok h
  obtain ⟨second, hsecond, h⟩ := exists_of_bind_eq_ok h
  have hhead : second = slice.sst :: (slice.sd.map nasSdBytes).getD [] := by
    rw [nasSlicePut_eq_ok hsecond, nasSlicePut_eq_ok hfirst]
    rfl
  rw [NasSNssai.bytes, ← hhead]
  cases hmapped : slice.mappedSst with
  | none =>
      rw [hmapped] at h
      exact (Except.ok.inj h).symm.trans (List.append_nil second).symm
  | some mappedSst =>
      rw [hmapped] at h
      obtain ⟨third, hthird, h⟩ := exists_of_bind_eq_ok h
      rw [nasSlicePut_eq_ok h, nasSlicePut_eq_ok hthird, List.append_assoc]
      rfl

theorem nasSliceEncodeEntries_eq_ok {bufferSize : Nat} {slices : List NasSNssai} {buffer buffer' : List Byte}
    (h : nasSliceEncodeEntries bufferSize slices buffer = .ok buffer') :
    buffer' = buffer ++ slices.flatMap NasSNssai.bytes := by
  induction slices generalizing buffer with
  | nil => exact (Except.ok.inj h).symm.trans (List.append_nil buffer).symm
  | cons slice slices ih =>
      obtain ⟨bytes, hbytes, h⟩ := exists_of_bind_eq_ok h
      rw [ih h, nasSliceEncodeSNssai_eq_ok hbytes, List.append_assoc]
      rfl

theorem length_flatMap_bytes_le (slices : List NasSNssai) :
    (slices.flatMap NasSNssai.bytes).length ≤ 8 * slices.length := by
  induction slices with
  | nil => exact Nat.le_refl _
  | cons slice slices ih =>
      have hslice := slice.length_bytes_le
      rw [List.flatMap_cons, List.length_append, List.length_cons]
      omega

/-- A list that is encoded is not empty and not too long, and its entries stand behind their length. -/
theorem nasSliceEncodeNssai_eq_ok {slices : List NasSNssai} {bufferSize : Nat} {encoded : List Byte}
    (h : nasSliceEncodeNssai slices bufferSize = .ok encoded) :
    slices.length ≤ nasMaxSNssai ∧ ∃ nssaiLen : Byte,
      encoded = nssaiLen :: slices.flatMap NasSNssai.bytes
        ∧ nssaiLen.toNat = (slices.flatMap NasSNssai.bytes).length := by
  unfold nasSliceEncodeNssai at h
  split at h
  · cases h
  · rename_i hcount
    split at h
    · cases h
    · obtain ⟨buffer, hbuffer, h⟩ := exists_of_bind_eq_ok h
      have hle : slices.length ≤ 8 := Nat.not_lt.mp (not_or.mp hcount).2
      have hbytes := length_flatMap_bytes_le slices
      rw [nasSliceEncodeEntries_eq_ok hbuffer] at h
      refine ⟨hle, _, (Except.ok.inj h).symm, ?_⟩
      rw [BitVec.toNat_ofNat, List.singleton_append, List.length_cons]
      exact Nat.mod_eq_of_lt (by omega)

/-! ### What is read -/

/-- What the encoding of a slice keeps, if so many bytes of the message come behind it: there is no mapped
part, the differentiator has three bytes, and without one there are not three more bytes. -/
def NasSNssai.Recoverable (slice : NasSNssai) (behind : Nat) : Prop :=
  slice.mappedSst = none ∧ slice.mappedSd = none
    ∧ match slice.sd with
      | some sd => byteOf sd 3 = 0
      | none => behind ≤ 2

/-- Every slice of a list is recoverable with what comes behind it. -/
def NssaiRecoverable : List NasSNssai → List Byte → Prop
  | [], _ => True
  | slice :: slices, trailing =>
      slice.Recoverable (slices.flatMap NasSNssai.bytes ++ trailing).length
        ∧ NssaiRecoverable slices trailing

theorem beWord_zero_byteOf_iff {sd : Word} :
    beWord 0 (byteOf sd 2) (byteOf sd 1) (byteOf sd 0) = sd ↔ byteOf sd 3 = 0 := by
  constructor
  · intro h
    rw [← h, byteOf_beWord_three]
  · intro h
    rw [← h, beWord_byteOf]

theorem nasSliceDecodeSNssai_long (sst : Byte) {more : List Byte} (h : 2 < more.length) :
    ∃ sd, nasSliceDecodeSNssai (sst :: more)
      = .ok ({ sst := sst, sd := some sd, mappedSst := none, mappedSd := none }, 4) := by
  obtain ⟨b2, b1, b0, more, rfl⟩ : ∃ b2 b1 b0 rest, more = b2 :: b1 :: b0 :: rest := by
    rcases more with _ | ⟨b2, _ | ⟨b1, _ | ⟨b0, rest⟩⟩⟩
    · simp at h
    · simp at h
    · simp at h
    · exact ⟨b2, b1, b0, rest, rfl⟩
  exact ⟨_, rfl⟩

theorem nasSliceDecodeSNssai_short (sst : Byte) {more : List Byte} (h : more.length ≤ 2) :
    nasSliceDecodeSNssai (sst :: more)
      = .ok ({ sst := sst, sd := none, mappedSst := none, mappedSd := none }, 1) := by
  rcases more with _ | ⟨b2, _ | ⟨b1, _ | ⟨b0, rest⟩⟩⟩
  · rfl
  · rfl
  · rfl
  · simp at h

/-- **The first slice comes back exactly when it is recoverable**, and then all of its bytes are taken. -/
theorem nasSliceDecodeSNssai_bytes (slice : NasSNssai) (more : List Byte) :
    ∃ decoded sliceLen, nasSliceDecodeSNssai (slice.bytes ++ more) = .ok (decoded, sliceLen)
      ∧ (decoded = slice ↔ slice.Recoverable more.length)
      ∧ (decoded = slice → sliceLen = slice.bytes.length) := by
  obtain ⟨sst, sd, mappedSst, mappedSd⟩ := slice
  cases sd with
  | some sd =>
      refine ⟨_, 4, rfl, ?_, ?_⟩
      · rw [NasSNssai.Recoverable, NasSNssai.mk.injEq, Option.some.injEq, beWord_zero_byteOf_iff]
        constructor
        · rintro ⟨-, hsd, hmappedSst, hmappedSd⟩
          exact ⟨hmappedSst.symm, hmappedSd.symm, hsd⟩
        · rintro ⟨hmappedSst, hmappedSd, hsd⟩
          exact ⟨rfl, hsd, hmappedSst.symm, hmappedSd.symm⟩
      · intro heq
        rw [← heq]
        rfl
  | none =>
      -- What stands behind the first byte is the mapped part and the rest of the message.
      set behind := (mappedSst.map fun mappedSst =>
        mappedSst :: (mappedSd.map nasSdBytes).getD []).getD [] ++ more with hbehind
      have hbytes : NasSNssai.bytes ⟨sst, none, mappedSst, mappedSd⟩ ++ more = sst :: behind := rfl
      have hmore : more.length ≤ behind.length := by
        rw [hbehind, List.length_append]
        exact Nat.le_add_left _ _
      rw [hbytes]
      by_cases hlong : 2 < behind.length
      · obtain ⟨sd, hdecode⟩ := nasSliceDecodeSNssai_long sst hlong
        have hne : (⟨sst, some sd, none, none⟩ : NasSNssai) ≠ ⟨sst, none, mappedSst, mappedSd⟩ := by
          intro heq
          cases congrArg NasSNssai.sd heq
        refine ⟨_, _, hdecode, iff_of_false hne ?_, fun heq => absurd heq hne⟩
        rintro ⟨hmappedSst, -, hshort⟩
        have hnone : mappedSst = none := hmappedSst
        rw [hbehind, hnone] at hlong
        exact absurd hshort (Nat.not_le.mpr hlong)
      · refine ⟨_, _, nasSliceDecodeSNssai_short sst (Nat.not_lt.mp hlong), ?_, ?_⟩
        · rw [NasSNssai.mk.injEq]
          constructor
          · rintro ⟨-, -, hmappedSst, hmappedSd⟩
            exact ⟨hmappedSst.symm, hmappedSd.symm, Nat.le_trans hmore (Nat.not_lt.mp hlong)⟩
          · rintro ⟨hmappedSst, hmappedSd, -⟩
            exact ⟨rfl, rfl, hmappedSst.symm, hmappedSd.symm⟩
        · intro heq
          rw [← heq]
          rfl

/-- **The entries come back exactly when all of them are recoverable.** -/
theorem nasSliceDecodeEntries_eq_iff (slices : List NasSNssai) {room : Nat} (hroom : slices.length ≤ room)
    (len : Nat) (trailing : List Byte) :
    nasSliceDecodeEntries (len + (slices.flatMap NasSNssai.bytes).length) room len
        (slices.flatMap NasSNssai.bytes ++ trailing) = slices
      ↔ NssaiRecoverable slices trailing := by
  induction slices generalizing room len with
  | nil =>
      refine iff_of_true ?_ trivial
      cases room with
      | zero => rfl
      | succ room =>
          rw [nasSliceDecodeEntries]
          exact if_neg (Nat.lt_irrefl _)
  | cons slice slices ih =>
      obtain ⟨room, rfl⟩ : ∃ k, room = k + 1 := Nat.exists_eq_add_one_of_ne_zero fun hzero => by
        rw [hzero] at hroom
        cases hroom
      obtain ⟨decoded, sliceLen, hdecode, hiff, hlen⟩ :=
        nasSliceDecodeSNssai_bytes slice (slices.flatMap NasSNssai.bytes ++ trailing)
      have hpos := slice.length_bytes_pos
      rw [List.flatMap_cons, List.length_append, List.append_assoc, nasSliceDecodeEntries,
        if_pos (by omega), hdecode, NssaiRecoverable, ← hiff, List.cons.injEq]
      refine and_congr_right fun heq => ?_
      rw [hlen heq, List.drop_left, ← Nat.add_assoc]
      exact ih (Nat.le_of_succ_le_succ hroom) (len + slice.bytes.length)

/-- **A list comes back from a message exactly when every slice of it is recoverable.** -/
theorem nasSliceDecodeNssai_encode_iff {slices : List NasSNssai} {bufferSize : Nat} {encoded : List Byte}
    (h : nasSliceEncodeNssai slices bufferSize = .ok encoded) (trailing : List Byte) :
    nasSliceDecodeNssai nasMaxSNssai (encoded ++ trailing) = .ok slices
      ↔ NssaiRecoverable slices trailing := by
  obtain ⟨hcount, nssaiLen, rfl, hlen⟩ := nasSliceEncodeNssai_eq_ok h
  have hfits : ¬(slices.flatMap NasSNssai.bytes ++ trailing).length < nssaiLen.toNat := by
    rw [List.length_append, hlen]
    omega
  rw [List.cons_append, nasSliceDecodeNssai, if_neg hfits, Except.ok.injEq, hlen, Nat.add_comm]
  exact nasSliceDecodeEntries_eq_iff slices hcount 1 trailing

/-- Two slices, the last one without a differentiator, at the end of a message. -/
theorem nasSliceDecodeNssai_encode_last :
    nasSliceDecodeNssai nasMaxSNssai ([5, 1, 0, 0, 1, 2] ++ [])
      = .ok [⟨1, some 1, none, none⟩, ⟨2, none, none, none⟩] := by
  have hencoded : nasSliceEncodeNssai [⟨1, some 1, none, none⟩, ⟨2, none, none, none⟩] 16
      = .ok [5, 1, 0, 0, 1, 2] := rfl
  exact (nasSliceDecodeNssai_encode_iff hencoded []).mpr
    ⟨⟨rfl, rfl, by decide⟩, ⟨rfl, rfl, Nat.zero_le 2⟩, trivial⟩

/-- A slice without a differentiator, in front of one that has one; with three more bytes behind it; and a
slice with a mapped one. -/
theorem nasSliceDecodeNssai_ne_encode :
    nasSliceEncodeNssai [⟨1, none, none, none⟩, ⟨2, some 1, none, none⟩] 16 = .ok [5, 1, 2, 0, 0, 1]
      ∧ nasSliceDecodeNssai nasMaxSNssai [5, 1, 2, 0, 0, 1]
        ≠ .ok [⟨1, none, none, none⟩, ⟨2, some 1, none, none⟩]
      ∧ nasSliceEncodeNssai [⟨1, none, none, none⟩] 16 = .ok [1, 1]
      ∧ nasSliceDecodeNssai nasMaxSNssai ([1, 1] ++ [0, 0, 0]) ≠ .ok [⟨1, none, none, none⟩]
      ∧ nasSliceEncodeNssai [⟨1, some 1, some 2, none⟩] 16 = .ok [5, 1, 0, 0, 1, 2]
      ∧ nasSliceDecodeNssai nasMaxSNssai [5, 1, 0, 0, 1, 2] ≠ .ok [⟨1, some 1, some 2, none⟩] := by
  refine ⟨rfl, ?_, rfl, ?_, rfl, ?_⟩
  · intro h
    exact absurd (Except.ok.inj h) (by decide)
  · intro h
    exact absurd (Except.ok.inj h) (by decide)
  · intro h
    exact absurd (Except.ok.inj h) (by decide)

end Uesim
