import Uesim.Types

/-!
# AES-128

The block cipher behind NEA2 and NIA2. The state is kept by columns: the source indexes it as
`state[row][column]`, and every step of a round but the row shift works column by column.
-/

namespace Uesim

open Bytes

set_option maxRecDepth 2000 in
def aesSbox : Vector Byte 256 := #v[
  0x63, 0x7c, 0x77, 0x7b, 0xf2, 0x6b, 0x6f, 0xc5, 0x30, 0x01, 0x67, 0x2b, 0xfe, 0xd7, 0xab, 0x76,
  0xca, 0x82, 0xc9, 0x7d, 0xfa, 0x59, 0x47, 0xf0, 0xad, 0xd4, 0xa2, 0xaf, 0x9c, 0xa4, 0x72, 0xc0,
  0xb7, 0xfd, 0x93, 0x26, 0x36, 0x3f, 0xf7, 0xcc, 0x34, 0xa5, 0xe5, 0xf1, 0x71, 0xd8, 0x31, 0x15,
  0x04, 0xc7, 0x23, 0xc3, 0x18, 0x96, 0x05, 0x9a, 0x07, 0x12, 0x80, 0xe2, 0xeb, 0x27, 0xb2, 0x75,
  0x09, 0x83, 0x2c, 0x1a, 0x1b, 0x6e, 0x5a, 0xa0, 0x52, 0x3b, 0xd6, 0xb3, 0x29, 0xe3, 0x2f, 0x84,
  0x53, 0xd1, 0x00, 0xed, 0x20, 0xfc, 0xb1, 0x5b, 0x6a, 0xcb, 0xbe, 0x39, 0x4a, 0x4c, 0x58, 0xcf,
  0xd0, 0xef, 0xaa, 0xfb, 0x43, 0x4d, 0x33, 0x85, 0x45, 0xf9, 0x02, 0x7f, 0x50, 0x3c, 0x9f, 0xa8,
  0x51, 0xa3, 0x40, 0x8f, 0x92, 0x9d, 0x38, 0xf5, 0xbc, 0xb6, 0xda, 0x21, 0x10, 0xff, 0xf3, 0xd2,
  0xcd, 0x0c, 0x13, 0xec, 0x5f, 0x97, 0x44, 0x17, 0xc4, 0xa7, 0x7e, 0x3d, 0x64, 0x5d, 0x19, 0x73,
  0x60, 0x81, 0x4f, 0xdc, 0x22, 0x2a, 0x90, 0x88, 0x46, 0xee, 0xb8, 0x14, 0xde, 0x5e, 0x0b, 0xdb,
  0xe0, 0x32, 0x3a, 0x0a, 0x49, 0x06, 0x24, 0x5c, 0xc2, 0xd3, 0xac, 0x62, 0x91, 0x95, 0xe4, 0x79,
  0xe7, 0xc8, 0x37, 0x6d, 0x8d, 0xd5, 0x4e, 0xa9, 0x6c, 0x56, 0xf4, 0xea, 0x65, 0x7a, 0xae, 0x08,
  0xba, 0x78, 0x25, 0x2e, 0x1c, 0xa6, 0xb4, 0xc6, 0xe8, 0xdd, 0x74, 0x1f, 0x4b, 0xbd, 0x8b, 0x8a,
  0x70, 0x3e, 0xb5, 0x66, 0x48, 0x03, 0xf6, 0x0e, 0x61, 0x35, 0x57, 0xb9, 0x86, 0xc1, 0x1d, 0x9e,
  0xe1, 0xf8, 0x98, 0x11, 0x69, 0xd9, 0x8e, 0x94, 0x9b, 0x1e, 0x87, 0xe9, 0xce, 0x55, 0x28, 0xdf,
  0x8c, 0xa1, 0x89, 0x0d, 0xbf, 0xe6, 0x42, 0x68, 0x41, 0x99, 0x2d, 0x0f, 0xb0, 0x54, 0xbb, 0x16]

set_option maxRecDepth 2000 in
def aesInvSbox : Vector Byte 256 := #v[
  0x52, 0x09, 0x6a, 0xd5, 0x30, 0x36, 0xa5, 0x38, 0xbf, 0x40, 0xa3, 0x9e, 0x81, 0xf3, 0xd7, 0xfb,
  0x7c, 0xe3, 0x39, 0x82, 0x9b, 0x2f, 0xff, 0x87, 0x34, 0x8e, 0x43, 0x44, 0xc4, 0xde, 0xe9, 0xcb,
  0x54, 0x7b, 0x94, 0x32, 0xa6, 0xc2, 0x23, 0x3d, 0xee, 0x4c, 0x95, 0x0b, 0x42, 0xfa, 0xc3, 0x4e,
  0x08, 0x2e, 0xa1, 0x66, 0x28, 0xd9, 0x24, 0xb2, 0x76, 0x5b, 0xa2, 0x49, 0x6d, 0x8b, 0xd1, 0x25,
  0x72, 0xf8, 0xf6, 0x64, 0x86, 0x68, 0x98, 0x16, 0xd4, 0xa4, 0x5c, 0xcc, 0x5d, 0x65, 0xb6, 0x92,
  0x6c, 0x70, 0x48, 0x50, 0xfd, 0xed, 0xb9, 0xda, 0x5e, 0x15, 0x46, 0x57, 0xa7, 0x8d, 0x9d, 0x84,
  0x90, 0xd8, 0xab, 0x00, 0x8c, 0xbc, 0xd3, 0x0a, 0xf7, 0xe4, 0x58, 0x05, 0xb8, 0xb3, 0x45, 0x06,
  0xd0, 0x2c, 0x1e, 0x8f, 0xca, 0x3f, 0x0f, 0x02, 0xc1, 0xaf, 0xbd, 0x03, 0x01, 0x13, 0x8a, 0x6b,
  0x3a, 0x91, 0x11, 0x41, 0x4f, 0x67, 0xdc, 0xea, 0x97, 0xf2, 0xcf, 0xce, 0xf0, 0xb4, 0xe6, 0x73,
  0x96, 0xac, 0x74, 0x22, 0xe7, 0xad, 0x35, 0x85, 0xe2, 0xf9, 0x37, 0xe8, 0x1c, 0x75, 0xdf, 0x6e,
  0x47, 0xf1, 0x1a, 0x71, 0x1d, 0x29, 0xc5, 0x89, 0x6f, 0xb7, 0x62, 0x0e, 0xaa, 0x18, 0xbe, 0x1b,
  0xfc, 0x56, 0x3e, 0x4b, 0xc6, 0xd2, 0x79, 0x20, 0x9a, 0xdb, 0xc0, 0xfe, 0x78, 0xcd, 0x5a, 0xf4,
  0x1f, 0xdd, 0xa8, 0x33, 0x88, 0x07, 0xc7, 0x31, 0xb1, 0x12, 0x10, 0x59, 0x27, 0x80, 0xec, 0x5f,
  0x60, 0x51, 0x7f, 0xa9, 0x19, 0xb5, 0x4a, 0x0d, 0x2d, 0xe5, 0x7a, 0x9f, 0x93, 0xc9, 0x9c, 0xef,
  0xa0, 0xe0, 0x3b, 0x4d, 0xae, 0x2a, 0xf5, 0xb0, 0xc8, 0xeb, 0xbb, 0x3c, 0x83, 0x53, 0x99, 0x61,
  0x17, 0x2b, 0x04, 0x7e, 0xba, 0x77, 0xd6, 0x26, 0xe1, 0x69, 0x14, 0x63, 0x55, 0x21, 0x0c, 0x7d]

def aesSubByte (b : Byte) : Byte := aesSbox.get b.toFin

def aesInvSubByte (b : Byte) : Byte := aesInvSbox.get b.toFin

@[ext]
structure AesColumn where
  s0 : Byte
  s1 : Byte
  s2 : Byte
  s3 : Byte
  deriving DecidableEq

@[ext]
structure AesState where
  c0 : AesColumn
  c1 : AesColumn
  c2 : AesColumn
  c3 : AesColumn
  deriving DecidableEq

structure AesRoundKey where
  w0 : Word
  w1 : Word
  w2 : Word
  w3 : Word
  deriving DecidableEq

def aesRounds : Nat := 10

structure AesContext where
  roundKey : Vector AesRoundKey 11
  key : Vector Byte 16

/-! ### Key schedule -/

def aesRoundConstants : List Word := [0x01, 0x02, 0x04, 0x08, 0x10, 0x20, 0x40, 0x80, 0x1b, 0x36]

def aesFirstRoundKey (key : Vector Byte 16) : AesRoundKey where
  w0 := beWord key[0] key[1] key[2] key[3]
  w1 := beWord key[4] key[5] key[6] key[7]
  w2 := beWord key[8] key[9] key[10] key[11]
  w3 := beWord key[12] key[13] key[14] key[15]

def aesNextRoundKey (prev : AesRoundKey) (rc : Word) : AesRoundKey :=
  let temp := beWord (aesSubByte (byteOf prev.w3 2)) (aesSubByte (byteOf prev.w3 1))
    (aesSubByte (byteOf prev.w3 0)) (aesSubByte (byteOf prev.w3 3)) ^^^ (rc <<< 24)
  let w0 := prev.w0 ^^^ temp
  let w1 := prev.w1 ^^^ w0
  let w2 := prev.w2 ^^^ w1
  { w0 := w0, w1 := w1, w2 := w2, w3 := prev.w3 ^^^ w2 }

def aesRoundKeys (prev : AesRoundKey) : List Word → List AesRoundKey
  | [] => [prev]
  | rc :: rcs => prev :: aesRoundKeys (aesNextRoundKey prev rc) rcs

theorem length_aesRoundKeys (prev : AesRoundKey) (rcs : List Word) :
    (aesRoundKeys prev rcs).length = rcs.length + 1 := by
  induction rcs generalizing prev with
  | nil => rfl
  | cons rc rcs ih => simp [aesRoundKeys, ih]

def aesKeyExpansion (key : Vector Byte 16) : Vector AesRoundKey 11 :=
  ⟨(aesRoundKeys (aesFirstRoundKey key) aesRoundConstants).toArray, by
    rw [List.size_toArray, length_aesRoundKeys]; rfl⟩

def aesInitContext (key : Vector Byte 16) : AesContext where
  roundKey := aesKeyExpansion key
  key := key

/-! ### Round transformations -/

def AesState.mapColumns (f : AesColumn → AesColumn) (state : AesState) : AesState where
  c0 := f state.c0
  c1 := f state.c1
  c2 := f state.c2
  c3 := f state.c3

def AesColumn.addKeyWord (column : AesColumn) (word : Word) : AesColumn where
  s0 := column.s0 ^^^ byteOf word 3
  s1 := column.s1 ^^^ byteOf word 2
  s2 := column.s2 ^^^ byteOf word 1
  s3 := column.s3 ^^^ byteOf word 0

def aesAddRoundKey (state : AesState) (roundKey : AesRoundKey) : AesState where
  c0 := state.c0.addKeyWord roundKey.w0
  c1 := state.c1.addKeyWord roundKey.w1
  c2 := state.c2.addKeyWord roundKey.w2
  c3 := state.c3.addKeyWord roundKey.w3

def AesColumn.map (f : Byte → Byte) (column : AesColumn) : AesColumn where
  s0 := f column.s0
  s1 := f column.s1
  s2 := f column.s2
  s3 := f column.s3

def aesSubBytes (state : AesState) : AesState := state.mapColumns (AesColumn.map aesSubByte)

def aesInvSubBytes (state : AesState) : AesState := state.mapColumns (AesColumn.map aesInvSubByte)

/-- Row `r` moves left by `r` columns. -/
def aesShiftRows (state : AesState) : AesState where
  c0 := ⟨state.c0.s0, state.c1.s1, state.c2.s2, state.c3.s3⟩
  c1 := ⟨state.c1.s0, state.c2.s1, state.c3.s2, state.c0.s3⟩
  c2 := ⟨state.c2.s0, state.c3.s1, state.c0.s2, state.c1.s3⟩
  c3 := ⟨state.c3.s0, state.c0.s1, state.c1.s2, state.c2.s3⟩

/-- Row `r` moves right by `r` columns. -/
def aesInvShiftRows (state : AesState) : AesState where
  c0 := ⟨state.c0.s0, state.c3.s1, state.c2.s2, state.c1.s3⟩
  c1 := ⟨state.c1.s0, state.c0.s1, state.c3.s2, state.c2.s3⟩
  c2 := ⟨state.c2.s0, state.c1.s1, state.c0.s2, state.c3.s3⟩
  c3 := ⟨state.c3.s0, state.c2.s1, state.c1.s2, state.c0.s3⟩

def aesReduction (b : Byte) : Byte := if b &&& 0x80 ≠ 0 then 0x1b else 0

/-- The four rows are unrolled by hand in the source; the last one has `s3` once more than the
matrix of the standard does. -/
def aesMixColumn (c : AesColumn) : AesColumn where
  s0 := (c.s0 <<< 1) ^^^ aesReduction c.s0 ^^^ c.s1 ^^^ (c.s1 <<< 1) ^^^ aesReduction c.s1
    ^^^ c.s2 ^^^ c.s3
  s1 := c.s0 ^^^ (c.s1 <<< 1) ^^^ aesReduction c.s1 ^^^ c.s2 ^^^ (c.s2 <<< 1)
    ^^^ aesReduction c.s2 ^^^ c.s3
  s2 := c.s0 ^^^ c.s1 ^^^ (c.s2 <<< 1) ^^^ aesReduction c.s2 ^^^ c.s3 ^^^ (c.s3 <<< 1)
    ^^^ aesReduction c.s3
  s3 := c.s0 ^^^ (c.s0 <<< 1) ^^^ aesReduction c.s0 ^^^ c.s1 ^^^ c.s2 ^^^ c.s3 ^^^ (c.s3 <<< 1)
    ^^^ aesReduction c.s3

def aesMixColumns (state : AesState) : AesState := state.mapColumns aesMixColumn

/-- The loop of `multiply`: `n` rounds left, the multiplicand doubled in each. -/
def aesMultiplyLoop : Nat → Byte → Byte → Byte → Byte
  | 0, result, _, _ => result
  | n + 1, result, temp, y =>
      aesMultiplyLoop n (if y &&& 1 ≠ 0 then result ^^^ temp else result)
        (if temp &&& 0x80 ≠ 0 then (temp <<< 1) ^^^ 0x1b else temp <<< 1) (y >>> 1)

def aesMultiply (x y : Byte) : Byte := aesMultiplyLoop 8 0 x y

def aesInvMixColumn (c : AesColumn) : AesColumn where
  s0 := aesMultiply c.s0 0x0e ^^^ aesMultiply c.s1 0x0b ^^^ aesMultiply c.s2 0x0d
    ^^^ aesMultiply c.s3 0x09
  s1 := aesMultiply c.s0 0x09 ^^^ aesMultiply c.s1 0x0e ^^^ aesMultiply c.s2 0x0b
    ^^^ aesMultiply c.s3 0x0d
  s2 := aesMultiply c.s0 0x0d ^^^ aesMultiply c.s1 0x09 ^^^ aesMultiply c.s2 0x0e
    ^^^ aesMultiply c.s3 0x0b
  s3 := aesMultiply c.s0 0x0b ^^^ aesMultiply c.s1 0x0d ^^^ aesMultiply c.s2 0x09
    ^^^ aesMultiply c.s3 0x0e

def aesInvMixColumns (state : AesState) : AesState := state.mapColumns aesInvMixColumn

/-! ### Blocks -/

abbrev AesBlock := Vector Byte 16

def aesLoadState (block : AesBlock) : AesState where
  c0 := ⟨block[0], block[1], block[2], block[3]⟩
  c1 := ⟨block[4], block[5], block[6], block[7]⟩
  c2 := ⟨block[8], block[9], block[10], block[11]⟩
  c3 := ⟨block[12], block[13], block[14], block[15]⟩

def aesStoreState (state : AesState) : AesBlock :=
  #v[state.c0.s0, state.c0.s1, state.c0.s2, state.c0.s3,
    state.c1.s0, state.c1.s1, state.c1.s2, state.c1.s3,
    state.c2.s0, state.c2.s1, state.c2.s2, state.c2.s3,
    state.c3.s0, state.c3.s1, state.c3.s2, state.c3.s3]

def AesContext.roundKeyAt (ctx : AesContext) (round : Nat) : AesRoundKey :=
  ctx.roundKey.toList.getD round ⟨0, 0, 0, 0⟩

def aesEncryptRound (roundKey : AesRoundKey) (state : AesState) : AesState :=
  aesAddRoundKey (aesMixColumns (aesShiftRows (aesSubBytes state))) roundKey

def aesEncryptRounds (ctx : AesContext) (state : AesState) : Nat → AesState
  | 0 => aesAddRoundKey state (ctx.roundKeyAt 0)
  | n + 1 => aesEncryptRound (ctx.roundKeyAt (n + 1)) (aesEncryptRounds ctx state n)

def aesEncryptBlock (ctx : AesContext) (plaintext : AesBlock) : AesBlock :=
  let state := aesEncryptRounds ctx (aesLoadState plaintext) (aesRounds - 1)
  aesStoreState (aesAddRoundKey (aesShiftRows (aesSubBytes state)) (ctx.roundKeyAt aesRounds))

def aesDecryptRound (roundKey : AesRoundKey) (state : AesState) : AesState :=
  aesInvMixColumns (aesAddRoundKey (aesInvSubBytes (aesInvShiftRows state)) roundKey)

def aesDecryptRounds (ctx : AesContext) : Nat → AesState → AesState
  | 0, state => state
  | round + 1, state => aesDecryptRounds ctx round (aesDecryptRound (ctx.roundKeyAt (round + 1)) state)

def aesDecryptBlock (ctx : AesContext) (ciphertext : AesBlock) : AesBlock :=
  let state := aesAddRoundKey (aesLoadState ciphertext) (ctx.roundKeyAt aesRounds)
  let state := aesDecryptRounds ctx (aesRounds - 1) state
  aesStoreState (aesAddRoundKey (aesInvSubBytes (aesInvShiftRows state)) (ctx.roundKeyAt 0))

end Uesim
