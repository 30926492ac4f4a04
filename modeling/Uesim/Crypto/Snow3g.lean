import Uesim.Types
import Uesim.Library.Keystream
import Uesim.Library.Lfsr

/-!
# SNOW 3G

The generator behind NEA1 and NIA1. Its feedback is a plain exclusive or of four cells, and its
state machine never reads the shift register, so it runs through the same states whatever the key.
Words are read from memory in the little-endian order of the hosts the simulator is built for.
-/

namespace Uesim

open Bytes

set_option maxRecDepth 2000 in
def snow3gS1Bytes : Array Byte := #[
  0x63, 0x7c, 0x77, 0x7b, 0xf2, 0x6b, 0x6f, 0xc5, 0x30, 0x01, 0x67, 0x2b, 0xfe, 0xd7, 0xab, 0x76,
  0xca, 0x82, 0xc9, 0x7d, 0xfa, 0x59, 0x47, 0xf0, 0xad, 0xd4, 0xa2, 0xaf, 0x9c, 0xa4, 0x72, 0xc0,
  0xb7, 0xfd, 0x93, 0x26, 0x36, 0x3f, 0xf7, 0xcc, 0x34, 0xa5, 0xe5, 0xf1, 0x71, 0xd8, 0x31, 0x15,
  0x04, 0xc7, 0x23, 0xc3, 0x18, 0x96, 0x05, 0x9a, 0x07, 0x12, 0x80, 0xe2, 0xeb, 0x27, 0xb2, 0x75,
  0x09, 0x83, 0x2c, 0x1a, 0x1b, 0x6e, 0x5a, 0xa0, 0x52, 0x3b, 0xd6, 0xb3, 0x29, 0xe3, 0x2f, 0x84,
  0x53, 0xd1, 0x00, 0xed, 0x20, 0xfc, 0xb1, 0x5b, 0x6a, 0xcb, 0xbe, 0x39, 0x4a, 0x4c, 0x58, 0xcf,
  0xd0, 0xef, 0xaa, 0xfb, 0x43, 0x4d, 0x33, 0x85, 0x45, 0xf9, 0x02, 0x7f, 0x50, 0x3c, 0x9f, 0xa8,
  0x51, 0xa3, 0x40, 0x8f, 0x92, 0x9d, 0x38, 0xf5, 0xbc, 0xb6, 0xda, 0x21, 0x10, 0xff, 0xf3, 0xd2,
  0xcd, 0x0c, 0x13, 0xec, 0x5f, 0x97, 0x44, 0x17, 0xc4, 0xa7, 0x7e, 0x3d, 0x64, 0x5d, 0x19, 0x73,
  0x60, 0x81, 0x4f, 0xdc, 0x22, 0x2a, 0x90, 0x88, 0x46, 0xee, 0xb8, 0x14, 0xde, 0x5e, 0x0b, 0xdb,
  0xe0, 0x32, 0x3a, 0x0a, 0x49, 0x06, 0x24, 0x5c, 0xc2, 0xd3, 0xac, 0x62, 0x91, 0x95, 0xe4, 0x79,
  0xe7, 0xc8, 0x37, 0x6d, 0x8d, 0xd5, 0x4e, 0xa9, 0x6c, 0x56, 0xf4, 0xea, 0x65, 0x7a, 0xae, 0x08,
  0xba, 0x78, 0x25, 0x2e, 0x1c, 0xa6, 0xb4, 0xc6, 0xe8, 0xdd, 0x74, 0x1f, 0x4b, 0xbd, 0x8b, 0x8a,
  0x70, 0x3e, 0xb5, 0x66, 0x48, 0x03, 0xf6, 0x0e, 0x61, 0x35, 0x57, 0xb9, 0x86, 0xc1, 0x1d, 0x9e,
  0xe1, 0xf8, 0x98, 0x11, 0x69, 0xd9, 0x8e, 0x94, 0x9b, 0x1e, 0x87, 0xe9, 0xce, 0x55, 0x28, 0xdf,
  0x8c, 0xa1, 0x89, 0x0d, 0xbf, 0xe6, 0x42, 0x68, 0x41, 0x99, 0x2d, 0x0f, 0xb0, 0x54, 0xbb, 0x16]

set_option maxRecDepth 2000 in
theorem size_snow3gS1Bytes : snow3gS1Bytes.size = 256 := rfl

def snow3gS1 : Vector Byte 256 := ⟨snow3gS1Bytes, size_snow3gS1Bytes⟩

set_option maxRecDepth 2000 in
def snow3gS2 : Vector Byte 256 := #v[
  0x40, 0x41, 0x42, 0x43, 0x44, 0x45, 0x46, 0x47, 0x48, 0x49, 0x4a, 0x4b, 0x4c, 0x4d, 0x4e, 0x4f,
  0x50, 0x51, 0x52, 0x53, 0x54, 0x55, 0x56, 0x57, 0x58, 0x59, 0x5a, 0x5b, 0x5c, 0x5d, 0x5e, 0x5f,
  0x60, 0x61, 0x62, 0x63, 0x64, 0x65, 0x66, 0x67, 0x68, 0x69, 0x6a, 0x6b, 0x6c, 0x6d, 0x6e, 0x6f,
  0x70, 0x71, 0x72, 0x73, 0x74, 0x75, 0x76, 0x77, 0x78, 0x79, 0x7a, 0x7b, 0x7c, 0x7d, 0x7e, 0x7f,
  0x80, 0x81, 0x82, 0x83, 0x84, 0x85, 0x86, 0x87, 0x88, 0x89, 0x8a, 0x8b, 0x8c, 0x8d, 0x8e, 0x8f,
  0x90, 0x91, 0x92, 0x93, 0x94, 0x95, 0x96, 0x97, 0x98, 0x99, 0x9a, 0x9b, 0x9c, 0x9d, 0x9e, 0x9f,
  0xa0, 0xa1, 0xa2, 0xa3, 0xa4, 0xa5, 0xa6, 0xa7, 0xa8, 0xa9, 0xaa, 0xab, 0xac, 0xad, 0xae, 0xaf,
  0xb0, 0xb1, 0xb2, 0xb3, 0xb4, 0xb5, 0xb6, 0xb7, 0xb8, 0xb9, 0xba, 0xbb, 0xbc, 0xbd, 0xbe, 0xbf,
  0xc0, 0xc1, 0xc2, 0xc3, 0xc4, 0xc5, 0xc6, 0xc7, 0xc8, 0xc9, 0xca, 0xcb, 0xcc, 0xcd, 0xce, 0xcf,
  0xd0, 0xd1, 0xd2, 0xd3, 0xd4, 0xd5, 0xd6, 0xd7, 0xd8, 0xd9, 0xda, 0xdb, 0xdc, 0xdd, 0xde, 0xdf,
  0xe0, 0xe1, 0xe2, 0xe3, 0xe4, 0xe5, 0xe6, 0xe7, 0xe8, 0xe9, 0xea, 0xeb, 0xec, 0xed, 0xee, 0xef,
  0xf0, 0xf1, 0xf2, 0xf3, 0xf4, 0xf5, 0xf6, 0xf7, 0xf8, 0xf9, 0xfa, 0xfb, 0xfc, 0xfd, 0xfe, 0xff,
  0x00, 0x01, 0x02, 0x03, 0x04, 0x05, 0x06, 0x07, 0x08, 0x09, 0x0a, 0x0b, 0x0c, 0x0d, 0x0e, 0x0f,
  0x10, 0x11, 0x12, 0x13, 0x14, 0x15, 0x16, 0x17, 0x18, 0x19, 0x1a, 0x1b, 0x1c, 0x1d, 0x1e, 0x1f,
  0x20, 0x21, 0x22, 0x23, 0x24, 0x25, 0x26, 0x27, 0x28, 0x29, 0x2a, 0x2b, 0x2c, 0x2d, 0x2e, 0x2f,
  0x30, 0x31, 0x32, 0x33, 0x34, 0x35, 0x36, 0x37, 0x38, 0x39, 0x3a, 0x3b, 0x3c, 0x3d, 0x3e, 0x3f]

def snow3gS1Box (input : Byte) : Byte := snow3gS1.get input.toFin

def snow3gS2Box (input : Byte) : Byte := snow3gS2.get input.toFin

structure Snow3gFsm where
  r0 : Word
  r1 : Word
  r2 : Word

structure Snow3gContext where
  lfsr : Vector Word 16
  fsm : Snow3gFsm

def snow3gLfsrFeedback (lfsr : Vector Word 16) : Word :=
  cell lfsr 0 ^^^ cell lfsr 2 ^^^ cell lfsr 5 ^^^ cell lfsr 11

def snow3gLfsrClock (ctx : Snow3gContext) : Snow3gContext :=
  { ctx with lfsr := Lfsr.shiftIn ctx.lfsr (snow3gLfsrFeedback ctx.lfsr) }

def snow3gFsmFunction (fsm : Snow3gFsm) : Word :=
  beWord (snow3gS1Box (byteOf fsm.r1 3)) (snow3gS2Box (byteOf fsm.r1 2))
    (snow3gS1Box (byteOf fsm.r1 1)) (snow3gS2Box (byteOf fsm.r1 0)) ^^^ fsm.r2

def snow3gFsmNext (fsm : Snow3gFsm) : Snow3gFsm where
  r0 := fsm.r1
  r1 := fsm.r2
  r2 := snow3gFsmFunction fsm

def snow3gFsmNextState (ctx : Snow3gContext) : Snow3gContext :=
  { ctx with fsm := snow3gFsmNext ctx.fsm }

def snow3gClock (ctx : Snow3gContext) : Snow3gContext := snow3gFsmNextState (snow3gLfsrClock ctx)

def snow3gLoad (key : Vector Byte 16) (params : PdcpCipherParams) : Snow3gContext :=
  let iv := packIv params
  { lfsr := #v[blockWord key 0, blockWord key 1, blockWord key 2, blockWord key 3,
      blockWord iv 0, blockWord iv 1, blockWord iv 2, blockWord iv 3, 0, 0, 0, 0, 0, 0, 0, 0]
    fsm := ⟨0, 0, 0⟩ }

def snow3gInitContext (key : Vector Byte 16) (params : PdcpCipherParams) : Snow3gContext :=
  snow3gClock^[32] (snow3gLoad key params)

/-- One word of keystream; every caller in the source asks for one at a time. -/
def snow3gGenerateKeystream (ctx : Snow3gContext) : Word × Snow3gContext :=
  let next := snow3gClock ctx
  (cell next.lfsr 15 + next.fsm.r0, next)

def snow3gEncrypt (key : Vector Byte 16) (params : PdcpCipherParams) (plaintext : List Byte) :
    List Byte :=
  Keystream.xorStream snow3gGenerateKeystream (snow3gInitContext key params) plaintext

def snow3gDecrypt (key : Vector Byte 16) (params : PdcpCipherParams) (ciphertext : List Byte) :
    List Byte :=
  snow3gEncrypt key params ciphertext

def snow3gComputeMac (key : Vector Byte 16) (message : List Byte) (params : PdcpCipherParams) : Word :=
  Keystream.tag snow3gGenerateKeystream (snow3gInitContext key params) message

end Uesim
