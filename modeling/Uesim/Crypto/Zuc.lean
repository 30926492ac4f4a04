import Uesim.Types
import Uesim.Library.Keystream
import Uesim.Library.Lfsr

/-!
# ZUC

The generator behind NEA3 and NIA3. Every cell of its register is kept to thirty-one bits, and the
words loaded from the key and from the parameters are cut to thirty-one bits as well, so the top bit
of COUNT is lost on the way in.
-/

namespace Uesim

open Bytes

set_option maxRecDepth 2000 in
def zucS0 : Vector Byte 256 := #v[
  0x3e, 0x72, 0x5b, 0x47, 0xca, 0xe0, 0x00, 0x33, 0x04, 0xd1, 0x54, 0x98, 0x09, 0xb9, 0x6d, 0xcb,
  0x7b, 0x1b, 0xf9, 0x32, 0xaf, 0x9d, 0x6a, 0xa5, 0xb8, 0x2d, 0xfc, 0x1d, 0x08, 0x53, 0x03, 0x90,
  0x4d, 0x4e, 0x84, 0x99, 0xe4, 0xce, 0xd9, 0x91, 0x12, 0xa0, 0x06, 0x62, 0x4d, 0x2e, 0x1f, 0x55,
  0x3c, 0x3d, 0x5a, 0xc6, 0x74, 0xb2, 0xf5, 0x8d, 0x6b, 0x9a, 0x78, 0x25, 0x5e, 0x1c, 0x87, 0x4c,
  0xa3, 0x19, 0xa7, 0x57, 0x42, 0xb0, 0x3f, 0x2a, 0x4f, 0x23, 0xf0, 0x10, 0x58, 0x7e, 0x36, 0x40,
  0xc4, 0x1a, 0xe6, 0x21, 0xc7, 0x61, 0x35, 0xd2, 0x14, 0xc2, 0x6c, 0xe8, 0x51, 0xea, 0x9b, 0x8a,
  0x24, 0x6e, 0x17, 0x9f, 0x0d, 0x0c, 0x34, 0x8e, 0x64, 0x2b, 0x15, 0x31, 0x44, 0x93, 0x85, 0x77,
  0x7d, 0x8b, 0xf8, 0x8c, 0xa1, 0x20, 0x5d, 0x4b, 0x75, 0xdb, 0x01, 0x46, 0x67, 0x73, 0x94, 0xf4,
  0x4a, 0x27, 0x49, 0x38, 0x69, 0x5f, 0x28, 0x30, 0x39, 0x37, 0x45, 0x83, 0x68, 0x48, 0x60, 0x1e,
  0x26, 0x11, 0xf2, 0xbc, 0x70, 0x97, 0x05, 0x0a, 0x2f, 0x7f, 0x81, 0x79, 0x71, 0x13, 0x89, 0x63,
  0x59, 0x86, 0x95, 0x43, 0x41, 0x22, 0x88, 0x3a, 0x5c, 0x18, 0x29, 0x50, 0x92, 0x3b, 0x9c, 0xfe,
  0x0f, 0x02, 0x07, 0x16, 0x0b, 0x0e, 0x65, 0x56, 0x66, 0x76, 0xac, 0x82, 0xe7, 0x4c, 0x80, 0x00,
  0x19, 0x52, 0x13, 0x3e, 0x72, 0x5b, 0x47, 0xca, 0xe0, 0x00, 0x33, 0x04, 0xd1, 0x54, 0x98, 0x09,
  0xb9, 0x6d, 0xcb, 0x7b, 0x1b, 0xf9, 0x32, 0xaf, 0x9d, 0x6a, 0xa5, 0xb8, 0x2d, 0xfc, 0x1d, 0x08,
  0x53, 0x03, 0x90, 0x4d, 0x4e, 0x84, 0x99, 0xe4, 0xce, 0xd9, 0x91, 0x12, 0xa0, 0x06, 0x62, 0x4d,
  0x2e, 0x1f, 0x55, 0x3c, 0x3d, 0x5a, 0xc6, 0x74, 0xb2, 0xf5, 0x8d, 0x6b, 0x9a, 0x78, 0x25, 0x5e]

set_option maxRecDepth 2000 in
def zucS1 : Vector Byte 256 := #v[
  0x55, 0xc2, 0x63, 0x71, 0x3b, 0xc8, 0x47, 0x86, 0x9f, 0x3c, 0xda, 0x5b, 0x29, 0xaa, 0xfd, 0x77,
  0x8c, 0xc5, 0x94, 0x0c, 0xa6, 0x1a, 0x13, 0x00, 0xe3, 0xa8, 0x16, 0x72, 0x44, 0x9b, 0xb2, 0xfe,
  0x4d, 0x34, 0x7e, 0x0e, 0x5f, 0x41, 0x67, 0x02, 0x9e, 0x62, 0x4e, 0x78, 0x5e, 0x6b, 0x35, 0x68,
  0x51, 0xd1, 0xf9, 0xe5, 0x2a, 0x8e, 0x5a, 0x14, 0xa9, 0x6c, 0x84, 0x3a, 0x18, 0x65, 0x80, 0x9a,
  0x07, 0x12, 0x40, 0x23, 0x20, 0xf6, 0x0b, 0x22, 0x66, 0xd0, 0x45, 0x9d, 0x0d, 0x03, 0x27, 0x79,
  0x54, 0x28, 0xb0, 0x88, 0xba, 0x32, 0x1c, 0x7b, 0x5d, 0x2c, 0x11, 0x2b, 0xfc, 0x58, 0x30, 0x8a,
  0xf2, 0xa0, 0x06, 0x48, 0x26, 0xd3, 0xb4, 0xcf, 0x43, 0x4b, 0x09, 0x69, 0xd5, 0x8d, 0x33, 0x8f,
  0x4c, 0x70, 0x21, 0x60, 0x3d, 0xd7, 0x75, 0xd4, 0x85, 0x9c, 0x4f, 0x42, 0x6d, 0x59, 0xc0, 0x37,
  0x57, 0x74, 0x99, 0xc4, 0x2d, 0x17, 0xc9, 0x6a, 0x05, 0x49, 0x5c, 0xa1, 0x39, 0x24, 0x08, 0x90,
  0x50, 0x3f, 0x25, 0x7a, 0x38, 0x87, 0x0a, 0x15, 0xde, 0x96, 0x64, 0xaf, 0x7c, 0x76, 0xdc, 0x3e,
  0x6e, 0x56, 0x4a, 0x1e, 0xa2, 0xd8, 0x10, 0xb5, 0x2f, 0x1b, 0xf5, 0x73, 0xd9, 0x52, 0x2e, 0x81,
  0x92, 0x01, 0x83, 0x36, 0xee, 0xfb, 0x46, 0x6f, 0x04, 0x5a, 0xe8, 0x95, 0xe6, 0x8b, 0x98, 0x19,
  0xcd, 0x31, 0xb6, 0x9e, 0x55, 0xc2, 0x63, 0x71, 0x3b, 0xc8, 0x47, 0x86, 0x9f, 0x3c, 0xda, 0x5b,
  0x29, 0xaa, 0xfd, 0x77, 0x8c, 0xc5, 0x94, 0x0c, 0xa6, 0x1a, 0x13, 0x00, 0xe3, 0xa8, 0x16, 0x72,
  0x44, 0x9b, 0xb2, 0xfe, 0x4d, 0x34, 0x7e, 0x0e, 0x5f, 0x41, 0x67, 0x02, 0x9e, 0x62, 0x4e, 0x78,
  0x5e, 0x6b, 0x35, 0x68, 0x51, 0xd1, 0xf9, 0xe5, 0x2a, 0x8e, 0x5a, 0x14, 0xa9, 0x6c, 0x84, 0x3a]

def zucS0Box (input : Byte) : Byte := zucS0.get input.toFin

def zucS1Box (input : Byte) : Byte := zucS1.get input.toFin

structure ZucContext where
  lfsr : Vector Word 16
  fsm0 : Word
  fsm1 : Word

def zucLfsrInitialization (x : Word) : Word := x &&& 0x7fffffff

def zucLfsrFeedback (lfsr : Vector Word 16) : Word :=
  (cell lfsr 0 ^^^ cell lfsr 4 ^^^ cell lfsr 10 ^^^ cell lfsr 13 ^^^ cell lfsr 15) &&& 0x7fffffff

def zucLfsrClock (ctx : ZucContext) : ZucContext :=
  { ctx with lfsr := Lfsr.shiftIn ctx.lfsr (zucLfsrFeedback ctx.lfsr) }

def zucBoxes (word : Word) : Word :=
  beWord (zucS0Box (byteOf word 3)) (zucS1Box (byteOf word 2)) (zucS0Box (byteOf word 1))
    (zucS1Box (byteOf word 0))

def zucFsmFunction (ctx : ZucContext) (u v : Word) : Word :=
  zucBoxes (zucBoxes u ^^^ v) ^^^ (ctx.fsm0 ^^^ ctx.fsm1)

def zucFsmNextState (ctx : ZucContext) : ZucContext :=
  { ctx with fsm0 := ctx.fsm1, fsm1 := zucFsmFunction ctx (cell ctx.lfsr 0) (cell ctx.lfsr 4) }

def zucClock (ctx : ZucContext) : ZucContext := zucFsmNextState (zucLfsrClock ctx)

def zucLoad (key : Vector Byte 16) (params : PdcpCipherParams) : ZucContext :=
  let iv := packIv params
  { lfsr := #v[zucLfsrInitialization (blockWord key 0), zucLfsrInitialization (blockWord key 1),
      zucLfsrInitialization (blockWord key 2), zucLfsrInitialization (blockWord key 3),
      zucLfsrInitialization (blockWord iv 0), zucLfsrInitialization (blockWord iv 1),
      zucLfsrInitialization (blockWord iv 2), zucLfsrInitialization (blockWord iv 3),
      0, 0, 0, 0, 0, 0, 0, 0]
    fsm0 := 0
    fsm1 := 0 }

def zucInitContext (key : Vector Byte 16) (params : PdcpCipherParams) : ZucContext :=
  zucClock^[32] (zucLoad key params)

/-- One word of keystream; every caller in the source asks for one at a time. -/
def zucGenerateKeystream (ctx : ZucContext) : Word × ZucContext :=
  let next := zucClock ctx
  (cell next.lfsr 0 ^^^ next.fsm0, next)

def zucEncrypt (key : Vector Byte 16) (params : PdcpCipherParams) (plaintext : List Byte) :
    List Byte :=
  Keystream.xorStream zucGenerateKeystream (zucInitContext key params) plaintext

def zucDecrypt (key : Vector Byte 16) (params : PdcpCipherParams) (ciphertext : List Byte) :
    List Byte :=
  zucEncrypt key params ciphertext

def zucComputeMac (key : Vector Byte 16) (message : List Byte) (params : PdcpCipherParams) : Word :=
  Keystream.tag zucGenerateKeystream (zucInitContext key params) message

end Uesim
