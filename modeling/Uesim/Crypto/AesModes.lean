import Uesim.Crypto.Aes
import Uesim.Library.BlockMode

namespace Uesim

open Bytes

/-- The carry loop of `aes_ctr_encrypt`, on the counter bytes from the last one back: stop at the
first byte that does not wrap. -/
def aesIncrementBytes : List Byte → List Byte
  | [] => []
  | b :: bs => if b + 1 ≠ 0 then (b + 1) :: bs else 0 :: aesIncrementBytes bs

theorem length_aesIncrementBytes (bs : List Byte) : (aesIncrementBytes bs).length = bs.length := by
  induction bs with
  | nil => rfl
  | cons b bs ih =>
      rw [aesIncrementBytes]
      split
      · rfl
      · rw [List.length_cons, List.length_cons, ih]

def aesIncrementCounter (counter : AesBlock) : AesBlock :=
  ⟨(aesIncrementBytes counter.toList.reverse).reverse.toArray, by
    simp [length_aesIncrementBytes]⟩

/-- The source returns at once on an empty plaintext, which is what no blocks come to. -/
def aesCtrEncrypt (ctx : AesContext) (iv : AesBlock) (plaintext : List Byte) : List Byte :=
  BlockMode.ctr (aesEncryptBlock ctx) aesIncrementCounter ((plaintext.length + 15) / 16) iv plaintext

def aesCmac (ctx : AesContext) (message : List Byte) : AesBlock :=
  BlockMode.chainTag (aesEncryptBlock ctx) message

def aesEncrypt (key : Vector Byte 16) (params : PdcpCipherParams) (plaintext : List Byte) : List Byte :=
  aesCtrEncrypt (aesInitContext key) (packIv params) plaintext

def aesDecrypt (key : Vector Byte 16) (params : PdcpCipherParams) (ciphertext : List Byte) : List Byte :=
  aesEncrypt key params ciphertext

/-- The tag is cut to its first four bytes. The parameters are an argument of the source function
that its body only checks for being there. -/
def aesComputeMac (key : Vector Byte 16) (message : List Byte) (_params : PdcpCipherParams) : Word :=
  blockWord (aesCmac (aesInitContext key) message) 0

end Uesim
