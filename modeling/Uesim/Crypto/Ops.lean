import Uesim.Crypto.AesModes
import Uesim.Crypto.Snow3g
import Uesim.Crypto.Zuc

/-!
# The table of algorithms

PDCP reaches every algorithm through one table. Row zero is empty: the null algorithm is handled
before the table is read. The integrity algorithms index the same table as the ciphers do.
-/

namespace Uesim

open Bytes

inductive PdcpCipheringAlg where
  | nea0
  | nea1
  | nea2
  | nea3
  deriving DecidableEq, Repr

inductive PdcpIntegrityAlg where
  | nia0
  | nia1
  | nia2
  | nia3
  deriving DecidableEq, Repr

structure PdcpCryptoOps where
  encrypt : Vector Byte 16 → PdcpCipherParams → List Byte → List Byte
  decrypt : Vector Byte 16 → PdcpCipherParams → List Byte → List Byte
  computeMac : Vector Byte 16 → List Byte → PdcpCipherParams → Word

def gCryptoOps : Fin 4 → Option PdcpCryptoOps
  | 0 => none
  | 1 => some ⟨snow3gEncrypt, snow3gDecrypt, snow3gComputeMac⟩
  | 2 => some ⟨aesEncrypt, aesDecrypt, aesComputeMac⟩
  | 3 => some ⟨zucEncrypt, zucDecrypt, zucComputeMac⟩

def PdcpCipheringAlg.index : PdcpCipheringAlg → Fin 4
  | nea0 => 0
  | nea1 => 1
  | nea2 => 2
  | nea3 => 3

def PdcpIntegrityAlg.index : PdcpIntegrityAlg → Fin 4
  | nia0 => 0
  | nia1 => 1
  | nia2 => 2
  | nia3 => 3

theorem PdcpIntegrityAlg.index_eq_two_iff {alg : PdcpIntegrityAlg} : alg.index = 2 ↔ alg = nia2 := by
  cases alg <;> decide

theorem gCryptoOps_isSome {i : Fin 4} : (gCryptoOps i).isSome ↔ i ≠ 0 := by
  match i with
  | 0 | 1 | 2 | 3 => simp [gCryptoOps]

/-! ### Every cipher undoes itself -/

theorem snow3gDecrypt_snow3gEncrypt (key : Vector Byte 16) (params : PdcpCipherParams)
    (data : List Byte) : snow3gDecrypt key params (snow3gEncrypt key params data) = data :=
  Keystream.xorStream_xorStream _ _ data

theorem zucDecrypt_zucEncrypt (key : Vector Byte 16) (params : PdcpCipherParams)
    (data : List Byte) : zucDecrypt key params (zucEncrypt key params data) = data :=
  Keystream.xorStream_xorStream _ _ data

theorem length_aesEncrypt (key : Vector Byte 16) (params : PdcpCipherParams) (data : List Byte) :
    (aesEncrypt key params data).length = data.length :=
  BlockMode.length_ctr _ _ _ _ _ (by omega)

theorem aesDecrypt_aesEncrypt (key : Vector Byte 16) (params : PdcpCipherParams)
    (data : List Byte) : aesDecrypt key params (aesEncrypt key params data) = data := by
  have hlen := length_aesEncrypt key params data
  rw [aesDecrypt, aesEncrypt, aesCtrEncrypt, hlen]
  exact BlockMode.ctr_ctr _ _ _ _ _ (by omega)

/-- **One row of the table at a time**: no row changes the length of what it enciphers, and each
deciphers what it made. -/
theorem decrypt_encrypt {i : Fin 4} {ops : PdcpCryptoOps} (hops : gCryptoOps i = some ops)
    (key : Vector Byte 16) (params : PdcpCipherParams) (data : List Byte) :
    (ops.encrypt key params data).length = data.length
      ∧ ops.decrypt key params (ops.encrypt key params data) = data := by
  match i with
  | 0 => simp [gCryptoOps] at hops
  | 1 =>
      obtain rfl := Option.some.inj hops
      exact ⟨Keystream.length_xorStream _ _ _, snow3gDecrypt_snow3gEncrypt key params data⟩
  | 2 =>
      obtain rfl := Option.some.inj hops
      exact ⟨length_aesEncrypt key params data, aesDecrypt_aesEncrypt key params data⟩
  | 3 =>
      obtain rfl := Option.some.inj hops
      exact ⟨Keystream.length_xorStream _ _ _, zucDecrypt_zucEncrypt key params data⟩

end Uesim
