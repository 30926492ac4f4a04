import Uesim.Library.Bytes

namespace Uesim

open Bytes

/-- The error codes of `uesim_error_t`; success is `Except.ok`. -/
inductive UesimError where
  | invalidParam
  | memory
  | socket
  | thread
  | timeout
  | protocol
  | file
  | notInitialized
  | notFound
  | alreadyExists
  | capacity
  | keyRefreshRequired
  | maxRetries
  | retry
  | init
  | testFailed
  deriving DecidableEq, Repr

theorem exists_of_bind_eq_ok {ε α β : Type} {x : Except ε α} {f : α → Except ε β} {b : β}
    (h : x >>= f = .ok b) : ∃ a, x = .ok a ∧ f a = .ok b := by
  cases x with
  | error e => cases h
  | ok a => exact ⟨a, rfl, h⟩

structure PdcpCipherParams where
  count : Word
  bearer : Byte
  direction : Byte
  deriving DecidableEq, Repr

/-- The sixteen bytes that all three ciphers build from their parameters:
COUNT, bearer, direction and zeros. -/
def packIv (params : PdcpCipherParams) : Vector Byte 16 :=
  #v[byteOf params.count 3, byteOf params.count 2, byteOf params.count 1, byteOf params.count 0,
    params.bearer, params.direction, 0, 0, 0, 0, 0, 0, 0, 0, 0, 0]

theorem blockWord_packIv (params : PdcpCipherParams) :
    blockWord (packIv params) 0 = params.count
      ∧ blockWord (packIv params) 1 = beWord params.bearer params.direction 0 0
      ∧ blockWord (packIv params) 2 = beWord 0 0 0 0
      ∧ blockWord (packIv params) 3 = beWord 0 0 0 0 :=
  ⟨beWord_byteOf params.count, rfl, rfl, rfl⟩

/-- The key that consists of four given words. -/
def keyOfWords (words : Nat → Word) : Vector Byte 16 :=
  #v[byteOf (words 0) 3, byteOf (words 0) 2, byteOf (words 0) 1, byteOf (words 0) 0,
    byteOf (words 1) 3, byteOf (words 1) 2, byteOf (words 1) 1, byteOf (words 1) 0,
    byteOf (words 2) 3, byteOf (words 2) 2, byteOf (words 2) 1, byteOf (words 2) 0,
    byteOf (words 3) 3, byteOf (words 3) 2, byteOf (words 3) 1, byteOf (words 3) 0]

theorem blockWord_keyOfWords (words : Nat → Word) {i : Nat} (hi : i < 4) :
    blockWord (keyOfWords words) i = words i := by
  match i with
  | 0 | 1 | 2 | 3 => exact beWord_byteOf _
  | i + 4 => omega

end Uesim
