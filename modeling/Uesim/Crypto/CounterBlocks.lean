import Mathlib.Data.Nat.Digits.Defs
import Mathlib.Tactic.Ring
import Uesim.Crypto.AesModes

/-!
# Counter blocks of NEA2

A counter block is a number of sixteen bytes, and the carry loop adds one to it. The parameters of a message
are the high six bytes of its first block, and no message has enough blocks for a carry to reach them.
-/

namespace Uesim

open Bytes

/-- `aes_encrypt` with the blocks that it gives to `aes_encrypt_block`. -/
def aesEncryptFed (key : Vector Byte 16) (params : PdcpCipherParams) (plaintext : List Byte) :
    List Byte × List AesBlock :=
  BlockMode.ctrFed (aesEncryptBlock (aesInitContext key)) aesIncrementCounter ((plaintext.length + 15) / 16)
    (packIv params) plaintext

theorem fst_aesEncryptFed (key : Vector Byte 16) (params : PdcpCipherParams) (plaintext : List Byte) :
    (aesEncryptFed key params plaintext).1 = aesEncrypt key params plaintext :=
  BlockMode.fst_ctrFed _ _ _ _ _

def aesCounterBlocks (key : Vector Byte 16) (params : PdcpCipherParams) (plaintext : List Byte) :
    List AesBlock :=
  (aesEncryptFed key params plaintext).2

theorem aesCounterBlocks_eq (key : Vector Byte 16) (params : PdcpCipherParams) (plaintext : List Byte) :
    aesCounterBlocks key params plaintext
      = (List.range ((plaintext.length + 15) / 16)).map fun i => aesIncrementCounter^[i] (packIv params) :=
  BlockMode.snd_ctrFed _ _ _ _ _

/-- The number of which these are the bytes, the lowest one first. -/
def bytesValue (bytes : List Byte) : Nat := Nat.ofDigits 256 (bytes.map BitVec.toNat)

def counterValue (counter : AesBlock) : Nat := bytesValue counter.toList.reverse

theorem bytesValue_cons (byte : Byte) (bytes : List Byte) :
    bytesValue (byte :: bytes) = byte.toNat + 256 * bytesValue bytes :=
  Nat.ofDigits_cons

theorem bytesValue_lt (bytes : List Byte) : bytesValue bytes < 256 ^ bytes.length := by
  have hdigits : ∀ digit ∈ bytes.map BitVec.toNat, digit < 256 := by
    intro digit hdigit
    obtain ⟨byte, -, rfl⟩ := List.mem_map.mp hdigit
    exact byte.isLt
  have hlt := Nat.ofDigits_lt_base_pow_length (by decide) hdigits
  rw [List.length_map] at hlt
  exact hlt

/-- **The carry loop adds one.** -/
theorem bytesValue_aesIncrementBytes (bytes : List Byte) :
    bytesValue (aesIncrementBytes bytes) = (bytesValue bytes + 1) % 256 ^ bytes.length := by
  induction bytes with
  | nil => rfl
  | cons byte bytes ih =>
      have hrest := bytesValue_lt bytes
      rw [aesIncrementBytes, bytesValue_cons, List.length_cons, Nat.pow_succ']
      by_cases hcarry : byte + 1 = 0
      · rw [if_neg (not_not.mpr hcarry), bytesValue_cons, ih]
        have hbyte : byte.toNat = 255 := by bv_omega
        calc (0 : Byte).toNat + 256 * ((bytesValue bytes + 1) % 256 ^ bytes.length)
            = 256 * ((bytesValue bytes + 1) % 256 ^ bytes.length) := Nat.zero_add _
          _ = 256 * (bytesValue bytes + 1) % (256 * 256 ^ bytes.length) := (Nat.mul_mod_mul_left ..).symm
          _ = (byte.toNat + 256 * bytesValue bytes + 1) % (256 * 256 ^ bytes.length) := by
              congr 1
              omega
      · rw [if_pos hcarry, bytesValue_cons]
        have hbyte : (byte + 1).toNat = byte.toNat + 1 := by bv_omega
        have hlt := (byte + 1).isLt
        rw [hbyte, Nat.mod_eq_of_lt (by omega)]
        omega

theorem counterValue_aesIncrementCounter (counter : AesBlock) :
    counterValue (aesIncrementCounter counter) = (counterValue counter + 1) % 256 ^ 16 := by
  have hbytes : (aesIncrementCounter counter).toList.reverse = aesIncrementBytes counter.toList.reverse := by
    rw [aesIncrementCounter]
    exact List.reverse_reverse _
  have hlen : counter.toList.reverse.length = 16 := by rw [List.length_reverse, Vector.length_toList]
  rw [counterValue, hbytes, bytesValue_aesIncrementBytes, hlen]
  rfl

theorem counterValue_iterate (counter : AesBlock) {i : Nat} (h : counterValue counter + i < 256 ^ 16) :
    counterValue (aesIncrementCounter^[i] counter) = counterValue counter + i := by
  induction i with
  | zero => rfl
  | succ i ih =>
      rw [Function.iterate_succ_apply', counterValue_aesIncrementCounter, ih (by omega), Nat.add_assoc,
        Nat.mod_eq_of_lt h]

/-! ### The parameters of a message -/

/-- The parameters as one number. -/
def paramsValue (params : PdcpCipherParams) : Nat :=
  (params.count.toNat * 256 + params.bearer.toNat) * 256 + params.direction.toNat

theorem paramsValue_lt (params : PdcpCipherParams) : paramsValue params < 256 ^ 6 := by
  have hcount := params.count.isLt
  have hbearer := params.bearer.isLt
  have hdirection := params.direction.isLt
  rw [paramsValue]
  omega

theorem paramsValue_injective {params params' : PdcpCipherParams}
    (h : paramsValue params = paramsValue params') : params = params' := by
  have hbearer := params.bearer.isLt
  have hbearer' := params'.bearer.isLt
  have hdirection := params.direction.isLt
  have hdirection' := params'.direction.isLt
  rw [paramsValue, paramsValue] at h
  have hcount : params.count = params'.count := BitVec.eq_of_toNat_eq (by omega)
  have hbear : params.bearer = params'.bearer := BitVec.eq_of_toNat_eq (by omega)
  have hdir : params.direction = params'.direction := BitVec.eq_of_toNat_eq (by omega)
  cases params
  cases params'
  rw [PdcpCipherParams.mk.injEq]
  exact ⟨hcount, hbear, hdir⟩

theorem toList_packIv (params : PdcpCipherParams) :
    (packIv params).toList.reverse
      = List.replicate 10 0 ++ [params.direction, params.bearer, byteOf params.count 0, byteOf params.count 1,
          byteOf params.count 2, byteOf params.count 3] :=
  rfl

theorem bytesValue_replicate_zero_append (n : Nat) (bytes : List Byte) :
    bytesValue (List.replicate n 0 ++ bytes) = bytesValue bytes * 256 ^ n := by
  induction n with
  | zero => exact (Nat.mul_one _).symm
  | succ n ih =>
      rw [List.replicate_succ, List.cons_append, bytesValue_cons, ih, Nat.pow_succ]
      change 0 + 256 * _ = _
      ring

theorem toNat_byteOf (word : Word) (i : Nat) : (byteOf word i).toNat = word.toNat / 2 ^ (8 * i) % 256 := by
  rw [byteOf, BitVec.extractLsb'_toNat, Nat.shiftRight_eq_div_pow]

theorem counterValue_packIv (params : PdcpCipherParams) :
    counterValue (packIv params) = paramsValue params * 256 ^ 10 := by
  rw [counterValue, toList_packIv, bytesValue_replicate_zero_append]
  congr 1
  have hcount := params.count.isLt
  have hnil : bytesValue [] = 0 := rfl
  rw [paramsValue]
  simp only [bytesValue_cons, toNat_byteOf, hnil]
  omega

/-! ### The blocks of messages -/

theorem mem_aesCounterBlocks {key : Vector Byte 16} {params : PdcpCipherParams} {plaintext : List Byte}
    (hlen : plaintext.length < 2 ^ 64) {block : AesBlock}
    (h : block ∈ aesCounterBlocks key params plaintext) :
    ∃ i < 256 ^ 10, counterValue block = paramsValue params * 256 ^ 10 + i := by
  rw [aesCounterBlocks_eq] at h
  obtain ⟨i, hi, rfl⟩ := List.mem_map.mp h
  rw [List.mem_range] at hi
  have hlt := paramsValue_lt params
  refine ⟨i, by omega, ?_⟩
  rw [counterValue_iterate, counterValue_packIv]
  rw [counterValue_packIv]
  omega

theorem nodup_aesCounterBlocks (key : Vector Byte 16) (params : PdcpCipherParams) {plaintext : List Byte}
    (hlen : plaintext.length < 2 ^ 64) : (aesCounterBlocks key params plaintext).Nodup := by
  rw [aesCounterBlocks_eq]
  apply List.Nodup.map_on _ List.nodup_range
  intro i hi j hj hblocks
  rw [List.mem_range] at hi hj
  have hlt := paramsValue_lt params
  have hiv := counterValue_packIv params
  calc i = counterValue (aesIncrementCounter^[i] (packIv params)) - counterValue (packIv params) := by
        rw [counterValue_iterate _ (by omega), Nat.add_sub_cancel_left]
    _ = counterValue (aesIncrementCounter^[j] (packIv params)) - counterValue (packIv params) := by
        rw [hblocks]
    _ = j := by rw [counterValue_iterate _ (by omega), Nat.add_sub_cancel_left]

/-- **No counter block is used for two messages, or twice in one.** -/
theorem aesCounterBlocks_distinct (key key' : Vector Byte 16) (params params' : PdcpCipherParams)
    {plaintext plaintext' : List Byte} (hlen : plaintext.length < 2 ^ 64)
    (hlen' : plaintext'.length < 2 ^ 64) :
    (params ≠ params' →
        (aesCounterBlocks key params plaintext).Disjoint (aesCounterBlocks key' params' plaintext'))
      ∧ (aesCounterBlocks key params plaintext).Nodup := by
  refine ⟨fun hne => ?_, nodup_aesCounterBlocks key params hlen⟩
  intro block hblock hblock'
  obtain ⟨i, hi, hvalue⟩ := mem_aesCounterBlocks hlen hblock
  obtain ⟨j, hj, hvalue'⟩ := mem_aesCounterBlocks hlen' hblock'
  refine hne (paramsValue_injective ?_)
  omega

theorem aesCounterBlocks_distinct_counts :
    (PdcpCipherParams.mk 7 3 0 ≠ PdcpCipherParams.mk 8 3 0 →
        (aesCounterBlocks (Vector.replicate 16 0) ⟨7, 3, 0⟩ (List.replicate 40 0)).Disjoint
          (aesCounterBlocks (Vector.replicate 16 0) ⟨8, 3, 0⟩ (List.replicate 90 0)))
      ∧ (aesCounterBlocks (Vector.replicate 16 0) ⟨7, 3, 0⟩ (List.replicate 40 0)).Nodup :=
  aesCounterBlocks_distinct _ _ _ _ (by rw [List.length_replicate]; decide)
    (by rw [List.length_replicate]; decide)

end Uesim
