import Uesim.Pdcp.Entity
import Mathlib.Data.Nat.Bitwise

/-!
# The transmit COUNT

Three variables make up the transmit COUNT: a raw counter, the last number sent and the hyper frame
number. All three are functions of how many PDUs were sent since the entity was created or its keys
were last refreshed, and that number is all there is to the sender. The raw counter has already
moved on when COUNT is computed, so the value for PDU `n` takes its low part from `n + 1` and its
high part from `n`.
-/

namespace Uesim

open Bytes

/-- The lengths `pdcp_init_sn_params` has a case for. -/
def IsSnLength (s : Nat) : Prop := s = 5 ∨ s = 12 ∨ s = 18

instance (s : Nat) : Decidable (IsSnLength s) := inferInstanceAs (Decidable (_ ∨ _ ∨ _))

section SnLength

variable {s : Nat} (hs : IsSnLength s)
include hs

theorem IsSnLength.pos : 0 < s := by
  rcases hs with rfl | rfl | rfl <;> decide

theorem IsSnLength.le : s ≤ 32 := by
  rcases hs with rfl | rfl | rfl <;> decide

theorem IsSnLength.two_le_snMax : 2 ≤ 2 ^ s := Nat.le_self_pow hs.pos.ne' 2

theorem IsSnLength.snMax_lt : 2 ^ s < 2 ^ 32 := by
  rcases hs with rfl | rfl | rfl <;> decide

end SnLength

/-- The counters of an entity that has sent `n` PDUs since creation or key refresh. -/
structure PdcpEntity.Sent (s n : Nat) (entity : PdcpEntity) : Prop where
  snMask : entity.snMask = BitVec.ofNat 32 (2 ^ s - 1)
  snMax : entity.snMax = BitVec.ofNat 32 (2 ^ s)
  nextPdcpSn : entity.nextPdcpSn = BitVec.ofNat 32 n
  lastTxSn : entity.lastTxSn = BitVec.ofNat 32 ((n - 1) % 2 ^ s)
  txHfn : entity.txHfn = BitVec.ofNat 32 ((n - 1) / 2 ^ s)

/-- The COUNT of PDU `n`, before it is cut to thirty-two bits. -/
def txCountAt (s n : Nat) : Nat := (n + 1) % 2 ^ s + 2 ^ s * (n / 2 ^ s)

theorem ofNat_and_mask {s : Nat} (hs : s ≤ 32) (n : Nat) :
    BitVec.ofNat 32 n &&& BitVec.ofNat 32 (2 ^ s - 1) = BitVec.ofNat 32 (n % 2 ^ s) := by
  have hpow : 2 ^ s ≤ 2 ^ 32 := Nat.pow_le_pow_right (by decide) hs
  have hpos : 0 < 2 ^ s := Nat.two_pow_pos s
  apply BitVec.eq_of_toNat_eq
  rw [BitVec.toNat_and, BitVec.toNat_ofNat, BitVec.toNat_ofNat, BitVec.toNat_ofNat,
    Nat.mod_eq_of_lt (a := 2 ^ s - 1) (by omega), Nat.and_two_pow_sub_one_eq_mod,
    Nat.mod_mod_of_dvd _ (Nat.pow_dvd_pow 2 hs),
    Nat.mod_eq_of_lt (a := n % 2 ^ s) (lt_of_lt_of_le (Nat.mod_lt n hpos) hpow)]

theorem ofNat_eq_zero_iff {n : Nat} (hn : n < 2 ^ 32) : BitVec.ofNat 32 n = 0 ↔ n = 0 := by
  constructor
  · intro h
    have := congrArg BitVec.toNat h
    rwa [BitVec.toNat_ofNat, Nat.mod_eq_of_lt hn] at this
  · rintro rfl
    rfl

namespace PdcpEntity.Sent

variable {s n : Nat} {entity : PdcpEntity}

theorem assignTxSn_fst (hs : IsSnLength s) (h : entity.Sent s n) :
    (pdcpAssignTxSn entity).1 = BitVec.ofNat 32 (n % 2 ^ s) := by
  change entity.nextPdcpSn &&& entity.snMask = _
  rw [h.nextPdcpSn, h.snMask, ofNat_and_mask hs.le]

private theorem div_step {M : Nat} (hM : 2 ≤ M) (n : Nat) :
    (if n % M = 0 ∧ 0 < (n - 1) % M then (n - 1) / M + 1 else (n - 1) / M) = n / M := by
  obtain ⟨q, r, hr, rfl⟩ : ∃ q r, r < M ∧ n = M * q + r :=
    ⟨n / M, n % M, Nat.mod_lt _ (by omega), (Nat.div_add_mod n M).symm⟩
  have hmod : (M * q + r) % M = r := by rw [Nat.mul_add_mod, Nat.mod_eq_of_lt hr]
  have hdiv : (M * q + r) / M = q := by
    rw [Nat.mul_add_div (by omega), Nat.div_eq_of_lt hr, Nat.add_zero]
  rw [hmod, hdiv]
  rcases Nat.eq_zero_or_pos r with rfl | hpos
  · cases q with
    | zero => simp
    | succ q =>
        have hpred : M * (q + 1) + 0 - 1 = M * q + (M - 1) := by rw [Nat.mul_succ]; omega
        rw [hpred, Nat.mul_add_mod, Nat.mod_eq_of_lt (by omega), Nat.mul_add_div (by omega),
          Nat.div_eq_of_lt (by omega), if_pos ⟨rfl, by omega⟩, Nat.add_zero]
  · have hpred : M * q + r - 1 = M * q + (r - 1) := by omega
    rw [if_neg (by omega), hpred, Nat.mul_add_div (by omega), Nat.div_eq_of_lt (by omega),
      Nat.add_zero]

theorem assignTxSn (hs : IsSnLength s) (h : entity.Sent s n) :
    (pdcpAssignTxSn entity).2.Sent s (n + 1) := by
  have hM : 2 ≤ 2 ^ s := hs.two_le_snMax
  have hM32 : 2 ^ s < 2 ^ 32 := hs.snMax_lt
  have hlt : ∀ m, m % 2 ^ s < 2 ^ 32 := fun m => lt_trans (Nat.mod_lt m (by omega)) hM32
  have hsn : entity.nextPdcpSn &&& entity.snMask = BitVec.ofNat 32 (n % 2 ^ s) := h.assignTxSn_fst hs
  have hlast : entity.lastTxSn > 0 ↔ 0 < (n - 1) % 2 ^ s := by
    rw [h.lastTxSn, gt_iff_lt, BitVec.lt_def, BitVec.toNat_ofNat, Nat.mod_eq_of_lt (hlt _)]
    rfl
  refine ⟨h.snMask, h.snMax, ?_, ?_, ?_⟩
  · change entity.nextPdcpSn + 1 = _
    rw [h.nextPdcpSn, BitVec.ofNat_add]
    rfl
  · change entity.nextPdcpSn &&& entity.snMask = _
    rw [hsn, Nat.add_sub_cancel]
  · change (if entity.nextPdcpSn &&& entity.snMask = 0 ∧ entity.lastTxSn > 0 then entity.txHfn + 1
      else entity.txHfn) = _
    rw [hsn, Nat.add_sub_cancel, ← div_step hM n]
    simp only [ofNat_eq_zero_iff (hlt n), hlast, h.txHfn]
    split
    · rw [BitVec.ofNat_add]
      rfl
    · rfl

/-- **The COUNT a PDU is protected with**: for PDU `n` the protection functions read the counters
after they moved to `n + 1`. -/
theorem getTxCount (hs : IsSnLength s) (h : entity.Sent s (n + 1)) :
    pdcpGetTxCount entity = BitVec.ofNat 32 (txCountAt s n) := by
  change (entity.nextPdcpSn &&& entity.snMask) + entity.snMax * entity.txHfn = _
  rw [h.nextPdcpSn, h.snMask, ofNat_and_mask hs.le, h.snMax,
    h.txHfn, Nat.add_sub_cancel, ← BitVec.ofNat_mul, ← BitVec.ofNat_add]
  rfl

theorem getTxCount_zero (h : entity.Sent s 0) : pdcpGetTxCount entity = 0 := by
  change (entity.nextPdcpSn &&& entity.snMask) + entity.snMax * entity.txHfn = 0
  rw [h.nextPdcpSn, h.txHfn]
  simp

theorem activate (h : entity.Sent s n) : (pdcpActivateEntity entity).Sent s n :=
  ⟨h.snMask, h.snMax, h.nextPdcpSn, h.lastTxSn, h.txHfn⟩

theorem withSecurity (h : entity.Sent s n) (ctx : PdcpSecurityContext) :
    (entity.withSecurity ctx).Sent s n :=
  ⟨h.snMask, h.snMax, h.nextPdcpSn, h.lastTxSn, h.txHfn⟩

theorem keyRefresh (h : entity.Sent s n) (hctx : entity.securityCtx.isSome) (ck ik : Vector Byte 16) :
    (pdcpPerformKeyRefresh entity ck ik).1.Sent s 0 := by
  obtain ⟨ctx, hctx⟩ := Option.isSome_iff_exists.mp hctx
  simp only [pdcpPerformKeyRefresh, hctx]
  exact ⟨h.snMask, h.snMax, rfl, by simp, by simp⟩

end PdcpEntity.Sent

theorem sent_initSnParams {s : Nat} (hs : IsSnLength s) {entity : PdcpEntity}
    (hlen : entity.snLength = s) (hnext : entity.nextPdcpSn = 0) :
    (pdcpInitSnParams entity).Sent s 0 := by
  subst hlen
  unfold pdcpInitSnParams
  rcases hs with h | h | h <;> simp only [h] <;>
    exact ⟨rfl, rfl, hnext, rfl, rfl⟩

def snLengthOf (bearer : Nat) : Nat := if bearer ≤ pdcpBearerSrb3 then 5 else 12

theorem isSnLength_snLengthOf (bearer : Nat) : IsSnLength (snLengthOf bearer) := by
  unfold snLengthOf
  split
  · exact .inl rfl
  · exact .inr (.inl rfl)

theorem sent_newEntity (bearer : Nat) (direction : PdcpDirection) :
    (pdcpNewEntity bearer direction).Sent (snLengthOf bearer) 0 :=
  sent_initSnParams (isSnLength_snLengthOf bearer) rfl rfl

theorem pdcpCreateEntity_eq_ok_iff {bearer : Nat} {direction : PdcpDirection} {entity : PdcpEntity} :
    pdcpCreateEntity bearer direction = .ok entity
      ↔ bearer < pdcpBearerDrbMax ∧ entity = pdcpNewEntity bearer direction := by
  unfold pdcpCreateEntity
  split
  · simp only [reduceCtorEq, false_iff, not_and]
    omega
  · simp only [Except.ok.injEq, eq_comm]
    constructor
    · intro h
      exact ⟨by omega, h⟩
    · rintro ⟨-, h⟩
      exact h

/-! ### The COUNT sequence -/

theorem txCountAt_mod (s n : Nat) : txCountAt s n % 2 ^ s = (n + 1) % 2 ^ s := by
  rw [txCountAt, Nat.add_mul_mod_self_left, Nat.mod_mod]

theorem txCountAt_div (s n : Nat) : txCountAt s n / 2 ^ s = n / 2 ^ s := by
  have hpos : 0 < 2 ^ s := Nat.two_pow_pos s
  rw [txCountAt, Nat.add_mul_div_left _ _ hpos, Nat.div_eq_of_lt (Nat.mod_lt _ hpos), Nat.zero_add]

theorem txCountAt_zero {s : Nat} (hs : IsSnLength s) : txCountAt s 0 = 1 := by
  rcases hs with rfl | rfl | rfl <;> rfl

/-- Different PDUs have different COUNTs: the quotient gives the block of the SN space, and inside a
block the remainder is only rotated by one. -/
theorem txCountAt_injective (s : Nat) : Function.Injective (txCountAt s) := by
  intro m n h
  have hdiv : m / 2 ^ s = n / 2 ^ s := by rw [← txCountAt_div s m, h, txCountAt_div]
  have hmod : (m + 1) % 2 ^ s = (n + 1) % 2 ^ s := by rw [← txCountAt_mod s m, h, txCountAt_mod]
  have hmod' : m % 2 ^ s = n % 2 ^ s := Nat.ModEq.add_right_cancel' 1 hmod
  rw [← Nat.div_add_mod m (2 ^ s), hdiv, hmod', Nat.div_add_mod]

theorem txCountAt_lt {s n : Nat} (hs : s ≤ 32) (hn : n < 2 ^ 32) : txCountAt s n < 2 ^ 32 := by
  have hpow : 2 ^ 32 = 2 ^ s * 2 ^ (32 - s) := by rw [← Nat.pow_add]; congr 1; omega
  have hdiv : n / 2 ^ s < 2 ^ (32 - s) := by
    rw [Nat.div_lt_iff_lt_mul (Nat.two_pow_pos s), Nat.mul_comm, ← hpow]
    exact hn
  have hmod : (n + 1) % 2 ^ s < 2 ^ s := Nat.mod_lt _ (Nat.two_pow_pos s)
  calc txCountAt s n < 2 ^ s + 2 ^ s * (n / 2 ^ s) := Nat.add_lt_add_right hmod _
    _ = 2 ^ s * (n / 2 ^ s + 1) := by rw [Nat.mul_succ, Nat.add_comm]
    _ ≤ 2 ^ s * 2 ^ (32 - s) := Nat.mul_le_mul_left _ hdiv
    _ = 2 ^ 32 := hpow.symm

/-- The COUNT of PDU `n` is never `n`, and never even agrees with it in the sequence number. -/
theorem txCountAt_mod_ne {s : Nat} (hs : 0 < s) (n : Nat) : txCountAt s n % 2 ^ s ≠ n % 2 ^ s := by
  intro h
  rw [txCountAt_mod] at h
  have htwo : 2 ∣ 2 ^ s := dvd_pow_self 2 (by omega)
  have h2 : (n + 1) % 2 = n % 2 := by
    rw [← Nat.mod_mod_of_dvd (n + 1) htwo, h, Nat.mod_mod_of_dvd n htwo]
  omega

end Uesim
