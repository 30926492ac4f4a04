import Uesim.Pdcp.Protection
import Uesim.Pdcp.TxCount

/-!
# Transmission

An active entity with a security context sends every SDU that is not empty, and each one it sends
moves its counters on by one. Neither the algorithms nor the payload have a say in that, so a run of
the sender is a run of one number.
-/

namespace Uesim

open Bytes

/-- An active entity with the security context `ctx` that has sent `n` PDUs since creation or key
refresh. -/
structure PdcpEntity.Sending (s n : Nat) (ctx : PdcpSecurityContext) (entity : PdcpEntity) : Prop
    extends entity.Sent s n where
  active : entity.active = true
  securityCtx : entity.securityCtx = some ctx

@[simp]
theorem pdcpProcessTxData_nil (entity : PdcpEntity) :
    pdcpProcessTxData entity [] = (entity, .error .invalidParam) := by
  simp [pdcpProcessTxData]

theorem pdcpProcessTxData_of_ctx {entity : PdcpEntity} {ctx : PdcpSecurityContext}
    {sdu : List Byte} (hactive : entity.active = true) (hctx : entity.securityCtx = some ctx)
    (hsdu : sdu ≠ []) :
    ∃ guarded pdu, pdcpProcessTxData entity sdu = ((pdcpAssignTxSn entity).2, .ok pdu)
      ∧ pdcpEncryptPdu (pdcpAssignTxSn entity).2 guarded = .ok pdu
      ∧ IsGuarded (pdcpAssignTxSn entity).2 ctx
        ⟨(pdcpAssignTxSn entity).1.setWidth 16, sdu, 0, false, false⟩ guarded
      ∧ IsCiphered (pdcpAssignTxSn entity).2 ctx guarded pdu := by
  have hctx' : (pdcpAssignTxSn entity).2.securityCtx = some ctx := hctx
  obtain ⟨guarded, hguard, hguarded⟩ := exists_isGuarded hctx'
    ⟨(pdcpAssignTxSn entity).1.setWidth 16, sdu, 0, false, false⟩
  obtain ⟨pdu, hpdu, hciphered⟩ := exists_isCiphered hctx' guarded
  refine ⟨guarded, pdu, ?_, hpdu, hguarded, hciphered⟩
  have hcall : pdcpProcessTxData entity sdu
      = ((pdcpAssignTxSn entity).2, do
          let pdu ← pdcpComputeIntegrityProtect (pdcpAssignTxSn entity).2
            ⟨(pdcpAssignTxSn entity).1.setWidth 16, sdu, 0, false, false⟩
          pdcpEncryptPdu (pdcpAssignTxSn entity).2 pdu) := by
    simp [pdcpProcessTxData, hsdu, hactive]
  rw [hcall, hguard]
  exact congrArg _ hpdu

namespace PdcpEntity.Sending

variable {s n : Nat} {ctx : PdcpSecurityContext} {entity : PdcpEntity} {sdu : List Byte}

theorem processTxData (hs : IsSnLength s) (h : entity.Sending s n ctx) (hsdu : sdu ≠ []) :
    ∃ guarded pdu, (pdcpProcessTxData entity sdu).2 = .ok pdu
      ∧ pdcpEncryptPdu (pdcpProcessTxData entity sdu).1 guarded = .ok pdu
      ∧ pdu.sn = BitVec.ofNat 16 (n % 2 ^ s)
      ∧ (pdu.ciphered = true ↔ ctx.cipheringAlg ≠ .nea0)
      ∧ (pdcpProcessTxData entity sdu).1.Sending s (n + 1) ctx := by
  obtain ⟨guarded, pdu, hcall, hencrypt, hguarded, hciphered⟩ :=
    pdcpProcessTxData_of_ctx h.active h.securityCtx hsdu
  rw [hcall]
  refine ⟨guarded, pdu, rfl, hencrypt, ?_, hciphered.ciphered, h.toSent.assignTxSn hs, h.active,
    h.securityCtx⟩
  rw [hciphered.sn, hguarded.sn, h.toSent.assignTxSn_fst hs, BitVec.setWidth_ofNat_of_le (by decide)]

theorem keyRefresh (h : entity.Sending s n ctx) (ck ik : Vector Byte 16) :
    ∃ ctx', (pdcpPerformKeyRefresh entity ck ik).1.Sending s 0 ctx' := by
  have hsent := h.toSent.keyRefresh (by simp [h.securityCtx]) ck ik
  have hactive : (pdcpPerformKeyRefresh entity ck ik).1.active = true := by
    simp [pdcpPerformKeyRefresh, h.securityCtx, h.active]
  have hctx : ∃ ctx', (pdcpPerformKeyRefresh entity ck ik).1.securityCtx = some ctx' := by
    simp [pdcpPerformKeyRefresh, h.securityCtx]
  obtain ⟨ctx', hctx'⟩ := hctx
  exact ⟨ctx', hsent, hactive, hctx'⟩

end PdcpEntity.Sending

theorem sending_newEntity (bearer : Nat) (direction : PdcpDirection) (ctx : PdcpSecurityContext) :
    ((pdcpActivateEntity (pdcpNewEntity bearer direction)).withSecurity ctx).Sending
      (snLengthOf bearer) 0 ctx :=
  ⟨(sent_newEntity bearer direction).activate.withSecurity ctx, rfl, rfl⟩

/-! ### Consecutive calls -/

def pdcpProcessTxAll (entity : PdcpEntity) (sdus : List (List Byte)) : PdcpEntity :=
  sdus.foldl (fun entity sdu => (pdcpProcessTxData entity sdu).1) entity

section Consecutive

variable {s n : Nat} {ctx : PdcpSecurityContext} {entity : PdcpEntity} {sdus : List (List Byte)}

theorem PdcpEntity.Sending.processTxAll (hs : IsSnLength s) (h : entity.Sending s n ctx)
    (hsdus : ∀ sdu ∈ sdus, sdu ≠ []) :
    (pdcpProcessTxAll entity sdus).Sending s (n + sdus.length) ctx := by
  induction sdus generalizing entity n with
  | nil => exact h
  | cons sdu sdus ih =>
      obtain ⟨-, -, -, -, -, -, hnext⟩ := h.processTxData hs (hsdus sdu List.mem_cons_self)
      have hrest := ih hnext fun sdu hsdu => hsdus sdu (List.mem_cons_of_mem _ hsdu)
      rw [Nat.add_assoc, Nat.add_comm 1] at hrest
      exact hrest

/-- **No PDU is protected with the COUNT that belongs to its number.** The PDU after `n` others is
ciphered with a COUNT whose high part is the number of wraps so far and whose low part is one ahead,
so it is neither `n` nor in step with the number in the PDU, which sixteen bits may have cut short. -/
theorem pdcpProcessTxData_count_ne (hs : IsSnLength s) (hfresh : entity.Sending s 0 ctx)
    (hcipher : ctx.cipheringAlg ≠ .nea0) (hsdus : ∀ sdu ∈ sdus, sdu ≠ [])
    (hlength : sdus.length < 2 ^ 32) {sdu : List Byte} (hsdu : sdu ≠ []) :
    let call := pdcpProcessTxData (pdcpProcessTxAll entity sdus) sdu
    ∃ guarded pdu, call.2 = .ok pdu ∧ pdu.ciphered = true
      ∧ pdcpEncryptPdu call.1 guarded = .ok pdu
      ∧ (pdcpCipherParams call.1).count.toNat ≠ sdus.length
      ∧ (pdcpCipherParams call.1).count.toNat % 2 ^ s ≠ pdu.sn.toNat % 2 ^ s
      ∧ (pdcpCipherParams call.1).count.toNat / 2 ^ s = sdus.length / 2 ^ s := by
  intro call
  have hsent := hfresh.processTxAll hs hsdus
  rw [Nat.zero_add] at hsent
  obtain ⟨guarded, pdu, hok, hencrypt, hsn, hciphered, hnext⟩ := hsent.processTxData hs hsdu
  have hpos : 0 < s := hs.pos
  have hle : s ≤ 32 := hs.le
  have hcount : (pdcpCipherParams call.1).count.toNat = txCountAt s sdus.length := by
    change (pdcpGetTxCount call.1).toNat = _
    rw [hnext.toSent.getTxCount hs, BitVec.toNat_ofNat, Nat.mod_eq_of_lt (txCountAt_lt hle hlength)]
  refine ⟨guarded, pdu, hok, hciphered.mpr hcipher, hencrypt, ?_, ?_, ?_⟩
  · rw [hcount]
    intro h
    exact txCountAt_mod_ne hpos sdus.length (by rw [h])
  · rw [hcount, hsn, txCountAt_mod]
    intro h
    -- whatever sixteen bits leave of the number, its parity is that of `n`
    have htwo : 2 ∣ 2 ^ s := dvd_pow_self 2 (by omega)
    have hleft := congrArg (· % 2) h
    simp only [BitVec.toNat_ofNat, Nat.mod_mod_of_dvd _ htwo] at hleft
    rw [Nat.mod_mod_of_dvd _ (by decide : 2 ∣ 2 ^ 16), Nat.mod_mod_of_dvd _ htwo] at hleft
    omega
  · rw [hcount, txCountAt_div]

theorem pdcpProcessTxData_count_ne_second :
    let ctx := pdcpCreateSecurityContext .nea1 .nia1 (Vector.replicate 16 0) (Vector.replicate 16 0)
    let entity := (pdcpActivateEntity (pdcpNewEntity pdcpBearerSrb1 .uplink)).withSecurity ctx
    let call := pdcpProcessTxData (pdcpProcessTxAll entity [[0]]) [0]
    ∃ guarded pdu, call.2 = .ok pdu ∧ pdu.ciphered = true
      ∧ pdcpEncryptPdu call.1 guarded = .ok pdu
      ∧ (pdcpCipherParams call.1).count.toNat ≠ 1
      ∧ (pdcpCipherParams call.1).count.toNat % 2 ^ 5 ≠ pdu.sn.toNat % 2 ^ 5
      ∧ (pdcpCipherParams call.1).count.toNat / 2 ^ 5 = 1 / 2 ^ 5 :=
  pdcpProcessTxData_count_ne (.inl rfl) (sending_newEntity pdcpBearerSrb1 .uplink _) (by decide)
    (by decide) (by decide) (by decide)

/-- The first PDU carries number 0 and is ciphered under COUNT 1. -/
theorem pdcpProcessTxData_count_first :
    let ctx := pdcpCreateSecurityContext .nea1 .nia1 (Vector.replicate 16 0) (Vector.replicate 16 0)
    let entity := (pdcpActivateEntity (pdcpNewEntity pdcpBearerSrb1 .uplink)).withSecurity ctx
    (pdcpProcessTxData entity [0]).2.toOption.map (fun pdu => (pdu.sn, pdu.ciphered)) = some (0, true)
      ∧ (pdcpCipherParams (pdcpProcessTxData entity [0]).1).count = 1 := by
  decide +kernel

end Consecutive

end Uesim
