import Uesim.Pdcp.Entity

/-!
# Protection of one PDU

The four wrappers read the entity they are given and put the payload through one row of the table.
The null algorithms are the only ones without a row, so with a security context none of the wrappers
fails on a payload that is there. As long as the counters of the entity stand still between
ciphering and deciphering, both hand the row the same parameters.
-/

namespace Uesim

open Bytes

variable {entity : PdcpEntity} {ctx : PdcpSecurityContext} {pdu : PdcpPdu} {ops : PdcpCryptoOps}

theorem exists_cipherOps {alg : PdcpCipheringAlg} (h : alg ≠ .nea0) :
    ∃ ops, gCryptoOps alg.index = some ops := by
  apply Option.isSome_iff_exists.mp
  rw [gCryptoOps_isSome]
  cases alg with
  | nea0 => exact absurd rfl h
  | nea1 | nea2 | nea3 => decide

theorem exists_macOps {alg : PdcpIntegrityAlg} (h : alg ≠ .nia0) :
    ∃ ops, gCryptoOps alg.index = some ops := by
  apply Option.isSome_iff_exists.mp
  rw [gCryptoOps_isSome]
  cases alg with
  | nia0 => exact absurd rfl h
  | nia1 | nia2 | nia3 => decide

/-! ### Integrity -/

theorem pdcpComputeIntegrityProtect_of_nia0 (hctx : entity.securityCtx = some ctx)
    (halg : ctx.integrityAlg = .nia0) :
    pdcpComputeIntegrityProtect entity pdu = .ok { pdu with integrityProtected := false } := by
  simp [pdcpComputeIntegrityProtect, hctx, halg]

theorem pdcpComputeIntegrityProtect_of_ops (hctx : entity.securityCtx = some ctx)
    (halg : ctx.integrityAlg ≠ .nia0) (hops : gCryptoOps ctx.integrityAlg.index = some ops) :
    pdcpComputeIntegrityProtect entity pdu = .ok { pdu with
      macI := ops.computeMac ctx.integrityKey pdu.data (pdcpCipherParams entity)
      integrityProtected := true } := by
  simp [pdcpComputeIntegrityProtect, hctx, halg, hops]

theorem pdcpVerifyIntegrityProtect_of_ops (hctx : entity.securityCtx = some ctx)
    (halg : ctx.integrityAlg ≠ .nia0) (hops : gCryptoOps ctx.integrityAlg.index = some ops) :
    pdcpVerifyIntegrityProtect entity pdu
      = .ok (ops.computeMac ctx.integrityKey pdu.data (pdcpCipherParams entity) == pdu.macI) := by
  simp [pdcpVerifyIntegrityProtect, hctx, halg, hops]

/-! ### Ciphering -/

theorem pdcpEncryptPdu_of_nea0 (hctx : entity.securityCtx = some ctx)
    (halg : ctx.cipheringAlg = .nea0) :
    pdcpEncryptPdu entity pdu = .ok { pdu with ciphered := false } := by
  simp [pdcpEncryptPdu, hctx, halg]

theorem pdcpDecryptPdu_of_nea0 (hctx : entity.securityCtx = some ctx)
    (halg : ctx.cipheringAlg = .nea0) :
    pdcpDecryptPdu entity pdu = .ok { pdu with ciphered := false } := by
  simp [pdcpDecryptPdu, hctx, halg]

theorem pdcpEncryptPdu_of_ops (hctx : entity.securityCtx = some ctx)
    (halg : ctx.cipheringAlg ≠ .nea0) (hops : gCryptoOps ctx.cipheringAlg.index = some ops) :
    pdcpEncryptPdu entity pdu = .ok { pdu with
      data := ops.encrypt ctx.cipheringKey (pdcpCipherParams entity) pdu.data
      ciphered := true } := by
  simp [pdcpEncryptPdu, hctx, halg, hops]

theorem pdcpDecryptPdu_of_ops (hctx : entity.securityCtx = some ctx)
    (halg : ctx.cipheringAlg ≠ .nea0) (hops : gCryptoOps ctx.cipheringAlg.index = some ops) :
    pdcpDecryptPdu entity pdu = .ok { pdu with
      data := ops.decrypt ctx.cipheringKey (pdcpCipherParams entity) pdu.data
      ciphered := false } := by
  simp [pdcpDecryptPdu, hctx, halg, hops]

/-! ### What the wrappers make of a PDU -/

/-- `guarded` is `pdu` with the MAC-I that its payload has under the context, if there is one. -/
structure IsGuarded (entity : PdcpEntity) (ctx : PdcpSecurityContext) (pdu guarded : PdcpPdu) :
    Prop where
  sn : guarded.sn = pdu.sn
  data : guarded.data = pdu.data
  integrityProtected : guarded.integrityProtected = true ↔ ctx.integrityAlg ≠ .nia0
  macI {ops : PdcpCryptoOps} (hops : gCryptoOps ctx.integrityAlg.index = some ops) :
    guarded.macI = ops.computeMac ctx.integrityKey pdu.data (pdcpCipherParams entity)

theorem exists_isGuarded (hctx : entity.securityCtx = some ctx) (pdu : PdcpPdu) :
    ∃ guarded, pdcpComputeIntegrityProtect entity pdu = .ok guarded
      ∧ IsGuarded entity ctx pdu guarded := by
  by_cases halg : ctx.integrityAlg = .nia0
  · refine ⟨_, pdcpComputeIntegrityProtect_of_nia0 hctx halg, rfl, rfl, by simp [halg], ?_⟩
    intro ops hops
    rw [halg] at hops
    cases hops
  · obtain ⟨ops, hops⟩ := exists_macOps halg
    refine ⟨_, pdcpComputeIntegrityProtect_of_ops hctx halg hops, rfl, rfl, by simp [halg], ?_⟩
    intro ops' hops'
    rw [hops] at hops'
    cases hops'
    rfl

/-- `pdu` is `guarded` with its payload enciphered under the context, unless the context says not
to. -/
structure IsCiphered (entity : PdcpEntity) (ctx : PdcpSecurityContext) (guarded pdu : PdcpPdu) :
    Prop where
  sn : pdu.sn = guarded.sn
  macI : pdu.macI = guarded.macI
  integrityProtected : pdu.integrityProtected = guarded.integrityProtected
  ciphered : pdu.ciphered = true ↔ ctx.cipheringAlg ≠ .nea0
  data_of_nea0 (halg : ctx.cipheringAlg = .nea0) : pdu.data = guarded.data
  data {ops : PdcpCryptoOps} (hops : gCryptoOps ctx.cipheringAlg.index = some ops) :
    pdu.data = ops.encrypt ctx.cipheringKey (pdcpCipherParams entity) guarded.data

theorem exists_isCiphered (hctx : entity.securityCtx = some ctx) (guarded : PdcpPdu) :
    ∃ pdu, pdcpEncryptPdu entity guarded = .ok pdu ∧ IsCiphered entity ctx guarded pdu := by
  by_cases halg : ctx.cipheringAlg = .nea0
  · refine ⟨_, pdcpEncryptPdu_of_nea0 hctx halg, rfl, rfl, rfl, by simp [halg], fun _ => rfl, ?_⟩
    intro ops hops
    rw [halg] at hops
    cases hops
  · obtain ⟨ops, hops⟩ := exists_cipherOps halg
    refine ⟨_, pdcpEncryptPdu_of_ops hctx halg hops, rfl, rfl, rfl, by simp [halg],
      fun hnull => absurd hnull halg, ?_⟩
    intro ops' hops'
    rw [hops] at hops'
    cases hops'
    rfl

/-- **Deciphering undoes ciphering**: the payload comes back under every algorithm, and the PDU
differs from the one before only in that it says it is not ciphered. -/
theorem pdcpDecryptPdu_pdcpEncryptPdu (hctx : entity.securityCtx = some ctx) (pdu : PdcpPdu) :
    ∃ ciphered, pdcpEncryptPdu entity pdu = .ok ciphered
      ∧ ciphered.data.length = pdu.data.length
      ∧ pdcpDecryptPdu entity ciphered = .ok { pdu with ciphered := false } := by
  by_cases halg : ctx.cipheringAlg = .nea0
  · exact ⟨_, pdcpEncryptPdu_of_nea0 hctx halg, rfl, pdcpDecryptPdu_of_nea0 hctx halg⟩
  · obtain ⟨ops, hops⟩ := exists_cipherOps halg
    obtain ⟨hlength, hdata⟩ :=
      decrypt_encrypt hops ctx.cipheringKey (pdcpCipherParams entity) pdu.data
    refine ⟨_, pdcpEncryptPdu_of_ops hctx halg hops, hlength, ?_⟩
    rw [pdcpDecryptPdu_of_ops hctx halg hops]
    simp only [hdata]

theorem pdcpDecryptPdu_pdcpEncryptPdu_tail :
    let ctx := pdcpCreateSecurityContext .nea2 .nia2 (Vector.replicate 16 1) (Vector.replicate 16 2)
    let entity : PdcpEntity := pdcpInitSnParams
      { bearerType := 4, direction := .uplink, snLength := 12, nextPdcpSn := 7, nextExpectedSn := 0,
        txHfn := 0, rxHfn := 0, lastTxSn := 0, lastRxSn := 0, snMask := 0, snMax := 0, hfnMax := 0,
        securityCtx := some ctx, active := true }
    let pdu : PdcpPdu := ⟨7, List.replicate 17 0xab, 0, false, false⟩
    ∃ ciphered, pdcpEncryptPdu entity pdu = .ok ciphered
      ∧ ciphered.data.length = pdu.data.length
      ∧ pdcpDecryptPdu entity ciphered = .ok { pdu with ciphered := false } :=
  pdcpDecryptPdu_pdcpEncryptPdu rfl _

end Uesim
