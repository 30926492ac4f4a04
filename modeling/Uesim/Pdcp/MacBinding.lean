import Uesim.Crypto.Snow3gSequence
import Uesim.Crypto.ZucSequence
import Uesim.Pdcp.Protection

/-!
# What MAC-I says about COUNT, bearer and direction

A PDU recorded at one triple and replayed at another is rejected if its MAC-I differs there. Under
NIA1 some PDU always is, because the parameters can be read off the keystream. Under NIA3 some PDU is
unless the triples agree in everything that survives the loading of the register. Under NIA2 every
PDU is accepted everywhere.
-/

namespace Uesim

open Bytes

/-- Two entities with the security context `ctx` compute different MACs for `pdu`, and the second does
not accept what the first computes. -/
def ReplayRejected (ctx : PdcpSecurityContext) (recorded replayed : PdcpEntity) (pdu : PdcpPdu) : Prop :=
  ∃ guarded guarded', pdcpComputeIntegrityProtect (recorded.withSecurity ctx) pdu = .ok guarded
    ∧ pdcpComputeIntegrityProtect (replayed.withSecurity ctx) pdu = .ok guarded'
    ∧ guarded.macI ≠ guarded'.macI
    ∧ pdcpVerifyIntegrityProtect (replayed.withSecurity ctx) guarded = .ok false

theorem replayRejected_iff {ctx : PdcpSecurityContext} {ops : PdcpCryptoOps}
    {recorded replayed : PdcpEntity} {pdu : PdcpPdu} (halg : ctx.integrityAlg ≠ .nia0)
    (hops : gCryptoOps ctx.integrityAlg.index = some ops) :
    ReplayRejected ctx recorded replayed pdu
      ↔ ops.computeMac ctx.integrityKey pdu.data (pdcpCipherParams recorded)
        ≠ ops.computeMac ctx.integrityKey pdu.data (pdcpCipherParams replayed) := by
  have hcompute : ∀ entity : PdcpEntity, pdcpComputeIntegrityProtect (entity.withSecurity ctx) pdu
      = .ok { pdu with
        macI := ops.computeMac ctx.integrityKey pdu.data (pdcpCipherParams entity)
        integrityProtected := true } :=
    fun entity => pdcpComputeIntegrityProtect_of_ops rfl halg hops
  constructor
  · rintro ⟨guarded, guarded', hguarded, hguarded', hne, -⟩
    rw [hcompute] at hguarded hguarded'
    rw [← Except.ok.inj hguarded, ← Except.ok.inj hguarded'] at hne
    exact hne
  · intro hne
    refine ⟨_, _, hcompute recorded, hcompute replayed, hne, ?_⟩
    rw [pdcpVerifyIntegrityProtect_of_ops rfl halg hops]
    exact congrArg _ (beq_eq_false_iff_ne.mpr hne.symm)

/-! ### Replay -/

section Replay

variable {recorded replayed : PdcpEntity}

/-- Triples that ZUC's register cannot tell apart once they are loaded. -/
def SameZucLoad (recorded replayed : PdcpEntity) : Prop :=
  (pdcpGetCount recorded).toNat % 2 ^ 31 = (pdcpGetCount replayed).toNat % 2 ^ 31
    ∧ recorded.bearerType = replayed.bearerType ∧ recorded.direction = replayed.direction

theorem exists_zucComputeMac_ne (hbearer : recorded.bearerType < 32)
    (hbearer' : replayed.bearerType < 32) (h : ¬ SameZucLoad recorded replayed) :
    ∃ key message, message ≠ [] ∧ zucComputeMac key message (pdcpCipherParams recorded)
      ≠ zucComputeMac key message (pdcpCipherParams replayed) := by
  by_contra hcontra
  simp only [not_exists, not_and, not_not] at hcontra
  obtain ⟨hcount, hrest⟩ := zucParams_of_words fun key =>
    Keystream.word_eq_of_tag_eq _ _ (hcontra key)
  obtain ⟨hsame, hdirection⟩ := bearer_direction_of_load hbearer hbearer' hrest
  refine h ⟨zucLfsrInitialization_eq_iff.mp hcount, hsame, ?_⟩
  exact PdcpDirection.toByte_injective hdirection

theorem zucComputeMac_eq (h : SameZucLoad recorded replayed) (key : Vector Byte 16)
    (message : List Byte) : zucComputeMac key message (pdcpCipherParams recorded)
      = zucComputeMac key message (pdcpCipherParams replayed) := by
  obtain ⟨hcount, hbearer, hdirection⟩ := h
  have hload : zucLoad key (pdcpCipherParams recorded) = zucLoad key (pdcpCipherParams replayed) :=
    zucLoad_congr (zucLfsrInitialization_eq_iff.mpr hcount) (congrArg (BitVec.ofNat 8) hbearer)
      (congrArg PdcpDirection.toByte hdirection) key
  rw [zucComputeMac, zucComputeMac, zucInitContext, zucInitContext, hload]

theorem not_replayRejected_of_nia2 {ctx : PdcpSecurityContext} (halg : ctx.integrityAlg = .nia2)
    (pdu : PdcpPdu) : ¬ ReplayRejected ctx recorded replayed pdu := by
  have hops : gCryptoOps ctx.integrityAlg.index = some ⟨aesEncrypt, aesDecrypt, aesComputeMac⟩ := by
    rw [halg]
    rfl
  rw [replayRejected_iff (by rw [halg]; decide) hops]
  exact fun hne => hne rfl

/-- **Which replays an algorithm can notice.** For two different triples of COUNT, bearer and direction
there is a key and a PDU whose MAC-I differs, so that the replay is rejected, exactly under NIA1, or
under NIA3 if the triples differ in more than the top bit of COUNT. -/
theorem exists_replayRejected_iff {alg : PdcpIntegrityAlg} (halg : alg ≠ .nia0)
    (hbearer : recorded.bearerType < pdcpBearerDrbMax) (hbearer' : replayed.bearerType < pdcpBearerDrbMax)
    (hne : pdcpCipherParams recorded ≠ pdcpCipherParams replayed) :
    (∃ ctx pdu, ctx.integrityAlg = alg ∧ pdu.data ≠ [] ∧ ReplayRejected ctx recorded replayed pdu)
      ↔ alg = .nia1 ∨ (alg = .nia3 ∧ ¬ SameZucLoad recorded replayed) := by
  have hops : ∀ {ops}, gCryptoOps alg.index = some ops →
      ((∃ ctx pdu, ctx.integrityAlg = alg ∧ pdu.data ≠ [] ∧ ReplayRejected ctx recorded replayed pdu)
        ↔ ∃ key message, message ≠ [] ∧ ops.computeMac key message (pdcpCipherParams recorded)
          ≠ ops.computeMac key message (pdcpCipherParams replayed)) := by
    intro ops hops
    constructor
    · rintro ⟨ctx, pdu, rfl, hdata, hrejected⟩
      exact ⟨ctx.integrityKey, pdu.data, hdata, (replayRejected_iff halg hops).mp hrejected⟩
    · rintro ⟨key, message, hmessage, hmac⟩
      exact ⟨pdcpCreateSecurityContext .nea0 alg (Vector.replicate 16 0) key,
        ⟨0, message, 0, false, false⟩, rfl, hmessage, (replayRejected_iff halg hops).mpr hmac⟩
  cases alg with
  | nia0 => exact absurd rfl halg
  | nia1 =>
      rw [hops (show gCryptoOps 1 = some _ from rfl)]
      exact iff_of_true ⟨_, exists_snow3gComputeMac_ne (Vector.replicate 16 0) hne⟩ (.inl rfl)
  | nia2 =>
      refine iff_of_false ?_ (by simp)
      rintro ⟨ctx, pdu, hctx, -, hrejected⟩
      exact not_replayRejected_of_nia2 hctx pdu hrejected
  | nia3 =>
      rw [hops (show gCryptoOps 3 = some _ from rfl)]
      constructor
      · rintro ⟨key, message, -, hmac⟩
        exact .inr ⟨rfl, fun hsame => hmac (zucComputeMac_eq hsame key message)⟩
      · rintro (hfalse | ⟨-, hdiffer⟩)
        · cases hfalse
        · exact exists_zucComputeMac_ne hbearer hbearer' hdiffer

end Replay

/-- The PDUs with COUNT 0 and 1. -/
theorem exists_replayRejected_zuc :
    let recorded := pdcpNewEntity pdcpBearerSrb1 .uplink
    let replayed := (pdcpAssignTxSn recorded).2
    ∃ ctx pdu, ctx.integrityAlg = .nia3 ∧ pdu.data ≠ [] ∧ ReplayRejected ctx recorded replayed pdu := by
  intro recorded replayed
  have hdiffer : ¬SameZucLoad recorded replayed := fun hsame => absurd hsame.1 (by decide)
  exact (exists_replayRejected_iff (by decide) (by decide) (by decide) (by decide)).mpr
    (.inr ⟨rfl, hdiffer⟩)

theorem not_exists_replayRejected_aes :
    let recorded := pdcpNewEntity pdcpBearerSrb1 .uplink
    let replayed := (pdcpAssignTxSn recorded).2
    pdcpCipherParams recorded ≠ pdcpCipherParams replayed
      ∧ ¬ ∃ ctx pdu, ctx.integrityAlg = .nia2 ∧ pdu.data ≠ []
        ∧ ReplayRejected ctx recorded replayed pdu := by
  refine ⟨by decide, ?_⟩
  rintro ⟨ctx, pdu, hctx, -, hrejected⟩
  exact not_replayRejected_of_nia2 hctx pdu hrejected

end Uesim
