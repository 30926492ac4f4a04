import Uesim.Crypto.AesInverse
import Uesim.Crypto.Snow3gSequence
import Uesim.Crypto.ZucSequence
import Uesim.Pdcp.Transmit

/-!
# Delivery between two fresh entities

The sender protects its first PDU with COUNT one, and the receiver, whose transmit counters never
move, undoes every protection with COUNT zero. Whether anything is delivered is therefore a question
about the rows of the table: none of the ciphers deciphers with the one what it enciphered with the
other, and of the integrity algorithms only the one that ignores COUNT accepts the other's tag.
-/

namespace Uesim

open Bytes

/-! ### COUNT one against COUNT zero -/

section Rows

variable (key : Vector Byte 16) (bearer direction : Byte)

theorem exists_snow3g_undo_ne :
    ∃ data, data ≠ [] ∧ snow3gDecrypt key ⟨0, bearer, direction⟩
      (snow3gEncrypt key ⟨1, bearer, direction⟩ data) ≠ data := by
  by_contra hcontra
  simp only [not_exists, not_and, not_not] at hcontra
  have hwords : ∀ k, 0 ≤ k →
      Keystream.word snow3gGenerateKeystream (snow3gInitContext key ⟨1, bearer, direction⟩) k
        = Keystream.word snow3gGenerateKeystream (snow3gInitContext key ⟨0, bearer, direction⟩) k := by
    intro k _
    exact Keystream.word_eq_of_undone _ _ (hcontra (List.replicate (4 * (k + 1)) 0) (by simp)) k
      (Nat.lt_succ_self k)
  have hparams := snow3gParams_eq_of_words hwords
  cases hparams

theorem exists_aes_undo_ne :
    ∃ data, data ≠ [] ∧ aesDecrypt key ⟨0, bearer, direction⟩
      (aesEncrypt key ⟨1, bearer, direction⟩ data) ≠ data := by
  refine ⟨List.replicate 16 0, by simp, fun hundone => ?_⟩
  have hsame : aesEncrypt key ⟨0, bearer, direction⟩ (List.replicate 16 0)
      = aesEncrypt key ⟨1, bearer, direction⟩ (List.replicate 16 0) := by
    conv_lhs => rw [← hundone]
    exact aesDecrypt_aesEncrypt key _ _
  have hblock : ∀ params, aesEncrypt key params (List.replicate 16 0)
      = (aesEncryptBlock (aesInitContext key) (packIv params)).toList :=
    fun params => BlockMode.ctr_zero_block _ _ (packIv params)
  rw [hblock, hblock] at hsame
  have hiv := aesEncryptBlock_injective _ (Vector.toList_inj.mp hsame)
  have hlast : byteOf 0 0 = byteOf 1 0 := congrArg (fun iv : Vector Byte 16 => iv[3]) hiv
  exact absurd hlast (by decide)

theorem exists_zuc_undo_ne :
    ∃ data, data ≠ [] ∧ zucDecrypt key ⟨0, bearer, direction⟩
      (zucEncrypt key ⟨1, bearer, direction⟩ data) ≠ data := by
  refine ⟨List.replicate (4 * 5) 0, by simp, fun hundone => ?_⟩
  obtain ⟨k, -, hk, hne⟩ := exists_zuc_word_ne key bearer direction
  exact hne (Keystream.word_eq_of_undone _ _ hundone k hk)

/-- No row of the table deciphers with COUNT zero what it enciphered with COUNT one. -/
theorem exists_decrypt_encrypt_ne {i : Fin 4} {ops : PdcpCryptoOps} (hops : gCryptoOps i = some ops) :
    ∃ data, data ≠ [] ∧ ops.decrypt key ⟨0, bearer, direction⟩
      (ops.encrypt key ⟨1, bearer, direction⟩ data) ≠ data := by
  match i with
  | 0 => simp [gCryptoOps] at hops
  | 1 =>
      obtain rfl := Option.some.inj hops
      exact exists_snow3g_undo_ne key bearer direction
  | 2 =>
      obtain rfl := Option.some.inj hops
      exact exists_aes_undo_ne key bearer direction
  | 3 =>
      obtain rfl := Option.some.inj hops
      exact exists_zuc_undo_ne key bearer direction

theorem exists_computeMac_ne {i : Fin 4} {ops : PdcpCryptoOps} (hops : gCryptoOps i = some ops)
    (hi : i ≠ 2) :
    ∃ message, message ≠ [] ∧ ops.computeMac key message ⟨0, bearer, direction⟩
      ≠ ops.computeMac key message ⟨1, bearer, direction⟩ := by
  match i with
  | 0 => simp [gCryptoOps] at hops
  | 1 =>
      obtain rfl := Option.some.inj hops
      exact exists_snow3gComputeMac_ne key (by simp)
  | 2 => exact absurd rfl hi
  | 3 =>
      obtain rfl := Option.some.inj hops
      by_contra hcontra
      simp only [not_exists, not_and, not_not] at hcontra
      obtain ⟨k, hk, -, hne⟩ := exists_zuc_word_ne key bearer direction
      exact hne (Keystream.word_eq_of_tag_eq _ _ hcontra k hk).symm

end Rows

/-! ### One PDU -/

section Pdu

variable {entity : PdcpEntity} {ctx : PdcpSecurityContext} {pdu : PdcpPdu}

@[simp]
theorem pdcpProcessRxData_active :
    (pdcpProcessRxData entity pdu).1.active = entity.active := by
  unfold pdcpProcessRxData
  split
  · rfl
  · split <;> rfl

@[simp]
theorem pdcpProcessRxData_securityCtx :
    (pdcpProcessRxData entity pdu).1.securityCtx = entity.securityCtx := by
  unfold pdcpProcessRxData
  split
  · rfl
  · split <;> rfl

theorem pdcpProcessRxData_snd (hactive : entity.active = true) :
    (pdcpProcessRxData entity pdu).2 = pdcpUnprotect entity pdu := by
  unfold pdcpProcessRxData
  rw [hactive, Bool.not_true, if_neg Bool.false_ne_true]
  cases pdcpUnprotect entity pdu <;> rfl

/-- **What a receiver lets through.** -/
theorem pdcpUnprotect_eq_ok_iff (hctx : entity.securityCtx = some ctx) {sdu : List Byte} :
    pdcpUnprotect entity pdu = .ok sdu
      ↔ (pdu.integrityProtected = true → pdcpVerifyIntegrityProtect entity pdu = .ok true)
        ∧ (pdu.ciphered = true → (pdcpDecryptPdu entity pdu).map PdcpPdu.data = .ok sdu)
        ∧ (pdu.ciphered = false → pdu.data = sdu) := by
  unfold pdcpUnprotect
  rw [hctx, Option.isSome_some, Bool.and_true, Bool.and_true]
  cases pdu.integrityProtected with
  | false =>
      cases pdu.ciphered with
      | false => simp [pure, Except.pure]
      | true =>
          cases pdcpDecryptPdu entity pdu <;>
            simp [bind, Except.bind, pure, Except.pure, Except.map]
  | true =>
      match pdcpVerifyIntegrityProtect entity pdu with
      | .error e => simp [bind, Except.bind]
      | .ok false => simp [bind, Except.bind, throw, throwThe, MonadExceptOf.throw]
      | .ok true =>
          cases pdu.ciphered with
          | false => simp [bind, Except.bind, pure, Except.pure]
          | true =>
              cases pdcpDecryptPdu entity pdu <;>
                simp [bind, Except.bind, pure, Except.pure, Except.map]

end Pdu

/-! ### Runs -/

def pdcpSendAll (entity : PdcpEntity) : List (List Byte) → Except UesimError (List PdcpPdu)
  | [] => .ok []
  | sdu :: sdus => do
      let pdu ← (pdcpProcessTxData entity sdu).2
      let pdus ← pdcpSendAll (pdcpProcessTxData entity sdu).1 sdus
      return pdu :: pdus

def pdcpReceiveAll (entity : PdcpEntity) : List PdcpPdu → List (Except UesimError (List Byte))
  | [] => []
  | pdu :: pdus =>
      (pdcpProcessRxData entity pdu).2 :: pdcpReceiveAll (pdcpProcessRxData entity pdu).1 pdus

/-- Everything is sent, and the receiver answers every PDU with the SDU that went into it. -/
def Delivers (sender receiver : PdcpEntity) (sdus : List (List Byte)) : Prop :=
  ∃ pdus, pdcpSendAll sender sdus = .ok pdus ∧ pdcpReceiveAll receiver pdus = sdus.map .ok

section Deliver

variable {sender receiver : PdcpEntity} {ctx : PdcpSecurityContext} {refreshed : Word}

theorem verify_iff {next : PdcpEntity} {assigned guarded pdu : PdcpPdu}
    (hguarded : IsGuarded next ctx assigned guarded) (hciphered : IsCiphered next ctx guarded pdu)
    (hctx' : receiver.securityCtx = some { ctx with keyRefreshCount := refreshed }) :
    (pdu.integrityProtected = true → pdcpVerifyIntegrityProtect receiver pdu = .ok true)
      ↔ ∀ ops, gCryptoOps ctx.integrityAlg.index = some ops →
        ops.computeMac ctx.integrityKey pdu.data (pdcpCipherParams receiver)
          = ops.computeMac ctx.integrityKey assigned.data (pdcpCipherParams next) := by
  rw [hciphered.integrityProtected, hguarded.integrityProtected]
  by_cases halg : ctx.integrityAlg = .nia0
  · simp [halg, PdcpIntegrityAlg.index, gCryptoOps]
  · obtain ⟨ops, hops⟩ := exists_macOps halg
    rw [pdcpVerifyIntegrityProtect_of_ops hctx' halg hops, hciphered.macI, hguarded.macI hops]
    simp [halg, hops]

theorem undo_iff {next : PdcpEntity} {guarded pdu : PdcpPdu}
    (hciphered : IsCiphered next ctx guarded pdu)
    (hctx' : receiver.securityCtx = some { ctx with keyRefreshCount := refreshed }) :
    ((pdu.ciphered = true → (pdcpDecryptPdu receiver pdu).map PdcpPdu.data = .ok guarded.data)
        ∧ (pdu.ciphered = false → pdu.data = guarded.data))
      ↔ ∀ ops, gCryptoOps ctx.cipheringAlg.index = some ops →
        ops.decrypt ctx.cipheringKey (pdcpCipherParams receiver)
          (ops.encrypt ctx.cipheringKey (pdcpCipherParams next) guarded.data) = guarded.data := by
  rw [← Bool.not_eq_true, hciphered.ciphered]
  by_cases halg : ctx.cipheringAlg = .nea0
  · simp [halg, PdcpCipheringAlg.index, gCryptoOps, hciphered.data_of_nea0 halg]
  · obtain ⟨ops, hops⟩ := exists_cipherOps halg
    rw [pdcpDecryptPdu_of_ops hctx' halg hops, hciphered.data hops]
    simp [halg, hops, Except.map]

/-- **One PDU from end to end.** The SDU comes out exactly if the receiver's row of the table undoes
what the sender's did, and the tag that the receiver computes is the one that the sender computed. -/
theorem exists_pdu_delivered_iff (hactive : sender.active = true)
    (hctx : sender.securityCtx = some ctx) (hactive' : receiver.active = true)
    (hctx' : receiver.securityCtx = some { ctx with keyRefreshCount := refreshed })
    {sdu : List Byte} (hsdu : sdu ≠ []) :
    ∃ pdu, pdcpProcessTxData sender sdu = ((pdcpAssignTxSn sender).2, .ok pdu)
      ∧ (ctx.cipheringAlg = .nea0 → pdu.data = sdu)
      ∧ ((pdcpProcessRxData receiver pdu).2 = .ok sdu
        ↔ (∀ ops, gCryptoOps ctx.integrityAlg.index = some ops →
            ops.computeMac ctx.integrityKey pdu.data (pdcpCipherParams receiver)
              = ops.computeMac ctx.integrityKey sdu (pdcpCipherParams (pdcpAssignTxSn sender).2))
          ∧ ∀ ops, gCryptoOps ctx.cipheringAlg.index = some ops →
            ops.decrypt ctx.cipheringKey (pdcpCipherParams receiver) (ops.encrypt ctx.cipheringKey
              (pdcpCipherParams (pdcpAssignTxSn sender).2) sdu) = sdu) := by
  obtain ⟨guarded, pdu, hcall, -, hguarded, hciphered⟩ := pdcpProcessTxData_of_ctx hactive hctx hsdu
  refine ⟨pdu, hcall, fun halg => (hciphered.data_of_nea0 halg).trans hguarded.data, ?_⟩
  have hundo := undo_iff hciphered hctx'
  rw [hguarded.data] at hundo
  rw [pdcpProcessRxData_snd hactive', pdcpUnprotect_eq_ok_iff hctx', hundo,
    verify_iff hguarded hciphered hctx']

theorem Delivers.cons {pdu : PdcpPdu} {sdu : List Byte} {sdus : List (List Byte)}
    (htx : (pdcpProcessTxData sender sdu).2 = .ok pdu)
    (hrx : (pdcpProcessRxData receiver pdu).2 = .ok sdu)
    (h : Delivers (pdcpProcessTxData sender sdu).1 (pdcpProcessRxData receiver pdu).1 sdus) :
    Delivers sender receiver (sdu :: sdus) := by
  obtain ⟨pdus, hpdus, hreceived⟩ := h
  refine ⟨pdu :: pdus, ?_, ?_⟩
  · rw [pdcpSendAll, htx, hpdus]
    rfl
  · rw [pdcpReceiveAll, hrx, hreceived, List.map_cons]

theorem Delivers.singleton {pdu : PdcpPdu} {sdu : List Byte} (h : Delivers sender receiver [sdu])
    (htx : (pdcpProcessTxData sender sdu).2 = .ok pdu) :
    (pdcpProcessRxData receiver pdu).2 = .ok sdu := by
  obtain ⟨pdus, hpdus, hreceived⟩ := h
  rw [pdcpSendAll, htx] at hpdus
  cases hpdus
  simpa [pdcpReceiveAll] using hreceived

theorem Delivers.rows_of_singleton {sdu : List Byte} (h : Delivers sender receiver [sdu])
    (hactive : sender.active = true) (hctx : sender.securityCtx = some ctx)
    (hactive' : receiver.active = true)
    (hctx' : receiver.securityCtx = some { ctx with keyRefreshCount := refreshed })
    (hsdu : sdu ≠ []) :
    (ctx.cipheringAlg = .nea0 → ∀ ops, gCryptoOps ctx.integrityAlg.index = some ops →
      ops.computeMac ctx.integrityKey sdu (pdcpCipherParams receiver)
        = ops.computeMac ctx.integrityKey sdu (pdcpCipherParams (pdcpAssignTxSn sender).2))
      ∧ ∀ ops, gCryptoOps ctx.cipheringAlg.index = some ops →
        ops.decrypt ctx.cipheringKey (pdcpCipherParams receiver) (ops.encrypt ctx.cipheringKey
          (pdcpCipherParams (pdcpAssignTxSn sender).2) sdu) = sdu := by
  obtain ⟨pdu, hcall, hdata, hdelivered⟩ :=
    exists_pdu_delivered_iff hactive hctx hactive' hctx' hsdu
  obtain ⟨htag, hundo⟩ := hdelivered.mp (h.singleton (congrArg Prod.snd hcall))
  refine ⟨fun hnull ops hops => ?_, hundo⟩
  rw [← htag ops hops, hdata hnull]

theorem exists_pdu_delivered_of_null (hcipher : ctx.cipheringAlg = .nea0)
    (hmac : ctx.integrityAlg = .nia0 ∨ ctx.integrityAlg = .nia2) (hactive : sender.active = true)
    (hctx : sender.securityCtx = some ctx) (hactive' : receiver.active = true)
    (hctx' : receiver.securityCtx = some { ctx with keyRefreshCount := refreshed })
    {sdu : List Byte} (hsdu : sdu ≠ []) :
    ∃ pdu, pdcpProcessTxData sender sdu = ((pdcpAssignTxSn sender).2, .ok pdu)
      ∧ (pdcpProcessRxData receiver pdu).2 = .ok sdu := by
  obtain ⟨pdu, hcall, hdata, hdelivered⟩ := exists_pdu_delivered_iff hactive hctx hactive' hctx' hsdu
  refine ⟨pdu, hcall, hdelivered.mpr ⟨fun ops hops => ?_, fun ops hops => ?_⟩⟩
  · rw [hdata hcipher]
    rcases hmac with halg | halg
    · rw [halg] at hops
      cases hops
    · rw [halg] at hops
      cases hops
      rfl
  · rw [hcipher] at hops
    cases hops

theorem delivers_of_null (hcipher : ctx.cipheringAlg = .nea0)
    (hmac : ctx.integrityAlg = .nia0 ∨ ctx.integrityAlg = .nia2) (sdus : List (List Byte)) :
    ∀ {sender receiver : PdcpEntity}, sender.active = true → sender.securityCtx = some ctx →
      receiver.active = true →
      receiver.securityCtx = some { ctx with keyRefreshCount := refreshed } →
      (∀ sdu ∈ sdus, sdu ≠ []) → Delivers sender receiver sdus := by
  induction sdus with
  | nil =>
      intro sender receiver _ _ _ _ _
      exact ⟨[], rfl, rfl⟩
  | cons sdu sdus ih =>
      intro sender receiver hactive hctx hactive' hctx' hsdus
      obtain ⟨pdu, hcall, hrx⟩ := exists_pdu_delivered_of_null hcipher hmac hactive hctx hactive'
        hctx' (hsdus sdu List.mem_cons_self)
      have htx : (pdcpProcessTxData sender sdu).2 = .ok pdu := by rw [hcall]
      refine .cons htx hrx (ih ?_ ?_ ?_ ?_ ?_)
      · rw [hcall]
        exact hactive
      · rw [hcall]
        exact hctx
      · rw [pdcpProcessRxData_active, hactive']
      · rw [pdcpProcessRxData_securityCtx, hctx']
      · exact fun sdu hsdu => hsdus sdu (List.mem_cons_of_mem _ hsdu)

end Deliver

/-! ### Fresh entities -/

section Fresh

variable {bearer : Nat} {direction : PdcpDirection} {ctx : PdcpSecurityContext} {refreshed : Word}

theorem pdcpCipherParams_fresh :
    pdcpCipherParams ((pdcpActivateEntity (pdcpNewEntity bearer direction)).withSecurity ctx)
      = ⟨0, BitVec.ofNat 8 bearer, direction.toByte⟩ := by
  have hcount : pdcpGetCount ((pdcpActivateEntity (pdcpNewEntity bearer direction)).withSecurity ctx)
      = 0 := (sending_newEntity bearer direction ctx).toSent.getTxCount_zero
  rw [pdcpCipherParams, hcount]
  simp [PdcpEntity.withSecurity, pdcpActivateEntity, pdcpNewEntity]

theorem pdcpCipherParams_assignTxSn_fresh :
    pdcpCipherParams
        (pdcpAssignTxSn ((pdcpActivateEntity (pdcpNewEntity bearer direction)).withSecurity ctx)).2
      = ⟨1, BitVec.ofNat 8 bearer, direction.toByte⟩ := by
  have hs := isSnLength_snLengthOf bearer
  have hcount : pdcpGetCount
      (pdcpAssignTxSn ((pdcpActivateEntity (pdcpNewEntity bearer direction)).withSecurity ctx)).2
        = BitVec.ofNat 32 (txCountAt (snLengthOf bearer) 0) :=
    ((sending_newEntity bearer direction ctx).toSent.assignTxSn hs).getTxCount hs
  rw [pdcpCipherParams, hcount, txCountAt_zero hs]
  simp [PdcpEntity.withSecurity, pdcpActivateEntity, pdcpNewEntity]

/-- **Delivery between two fresh entities** with the same keys and algorithms: every sequence of SDUs
arrives as it was sent exactly if nothing is enciphered and integrity protection is null or AES. -/
theorem delivers_iff {created : PdcpEntity} (hcreate : pdcpCreateEntity bearer direction = .ok created)
    (ctx : PdcpSecurityContext) (refreshed : Word) :
    (∀ sdus, (∀ sdu ∈ sdus, sdu ≠ []) →
        Delivers ((pdcpActivateEntity created).withSecurity ctx)
          ((pdcpActivateEntity created).withSecurity { ctx with keyRefreshCount := refreshed }) sdus)
      ↔ ctx.cipheringAlg = .nea0 ∧ (ctx.integrityAlg = .nia0 ∨ ctx.integrityAlg = .nia2) := by
  obtain ⟨-, rfl⟩ := pdcpCreateEntity_eq_ok_iff.mp hcreate
  constructor
  · intro h
    have hone : ∀ {sdu : List Byte}, sdu ≠ [] → _ := fun {sdu} hsdu =>
      (h [sdu] (by simpa using hsdu)).rows_of_singleton rfl rfl rfl rfl hsdu
    rw [pdcpCipherParams_fresh, pdcpCipherParams_assignTxSn_fresh] at hone
    have hcipher : ctx.cipheringAlg = .nea0 := by
      by_contra halg
      obtain ⟨ops, hops⟩ := exists_cipherOps halg
      obtain ⟨sdu, hsdu, hne⟩ := exists_decrypt_encrypt_ne ctx.cipheringKey (BitVec.ofNat 8 bearer)
        direction.toByte hops
      exact hne ((hone hsdu).2 ops hops)
    refine ⟨hcipher, ?_⟩
    by_contra halg
    rw [not_or] at halg
    obtain ⟨ops, hops⟩ := exists_macOps halg.1
    have hindex : ctx.integrityAlg.index ≠ 2 :=
      fun hindex => halg.2 (PdcpIntegrityAlg.index_eq_two_iff.mp hindex)
    obtain ⟨sdu, hsdu, hne⟩ := exists_computeMac_ne ctx.integrityKey (BitVec.ofNat 8 bearer)
      direction.toByte hops hindex
    exact hne ((hone hsdu).1 hcipher ops hops)
  · rintro ⟨hcipher, hmac⟩ sdus hsdus
    exact delivers_of_null hcipher hmac sdus rfl rfl rfl rfl hsdus

theorem delivers_nea0_nia2 :
    let ctx := pdcpCreateSecurityContext .nea0 .nia2 (Vector.replicate 16 0) (Vector.replicate 16 0)
    let entity := (pdcpActivateEntity (pdcpNewEntity 4 .uplink)).withSecurity ctx
    ∀ sdus, (∀ sdu ∈ sdus, sdu ≠ []) →
      Delivers entity (entity.withSecurity { ctx with keyRefreshCount := 0 }) sdus :=
  (delivers_iff (show pdcpCreateEntity 4 .uplink = .ok _ from rfl) _ 0).mpr ⟨rfl, .inr rfl⟩

/-- A zero byte that AES enciphers arrives as another. -/
theorem not_delivers_nea2 :
    let ctx := pdcpCreateSecurityContext .nea2 .nia0 (Vector.replicate 16 0) (Vector.replicate 16 0)
    let entity := (pdcpActivateEntity (pdcpNewEntity 4 .uplink)).withSecurity ctx
    ¬ Delivers entity entity [[0]] := by
  intro ctx entity h
  have hundo := (h.rows_of_singleton rfl rfl rfl rfl (by decide)).2 _ rfl
  exact absurd hundo (by decide +kernel)

end Fresh

end Uesim
