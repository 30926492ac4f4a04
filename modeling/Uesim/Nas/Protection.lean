import Uesim.Nas.Security
import Uesim.Pdcp.Protection

/-!
# Protection of one NAS message

A context in force tags and enciphers by one row of the table each, with the count of the direction.
Sending makes the tag first, of the plain data, and lets the count move before the cipher reads it.
-/

namespace Uesim

open Bytes

variable {ctx ctx' : NasSecurityContext} {direction : NasDirection} {message sent : NasMessage}
  {data : List Byte} {mac : Word}

namespace NasSecurityContext

/-- The tag of data under the count that is in force; there is none under the null algorithm. -/
def tag (ctx : NasSecurityContext) (direction : NasDirection) (data : List Byte) : Option Word :=
  (gCryptoOps ctx.integrityAlg.index).map fun ops =>
    ops.computeMac ctx.knasInt data (ctx.cipherParams direction)

def encipher (ctx : NasSecurityContext) (direction : NasDirection) (data : List Byte) : List Byte :=
  match gCryptoOps ctx.cipheringAlg.index with
  | none => data
  | some ops => ops.encrypt ctx.knasEnc (ctx.cipherParams direction) data

def decipher (ctx : NasSecurityContext) (direction : NasDirection) (data : List Byte) : List Byte :=
  match gCryptoOps ctx.cipheringAlg.index with
  | none => data
  | some ops => ops.decrypt ctx.knasEnc (ctx.cipherParams direction) data

@[simp]
theorem count_countUp (ctx : NasSecurityContext) (direction : NasDirection) :
    (ctx.countUp direction).count direction = ctx.count direction + 1 := by
  cases direction <;> rfl

@[simp]
theorem countUp_integrityAlg (ctx : NasSecurityContext) (direction : NasDirection) :
    (ctx.countUp direction).integrityAlg = ctx.integrityAlg := by
  cases direction <;> rfl

@[simp]
theorem countUp_cipheringAlg (ctx : NasSecurityContext) (direction : NasDirection) :
    (ctx.countUp direction).cipheringAlg = ctx.cipheringAlg := by
  cases direction <;> rfl

@[simp]
theorem countUp_knasEnc (ctx : NasSecurityContext) (direction : NasDirection) :
    (ctx.countUp direction).knasEnc = ctx.knasEnc := by
  cases direction <;> rfl

@[simp]
theorem countUp_securityContextValid (ctx : NasSecurityContext) (direction : NasDirection) :
    (ctx.countUp direction).securityContextValid = ctx.securityContextValid := by
  cases direction <;> rfl

theorem countUp_ne (ctx : NasSecurityContext) (direction : NasDirection) :
    ctx.countUp direction ≠ ctx := by
  intro h
  have hcount := congrArg (count · direction) h
  rw [count_countUp] at hcount
  exact absurd hcount (by simp)

theorem tag_eq_none_iff : ctx.tag direction data = none ↔ ctx.integrityAlg = .nia0 := by
  rw [tag, Option.map_eq_none_iff]
  constructor
  · intro hrow
    by_contra halg
    obtain ⟨ops, hops⟩ := exists_macOps halg
    exact absurd (hrow.symm.trans hops) (by simp)
  · intro halg
    rw [halg]
    rfl

theorem exists_tag (halg : ctx.integrityAlg ≠ .nia0) (direction : NasDirection) (data : List Byte) :
    ∃ mac, ctx.tag direction data = some mac :=
  Option.ne_none_iff_exists'.mp fun hnone => halg (tag_eq_none_iff.mp hnone)

theorem encipher_of_nea0 (halg : ctx.cipheringAlg = .nea0) : ctx.encipher direction data = data := by
  rw [encipher, halg]
  rfl

theorem encipher_countUp_of_nea0 (halg : ctx.cipheringAlg = .nea0) :
    (ctx.countUp direction).encipher direction data = data :=
  encipher_of_nea0 ((countUp_cipheringAlg ctx direction).trans halg)

@[simp]
theorem length_encipher : (ctx.encipher direction data).length = data.length := by
  unfold encipher
  split
  · rfl
  · rename_i ops hops
    exact (decrypt_encrypt hops _ _ _).1

theorem encipher_eq_nil_iff : ctx.encipher direction data = [] ↔ data = [] := by
  rw [← List.length_eq_zero_iff, length_encipher, List.length_eq_zero_iff]

@[simp]
theorem encipher_nil : ctx.encipher direction [] = [] := encipher_eq_nil_iff.mpr rfl

theorem decipher_encipher (ctx : NasSecurityContext) (direction : NasDirection) (data : List Byte) :
    ctx.decipher direction (ctx.encipher direction data) = data := by
  unfold decipher encipher
  cases hops : gCryptoOps ctx.cipheringAlg.index with
  | none => rfl
  | some ops => exact (decrypt_encrypt hops _ _ _).2

@[simp]
theorem decipher_nil : ctx.decipher direction [] = [] := by
  have hundone := decipher_encipher ctx direction []
  rwa [encipher_nil] at hundone

end NasSecurityContext

/-! ### Tags -/

theorem nasIntegrityProtect_of_tag (hvalid : ctx.securityContextValid = true)
    (hdata : message.messageData = some data) (htag : ctx.tag direction data = some mac) :
    nasIntegrityProtect direction ctx message = (ctx.countUp direction, .ok { message with
      header.messageAuthenticationCode := mac
      integrityProtected := true }) := by
  obtain ⟨ops, hops, rfl⟩ := Option.map_eq_some_iff.mp htag
  simp [nasIntegrityProtect, hvalid, hops, hdata]

theorem nasVerifyIntegrityProtection_of_tag (hvalid : ctx.securityContextValid = true)
    (hprotected : message.integrityProtected = true) (hdata : message.messageData = some data)
    (htag : ctx.tag .downlink data = some mac) :
    nasVerifyIntegrityProtection ctx message
      = (ctx.countUp .downlink, .ok (mac == message.header.messageAuthenticationCode)) := by
  obtain ⟨ops, hops, rfl⟩ := Option.map_eq_some_iff.mp htag
  simp [nasVerifyIntegrityProtection, hvalid, hprotected, hops, hdata]

theorem nasVerifyIntegrityProtection_cases (ctx : NasSecurityContext) (message : NasMessage) :
    nasVerifyIntegrityProtection ctx message = (ctx, .ok true)
      ∨ (message.messageData = none
        ∧ nasVerifyIntegrityProtection ctx message = (ctx, .error .invalidParam))
      ∨ ∃ data mac, message.messageData = some data ∧ ctx.tag .downlink data = some mac
        ∧ nasVerifyIntegrityProtection ctx message
          = (ctx.countUp .downlink, .ok (mac == message.header.messageAuthenticationCode)) := by
  by_cases hlook : (ctx.securityContextValid && message.integrityProtected) = true
  · by_cases halg : ctx.integrityAlg = .nia0
    · refine .inl ?_
      rw [nasVerifyIntegrityProtection, if_pos hlook, halg]
      rfl
    · cases hdata : message.messageData with
      | none =>
          obtain ⟨ops, hops⟩ := exists_macOps halg
          refine .inr (.inl ⟨rfl, ?_⟩)
          rw [nasVerifyIntegrityProtection, if_pos hlook, hops, hdata]
      | some data =>
          obtain ⟨mac, htag⟩ := NasSecurityContext.exists_tag halg .downlink data
          obtain ⟨hvalid, hprotected⟩ := Bool.and_eq_true_iff.mp hlook
          exact .inr (.inr ⟨data, mac, rfl, htag,
            nasVerifyIntegrityProtection_of_tag hvalid hprotected hdata htag⟩)
  · exact .inl (if_neg hlook)

theorem nasIntegrityProtect_fst (direction : NasDirection) (ctx : NasSecurityContext)
    (message : NasMessage) : (nasIntegrityProtect direction ctx message).1
    = if ctx.securityContextValid = true ∧ ctx.integrityAlg ≠ .nia0 ∧ message.messageData ≠ none
      then ctx.countUp direction else ctx := by
  unfold nasIntegrityProtect
  by_cases halg : ctx.integrityAlg = .nia0
  · rw [halg]
    cases ctx.securityContextValid <;> simp [PdcpIntegrityAlg.index, gCryptoOps]
  · obtain ⟨ops, hops⟩ := exists_macOps halg
    rw [hops]
    cases ctx.securityContextValid <;> cases message.messageData <;> simp [halg]

/-! ### Ciphers -/

theorem nasApplyCipher_messageData
    {apply : PdcpCryptoOps → Vector Byte 16 → PdcpCipherParams → List Byte → List Byte} {done : Bool}
    (hvalid : ctx.securityContextValid = true) (hdata : message.messageData = some data) :
    (nasApplyCipher apply done direction ctx message).messageData
      = some (if data = [] then [] else
          match gCryptoOps ctx.cipheringAlg.index with
          | none => data
          | some ops => apply ops ctx.knasEnc (ctx.cipherParams direction) data) := by
  unfold nasApplyCipher
  by_cases hempty : data = []
  · cases gCryptoOps ctx.cipheringAlg.index <;> simp [hvalid, hdata, hempty]
  · cases gCryptoOps ctx.cipheringAlg.index <;> simp [hvalid, hdata, hempty]

theorem nasCipher_messageData (hvalid : ctx.securityContextValid = true)
    (hdata : message.messageData = some data) :
    (nasCipher direction ctx message).messageData = some (ctx.encipher direction data) := by
  rw [nasCipher, nasApplyCipher_messageData hvalid hdata]
  split
  · rename_i hempty
    rw [hempty, NasSecurityContext.encipher_nil]
  · rfl

theorem nasDecipherMessage_messageData (hvalid : ctx.securityContextValid = true)
    (hdata : message.messageData = some data) :
    (nasDecipherMessage ctx message).messageData = some (ctx.decipher .downlink data) := by
  rw [nasDecipherMessage, nasApplyCipher_messageData hvalid hdata]
  split
  · rename_i hempty
    rw [hempty, NasSecurityContext.decipher_nil]
  · rfl

theorem nasCipher_header_flags (direction : NasDirection) (message : NasMessage)
    (hvalid : ctx.securityContextValid = true) (halg : ctx.cipheringAlg ≠ .nea0)
    (hdata : message.messageData = some data) (hne : data ≠ []) :
    (nasCipher direction ctx message).header = message.header
      ∧ (nasCipher direction ctx message).integrityProtected = message.integrityProtected
      ∧ (nasCipher direction ctx message).ciphered = true := by
  obtain ⟨ops, hops⟩ := exists_cipherOps halg
  simp [nasCipher, nasApplyCipher, hvalid, hops, hdata, hne]

/-! ### Both -/

theorem nasProtect_fst (direction : NasDirection) (ctx : NasSecurityContext) (message : NasMessage) :
    (nasProtect direction ctx message).1
    = if ctx.securityContextValid = true ∧ ctx.integrityAlg ≠ .nia0 ∧ message.messageData ≠ none
      then ctx.countUp direction else ctx := by
  rw [← nasIntegrityProtect_fst]
  unfold nasProtect
  split
  · split
    · rename_i hcall
      exact (congrArg Prod.fst hcall).symm
    · rename_i hcall
      exact (congrArg Prod.fst hcall).symm
  · rename_i hinvalid
    rw [nasIntegrityProtect, if_neg hinvalid]

theorem nasProtect_fst_of_countUp {α : Type} {f : NasSecurityContext → α}
    (hf : ∀ ctx direction, f (NasSecurityContext.countUp ctx direction) = f ctx)
    (direction : NasDirection) (ctx : NasSecurityContext) (message : NasMessage) :
    f (nasProtect direction ctx message).1 = f ctx := by
  rw [nasProtect_fst]
  split
  · exact hf ctx direction
  · rfl

theorem nasIntegrityProtect_messageData
    (h : nasIntegrityProtect direction ctx message = (ctx', .ok sent)) :
    sent.messageData = message.messageData := by
  unfold nasIntegrityProtect at h
  split at h
  · split at h
    · rw [← Except.ok.inj (Prod.mk.inj h).2]
    · split at h
      · cases (Prod.mk.inj h).2
      · rw [← Except.ok.inj (Prod.mk.inj h).2]
  · rw [← Except.ok.inj (Prod.mk.inj h).2]

/-- **What is sent** is the data enciphered under the context after the tag was made. -/
theorem nasProtect_messageData (h : nasProtect direction ctx message = (ctx', .ok sent)) :
    sent.messageData = if ctx'.securityContextValid = true
      then message.messageData.map (ctx'.encipher direction) else message.messageData := by
  have hvalid : ctx'.securityContextValid = ctx.securityContextValid := by
    have hkept := nasProtect_fst_of_countUp NasSecurityContext.countUp_securityContextValid direction
      ctx message
    rwa [h] at hkept
  unfold nasProtect at h
  split at h
  · rename_i hon
    split at h
    · cases (Prod.mk.inj h).2
    · rename_i security tagged htagged
      obtain ⟨rfl, hsent⟩ := Prod.mk.inj h
      have hdata := nasIntegrityProtect_messageData htagged
      rw [if_pos (hvalid.trans hon), ← Except.ok.inj hsent, ← hdata]
      split
      · rename_i halg
        have hid : security.encipher direction = id := by
          funext data
          exact NasSecurityContext.encipher_of_nea0 halg
        rw [hid, Option.map_id, id]
      · cases hmessage : tagged.messageData with
        | none => simp [nasCipher, nasApplyCipher, hmessage, hvalid.trans hon]
        | some data => exact nasCipher_messageData (hvalid.trans hon) hmessage
  · rename_i hoff
    rw [← Except.ok.inj (Prod.mk.inj h).2, if_neg (hvalid ▸ hoff)]

/-- What is sent under an integrity algorithm: the tag of the plain data, and the data enciphered with
the count after it. -/
theorem nasProtect_of_tag (hvalid : ctx.securityContextValid = true)
    (hdata : message.messageData = some data) (hne : data ≠ [])
    (htag : ctx.tag direction data = some mac) :
    ∃ sent, nasProtect direction ctx message = (ctx.countUp direction, .ok sent)
      ∧ sent.header.messageAuthenticationCode = mac ∧ sent.integrityProtected = true
      ∧ sent.messageData = some ((ctx.countUp direction).encipher direction data)
      ∧ (ctx.cipheringAlg ≠ .nea0 → sent.ciphered = true) := by
  have hnext : (ctx.countUp direction).securityContextValid = true :=
    (NasSecurityContext.countUp_securityContextValid _ _).trans hvalid
  set tagged : NasMessage := { message with
    header.messageAuthenticationCode := mac
    integrityProtected := true } with htagged
  have hcall : nasProtect direction ctx message = (ctx.countUp direction,
      .ok (if ctx.cipheringAlg = .nea0 then tagged
        else nasCipher direction (ctx.countUp direction) tagged)) := by
    rw [nasProtect, if_pos hvalid, nasIntegrityProtect_of_tag hvalid hdata htag]
    dsimp only
    rw [NasSecurityContext.countUp_cipheringAlg]
  by_cases halg : ctx.cipheringAlg = .nea0
  · rw [if_pos halg] at hcall
    have hplain : (ctx.countUp direction).encipher direction data = data :=
      NasSecurityContext.encipher_countUp_of_nea0 halg
    exact ⟨tagged, hcall, rfl, rfl, hdata.trans (congrArg some hplain.symm), fun h => absurd halg h⟩
  · rw [if_neg halg] at hcall
    have hcipher : (ctx.countUp direction).cipheringAlg ≠ .nea0 := by simpa using halg
    obtain ⟨hheader, hprotected, hciphered⟩ :=
      nasCipher_header_flags direction tagged hnext hcipher hdata hne
    refine ⟨_, hcall, ?_, ?_, nasCipher_messageData hnext hdata, fun _ => hciphered⟩
    · rw [hheader]
    · rw [hprotected]

end Uesim
