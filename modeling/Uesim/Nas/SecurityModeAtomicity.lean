import Uesim.Nas.SecurityMode
import Uesim.Nas.Protection

/-!
# All or nothing of a security mode command

A command that is accepted puts its context in force before the answer is sent, and nothing takes it back. The
answer has no data, which no integrity algorithm but the null one can work on. So the command is all or
nothing if it is refused at once, or if the answer can be sent, or if the new context is the old one; and never
if there is a vector, for then the call does not come back.
-/

namespace Uesim

open Bytes

variable {Session : Type}

/-- The call comes back; either the selected context is in force and an answer that is protected was sent, or
it has failed and the context is the old one. -/
def NasAuthUeContext.Atomic (IsProtected : NasMessage → Prop) (ctx : NasAuthUeContext Session)
    (command : NasSecurityModeCommand) : Prop :=
  ∃ ctx' answer, (nasHandleSecurityModeCommand ctx command).outcome = some (ctx', answer)
    ∧ ((∃ message, answer = .ok message ∧ IsProtected message
          ∧ ctx'.securityContext.securityContextValid = true
          ∧ nasCipheringAlgorithmOf command.selectedNasSecurityAlgorithms
            = some ctx'.securityContext.cipheringAlg
          ∧ nasIntegrityAlgorithmOf command.selectedNasIntegrityAlgorithm
            = some ctx'.securityContext.integrityAlg)
      ∨ ∃ e, answer = .error e ∧ ctx'.securityContext = ctx.securityContext)

/-- The context is what a command for these algorithms selects, and nothing was sent or received under it. -/
structure NasSecurityContext.InForce (security : NasSecurityContext) (cipheringAlg : NasCipheringAlgorithm)
    (integrityAlg : NasIntegrityAlgorithm) (ksi : Byte) : Prop where
  ciphering : security.cipheringAlg = cipheringAlg
  integrity : security.integrityAlg = integrityAlg
  identifier : security.ksi = ksi
  downlink : security.downlinkCount = 0
  uplink : security.uplinkCount = 0
  valid : security.securityContextValid = true

def NasMessage.Tagged (message : NasMessage) : Prop := message.integrityProtected = true

/-- The tag is there, unless the selected algorithm is the null one. -/
def NasSecurityModeCommand.Protects (command : NasSecurityModeCommand) (message : NasMessage) : Prop :=
  message.Tagged ∨ nasIntegrityAlgorithmOf command.selectedNasIntegrityAlgorithm = some .nia0

/-! ### The answer -/

theorem nasCipher_integrityProtected (direction : NasDirection) (security : NasSecurityContext)
    (message : NasMessage) :
    (nasCipher direction security message).integrityProtected = message.integrityProtected := by
  unfold nasCipher nasApplyCipher
  split
  · split
    · split <;> rfl
    · rfl
  · rfl

theorem nasProtect_of_nia0 {security : NasSecurityContext}
    (hvalid : security.securityContextValid = true) (hnull : security.integrityAlg = .nia0)
    (message : NasMessage) :
    ∃ sent, nasProtect .uplink security message = (security, .ok sent) ∧ ¬sent.Tagged := by
  have hprotect : nasIntegrityProtect .uplink security message
      = (security, .ok { message with integrityProtected := false }) := by
    rw [nasIntegrityProtect, if_pos hvalid, hnull]
    rfl
  rw [nasProtect, if_pos hvalid, hprotect]
  refine ⟨_, rfl, ?_⟩
  rw [NasMessage.Tagged]
  split
  · exact Bool.false_ne_true
  · rw [nasCipher_integrityProtected]
    exact Bool.false_ne_true

theorem nasProtect_of_no_data {security : NasSecurityContext} {message : NasMessage}
    (hvalid : security.securityContextValid = true) (hother : security.integrityAlg ≠ .nia0)
    (hdata : message.messageData = none) :
    nasProtect .uplink security message = (security, .error .invalidParam) := by
  obtain ⟨ops, hops⟩ := exists_macOps hother
  rw [nasProtect, if_pos hvalid, nasIntegrityProtect, if_pos hvalid, hops, hdata]

/-! ### The command -/

namespace NasAuthUeContext

variable {ctx : NasAuthUeContext Session} {command : NasSecurityModeCommand}
  {cipheringAlg : NasCipheringAlgorithm} {integrityAlg : NasIntegrityAlgorithm}

theorem installed_algs (ctx : NasAuthUeContext Session) (cipheringAlg : NasCipheringAlgorithm)
    (integrityAlg : NasIntegrityAlgorithm) (ksi : Byte) :
    (ctx.installed cipheringAlg integrityAlg ksi).securityContextValid = true
      ∧ (ctx.installed cipheringAlg integrityAlg ksi).cipheringAlg = cipheringAlg
      ∧ (ctx.installed cipheringAlg integrityAlg ksi).integrityAlg = integrityAlg := by
  unfold installed
  dsimp only
  split <;> exact ⟨rfl, rfl, rfl⟩

/-- What the handler leaves and how it ends is what protection does to the answer under the new
context. -/
theorem Installs.value_eq_protect (h : ctx.Installs command cipheringAlg integrityAlg) :
    (nasHandleSecurityModeCommand ctx command).value.1.securityContext
        = (nasProtect .uplink (ctx.installed cipheringAlg integrityAlg command.ngksiValue)
          (nasCreateMessage 0x5f [])).1
      ∧ (nasHandleSecurityModeCommand ctx command).value.2
        = (nasProtect .uplink (ctx.installed cipheringAlg integrityAlg command.ngksiValue)
          (nasCreateMessage 0x5f [])).2 := by
  have hactive : (ctx.install cipheringAlg integrityAlg command.ngksiValue).active = true := h.active
  rw [h.value_eq]
  exact nasSendSecurityModeComplete_value hactive

theorem Installs.answer_of_nia0 (h : ctx.Installs command cipheringAlg .nia0) :
    ∃ message, (nasHandleSecurityModeCommand ctx command).value.2 = .ok message ∧ ¬message.Tagged
      ∧ (nasHandleSecurityModeCommand ctx command).value.1.securityContext
        = ctx.installed cipheringAlg .nia0 command.ngksiValue := by
  obtain ⟨hvalid, -, halg⟩ := installed_algs ctx cipheringAlg .nia0 command.ngksiValue
  obtain ⟨sent, hsent, huntagged⟩ := nasProtect_of_nia0 hvalid halg (nasCreateMessage 0x5f [])
  obtain ⟨hsecurity, hresult⟩ := h.value_eq_protect
  rw [hsent] at hsecurity hresult
  exact ⟨sent, hresult, huntagged, hsecurity⟩

theorem Installs.answer_of_ne (h : ctx.Installs command cipheringAlg integrityAlg)
    (hother : integrityAlg ≠ .nia0) :
    (nasHandleSecurityModeCommand ctx command).value.2 = .error .invalidParam
      ∧ (nasHandleSecurityModeCommand ctx command).value.1.securityContext
        = ctx.installed cipheringAlg integrityAlg command.ngksiValue := by
  obtain ⟨hvalid, -, halg⟩ := installed_algs ctx cipheringAlg integrityAlg command.ngksiValue
  obtain ⟨hsecurity, hresult⟩ := h.value_eq_protect
  have hdata : (nasCreateMessage 0x5f []).messageData = none := rfl
  rw [nasProtect_of_no_data hvalid (fun hnull => hother (halg.symm.trans hnull)) hdata] at hsecurity hresult
  exact ⟨hresult, hsecurity⟩

theorem Installs.not_atomic_of_vector (h : ctx.Installs command cipheringAlg integrityAlg)
    (hvectors : ctx.authContext.numVectors ≠ 0) (IsProtected : NasMessage → Prop) :
    ¬ctx.Atomic IsProtected command := by
  rintro ⟨ctx', answer, hcall, -⟩
  obtain ⟨rest, hlog⟩ := h.log_of_vector (Nat.pos_of_ne_zero hvectors)
  rw [Locked.outcome, hlog, Locked.after_lock (Finset.notMem_empty _),
    Locked.after_lock_of_mem (Finset.mem_insert_self _ _)] at hcall
  cases hcall

theorem installed_eq_iff (hvectors : ctx.authContext.numVectors = 0) {ksi : Byte} :
    ctx.installed cipheringAlg integrityAlg ksi = ctx.securityContext
      ↔ ctx.securityContext.InForce cipheringAlg integrityAlg ksi := by
  rw [installed, hvectors, if_neg (Nat.lt_irrefl 0)]
  constructor
  · intro h
    rw [← h]
    exact ⟨rfl, rfl, rfl, rfl, rfl, rfl⟩
  · rintro ⟨hciphering, hintegrity, hksi, hdown, hup, hvalid⟩
    rw [NasSecurityContext.selected]
    generalize ctx.securityContext = security at *
    cases security
    cases hciphering
    cases hintegrity
    cases hksi
    cases hdown
    cases hup
    cases hvalid
    rfl

/-- Without one it is all or nothing if the null algorithm lets the answer pass and that counts as protected,
or if another algorithm keeps it back and the context was the same before. -/
theorem Installs.atomic_iff (h : ctx.Installs command cipheringAlg integrityAlg)
    (hvectors : ctx.authContext.numVectors = 0) {IsProtected : NasMessage → Prop} {counts : Prop}
    (hprotected : ∀ message : NasMessage, ¬message.Tagged → (IsProtected message ↔ counts)) :
    ctx.Atomic IsProtected command
      ↔ integrityAlg = .nia0 ∧ counts
        ∨ integrityAlg ≠ .nia0
          ∧ ctx.securityContext.InForce cipheringAlg integrityAlg command.ngksiValue := by
  have houtcome := (h.clean_of_no_vector hvectors).outcome
  obtain ⟨hvalid, hciphering, hintegrity⟩ :=
    installed_algs ctx cipheringAlg integrityAlg command.ngksiValue
  rw [Atomic, houtcome, ← installed_eq_iff hvectors]
  by_cases hnull : integrityAlg = .nia0
  · subst hnull
    obtain ⟨sent, hanswer, huntagged, hsecurity⟩ := h.answer_of_nia0
    constructor
    · rintro ⟨ctx', answer, hcall, hend⟩
      rw [Option.some.inj hcall] at hanswer
      rcases hend with ⟨message, hok, hmessage, -⟩ | ⟨e, herror, -⟩
      · obtain rfl := Except.ok.inj (hok.symm.trans hanswer)
        exact .inl ⟨rfl, (hprotected _ huntagged).mp hmessage⟩
      · cases herror.symm.trans hanswer
    · rintro (⟨-, hcounts⟩ | ⟨hother, -⟩)
      · refine ⟨_, _, rfl, .inl ⟨sent, hanswer, (hprotected sent huntagged).mpr hcounts, ?_⟩⟩
        rw [hsecurity]
        exact ⟨hvalid, h.ciphering.trans (congrArg some hciphering.symm),
          h.integrity.trans (congrArg some hintegrity.symm)⟩
      · exact absurd rfl hother
  · obtain ⟨hanswer, hsecurity⟩ := h.answer_of_ne hnull
    constructor
    · rintro ⟨ctx', answer, hcall, hend⟩
      rw [Option.some.inj hcall] at hanswer hsecurity
      rcases hend with ⟨message, hok, -⟩ | ⟨e, -, hsame⟩
      · cases hok.symm.trans hanswer
      · exact .inr ⟨hnull, hsecurity.symm.trans hsame⟩
    · rintro (⟨hnull', -⟩ | ⟨-, hsame⟩)
      · exact absurd hnull' hnull
      · exact ⟨_, _, rfl, .inr ⟨_, hanswer, hsecurity.trans hsame⟩⟩

theorem atomic_of_not_installs
    (h : ∀ cipheringAlg integrityAlg, ¬ctx.Installs command cipheringAlg integrityAlg)
    (IsProtected : NasMessage → Prop) : ctx.Atomic IsProtected command := by
  obtain ⟨e, hcall⟩ := nasHandleSecurityModeCommand_of_not_installs h
  refine ⟨ctx, .error e, ?_, .inr ⟨e, rfl, rfl⟩⟩
  rw [hcall]
  rfl

theorem Installs.unique {cipheringAlg' : NasCipheringAlgorithm} {integrityAlg' : NasIntegrityAlgorithm}
    (h : ctx.Installs command cipheringAlg integrityAlg)
    (h' : ctx.Installs command cipheringAlg' integrityAlg') :
    cipheringAlg = cipheringAlg' ∧ integrityAlg = integrityAlg' :=
  ⟨Option.some.inj (h.ciphering.symm.trans h'.ciphering),
    Option.some.inj (h.integrity.symm.trans h'.integrity)⟩

theorem atomic_iff_forall {IsProtected : NasMessage → Prop}
    {Kept : NasCipheringAlgorithm → NasIntegrityAlgorithm → Prop}
    (hkept : ∀ cipheringAlg integrityAlg, ctx.Installs command cipheringAlg integrityAlg →
      ctx.authContext.numVectors = 0 → (ctx.Atomic IsProtected command ↔ Kept cipheringAlg integrityAlg)) :
    ctx.Atomic IsProtected command
      ↔ ∀ cipheringAlg integrityAlg, ctx.Installs command cipheringAlg integrityAlg →
        ctx.authContext.numVectors = 0 ∧ Kept cipheringAlg integrityAlg := by
  constructor
  · intro hatomic cipheringAlg integrityAlg h
    have hvectors : ctx.authContext.numVectors = 0 := by
      by_contra hvectors
      exact h.not_atomic_of_vector hvectors IsProtected hatomic
    exact ⟨hvectors, (hkept cipheringAlg integrityAlg h hvectors).mp hatomic⟩
  · intro hall
    by_cases hinstalls : ∃ cipheringAlg integrityAlg, ctx.Installs command cipheringAlg integrityAlg
    · obtain ⟨cipheringAlg, integrityAlg, h⟩ := hinstalls
      obtain ⟨hvectors, hgood⟩ := hall cipheringAlg integrityAlg h
      exact (hkept cipheringAlg integrityAlg h hvectors).mpr hgood
    · exact atomic_of_not_installs (fun cipheringAlg integrityAlg h =>
        hinstalls ⟨cipheringAlg, integrityAlg, h⟩) IsProtected

theorem Installs.atomic_protects_iff (h : ctx.Installs command cipheringAlg integrityAlg)
    (hvectors : ctx.authContext.numVectors = 0) :
    ctx.Atomic command.Protects command ↔ integrityAlg = .nia0
      ∨ ctx.securityContext.InForce cipheringAlg integrityAlg command.ngksiValue := by
  have hprotected : ∀ message : NasMessage, ¬message.Tagged →
      (command.Protects message ↔ integrityAlg = .nia0) := by
    intro message huntagged
    rw [NasSecurityModeCommand.Protects, or_iff_right huntagged, h.integrity, Option.some.injEq]
  rw [h.atomic_iff hvectors hprotected, and_self]
  by_cases hnull : integrityAlg = .nia0
  · exact iff_of_true (.inl hnull) (.inl hnull)
  · rw [or_iff_right hnull, or_iff_right hnull, and_iff_right hnull]

theorem Installs.atomic_tagged_iff (h : ctx.Installs command cipheringAlg integrityAlg)
    (hvectors : ctx.authContext.numVectors = 0) :
    ctx.Atomic NasMessage.Tagged command ↔ integrityAlg ≠ .nia0
      ∧ ctx.securityContext.InForce cipheringAlg integrityAlg command.ngksiValue := by
  have hprotected : ∀ message : NasMessage, ¬message.Tagged → (message.Tagged ↔ False) :=
    fun message huntagged => iff_false_intro huntagged
  rw [h.atomic_iff hvectors hprotected, and_false, false_or]

end NasAuthUeContext

/-- **A command is all or nothing exactly when it is refused at once, or when there is no vector and the null
algorithm is selected or the selected context is in force already.** If only a tag counts as protection, the
null algorithm does not do. -/
theorem nasHandleSecurityModeCommand_atomic_iff (ctx : NasAuthUeContext Session)
    (command : NasSecurityModeCommand) :
    (ctx.Atomic command.Protects command
        ↔ ∀ cipheringAlg integrityAlg, ctx.Installs command cipheringAlg integrityAlg →
          ctx.authContext.numVectors = 0 ∧ (integrityAlg = .nia0
            ∨ ctx.securityContext.InForce cipheringAlg integrityAlg command.ngksiValue))
      ∧ (ctx.Atomic NasMessage.Tagged command
        ↔ ∀ cipheringAlg integrityAlg, ctx.Installs command cipheringAlg integrityAlg →
          ctx.authContext.numVectors = 0 ∧ integrityAlg ≠ .nia0
            ∧ ctx.securityContext.InForce cipheringAlg integrityAlg command.ngksiValue) :=
  ⟨NasAuthUeContext.atomic_iff_forall fun _ _ h hvectors => h.atomic_protects_iff hvectors,
    NasAuthUeContext.atomic_iff_forall fun _ _ h hvectors => h.atomic_tagged_iff hvectors⟩

def nasActiveAuthUeContext : NasAuthUeContext Unit :=
  { nasCreateAuthUeContext (Vector.replicate nasMaxPduSessions ()) with active := true }

/-- A command for AES fails after it has put its context in force. And after a challenge a command for the null
algorithms does not come back. -/
theorem nasHandleSecurityModeCommand_not_atomic :
    ¬nasActiveAuthUeContext.Atomic (NasSecurityModeCommand.Protects ⟨2, 2, 0⟩) ⟨2, 2, 0⟩
      ∧ ¬(nasHandleAuthenticationRequest nasActiveAuthUeContext
          (List.replicate 33 0)).value.1.Atomic (NasSecurityModeCommand.Protects ⟨0, 0, 0⟩) ⟨0, 0, 0⟩ := by
  constructor
  · have h : nasActiveAuthUeContext.Installs ⟨2, 2, 0⟩ .nea2 .nia2 := ⟨rfl, rfl, rfl⟩
    rw [h.atomic_protects_iff rfl]
    rintro (hnull | hforce)
    · cases hnull
    · cases hforce.ciphering
  · have h : (nasHandleAuthenticationRequest nasActiveAuthUeContext
        (List.replicate 33 0)).value.1.Installs ⟨0, 0, 0⟩ .nea0 .nia0 := ⟨rfl, rfl, rfl⟩
    exact h.not_atomic_of_vector (by decide) _

end Uesim
