import Uesim.Nas.LockDiscipline
import Uesim.Nas.SecurityModeAtomicity

/-!
# Where the keys of a context come from

A challenge derives a master key, and the vector in which it is stored keeps the one it had. A later command
takes that one. So the keys that come into force are those of the challenge only where the two master keys
cannot be told apart by the derivation, which reads a byte of the key and the one seven places behind it.
-/

namespace Uesim

open Bytes

variable {Session : Type}

def nasRequestRes (authData : List Byte) : Vector Byte 16 :=
  nasChallengeRes (authData.getD 0 0 &&& 0x07) (nasField authData 1) (nasField authData 17)

def nasRequestKasme (authData : List Byte) : Vector Byte 32 :=
  nasChallengeKasme (nasField authData 1) (nasField authData 17) (nasRequestRes authData)

/-- The context has these algorithms, and the keys that are derived for them from a master key. -/
structure NasSecurityContext.KeyedBy (security : NasSecurityContext) (cipheringAlg : NasCipheringAlgorithm)
    (integrityAlg : NasIntegrityAlgorithm) (kasme : Vector Byte 32) : Prop where
  ciphering : security.cipheringAlg = cipheringAlg
  integrity : security.integrityAlg = integrityAlg
  keys : security.withKeys kasme = security

/-- Every byte of one master key differs from the other by what the byte seven places behind it differs,
rotated. -/
def NasKasmeAgree (kasme kasme' : Vector Byte 32) : Prop :=
  ∀ i < 16, nasRotate^[7] (cell kasme i ^^^ cell kasme' i) = cell kasme (i + 7) ^^^ cell kasme' (i + 7)

/-! ### The derivation -/

theorem cell_nasKdf (key : Vector Byte 32) (fc : Byte) (p0 p1 : List Byte) {i : Nat} (hi : i < 16) :
    cell (nasKdf key fc p0 p1) i
      = nasRotate^[(nasKdfInput fc p0 p1).length] (cell key i)
        ^^^ (nasChecksum (nasKdfInput fc p0 p1) ^^^ cell key (i + 7)) ^^^ (fc + BitVec.ofNat 8 i) := by
  have hfirst : i % 32 = i := Nat.mod_eq_of_lt (by omega)
  have hsecond : (i + 7) % 32 = i + 7 := Nat.mod_eq_of_lt (by omega)
  rw [cell_of_lt _ hi, nasKdf, Vector.getElem_ofFn, hfirst, hsecond, nasRotate_linear.fold_eq,
    BitVec.xor_assoc _ (XorFold.checksum nasRotate (nasKdfInput fc p0 p1))]
  rfl

/-- **Two master keys give the same key exactly when they agree so.** The parameters have one byte each. -/
theorem nasKdf_eq_iff {key key' : Vector Byte 32} (fc b0 b1 : Byte) :
    nasKdf key fc [b0] [b1] = nasKdf key' fc [b0] [b1] ↔ NasKasmeAgree key key' := by
  rw [vector_ext_cell, NasKasmeAgree]
  refine forall₂_congr fun i hi => ?_
  rw [cell_nasKdf key fc _ _ hi, cell_nasKdf key' fc _ _ hi, xor_xor_eq_iff, BitVec.xor_self,
    ← nasRotate_linear.iterate]
  have hlength : (nasKdfInput fc [b0] [b1]).length = 7 := rfl
  rw [hlength]
  exact Iff.of_eq (congrArg _ BitVec.zero_xor)

theorem NasSecurityContext.withKeys_eq_iff {security : NasSecurityContext} {kasme kasme' : Vector Byte 32} :
    security.withKeys kasme = security.withKeys kasme' ↔ NasKasmeAgree kasme kasme' := by
  constructor
  · intro h
    have hkey : nasKdf kasme 0x69 [0x03] [BitVec.ofNat 8 security.cipheringAlg.index.val]
        = nasKdf kasme' 0x69 [0x03] [BitVec.ofNat 8 security.cipheringAlg.index.val] :=
      congrArg NasSecurityContext.knasEnc h
    exact (nasKdf_eq_iff _ _ _).mp hkey
  · intro h
    rw [NasSecurityContext.withKeys, (nasKdf_eq_iff _ _ _).mpr h, (nasKdf_eq_iff _ _ _).mpr h]
    rfl

/-! ### What the calls do to the vector -/

/-- There is one vector, the first, and it has this master key. -/
structure NasAuthContext.Stores (auth : NasAuthContext) (kasme : Vector Byte 32) : Prop where
  single : auth.numVectors = 1
  first : auth.currentVector = 0
  stored : auth.vectors[0].kasme = kasme

namespace NasAuthContext

variable {auth : NasAuthContext} {kasme : Vector Byte 32}

theorem Stores.current_kasme (h : auth.Stores kasme) : auth.current.kasme = kasme := by
  have hcurrent : auth.current = auth.vectors[0] := by
    unfold current
    congr 1
    exact Fin.ext h.first
  rw [hcurrent, h.stored]

theorem challenged_stores (auth : NasAuthContext) (rand autn : Vector Byte 16) :
    (auth.challenged rand autn).Stores auth.vectors[0].kasme where
  single := rfl
  first := rfl
  stored := by
    rw [challenged]
    dsimp only
    rw [Vector.getElem_set_self]
    rfl

theorem Stores.accepted (h : auth.Stores kasme) : auth.accepted.Stores kasme where
  single := h.single
  first := by
    rw [NasAuthContext.accepted]
    dsimp only
    rw [h.single, if_neg (Nat.not_lt_zero _), h.first]
  stored := by
    rw [NasAuthContext.accepted]
    dsimp only
    rw [Vector.getElem_set]
    split
    · exact h.current_kasme
    · exact h.stored

theorem Stores.validate (h : auth.Stores kasme) {response : List Byte} {auth' : NasAuthContext}
    {result : Except UesimError Bool}
    (hcall : nasValidateAuthenticationResponse auth response = some (auth', result)) :
    auth'.Stores kasme := by
  unfold nasValidateAuthenticationResponse at hcall
  split at hcall
  · cases hcall
    exact h
  · split at hcall
    · cases hcall
      exact h
    · split at hcall
      · cases hcall
        exact h
      · obtain ⟨valid, -, heq⟩ := Option.map_eq_some_iff.mp hcall
        cases heq
        cases valid with
        | false => exact h
        | true => exact h.accepted

end NasAuthContext

section Calls

variable {ctx : NasAuthUeContext Session} {authData : List Byte} {kasme : Vector Byte 32}

theorem nasSendMessageCall_authContext (ctx : NasAuthUeContext Session) (message : NasMessage) :
    (nasSendMessageCall ctx message).value.1.authContext = ctx.authContext :=
  nasCount_value_of (f := fun ctx => ctx.authContext) (by intro; rfl) _

theorem nasProcessMessageCall_authContext (ctx : NasAuthUeContext Session) (message : NasMessage) :
    (nasProcessMessageCall ctx message).value.1.authContext = ctx.authContext :=
  nasCount_value_of (f := fun ctx => ctx.authContext) (by intro; rfl) _

theorem nasDeriveNasKeys_authContext (ctx : NasAuthUeContext Session) (kamf : Vector Byte 32) :
    (nasDeriveNasKeys ctx kamf).value.1.authContext = ctx.authContext := rfl

theorem nasSendAuthenticationResponse_authContext (ctx : NasAuthUeContext Session)
    (responseData : List Byte) :
    (nasSendAuthenticationResponse ctx responseData).value.1.authContext = ctx.authContext := by
  unfold nasSendAuthenticationResponse
  split
  · rfl
  · split
    · refine (nasCount_value_of (f := fun ctx => ctx.authContext) (by intro; rfl) _).trans ?_
      exact nasSendMessageCall_authContext ctx _
    · rfl

theorem nasSendSecurityModeComplete_authContext (ctx : NasAuthUeContext Session) :
    (nasSendSecurityModeComplete ctx).value.1.authContext = ctx.authContext := by
  unfold nasSendSecurityModeComplete
  split
  · refine (nasCount_value_of (f := fun ctx => ctx.authContext) (by intro; rfl) _).trans ?_
    exact nasSendMessageCall_authContext ctx _
  · rfl

theorem nasHandleSecurityModeCommand_authContext (ctx : NasAuthUeContext Session)
    (command : NasSecurityModeCommand) :
    (nasHandleSecurityModeCommand ctx command).value.1.authContext = ctx.authContext := by
  by_cases hinstalls : ∃ cipheringAlg integrityAlg, ctx.Installs command cipheringAlg integrityAlg
  · obtain ⟨cipheringAlg, integrityAlg, h⟩ := hinstalls
    rw [h.value_eq, nasSendSecurityModeComplete_authContext]
    rfl
  · obtain ⟨e, hcall⟩ := nasHandleSecurityModeCommand_of_not_installs fun cipheringAlg integrityAlg h =>
      hinstalls ⟨cipheringAlg, integrityAlg, h⟩
    rw [hcall]
    rfl

/-- The request is accepted: the context is active, and the challenge is all there. -/
def NasAuthUeContext.Accepts (ctx : NasAuthUeContext Session) (authData : List Byte) : Prop :=
  ctx.active = true ∧ 33 ≤ authData.length

theorem nasHandleAuthenticationRequest_of_not_accepts (h : ¬ctx.Accepts authData) :
    ∃ e, nasHandleAuthenticationRequest ctx authData = pure (ctx, .error e) := by
  unfold nasHandleAuthenticationRequest
  split
  · exact ⟨.invalidParam, rfl⟩
  · split
    · rename_i hactive
      rw [if_pos (by_contra fun hlong => h ⟨hactive, Nat.not_lt.mp hlong⟩)]
      exact ⟨.protocol, rfl⟩
    · exact ⟨.invalidParam, rfl⟩

/-- The context before the response is sent. -/
def NasAuthUeContext.challengedBy (ctx : NasAuthUeContext Session) (authData : List Byte) :
    NasAuthUeContext Session :=
  { ctx with
    authContext := ctx.authContext.challenged (nasField authData 1) (nasField authData 17)
    authenticationRequests := ctx.authenticationRequests + 1
    securityContext := ctx.securityContext.withChallengeKeys (authData.getD 0 0 &&& 0x07)
      (nasRequestKasme authData) }

theorem NasAuthUeContext.Accepts.value_eq (h : ctx.Accepts authData) :
    (nasHandleAuthenticationRequest ctx authData).value
      = (nasSendAuthenticationResponse (ctx.challengedBy authData) (nasRequestRes authData).toList).value := by
  have hne : authData ≠ [] := List.ne_nil_of_length_pos (Nat.lt_of_lt_of_le (by decide) h.2)
  unfold nasHandleAuthenticationRequest
  rw [if_neg hne, if_pos h.1, if_neg (Nat.not_lt.mpr h.2)]
  simp only [Locked.value_bind, NasAuthUeContext.challengedBy, nasRequestRes, nasRequestKasme]

theorem NasAuthUeContext.Accepts.authContext_eq (h : ctx.Accepts authData) :
    (nasHandleAuthenticationRequest ctx authData).value.1.authContext
      = ctx.authContext.challenged (nasField authData 1) (nasField authData 17) := by
  rw [h.value_eq, nasSendAuthenticationResponse_authContext]
  rfl

theorem nasProtect_ok_of_data (security : NasSecurityContext) {message : NasMessage} {data : List Byte}
    (hdata : message.messageData = some data) :
    ∃ sent, (nasProtect .uplink security message).2 = .ok sent := by
  unfold nasProtect nasIntegrityProtect
  rw [hdata]
  split
  · cases gCryptoOps security.integrityAlg.index <;> exact ⟨_, rfl⟩
  · exact ⟨_, rfl⟩

/-- **A challenge that is taken up is answered.** -/
theorem NasAuthUeContext.accepts_iff : ctx.Accepts authData
    ↔ ∃ message, (nasHandleAuthenticationRequest ctx authData).value.2 = .ok message := by
  constructor
  · intro h
    have hactive : (ctx.challengedBy authData).active = true := h.1
    have hne : (nasRequestRes authData).toList ≠ [] := by
      refine List.ne_nil_of_length_pos ?_
      rw [Vector.length_toList]
      decide
    have hdata : (nasCreateMessage 0x57 (nasRequestRes authData).toList).messageData
        = some (nasRequestRes authData).toList := by
      simp only [nasCreateMessage, hne, if_false]
    obtain ⟨sent, hsent⟩ := nasProtect_ok_of_data (ctx.challengedBy authData).securityContext hdata
    refine ⟨sent, ?_⟩
    rw [h.value_eq, nasSendAuthenticationResponse, if_neg hne, if_pos hactive, Locked.value_bind,
      nasCount_value_snd, nasSendMessageCall, nasCount_value_snd]
    exact (nasSendMessage_of_active hactive _).2.trans hsent
  · rintro ⟨message, hok⟩
    by_contra h
    obtain ⟨e, hcall⟩ := nasHandleAuthenticationRequest_of_not_accepts h
    rw [hcall] at hok
    cases hok

def NasAuthUeContext.NoChallenge (ctx : NasAuthUeContext Session) (call : NasSecurityCall) : Prop :=
  ∀ authData message, call = .handleAuthenticationRequest authData →
    (nasHandleAuthenticationRequest ctx authData).value.2 ≠ .ok message

/-- **Nothing but a challenge touches the vector.** -/
theorem nasSecurityStep_stores (h : ctx.authContext.Stores kasme) {call : NasSecurityCall}
    (hcall : ctx.NoChallenge call) : (nasSecurityStep ctx call).authContext.Stores kasme := by
  cases call with
  | activate => exact h
  | deactivate => exact h
  | handleAuthenticationRequest authData =>
      have hrefused : ¬ctx.Accepts authData := by
        rw [NasAuthUeContext.accepts_iff]
        rintro ⟨message, hok⟩
        exact hcall authData message rfl hok
      obtain ⟨e, hvalue⟩ := nasHandleAuthenticationRequest_of_not_accepts hrefused
      have hstep : nasSecurityStep ctx (.handleAuthenticationRequest authData) = ctx := by
        rw [nasSecurityStep, nasSecurityCall, hvalue]
        rfl
      rw [hstep]
      exact h
  | validateAuthenticationResponse response =>
      rw [nasSecurityStep, nasSecurityCall, Locked.value_pure]
      cases hvalidate : nasValidateAuthenticationResponse ctx.authContext response with
      | none => exact h
      | some answer => exact h.validate hvalidate
  | handleSecurityModeCommand command =>
      have hauth := nasHandleSecurityModeCommand_authContext ctx command
      exact hauth ▸ h
  | sendMessage message =>
      have hauth := nasSendMessageCall_authContext ctx message
      exact hauth ▸ h
  | processMessage message =>
      have hauth := nasProcessMessageCall_authContext ctx message
      exact hauth ▸ h
  | deriveNasKeys kamf =>
      have hauth := nasDeriveNasKeys_authContext ctx kamf
      exact hauth ▸ h

theorem nasSecurityRun_stores (h : ctx.authContext.Stores kasme) {calls : List NasSecurityCall}
    (hcalls : Runs.Always nasSecurityStep NasAuthUeContext.NoChallenge ctx calls) :
    (calls.foldl nasSecurityStep ctx).authContext.Stores kasme := by
  induction calls generalizing ctx with
  | nil => exact h
  | cons call calls ih => exact ih (nasSecurityStep_stores h hcalls.1) hcalls.2

/-- A command puts the keys of the stored master key in force, and sending the answer keeps them. -/
theorem NasAuthUeContext.Installs.keyedBy_iff {command : NasSecurityModeCommand}
    {cipheringAlg : NasCipheringAlgorithm} {integrityAlg : NasIntegrityAlgorithm}
    (h : ctx.Installs command cipheringAlg integrityAlg) (hstores : ctx.authContext.Stores kasme)
    (kasme' : Vector Byte 32) :
    (nasHandleSecurityModeCommand ctx command).value.1.securityContext.KeyedBy cipheringAlg integrityAlg
        kasme'
      ↔ NasKasmeAgree kasme kasme' := by
  have hvectors : 0 < ctx.authContext.numVectors := by
    rw [hstores.single]
    exact Nat.one_pos
  -- Nothing is counted for a message without data.
  have hsent : (nasHandleSecurityModeCommand ctx command).value.1.securityContext
      = ctx.installed cipheringAlg integrityAlg command.ngksiValue := by
    rw [h.value_eq_protect.1, nasProtect_fst]
    exact if_neg fun hcounted => hcounted.2.2 rfl
  obtain ⟨security, hinstalled, hciphering, hintegrity⟩ : ∃ security : NasSecurityContext,
      ctx.installed cipheringAlg integrityAlg command.ngksiValue = security.withKeys kasme
        ∧ security.cipheringAlg = cipheringAlg ∧ security.integrityAlg = integrityAlg := by
    refine ⟨{ ctx.securityContext.selected cipheringAlg integrityAlg command.ngksiValue with
      downlinkCount := 0
      uplinkCount := 0
      securityContextValid := true }, ?_, rfl, rfl⟩
    rw [NasAuthUeContext.installed, if_pos hvectors, hstores.current_kasme]
    rfl
  rw [hsent, hinstalled]
  constructor
  · intro hkeyed
    have hkeys : security.withKeys kasme' = security.withKeys kasme := hkeyed.keys
    exact NasSecurityContext.withKeys_eq_iff.mp hkeys.symm
  · intro hagree
    have hkeys : security.withKeys kasme = security.withKeys kasme' :=
      NasSecurityContext.withKeys_eq_iff.mpr hagree
    exact ⟨hciphering, hintegrity, hkeys.symm⟩

end Calls

/-- **The keys in force belong to the challenge exactly when the master key that the first vector had before
agrees with the one of the challenge.** Between the challenge and the command there may be any calls but
another challenge. -/
theorem nasKeys_of_challenge_iff {ctx : NasAuthUeContext Session} {authData : List Byte}
    {message : NasMessage} {calls : List NasSecurityCall} {command : NasSecurityModeCommand}
    {cipheringAlg : NasCipheringAlgorithm} {integrityAlg : NasIntegrityAlgorithm}
    (haccepts : (nasHandleAuthenticationRequest ctx authData).value.2 = .ok message)
    (hcalls : Runs.Always nasSecurityStep NasAuthUeContext.NoChallenge
      (nasHandleAuthenticationRequest ctx authData).value.1 calls)
    (hinstalls : (calls.foldl nasSecurityStep (nasHandleAuthenticationRequest ctx authData).value.1).Installs
      command cipheringAlg integrityAlg) :
    (nasHandleSecurityModeCommand (calls.foldl nasSecurityStep
          (nasHandleAuthenticationRequest ctx authData).value.1) command).value.1.securityContext.KeyedBy
        cipheringAlg integrityAlg (nasRequestKasme authData)
      ↔ NasKasmeAgree ctx.authContext.vectors[0].kasme (nasRequestKasme authData) := by
  have haccepted : ctx.Accepts authData := NasAuthUeContext.accepts_iff.mpr ⟨message, haccepts⟩
  have hstores : (nasHandleAuthenticationRequest ctx authData).value.1.authContext.Stores
      ctx.authContext.vectors[0].kasme := by
    rw [haccepted.authContext_eq]
    exact ctx.authContext.challenged_stores _ _
  exact hinstalls.keyedBy_iff (nasSecurityRun_stores hstores hcalls) _

/-- RAND and AUTN count up from zero, so that the master key is zero, as the one before. -/
def nasCountingChallenge : List Byte :=
  0 :: ((List.range 16).map (BitVec.ofNat 8) ++ (List.range 16).map (BitVec.ofNat 8))

/-- A challenge with the master key that was there before, a message in between, and a command for AES. -/
theorem nasKeys_of_challenge_counting :
    let challenged := (nasHandleAuthenticationRequest nasActiveAuthUeContext nasCountingChallenge).value.1
    let calls : List NasSecurityCall := [.sendMessage (nasCreateMessage 0x4c [1])]
    (nasHandleSecurityModeCommand (calls.foldl nasSecurityStep challenged)
      ⟨2, 2, 0⟩).value.1.securityContext.KeyedBy .nea2 .nia2 (nasRequestKasme nasCountingChallenge) := by
  intro challenged calls
  have haccepts : nasActiveAuthUeContext.Accepts nasCountingChallenge := ⟨rfl, by decide⟩
  obtain ⟨message, hok⟩ := NasAuthUeContext.accepts_iff.mp haccepts
  have hcalls : Runs.Always nasSecurityStep NasAuthUeContext.NoChallenge challenged calls := by
    refine ⟨fun authData message hcall => ?_, trivial⟩
    cases hcall
  have hinstalls : (calls.foldl nasSecurityStep challenged).Installs ⟨2, 2, 0⟩ .nea2 .nia2 :=
    ⟨rfl, rfl, rfl⟩
  have hagree : NasKasmeAgree nasActiveAuthUeContext.authContext.vectors[0].kasme
      (nasRequestKasme nasCountingChallenge) := by
    unfold NasKasmeAgree
    decide
  exact (nasKeys_of_challenge_iff hok hcalls hinstalls).mpr hagree

/-- The keys after a challenge of zeros and a command come from a master key of zeros, and not from that of the
challenge. -/
theorem nasKeys_not_of_challenge :
    ¬(nasHandleSecurityModeCommand (nasHandleAuthenticationRequest nasActiveAuthUeContext
        (List.replicate 33 0)).value.1 ⟨2, 2, 0⟩).value.1.securityContext.KeyedBy .nea2 .nia2
      (nasRequestKasme (List.replicate 33 0)) := by
  intro h
  exact absurd h.keys (by decide +kernel)

end Uesim
