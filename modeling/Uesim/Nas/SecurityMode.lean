import Uesim.Nas.Security
import Uesim.Nas.Authentication
import Uesim.Library.Locks

/-!
# Authentication and security mode of a UE

The handlers of the two procedures, with the mutexes that they take. An authentication request leaves a
challenge in the first vector and keys in the security context; a security mode command takes the keys from
the current vector and answers under the new context.
-/

namespace Uesim

open Bytes

/-- The mutex of the context, which guards its counters, and that of its security context. -/
inductive NasMutex where
  | nas
  | security
  deriving DecidableEq, Repr

structure NasAuthUeContext (Session : Type) extends NasUeContext Session where
  authContext : NasAuthContext
  authenticationRequests : BitVec 64
  authenticationResponses : BitVec 64
  securityModeCommands : BitVec 64
  securityModeCompletes : BitVec 64
  securityActive : Bool
  deriving DecidableEq

/-- The selected algorithms are any values that the field can hold. -/
structure NasSecurityModeCommand where
  selectedNasSecurityAlgorithms : Word
  selectedNasIntegrityAlgorithm : Word
  ngksiValue : Byte
  deriving DecidableEq

variable {Session : Type}

/-- A context as it is created, with nothing in its authentication part. -/
def nasCreateAuthUeContext (pduSessions : Vector Session nasMaxPduSessions) : NasAuthUeContext Session where
  toNasUeContext := nasCreateUeContext pduSessions
  authContext := .zero
  authenticationRequests := 0
  authenticationResponses := 0
  securityModeCommands := 0
  securityModeCompletes := 0
  securityActive := false

abbrev NasAnswer (Session α : Type) := NasAuthUeContext Session × Except UesimError α

/-! ### Sending and receiving -/

/-- How the functions end: what went well is counted, under the mutex of the context. -/
def nasCount {α : Type} (count : NasAuthUeContext Session → NasAuthUeContext Session) :
    NasAnswer Session α → Locked NasMutex (NasAnswer Session α)
  | (ctx, .error e) => return (ctx, .error e)
  | (ctx, .ok a) => do
      Locked.lock .nas
      let ctx := count ctx
      Locked.unlock .nas
      return (ctx, .ok a)

/-- `nas_send_message` with its mutex. The counter is that of the context without keys. -/
def nasSendMessageCall (ctx : NasAuthUeContext Session) (message : NasMessage) :
    Locked NasMutex (NasAnswer Session NasMessage) :=
  let sent := nasSendMessage ctx.toNasUeContext message
  nasCount id ({ ctx with toNasUeContext := sent.1 }, sent.2)

/-- `nas_process_message` with its mutex. -/
def nasProcessMessageCall (ctx : NasAuthUeContext Session) (message : NasMessage) :
    Locked NasMutex (NasAnswer Session NasMessage) :=
  let processed := nasProcessMessage ctx.toNasUeContext message
  nasCount id ({ ctx with toNasUeContext := processed.1 }, processed.2)

/-! ### Keys -/

/-- The input of the derivation: the function code, and each parameter that is there with its length. -/
def nasKdfInput (fc : Byte) (p0 p1 : List Byte) : List Byte :=
  let part (p : List Byte) : List Byte :=
    if p = [] then [] else p ++ [BitVec.ofNat 8 (p.length >>> 8), BitVec.ofNat 8 p.length]
  fc :: part p0 ++ part p1

@[irreducible]
def nasKdf (key : Vector Byte 32) (fc : Byte) (p0 p1 : List Byte) : Vector Byte 16 :=
  Vector.ofFn fun i =>
    XorFold.fold nasRotate (cell key (i.val % 32)) (nasKdfInput fc p0 p1)
      ^^^ cell key ((i.val + 7) % 32) ^^^ (fc + BitVec.ofNat 8 i.val)

/-- The keys for the selected algorithms, with their distinguishers 3 and 4. -/
def NasSecurityContext.withKeys (ctx : NasSecurityContext) (kamf : Vector Byte 32) : NasSecurityContext :=
  { ctx with
    knasEnc := nasKdf kamf 0x69 [0x03] [BitVec.ofNat 8 ctx.cipheringAlg.index.val]
    knasInt := nasKdf kamf 0x69 [0x04] [BitVec.ofNat 8 ctx.integrityAlg.index.val] }

def nasDeriveNasKeys (ctx : NasAuthUeContext Session) (kamf : Vector Byte 32) :
    Locked NasMutex (NasAnswer Session Unit) := do
  Locked.lock .security
  let ctx := { ctx with securityContext := ctx.securityContext.withKeys kamf }
  Locked.unlock .security
  return (ctx, .ok ())

/-! ### Authentication -/

/-- What comes back is the message that the lower layers are handed. -/
def nasSendAuthenticationResponse (ctx : NasAuthUeContext Session) (responseData : List Byte) :
    Locked NasMutex (NasAnswer Session NasMessage) :=
  if responseData = [] then return (ctx, .error .invalidParam)
  else if ctx.active then do
    let sent ← nasSendMessageCall ctx (nasCreateMessage 0x57 responseData)
    nasCount (fun ctx => { ctx with authenticationResponses := ctx.authenticationResponses + 1 }) sent
  else return (ctx, .error .invalidParam)

/-- The challenge goes to the first vector, which is the only one from then on. Its master key stays what it
was. -/
def NasAuthContext.challenged (ctx : NasAuthContext) (rand autn : Vector Byte 16) : NasAuthContext :=
  { ctx with
    authType := some .fiveGAka
    vectors := ctx.vectors.set 0
      { ctx.vectors.get ⟨0, nasMaxAuthenticationVector_pos⟩ with
        rand := rand
        autn := autn
        used := false } nasMaxAuthenticationVector_pos
    numVectors := 1
    currentVector := 0
    numVectors_le := nasMaxAuthenticationVector_pos
    currentVector_lt := nasMaxAuthenticationVector_pos }

def nasChallengeRes (ksi : Byte) (rand autn : Vector Byte 16) : Vector Byte 16 :=
  Vector.ofFn fun i => cell rand i.val ^^^ cell autn i.val ^^^ (ksi + BitVec.ofNat 8 i.val)

def nasChallengeKasme (rand autn res : Vector Byte 16) : Vector Byte 32 :=
  Vector.ofFn fun i =>
    if i.val < 16 then cell rand i.val ^^^ cell res i.val
    else cell autn (i.val - 16) ^^^ cell res (i.val - 16)

/-- The keys that a challenge leaves until a command comes: each half of the master key under a mask. -/
def NasSecurityContext.withChallengeKeys (security : NasSecurityContext) (ksi : Byte)
    (kasme : Vector Byte 32) : NasSecurityContext :=
  { security with
    knasEnc := Vector.ofFn fun i => cell kasme i.val ^^^ 0xAA
    knasInt := Vector.ofFn fun i => cell kasme (i.val + 16) ^^^ 0x55
    ksi := ksi }

def nasField (data : List Byte) (start : Nat) : Vector Byte 16 :=
  Vector.ofFn fun i => data.getD (start + i.val) 0

def nasHandleAuthenticationRequest (ctx : NasAuthUeContext Session) (authData : List Byte) :
    Locked NasMutex (NasAnswer Session NasMessage) :=
  if authData = [] then return (ctx, .error .invalidParam)
  else if ctx.active then
    if authData.length < 33 then return (ctx, .error .protocol)
    else do
      let ksi := authData.getD 0 0 &&& 0x07
      let rand := nasField authData 1
      let autn := nasField authData 17
      Locked.lock .nas
      let ctx := { ctx with
        authContext := ctx.authContext.challenged rand autn
        authenticationRequests := ctx.authenticationRequests + 1 }
      Locked.unlock .nas
      let res := nasChallengeRes ksi rand autn
      let kasme := nasChallengeKasme rand autn res
      Locked.lock .security
      let ctx := { ctx with securityContext := ctx.securityContext.withChallengeKeys ksi kasme }
      Locked.unlock .security
      nasSendAuthenticationResponse ctx res.toList
  else return (ctx, .error .invalidParam)

/-! ### Security mode -/

/-- The message has no data. -/
def nasSendSecurityModeComplete (ctx : NasAuthUeContext Session) :
    Locked NasMutex (NasAnswer Session NasMessage) :=
  if ctx.active then do
    let sent ← nasSendMessageCall ctx (nasCreateMessage 0x5f [])
    nasCount (fun ctx => { ctx with securityModeCompletes := ctx.securityModeCompletes + 1 }) sent
  else return (ctx, .error .invalidParam)

def nasCipheringAlgorithmOf (number : Word) : Option NasCipheringAlgorithm :=
  match number.toNat with
  | 0 => some .nea0
  | 1 => some .nea1
  | 2 => some .nea2
  | 3 => some .nea3
  | _ => none

def nasIntegrityAlgorithmOf (number : Word) : Option NasIntegrityAlgorithm :=
  match number.toNat with
  | 0 => some .nia0
  | 1 => some .nia1
  | 2 => some .nia2
  | 3 => some .nia3
  | _ => none

def nasHandleSecurityModeCommand (ctx : NasAuthUeContext Session) (command : NasSecurityModeCommand) :
    Locked NasMutex (NasAnswer Session NasMessage) :=
  if ctx.active then
    match nasCipheringAlgorithmOf command.selectedNasSecurityAlgorithms,
        nasIntegrityAlgorithmOf command.selectedNasIntegrityAlgorithm with
    | some cipheringAlg, some integrityAlg => do
        Locked.lock .security
        let ctx := { ctx with securityContext := { ctx.securityContext with
          cipheringAlg := cipheringAlg
          integrityAlg := integrityAlg
          ksi := command.ngksiValue } }
        -- the function takes the mutex that is held here
        let ctx ← if 0 < ctx.authContext.numVectors then do
            let (ctx, _) ← nasDeriveNasKeys ctx ctx.authContext.current.kasme
            pure ctx
          else pure ctx
        let ctx := { ctx with securityContext := { ctx.securityContext with
          downlinkCount := 0
          uplinkCount := 0
          securityContextValid := true } }
        Locked.unlock .security
        Locked.lock .nas
        let ctx := { ctx with
          securityModeCommands := ctx.securityModeCommands + 1
          securityActive := true }
        Locked.unlock .nas
        nasSendSecurityModeComplete ctx
    | _, _ => return (ctx, .error .protocol)
  else return (ctx, .error .invalidParam)

/-! ### The logs -/

section Logs

variable {held : Finset NasMutex}

theorem nasCount_clean {α : Type} (hheld : .nas ∉ held)
    (count : NasAuthUeContext Session → NasAuthUeContext Session) (answer : NasAnswer Session α) :
    (nasCount count answer).Clean held := by
  obtain ⟨ctx, result⟩ := answer
  cases result with
  | error e => exact Locked.clean_pure held _
  | ok a => exact Locked.after_lock_unlock hheld []

theorem nasSendMessageCall_clean (hheld : .nas ∉ held) (ctx : NasAuthUeContext Session)
    (message : NasMessage) : (nasSendMessageCall ctx message).Clean held :=
  nasCount_clean hheld _ _

theorem nasProcessMessageCall_clean (hheld : .nas ∉ held) (ctx : NasAuthUeContext Session)
    (message : NasMessage) : (nasProcessMessageCall ctx message).Clean held :=
  nasCount_clean hheld _ _

theorem nasDeriveNasKeys_clean (hheld : .security ∉ held) (ctx : NasAuthUeContext Session)
    (kamf : Vector Byte 32) : (nasDeriveNasKeys ctx kamf).Clean held :=
  Locked.after_lock_unlock hheld []

theorem nasSendAuthenticationResponse_clean (hheld : .nas ∉ held) (ctx : NasAuthUeContext Session)
    (responseData : List Byte) : (nasSendAuthenticationResponse ctx responseData).Clean held := by
  unfold nasSendAuthenticationResponse
  split
  · exact Locked.clean_pure held _
  · split
    · exact (nasSendMessageCall_clean hheld ctx _).bind (nasCount_clean hheld _ _)
    · exact Locked.clean_pure held _

theorem nasSendSecurityModeComplete_clean (hheld : .nas ∉ held) (ctx : NasAuthUeContext Session) :
    (nasSendSecurityModeComplete ctx).Clean held := by
  unfold nasSendSecurityModeComplete
  split
  · exact (nasSendMessageCall_clean hheld ctx _).bind (nasCount_clean hheld _ _)
  · exact Locked.clean_pure held _

theorem nasHandleAuthenticationRequest_clean (hnas : .nas ∉ held) (hsecurity : .security ∉ held)
    (ctx : NasAuthUeContext Session) (authData : List Byte) :
    (nasHandleAuthenticationRequest ctx authData).Clean held := by
  unfold nasHandleAuthenticationRequest
  split
  · exact Locked.clean_pure held _
  · split
    · split
      · exact Locked.clean_pure held _
      · refine (Locked.after_lock_unlock hnas _).trans ?_
        refine (Locked.after_lock_unlock hsecurity _).trans ?_
        exact nasSendAuthenticationResponse_clean hnas _ _
    · exact Locked.clean_pure held _

end Logs

/-! ### What sending leaves -/

section Sending

theorem nasCount_value_of {α β : Type} {count : NasAuthUeContext Session → NasAuthUeContext Session}
    {f : NasAuthUeContext Session → β} (hf : ∀ ctx, f (count ctx) = f ctx) (answer : NasAnswer Session α) :
    f (nasCount count answer).value.1 = f answer.1 := by
  obtain ⟨ctx, result⟩ := answer
  cases result with
  | error e => rfl
  | ok a => exact hf ctx

@[simp]
theorem nasCount_value_snd {α : Type} (count : NasAuthUeContext Session → NasAuthUeContext Session)
    (answer : NasAnswer Session α) : (nasCount count answer).value.2 = answer.2 := by
  obtain ⟨ctx, result⟩ := answer
  cases result <;> rfl

theorem nasSendMessage_of_active {ueCtx : NasUeContext Session} (hactive : ueCtx.active = true)
    (message : NasMessage) :
    (nasSendMessage ueCtx message).1.securityContext
        = (nasProtect .uplink ueCtx.securityContext message).1
      ∧ (nasSendMessage ueCtx message).2 = (nasProtect .uplink ueCtx.securityContext message).2 := by
  rw [nasSendMessage, if_pos hactive]
  rcases nasProtect .uplink ueCtx.securityContext message with ⟨security, e | sent⟩ <;> exact ⟨rfl, rfl⟩

theorem nasSendSecurityModeComplete_value {ctx : NasAuthUeContext Session} (hactive : ctx.active = true) :
    (nasSendSecurityModeComplete ctx).value.1.securityContext
        = (nasProtect .uplink ctx.securityContext (nasCreateMessage 0x5f [])).1
      ∧ (nasSendSecurityModeComplete ctx).value.2
        = (nasProtect .uplink ctx.securityContext (nasCreateMessage 0x5f [])).2 := by
  obtain ⟨hsecurity, hresult⟩ := nasSendMessage_of_active hactive (nasCreateMessage 0x5f [])
  rw [nasSendSecurityModeComplete, if_pos hactive, Locked.value_bind, ← hsecurity, ← hresult]
  constructor
  · refine (nasCount_value_of (f := fun ctx => ctx.securityContext) (by intro; rfl) _).trans ?_
    exact nasCount_value_of (f := fun ctx => ctx.securityContext) (by intro; rfl) _
  · rw [nasCount_value_snd]
    exact nasCount_value_snd _ _

end Sending

/-! ### The command -/

section Command

variable {ctx : NasAuthUeContext Session} {command : NasSecurityModeCommand}
  {cipheringAlg : NasCipheringAlgorithm} {integrityAlg : NasIntegrityAlgorithm}

def NasSecurityContext.selected (security : NasSecurityContext) (cipheringAlg : NasCipheringAlgorithm)
    (integrityAlg : NasIntegrityAlgorithm) (ksi : Byte) : NasSecurityContext :=
  { security with
    cipheringAlg := cipheringAlg
    integrityAlg := integrityAlg
    ksi := ksi }

/-- The context that is put in force: with new keys, if there is a vector, and with both counts at zero. -/
def NasAuthUeContext.installed (ctx : NasAuthUeContext Session) (cipheringAlg : NasCipheringAlgorithm)
    (integrityAlg : NasIntegrityAlgorithm) (ksi : Byte) : NasSecurityContext :=
  let selected := ctx.securityContext.selected cipheringAlg integrityAlg ksi
  { (if 0 < ctx.authContext.numVectors then selected.withKeys ctx.authContext.current.kasme
      else selected) with
    downlinkCount := 0
    uplinkCount := 0
    securityContextValid := true }

/-- The whole context before the answer is sent. -/
def NasAuthUeContext.install (ctx : NasAuthUeContext Session) (cipheringAlg : NasCipheringAlgorithm)
    (integrityAlg : NasIntegrityAlgorithm) (ksi : Byte) : NasAuthUeContext Session :=
  { ctx with
    securityContext := ctx.installed cipheringAlg integrityAlg ksi
    securityModeCommands := ctx.securityModeCommands + 1
    securityActive := true }

/-- The command puts a context in force for these algorithms. -/
structure NasAuthUeContext.Installs (ctx : NasAuthUeContext Session) (command : NasSecurityModeCommand)
    (cipheringAlg : NasCipheringAlgorithm) (integrityAlg : NasIntegrityAlgorithm) : Prop where
  active : ctx.active = true
  ciphering : nasCipheringAlgorithmOf command.selectedNasSecurityAlgorithms = some cipheringAlg
  integrity : nasIntegrityAlgorithmOf command.selectedNasIntegrityAlgorithm = some integrityAlg

theorem NasAuthUeContext.Installs.value_eq (h : ctx.Installs command cipheringAlg integrityAlg) :
    (nasHandleSecurityModeCommand ctx command).value
      = (nasSendSecurityModeComplete (ctx.install cipheringAlg integrityAlg command.ngksiValue)).value := by
  unfold nasHandleSecurityModeCommand
  rw [if_pos h.active, h.ciphering, h.integrity, NasAuthUeContext.install, NasAuthUeContext.installed]
  by_cases hvectors : 0 < ctx.authContext.numVectors
  · simp only [hvectors, if_true]
    rfl
  · simp only [hvectors, if_false]
    rfl

theorem NasAuthUeContext.Installs.log_of_vector (h : ctx.Installs command cipheringAlg integrityAlg)
    (hvectors : 0 < ctx.authContext.numVectors) :
    ∃ rest, (nasHandleSecurityModeCommand ctx command).log
      = .lock .security :: .lock .security :: rest := by
  unfold nasHandleSecurityModeCommand
  rw [if_pos h.active, h.ciphering, h.integrity]
  simp only [hvectors, if_true]
  exact ⟨_, rfl⟩

theorem NasAuthUeContext.Installs.clean_of_no_vector (h : ctx.Installs command cipheringAlg integrityAlg)
    (hvectors : ctx.authContext.numVectors = 0) :
    (nasHandleSecurityModeCommand ctx command).Clean ∅ := by
  unfold nasHandleSecurityModeCommand
  rw [if_pos h.active, h.ciphering, h.integrity]
  simp only [hvectors, Nat.lt_irrefl, if_false]
  refine (Locked.after_lock_unlock (Finset.notMem_empty _) _).trans ?_
  refine (Locked.after_lock_unlock (Finset.notMem_empty _) _).trans ?_
  exact nasSendSecurityModeComplete_clean (Finset.notMem_empty _) _

theorem nasHandleSecurityModeCommand_of_not_installs
    (h : ∀ cipheringAlg integrityAlg, ¬ctx.Installs command cipheringAlg integrityAlg) :
    ∃ e, nasHandleSecurityModeCommand ctx command = pure (ctx, .error e) := by
  unfold nasHandleSecurityModeCommand
  by_cases hactive : ctx.active = true
  · rw [if_pos hactive]
    cases hciphering : nasCipheringAlgorithmOf command.selectedNasSecurityAlgorithms with
    | none => exact ⟨.protocol, rfl⟩
    | some cipheringAlg =>
        cases hintegrity : nasIntegrityAlgorithmOf command.selectedNasIntegrityAlgorithm with
        | none => exact ⟨.protocol, rfl⟩
        | some integrityAlg => exact absurd ⟨hactive, hciphering, hintegrity⟩ (h cipheringAlg integrityAlg)
  · rw [if_neg hactive]
    exact ⟨.invalidParam, rfl⟩

/-- **The handler of a command is clean exactly if it installs nothing or there is no vector.** -/
theorem nasHandleSecurityModeCommand_clean_iff :
    (nasHandleSecurityModeCommand ctx command).Clean ∅
      ↔ ∀ cipheringAlg integrityAlg, ctx.Installs command cipheringAlg integrityAlg →
        ctx.authContext.numVectors = 0 := by
  constructor
  · intro hclean cipheringAlg integrityAlg h
    by_contra hvectors
    obtain ⟨rest, hlog⟩ := h.log_of_vector (Nat.pos_of_ne_zero hvectors)
    have hstop : Locked.after ∅ (nasHandleSecurityModeCommand ctx command).log = none := by
      rw [hlog]
      exact (Locked.after_lock (Finset.notMem_empty _) _).trans
        (Locked.after_lock_of_mem (Finset.mem_insert_self _ _) _)
    rw [Locked.Clean, hstop] at hclean
    cases hclean
  · intro hnone
    by_cases hinstalls : ∃ cipheringAlg integrityAlg, ctx.Installs command cipheringAlg integrityAlg
    · obtain ⟨cipheringAlg, integrityAlg, h⟩ := hinstalls
      exact h.clean_of_no_vector (hnone cipheringAlg integrityAlg h)
    · obtain ⟨e, hcall⟩ := nasHandleSecurityModeCommand_of_not_installs fun cipheringAlg integrityAlg h =>
        hinstalls ⟨cipheringAlg, integrityAlg, h⟩
      rw [hcall]
      exact Locked.clean_pure ∅ _

end Command

end Uesim
