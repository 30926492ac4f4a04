import Uesim.Nas.SecurityMode
import Uesim.Library.Runs

/-!
# Which calls take a mutex twice

Every function takes its mutexes one after the other and gives each back before it takes the next one, but
for the security mode command: it derives keys while it holds the mutex that the derivation takes. So a run
comes back from all of its calls as long as no command is accepted while there is a vector.
-/

namespace Uesim

open Bytes

variable {Session : Type}

inductive NasSecurityCall where
  | activate
  | deactivate
  | handleAuthenticationRequest (authData : List Byte)
  | validateAuthenticationResponse (response : List Byte)
  | handleSecurityModeCommand (command : NasSecurityModeCommand)
  | sendMessage (message : NasMessage)
  | processMessage (message : NasMessage)
  | deriveNasKeys (kamf : Vector Byte 32)

/-- `nas_activate_ue_context` and `nas_deactivate_ue_context`. -/
def nasSetActive (ctx : NasAuthUeContext Session) (active : Bool) :
    Locked NasMutex (NasAuthUeContext Session) := do
  Locked.lock .nas
  let ctx := { ctx with active := active }
  Locked.unlock .nas
  return ctx

/-- The context that a call leaves. A validation that does not end leaves it as it is. -/
def nasSecurityCall (ctx : NasAuthUeContext Session) :
    NasSecurityCall → Locked NasMutex (NasAuthUeContext Session)
  | .activate => nasSetActive ctx true
  | .deactivate => nasSetActive ctx false
  | .handleAuthenticationRequest authData => do return (← nasHandleAuthenticationRequest ctx authData).1
  | .validateAuthenticationResponse response =>
      return match nasValidateAuthenticationResponse ctx.authContext response with
        | some (authContext, _) => { ctx with authContext := authContext }
        | none => ctx
  | .handleSecurityModeCommand command => do return (← nasHandleSecurityModeCommand ctx command).1
  | .sendMessage message => do return (← nasSendMessageCall ctx message).1
  | .processMessage message => do return (← nasProcessMessageCall ctx message).1
  | .deriveNasKeys kamf => do return (← nasDeriveNasKeys ctx kamf).1

/-- The context after a call, if every mutex is granted. -/
def nasSecurityStep (ctx : NasAuthUeContext Session) (call : NasSecurityCall) : NasAuthUeContext Session :=
  (nasSecurityCall ctx call).value

namespace NasAuthUeContext

variable {ctx : NasAuthUeContext Session}

/-- The call takes no mutex that it holds, and holds none when it comes back. -/
def CleanCall (ctx : NasAuthUeContext Session) (call : NasSecurityCall) : Prop :=
  (nasSecurityCall ctx call).Clean ∅

def NoVectorAtCommand (ctx : NasAuthUeContext Session) : NasSecurityCall → Prop
  | .handleSecurityModeCommand command => ∀ cipheringAlg integrityAlg,
      ctx.Installs command cipheringAlg integrityAlg → ctx.authContext.numVectors = 0
  | _ => True

theorem clean_fst_iff {α : Type} (x : Locked NasMutex (NasAnswer Session α)) :
    (do return (← x).1 : Locked NasMutex (NasAuthUeContext Session)).Clean ∅ ↔ x.Clean ∅ := by
  have hlog : (do return (← x).1 : Locked NasMutex (NasAuthUeContext Session)).log = x.log :=
    List.append_nil _
  rw [Locked.Clean, hlog]
  rfl

/-- **One call is clean exactly if it is not a command that is accepted with a vector.** -/
theorem cleanCall_iff (call : NasSecurityCall) : ctx.CleanCall call ↔ ctx.NoVectorAtCommand call := by
  have hnone : ∀ m : NasMutex, m ∉ (∅ : Finset NasMutex) := Finset.notMem_empty
  cases call with
  | activate => exact iff_of_true (Locked.after_lock_unlock (hnone _) []) trivial
  | deactivate => exact iff_of_true (Locked.after_lock_unlock (hnone _) []) trivial
  | handleAuthenticationRequest authData =>
      refine iff_of_true ((clean_fst_iff _).mpr ?_) trivial
      exact nasHandleAuthenticationRequest_clean (hnone _) (hnone _) ctx authData
  | validateAuthenticationResponse response => exact iff_of_true (Locked.clean_pure ∅ _) trivial
  | handleSecurityModeCommand command =>
      exact (clean_fst_iff _).trans nasHandleSecurityModeCommand_clean_iff
  | sendMessage message =>
      exact iff_of_true ((clean_fst_iff _).mpr (nasSendMessageCall_clean (hnone _) ctx message)) trivial
  | processMessage message =>
      exact iff_of_true ((clean_fst_iff _).mpr (nasProcessMessageCall_clean (hnone _) ctx message)) trivial
  | deriveNasKeys kamf =>
      exact iff_of_true ((clean_fst_iff _).mpr (nasDeriveNasKeys_clean (hnone _) ctx kamf)) trivial

end NasAuthUeContext

/-- **All calls of a run are clean exactly when every command that is accepted finds no vector.** -/
theorem nasCalls_clean_iff (ctx : NasAuthUeContext Session) (calls : List NasSecurityCall) :
    Runs.Always nasSecurityStep NasAuthUeContext.CleanCall ctx calls
      ↔ Runs.Always nasSecurityStep NasAuthUeContext.NoVectorAtCommand ctx calls := by
  have hiff : ∀ (ctx : NasAuthUeContext Session) (call : NasSecurityCall), True →
      (ctx.CleanCall call ↔ ctx.NoVectorAtCommand call) := fun _ call _ => NasAuthUeContext.cleanCall_iff call
  exact Runs.always_iff hiff (fun _ _ _ _ => trivial) trivial calls

/-- A challenge, and then a command for the null algorithms. -/
theorem nasCalls_not_clean :
    ¬Runs.Always nasSecurityStep NasAuthUeContext.CleanCall
      (nasCreateAuthUeContext (Vector.replicate nasMaxPduSessions ()))
      [.activate, .handleAuthenticationRequest (List.replicate 33 0),
        .handleSecurityModeCommand ⟨0, 0, 0⟩] := by
  rintro ⟨-, -, hclean, -⟩
  have hlog : Locked.after ∅ (nasSecurityCall _ _).log = some ∅ := hclean
  exact absurd hlog (by decide)

end Uesim
