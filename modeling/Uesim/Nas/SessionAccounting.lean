import Uesim.Nas.Sessions
import Uesim.Library.Runs

/-!
# The count of active sessions

The flag of a session, its state and the count go together as long as what the network does to a session
fits the session: an accept comes for one that is not active, a modification for one that is, a reject for
one that is not, and a release for one that is, or when none is active. No handler checks this.
-/

namespace Uesim

open Bytes

def Nas5gsmState.isActive : Nas5gsmState → Bool
  | active => true
  | modificationPending => true
  | releasedPending => true
  | inactive => false
  | activePending => false

inductive NasSessionCall where
  | initiateEstablishment (pduSessionId : Byte) (sessionType : NasPduSessionType) (send : NasSender)
  | sendAccept (pduSessionId : Byte) (send : NasSender)
  | handleReject (pduSessionId : Byte) (cause : Byte)
  | initiateModification (pduSessionId : Byte) (send : NasSender)
  | handleModificationCommand (pduSessionId : Byte) (commandData : List Byte) (send : NasSender)
  | initiateRelease (pduSessionId : Byte) (send : NasSender)
  | handleReleaseCommand (pduSessionId : Byte) (commandData : List Byte) (send : NasSender)

def nasSessionCall (ctx : NasSessionContext) : NasSessionCall → NasSessionContext
  | .initiateEstablishment pduSessionId sessionType send =>
      (nasInitiatePduSessionEstablishment ctx pduSessionId sessionType send).1
  | .sendAccept pduSessionId send => (nasSendPduSessionEstablishmentAccept ctx pduSessionId send).1
  | .handleReject pduSessionId cause => (nasHandlePduSessionEstablishmentReject ctx pduSessionId cause).1
  | .initiateModification pduSessionId send => (nasInitiatePduSessionModification ctx pduSessionId send).1
  | .handleModificationCommand pduSessionId commandData send =>
      (nasHandlePduSessionModificationCommand ctx pduSessionId commandData send).1
  | .initiateRelease pduSessionId send => (nasInitiatePduSessionRelease ctx pduSessionId send).1
  | .handleReleaseCommand pduSessionId commandData send =>
      (nasHandlePduSessionReleaseCommand ctx pduSessionId commandData send).1

/-- The count is that of the active sessions, and the active sessions are those in one of the three
states. -/
structure SessionsAccounted {n : Nat} (sessions : Vector NasPduSession n) (count : Byte) : Prop where
  counted : count.toNat = sessions.countP (·.active)
  marked : ∀ (i : Nat) (session : NasPduSession), sessions[i]? = some session →
    session.active = session.state.isActive

namespace NasSessionContext

variable {ctx : NasSessionContext} {pduSessionId : Byte} {session : NasPduSession}

def Accounted (ctx : NasSessionContext) : Prop := SessionsAccounted ctx.pduSessions ctx.numActiveSessions

def target (ctx : NasSessionContext) (pduSessionId : Byte) : Option NasPduSession :=
  if ctx.active then ctx.pduSessions[pduSessionId.toNat]? else none

/-- What the network does to a session that is there fits the session. A message that cannot be sent keeps
an accept and a modification from it. -/
def Orderly (ctx : NasSessionContext) : NasSessionCall → Prop
  | .sendAccept pduSessionId send => ∀ session, ctx.target pduSessionId = some session →
      1 ≤ pduSessionId → pduSessionId ≤ 15 →
      (send (nasEstablishmentAccept pduSessionId session.sessionType)).result = .ok () →
      session.active = false
  | .handleReject pduSessionId _ => ∀ session, ctx.target pduSessionId = some session →
      session.active = false
  | .handleModificationCommand pduSessionId commandData send =>
      ∀ session, ctx.target pduSessionId = some session → commandData ≠ [] →
      (send (nasModificationComplete pduSessionId)).result = .ok () → session.active = true
  | .handleReleaseCommand pduSessionId _ _ => ∀ session, ctx.target pduSessionId = some session →
      session.active = true ∨ ctx.numActiveSessions = 0
  | _ => True

end NasSessionContext

/-! ### One session -/

section OneSession

variable {n : Nat} {sessions : Vector NasPduSession n} {count count' : Byte} {i : Nat}
  {session session' : NasPduSession}

theorem countP_setIfInBounds (hsession : sessions[i]? = some session) (session' : NasPduSession) :
    (sessions.setIfInBounds i session').countP (·.active) + (if session.active then 1 else 0)
      = sessions.countP (·.active) + if session'.active then 1 else 0 := by
  obtain ⟨hi, rfl⟩ := Vector.getElem?_eq_some_iff.mp hsession
  have hset : sessions.setIfInBounds i session' = sessions.set i session' := by
    apply Vector.ext
    intro j hj
    rw [Vector.getElem_setIfInBounds, Vector.getElem_set]
  have hcount : (sessions.set i session').countP (·.active) = _ := Vector.countP_set hi
  have hpos : (if sessions[i].active then 1 else 0) ≤ sessions.countP (·.active) := by
    split
    · rename_i hactive
      exact Vector.countP_pos_iff.mpr ⟨_, Vector.getElem_mem hi, hactive⟩
    · exact Nat.zero_le _
  rw [hset, hcount]
  omega

/-- **One session is written** without harm exactly when its flag goes with its state and the count moves
with the flag. -/
theorem SessionsAccounted.set_iff (h : SessionsAccounted sessions count)
    (hsession : sessions[i]? = some session) :
    SessionsAccounted (sessions.setIfInBounds i session') count'
      ↔ session'.active = session'.state.isActive
        ∧ count'.toNat + (if session.active then 1 else 0)
          = count.toNat + if session'.active then 1 else 0 := by
  obtain ⟨hi, -⟩ := Vector.getElem?_eq_some_iff.mp hsession
  have hcount := countP_setIfInBounds hsession session'
  have hcounted := h.counted
  constructor
  · intro h'
    refine ⟨h'.marked i session' (Vector.getElem?_setIfInBounds_self_of_lt hi), ?_⟩
    have hcounted' := h'.counted
    omega
  · rintro ⟨hmarked, hmoved⟩
    refine ⟨by omega, fun j other hother => ?_⟩
    by_cases hij : i = j
    · subst hij
      rw [Vector.getElem?_setIfInBounds_self_of_lt hi] at hother
      rw [← Option.some.inj hother]
      exact hmarked
    · rw [Vector.getElem?_setIfInBounds_ne hij] at hother
      exact h.marked j other hother

theorem SessionsAccounted.set_same_iff (h : SessionsAccounted sessions count)
    (hsession : sessions[i]? = some session) (hsame : session'.active = session.active) :
    SessionsAccounted (sessions.setIfInBounds i session') count
      ↔ session.active = session'.state.isActive := by
  rw [h.set_iff hsession, hsame]
  exact and_iff_left rfl

theorem SessionsAccounted.count_pos (h : SessionsAccounted sessions count)
    (hsession : sessions[i]? = some session) (hactive : session.active = true) : 0 < count.toNat := by
  obtain ⟨hi, rfl⟩ := Vector.getElem?_eq_some_iff.mp hsession
  rw [h.counted]
  exact Vector.countP_pos_iff.mpr ⟨_, Vector.getElem_mem hi, hactive⟩

/-- A session starts and the count goes up. There are not so many sessions that it comes around. -/
theorem SessionsAccounted.start_iff (h : SessionsAccounted sessions count)
    (hsession : sessions[i]? = some session) (hn : n < 2 ^ 8 - 1) (hactive : session'.active = true)
    (hstate : session'.state.isActive = true) :
    SessionsAccounted (sessions.setIfInBounds i session') (count + 1) ↔ session.active = false := by
  have hcounted := h.counted
  have hbound : sessions.countP (·.active) ≤ n := Vector.countP_le_size
  have hup : (count + 1).toNat = count.toNat + 1 := by
    rw [BitVec.toNat_add]
    exact Nat.mod_eq_of_lt (show count.toNat + 1 < 2 ^ 8 by omega)
  rw [h.set_iff hsession, and_iff_right (hactive.trans hstate.symm), hup, hactive]
  cases session.active <;> simp

theorem SessionsAccounted.stop_iff (h : SessionsAccounted sessions count)
    (hsession : sessions[i]? = some session) (hactive : session'.active = false)
    (hstate : session'.state.isActive = false) :
    SessionsAccounted (sessions.setIfInBounds i session') (if 0 < count then count - 1 else count)
      ↔ session.active = true ∨ count = 0 := by
  have hdown : (if 0 < count then count - 1 else count).toNat = count.toNat - 1 := by
    split
    · rename_i hpos
      have hone : (1 : Byte) ≤ count := hpos
      rw [BitVec.toNat_sub_of_le hone]
      rfl
    · rename_i hzero
      have hnat : count.toNat = 0 := Nat.le_zero.mp (BitVec.not_lt.mp hzero)
      omega
  have hzero : count = 0 ↔ count.toNat = 0 := by
    rw [← BitVec.toNat_inj]
    rfl
  rw [h.set_iff hsession, and_iff_right (hactive.trans hstate.symm), hdown, hactive, hzero]
  cases hon : session.active with
  | true =>
      have hpos := h.count_pos hsession hon
      simp only [if_true, Bool.false_eq_true, if_false, true_or, iff_true]
      omega
  | false =>
      simp only [Bool.false_eq_true, if_false, false_or]
      omega

end OneSession

/-! ### One call -/

namespace NasSessionContext

variable {ctx : NasSessionContext} {pduSessionId : Byte} {session : NasPduSession} {send : NasSender}

theorem target_eq_some_iff : ctx.target pduSessionId = some session
    ↔ ctx.active = true ∧ ctx.pduSessions[pduSessionId.toNat]? = some session := by
  unfold target
  split
  · rename_i hactive
    exact (and_iff_right hactive).symm
  · rename_i hoff
    refine iff_of_false (fun h => ?_) fun h => hoff h.1
    cases h

theorem withSession_eq (ctx : NasSessionContext) (pduSessionId : Byte)
    (body : NasPduSession → NasSessionContext × Except UesimError Unit) :
    ctx.withSession pduSessionId body = match ctx.target pduSessionId with
      | none => (ctx, .error .invalidParam)
      | some session => body session := by
  unfold withSession target
  cases ctx.active <;> cases ctx.pduSessions[pduSessionId.toNat]? <;> rfl

theorem withSend_cases (ctx : NasSessionContext) (send : NasSender) (message : NasMessage)
    (next : NasSessionContext → NasSessionContext) :
    ((send message).result ≠ .ok () ∧ (ctx.withSend send message next).1 = ctx.sent (send message))
      ∨ (send message).result = .ok ()
        ∧ (ctx.withSend send message next).1 = next (ctx.sent (send message)) := by
  unfold withSend
  split
  · rename_i e herror
    refine .inl ⟨fun hok => ?_, rfl⟩
    rw [herror] at hok
    cases hok
  · rename_i hok
    exact .inr ⟨hok, rfl⟩

theorem accounted_update_iff (h : ctx.Accounted)
    (hsession : ctx.pduSessions[pduSessionId.toNat]? = some session) (newState : Nas5gsmState) :
    (nasUpdate5gsmState ctx pduSessionId newState).Accounted ↔ session.active = newState.isActive := by
  rw [nasUpdate5gsmState_of_session hsession]
  exact SessionsAccounted.set_same_iff h hsession rfl

/-- A call about a session is orderly when what it does to the session is, if there is one. -/
theorem Accounted.withSession_iff (h : ctx.Accounted)
    {body : NasPduSession → NasSessionContext × Except UesimError Unit} {orderly : NasPduSession → Prop}
    (hbody : ∀ session, ctx.pduSessions[pduSessionId.toNat]? = some session →
      ((body session).1.Accounted ↔ orderly session)) :
    (ctx.withSession pduSessionId body).1.Accounted
      ↔ ∀ session, ctx.target pduSessionId = some session → orderly session := by
  rw [withSession_eq]
  cases htarget : ctx.target pduSessionId with
  | none => exact iff_of_true h fun session heq => by cases heq
  | some session =>
      obtain ⟨-, hsession⟩ := target_eq_some_iff.mp htarget
      simp only [Option.some.injEq, forall_eq']
      exact hbody session hsession

theorem Accounted.withSession (h : ctx.Accounted)
    {body : NasPduSession → NasSessionContext × Except UesimError Unit}
    (hbody : ∀ session, ctx.pduSessions[pduSessionId.toNat]? = some session → (body session).1.Accounted) :
    (ctx.withSession pduSessionId body).1.Accounted :=
  (h.withSession_iff fun session hsession => iff_true_intro (hbody session hsession)).mpr
    fun _ _ => trivial

theorem Accounted.initiateEstablishment (h : ctx.Accounted) (pduSessionId : Byte)
    (sessionType : NasPduSessionType) (send : NasSender) :
    (nasInitiatePduSessionEstablishment ctx pduSessionId sessionType send).1.Accounted := by
  rw [nasInitiatePduSessionEstablishment]
  refine h.withSession fun session hsession => ?_
  split
  · exact h
  · split
    · exact h
    · rename_i hinactive
      rcases withSend_cases ctx send _ _ with ⟨-, hctx⟩ | ⟨-, hctx⟩
      · rw [hctx]
        exact h
      · rw [hctx]
        have hsent : (ctx.sent (send (nasEstablishmentRequest pduSessionId sessionType))).Accounted := h
        exact (accounted_update_iff hsent hsession .activePending).mpr (Bool.eq_false_iff.mpr hinactive)

theorem Accounted.sendAccept_iff (h : ctx.Accounted) (pduSessionId : Byte) (send : NasSender) :
    (nasSendPduSessionEstablishmentAccept ctx pduSessionId send).1.Accounted
      ↔ ctx.Orderly (.sendAccept pduSessionId send) := by
  rw [nasSendPduSessionEstablishmentAccept, Orderly]
  refine h.withSession_iff fun session hsession => ?_
  by_cases hrange : pduSessionId < 1 ∨ 15 < pduSessionId
  · rw [if_pos hrange]
    refine iff_of_true h fun hge hle => ?_
    rcases hrange with hlt | hgt
    · exact absurd hlt (BitVec.not_lt.mpr hge)
    · exact absurd hgt (BitVec.not_lt.mpr hle)
  · rw [if_neg hrange]
    obtain ⟨hge, hle⟩ := not_or.mp hrange
    rcases withSend_cases ctx send (nasEstablishmentAccept pduSessionId session.sessionType) _ with
      ⟨hfail, hctx⟩ | ⟨hok, hctx⟩
    · rw [hctx]
      exact iff_of_true h fun _ _ hok => absurd hok hfail
    · have hsent :
          (ctx.sent (send (nasEstablishmentAccept pduSessionId session.sessionType))).pduSessions[
            pduSessionId.toNat]? = some session := hsession
      have hthere := getElem?_setSession hsent session.accepted
      have hset : ∀ first second : NasPduSession,
          (ctx.pduSessions.setIfInBounds pduSessionId.toNat first).setIfInBounds pduSessionId.toNat second
            = ctx.pduSessions.setIfInBounds pduSessionId.toNat second := by
        intro first second
        exact Vector.setIfInBounds_setIfInBounds _
      rw [hctx, nasUpdate5gsmState_of_session hthere, Accounted]
      dsimp only [setSession, sent]
      rw [hset, SessionsAccounted.start_iff h hsession (by decide) rfl rfl]
      exact ⟨fun hinactive _ _ _ => hinactive,
        fun horderly => horderly (BitVec.not_lt.mp hge) (BitVec.not_lt.mp hle) hok⟩

theorem Accounted.handleReject_iff (h : ctx.Accounted) (pduSessionId cause : Byte) :
    (nasHandlePduSessionEstablishmentReject ctx pduSessionId cause).1.Accounted
      ↔ ctx.Orderly (.handleReject pduSessionId cause) := by
  rw [nasHandlePduSessionEstablishmentReject, Orderly]
  exact h.withSession_iff fun session hsession => accounted_update_iff h hsession .inactive

theorem Accounted.initiateChange (h : ctx.Accounted) (pduSessionId : Byte) (request : NasMessage)
    {pending : Nas5gsmState} (hpending : pending.isActive = true) (send : NasSender) :
    (nasInitiatePduSessionChange ctx pduSessionId request pending send).1.Accounted := by
  rw [nasInitiatePduSessionChange]
  refine h.withSession fun session hsession => ?_
  split
  · rename_i hactive
    rcases withSend_cases ctx send request _ with ⟨-, hctx⟩ | ⟨-, hctx⟩
    · rw [hctx]
      exact h
    · rw [hctx]
      have hsent : (ctx.sent (send request)).Accounted := h
      exact (accounted_update_iff hsent hsession pending).mpr (hactive.trans hpending.symm)
  · exact h

theorem modified_active (session : NasPduSession) (commandData : List Byte) :
    (session.modified commandData).active = session.active
      ∧ (session.modified commandData).state = session.state := by
  unfold NasPduSession.modified
  split <;> exact ⟨rfl, rfl⟩

theorem Accounted.handleModificationCommand_iff (h : ctx.Accounted) (pduSessionId : Byte)
    (commandData : List Byte) (send : NasSender) :
    (nasHandlePduSessionModificationCommand ctx pduSessionId commandData send).1.Accounted
      ↔ ctx.Orderly (.handleModificationCommand pduSessionId commandData send) := by
  rw [nasHandlePduSessionModificationCommand, Orderly]
  by_cases hdata : commandData = []
  · rw [if_pos hdata]
    exact iff_of_true h fun session _ hne => absurd hdata hne
  · rw [if_neg hdata]
    refine h.withSession_iff fun session hsession => ?_
    obtain ⟨hactive, hstate⟩ := modified_active session commandData
    set changed := ctx.setSession pduSessionId (session.modified commandData) with hchanged
    have haccounted : changed.Accounted := by
      refine (SessionsAccounted.set_same_iff h hsession hactive).mpr ?_
      rw [hstate]
      exact h.marked _ _ hsession
    have hthere := getElem?_setSession hsession (session.modified commandData)
    rcases withSend_cases changed send (nasModificationComplete pduSessionId) _ with
      ⟨hfail, hctx⟩ | ⟨hok, hctx⟩
    · rw [hctx]
      exact iff_of_true haccounted fun _ hok => absurd hok hfail
    · have hsent : (changed.sent (send (nasModificationComplete pduSessionId))).Accounted := haccounted
      rw [hctx, accounted_update_iff hsent hthere, hactive]
      exact ⟨fun hon _ _ => hon, fun horderly => horderly hdata hok⟩

theorem Accounted.handleReleaseCommand_iff (h : ctx.Accounted) (pduSessionId : Byte)
    (commandData : List Byte) (send : NasSender) :
    (nasHandlePduSessionReleaseCommand ctx pduSessionId commandData send).1.Accounted
      ↔ ctx.Orderly (.handleReleaseCommand pduSessionId commandData send) := by
  rw [nasHandlePduSessionReleaseCommand, Orderly]
  refine h.withSession_iff fun session hsession => ?_
  have hiff : SessionsAccounted (ctx.pduSessions.setIfInBounds pduSessionId.toNat
        { session with active := false, state := .inactive })
      (if 0 < ctx.numActiveSessions then ctx.numActiveSessions - 1 else ctx.numActiveSessions)
      ↔ session.active = true ∨ ctx.numActiveSessions = 0 :=
    SessionsAccounted.stop_iff h hsession rfl rfl
  rcases withSend_cases _ send (nasReleaseComplete pduSessionId) id with ⟨-, hctx⟩ | ⟨-, hctx⟩
  · rw [hctx]
    exact hiff
  · rw [hctx]
    exact hiff

/-- **One call keeps the account exactly when it is orderly.** -/
theorem Accounted.call_iff (h : ctx.Accounted) (call : NasSessionCall) :
    (nasSessionCall ctx call).Accounted ↔ ctx.Orderly call := by
  cases call with
  | initiateEstablishment pduSessionId sessionType send =>
      exact iff_of_true (h.initiateEstablishment pduSessionId sessionType send) trivial
  | sendAccept pduSessionId send => exact h.sendAccept_iff pduSessionId send
  | handleReject pduSessionId cause => exact h.handleReject_iff pduSessionId cause
  | initiateModification pduSessionId send =>
      exact iff_of_true (h.initiateChange pduSessionId _ rfl send) trivial
  | handleModificationCommand pduSessionId commandData send =>
      exact h.handleModificationCommand_iff pduSessionId commandData send
  | initiateRelease pduSessionId send =>
      exact iff_of_true (h.initiateChange pduSessionId _ rfl send) trivial
  | handleReleaseCommand pduSessionId commandData send =>
      exact h.handleReleaseCommand_iff pduSessionId commandData send

end NasSessionContext

/-! ### Whole runs -/

theorem nasCreateSessionContext_accounted (active : Bool) : (nasCreateSessionContext active).Accounted := by
  refine ⟨by cases active <;> decide, fun i session hsession => ?_⟩
  have hzero : session = .zero := by
    obtain ⟨hi, heq⟩ := Vector.getElem?_eq_some_iff.mp hsession
    exact heq.symm.trans (Vector.getElem_replicate hi)
  rw [hzero]
  rfl

/-- **Count, flags and states go together in every state of a run exactly when every call of it is
orderly.** -/
theorem nasSessions_accounted_iff (active : Bool) (calls : List NasSessionCall) :
    Runs.Throughout nasSessionCall NasSessionContext.Accounted (nasCreateSessionContext active) calls
      ↔ Runs.Always nasSessionCall NasSessionContext.Orderly (nasCreateSessionContext active) calls :=
  Runs.throughout_iff (fun _ h => h) (fun _ call h => h.call_iff call)
    (fun _ call h horderly => (h.call_iff call).mpr horderly) (nasCreateSessionContext_accounted active) calls

def NasSender.always : NasSender := fun _ =>
  { securityContext := (nasCreateSessionContext true).securityContext
    messagesSent := 0
    result := .ok () }

/-- An accept that comes twice; a modification command for a session that was never established; and a
reject for a session that is active. -/
theorem nasSessions_not_accounted :
    ¬Runs.Throughout nasSessionCall NasSessionContext.Accounted (nasCreateSessionContext true)
        [.sendAccept 1 .always, .sendAccept 1 .always]
      ∧ ¬Runs.Throughout nasSessionCall NasSessionContext.Accounted (nasCreateSessionContext true)
        [.handleModificationCommand 1 [0] .always]
      ∧ ¬Runs.Throughout nasSessionCall NasSessionContext.Accounted (nasCreateSessionContext true)
        [.sendAccept 1 .always, .handleReject 1 0] := by
  refine ⟨?_, ?_, ?_⟩
  · rintro ⟨-, -, haccounted⟩
    exact absurd haccounted.counted (by decide)
  · rintro ⟨-, haccounted⟩
    exact absurd (haccounted.marked 1 _ rfl) (by decide)
  · rintro ⟨-, -, haccounted⟩
    exact absurd (haccounted.marked 1 _ rfl) (by decide)

end Uesim
