import Uesim.Nas.SessionAccounting

/-!
# The QoS flows of a session as a map

What a session stores is a map from QFIs to flows: a new flow is added, and one that is there is removed or
modified. The functions follow it as long as only new flows are added and only flows that are there are
removed or modified. The code looks for neither.
-/

namespace Uesim

open Bytes

/-- What a session is for: the flow of each QFI. -/
abbrev NasFlowMap := Byte → Option NasQosFlow

inductive NasQosCall where
  | add (qosFlow : NasQosFlow)
  | remove (qfi : Byte)
  | modify (qosFlow : NasQosFlow)

def NasQosCall.qfi : NasQosCall → Byte
  | add qosFlow => qosFlow.qfi
  | remove qfi => qfi
  | modify qosFlow => qosFlow.qfi

def NasQosCall.onMap (flows : NasFlowMap) : NasQosCall → Option NasFlowMap
  | add qosFlow =>
      if flows qosFlow.qfi = none then
        some (Function.update flows qosFlow.qfi (some { qosFlow with active := true }))
      else none
  | remove qfi => if flows qfi = none then none else some (Function.update flows qfi none)
  | modify qosFlow =>
      if flows qosFlow.qfi = none then none
      else some (Function.update flows qosFlow.qfi (some { qosFlow with active := true }))

def nasQosCall (pduSessionId : Byte) (ctx : NasSessionContext) :
    NasQosCall → NasSessionContext × Except UesimError Unit
  | .add qosFlow => nasAddQosFlow ctx pduSessionId qosFlow
  | .remove qfi => nasRemoveQosFlow ctx pduSessionId qfi
  | .modify qosFlow => nasModifyQosFlow ctx pduSessionId qosFlow

def nasQosStep (pduSessionId : Byte) (ctx : NasSessionContext) (call : NasQosCall) : NasSessionContext :=
  (nasQosCall pduSessionId ctx call).1

/-! ### One call on the array -/

namespace NasQosCall

variable {array array' : CountedArray NasQosFlow nasMaxQosFlows}

def onArray (array : CountedArray NasQosFlow nasMaxQosFlows) :
    NasQosCall → Option (CountedArray NasQosFlow nasMaxQosFlows)
  | add qosFlow => array.push { qosFlow with active := true }
  | remove qfi => CountedArray.removeKey NasQosFlow.qfi array qfi
  | modify qosFlow => CountedArray.replaceKey NasQosFlow.qfi array { qosFlow with active := true }

def unwritten : NasQosCall → Except UesimError Unit
  | add _ => .error .invalidParam
  | remove _ => .ok ()
  | modify _ => .ok ()

def mapOf (array : CountedArray NasQosFlow nasMaxQosFlows) : NasFlowMap :=
  CountedArray.get NasQosFlow.qfi array.toList

/-- A flow is added if its QFI is new or the array is full, and what is removed or modified is there. -/
def Fits (array : CountedArray NasQosFlow nasMaxQosFlows) : NasQosCall → Prop
  | add qosFlow => array.count = nasMaxQosFlows ∨ qosFlow.qfi ∉ array.toList.map NasQosFlow.qfi
  | remove qfi => qfi ∈ array.toList.map NasQosFlow.qfi
  | modify qosFlow => qosFlow.qfi ∈ array.toList.map NasQosFlow.qfi

theorem mapOf_ne_none_iff {qfi : Byte} :
    mapOf array qfi ≠ none ↔ qfi ∈ array.toList.map NasQosFlow.qfi := by
  rw [mapOf, ne_eq, CountedArray.get_eq_none_iff, not_not]

/-- **What is written is what the map becomes**, if the call fits. -/
theorem Fits.onMap_eq {call : NasQosCall} (hfits : call.Fits array)
    (hdistinct : CountedArray.Distinct NasQosFlow.qfi array.toList) (h : call.onArray array = some array') :
    CountedArray.Distinct NasQosFlow.qfi array'.toList
      ∧ call.onMap (mapOf array) = some (mapOf array') := by
  cases call with
  | add qosFlow =>
      have hnew : qosFlow.qfi ∉ array.toList.map NasQosFlow.qfi := by
        refine hfits.resolve_left fun hfull => ?_
        rw [onArray, CountedArray.push_eq_none_iff.mpr hfull] at h
        cases h
      have hget := CountedArray.get_push h hnew
      refine ⟨(CountedArray.distinct_push_iff h hdistinct).mpr hnew, ?_⟩
      have hnone : mapOf array qosFlow.qfi = none := CountedArray.get_eq_none_iff.mpr hnew
      rw [onMap, if_pos hnone]
      exact congrArg some hget.symm
  | remove qfi =>
      refine ⟨CountedArray.distinct_removeKey h hdistinct, ?_⟩
      rw [onMap, if_neg (mapOf_ne_none_iff.mpr hfits)]
      exact congrArg some (CountedArray.get_removeKey h hdistinct).symm
  | modify qosFlow =>
      obtain ⟨hkeys, hget⟩ := CountedArray.replaceKey_spec h
      constructor
      · rw [CountedArray.Distinct, hkeys]
        exact hdistinct
      · rw [onMap, if_neg (mapOf_ne_none_iff.mpr hfits)]
        exact congrArg some hget.symm

/-- A call that does not fit succeeds, and either writes a second flow with the same QFI or does what the map
has no room for. -/
theorem not_fits {call : NasQosCall} (hfits : ¬call.Fits array) :
    (∃ array', call.onArray array = some array'
        ∧ ¬CountedArray.Distinct NasQosFlow.qfi array'.toList)
      ∨ call.onArray array = none ∧ call.unwritten = .ok () ∧ call.onMap (mapOf array) = none := by
  cases call with
  | add qosFlow =>
      obtain ⟨hroom, hthere⟩ := not_or.mp hfits
      obtain ⟨array', h⟩ : ∃ array', (add qosFlow).onArray array = some array' := by
        refine Option.ne_none_iff_exists'.mp fun hnone => hroom ?_
        exact CountedArray.push_eq_none_iff.mp hnone
      refine .inl ⟨array', h, fun hdistinct => ?_⟩
      rw [CountedArray.toList_push h, CountedArray.distinct_append_iff] at hdistinct
      exact hthere hdistinct.2
  | remove qfi =>
      exact .inr ⟨CountedArray.removeKey_eq_none_iff.mpr hfits, rfl,
        if_pos (CountedArray.get_eq_none_iff.mpr hfits)⟩
  | modify qosFlow =>
      exact .inr ⟨CountedArray.replaceKey_eq_none_iff.mpr hfits, rfl,
        if_pos (CountedArray.get_eq_none_iff.mpr hfits)⟩

theorem Fits.unwritten {call : NasQosCall} (hfits : call.Fits array) (h : call.onArray array = none) :
    call.unwritten = .error .invalidParam := by
  cases call with
  | add qosFlow => rfl
  | remove qfi => exact absurd hfits (CountedArray.removeKey_eq_none_iff.mp h)
  | modify qosFlow =>
      have hreplace : CountedArray.replaceKey NasQosFlow.qfi array { qosFlow with active := true } = none := h
      rw [CountedArray.replaceKey_eq_none_iff] at hreplace
      exact absurd hfits hreplace

end NasQosCall

/-! ### One call on the context -/

namespace NasSessionContext

variable {ctx : NasSessionContext} {pduSessionId : Byte} {session : NasPduSession}

def HasSession (ctx : NasSessionContext) (pduSessionId : Byte) (session : NasPduSession) : Prop :=
  ctx.active = true ∧ ctx.pduSessions[pduSessionId.toNat]? = some session ∧ session.active = true

/-- The flows of an active session are distinct, and there are not too many. -/
def FlowsDistinct (ctx : NasSessionContext) (pduSessionId : Byte) : Prop :=
  ∃ session, ctx.HasSession pduSessionId session
    ∧ CountedArray.Distinct NasQosFlow.qfi session.qosFlows.toList
    ∧ session.qosFlows.toList.length ≤ nasMaxQosFlows

/-- The flows are distinct after the call. If it succeeds, it does to them what it does to the map, and if it
fails, it changes nothing. -/
structure ServesFlows (pduSessionId : Byte) (ctx : NasSessionContext) (call : NasQosCall) : Prop where
  distinct : (nasQosCall pduSessionId ctx call).1.FlowsDistinct pduSessionId
  served : (nasQosCall pduSessionId ctx call).2 = .ok () →
    ∀ session session', ctx.HasSession pduSessionId session →
      (nasQosCall pduSessionId ctx call).1.HasSession pduSessionId session' →
      call.onMap (NasQosCall.mapOf session.qosFlows) = some (NasQosCall.mapOf session'.qosFlows)
  refused : ∀ e, (nasQosCall pduSessionId ctx call).2 = .error e →
    (nasQosCall pduSessionId ctx call).1 = ctx
  apart : ∀ i, i ≠ pduSessionId.toNat →
    (nasQosCall pduSessionId ctx call).1.pduSessions[i]? = ctx.pduSessions[i]?

def FitsFlows (pduSessionId : Byte) (ctx : NasSessionContext) (call : NasQosCall) : Prop :=
  ∀ session, ctx.HasSession pduSessionId session → call.Fits session.qosFlows

theorem HasSession.unique {session' : NasPduSession} (h : ctx.HasSession pduSessionId session)
    (h' : ctx.HasSession pduSessionId session') : session = session' :=
  Option.some.inj (h.2.1.symm.trans h'.2.1)

theorem HasSession.fitsFlows {call : NasQosCall} (h : ctx.HasSession pduSessionId session)
    (hfits : call.Fits session.qosFlows) : FitsFlows pduSessionId ctx call :=
  fun _ hother => h.unique hother ▸ hfits

theorem HasSession.nasQosCall_eq (h : ctx.HasSession pduSessionId session) (call : NasQosCall) :
    nasQosCall pduSessionId ctx call = match call.onArray session.qosFlows with
      | none => (ctx, call.unwritten)
      | some flows => (ctx.setSession pduSessionId { session with qosFlows := flows }, .ok ()) := by
  obtain ⟨hctx, hsession, hactive⟩ := h
  cases call with
  | add qosFlow =>
      refine (withSession_of_active hctx hsession _).trans ?_
      exact if_pos hactive
  | remove qfi => exact withSession_of_active hctx hsession _
  | modify qosFlow => exact withSession_of_active hctx hsession _

theorem HasSession.setSession (h : ctx.HasSession pduSessionId session)
    (flows : CountedArray NasQosFlow nasMaxQosFlows) :
    (ctx.setSession pduSessionId { session with qosFlows := flows }).HasSession pduSessionId
      { session with qosFlows := flows } :=
  ⟨h.1, getElem?_setSession h.2.1 _, h.2.2⟩

theorem FlowsDistinct.of_distinct (h : ctx.HasSession pduSessionId session)
    (hdistinct : CountedArray.Distinct NasQosFlow.qfi session.qosFlows.toList) :
    ctx.FlowsDistinct pduSessionId := by
  refine ⟨session, h, hdistinct, ?_⟩
  rw [CountedArray.length_toList]
  exact session.qosFlows.count_le

/-- **One call serves the flows exactly when it fits them.** -/
theorem FlowsDistinct.servesFlows_iff (h : ctx.FlowsDistinct pduSessionId) (call : NasQosCall) :
    ServesFlows pduSessionId ctx call ↔ FitsFlows pduSessionId ctx call := by
  obtain ⟨session, hsession, hdistinct, -⟩ := h
  have hcall := hsession.nasQosCall_eq call
  constructor
  · intro hserves other hother
    rw [← hsession.unique hother]
    by_contra hfits
    rcases NasQosCall.not_fits hfits with ⟨flows, hflows, htwice⟩ | ⟨hnone, hok, hmap⟩
    · rw [hflows] at hcall
      obtain ⟨after, hafter, honce, -⟩ := hserves.distinct
      rw [hcall] at hafter
      rw [← (hsession.setSession flows).unique hafter] at honce
      exact htwice honce
    · rw [hnone] at hcall
      have hserved := hserves.served (by rw [hcall]; exact hok) session session hsession
        (by rw [hcall]; exact hsession)
      rw [hmap] at hserved
      cases hserved
  · intro hall
    have hfits := hall session hsession
    cases harray : call.onArray session.qosFlows with
    | none =>
        rw [harray] at hcall
        refine ⟨?_, fun hok => ?_, fun e _ => ?_, fun i _ => ?_⟩
        · rw [hcall]
          exact FlowsDistinct.of_distinct hsession hdistinct
        · rw [hcall] at hok
          exact absurd ((hfits.unwritten harray).symm.trans hok) (by simp)
        · rw [hcall]
        · rw [hcall]
    | some flows =>
        rw [harray] at hcall
        have hafter := hsession.setSession flows
        obtain ⟨hdistinct', hmap⟩ := hfits.onMap_eq hdistinct harray
        refine ⟨?_, fun _ before after hbefore hafter' => ?_, fun e herror => ?_, fun i hi => ?_⟩
        · rw [hcall]
          exact FlowsDistinct.of_distinct hafter hdistinct'
        · rw [hcall] at hafter'
          rw [← hsession.unique hbefore, ← hafter.unique hafter']
          exact hmap
        · rw [hcall] at herror
          cases herror
        · rw [hcall]
          exact Vector.getElem?_setIfInBounds_ne (Ne.symm hi)

theorem toList_accepted (session : NasPduSession) :
    session.accepted.qosFlows.toList = [nasDefaultQosFlow] := by
  apply List.ext_getElem
  · rw [CountedArray.length_toList]
    rfl
  · intro i hi hi'
    have hzero : i = 0 := Nat.lt_one_iff.mp hi'
    subst hzero
    rw [CountedArray.getElem_toList _ _ (CountedArray.lt_of_lt_length hi)]
    exact Vector.getElem_set_self _

end NasSessionContext

/-! ### Whole runs -/

/-- **The flows of an active session are a map throughout a run exactly when every call of it fits**: a flow
that is added is new, or there is no room for it, and a flow that is removed or modified is there. -/
theorem nasSessionFlows_served_iff {ctx : NasSessionContext} {pduSessionId : Byte}
    (hdistinct : ctx.FlowsDistinct pduSessionId) (calls : List NasQosCall) :
    Runs.Always (nasQosStep pduSessionId) (NasSessionContext.ServesFlows pduSessionId) ctx calls
      ↔ Runs.Always (nasQosStep pduSessionId) (NasSessionContext.FitsFlows pduSessionId) ctx calls := by
  have hiff : ∀ (ctx : NasSessionContext) (call : NasQosCall), ctx.FlowsDistinct pduSessionId →
      (NasSessionContext.ServesFlows pduSessionId ctx call
        ↔ NasSessionContext.FitsFlows pduSessionId ctx call) :=
    fun ctx call h => h.servesFlows_iff call
  exact Runs.always_iff hiff (fun ctx call h hfits => ((hiff ctx call h).mpr hfits).distinct) hdistinct calls

def nasAcceptedContext : NasSessionContext :=
  (nasSendPduSessionEstablishmentAccept (nasCreateSessionContext true) 1 .always).1

def nasTestQosFlow (qfi : Byte) : NasQosFlow := ⟨qfi, 2, 1, 50, 100, 500, 1000, false⟩

theorem nasAcceptedContext_hasSession :
    nasAcceptedContext.HasSession 1 { NasPduSession.zero.accepted with state := .active } :=
  ⟨rfl, rfl, rfl⟩

theorem nasAcceptedContext_flowsDistinct : nasAcceptedContext.FlowsDistinct 1 := by
  refine NasSessionContext.FlowsDistinct.of_distinct nasAcceptedContext_hasSession ?_
  have hflows := NasSessionContext.toList_accepted .zero
  rw [CountedArray.Distinct]
  exact hflows ▸ List.nodup_singleton _

/-- A flow is added to an accepted session, modified and removed. -/
theorem nasSessionFlows_served_accepted :
    Runs.Always (nasQosStep 1) (NasSessionContext.ServesFlows 1) nasAcceptedContext
      [.add (nasTestQosFlow 2), .modify (nasTestQosFlow 2), .remove 2] := by
  refine (nasSessionFlows_served_iff nasAcceptedContext_flowsDistinct _).mpr ⟨?_, ?_, ?_, trivial⟩
  · exact nasAcceptedContext_hasSession.fitsFlows (.inr (by decide))
  · exact NasSessionContext.HasSession.fitsFlows ⟨rfl, rfl, rfl⟩ (show (2 : Byte) ∈ _ by decide)
  · exact NasSessionContext.HasSession.fitsFlows ⟨rfl, rfl, rfl⟩ (show (2 : Byte) ∈ _ by decide)

/-- The default flow is added again; and a flow that is not there is removed, and modified. -/
theorem nasSessionFlows_not_served :
    ¬Runs.Always (nasQosStep 1) (NasSessionContext.ServesFlows 1) nasAcceptedContext
        [.add (nasTestQosFlow 1)]
      ∧ ¬Runs.Always (nasQosStep 1) (NasSessionContext.ServesFlows 1) nasAcceptedContext [.remove 2]
      ∧ ¬Runs.Always (nasQosStep 1) (NasSessionContext.ServesFlows 1) nasAcceptedContext
        [.modify (nasTestQosFlow 2)] := by
  have hsession := nasAcceptedContext_hasSession
  have habsent : NasQosCall.mapOf NasPduSession.zero.accepted.qosFlows 2 = none := by decide
  refine ⟨?_, ?_, ?_⟩
  · rintro ⟨hserves, -⟩
    obtain ⟨session, hafter, hdistinct, -⟩ := hserves.distinct
    rw [← Option.some.inj hafter.2.1] at hdistinct
    exact absurd (show List.Nodup _ from hdistinct) (by decide)
  · rintro ⟨hserves, -⟩
    have hserved := hserves.served rfl _ _ hsession hsession
    have hnone : (NasQosCall.remove 2).onMap (NasQosCall.mapOf NasPduSession.zero.accepted.qosFlows)
        = none := by
      rw [NasQosCall.onMap]
      exact if_pos habsent
    exact absurd (hserved.symm.trans hnone) (Option.some_ne_none _)
  · rintro ⟨hserves, -⟩
    have hserved := hserves.served rfl _ _ hsession hsession
    have hnone : (NasQosCall.modify (nasTestQosFlow 2)).onMap (NasQosCall.mapOf NasPduSession.zero.accepted.qosFlows)
        = none := by
      rw [NasQosCall.onMap]
      exact if_pos habsent
    exact absurd (hserved.symm.trans hnone) (Option.some_ne_none _)

end Uesim
