import Mathlib.Data.List.ReduceOption
import Uesim.Rrc.ProcedureCompletion

/-!
# Messages that are rejected

A handler that returns an error should have done nothing. Setup and Reestablishment are answered before the
state is changed, and from CONNECTED the change fails. A handover command opens the connection before its
answer goes out, and leaves the target as the connection has left it.
-/

namespace Uesim

/-- What is sent, the state, the serving gNB and the states of the gNBs are what they were. -/
structure UeContext.Undisturbed (before after : UeContext) : Prop where
  sent : after.sent = before.sent
  currentState : after.currentState = before.currentState
  servingGnb : after.servingGnb = before.servingGnb
  gnbState : ∀ gnb, (after.gnbs gnb).state = (before.gnbs gnb).state

theorem UeContext.Undisturbed.refl (ue : UeContext) : ue.Undisturbed ue := ⟨rfl, rfl, rfl, fun _ => rfl⟩

/-- An answer that is an error leaves the UE as it was. -/
def RrcAnswer.HarmlessError (before : UeContext) (answer : RrcAnswer) : Prop :=
  ∀ e, answer.2 = .error e → before.Undisturbed answer.1

def UeContext.handoverTarget (ue : UeContext) (command : RrcMessageData) : Option Nat :=
  ue.candidateGnbs.reduceOption.find? fun gnb => (ue.gnbs gnb).cellId = command.targetPci

/-- What a connection that is opened leaves as the state of a gNB. -/
def GnbContext.openedState (gnb : GnbContext) : GnbState :=
  if gnb.isServing then .connected else .handoverCandidate

/-- Whatever fails on the way to the target leaves its state alone. -/
def UeContext.TargetKept (ue : UeContext) (target : Nat) (outcome : RrcOutcome) : Prop :=
  (ue.gnbs target).state = .connected ∨
    match outcome.connected with
    | .error _ => (ue.gnbs target).state = .disconnected
    | .ok () => outcome.sent = none ∨ (ue.gnbs target).state = (ue.gnbs target).openedState

/-- When a handler that fails has had no effect: a Setup or a Reestablishment that can be answered does not
come in CONNECTED, and the target of a handover command is kept. -/
def RrcIncomingMessage.RejectedInTime (response : RrcIncomingMessage) (ue : UeContext)
    (outcome : RrcOutcome) : Prop :=
  match response.messageType with
  | .setup =>
      ¬(ue.currentState = .connected ∧ response.data.isSome ∧ outcome.allocated ∧ outcome.sent = none)
  | .reestablishment => ¬(ue.currentState = .connected ∧ response.data.isSome ∧ outcome.sent = none)
  | .handoverCommand => ∀ command ∈ response.data, ∀ target ∈ ue.handoverTarget command,
      ue.TargetKept target outcome
  | _ => True

namespace RrcAnswer

theorem harmlessError_self (ue : UeContext) (result : Except UesimError Unit) :
    HarmlessError ue (ue, result) := fun _ _ => UeContext.Undisturbed.refl ue

theorem harmlessError_ok (before after : UeContext) : HarmlessError before (after, .ok ()) :=
  fun _ h => by cases h

theorem harmlessError_iff (before after : UeContext) (e : UesimError) :
    HarmlessError before (after, .error e) ↔ before.Undisturbed after :=
  ⟨fun h => h e rfl, fun h _ _ => h⟩

end RrcAnswer

open RrcAnswer

variable (ue : UeContext) (response : RrcIncomingMessage) (outcome : RrcOutcome)

theorem harmlessError_rrcSendMessage (message : RrcMessageType) (sent : Option RrcSendError) :
    HarmlessError ue (rrcSendMessage ue message sent) := by
  cases sent with
  | none => exact harmlessError_ok ue _
  | some failure => exact harmlessError_self ue _

theorem not_undisturbed_of_sent (message : RrcMessageType) :
    ¬ue.Undisturbed { ue with sent := ue.sent ++ [message] } := by
  intro h
  have hlength := congrArg List.length h.sent
  rw [List.length_append, List.length_singleton] at hlength
  omega

/-- An answer that is sent before the way to CONNECTED is a disturbance in CONNECTED, and only there. -/
theorem harmlessError_send_change (message : RrcMessageType) :
    HarmlessError ue
        ((rrcSendMessage ue message outcome.sent).andThen fun ue => rrcChangeState ue .connected)
      ↔ ¬(ue.currentState = .connected ∧ outcome.sent = none) := by
  cases hsent : outcome.sent with
  | some failure => exact iff_of_true (harmlessError_self ue _) fun h => by cases h.2
  | none =>
      rw [and_iff_left rfl]
      have hanswer : (rrcSendMessage ue message none).andThen (fun ue => rrcChangeState ue .connected)
          = rrcChangeState { ue with sent := ue.sent ++ [message] } .connected := rfl
      rw [hanswer, rrcChangeState]
      by_cases hconnected : ue.currentState = .connected
      · have hinvalid : ¬rrcIsValidStateTransition ue.currentState .connected = true := by
          rw [hconnected]
          exact Bool.false_ne_true
        rw [if_neg hinvalid, harmlessError_iff]
        exact iff_of_false (not_undisturbed_of_sent ue message) fun h => h hconnected
      · have hvalid : rrcIsValidStateTransition ue.currentState .connected = true := by
          cases hcurrent : ue.currentState with
          | connected => exact absurd hcurrent hconnected
          | _ => rfl
        rw [if_pos hvalid]
        exact iff_of_true (harmlessError_ok ue _) hconnected

theorem rrcHandleSetupResponse_harmlessError_iff :
    HarmlessError ue (rrcHandleSetupResponse ue response outcome)
      ↔ ¬(ue.currentState = .connected ∧ response.data.isSome ∧ outcome.allocated
          ∧ outcome.sent = none) := by
  unfold rrcHandleSetupResponse rrcSendSetupComplete
  cases response.data with
  | none => exact iff_of_true (harmlessError_self ue _) fun h => by cases h.2.1
  | some data =>
      cases outcome.allocated with
      | false => exact iff_of_true (harmlessError_self ue _) fun h => by cases h.2.2.1
      | true => simpa using harmlessError_send_change ue outcome .setupComplete

theorem rrcHandleReestablishmentResponse_harmlessError_iff :
    HarmlessError ue (rrcHandleReestablishmentResponse ue response outcome)
      ↔ ¬(ue.currentState = .connected ∧ response.data.isSome ∧ outcome.sent = none) := by
  unfold rrcHandleReestablishmentResponse rrcSendReestComplete
  cases response.data with
  | none => exact iff_of_true (harmlessError_self ue _) fun h => by cases h.2.1
  | some data => simpa using harmlessError_send_change ue outcome .reestablishmentComplete

theorem rrcHandleReconfigurationResponse_harmlessError :
    HarmlessError ue (rrcHandleReconfigurationResponse ue response outcome) := by
  unfold rrcHandleReconfigurationResponse rrcSendReconfigComplete
  split
  · exact harmlessError_self ue _
  · exact harmlessError_rrcSendMessage ue _ _

theorem rrcHandleCapabilityEnquiry_harmlessError :
    HarmlessError ue (rrcHandleCapabilityEnquiry ue outcome) := by
  unfold rrcHandleCapabilityEnquiry rrcSendCapabilityInfo
  split
  · exact harmlessError_rrcSendMessage ue _ _
  · exact harmlessError_self ue _

/-- The state is changed first, so what comes after it does not fail. -/
theorem rrcHandleConnectionRelease_harmlessError : HarmlessError ue (rrcHandleConnectionRelease ue) := by
  unfold rrcHandleConnectionRelease rrcChangeState
  split
  · exact harmlessError_ok ue _
  · exact harmlessError_self ue _

/-! ### The handover command -/

theorem mem_of_handoverTarget {command : RrcMessageData} {target : Nat}
    (h : target ∈ ue.handoverTarget command) : some target ∈ ue.candidateGnbs :=
  List.reduceOption_mem_iff.mp (List.mem_of_find?_eq_some h)

theorem uesimSwitchServingGnb_of_mem {newGnb : Nat} (h : some newGnb ∈ ue.candidateGnbs) :
    (uesimSwitchServingGnb ue newGnb).2 = .ok () := by
  unfold uesimSwitchServingGnb
  cases hfound : ue.candidateGnbs.findIdx? (· = some newGnb) with
  | some found => rfl
  | none =>
      rw [List.findIdx?_eq_none_iff] at hfound
      exact absurd rfl (of_decide_eq_false (hfound _ h))

theorem setGnb_undisturbed_iff (gnb : Nat) (context : GnbContext) :
    ue.Undisturbed (ue.setGnb gnb context) ↔ (ue.gnbs gnb).state = context.state := by
  constructor
  · intro h
    have hstate := h.gnbState gnb
    simp only [UeContext.setGnb, if_pos] at hstate
    exact hstate.symm
  · intro h
    refine ⟨rfl, rfl, rfl, fun other => ?_⟩
    simp only [UeContext.setGnb]
    split
    · rename_i heq
      rw [heq, h]
    · rfl

/-- Behind a connection only the answer can fail, since the target is a candidate still. -/
theorem harmlessError_confirm_switch (after : UeContext) {target : Nat}
    (hcandidate : some target ∈ after.candidateGnbs) :
    HarmlessError ue
        ((rrcSendHandoverConfirm after outcome).andThen fun ue => uesimSwitchServingGnb ue target)
      ↔ outcome.sent = none ∨ ue.Undisturbed after := by
  unfold rrcSendHandoverConfirm
  cases hsent : outcome.sent with
  | none =>
      refine iff_of_true (fun e he => ?_) (Or.inl rfl)
      have hok := uesimSwitchServingGnb_of_mem { after with sent := after.sent ++ [.handoverConfirmation] }
        hcandidate
      cases hok.symm.trans he
  | some failure =>
      rw [or_iff_right (fun h => by cases h)]
      exact harmlessError_iff ue after failure.error

theorem rrcHandleHandoverCommand_harmlessError_iff :
    HarmlessError ue (rrcHandleHandoverCommand ue response outcome)
      ↔ ∀ command ∈ response.data, ∀ target ∈ ue.handoverTarget command, ue.TargetKept target outcome := by
  unfold rrcHandleHandoverCommand
  cases response.data with
  | none => exact iff_of_true (harmlessError_self ue _) fun _ h => by cases h
  | some command =>
      simp only [Option.mem_some_iff, forall_eq']
      split
      · rename_i hnone
        have htarget : ue.handoverTarget command = none := hnone
        rw [htarget]
        exact iff_of_true (harmlessError_self ue _) fun _ h => by cases h
      · rename_i target hfound
        have htarget : ue.handoverTarget command = some target := hfound
        have hcandidate : some target ∈ ue.candidateGnbs := mem_of_handoverTarget ue htarget
        rw [htarget]
        simp only [Option.mem_some_iff, forall_eq']
        unfold uesimConnectGnb UeContext.TargetKept
        by_cases hopen : (ue.gnbs target).state = .connected
        · rw [if_pos hopen]
          exact iff_of_true
            ((harmlessError_confirm_switch ue outcome ue hcandidate).mpr (Or.inr (.refl ue))) (Or.inl hopen)
        · rw [if_neg hopen, or_iff_right hopen]
          cases outcome.connected with
          | error e =>
              exact (harmlessError_iff ue _ e).trans (setGnb_undisturbed_iff ue target _)
          | ok _ =>
              exact (harmlessError_confirm_switch ue outcome (ue.setGnb target _) hcandidate).trans
                (or_congr_right (setGnb_undisturbed_iff ue target _))

/-- **An error has had no effect exactly if the message is rejected in time.** -/
theorem rrcHandleProcedureResponse_harmlessError_iff :
    HarmlessError ue (rrcHandleProcedureResponse ue response outcome)
      ↔ response.RejectedInTime ue outcome := by
  unfold rrcHandleProcedureResponse RrcIncomingMessage.RejectedInTime
  cases response.messageType with
  | setup => exact rrcHandleSetupResponse_harmlessError_iff ue response outcome
  | reestablishment => exact rrcHandleReestablishmentResponse_harmlessError_iff ue response outcome
  | reconfiguration =>
      exact iff_of_true (rrcHandleReconfigurationResponse_harmlessError ue response outcome) trivial
  | handoverCommand => exact rrcHandleHandoverCommand_harmlessError_iff ue response outcome
  | ueCapabilityEnquiry => exact iff_of_true (rrcHandleCapabilityEnquiry_harmlessError ue outcome) trivial
  | connectionRelease => exact iff_of_true (rrcHandleConnectionRelease_harmlessError ue) trivial
  | _ => exact iff_of_true (harmlessError_self ue _) trivial

/-- A Setup in CONNECTED is answered, and then it is an error. -/
theorem rrcSetup_connected_not_harmlessError :
    ¬HarmlessError { rrcIdleUe with currentState := .connected }
      (rrcHandleProcedureResponse { rrcIdleUe with currentState := .connected } rrcSetup rrcAllSent) := by
  intro h
  have hsent := (h .protocol rfl).sent
  exact absurd hsent (List.cons_ne_nil _ _)

end Uesim
