import Uesim.Library.Runs
import Uesim.Nas.Validation

/-!
# The order of NAS messages

A type of message has states in which it may come and a state that it leads to. No number is ever expected, so
that the types alone decide. Every procedure that is begun is finished once or under way.
-/

namespace Uesim

open Bytes Runs

inductive NasSeqState where
  | idle
  | registering
  | authenticating
  | securityMode
  | registered
  | pduSessionPending
  | connected
  | deregistering
  deriving DecidableEq, Repr

structure NasSequenceContext where
  currentState : NasSeqState
  lastMsgType : Byte
  sequenceNumber : Word
  expectedSequence : Word
  sequenceValid : Bool
  errorMsg : String

def nasSequenceContextInit : NasSequenceContext := ⟨.idle, 0, 0, 0, true, ""⟩

def nasSeqStateToString : NasSeqState → String
  | .idle => "IDLE"
  | .registering => "REGISTERING"
  | .authenticating => "AUTHENTICATING"
  | .securityMode => "SECURITY_MODE"
  | .registered => "REGISTERED"
  | .pduSessionPending => "PDU_SESSION_PENDING"
  | .connected => "CONNECTED"
  | .deregistering => "DEREGISTERING"

/-- A case of the switch: where the message may come, what it is called otherwise, and where it leads. -/
structure NasSequenceRule where
  allowed : List NasSeqState
  invalid : String
  newState : NasSeqState → NasSeqState

/-- Any other type may come anywhere. -/
def nasSequenceRule (msgType : Byte) : Option NasSequenceRule :=
  if msgType = NasMessageType.registrationRequest.toByte then
    some ⟨[.idle, .registered], "Invalid registration request", fun _ => .registering⟩
  else if msgType = NasMessageType.authenticationRequest.toByte then
    some ⟨[.registering], "Invalid auth request", fun _ => .authenticating⟩
  else if msgType = NasMessageType.authenticationResponse.toByte then
    some ⟨[.authenticating], "Invalid auth response", fun _ => .securityMode⟩
  else if msgType = NasMessageType.securityModeCommand.toByte then
    some ⟨[.securityMode], "Invalid security mode command", id⟩
  else if msgType = NasMessageType.securityModeComplete.toByte then
    some ⟨[.securityMode], "Invalid security mode complete", fun _ => .registered⟩
  else if msgType = NasMessageType.registrationAccept.toByte then
    some ⟨[.registering, .securityMode], "Invalid registration accept", fun _ => .registered⟩
  else if msgType = NasMessageType.pduSessionEstablishmentRequest.toByte then
    some ⟨[.registered, .connected], "Invalid PDU session request", fun _ => .pduSessionPending⟩
  else if msgType = NasMessageType.pduSessionEstablishmentAccept.toByte then
    some ⟨[.pduSessionPending], "Invalid PDU session accept", fun _ => .connected⟩
  else if msgType = NasMessageType.deregistrationRequest.toByte then
    some ⟨[.registered, .connected], "Invalid deregistration request", fun _ => .deregistering⟩
  else none

/-- Where a message leads, if it may come. -/
def nasNextState (state : NasSeqState) (msgType : Byte) : Option NasSeqState :=
  match nasSequenceRule msgType with
  | some rule => if state ∈ rule.allowed then some (rule.newState state) else none
  | none => some state

def nasSequenceFail (ctx : NasSequenceContext) (errorMsg : String) : NasSequenceContext × NasValidationResult :=
  ({ ctx with errorMsg, sequenceValid := false }, .errorSequence)

/-- The number is compared where one is expected, and the state is kept if it is another one. -/
def nasSequenceAdvance (ctx : NasSequenceContext) (newState : NasSeqState) (msgType : Byte) (sequenceNum : Word) :
    NasSequenceContext × NasValidationResult :=
  if 0 < ctx.expectedSequence ∧ sequenceNum ≠ ctx.expectedSequence then
    nasSequenceFail ctx ("Sequence number mismatch: expected " ++ toString ctx.expectedSequence.toNat ++ ", got "
      ++ toString sequenceNum.toNat)
  else ({ ctx with lastMsgType := msgType, sequenceNumber := sequenceNum, currentState := newState }, .ok)

def nasValidateSequence (ctx : NasSequenceContext) (msgType : Byte) (sequenceNum : Word) :
    NasSequenceContext × NasValidationResult :=
  match nasSequenceRule msgType with
  | some rule =>
      if ctx.currentState ∈ rule.allowed then
        nasSequenceAdvance ctx (rule.newState ctx.currentState) msgType sequenceNum
      else nasSequenceFail ctx (rule.invalid ++ " in state " ++ nasSeqStateToString ctx.currentState)
  | none => nasSequenceAdvance ctx ctx.currentState msgType sequenceNum

def nasGetExpectedNextMsgType (ctx : NasSequenceContext) : Byte :=
  match ctx.currentState with
  | .idle => NasMessageType.registrationRequest.toByte
  | .registering => NasMessageType.authenticationRequest.toByte
  | .authenticating => NasMessageType.authenticationResponse.toByte
  | .securityMode => NasMessageType.securityModeComplete.toByte
  | .registered => NasMessageType.pduSessionEstablishmentRequest.toByte
  | .pduSessionPending => NasMessageType.pduSessionEstablishmentAccept.toByte
  | .connected | .deregistering => 0

def nasIsValidStateTransition (before after : NasSeqState) (msgType : Byte) : Bool :=
  match before with
  | .idle => after = .registering ∧ msgType = NasMessageType.registrationRequest.toByte
  | .registering =>
      (after = .authenticating ∧ msgType = NasMessageType.authenticationRequest.toByte)
        ∨ (after = .registered ∧ msgType = NasMessageType.registrationAccept.toByte)
  | .authenticating => after = .securityMode ∧ msgType = NasMessageType.authenticationResponse.toByte
  | .securityMode => after = .registered ∧ msgType = NasMessageType.securityModeComplete.toByte
  | .registered =>
      (after = .pduSessionPending ∧ msgType = NasMessageType.pduSessionEstablishmentRequest.toByte)
        ∨ (after = .deregistering ∧ msgType = NasMessageType.deregistrationRequest.toByte)
  | .pduSessionPending =>
      after = .connected ∧ msgType = NasMessageType.pduSessionEstablishmentAccept.toByte
  | .connected => after = .deregistering ∧ msgType = NasMessageType.deregistrationRequest.toByte
  | .deregistering => after = .idle

/-! ### One message -/

/-- What a message that is taken does to the state. -/
inductive NasSequenceMove : NasSeqState → Byte → NasSeqState → Prop where
  | registrationRequest {state : NasSeqState} (hstate : state = .idle ∨ state = .registered) :
      NasSequenceMove state NasMessageType.registrationRequest.toByte .registering
  | authenticationRequest : NasSequenceMove .registering NasMessageType.authenticationRequest.toByte .authenticating
  | authenticationResponse : NasSequenceMove .authenticating NasMessageType.authenticationResponse.toByte .securityMode
  | securityModeCommand : NasSequenceMove .securityMode NasMessageType.securityModeCommand.toByte .securityMode
  | securityModeComplete : NasSequenceMove .securityMode NasMessageType.securityModeComplete.toByte .registered
  | registrationAccept {state : NasSeqState} (hstate : state = .registering ∨ state = .securityMode) :
      NasSequenceMove state NasMessageType.registrationAccept.toByte .registered
  | pduSessionRequest {state : NasSeqState} (hstate : state = .registered ∨ state = .connected) :
      NasSequenceMove state NasMessageType.pduSessionEstablishmentRequest.toByte .pduSessionPending
  | pduSessionAccept :
      NasSequenceMove .pduSessionPending NasMessageType.pduSessionEstablishmentAccept.toByte .connected
  | deregistrationRequest {state : NasSeqState} (hstate : state = .registered ∨ state = .connected) :
      NasSequenceMove state NasMessageType.deregistrationRequest.toByte .deregistering
  | other {state : NasSeqState} {msgType : Byte} (hrule : nasSequenceRule msgType = none) :
      NasSequenceMove state msgType state

theorem nasSequenceMove_of_nasNextState {state after : NasSeqState} {msgType : Byte}
    (h : nasNextState state msgType = some after) : NasSequenceMove state msgType after := by
  rw [nasNextState] at h
  cases hrule : nasSequenceRule msgType with
  | none =>
      rw [hrule] at h
      cases h
      exact .other hrule
  | some rule =>
      rw [hrule] at h
      dsimp only at h
      split at h
      · rename_i hallowed
        obtain rfl := Option.some.inj h
        rw [nasSequenceRule] at hrule
        split_ifs at hrule with hreg hauth hresp hcommand hcomplete haccept hrequest hsession hderegister
        all_goals
          obtain rfl := Option.some.inj hrule
          simp only [List.mem_cons, List.not_mem_nil, or_false] at hallowed
        · exact hreg ▸ .registrationRequest hallowed
        · exact hauth ▸ hallowed ▸ .authenticationRequest
        · exact hresp ▸ hallowed ▸ .authenticationResponse
        · exact hcommand ▸ hallowed ▸ .securityModeCommand
        · exact hcomplete ▸ hallowed ▸ .securityModeComplete
        · exact haccept ▸ .registrationAccept hallowed
        · exact hrequest ▸ .pduSessionRequest hallowed
        · exact hsession ▸ hallowed ▸ .pduSessionAccept
        · exact hderegister ▸ .deregistrationRequest hallowed
      · cases h

/-- Where no number is expected, a message that may come is taken, and of another one only an error text is
kept. -/
theorem nasValidateSequence_cases {ctx : NasSequenceContext} (h : ctx.expectedSequence = 0) (msgType : Byte)
    (sequenceNum : Word) :
    (∃ after, NasSequenceMove ctx.currentState msgType after
        ∧ nasValidateSequence ctx msgType sequenceNum
          = ({ ctx with lastMsgType := msgType, sequenceNumber := sequenceNum, currentState := after }, .ok))
      ∨ (nasNextState ctx.currentState msgType = none
        ∧ ∃ errorMsg, nasValidateSequence ctx msgType sequenceNum = nasSequenceFail ctx errorMsg) := by
  have hadvance : ∀ after, nasSequenceAdvance ctx after msgType sequenceNum
      = ({ ctx with lastMsgType := msgType, sequenceNumber := sequenceNum, currentState := after }, .ok) := by
    intro after
    rw [nasSequenceAdvance, h]
    exact if_neg fun hexpected => absurd hexpected.1 (BitVec.lt_irrefl 0)
  have hmove := @nasSequenceMove_of_nasNextState ctx.currentState
  rw [nasValidateSequence]
  cases hrule : nasSequenceRule msgType with
  | none => exact Or.inl ⟨_, .other hrule, hadvance _⟩
  | some rule =>
      dsimp only
      by_cases hallowed : ctx.currentState ∈ rule.allowed
      · rw [if_pos hallowed]
        refine Or.inl ⟨_, hmove ?_, hadvance _⟩
        rw [nasNextState, hrule]
        exact if_pos hallowed
      · rw [if_neg hallowed]
        refine Or.inr ⟨?_, _, rfl⟩
        rw [nasNextState, hrule]
        exact if_neg hallowed

/-- The message that comes next is taken, and leads on. -/
theorem nasSequenceMove_expected {ctx : NasSequenceContext} (h : nasGetExpectedNextMsgType ctx ≠ 0) :
    ∃ after, NasSequenceMove ctx.currentState (nasGetExpectedNextMsgType ctx) after
      ∧ nasIsValidStateTransition ctx.currentState after (nasGetExpectedNextMsgType ctx) = true := by
  rw [nasGetExpectedNextMsgType] at h ⊢
  cases hstate : ctx.currentState with
  | idle => exact ⟨_, .registrationRequest (Or.inl rfl), rfl⟩
  | registering => exact ⟨_, .authenticationRequest, rfl⟩
  | authenticating => exact ⟨_, .authenticationResponse, rfl⟩
  | securityMode => exact ⟨_, .securityModeComplete, rfl⟩
  | registered => exact ⟨_, .pduSessionRequest (Or.inl rfl), rfl⟩
  | pduSessionPending => exact ⟨_, .pduSessionAccept, rfl⟩
  | connected | deregistering =>
      rw [hstate] at h
      exact absurd rfl h

/-- The messages that change the state but are not among the transitions. -/
def nasBeyondTransitions (before after : NasSeqState) (msgType : Byte) : Prop :=
  (before = .registered ∧ after = .registering ∧ msgType = NasMessageType.registrationRequest.toByte)
    ∨ (before = .securityMode ∧ after = .registered ∧ msgType = NasMessageType.registrationAccept.toByte)
    ∨ (before = .connected ∧ after = .pduSessionPending
      ∧ msgType = NasMessageType.pduSessionEstablishmentRequest.toByte)

/-- **The two descriptions of the order differ by three messages, and in that nothing leads back to idle.** -/
theorem nasSequenceMove_iff_transition {before after : NasSeqState} {msgType : Byte} (hne : after ≠ before) :
    NasSequenceMove before msgType after
      ↔ (before ≠ .deregistering ∧ nasIsValidStateTransition before after msgType = true)
        ∨ nasBeyondTransitions before after msgType := by
  constructor
  · intro h
    cases h with
    | registrationRequest hstate =>
        rcases hstate with rfl | rfl
        · exact Or.inl ⟨by decide, rfl⟩
        · exact Or.inr (Or.inl ⟨rfl, rfl, rfl⟩)
    | authenticationRequest => exact Or.inl ⟨by decide, rfl⟩
    | authenticationResponse => exact Or.inl ⟨by decide, rfl⟩
    | securityModeCommand => exact absurd rfl hne
    | securityModeComplete => exact Or.inl ⟨by decide, rfl⟩
    | registrationAccept hstate =>
        rcases hstate with rfl | rfl
        · exact Or.inl ⟨by decide, rfl⟩
        · exact Or.inr (Or.inr (Or.inl ⟨rfl, rfl, rfl⟩))
    | pduSessionRequest hstate =>
        rcases hstate with rfl | rfl
        · exact Or.inl ⟨by decide, rfl⟩
        · exact Or.inr (Or.inr (Or.inr ⟨rfl, rfl, rfl⟩))
    | pduSessionAccept => exact Or.inl ⟨by decide, rfl⟩
    | deregistrationRequest hstate => rcases hstate with rfl | rfl <;> exact Or.inl ⟨by decide, rfl⟩
    | other hrule => exact absurd rfl hne
  · rintro (⟨hbefore, hvalid⟩ | ⟨rfl, rfl, rfl⟩ | ⟨rfl, rfl, rfl⟩ | ⟨rfl, rfl, rfl⟩)
    · cases before with
      | idle =>
          obtain ⟨rfl, rfl⟩ := of_decide_eq_true hvalid
          exact .registrationRequest (Or.inl rfl)
      | registering =>
          obtain ⟨rfl, rfl⟩ | ⟨rfl, rfl⟩ := of_decide_eq_true hvalid
          · exact .authenticationRequest
          · exact .registrationAccept (Or.inl rfl)
      | authenticating =>
          obtain ⟨rfl, rfl⟩ := of_decide_eq_true hvalid
          exact .authenticationResponse
      | securityMode =>
          obtain ⟨rfl, rfl⟩ := of_decide_eq_true hvalid
          exact .securityModeComplete
      | registered =>
          obtain ⟨rfl, rfl⟩ | ⟨rfl, rfl⟩ := of_decide_eq_true hvalid
          · exact .pduSessionRequest (Or.inl rfl)
          · exact .deregistrationRequest (Or.inl rfl)
      | pduSessionPending =>
          obtain ⟨rfl, rfl⟩ := of_decide_eq_true hvalid
          exact .pduSessionAccept
      | connected =>
          obtain ⟨rfl, rfl⟩ := of_decide_eq_true hvalid
          exact .deregistrationRequest (Or.inr rfl)
      | deregistering => exact absurd rfl hbefore
    · exact .registrationRequest (Or.inr rfl)
    · exact .registrationAccept (Or.inr rfl)
    · exact .pduSessionRequest (Or.inr rfl)

/-! ### Runs -/

def nasSequenceStep (ctx : NasSequenceContext) (call : Byte × Word) : NasSequenceContext :=
  (nasValidateSequence ctx call.1 call.2).1

/-- The type of a message that is taken. -/
def nasSequenceTaken (ctx : NasSequenceContext) (call : Byte × Word) : Option Byte :=
  if (nasValidateSequence ctx call.1 call.2).2 = .ok then some call.1 else none

/-- What is begun by one message and finished by another. -/
inductive NasSequenceProcedure where
  | registration
  | authentication
  | sessionEstablishment
  | deregistration

namespace NasSequenceProcedure

def begins : NasSequenceProcedure → Byte → Bool
  | registration, msgType => msgType = NasMessageType.registrationRequest.toByte
  | authentication, msgType => msgType = NasMessageType.authenticationRequest.toByte
  | sessionEstablishment, msgType => msgType = NasMessageType.pduSessionEstablishmentRequest.toByte
  | deregistration, msgType => msgType = NasMessageType.deregistrationRequest.toByte

/-- No message finishes a deregistration. -/
def finishes : NasSequenceProcedure → Byte → Bool
  | registration, msgType =>
      msgType = NasMessageType.registrationAccept.toByte ∨ msgType = NasMessageType.securityModeComplete.toByte
  | authentication, msgType => msgType = NasMessageType.authenticationResponse.toByte
  | sessionEstablishment, msgType => msgType = NasMessageType.pduSessionEstablishmentAccept.toByte
  | deregistration, _ => false

def underWay : NasSequenceProcedure → NasSeqState → Bool
  | registration, state => state = .registering ∨ state = .authenticating ∨ state = .securityMode
  | authentication, state => state = .authenticating
  | sessionEstablishment, state => state = .pduSessionPending
  | deregistration, state => state = .deregistering

theorem not_of_nasSequenceRule {msgType : Byte} (hrule : nasSequenceRule msgType = none)
    (procedure : NasSequenceProcedure) :
    procedure.begins msgType = false ∧ procedure.finishes msgType = false := by
  have hne : ∀ type : NasMessageType, nasSequenceRule type.toByte ≠ none → msgType ≠ type.toByte := by
    rintro type hknown rfl
    exact hknown hrule
  cases procedure with
  | registration =>
      refine ⟨decide_eq_false (hne _ (by decide)), decide_eq_false ?_⟩
      exact not_or_intro (hne _ (by decide)) (hne _ (by decide))
  | authentication => exact ⟨decide_eq_false (hne _ (by decide)), decide_eq_false (hne _ (by decide))⟩
  | sessionEstablishment => exact ⟨decide_eq_false (hne _ (by decide)), decide_eq_false (hne _ (by decide))⟩
  | deregistration => exact ⟨decide_eq_false (hne _ (by decide)), rfl⟩

/-- A message that is taken begins the procedure, finishes it, or leaves it as it is. -/
theorem balanced (procedure : NasSequenceProcedure) {before after : NasSeqState} {msgType : Byte}
    (h : NasSequenceMove before msgType after) :
    (procedure.underWay after).toNat + (procedure.finishes msgType).toNat
      = (procedure.underWay before).toNat + (procedure.begins msgType).toNat := by
  cases h with
  | registrationRequest hstate | registrationAccept hstate | pduSessionRequest hstate
  | deregistrationRequest hstate =>
      rcases hstate with rfl | rfl
      · cases procedure <;> rfl
      · cases procedure <;> rfl
  | authenticationRequest | authenticationResponse | securityModeCommand | securityModeComplete
  | pduSessionAccept => cases procedure <;> rfl
  | other hrule =>
      obtain ⟨hbegins, hfinishes⟩ := not_of_nasSequenceRule hrule procedure
      rw [hbegins, hfinishes]

end NasSequenceProcedure

theorem expectedSequence_nasSequenceStep {ctx : NasSequenceContext} (h : ctx.expectedSequence = 0)
    (call : Byte × Word) : (nasSequenceStep ctx call).expectedSequence = 0 := by
  rw [nasSequenceStep]
  obtain ⟨after, -, heq⟩ | ⟨-, errorMsg, heq⟩ := nasValidateSequence_cases h call.1 call.2
  · rw [heq]
    exact h
  · rw [heq]
    exact h

theorem sequenceValid_iff {ctx : NasSequenceContext} (h : ctx.expectedSequence = 0) (calls : List (Byte × Word)) :
    (calls.foldl nasSequenceStep ctx).sequenceValid = true
      ↔ ctx.sequenceValid = true
        ∧ (emitted nasSequenceStep nasSequenceTaken ctx calls).length = calls.length := by
  induction calls generalizing ctx with
  | nil => exact (and_iff_left rfl).symm
  | cons call calls ih =>
      have hle := length_emitted_le nasSequenceStep nasSequenceTaken (nasSequenceStep ctx call) calls
      rw [List.foldl_cons, ih (expectedSequence_nasSequenceStep h call), emitted, List.length_append,
        List.length_cons]
      obtain ⟨after, -, heq⟩ | ⟨-, errorMsg, heq⟩ := nasValidateSequence_cases h call.1 call.2
      · have htaken : nasSequenceTaken ctx call = some call.1 := by rw [nasSequenceTaken, heq, if_pos rfl]
        have hstep : (nasSequenceStep ctx call).sequenceValid = ctx.sequenceValid := by rw [nasSequenceStep, heq]
        rw [htaken, hstep, Option.toList_some, List.length_singleton, Nat.add_comm 1, Nat.add_right_cancel_iff]
      · have htaken : nasSequenceTaken ctx call = none := by
          rw [nasSequenceTaken, heq]
          rfl
        have hstep : (nasSequenceStep ctx call).sequenceValid = false := by
          rw [nasSequenceStep, heq]
          rfl
        rw [htaken, hstep]
        refine iff_of_false (fun hvalid => Bool.false_ne_true hvalid.1) fun hall => ?_
        rw [Option.toList_none, List.length_nil] at hall
        omega

theorem countP_toList_taken {ctx : NasSequenceContext} {call : Byte × Word} {taken : Option Byte}
    (h : nasSequenceTaken ctx call = taken) (p : Byte → Bool) :
    (nasSequenceTaken ctx call).toList.countP p = (taken.elim false p).toNat := by
  rw [h]
  cases taken with
  | none => rfl
  | some msgType =>
      rw [Option.toList_some, List.countP_singleton]
      change _ = (p msgType).toNat
      cases p msgType <;> rfl

/-- **Every procedure that is begun is finished once or under way, whatever messages come and whatever numbers they
have**, and the context is valid as long as every message has been taken. -/
theorem nas_sequence_accounts (calls : List (Byte × Word)) :
    let ctx := calls.foldl nasSequenceStep nasSequenceContextInit
    let taken := emitted nasSequenceStep nasSequenceTaken nasSequenceContextInit calls
    (∀ procedure : NasSequenceProcedure,
        (procedure.underWay ctx.currentState).toNat + taken.countP procedure.finishes
          = taken.countP procedure.begins)
      ∧ (ctx.sequenceValid = true ↔ taken.length = calls.length) := by
  have hinit : nasSequenceContextInit.expectedSequence = 0 := rfl
  refine ⟨fun procedure => ?_, ?_⟩
  · have hstep : ∀ ctx call, ctx.expectedSequence = 0 →
        (procedure.underWay (nasSequenceStep ctx call).currentState).toNat
            + (nasSequenceTaken ctx call).toList.countP procedure.finishes
          = (procedure.underWay ctx.currentState).toNat
            + (nasSequenceTaken ctx call).toList.countP procedure.begins := by
      intro ctx call h
      obtain ⟨after, hmove, heq⟩ | ⟨-, errorMsg, heq⟩ := nasValidateSequence_cases h call.1 call.2
      · have htaken : nasSequenceTaken ctx call = some call.1 := by rw [nasSequenceTaken, heq, if_pos rfl]
        rw [countP_toList_taken htaken, countP_toList_taken htaken, nasSequenceStep, heq]
        exact procedure.balanced hmove
      · have htaken : nasSequenceTaken ctx call = none := by
          rw [nasSequenceTaken, heq]
          rfl
        rw [countP_toList_taken htaken, countP_toList_taken htaken, nasSequenceStep, heq]
        rfl
    have hbalance := balance_emitted nasSequenceStep nasSequenceTaken (fun ctx => ctx.expectedSequence = 0)
      (fun ctx => (procedure.underWay ctx.currentState).toNat) procedure.begins procedure.finishes
      (fun ctx call h => expectedSequence_nasSequenceStep h call) hstep hinit calls
    have hidle : (procedure.underWay nasSequenceContextInit.currentState).toNat = 0 := by cases procedure <;> rfl
    rwa [hidle, Nat.zero_add] at hbalance
  · exact (sequenceValid_iff hinit calls).trans (and_iff_right rfl)

end Uesim
