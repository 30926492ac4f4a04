import Uesim.Library.Descriptors
import Uesim.Rrc.Procedures

/-!
# The gNBs of a UE and their sockets

A UE has a serving gNB and up to eight candidates, and each gNB has two sockets of its own. What the system
answers comes from outside: where there is memory for a gNB, which descriptor a socket gets, and how
connecting ends. The mutexes are ordinary ones, and locking one does not fail.
-/

namespace Uesim.Core

structure GnbAddr where
  sinAddr : BitVec 32
  sinPort : BitVec 16
  deriving DecidableEq

structure GnbContext where
  state : GnbState
  addr : GnbAddr
  ngapSocket : Option Nat
  gtpuSocket : Option Nat
  rsrp : Int
  isServing : Bool
  deriving DecidableEq

/-- A gNB goes by the place of its context in memory. The UE keeps sockets and the address of the serving gNB
a second time. -/
structure UeContext where
  gnbs : Nat → Option GnbContext
  servingGnb : Option Nat
  candidateGnbs : List (Option Nat)
  ngapSocket : Option Nat
  gtpuSocket : Option Nat
  gnbAddr : GnbAddr
  active : Bool
  fds : Descriptors

def UeContext.initial (gnbAddr : GnbAddr) (active : Bool) : UeContext :=
  { gnbs := fun _ => none
    servingGnb := none
    candidateGnbs := []
    ngapSocket := none
    gtpuSocket := none
    gnbAddr
    active
    fds := Descriptors.none }

/-- How `connect` ends: at once, or later with what `select` returns and the error of the socket. -/
inductive ConnectResult where
  | connected
  | inProgress (selected : Int) (sockError : Option Int)
  | failed

def ConnectResult.succeeds : ConnectResult → Bool
  | .connected => true
  | .inProgress selected sockError => selected > 0 && sockError == some 0
  | .failed => false

structure ConnectAttempt where
  ngapSocket : Option Nat
  nonblocking : Bool
  result : ConnectResult

def uesimConnectMaxRetries : Nat := 3

structure ConnectOutcome where
  attempts : Vector ConnectAttempt uesimConnectMaxRetries
  gtpuSocket : Option Nat

/-- `calloc` finds a place for a context, and its mutex can be made. -/
structure AllocOutcome where
  place : Option Nat
  mutexMade : Bool

abbrev UeAnswer := UeContext × Except UesimError Unit

namespace UeContext

def setGnb (ue : UeContext) (gnb : Nat) (ctx : GnbContext) : UeContext :=
  { ue with gnbs := Function.update ue.gnbs gnb (some ctx) }

def freeGnb (ue : UeContext) (gnb : Nat) : UeContext :=
  { ue with gnbs := Function.update ue.gnbs gnb none }

/-- There is only memory where no other gNB is. -/
def calloc (ue : UeContext) (outcome : AllocOutcome) : Option Nat :=
  outcome.place.filter fun gnb => (ue.gnbs gnb).isNone

end UeContext

/-! ### Connections -/

/-- The attempts that are left. -/
def connectWithRetry (fds : Descriptors) (ctx : GnbContext) (lastError : UesimError) :
    List ConnectAttempt → Descriptors × GnbContext × Except UesimError Unit
  | [] => (fds, ctx, .error lastError)
  | attempt :: attempts =>
      match fds.openNew attempt.ngapSocket with
      | (fds, none) => connectWithRetry fds { ctx with ngapSocket := none } lastError attempts
      | (fds, some fd) =>
          if !attempt.nonblocking then
            connectWithRetry (fds.close fd) { ctx with ngapSocket := none } lastError attempts
          else if attempt.result.succeeds then (fds, { ctx with ngapSocket := some fd }, .ok ())
          else connectWithRetry (fds.close fd) { ctx with ngapSocket := none } .timeout attempts

/-- A pointer that points to no gNB stands for `NULL`. -/
def uesimConnectGnb (ue : UeContext) (gnb : Nat) (outcome : ConnectOutcome) : UeAnswer :=
  match ue.gnbs gnb with
  | none => (ue, .error .invalidParam)
  | some ctx =>
      if ctx.state = .connected then (ue, .ok ())
      else
        match connectWithRetry ue.fds ctx .socket outcome.attempts.toList with
        | (fds, ctx, .error e) => ({ ue.setGnb gnb { ctx with state := .disconnected } with fds }, .error e)
        | (fds, ctx, .ok ()) =>
            match fds.openNew outcome.gtpuSocket with
            | (fds, none) =>
                ({ ue.setGnb gnb
                    { ctx with state := .disconnected, ngapSocket := none, gtpuSocket := none } with
                    fds := fds.release ctx.ngapSocket }, .error .socket)
            | (fds, some gtpu) =>
                let ctx :=
                  { ctx with
                    gtpuSocket := some gtpu
                    state := if ctx.isServing then .connected else .handoverCandidate }
                let ue := { ue.setGnb gnb ctx with fds }
                if ctx.isServing then
                  ({ ue with ngapSocket := ctx.ngapSocket, gtpuSocket := ctx.gtpuSocket }, .ok ())
                else (ue, .ok ())

def uesimDisconnectGnb (ue : UeContext) (gnb : Nat) : UeAnswer :=
  match ue.gnbs gnb with
  | none => (ue, .error .invalidParam)
  | some ctx =>
      let fds := (ue.fds.release ctx.ngapSocket).release ctx.gtpuSocket
      let ue :=
        { ue.setGnb gnb { ctx with state := .disconnected, ngapSocket := none, gtpuSocket := none } with fds }
      if ctx.isServing then ({ ue with ngapSocket := none, gtpuSocket := none }, .ok ())
      else (ue, .ok ())

def uesimReconnectGnb (ue : UeContext) (gnb : Nat) (outcome : ConnectOutcome) : UeAnswer :=
  match ue.gnbs gnb with
  | none => (ue, .error .invalidParam)
  | some ctx =>
      let ue := if ctx.state = .connected then (uesimDisconnectGnb ue gnb).1 else ue
      uesimConnectGnb ue gnb outcome

/-! ### The serving gNB and the candidates -/

/-- The serving gNB is not looked at. -/
def UeContext.isDuplicate (ue : UeContext) (addr : GnbAddr) : Bool :=
  ue.candidateGnbs.any fun candidate =>
    match candidate.bind ue.gnbs with
    | none => false
    | some other => other.addr = addr

def uesimAddGnb (ue : UeContext) (addr : GnbAddr) (outcome : AllocOutcome) : UeAnswer :=
  if ue.candidateGnbs.length ≥ maxGnbCandidates ∧ ue.servingGnb ≠ none then (ue, .error .capacity)
  else
    match ue.calloc outcome with
    | none => (ue, .error .memory)
    | some gnb =>
        if !outcome.mutexMade then (ue, .error .thread)
        else
          let ctx : GnbContext :=
            { state := .disconnected
              addr
              ngapSocket := none
              gtpuSocket := none
              rsrp := -140
              isServing := false }
          match ue.servingGnb with
          | none =>
              ({ ue.setGnb gnb { ctx with isServing := true } with servingGnb := some gnb, gnbAddr := addr },
                .ok ())
          | some _ =>
              if ue.isDuplicate addr then (ue, .error .alreadyExists)
              else
                ({ ue.setGnb gnb { ctx with state := .handoverCandidate } with
                    candidateGnbs := ue.candidateGnbs ++ [some gnb] }, .ok ())

def uesimRemoveGnb (ue : UeContext) (gnb : Nat) : UeAnswer :=
  match ue.gnbs gnb with
  | none => (ue, .error .invalidParam)
  | some ctx =>
      if ue.servingGnb = some gnb then (ue, .error .invalidParam)
      else
        match ue.candidateGnbs.idxOf? (some gnb) with
        | none => (ue, .error .notFound)
        | some found =>
            let ue := if ctx.state = .connected then (uesimDisconnectGnb ue gnb).1 else ue
            ({ ue.freeGnb gnb with candidateGnbs := ue.candidateGnbs.eraseIdx found }, .ok ())

/-- The gNB that has been serving goes to the end of the candidates if there is room, and the new one is
taken out from among them. -/
def uesimSwitchServingGnb (ue : UeContext) (newGnb : Nat) : UeAnswer :=
  match ue.gnbs newGnb with
  | none => (ue, .error .invalidParam)
  | some _ =>
      match ue.candidateGnbs.idxOf? (some newGnb) with
      | none => (ue, .error .notFound)
      | some found =>
          let ue :=
            match ue.servingGnb.bind fun old => (ue.gnbs old).map (old, ·) with
            | none => ue
            | some (old, ctx) =>
                let ue := ue.setGnb old { ctx with isServing := false, state := .handoverCandidate }
                if ue.candidateGnbs.length < maxGnbCandidates then
                  { ue with candidateGnbs := ue.candidateGnbs ++ [some old] }
                else ue
          match ue.gnbs newGnb with
          | none => (ue, .error .invalidParam)
          | some ctx =>
              ({ ue.setGnb newGnb { ctx with isServing := true, state := .connected } with
                  servingGnb := some newGnb
                  gnbAddr := ctx.addr
                  ngapSocket := ctx.ngapSocket
                  gtpuSocket := ctx.gtpuSocket
                  candidateGnbs := ue.candidateGnbs.eraseIdx found }, .ok ())

/-- The first of the candidates with the highest power above the invalid one. -/
def bestCandidate (ue : UeContext) : List (Option Nat) → Option (Nat × Int) → Option (Nat × Int)
  | [], best => best
  | candidate :: candidates, best =>
      match candidate.bind fun gnb => (ue.gnbs gnb).map fun ctx => (gnb, ctx.rsrp) with
      | none => bestCandidate ue candidates best
      | some (gnb, rsrp) =>
          if rsrp > (best.map Prod.snd).getD (-140) then bestCandidate ue candidates (some (gnb, rsrp))
          else bestCandidate ue candidates best

def executeHandoverProcedure (ue : UeContext) (outcome : ConnectOutcome) : UeAnswer :=
  if ue.candidateGnbs.length = 0 then (ue, .error .notFound)
  else
    match bestCandidate ue ue.candidateGnbs none with
    | none => (ue, .error .notFound)
    | some (best, _) =>
        match uesimConnectGnb ue best outcome with
        | (ue, .error e) => (ue, .error e)
        | (ue, .ok ()) => uesimSwitchServingGnb ue best

def disconnectCandidates : List (Option Nat) → UeContext → UeContext
  | [], ue => ue
  | none :: candidates, ue => disconnectCandidates candidates ue
  | some gnb :: candidates, ue => disconnectCandidates candidates (uesimDisconnectGnb ue gnb).1

def uesimStopUe (ue : UeContext) : UeAnswer :=
  if !ue.active then (ue, .ok ())
  else
    let ue :=
      match ue.servingGnb with
      | none => ue
      | some serving => (uesimDisconnectGnb ue serving).1
    let ue := disconnectCandidates ue.candidateGnbs ue
    ({ ue with
        ngapSocket := none
        gtpuSocket := none
        active := false
        fds := (ue.fds.release ue.ngapSocket).release ue.gtpuSocket }, .ok ())

/-! ### What connecting comes to -/

/-- The descriptor that an attempt connects. -/
def ConnectAttempt.connected (attempt : ConnectAttempt) (fds : Descriptors) : Option Nat :=
  if attempt.nonblocking && attempt.result.succeeds then (fds.openNew attempt.ngapSocket).2 else none

/-- Some attempt connects a descriptor, and there is a second one behind it. -/
def ConnectOutcome.Succeeds (outcome : ConnectOutcome) (fds : Descriptors) : Prop :=
  ∃ ngap, outcome.attempts.toList.findSome? (·.connected fds) = some ngap ∧
    ((fds.opened ngap).openNew outcome.gtpuSocket).2 ≠ none

variable {ue : UeContext} {gnb : Nat} {ctx : GnbContext} {outcome : ConnectOutcome}

theorem connectWithRetry_cases (fds : Descriptors) (ctx : GnbContext) (lastError : UesimError)
    (attempts : List ConnectAttempt) :
    (∃ error, attempts.findSome? (·.connected fds) = none ∧
      connectWithRetry fds { ctx with ngapSocket := none } lastError attempts
        = (fds, { ctx with ngapSocket := none }, .error error)) ∨
      ∃ ngap, attempts.findSome? (·.connected fds) = some ngap ∧ fds.isOpen ngap = false ∧
        connectWithRetry fds { ctx with ngapSocket := none } lastError attempts
          = (fds.opened ngap, { ctx with ngapSocket := some ngap }, .ok ()) := by
  induction attempts generalizing lastError with
  | nil => exact .inl ⟨lastError, rfl, rfl⟩
  | cons attempt attempts ih =>
      unfold connectWithRetry
      rw [List.findSome?_cons]
      unfold ConnectAttempt.connected
      rcases fds.openNew_cases attempt.ngapSocket with hnone | ⟨fd, hfresh, hopen⟩
      · rw [hnone, ite_self]
        exact ih lastError
      · rw [hopen]
        dsimp only
        rw [Descriptors.close_opened hfresh]
        cases attempt.nonblocking with
        | false => exact ih lastError
        | true =>
            cases attempt.result.succeeds with
            | false => exact ih .timeout
            | true => exact .inr ⟨fd, rfl, hfresh, rfl⟩

/-- The first attempt already takes the place of the old socket. -/
theorem connectWithRetry_cons (fds : Descriptors) (ctx : GnbContext) (lastError : UesimError)
    (attempt : ConnectAttempt) (attempts : List ConnectAttempt) :
    connectWithRetry fds ctx lastError (attempt :: attempts)
      = connectWithRetry fds { ctx with ngapSocket := none } lastError (attempt :: attempts) := rfl

theorem uesimDisconnectGnb_eq (hgnb : ue.gnbs gnb = some ctx) :
    (uesimDisconnectGnb ue gnb).1
      = { ue.setGnb gnb { ctx with state := .disconnected, ngapSocket := none, gtpuSocket := none } with
          fds := (ue.fds.release ctx.ngapSocket).release ctx.gtpuSocket
          ngapSocket := if ctx.isServing then none else ue.ngapSocket
          gtpuSocket := if ctx.isServing then none else ue.gtpuSocket } := by
  unfold uesimDisconnectGnb
  rw [hgnb]
  dsimp only
  cases ctx.isServing <;> rfl

theorem uesimConnectGnb_connected (hgnb : ue.gnbs gnb = some ctx) (hstate : ctx.state = .connected)
    (outcome : ConnectOutcome) : uesimConnectGnb ue gnb outcome = (ue, .ok ()) := by
  unfold uesimConnectGnb
  rw [hgnb]
  exact if_pos hstate

/-- **Connecting fails with all descriptors as they were, or opens two of them.** -/
theorem uesimConnectGnb_cases (hgnb : ue.gnbs gnb = some ctx) (hstate : ctx.state ≠ .connected)
    (outcome : ConnectOutcome) :
    (∃ error gtpuSocket, ¬outcome.Succeeds ue.fds ∧ (gtpuSocket = ctx.gtpuSocket ∨ gtpuSocket = none) ∧
        uesimConnectGnb ue gnb outcome
          = (ue.setGnb gnb { ctx with state := .disconnected, ngapSocket := none, gtpuSocket },
            .error error)) ∨
      ∃ ngap gtpu, outcome.Succeeds ue.fds ∧ ue.fds.isOpen ngap = false ∧
        (ue.fds.opened ngap).isOpen gtpu = false ∧
        uesimConnectGnb ue gnb outcome
          = ({ ue.setGnb gnb
                { ctx with
                  ngapSocket := some ngap
                  gtpuSocket := some gtpu
                  state := if ctx.isServing then .connected else .handoverCandidate } with
                fds := (ue.fds.opened ngap).opened gtpu
                ngapSocket := if ctx.isServing then some ngap else ue.ngapSocket
                gtpuSocket := if ctx.isServing then some gtpu else ue.gtpuSocket }, .ok ()) := by
  obtain ⟨attempt, attempts, hattempts⟩ :
      ∃ attempt attempts, outcome.attempts.toList = attempt :: attempts := by
    refine List.exists_cons_of_ne_nil fun hnil => ?_
    have hlength := outcome.attempts.length_toList
    rw [hnil] at hlength
    cases hlength
  unfold uesimConnectGnb ConnectOutcome.Succeeds
  rw [hgnb, hattempts]
  dsimp only
  rw [if_neg hstate, connectWithRetry_cons]
  rcases connectWithRetry_cases ue.fds ctx .socket (attempt :: attempts) with
    ⟨error, hfind, herror⟩ | ⟨ngap, hfind, hfresh, hngap⟩
  · rw [herror, hfind]
    refine .inl ⟨error, ctx.gtpuSocket, ?_, .inl rfl, rfl⟩
    rintro ⟨ngap, hsome, -⟩
    cases hsome
  · rw [hngap, hfind]
    dsimp only
    rcases (ue.fds.opened ngap).openNew_cases outcome.gtpuSocket with hnone | ⟨gtpu, hfresh', hgtpu⟩
    · rw [hnone]
      refine .inl ⟨.socket, none, ?_, .inr rfl, ?_⟩
      · rintro ⟨ngap', hsome, hgtpu⟩
        obtain rfl := Option.some.inj hsome
        exact hgtpu (congrArg Prod.snd hnone)
      dsimp only [Descriptors.release]
      rw [Descriptors.close_opened hfresh]
      rfl
    · rw [hgtpu]
      refine .inr ⟨ngap, gtpu, ⟨ngap, rfl, ?_⟩, hfresh, hfresh', ?_⟩
      · rw [hgtpu]
        exact Option.some_ne_none gtpu
      dsimp only
      cases ctx.isServing <;> rfl

end Uesim.Core
