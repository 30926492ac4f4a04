import Uesim.Core.GnbTopology

/-!
# Who holds the sockets

The sockets of a UE are held by its gNBs, and whether one is connected goes by its state and not by its
sockets. A candidate with open sockets is not connected as far as its state says, so connecting it again and
removing it lose them, and a candidate without sockets is connected as soon as it serves.
-/

namespace Uesim.Core

inductive SocketKind where
  | ngap
  | gtpu
  deriving DecidableEq

def GnbContext.socket (ctx : GnbContext) : SocketKind → Option Nat
  | .ngap => ctx.ngapSocket
  | .gtpu => ctx.gtpuSocket

namespace UeContext

def socket (ue : UeContext) : SocketKind → Option Nat
  | .ngap => ue.ngapSocket
  | .gtpu => ue.gtpuSocket

/-- The places in which gNBs hold sockets. -/
def slot (ue : UeContext) (place : Nat × SocketKind) : Option Nat :=
  (ue.gnbs place.1).bind fun ctx => ctx.socket place.2

def Has (ue : UeContext) (gnb : Nat) : Prop := ue.servingGnb = some gnb ∨ some gnb ∈ ue.candidateGnbs

/-- Each open socket of a UE has its one gNB, and what is used or connected is open. -/
structure HoldsSockets (ue : UeContext) : Prop where
  held : ∀ fd, ue.fds.isOpen fd = true → ∃! gnb, ue.Has gnb ∧ ∃ kind, ue.slot (gnb, kind) = some fd
  once : ue.fds.twice = false
  connected : ∀ gnb ctx, ue.gnbs gnb = some ctx → ctx.state = .connected →
    ∀ kind, ∃ fd, ctx.socket kind = some fd ∧ ue.fds.isOpen fd = true
  serving : ∀ gnb ctx, ue.servingGnb = some gnb → ue.gnbs gnb = some ctx → ue.socket = ctx.socket

/-- What keeps the sockets in good hands: a gNB has both of them or neither, and is connected only as the
serving one. -/
structure Sound (ue : UeContext) : Prop where
  linked : ue.links.Linked
  owned : ue.fds.Owned ue.slot
  has : ∀ gnb kind, ue.slot (gnb, kind) ≠ none → ue.Has gnb
  paired : ∀ gnb, ue.slot (gnb, .ngap) = none ↔ ue.slot (gnb, .gtpu) = none
  connected : ∀ gnb ctx, ue.gnbs gnb = some ctx → ctx.state = .connected →
    ue.servingGnb = some gnb ∧ ctx.ngapSocket ≠ none
  serving : ∀ kind, ue.socket kind = ue.servingGnb.bind fun gnb => ue.slot (gnb, kind)

end UeContext

inductive SocketOp where
  | add (addr : GnbAddr) (outcome : AllocOutcome)
  | connect (gnb : Nat) (outcome : ConnectOutcome)
  | reconnect (gnb : Nat) (outcome : ConnectOutcome)
  | disconnect (gnb : Nat)
  | switchServing (gnb : Nat)
  | remove (gnb : Nat)
  | stop

def socketStep (ue : UeContext) : SocketOp → UeContext
  | .add addr outcome => (uesimAddGnb ue addr outcome).1
  | .connect gnb outcome => (uesimConnectGnb ue gnb outcome).1
  | .reconnect gnb outcome => (uesimReconnectGnb ue gnb outcome).1
  | .disconnect gnb => (uesimDisconnectGnb ue gnb).1
  | .switchServing gnb => (uesimSwitchServingGnb ue gnb).1
  | .remove gnb => (uesimRemoveGnb ue gnb).1
  | .stop => (uesimStopUe ue).1

namespace UeContext

/-- A gNB that is not connected is connected only without sockets, and only if the UE has it or no connection
comes about. -/
def Connects (ue : UeContext) (gnb : Nat) (outcome : ConnectOutcome) : Prop :=
  ∀ ctx, ue.gnbs gnb = some ctx → ctx.state ≠ .connected →
    ctx.ngapSocket = none ∧ (ue.Has gnb ∨ ¬outcome.Succeeds ue.fds)

/-- A candidate serves with its sockets open and while there is room for the old serving gNB or that has no
sockets, and it is removed with its sockets closed. -/
def KeepsSockets (ue : UeContext) : SocketOp → Prop
  | .connect gnb outcome => ue.Connects gnb outcome
  | .reconnect gnb outcome => ue.Connects gnb outcome
  | .switchServing gnb =>
      some gnb ∈ ue.candidateGnbs → ue.slot (gnb, .ngap) ≠ none ∧
        (ue.candidateGnbs.length < maxGnbCandidates ∨ ue.ngapSocket = none)
  | .remove gnb => some gnb ∈ ue.candidateGnbs → ue.slot (gnb, .ngap) = none
  | _ => True

/-! ### Places -/

variable {ue after : UeContext} {gnb : Nat} {ctx ctx' : GnbContext} {outcome : ConnectOutcome}

theorem socket_ext {socket socket' : SocketKind → Option Nat} (hngap : socket .ngap = socket' .ngap)
    (hgtpu : socket .gtpu = socket' .gtpu) : socket = socket' := by
  funext kind
  cases kind with
  | ngap => exact hngap
  | gtpu => exact hgtpu

theorem slot_eq (h : ue.gnbs gnb = some ctx) (kind : SocketKind) : ue.slot (gnb, kind) = ctx.socket kind := by
  unfold slot
  rw [h, Option.bind_some]

theorem slot_of_gnbs_eq (h : after.gnbs = Function.update ue.gnbs gnb (some ctx)) :
    after.slot
      = Function.update (Function.update ue.slot (gnb, .ngap) ctx.ngapSocket) (gnb, .gtpu)
          ctx.gtpuSocket := by
  funext place
  obtain ⟨other, kind⟩ := place
  by_cases heq : other = gnb
  · subst heq
    rw [slot_eq (by rw [h, Function.update_self])]
    cases kind with
    | ngap =>
        rw [Function.update_of_ne (by simp), Function.update_self]
        rfl
    | gtpu =>
        rw [Function.update_self]
        rfl
  · rw [Function.update_of_ne fun hplace => heq (Prod.mk.inj hplace).1,
      Function.update_of_ne fun hplace => heq (Prod.mk.inj hplace).1]
    unfold slot
    rw [h, Function.update_of_ne heq]

theorem slot_of_gnbs_eq_of_ne (h : after.gnbs = Function.update ue.gnbs gnb (some ctx)) {other : Nat}
    (hne : other ≠ gnb) (kind : SocketKind) : after.slot (other, kind) = ue.slot (other, kind) := by
  unfold slot
  rw [h, Function.update_of_ne hne]

/-- Where no socket changes, all places stay as they are. -/
theorem slot_of_sockets_eq (hgnb : ue.gnbs gnb = some ctx)
    (h : after.gnbs = Function.update ue.gnbs gnb (some ctx'))
    (hngap : ctx'.ngapSocket = ctx.ngapSocket) (hgtpu : ctx'.gtpuSocket = ctx.gtpuSocket) :
    after.slot = ue.slot := by
  rw [slot_of_gnbs_eq h, hngap, hgtpu]
  have hngap' : ue.slot (gnb, .ngap) = ctx.ngapSocket := slot_eq hgnb .ngap
  have hgtpu' : ue.slot (gnb, .gtpu) = ctx.gtpuSocket := slot_eq hgnb .gtpu
  rw [← hngap', Function.update_eq_self, ← hgtpu', Function.update_eq_self]

theorem has_of_links_eq (hlinks : after.links = ue.links) : after.Has gnb ↔ ue.Has gnb := by
  have hserves : after.servingGnb = ue.servingGnb := congrArg GnbLinks.servingGnb hlinks
  have hcandidates : after.candidateGnbs = ue.candidateGnbs := congrArg GnbLinks.candidateGnbs hlinks
  unfold Has
  rw [hserves, hcandidates]

theorem reconnect_of_not_connected (hgnb : ue.gnbs gnb = some ctx) (hstate : ctx.state ≠ .connected) :
    uesimReconnectGnb ue gnb outcome = uesimConnectGnb ue gnb outcome := by
  unfold uesimReconnectGnb
  rw [hgnb]
  dsimp only
  rw [if_neg hstate]

theorem slot_freeGnb_of_ne (ue : UeContext) {other : Nat} (hne : other ≠ gnb) (kind : SocketKind) :
    (ue.freeGnb gnb).slot (other, kind) = ue.slot (other, kind) := by
  unfold slot freeGnb
  dsimp only
  rw [Function.update_of_ne hne]

theorem slot_freeGnb_self (ue : UeContext) (gnb : Nat) (kind : SocketKind) :
    (ue.freeGnb gnb).slot (gnb, kind) = none := by
  unfold slot freeGnb
  dsimp only
  rw [Function.update_self]
  rfl

theorem slot_disconnect_self (ue : UeContext) (gnb : Nat) (kind : SocketKind) :
    (uesimDisconnectGnb ue gnb).1.slot (gnb, kind) = none := by
  cases hgnb : ue.gnbs gnb with
  | none =>
      unfold uesimDisconnectGnb slot
      rw [hgnb]
      dsimp only
      rw [hgnb]
      rfl
  | some ctx =>
      rw [uesimDisconnectGnb_eq hgnb]
      refine (slot_eq (Function.update_self ..) kind).trans ?_
      cases kind <;> rfl

theorem slot_disconnect_of_ne (ue : UeContext) {other : Nat} (hne : other ≠ gnb) (kind : SocketKind) :
    (uesimDisconnectGnb ue gnb).1.slot (other, kind) = ue.slot (other, kind) := by
  cases hgnb : ue.gnbs gnb with
  | none =>
      unfold uesimDisconnectGnb
      rw [hgnb]
  | some ctx =>
      rw [uesimDisconnectGnb_eq hgnb]
      exact slot_of_gnbs_eq_of_ne rfl hne kind

/-! ### Sound UEs -/

namespace Sound

theorem holdsSockets (h : ue.Sound) : ue.HoldsSockets :=
  { held := by
      intro fd hopen
      obtain ⟨⟨gnb, kind⟩, hslot⟩ := h.owned.held fd hopen
      refine ⟨gnb, ⟨h.has gnb kind ?_, kind, hslot⟩, ?_⟩
      · rw [hslot]
        exact Option.some_ne_none fd
      · rintro other ⟨-, kind', hslot'⟩
        exact (Prod.mk.inj (h.owned.unique _ _ fd hslot' hslot)).1
    once := h.owned.once
    connected := by
      intro gnb ctx hgnb hstate kind
      have hngap := (h.connected gnb ctx hgnb hstate).2
      have hsome : ctx.socket kind ≠ none := by
        cases kind with
        | ngap => exact hngap
        | gtpu =>
            intro hnone
            rw [← slot_eq hgnb, ← h.paired, slot_eq hgnb] at hnone
            exact hngap hnone
      obtain ⟨fd, hfd⟩ := Option.ne_none_iff_exists'.mp hsome
      exact ⟨fd, hfd, h.owned.isOpen (gnb, kind) fd (by rw [slot_eq hgnb, hfd])⟩
    serving := by
      intro gnb ctx hserving hgnb
      funext kind
      rw [h.serving, hserving, Option.bind_some, slot_eq hgnb] }

/-- The UE uses the sockets of its serving gNB. -/
theorem socket_eq_slot (h : ue.Sound) (hserving : ue.servingGnb = some gnb) (kind : SocketKind) :
    ue.socket kind = ue.slot (gnb, kind) := by
  rw [h.serving, hserving, Option.bind_some]

theorem slot_eq_none (h : ue.Sound) (hngap : ue.slot (gnb, .ngap) = none) (kind : SocketKind) :
    ue.slot (gnb, kind) = none := by
  cases kind with
  | ngap => exact hngap
  | gtpu => exact (h.paired gnb).mp hngap

/-- One gNB changes, and the places that are filled stay with a gNB that the UE has. -/
theorem of_gnbs_eq (h : ue.Sound) (hlinks : after.links = ue.links)
    (hgnbs : after.gnbs = Function.update ue.gnbs gnb (some ctx)) (howned : after.fds.Owned after.slot)
    (hhas : ctx.ngapSocket ≠ none → ue.Has gnb)
    (hpaired : ctx.ngapSocket = none ↔ ctx.gtpuSocket = none)
    (hconnected : ctx.state = .connected → ue.servingGnb = some gnb ∧ ctx.ngapSocket ≠ none)
    (hserving : ue.servingGnb = some gnb → after.socket = ctx.socket)
    (hunchanged : ue.servingGnb ≠ some gnb → after.socket = ue.socket) : after.Sound := by
  have hserves : after.servingGnb = ue.servingGnb := congrArg GnbLinks.servingGnb hlinks
  have hcandidates : after.candidateGnbs = ue.candidateGnbs := congrArg GnbLinks.candidateGnbs hlinks
  have hself : after.gnbs gnb = some ctx := by rw [hgnbs, Function.update_self]
  exact
    { linked := hlinks ▸ h.linked
      owned := howned
      has := by
        intro other kind hslot
        unfold Has
        rw [hserves, hcandidates]
        by_cases heq : other = gnb
        · subst heq
          rw [slot_eq hself] at hslot
          refine hhas ?_
          cases kind with
          | ngap => exact hslot
          | gtpu => exact fun hnone => hslot (hpaired.mp hnone)
        · rw [slot_of_gnbs_eq_of_ne hgnbs heq] at hslot
          exact h.has other kind hslot
      paired := by
        intro other
        by_cases heq : other = gnb
        · subst heq
          rw [slot_eq hself, slot_eq hself]
          exact hpaired
        · rw [slot_of_gnbs_eq_of_ne hgnbs heq, slot_of_gnbs_eq_of_ne hgnbs heq]
          exact h.paired other
      connected := by
        intro other otherCtx hother hstate
        rw [hserves]
        by_cases heq : other = gnb
        · subst heq
          obtain rfl := Option.some.inj (hself.symm.trans hother)
          exact hconnected hstate
        · rw [hgnbs, Function.update_of_ne heq] at hother
          exact h.connected other otherCtx hother hstate
      serving := by
        intro kind
        rw [hserves]
        by_cases heq : ue.servingGnb = some gnb
        · rw [hserving heq, heq, Option.bind_some, slot_eq hself]
        · rw [hunchanged heq, h.serving]
          cases hold : ue.servingGnb with
          | none => rfl
          | some old =>
              have hne : old ≠ gnb := by
                rintro rfl
                exact heq hold
              rw [Option.bind_some, Option.bind_some, slot_of_gnbs_eq_of_ne hgnbs hne] }

theorem isServing_iff (h : ue.Sound) (hgnb : ue.gnbs gnb = some ctx) :
    ctx.isServing = true ↔ ue.servingGnb = some gnb :=
  h.linked.isServing_iff gnb ctx.link (links_gnbs hgnb)

theorem disconnect (h : ue.Sound) (gnb : Nat) : (uesimDisconnectGnb ue gnb).1.Sound := by
  have hlinks := links_uesimDisconnectGnb ue gnb
  cases hgnb : ue.gnbs gnb with
  | none =>
      unfold uesimDisconnectGnb
      rw [hgnb]
      exact h
  | some ctx =>
      have hngap : ue.slot (gnb, .ngap) = ctx.ngapSocket := slot_eq hgnb .ngap
      have hgtpu : Function.update ue.slot (gnb, .ngap) none (gnb, .gtpu) = ctx.gtpuSocket := by
        rw [Function.update_of_ne (by simp)]
        exact slot_eq hgnb .gtpu
      have howned := (h.owned.release (gnb, .ngap)).release (gnb, .gtpu)
      rw [hgtpu, hngap] at howned
      have hafter := uesimDisconnectGnb_eq hgnb
      have hgnbs := congrArg UeContext.gnbs hafter
      refine h.of_gnbs_eq hlinks hgnbs ?_ (fun hnone => absurd rfl hnone) Iff.rfl
        (fun hstate => by cases hstate) ?_ ?_
      · rw [slot_of_gnbs_eq hgnbs, hafter]
        exact howned
      · intro hserving
        have hself := (h.isServing_iff hgnb).mpr hserving
        rw [hafter]
        exact socket_ext (if_pos hself) (if_pos hself)
      · intro hserving
        have hself := mt (h.isServing_iff hgnb).mp hserving
        rw [hafter]
        exact socket_ext (if_neg hself) (if_neg hself)

/-- What connecting loses: a descriptor is open that no place holds. -/
theorem not_holdsSockets_of_lost (h : ue.Sound) {fd : Nat} {kind : SocketKind}
    (hslot : ue.slot (gnb, kind) = some fd) (hopen : after.fds.isOpen fd = true)
    (hother : ∀ other, other ≠ gnb → ∀ kind, after.slot (other, kind) = ue.slot (other, kind))
    (hself : after.Has gnb → ∀ kind, after.slot (gnb, kind) ≠ some fd) : ¬after.HoldsSockets := by
  intro hafter
  obtain ⟨holder, ⟨hhas, kind', hholder⟩, -⟩ := hafter.held fd hopen
  by_cases heq : holder = gnb
  · rw [heq] at hhas hholder
    exact hself hhas kind' hholder
  · rw [hother holder heq] at hholder
    exact heq (Prod.mk.inj (h.owned.unique _ _ fd hholder hslot)).1

theorem connect (h : ue.Sound) (hconnects : ue.Connects gnb outcome) :
    (uesimConnectGnb ue gnb outcome).1.Sound := by
  have hlinks := links_uesimConnectGnb ue gnb outcome
  cases hgnb : ue.gnbs gnb with
  | none =>
      unfold uesimConnectGnb
      rw [hgnb]
      exact h
  | some ctx =>
      by_cases hstate : ctx.state = .connected
      · rw [uesimConnectGnb_connected hgnb hstate]
        exact h
      obtain ⟨hngap, hhas⟩ := hconnects ctx hgnb hstate
      have hngapSlot : ue.slot (gnb, .ngap) = none := by
        rw [slot_eq hgnb]
        exact hngap
      have hgtpuSlot := h.slot_eq_none hngapSlot .gtpu
      have hgtpu : ctx.gtpuSocket = none := by
        rw [slot_eq hgnb] at hgtpuSlot
        exact hgtpuSlot
      rcases uesimConnectGnb_cases hgnb hstate outcome with
        ⟨error, gtpuSocket, -, hgtpuSocket, hconnect⟩ | ⟨ngap, gtpu, hsucceeds, hfresh, hfresh', hconnect⟩
      · have hnone : gtpuSocket = none := hgtpuSocket.elim (fun heq => heq.trans hgtpu) id
        have hgnbs := congrArg (fun answer => answer.1.gnbs) hconnect
        refine h.of_gnbs_eq hlinks hgnbs ?_ (fun hne => absurd rfl hne) (iff_of_true rfl hnone)
          (fun hconnected => by cases hconnected) ?_ ?_
        · rw [slot_of_sockets_eq hgnb hgnbs hngap.symm (hnone.trans hgtpu.symm), hconnect]
          exact h.owned
        · intro hserving
          have hsockets := h.socket_eq_slot hserving
          rw [hconnect]
          exact socket_ext ((hsockets .ngap).trans hngapSlot)
            ((hsockets .gtpu).trans (hgtpuSlot.trans hnone.symm))
        · intro _
          rw [hconnect]
          rfl
      · have hgnbs := congrArg (fun answer => answer.1.gnbs) hconnect
        have hHas : ue.Has gnb := hhas.resolve_right fun hfails => hfails hsucceeds
        refine h.of_gnbs_eq hlinks hgnbs ?_ (fun _ => hHas)
          (iff_of_false (Option.some_ne_none ngap) (Option.some_ne_none gtpu)) ?_ ?_ ?_
        · rw [slot_of_gnbs_eq hgnbs, hconnect]
          refine (h.owned.acquire hngapSlot hfresh).acquire ?_ hfresh'
          rw [Function.update_of_ne (by simp)]
          exact hgtpuSlot
        · intro hconnected
          refine ⟨(h.isServing_iff hgnb).mp ?_, Option.some_ne_none ngap⟩
          by_contra hnot
          rw [if_neg hnot] at hconnected
          cases hconnected
        · intro hserving
          have hself := (h.isServing_iff hgnb).mpr hserving
          rw [hconnect]
          exact socket_ext (if_pos hself) (if_pos hself)
        · intro hserving
          have hself := mt (h.isServing_iff hgnb).mp hserving
          rw [hconnect]
          exact socket_ext (if_neg hself) (if_neg hself)

/-- Connecting what is not connected loses what is held there, and what it opens where the UE has no gNB. -/
theorem connects_of_holdsSockets (h : ue.Sound)
    (hafter : (uesimConnectGnb ue gnb outcome).1.HoldsSockets) : ue.Connects gnb outcome := by
  intro ctx hgnb hstate
  have hheld : ∀ fd, ctx.ngapSocket = some fd →
      ue.fds.isOpen fd = true ∧ ue.slot (gnb, .ngap) = some fd ∧ ctx.gtpuSocket ≠ some fd := by
    intro fd hfd
    have hslot : ue.slot (gnb, .ngap) = some fd := (slot_eq hgnb .ngap).trans hfd
    refine ⟨h.owned.isOpen _ fd hslot, hslot, fun hgtpu => ?_⟩
    cases h.owned.unique _ _ fd hslot ((slot_eq hgnb .gtpu).trans hgtpu)
  rcases uesimConnectGnb_cases hgnb hstate outcome with
    ⟨error, gtpuSocket, hfails, hgtpuSocket, hconnect⟩ | ⟨ngap, gtpu, -, hfresh, hfresh', hconnect⟩
  · refine ⟨?_, .inr hfails⟩
    by_contra hngap
    obtain ⟨fd, hfd⟩ := Option.ne_none_iff_exists'.mp hngap
    obtain ⟨hopen, hslot, hne⟩ := hheld fd hfd
    rw [hconnect] at hafter
    refine absurd hafter (h.not_holdsSockets_of_lost hslot hopen ?_ ?_)
    · exact fun other hne => slot_of_gnbs_eq_of_ne rfl hne
    intro _ kind hkind
    rw [slot_eq (Function.update_self ..)] at hkind
    cases kind with
    | ngap => cases hkind
    | gtpu =>
        rcases hgtpuSocket with heq | heq
        · exact hne (heq.symm.trans hkind)
        · cases heq.symm.trans hkind
  · have hlinks := links_uesimConnectGnb ue gnb outcome
    rw [hconnect] at hafter hlinks
    constructor
    · by_contra hngap
      obtain ⟨fd, hfd⟩ := Option.ne_none_iff_exists'.mp hngap
      obtain ⟨hopen, hslot, -⟩ := hheld fd hfd
      have hopen' := Descriptors.isOpen_opened hopen ngap
      refine absurd hafter (h.not_holdsSockets_of_lost hslot (Descriptors.isOpen_opened hopen' gtpu) ?_ ?_)
      · exact fun other hne => slot_of_gnbs_eq_of_ne rfl hne
      intro _ kind hkind
      rw [slot_eq (Function.update_self ..)] at hkind
      cases kind with
      | ngap =>
          rw [Option.some.inj hkind, hopen] at hfresh
          cases hfresh
      | gtpu =>
          rw [Option.some.inj hkind, hopen'] at hfresh'
          cases hfresh'
    · refine .inl ?_
      obtain ⟨holder, ⟨hhas, kind, hholder⟩, -⟩ := hafter.held ngap
        (Descriptors.isOpen_opened (Descriptors.isOpen_opened_self ue.fds ngap) gtpu)
      rw [has_of_links_eq hlinks] at hhas
      by_cases heq : holder = gnb
      · rwa [heq] at hhas
      · rw [slot_of_gnbs_eq_of_ne rfl heq] at hholder
        have hopen := h.owned.isOpen _ ngap hholder
        rw [hfresh] at hopen
        cases hopen

theorem reconnect_connected (h : ue.Sound) (hgnb : ue.gnbs gnb = some ctx) (hstate : ctx.state = .connected) :
    (uesimReconnectGnb ue gnb outcome).1.Sound := by
  unfold uesimReconnectGnb
  rw [hgnb]
  dsimp only
  rw [if_pos hstate]
  refine (h.disconnect gnb).connect ?_
  intro ctx' hctx' _
  have hself : (uesimDisconnectGnb ue gnb).1.gnbs gnb
      = some { ctx with state := .disconnected, ngapSocket := none, gtpuSocket := none } := by
    rw [uesimDisconnectGnb_eq hgnb]
    exact Function.update_self ..
  obtain rfl := Option.some.inj (hself.symm.trans hctx')
  refine ⟨rfl, .inl ?_⟩
  rw [has_of_links_eq (links_uesimDisconnectGnb ue gnb)]
  exact .inl (h.connected gnb ctx hgnb hstate).1

theorem reconnect (h : ue.Sound) (hconnects : ue.Connects gnb outcome) :
    (uesimReconnectGnb ue gnb outcome).1.Sound := by
  cases hgnb : ue.gnbs gnb with
  | none =>
      unfold uesimReconnectGnb
      rw [hgnb]
      exact h
  | some ctx =>
      by_cases hstate : ctx.state = .connected
      · exact h.reconnect_connected hgnb hstate
      · rw [reconnect_of_not_connected hgnb hstate]
        exact h.connect hconnects

theorem connects_of_reconnect_holdsSockets (h : ue.Sound)
    (hafter : (uesimReconnectGnb ue gnb outcome).1.HoldsSockets) : ue.Connects gnb outcome := by
  intro ctx hgnb hstate
  rw [reconnect_of_not_connected hgnb hstate] at hafter
  exact h.connects_of_holdsSockets hafter ctx hgnb hstate

/-! ### Switching and removing -/

theorem switch_fields (h : ue.Sound) (hmem : some gnb ∈ ue.candidateGnbs) (hgnb : ue.gnbs gnb = some ctx) :
    (uesimSwitchServingGnb ue gnb).1.slot = ue.slot ∧ (uesimSwitchServingGnb ue gnb).1.fds = ue.fds ∧
      (uesimSwitchServingGnb ue gnb).1.servingGnb = some gnb ∧
      (uesimSwitchServingGnb ue gnb).1.socket = ctx.socket ∧
      (uesimSwitchServingGnb ue gnb).1.gnbs gnb
        = some { ctx with isServing := true, state := .connected } := by
  obtain ⟨old, oldCtx, ctx', hold, holdCtx, hctx, hne⟩ := exists_gnbs_of_mem h.linked hmem
  obtain rfl := Option.some.inj (hgnb.symm.trans hctx)
  have hswitch := uesimSwitchServingGnb_eq hold holdCtx hmem hgnb hne
  rw [hswitch]
  refine ⟨?_, rfl, rfl, socket_ext rfl rfl, Function.update_self ..⟩
  have hslot : (ue.setGnb old { oldCtx with isServing := false, state := .handoverCandidate }).slot
      = ue.slot :=
    slot_of_sockets_eq holdCtx rfl rfl rfl
  rw [← hslot]
  have hgnb' : (ue.setGnb old { oldCtx with isServing := false, state := .handoverCandidate }).gnbs gnb
      = some ctx := by
    unfold setGnb
    dsimp only
    rw [Function.update_of_ne hne, hgnb]
  exact slot_of_sockets_eq hgnb' rfl rfl rfl

theorem candidateGnbs_switch (h : ue.Sound) {old : Nat} (hold : ue.servingGnb = some old)
    (hmem : some gnb ∈ ue.candidateGnbs) :
    (uesimSwitchServingGnb ue gnb).1.candidateGnbs = (ue.links.switch old gnb).candidateGnbs :=
  congrArg GnbLinks.candidateGnbs (links_uesimSwitchServingGnb h.linked hold hmem)

theorem switch (h : ue.Sound) (hmem : some gnb ∈ ue.candidateGnbs) (hngap : ue.slot (gnb, .ngap) ≠ none)
    (hroom : ue.candidateGnbs.length < maxGnbCandidates ∨ ue.ngapSocket = none) :
    (uesimSwitchServingGnb ue gnb).1.Sound := by
  obtain ⟨old, oldCtx, ctx, hold, holdCtx, hctx, hne⟩ := exists_gnbs_of_mem h.linked hmem
  obtain ⟨hslot, hfds, hserves, hsocket, hgnb⟩ := h.switch_fields hmem hctx
  have hlinks := links_uesimSwitchServingGnb h.linked hold hmem
  have hcandidates := h.candidateGnbs_switch hold hmem
  exact
    { linked := hlinks ▸ h.linked.switch hold hmem
      owned := by
        rw [hslot, hfds]
        exact h.owned
      has := by
        intro other kind hother
        rw [hslot] at hother
        unfold Has
        rw [hserves, hcandidates, h.linked.mem_switch_iff hold]
        by_cases heq : other = gnb
        · exact .inl (congrArg some heq.symm)
        refine .inr ⟨fun hsome => heq (Option.some.inj hsome), ?_⟩
        rcases h.has other kind hother with hserving | hcandidate
        · refine .inr ⟨hserving.symm.trans hold, hroom.resolve_right fun hnone => ?_⟩
          have hngap' : ue.slot (other, .ngap) = none :=
            (h.socket_eq_slot hserving .ngap).symm.trans hnone
          exact hother (h.slot_eq_none hngap' kind)
        · exact .inl hcandidate
      paired := by
        rw [hslot]
        exact h.paired
      connected := by
        intro other otherCtx hother hstate
        rw [hserves]
        by_cases heq : other = gnb
        · subst heq
          rw [hgnb] at hother
          obtain rfl := Option.some.inj hother
          rw [slot_eq hctx] at hngap
          exact ⟨rfl, hngap⟩
        · rw [uesimSwitchServingGnb_eq hold holdCtx hmem hctx hne] at hother
          change Function.update (Function.update ue.gnbs old _) gnb _ other = some otherCtx at hother
          rw [Function.update_of_ne heq] at hother
          by_cases hother' : other = old
          · rw [hother', Function.update_self] at hother
            obtain rfl := Option.some.inj hother
            cases hstate
          · rw [Function.update_of_ne hother'] at hother
            have hserving := (h.connected other otherCtx hother hstate).1
            exact absurd (Option.some.inj (hserving.symm.trans hold)) hother'
      serving := by
        intro kind
        rw [hserves, hsocket, hslot, Option.bind_some, slot_eq hctx] }

theorem keeps_of_switch_holdsSockets (h : ue.Sound) (hmem : some gnb ∈ ue.candidateGnbs)
    (hafter : (uesimSwitchServingGnb ue gnb).1.HoldsSockets) :
    ue.slot (gnb, .ngap) ≠ none ∧
      (ue.candidateGnbs.length < maxGnbCandidates ∨ ue.ngapSocket = none) := by
  obtain ⟨old, oldCtx, ctx, hold, holdCtx, hctx, hne⟩ := exists_gnbs_of_mem h.linked hmem
  obtain ⟨hslot, hfds, hserves, hsocket, hgnb⟩ := h.switch_fields hmem hctx
  constructor
  · obtain ⟨fd, hfd, -⟩ := hafter.connected gnb _ hgnb rfl .ngap
    rw [slot_eq hctx]
    exact fun hnone => by cases hfd.symm.trans hnone
  · by_contra hnot
    obtain ⟨hfull, hngap⟩ := not_or.mp hnot
    obtain ⟨fd, hfd⟩ := Option.ne_none_iff_exists'.mp hngap
    have hheld : ue.slot (old, .ngap) = some fd := (h.socket_eq_slot hold .ngap).symm.trans hfd
    refine absurd hafter (h.not_holdsSockets_of_lost hheld ?_ ?_ ?_)
    · rw [hfds]
      exact h.owned.isOpen _ fd hheld
    · intro other _ kind
      rw [hslot]
    · intro hhas
      unfold Has at hhas
      rw [hserves, h.candidateGnbs_switch hold hmem, h.linked.mem_switch_iff hold] at hhas
      rcases hhas with hserving | ⟨-, hcandidate | ⟨-, hlength⟩⟩
      · exact absurd (Option.some.inj hserving) hne
      · exact absurd hcandidate (h.linked.serving_not_candidate old hold)
      · exact absurd hlength hfull

/-- A candidate is never connected as far as its state says. -/
theorem remove_eq (h : ue.Sound) (hmem : some gnb ∈ ue.candidateGnbs) :
    (uesimRemoveGnb ue gnb).1
      = { ue.freeGnb gnb with candidateGnbs := ue.candidateGnbs.erase (some gnb) } := by
  obtain ⟨old, oldCtx, ctx, hold, -, hctx, hne⟩ := exists_gnbs_of_mem h.linked hmem
  have hserving : ue.servingGnb ≠ some gnb := by
    rw [hold]
    exact fun heq => hne (Option.some.inj heq).symm
  have hstate : ctx.state ≠ .connected := fun hconnected =>
    hserving (h.connected gnb ctx hctx hconnected).1
  obtain ⟨found, hfound⟩ : ∃ found, ue.candidateGnbs.idxOf? (some gnb) = some found := by
    refine Option.ne_none_iff_exists'.mp fun hnone => ?_
    exact List.idxOf?_eq_none_iff.mp hnone hmem
  unfold uesimRemoveGnb
  rw [hctx]
  dsimp only
  rw [if_neg hserving, hfound]
  dsimp only
  rw [if_neg hstate, eraseIdx_of_idxOf? hfound]

theorem remove (h : ue.Sound) (hmem : some gnb ∈ ue.candidateGnbs) (hngap : ue.slot (gnb, .ngap) = none) :
    (uesimRemoveGnb ue gnb).1.Sound := by
  have hremove := h.remove_eq hmem
  have hslot : (uesimRemoveGnb ue gnb).1.slot = ue.slot := by
    rw [hremove]
    funext ⟨other, kind⟩
    by_cases heq : other = gnb
    · rw [heq]
      exact (slot_freeGnb_self ue gnb kind).trans (h.slot_eq_none hngap kind).symm
    · exact slot_freeGnb_of_ne ue heq kind
  exact
    { linked := linked_uesimRemoveGnb h.linked gnb
      owned := by
        rw [hslot, hremove]
        exact h.owned
      has := by
        intro other kind hother
        rw [hslot] at hother
        have hne' : other ≠ gnb := by
          rintro rfl
          exact hother (h.slot_eq_none hngap kind)
        rw [hremove]
        refine (h.has other kind hother).imp_right fun hcandidate => ?_
        exact (List.mem_erase_of_ne fun heq => hne' (Option.some.inj heq)).mpr hcandidate
      paired := by
        rw [hslot]
        exact h.paired
      connected := by
        intro other ctx hother hstate
        rw [hremove] at hother ⊢
        change Function.update ue.gnbs gnb none other = some ctx at hother
        by_cases heq : other = gnb
        · rw [heq, Function.update_self] at hother
          cases hother
        · rw [Function.update_of_ne heq] at hother
          exact h.connected other ctx hother hstate
      serving := by
        intro kind
        rw [hslot, hremove]
        exact h.serving kind }

theorem slot_of_remove_holdsSockets (h : ue.Sound) (hmem : some gnb ∈ ue.candidateGnbs)
    (hafter : (uesimRemoveGnb ue gnb).1.HoldsSockets) : ue.slot (gnb, .ngap) = none := by
  by_contra hngap
  obtain ⟨fd, hfd⟩ := Option.ne_none_iff_exists'.mp hngap
  rw [h.remove_eq hmem] at hafter
  refine absurd hafter (h.not_holdsSockets_of_lost hfd (h.owned.isOpen _ fd hfd) ?_ ?_)
  · exact fun other hne kind => slot_freeGnb_of_ne ue hne kind
  · intro _ kind hkind
    cases (slot_freeGnb_self ue gnb kind).symm.trans hkind

/-- A gNB without sockets is put where none was. -/
theorem of_new (h : ue.Sound) (hlinked : after.links.Linked)
    (hgnbs : after.gnbs = Function.update ue.gnbs gnb (some ctx)) (hfree : ∀ kind, ue.slot (gnb, kind) = none)
    (hslot : after.slot = ue.slot) (hfds : after.fds = ue.fds) (hsocket : after.socket = ue.socket)
    (hstate : ctx.state ≠ .connected) (hhas : ∀ other, ue.Has other → after.Has other)
    (hserves : ue.servingGnb = none ∧ after.servingGnb = some gnb ∨
      ue.servingGnb ≠ none ∧ after.servingGnb = ue.servingGnb) : after.Sound :=
  { linked := hlinked
    owned := by
      rw [hslot, hfds]
      exact h.owned
    has := by
      intro other kind hother
      rw [hslot] at hother
      exact hhas other (h.has other kind hother)
    paired := by
      rw [hslot]
      exact h.paired
    connected := by
      intro other otherCtx hother hconnected
      rw [hgnbs] at hother
      by_cases heq : other = gnb
      · rw [heq, Function.update_self] at hother
        rw [← Option.some.inj hother] at hconnected
        exact absurd hconnected hstate
      · rw [Function.update_of_ne heq] at hother
        obtain ⟨hserving, hngap⟩ := h.connected other otherCtx hother hconnected
        rcases hserves with ⟨hnone, -⟩ | ⟨-, hsame⟩
        · cases hserving.symm.trans hnone
        · exact ⟨hsame.trans hserving, hngap⟩
    serving := by
      intro kind
      rw [hsocket, hslot, h.serving]
      rcases hserves with ⟨hnone, hnew⟩ | ⟨-, hsame⟩
      · rw [hnone, hnew, Option.bind_some, hfree]
        rfl
      · rw [hsame] }

theorem add (h : ue.Sound) (addr : GnbAddr) (outcome : AllocOutcome) :
    (uesimAddGnb ue addr outcome).1.Sound := by
  have hlinked := linked_uesimAddGnb h.linked addr outcome
  rcases uesimAddGnb_cases ue addr outcome with hsame | ⟨gnb, ctx, hfresh, hngap, hgtpu, hstate, hadd⟩
  · rw [hsame]
    exact h
  have hfree : ∀ kind, ue.slot (gnb, kind) = none := by
    intro kind
    unfold slot
    rw [hfresh]
    rfl
  have hslot : (ue.setGnb gnb ctx).slot = ue.slot := by
    have hgnbs : (ue.setGnb gnb ctx).gnbs = Function.update ue.gnbs gnb (some ctx) := rfl
    rw [slot_of_gnbs_eq hgnbs, hngap, hgtpu, ← hfree .ngap, Function.update_eq_self,
      hfree .ngap, ← hfree .gtpu, Function.update_eq_self]
  rcases hadd with ⟨hnone, hadd⟩ | ⟨hsome, hadd⟩
  · rw [hadd] at hlinked ⊢
    refine h.of_new hlinked rfl hfree hslot rfl (socket_ext rfl rfl) hstate ?_ (.inl ⟨hnone, rfl⟩)
    rintro other (hserving | hmem)
    · cases hserving.symm.trans hnone
    · exact .inr hmem
  · rw [hadd] at hlinked ⊢
    refine h.of_new hlinked rfl hfree hslot rfl (socket_ext rfl rfl) hstate ?_ (.inr ⟨hsome, rfl⟩)
    exact fun other hhas => hhas.imp_right (List.mem_append_left _)

/-! ### Stopping -/

theorem disconnectCandidates (h : ue.Sound) (candidates : List (Option Nat)) :
    (disconnectCandidates candidates ue).Sound ∧
      (Core.disconnectCandidates candidates ue).links = ue.links ∧
      ∀ place, ue.slot place = none → (Core.disconnectCandidates candidates ue).slot place = none := by
  induction candidates generalizing ue with
  | nil => exact ⟨h, rfl, fun _ hnone => hnone⟩
  | cons candidate candidates ih =>
      cases candidate with
      | none => exact ih h
      | some gnb =>
          obtain ⟨hsound, hlinks, hnone⟩ := ih (h.disconnect gnb)
          refine ⟨hsound, hlinks.trans (links_uesimDisconnectGnb ue gnb), ?_⟩
          rintro ⟨other, kind⟩ hplace
          refine hnone _ ?_
          by_cases heq : other = gnb
          · rw [heq]
            exact slot_disconnect_self ue gnb kind
          · rw [slot_disconnect_of_ne ue heq, hplace]

/-- Once the serving gNB is disconnected, there is nothing left to close but the candidates' sockets. -/
theorem stop_candidates (h : ue.Sound)
    (hserved : ∀ gnb, ue.servingGnb = some gnb → ∀ kind, ue.slot (gnb, kind) = none)
    {last : UeContext} (hlast : Core.disconnectCandidates ue.candidateGnbs ue = last) :
    Sound
      { last with
        ngapSocket := none
        gtpuSocket := none
        active := false
        fds := (last.fds.release last.ngapSocket).release last.gtpuSocket } := by
  obtain ⟨hsound, hlinks, hnone⟩ := h.disconnectCandidates ue.candidateGnbs
  rw [hlast] at hsound hlinks hnone
  have hserves : last.servingGnb = ue.servingGnb := congrArg GnbLinks.servingGnb hlinks
  have hsocket : ∀ kind, last.socket kind = none := by
    intro kind
    rw [hsound.serving, hserves]
    cases hserving : ue.servingGnb with
    | none => rfl
    | some serving => exact hnone _ (hserved serving hserving kind)
  have hngap : last.ngapSocket = none := hsocket .ngap
  have hgtpu : last.gtpuSocket = none := hsocket .gtpu
  rw [hngap, hgtpu]
  exact
    { linked := hsound.linked
      owned := hsound.owned
      has := hsound.has
      paired := hsound.paired
      connected := hsound.connected
      serving := by
        intro kind
        refine Eq.trans ?_ (hsound.serving kind)
        rw [hsocket]
        cases kind <;> rfl }

theorem stop (h : ue.Sound) : (uesimStopUe ue).1.Sound := by
  unfold uesimStopUe
  split
  · exact h
  cases hserving : ue.servingGnb with
  | none => exact h.stop_candidates (fun _ hsome => by cases hserving.symm.trans hsome) rfl
  | some serving =>
      refine (h.disconnect serving).stop_candidates (fun gnb heq kind => ?_) rfl
      have hserves : (uesimDisconnectGnb ue serving).1.servingGnb = ue.servingGnb :=
        congrArg GnbLinks.servingGnb (links_uesimDisconnectGnb ue serving)
      rw [Option.some.inj ((heq.symm.trans hserves).trans hserving)]
      exact slot_disconnect_self ue serving kind

/-! ### Runs -/

theorem step (h : ue.Sound) {op : SocketOp} (hkeeps : ue.KeepsSockets op) : (socketStep ue op).Sound := by
  cases op with
  | add addr outcome => exact h.add addr outcome
  | connect gnb outcome => exact h.connect hkeeps
  | reconnect gnb outcome => exact h.reconnect hkeeps
  | disconnect gnb => exact h.disconnect gnb
  | switchServing gnb =>
      by_cases hmem : some gnb ∈ ue.candidateGnbs
      · exact h.switch hmem (hkeeps hmem).1 (hkeeps hmem).2
      · have hsame : socketStep ue (.switchServing gnb) = ue := uesimSwitchServingGnb_not_found hmem
        rw [hsame]
        exact h
  | remove gnb =>
      by_cases hmem : some gnb ∈ ue.candidateGnbs
      · exact h.remove hmem (hkeeps hmem)
      · have hsame : socketStep ue (.remove gnb) = ue := uesimRemoveGnb_not_found hmem
        rw [hsame]
        exact h
  | stop => exact h.stop

theorem keeps_of_holdsSockets (h : ue.Sound) {op : SocketOp} (hafter : (socketStep ue op).HoldsSockets) :
    ue.KeepsSockets op := by
  cases op with
  | add addr outcome => trivial
  | connect gnb outcome => exact h.connects_of_holdsSockets hafter
  | reconnect gnb outcome => exact h.connects_of_reconnect_holdsSockets hafter
  | disconnect gnb => trivial
  | switchServing gnb => exact fun hmem => h.keeps_of_switch_holdsSockets hmem hafter
  | remove gnb => exact fun hmem => h.slot_of_remove_holdsSockets hmem hafter
  | stop => trivial

end Sound

theorem initial_sound (gnbAddr : GnbAddr) (active : Bool) : (initial gnbAddr active).Sound :=
  { linked := initial_linked gnbAddr active
    owned := Descriptors.owned_none
    has := fun _ _ hslot => absurd rfl hslot
    paired := fun _ => Iff.rfl
    connected := fun _ _ hgnb => by cases hgnb
    serving := fun kind => by cases kind <;> rfl }

end UeContext

/-- **Every open descriptor has its one place in exactly the runs that leave no open socket behind.** -/
theorem socketRun_holdsSockets_iff (gnbAddr : GnbAddr) (active : Bool) (ops : List SocketOp) :
    Runs.Throughout socketStep UeContext.HoldsSockets (UeContext.initial gnbAddr active) ops
      ↔ Runs.Always socketStep UeContext.KeepsSockets (UeContext.initial gnbAddr active) ops :=
  @Runs.throughout_iff _ _ socketStep UeContext.Sound UeContext.KeepsSockets UeContext.HoldsSockets
    (fun _ h => h.holdsSockets)
    (fun _ _ h => ⟨h.keeps_of_holdsSockets, fun hkeeps => (h.step hkeeps).holdsSockets⟩)
    (fun _ _ h hkeeps => h.step hkeeps) _ (UeContext.initial_sound gnbAddr active) ops

/-- A candidate is connected, and removed with both of its sockets open. -/
theorem socketRun_not_holdsSockets :
    ¬Runs.Throughout socketStep UeContext.HoldsSockets (UeContext.initial ⟨0, 0⟩ true)
      [.add ⟨1, 38412⟩ { place := some 0, mutexMade := true },
        .add ⟨2, 38412⟩ { place := some 1, mutexMade := true },
        .connect 1
          { attempts := Vector.replicate 3 { ngapSocket := some 3, nonblocking := true, result := .connected }
            gtpuSocket := some 4 },
        .remove 1] := by
  rintro ⟨-, -, -, -, hafter⟩
  obtain ⟨gnb, ⟨hhas, kind, hslot⟩, -⟩ := hafter.held 3 (by decide)
  rcases hhas with hserving | hcandidate
  · obtain rfl : 0 = gnb := Option.some.inj hserving
    cases kind <;> cases hslot
  · exact List.not_mem_nil hcandidate

end Uesim.Core
