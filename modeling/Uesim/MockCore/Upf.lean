import Uesim.Library.Tlv
import Uesim.MockCore.Smf

/-!
# Tunnels of the mock UPF

A slot is free while its TEID is zero. Removing a tunnel clears its slot, but a session deletion only clears
the TEID, and looks for the slot by a SEID that is zero in every slot without a session.
-/

namespace Uesim

open Bytes Tlv KeyedSlots

structure SockAddr where
  addr : Word
  port : BitVec 16
  deriving DecidableEq

structure UpfTunnel where
  teid : Word
  ueIpAddr : Word
  peerIp : Word
  peerPort : BitVec 16
  uplink : Bool
  pfcpSeid : BitVec 64
  smfAddr : SockAddr
  active : Bool
  deriving DecidableEq

def UpfTunnel.cleared : UpfTunnel where
  teid := 0
  ueIpAddr := 0
  peerIp := 0
  peerPort := 0
  uplink := false
  pfcpSeid := 0
  smfAddr := ⟨0, 0⟩
  active := false

structure UpfServer where
  gtpuPort : BitVec 16
  tunnels : Fin mockCoreSlots → UpfTunnel
  numTunnels : Word
  smfAddr : SockAddr
  smfAssociated : Bool
  pfcpSessionsCreated : BitVec 64
  pfcpSessionsDeleted : BitVec 64

/-- `upf_create` with the default configuration. -/
def upfCreate : UpfServer where
  gtpuPort := 2152
  tunnels := fun _ => .cleared
  numTunnels := 0
  smfAddr := ⟨0, 0⟩
  smfAssociated := false
  pfcpSessionsCreated := 0
  pfcpSessionsDeleted := 0

def UpfTunnel.hasTeid (teid : Word) (tunnel : UpfTunnel) : Bool := tunnel.teid == teid

def UpfTunnel.hasSeid (seid : BitVec 64) (tunnel : UpfTunnel) : Bool := tunnel.pfcpSeid == seid

def newUpfTunnel (teid ueIp peerIp : Word) (peerPort : BitVec 16) (uplink : Bool) : UpfTunnel :=
  { UpfTunnel.cleared with
    teid := teid
    ueIpAddr := ueIp
    peerIp := peerIp
    peerPort := peerPort
    uplink := uplink }

/-- With the slot of the tunnel that is returned. -/
def upfCreateTunnel (upf : UpfServer) (teid ueIp peerIp : Word) (peerPort : BitVec 16) (uplink : Bool) :
    UpfServer × Option (Fin mockCoreSlots) :=
  match first (UpfTunnel.hasTeid 0) upf.tunnels with
  | none => (upf, none)
  | some slot =>
      ({ upf with
          tunnels := Function.update upf.tunnels slot (newUpfTunnel teid ueIp peerIp peerPort uplink)
          numTunnels := upf.numTunnels + 1 }, some slot)

def upfRemoveTunnel (upf : UpfServer) (teid : Word) : UpfServer :=
  match first (UpfTunnel.hasTeid teid) upf.tunnels with
  | none => upf
  | some slot =>
      { upf with
        tunnels := Function.update upf.tunnels slot .cleared
        numTunnels := upf.numTunnels - 1 }

def upfFindTunnel (upf : UpfServer) (teid : Word) : Option (Fin mockCoreSlots) :=
  first (UpfTunnel.hasTeid teid) upf.tunnels

/-! ### PFCP messages -/

def pfcpHeaderSize : Nat := 16

def pfcpMsgAssociationSetupRequest : BitVec 16 := 5
def pfcpMsgSessionEstablishmentRequest : BitVec 16 := 50
def pfcpMsgSessionDeletionRequest : BitVec 16 := 54

/-- The messages that the tunnels depend on, with the SEID of the header. -/
inductive UpfPfcpMessage where
  | associationSetup
  | establishment (seid : BitVec 64)
  | deletion (seid : BitVec 64)
  | other
  deriving DecidableEq

/-- Message type and SEID from the header; nothing where the message is too short. -/
def UpfPfcpMessage.ofBytes (data : List Byte) : Option UpfPfcpMessage :=
  if data.length < pfcpHeaderSize then
    none
  else
    let msgType := beValue 16 ((data.drop 2).take 2)
    let seid := beValue 64 ((data.drop 6).take 8)
    some (if msgType = pfcpMsgAssociationSetupRequest then .associationSetup
      else if msgType = pfcpMsgSessionEstablishmentRequest then .establishment seid
      else if msgType = pfcpMsgSessionDeletionRequest then .deletion seid
      else .other)

/-- What a session establishment request does, `random` being what `rand` returns. -/
def establishSession (upf : UpfServer) (seid : BitVec 64) (srcAddr : SockAddr) (random : BitVec 31) :
    UpfServer :=
  let upfTeid := random.setWidth 32 + 1
  match upfCreateTunnel upf upfTeid 0 srcAddr.addr upf.gtpuPort false with
  | (_, none) => upf
  | (created, some slot) =>
      { created with
        tunnels := Function.update created.tunnels slot
          { created.tunnels slot with pfcpSeid := seid, smfAddr := srcAddr }
        pfcpSessionsCreated := created.pfcpSessionsCreated + 1 }

/-- What a session deletion request does. -/
def deleteSession (upf : UpfServer) (seid : BitVec 64) : UpfServer :=
  match first (UpfTunnel.hasSeid seid) upf.tunnels with
  | none => upf
  | some slot =>
      { upf with
        tunnels := Function.update upf.tunnels slot { upf.tunnels slot with teid := 0, active := false }
        numTunnels := upf.numTunnels - 1
        pfcpSessionsDeleted := upf.pfcpSessionsDeleted + 1 }

/-- Nothing where the answer is `MOCK_CORE_ERROR_PROTOCOL`. -/
def processPfcpMessage (upf : UpfServer) (data : List Byte) (srcAddr : SockAddr) (random : BitVec 31) :
    Option UpfServer :=
  (UpfPfcpMessage.ofBytes data).map fun message =>
    match message with
    | .associationSetup => { upf with smfAddr := srcAddr, smfAssociated := true }
    | .establishment seid => establishSession upf seid srcAddr random
    | .deletion seid => deleteSession upf seid
    | .other => upf

/-! ### What identifies a tunnel -/

def UpfTunnel.live (tunnel : UpfTunnel) : Bool := !tunnel.hasTeid 0

structure UpfServer.Identified (upf : UpfServer) : Prop where
  teids : Distinct UpfTunnel.live UpfTunnel.teid upf.tunnels
  numTunnels : upf.numTunnels.toNat = Counting.count UpfTunnel.live upf.tunnels

inductive UpfOp where
  | createTunnel (teid ueIp peerIp : Word) (peerPort : BitVec 16) (uplink : Bool)
  | removeTunnel (teid : Word)
  | pfcp (data : List Byte) (srcAddr : SockAddr) (random : BitVec 31)

def UpfOp.apply (upf : UpfServer) : UpfOp → UpfServer
  | .createTunnel teid ueIp peerIp peerPort uplink =>
      (upfCreateTunnel upf teid ueIp peerIp peerPort uplink).1
  | .removeTunnel teid => upfRemoveTunnel upf teid
  | .pfcp data srcAddr random => (processPfcpMessage upf data srcAddr random).getD upf

def UpfOp.message : UpfOp → Option UpfPfcpMessage
  | .pfcp data _ _ => UpfPfcpMessage.ofBytes data
  | _ => none

/-- Besides the server, the SEID for which the tunnel of each slot was created. -/
structure UpfHistory where
  upf : UpfServer
  origin : Fin mockCoreSlots → Option (BitVec 64)

def upfBegin : UpfHistory := { upf := upfCreate, origin := fun _ => none }

namespace UpfHistory

/-- The first free slot gets another origin. -/
def fill (history : UpfHistory) (seid : Option (BitVec 64)) : Fin mockCoreSlots → Option (BitVec 64) :=
  match first (UpfTunnel.hasTeid 0) history.upf.tunnels with
  | none => history.origin
  | some slot => Function.update history.origin slot seid

def originAfter (history : UpfHistory) (op : UpfOp) : Fin mockCoreSlots → Option (BitVec 64) :=
  match op, op.message with
  | .createTunnel .., _ => history.fill none
  | _, some (.establishment seid) => history.fill (some seid)
  | _, _ => history.origin

/-- A deletion request removes only a live tunnel that was created for its SEID. -/
def RemovesOnlyItsOwn (history : UpfHistory) (op : UpfOp) : Prop :=
  ∀ seid, op.message = some (.deletion seid) →
    ∀ i, (op.apply history.upf).tunnels i ≠ history.upf.tunnels i →
      (history.upf.tunnels i).live = true ∧ history.origin i = some seid

/-- A TEID that is to go into a free slot is not in use, or there is no free slot. -/
def Fresh (history : UpfHistory) (teid : Word) : Prop :=
  first (UpfTunnel.hasTeid 0) history.upf.tunnels = none
    ∨ teid ≠ 0 ∧ ∀ i, (history.upf.tunnels i).teid ≠ teid

def Safe (history : UpfHistory) : UpfOp → Prop
  | .createTunnel teid _ _ _ _ => history.Fresh teid
  | .removeTunnel teid => teid ≠ 0 ∨ ∀ i, (history.upf.tunnels i).teid ≠ 0
  | .pfcp data _ random =>
      match UpfPfcpMessage.ofBytes data with
      | some (.establishment _) => history.Fresh (random.setWidth 32 + 1)
      | some (.deletion seid) =>
          ∀ i, first (UpfTunnel.hasSeid seid) history.upf.tunnels = some i →
            (history.upf.tunnels i).live = true ∧ history.origin i = some seid
      | _ => True

end UpfHistory

def upfStep (history : UpfHistory) (op : UpfOp) : UpfHistory where
  upf := op.apply history.upf
  origin := history.originAfter op

structure UpfServer.Inv (upf : UpfServer) : Prop extends upf.Identified where
  /-- Nothing in the UPF sets the flag of a tunnel. -/
  inactive : ∀ i, (upf.tunnels i).active = false

theorem inv_upfCreate : upfCreate.Inv where
  teids := distinct_of_forall fun _ => rfl
  numTunnels := (Counting.count_eq_zero_of_forall _ _ fun _ => rfl).symm
  inactive _ := rfl

theorem UpfTunnel.live_iff {tunnel : UpfTunnel} : tunnel.live = true ↔ tunnel.teid ≠ 0 := by
  rw [live, hasTeid, Bool.not_eq_true', beq_eq_false_iff_ne]

theorem UpfTunnel.not_live_iff {tunnel : UpfTunnel} : tunnel.live = false ↔ tunnel.teid = 0 := by
  rw [live, hasTeid, Bool.not_eq_false', beq_iff_eq]

theorem UpfTunnel.hasTeid_iff {tunnel : UpfTunnel} {teid : Word} :
    tunnel.hasTeid teid = true ↔ tunnel.teid = teid :=
  beq_iff_eq

namespace UpfServer.Inv

variable {upf upf' : UpfServer} {slot : Fin mockCoreSlots} {tunnel : UpfTunnel}

theorem count_lt (h : upf.Inv) : upf.numTunnels.toNat < 2 ^ 32 - 1 := by
  have hle := Counting.count_le_card UpfTunnel.live upf.tunnels
  rw [← h.numTunnels, Fintype.card_fin] at hle
  exact lt_of_le_of_lt hle (by decide)

/-- **A free slot that is filled keeps the tunnels identified exactly when the TEID is not zero and not in
use.** -/
theorem identified_fill_iff (h : upf.Inv) (hfree : (upf.tunnels slot).teid = 0)
    (htunnels : upf'.tunnels = Function.update upf.tunnels slot tunnel)
    (hnum : upf'.numTunnels = upf.numTunnels + 1) :
    upf'.Identified ↔ tunnel.teid ≠ 0 ∧ ∀ i, (upf.tunnels i).teid ≠ tunnel.teid := by
  have hdead := UpfTunnel.not_live_iff.mpr hfree
  have hlt := h.count_lt
  have hcount := Counting.count_update_add UpfTunnel.live upf.tunnels slot tunnel
  rw [hdead, Bool.toNat_false, Nat.add_zero, ← h.numTunnels, ← htunnels] at hcount
  have hsucc : upf'.numTunnels.toNat = upf.numTunnels.toNat + 1 := by
    rw [hnum]
    bv_omega
  by_cases hzero : tunnel.teid = 0
  · refine iff_of_false ?_ fun hfresh => hfresh.1 hzero
    intro hidentified
    rw [UpfTunnel.not_live_iff.mpr hzero, Bool.toNat_false, ← hidentified.numTunnels] at hcount
    omega
  · have hlive := UpfTunnel.live_iff.mpr hzero
    have hteids := h.teids.update_live_iff hdead hlive
    rw [hlive, Bool.toNat_true] at hcount
    constructor
    · intro hidentified
      refine ⟨hzero, fun i hi => ?_⟩
      have hi' : (upf.tunnels i).live = true := UpfTunnel.live_iff.mpr (hi.trans_ne hzero)
      exact hteids.mp (htunnels ▸ hidentified.teids) i hi' hi
    · rintro ⟨-, hfresh⟩
      exact ⟨htunnels ▸ hteids.mpr fun i _ => hfresh i, hsucc.trans hcount.symm⟩

/-- **A slot whose TEID is cleared keeps the tunnels identified exactly when it held one.** -/
theorem identified_clear_iff (h : upf.Inv) (hclear : tunnel.teid = 0)
    (htunnels : upf'.tunnels = Function.update upf.tunnels slot tunnel)
    (hnum : upf'.numTunnels = upf.numTunnels - 1) : upf'.Identified ↔ (upf.tunnels slot).teid ≠ 0 := by
  have hdead := UpfTunnel.not_live_iff.mpr hclear
  have hcount := Counting.count_update_add UpfTunnel.live upf.tunnels slot tunnel
  rw [hdead, Bool.toNat_false, Nat.add_zero, ← h.numTunnels, ← htunnels] at hcount
  by_cases hzero : (upf.tunnels slot).teid = 0
  · refine iff_of_false ?_ fun hne => hne hzero
    intro hidentified
    rw [UpfTunnel.not_live_iff.mpr hzero, Bool.toNat_false, ← hidentified.numTunnels, hnum] at hcount
    bv_omega
  · refine iff_of_true ⟨htunnels ▸ h.teids.update_free hdead, ?_⟩ hzero
    rw [UpfTunnel.live_iff.mpr hzero, Bool.toNat_true] at hcount
    rw [hnum]
    bv_omega

theorem identified_createTunnel_iff (h : upf.Inv) (teid ueIp peerIp : Word) (peerPort : BitVec 16)
    (uplink : Bool) :
    (upfCreateTunnel upf teid ueIp peerIp peerPort uplink).1.Identified
      ↔ first (UpfTunnel.hasTeid 0) upf.tunnels = none
        ∨ teid ≠ 0 ∧ ∀ i, (upf.tunnels i).teid ≠ teid := by
  cases hslot : first (UpfTunnel.hasTeid 0) upf.tunnels with
  | none =>
      rw [upfCreateTunnel, hslot]
      exact iff_of_true h.toIdentified (.inl rfl)
  | some slot =>
      rw [upfCreateTunnel, hslot, or_iff_right (Option.some_ne_none slot)]
      have hfree := UpfTunnel.hasTeid_iff.mp (passes_of_first hslot)
      exact @identified_fill_iff upf _ slot (newUpfTunnel teid ueIp peerIp peerPort uplink) h hfree (by rfl)
        (by rfl)

theorem identified_establishSession_iff (h : upf.Inv) (seid : BitVec 64) (srcAddr : SockAddr)
    (random : BitVec 31) :
    (establishSession upf seid srcAddr random).Identified
      ↔ first (UpfTunnel.hasTeid 0) upf.tunnels = none
        ∨ random.setWidth 32 + 1 ≠ 0 ∧ ∀ i, (upf.tunnels i).teid ≠ random.setWidth 32 + 1 := by
  cases hslot : first (UpfTunnel.hasTeid 0) upf.tunnels with
  | none =>
      rw [establishSession, upfCreateTunnel, hslot]
      exact iff_of_true h.toIdentified (.inl rfl)
  | some slot =>
      rw [establishSession, upfCreateTunnel, hslot, or_iff_right (Option.some_ne_none slot)]
      have hfree := UpfTunnel.hasTeid_iff.mp (passes_of_first hslot)
      let created := newUpfTunnel (random.setWidth 32 + 1) 0 srcAddr.addr upf.gtpuPort false
      refine @identified_fill_iff upf _ slot { created with pfcpSeid := seid, smfAddr := srcAddr } h hfree ?_
        (by rfl)
      dsimp only
      rw [Function.update_self, Function.update_idem]

theorem identified_removeTunnel_iff (h : upf.Inv) (teid : Word) :
    (upfRemoveTunnel upf teid).Identified ↔ teid ≠ 0 ∨ ∀ i, (upf.tunnels i).teid ≠ 0 := by
  cases hslot : first (UpfTunnel.hasTeid teid) upf.tunnels with
  | none =>
      rw [upfRemoveTunnel, hslot]
      refine iff_of_true h.toIdentified ?_
      by_cases hzero : teid = 0
      · refine .inr fun i hi => ?_
        have hnot := first_eq_none_iff.mp hslot i
        rw [UpfTunnel.hasTeid, hi, hzero] at hnot
        cases hnot
      · exact .inl hzero
  | some slot =>
      have hteid := UpfTunnel.hasTeid_iff.mp (passes_of_first hslot)
      rw [upfRemoveTunnel, hslot]
      refine (@identified_clear_iff upf _ slot .cleared h rfl (by rfl) (by rfl)).trans ?_
      rw [hteid]
      refine ⟨.inl, ?_⟩
      rintro (hne | hnone)
      · exact hne
      · exact fun hzero => hnone slot (hteid.trans hzero)

/-- **A deletion request removes a live tunnel of its own and keeps the count exactly when the first slot with
the SEID holds one.** -/
theorem deleteSession_iff (h : upf.Inv) (origin : Fin mockCoreSlots → Option (BitVec 64)) (seid : BitVec 64) :
    (deleteSession upf seid).Identified
        ∧ (∀ i, (deleteSession upf seid).tunnels i ≠ upf.tunnels i →
            (upf.tunnels i).live = true ∧ origin i = some seid)
      ↔ ∀ i, first (UpfTunnel.hasSeid seid) upf.tunnels = some i →
          (upf.tunnels i).live = true ∧ origin i = some seid := by
  cases hslot : first (UpfTunnel.hasSeid seid) upf.tunnels with
  | none =>
      rw [deleteSession, hslot]
      refine iff_of_true ⟨h.toIdentified, fun i hi => absurd rfl hi⟩ ?_
      intro i hi
      cases hi
  | some slot =>
      have hidentified : (deleteSession upf seid).Identified ↔ (upf.tunnels slot).teid ≠ 0 := by
        rw [deleteSession, hslot]
        exact @identified_clear_iff upf _ slot { upf.tunnels slot with teid := 0, active := false } h rfl
          (by rfl) (by rfl)
      have htunnels : (deleteSession upf seid).tunnels
          = Function.update upf.tunnels slot { upf.tunnels slot with teid := 0, active := false } := by
        rw [deleteSession, hslot]
      rw [hidentified, htunnels]
      constructor
      · rintro ⟨hlive, howned⟩ i hi
        obtain rfl := Option.some.inj hi
        apply howned
        rw [Function.update_self]
        intro heq
        exact hlive (congrArg UpfTunnel.teid heq).symm
      · intro howned
        refine ⟨UpfTunnel.live_iff.mp (howned slot rfl).1, fun i hi => ?_⟩
        have heq : i = slot := by
          by_contra hne
          exact hi (Function.update_of_ne hne _ _)
        rw [heq]
        exact howned slot rfl

theorem inactive_update (h : upf.Inv) (htunnel : tunnel.active = false) (i : Fin mockCoreSlots) :
    (Function.update upf.tunnels slot tunnel i).active = false := by
  by_cases heq : i = slot
  · rw [heq, Function.update_self, htunnel]
  · rw [Function.update_of_ne heq, h.inactive]

theorem inactive_apply (h : upf.Inv) (op : UpfOp) : ∀ i, ((op.apply upf).tunnels i).active = false := by
  cases op with
  | createTunnel teid ueIp peerIp peerPort uplink =>
      rw [UpfOp.apply, upfCreateTunnel]
      split
      · exact h.inactive
      · exact h.inactive_update rfl
  | removeTunnel teid =>
      rw [UpfOp.apply, upfRemoveTunnel]
      split
      · exact h.inactive
      · exact h.inactive_update rfl
  | pfcp data srcAddr random =>
      rw [UpfOp.apply, processPfcpMessage]
      cases UpfPfcpMessage.ofBytes data with
      | none => exact h.inactive
      | some message =>
          cases message with
          | associationSetup => exact h.inactive
          | establishment seid =>
              change ∀ i, ((establishSession upf seid srcAddr random).tunnels i).active = false
              rw [establishSession, upfCreateTunnel]
              cases first (UpfTunnel.hasTeid 0) upf.tunnels with
              | none => exact h.inactive
              | some slot =>
                  dsimp only
                  rw [Function.update_self, Function.update_idem]
                  exact h.inactive_update rfl
          | deletion seid =>
              change ∀ i, ((deleteSession upf seid).tunnels i).active = false
              rw [deleteSession]
              split
              · exact h.inactive
              · exact h.inactive_update rfl
          | other => exact h.inactive

end UpfServer.Inv

namespace UpfHistory

variable {history : UpfHistory}

theorem removesOnlyItsOwn_of_message {op : UpfOp} (h : ∀ seid, op.message ≠ some (.deletion seid)) :
    history.RemovesOnlyItsOwn op :=
  fun seid hop => absurd hop (h seid)

/-- One step, for each function and each request. -/
theorem step_iff (h : history.upf.Inv) (op : UpfOp) :
    (upfStep history op).upf.Identified ∧ history.RemovesOnlyItsOwn op ↔ history.Safe op := by
  cases op with
  | createTunnel teid ueIp peerIp peerPort uplink =>
      rw [and_iff_left (removesOnlyItsOwn_of_message fun _ hop => by cases hop)]
      exact h.identified_createTunnel_iff teid ueIp peerIp peerPort uplink
  | removeTunnel teid =>
      rw [and_iff_left (removesOnlyItsOwn_of_message fun _ hop => by cases hop)]
      exact h.identified_removeTunnel_iff teid
  | pfcp data srcAddr random =>
      rw [upfStep, RemovesOnlyItsOwn, UpfOp.message, UpfOp.apply, processPfcpMessage, Safe]
      cases UpfPfcpMessage.ofBytes data with
      | none => exact iff_of_true ⟨h.toIdentified, fun _ hop => by cases hop⟩ trivial
      | some message =>
          cases message with
          | associationSetup =>
              exact iff_of_true ⟨⟨h.teids, h.numTunnels⟩, fun _ hop => by cases hop⟩ trivial
          | establishment seid =>
              rw [and_iff_left fun _ hop => by cases hop]
              exact h.identified_establishSession_iff seid srcAddr random
          | deletion seid =>
              refine Iff.trans ?_ (h.deleteSession_iff history.origin seid)
              refine and_congr_right fun _ => ⟨fun hall => hall seid rfl, ?_⟩
              intro howned seid' hop
              obtain rfl := UpfPfcpMessage.deletion.inj (Option.some.inj hop)
              exact howned
          | other => exact iff_of_true ⟨h.toIdentified, fun _ hop => by cases hop⟩ trivial

theorem step_inv (h : history.upf.Inv) (op : UpfOp) (hsafe : history.Safe op) :
    (upfStep history op).upf.Inv :=
  ⟨((step_iff h op).mpr hsafe).1, h.inactive_apply op⟩

end UpfHistory

theorem upfRun_identified_iff (ops : List UpfOp) :
    Runs.Throughout upfStep (fun history => history.upf.Identified) upfBegin ops
        ∧ Runs.Always upfStep UpfHistory.RemovesOnlyItsOwn upfBegin ops
      ↔ Runs.Always upfStep UpfHistory.Safe upfBegin ops := by
  rw [Runs.throughout_iff_always, and_assoc, ← Runs.always_and]
  refine (and_iff_right inv_upfCreate.toIdentified).trans ?_
  exact @Runs.always_iff _ _ upfStep (fun history => history.upf.Inv) UpfHistory.Safe
    (fun history op => (upfStep history op).upf.Identified ∧ history.RemovesOnlyItsOwn op)
    (fun _ op h => UpfHistory.step_iff h op) (fun _ op h hsafe => UpfHistory.step_inv h op hsafe) _
    inv_upfCreate ops

end Uesim
