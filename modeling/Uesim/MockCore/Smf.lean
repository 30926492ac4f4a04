import Uesim.Library.Bytes
import Uesim.Library.KeyedSlots
import Uesim.Library.Runs

/-!
# Sessions of the mock SMF

A session gets the next address of the pool, whichever addresses are in use: the cursor only starts again at
the end of the pool. Nor is it looked up whether the UE already has a session with the same id.
-/

namespace Uesim

open Bytes KeyedSlots

def mockCoreMaxUes : Nat := 1024
def mockCoreMaxSessions : Nat := 16

/-- The slots for sessions of the SMF, and for tunnels of the UPF. -/
abbrev mockCoreSlots : Nat := mockCoreMaxUes * mockCoreMaxSessions

structure SmfPduSession where
  pduSessionId : Byte
  sessionState : Byte
  ueIpAddr : Word
  sst : Byte
  sd : Word
  defaultQfi : Byte
  fiveQi : Byte
  upfDlTeid : Word
  upfIp : Word
  amfUeNgapId : BitVec 64
  active : Bool
  deriving DecidableEq

structure SmfServer where
  ueIpPoolStart : Word
  ueIpPoolEnd : Word
  nextUeIp : Word
  sessions : Fin mockCoreSlots → SmfPduSession
  numSessions : Word
  sessionsCreated : BitVec 64
  sessionsReleased : BitVec 64

/-- A session after `memset`. -/
def SmfPduSession.cleared : SmfPduSession where
  pduSessionId := 0
  sessionState := 0
  ueIpAddr := 0
  sst := 0
  sd := 0
  defaultQfi := 0
  fiveQi := 0
  upfDlTeid := 0
  upfIp := 0
  amfUeNgapId := 0
  active := false

/-- `smf_create` with the default configuration. -/
def smfCreate : SmfServer where
  ueIpPoolStart := 0x0A000001
  ueIpPoolEnd := 0x0A0000FE
  nextUeIp := 0x0A000001
  sessions := fun _ => .cleared
  numSessions := 0
  sessionsCreated := 0
  sessionsReleased := 0

namespace SmfServer

/-- The address behind the next one. -/
def ueIpAfter (smf : SmfServer) : Word :=
  if smf.ueIpPoolEnd < smf.nextUeIp + 1 then smf.ueIpPoolStart else smf.nextUeIp + 1

def newSession (smf : SmfServer) (amfUeId : BitVec 64) (pduSessionId sst : Byte) (sd : Word) :
    SmfPduSession where
  pduSessionId := pduSessionId
  sessionState := 1
  ueIpAddr := smf.nextUeIp
  sst := sst
  sd := sd
  defaultQfi := 1
  fiveQi := 9
  upfDlTeid := amfUeId.setWidth 32 * 1000 + pduSessionId.setWidth 32
  upfIp := 0x7F000001
  amfUeNgapId := amfUeId
  active := true

end SmfServer

def SmfPduSession.isFree (session : SmfPduSession) : Bool := !session.active

def SmfPduSession.matches (pduSessionId : Byte) (amfUeId : BitVec 64) (session : SmfPduSession) : Bool :=
  session.active && session.pduSessionId == pduSessionId && session.amfUeNgapId == amfUeId

/-- With the slot of the session that is returned. -/
def smfCreateSession (smf : SmfServer) (amfUeId : BitVec 64) (pduSessionId sst : Byte) (sd : Word) :
    SmfServer × Option (Fin mockCoreSlots) :=
  match first SmfPduSession.isFree smf.sessions with
  | none => (smf, none)
  | some slot =>
      ({ smf with
          sessions := Function.update smf.sessions slot (smf.newSession amfUeId pduSessionId sst sd)
          nextUeIp := smf.ueIpAfter
          numSessions := smf.numSessions + 1
          sessionsCreated := smf.sessionsCreated + 1 }, some slot)

def smfReleaseSession (smf : SmfServer) (pduSessionId : Byte) (amfUeId : BitVec 64) : SmfServer :=
  match first (SmfPduSession.matches pduSessionId amfUeId) smf.sessions with
  | none => smf
  | some slot =>
      { smf with
        sessions :=
          Function.update smf.sessions slot { smf.sessions slot with active := false, sessionState := 0 }
        numSessions := smf.numSessions - 1
        sessionsReleased := smf.sessionsReleased + 1 }

def smfFindSession (smf : SmfServer) (pduSessionId : Byte) (amfUeId : BitVec 64) :
    Option (Fin mockCoreSlots) :=
  first (SmfPduSession.matches pduSessionId amfUeId) smf.sessions

/-! ### What identifies a session -/

def SmfPduSession.key (session : SmfPduSession) : BitVec 64 × Byte :=
  (session.amfUeNgapId, session.pduSessionId)

structure SmfServer.Identified (smf : SmfServer) : Prop where
  keys : Distinct SmfPduSession.active SmfPduSession.key smf.sessions
  addresses : Distinct SmfPduSession.active SmfPduSession.ueIpAddr smf.sessions
  inPool : ∀ i, (smf.sessions i).active = true →
    smf.ueIpPoolStart ≤ (smf.sessions i).ueIpAddr ∧ (smf.sessions i).ueIpAddr ≤ smf.ueIpPoolEnd
  numSessions : smf.numSessions.toNat = Counting.count SmfPduSession.active smf.sessions

inductive SmfOp where
  | create (amfUeId : BitVec 64) (pduSessionId sst : Byte) (sd : Word)
  | release (pduSessionId : Byte) (amfUeId : BitVec 64)

def smfStep (smf : SmfServer) : SmfOp → SmfServer
  | .create amfUeId pduSessionId sst sd => (smfCreateSession smf amfUeId pduSessionId sst sd).1
  | .release pduSessionId amfUeId => smfReleaseSession smf pduSessionId amfUeId

/-- A new session finds its id and the next address not in use, or no free slot. -/
def SmfServer.Safe (smf : SmfServer) : SmfOp → Prop
  | .create amfUeId pduSessionId _ _ =>
      first SmfPduSession.isFree smf.sessions = none
        ∨ ∀ i, (smf.sessions i).active = true →
            (smf.sessions i).key ≠ (amfUeId, pduSessionId) ∧ (smf.sessions i).ueIpAddr ≠ smf.nextUeIp
  | .release _ _ => True

/-- What holds between safe operations: the cursor stays in the default pool. -/
structure SmfServer.Inv (smf : SmfServer) : Prop extends smf.Identified where
  poolStart : smf.ueIpPoolStart = 0x0A000001
  poolEnd : smf.ueIpPoolEnd = 0x0A0000FE
  cursor : smf.ueIpPoolStart ≤ smf.nextUeIp ∧ smf.nextUeIp ≤ smf.ueIpPoolEnd

theorem inv_smfCreate : smfCreate.Inv where
  keys := distinct_of_forall fun _ => rfl
  addresses := distinct_of_forall fun _ => rfl
  inPool i hi := absurd hi Bool.false_ne_true
  numSessions := (Counting.count_eq_zero_of_forall _ _ fun _ => rfl).symm
  poolStart := rfl
  poolEnd := rfl
  cursor := by decide

namespace SmfServer.Inv

variable {smf : SmfServer} {slot : Fin mockCoreSlots}

theorem ueIpAfter_mem (h : smf.Inv) :
    smf.ueIpPoolStart ≤ smf.ueIpAfter ∧ smf.ueIpAfter ≤ smf.ueIpPoolEnd := by
  obtain ⟨hlow, hhigh⟩ := h.cursor
  rw [ueIpAfter]
  rw [h.poolStart] at hlow ⊢
  rw [h.poolEnd] at hhigh ⊢
  split
  · exact ⟨BitVec.le_refl _, by decide⟩
  · bv_omega

theorem count_lt (h : smf.Inv) : smf.numSessions.toNat < 2 ^ 32 - 1 := by
  have hle := Counting.count_le_card SmfPduSession.active smf.sessions
  rw [← h.numSessions, Fintype.card_fin] at hle
  exact lt_of_le_of_lt hle (by decide)

/-- **A created session keeps the sessions identified exactly when its id and its address are not in use.** -/
theorem identified_create_iff (h : smf.Inv) (hslot : first SmfPduSession.isFree smf.sessions = some slot)
    (amfUeId : BitVec 64) (pduSessionId sst : Byte) (sd : Word) :
    (smfCreateSession smf amfUeId pduSessionId sst sd).1.Identified
      ↔ ∀ i, (smf.sessions i).active = true →
          (smf.sessions i).key ≠ (amfUeId, pduSessionId) ∧ (smf.sessions i).ueIpAddr ≠ smf.nextUeIp := by
  have hfree : (smf.sessions slot).active = false := by
    simpa [SmfPduSession.isFree] using passes_of_first hslot
  have hnew : (smf.newSession amfUeId pduSessionId sst sd).active = true := rfl
  have hkeys := h.keys.update_live_iff hfree hnew
  have haddresses := h.addresses.update_live_iff hfree hnew
  rw [smfCreateSession, hslot]
  constructor
  · intro hidentified i hi
    exact ⟨hkeys.mp hidentified.keys i hi, haddresses.mp hidentified.addresses i hi⟩
  · intro hfresh
    refine ⟨hkeys.mpr fun i hi => (hfresh i hi).1, haddresses.mpr fun i hi => (hfresh i hi).2, ?_, ?_⟩
    · exact forall_live_update (P := fun session : SmfPduSession =>
        smf.ueIpPoolStart ≤ session.ueIpAddr ∧ session.ueIpAddr ≤ smf.ueIpPoolEnd) h.inPool fun _ => h.cursor
    · have hcount := Counting.count_update_add SmfPduSession.active smf.sessions slot
        (smf.newSession amfUeId pduSessionId sst sd)
      have hlt := h.count_lt
      rw [hfree, hnew, Bool.toNat_false, Bool.toNat_true, Nat.add_zero, ← h.numSessions] at hcount
      calc (smf.numSessions + 1).toNat
          = smf.numSessions.toNat + 1 := by bv_omega
        _ = Counting.count SmfPduSession.active (Function.update smf.sessions slot _) := hcount.symm

theorem identified_release (h : smf.Inv) (pduSessionId : Byte) (amfUeId : BitVec 64) :
    (smfReleaseSession smf pduSessionId amfUeId).Identified := by
  rw [smfReleaseSession]
  split
  · exact h.toIdentified
  · rename_i slot hslot
    have hlive : (smf.sessions slot).active = true := by
      have hmatches := passes_of_first hslot
      rw [SmfPduSession.matches, Bool.and_eq_true, Bool.and_eq_true] at hmatches
      exact hmatches.1.1
    refine ⟨h.keys.update_free rfl, h.addresses.update_free rfl, ?_, ?_⟩
    · exact forall_live_update (P := fun session : SmfPduSession =>
        smf.ueIpPoolStart ≤ session.ueIpAddr ∧ session.ueIpAddr ≤ smf.ueIpPoolEnd) h.inPool
        fun hlive => absurd hlive Bool.false_ne_true
    · have hcount := Counting.count_update_add SmfPduSession.active smf.sessions slot
        { smf.sessions slot with active := false, sessionState := 0 }
      have hpos := Counting.count_pos (p := SmfPduSession.active) hlive
      rw [hlive, Bool.toNat_false, Bool.toNat_true, Nat.add_zero, ← h.numSessions] at hcount
      rw [← h.numSessions] at hpos
      calc (smf.numSessions - 1).toNat
          = smf.numSessions.toNat - 1 := by bv_omega
        _ = Counting.count SmfPduSession.active (Function.update smf.sessions slot _) :=
            Nat.sub_eq_of_eq_add hcount.symm

theorem identified_step_iff (h : smf.Inv) (op : SmfOp) : (smfStep smf op).Identified ↔ smf.Safe op := by
  cases op with
  | create amfUeId pduSessionId sst sd =>
      cases hslot : first SmfPduSession.isFree smf.sessions with
      | none =>
          rw [smfStep, smfCreateSession, hslot]
          exact iff_of_true h.toIdentified (.inl hslot)
      | some slot =>
          refine (h.identified_create_iff hslot amfUeId pduSessionId sst sd).trans ?_
          rw [SmfServer.Safe, hslot]
          exact (or_iff_right (Option.some_ne_none slot)).symm
  | release pduSessionId amfUeId => exact iff_of_true (h.identified_release pduSessionId amfUeId) trivial

theorem step (h : smf.Inv) (op : SmfOp) (hsafe : smf.Safe op) : (smfStep smf op).Inv := by
  have hidentified := (h.identified_step_iff op).mpr hsafe
  cases op with
  | create amfUeId pduSessionId sst sd =>
      rw [smfStep, smfCreateSession] at hidentified ⊢
      split at hidentified
      · exact h
      · exact ⟨hidentified, h.poolStart, h.poolEnd, h.ueIpAfter_mem⟩
  | release pduSessionId amfUeId =>
      rw [smfStep, smfReleaseSession] at hidentified ⊢
      split at hidentified
      · exact h
      · exact ⟨hidentified, h.poolStart, h.poolEnd, h.cursor⟩

end SmfServer.Inv

theorem smfRun_identified_iff (ops : List SmfOp) :
    Runs.Throughout smfStep SmfServer.Identified smfCreate ops
      ↔ Runs.Always smfStep SmfServer.Safe smfCreate ops :=
  @Runs.throughout_iff _ _ smfStep SmfServer.Inv SmfServer.Safe SmfServer.Identified
    (fun _ h => h.toIdentified) (fun _ op h => h.identified_step_iff op) (fun _ op h hsafe => h.step op hsafe)
    _ inv_smfCreate ops

/-- While the sessions are identified, a lookup by UE and session id finds the one session that has them. -/
theorem SmfServer.Identified.smfFindSession_eq_some_iff {smf : SmfServer} (h : smf.Identified)
    (pduSessionId : Byte) (amfUeId : BitVec 64) (i : Fin mockCoreSlots) :
    smfFindSession smf pduSessionId amfUeId = some i
      ↔ (smf.sessions i).active = true ∧ (smf.sessions i).key = (amfUeId, pduSessionId) := by
  have hmatches (j : Fin mockCoreSlots) : (smf.sessions j).matches pduSessionId amfUeId = true
      ↔ (smf.sessions j).active = true ∧ (smf.sessions j).key = (amfUeId, pduSessionId) := by
    rw [SmfPduSession.matches, Bool.and_eq_true, Bool.and_eq_true, beq_iff_eq, beq_iff_eq, and_assoc,
      SmfPduSession.key, Prod.mk.injEq, and_comm (a := (smf.sessions j).pduSessionId = pduSessionId)]
  constructor
  · intro hfind
    exact (hmatches i).mp (passes_of_first hfind)
  · intro hi
    cases hfind : smfFindSession smf pduSessionId amfUeId with
    | none =>
        have hnone := first_eq_none_iff.mp hfind i
        exact absurd ((hmatches i).mpr hi) (Bool.eq_false_iff.mp hnone)
    | some j =>
        have hj := (hmatches j).mp (passes_of_first hfind)
        exact congrArg some (h.keys j i hj.1 hi.1 (hj.2.trans hi.2.symm))

end Uesim
