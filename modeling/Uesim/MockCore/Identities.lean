import Uesim.MockCore.Upf

/-!
# Identities in the mock core

What a run of the SMF and a run of the UPF have to leave undone, so that sessions and tunnels stay identified.
-/

namespace Uesim

open Bytes KeyedSlots

/-- **Sessions and tunnels stay identified in exactly these runs.** -/
theorem mockCore_identified_iff (smfOps : List SmfOp) (upfOps : List UpfOp) :
    Runs.Throughout smfStep SmfServer.Identified smfCreate smfOps
        ∧ Runs.Throughout upfStep (fun history => history.upf.Identified) upfBegin upfOps
        ∧ Runs.Always upfStep UpfHistory.RemovesOnlyItsOwn upfBegin upfOps
      ↔ Runs.Always smfStep SmfServer.Safe smfCreate smfOps
        ∧ Runs.Always upfStep UpfHistory.Safe upfBegin upfOps :=
  and_congr (smfRun_identified_iff smfOps) (upfRun_identified_iff upfOps)

theorem exists_other_slot (slot : Fin mockCoreSlots) : ∃ i, i ≠ slot := by
  have hslots : 1 < mockCoreSlots := by decide
  by_cases h : slot = ⟨0, by omega⟩
  · refine ⟨⟨1, hslots⟩, fun heq => ?_⟩
    rw [h, Fin.mk.injEq] at heq
    omega
  · exact ⟨_, Ne.symm h⟩

/-- The same session is created twice, and the same tunnel. -/
theorem mockCore_not_identified :
    ¬Runs.Throughout smfStep SmfServer.Identified smfCreate [.create 1 5 1 0, .create 1 5 1 0]
      ∧ ¬Runs.Throughout upfStep (fun history => history.upf.Identified) upfBegin
          [.createTunnel 7 0 0 2152 true, .createTunnel 7 0 0 2152 true] := by
  constructor
  · rw [smfRun_identified_iff]
    rintro ⟨-, hsafe, -⟩
    cases hslot : first SmfPduSession.isFree smfCreate.sessions with
    | none => exact Bool.noConfusion (first_eq_none_iff.mp hslot ⟨0, by decide⟩)
    | some slot =>
        obtain ⟨i, hi⟩ := exists_other_slot slot
        rw [smfStep, smfCreateSession, hslot] at hsafe
        rcases hsafe with hfull | hfresh
        · have hused := first_eq_none_iff.mp hfull i
          dsimp only at hused
          rw [Function.update_of_ne hi] at hused
          cases hused
        · have hkey := (hfresh slot ?_).1
          · dsimp only at hkey
            rw [Function.update_self] at hkey
            exact hkey rfl
          · dsimp only
            rw [Function.update_self]
            rfl
  · rintro ⟨-, -, hidentified⟩
    have hne : (0 : Word) ≠ 7 := by decide
    have hfresh : upfBegin.Safe (.createTunnel 7 0 0 2152 true) := .inr ⟨hne.symm, fun _ => hne⟩
    have hinv := @UpfHistory.step_inv upfBegin inv_upfCreate _ hfresh
    have hagain := (hinv.identified_createTunnel_iff 7 0 0 2152 true).mp hidentified
    cases hslot : first (UpfTunnel.hasTeid 0) upfCreate.tunnels with
    | none => exact Bool.noConfusion (first_eq_none_iff.mp hslot ⟨0, by decide⟩)
    | some slot =>
        obtain ⟨i, hi⟩ := exists_other_slot slot
        rw [upfStep, UpfOp.apply, upfBegin, upfCreateTunnel, hslot] at hagain
        rcases hagain with hfull | ⟨-, hteids⟩
        · have hused := first_eq_none_iff.mp hfull i
          dsimp only at hused
          rw [Function.update_of_ne hi] at hused
          cases hused
        · have hteid := hteids slot
          dsimp only at hteid
          rw [Function.update_self] at hteid
          exact hteid rfl

end Uesim
