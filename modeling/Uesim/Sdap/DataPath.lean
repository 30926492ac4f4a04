import Uesim.Sdap.Entity

/-!
# The data path

The header has six bits for the flow, and what comes for a flow above 63 over the default bearer is sent under
another one. The bit that tells control PDUs from data is set by who sends one and read by nobody.
-/

namespace Uesim

open Bytes

section Header

variable (qfi : Byte) (rqi : Bool)

theorem flow_of_header : sdapDataHeader qfi rqi &&& 0x3F = qfi &&& 0x3F := by
  have hindication : (if rqi then (1 : Byte) else 0) <<< 6 &&& 0x3F = 0 := by
    cases rqi <;> decide
  rw [sdapDataHeader, BitVec.and_or_distrib_right, hindication, BitVec.and_assoc, BitVec.and_self]
  exact BitVec.or_zero

theorem toNat_flow : (qfi &&& 0x3F).toNat = qfi.toNat % 64 := by
  rw [BitVec.toNat_and]
  exact Nat.and_two_pow_sub_one_eq_mod qfi.toNat 6

theorem flow_eq_self_iff : qfi &&& 0x3F = qfi ↔ qfi ≤ 63 := by
  rw [← BitVec.toNat_inj, toNat_flow, BitVec.le_def]
  change _ ↔ qfi.toNat ≤ 63
  omega

end Header

theorem sdapProcessDlPdu_granted (peer : SdapEntity) (header : Byte) (data : List Byte) (drbId : Byte) :
    (sdapProcessDlPdu peer (header :: data) drbId .granted).2
      = .ok { data, dataLength := data.length, qfi := header &&& 0x3F, drbId } := by
  have hparse : sdapParseDataPdu (header :: data) SdapAllocation.granted.sduData
      = .ok (header &&& 0x3F, header >>> 6 &&& 0x01 ≠ 0, data) :=
    if_neg fun h => Bool.false_ne_true h.2.symm
  rw [sdapProcessDlPdu, hparse]
  rfl

theorem data_of_sdapProcessUlSdu {entity : SdapEntity} {data : List Byte} {qfi : Byte} {memory : Bool}
    {pdu : SdapPdu} (h : sdapProcessUlSdu entity data qfi memory = .ok pdu) :
    pdu.data = sdapDataHeader qfi (sdapIsReflectiveQos entity qfi) :: data := by
  rw [sdapProcessUlSdu] at h
  split at h
  · split at h
    · cases h
    · rw [sdapBuildDataPdu] at h
      split at h
      · cases h
        rfl
      · cases h
  · cases h

/-! ### What is sent and what arrives -/

inductive SdapSent where
  | sdu (data : List Byte) (qfi : Byte)
  | endMarker (qfi : Byte)
  | reflectiveQos (qfi drbId : Byte)

def SdapSent.send (entity : SdapEntity) (memory : Bool) : SdapSent → Except UesimError SdapPdu
  | .sdu data qfi => sdapProcessUlSdu entity data qfi memory
  | .endMarker qfi => sdapSendEndMarker qfi memory
  | .reflectiveQos qfi drbId => sdapSendReflectiveQos qfi drbId memory

/-- A payload is delivered as it was sent, by a peer that has memory, and a control PDU is not delivered. -/
def SdapSent.Arrives (peer : SdapEntity) (drbId : Byte) (pdu : SdapPdu) : SdapSent → Prop
  | .sdu data qfi =>
      (sdapProcessDlPdu peer pdu.data drbId .granted).2
        = .ok { data, dataLength := data.length, qfi, drbId }
  | _ => ∀ memory sdu, (sdapProcessDlPdu peer pdu.data drbId memory).2 ≠ .ok sdu

/-- A payload of one of the 64 flows. -/
def SdapSent.IsFlowSdu : SdapSent → Prop
  | .sdu _ qfi => qfi ≤ 63
  | _ => False

theorem SdapSent.not_arrives_of_control {peer : SdapEntity} {drbId : Byte} {pdu : SdapPdu} {header : Byte}
    {rest : List Byte} (h : pdu.data = header :: rest) :
    ¬∀ memory sdu, (sdapProcessDlPdu peer pdu.data drbId memory).2 ≠ .ok sdu := by
  intro hnever
  rw [h] at hnever
  exact hnever .granted _ (sdapProcessDlPdu_granted peer header rest drbId)

/-- **What is sent arrives exactly if it is a payload of a flow up to 63; every control PDU is delivered as a
payload.** -/
theorem sdapSent_arrives_iff {entity : SdapEntity} {sent : SdapSent} {memory : Bool} {pdu : SdapPdu}
    (hsent : sent.send entity memory = .ok pdu) (peer : SdapEntity) (drbId : Byte) :
    sent.Arrives peer drbId pdu ↔ sent.IsFlowSdu := by
  cases sent with
  | sdu data qfi =>
      have hdata := data_of_sdapProcessUlSdu hsent
      rw [SdapSent.Arrives, SdapSent.IsFlowSdu, hdata, sdapProcessDlPdu_granted, flow_of_header,
        ← flow_eq_self_iff]
      constructor
      · intro h
        exact congrArg SdapSdu.qfi (Except.ok.inj h)
      · intro h
        rw [h]
  | endMarker qfi =>
      rw [SdapSent.send, sdapSendEndMarker] at hsent
      split at hsent
      · cases hsent
        exact iff_of_false (SdapSent.not_arrives_of_control rfl) id
      · cases hsent
  | reflectiveQos qfi drbId =>
      rw [SdapSent.send, sdapSendReflectiveQos] at hsent
      split at hsent
      · cases hsent
        exact iff_of_false (SdapSent.not_arrives_of_control rfl) id
      · cases hsent

def sdapExampleEntity : SdapEntity :=
  (sdapMapQosFlow (sdapActivateEntity (sdapCreateEntity 1 none)) 5 1 false).1

theorem sdapSent_arrives_payload :
    (SdapSent.sdu [0x45] 5).Arrives (sdapCreateEntity 1 none) 1
      { data := [0x05, 0x45], qfi := 5, isControl := false } := by
  have hsent : (SdapSent.sdu [0x45] 5).send sdapExampleEntity true
      = .ok { data := [0x05, 0x45], qfi := 5, isControl := false } := by decide
  have hflow : (5 : Byte) ≤ 63 := by decide
  exact (sdapSent_arrives_iff hsent (sdapCreateEntity 1 none) 1).mpr hflow

/-- The end marker of flow 5 is delivered as the payload 5 of flow 0. -/
theorem sdapSent_not_arrives_endMarker :
    (SdapSent.endMarker 5).send sdapExampleEntity true
        = .ok { data := [0x80, 0x05], qfi := 0, isControl := true }
      ∧ ¬(SdapSent.endMarker 5).Arrives (sdapCreateEntity 1 none) 1
        { data := [0x80, 0x05], qfi := 0, isControl := true } := by
  refine ⟨rfl, fun harrives => ?_⟩
  exact harrives .granted { data := [0x05], dataLength := 1, qfi := 0, drbId := 1 } rfl

end Uesim
