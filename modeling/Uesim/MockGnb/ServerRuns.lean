import Uesim.Library.Runs
import Uesim.MockGnb.Server

/-!
# Runs of the mock gNB

A message that is none of the radio resource control has something in its first byte, and so no type of the
simple format is small enough for the server to know. What is left are answers of two kinds, which are shorter
than what a UE looks at.
-/

namespace Uesim

open Bytes BitMemory KeyedSlots

/-! ### What is sent -/

theorem asn1EncodeBits_moves (buf : Asn1Buffer) (value : Word) (numBits : Nat) (hbits : numBits ≤ 32)
    (hroom : buf.bitOffset + numBits ≤ 8 * buf.capacity) :
    (asn1EncodeBits buf value numBits).1.bitOffset = buf.bitOffset + numBits
      ∧ (asn1EncodeBits buf value numBits).1.capacity = buf.capacity := by
  rw [asn1EncodeBits_eq hbits hroom]
  exact ⟨rfl, rfl⟩

theorem asn1EncodeLength_moves (buf : Asn1Buffer) (len : Nat)
    (hroom : buf.bitOffset + 8 * asn1LengthBytes len ≤ 8 * buf.capacity) :
    (asn1EncodeLength buf len).1.bitOffset = buf.bitOffset + 8 * asn1LengthBytes len
      ∧ (asn1EncodeLength buf len).1.capacity = buf.capacity := by
  rw [asn1EncodeLength_eq hroom]
  exact ⟨rfl, rfl⟩

theorem asn1EncodeOctetString_moves (buf : Asn1Buffer) (content : Memory) (len : Nat)
    (hroom : buf.bitOffset + 8 * (asn1LengthBytes len + len) ≤ 8 * buf.capacity) :
    (asn1EncodeOctetString buf content len).1.bitOffset = buf.bitOffset + 8 * (asn1LengthBytes len + len) := by
  rw [asn1EncodeOctetString_eq hroom]

/-- `asn1_encode_choice` of two writes one bit. -/
theorem asn1EncodeChoice_two (buf : Asn1Buffer) (choiceIndex : Word) :
    (asn1EncodeChoice buf choiceIndex 2).1 = (asn1EncodeBits buf choiceIndex 1).1 := by
  have hbits : countBits ((2 : Word) - 1) = 1 := by decide
  rw [asn1EncodeChoice, if_neg (by decide), hbits]
  rfl

theorem ok_of_toOption {result : Except UesimError (Memory × Nat)} {sent : Memory × Nat}
    (h : result.toOption = some sent) : result = .ok sent := by
  cases result with
  | error e => cases h
  | ok value => exact congrArg _ (Option.some.inj h)

theorem generateRrcSetupAsn1_length {memory : Option Memory} {transactionId : Byte} {data : Memory} {len : Nat}
    (h : generateRrcSetupAsn1 memory transactionId = .ok (data, len)) : len = 5 := by
  cases memory with
  | none => cases h
  | some mem =>
      have hone : asn1LengthBytes 1 = 1 := rfl
      obtain ⟨hoffset, hcapacity⟩ := asn1EncodeBits_moves ⟨mem, 0, 64, 0⟩ (transactionId.setWidth 32) 8
        (by decide) (show 0 + 8 ≤ 8 * 64 by decide)
      change _ = 0 + 8 at hoffset
      change _ = 64 at hcapacity
      rw [generateRrcSetupAsn1] at h
      change Except.ok _ = Except.ok (data, len) at h
      injection h with h
      injection h with hdata hlen
      rw [← hlen, asn1BufferLength, asn1EncodeChoice_two]
      generalize (asn1EncodeBits ⟨mem, 0, 64, 0⟩ (transactionId.setWidth 32) 8).1 = buf at hoffset hcapacity ⊢
      obtain ⟨hoffset', hcapacity'⟩ := asn1EncodeBits_moves buf 0 1 (by decide) (by omega)
      generalize (asn1EncodeBits buf 0 1).1 = buf' at hoffset' hcapacity' ⊢
      obtain ⟨hoffset'', hcapacity''⟩ := asn1EncodeLength_moves buf' 1 (by omega)
      generalize (asn1EncodeLength buf' 1).1 = buf'' at hoffset'' hcapacity'' ⊢
      rw [asn1EncodeOctetString_moves buf'' (ofBytes [0x01]) 1 (by omega)]
      omega

theorem mockGnbReestablishment_length {memory : Option Memory} {ue : MockGnbUeContext} {data : Memory} {len : Nat}
    (h : mockGnbReestablishment memory ue = .ok (data, len)) : len = 2 := by
  cases memory with
  | none => cases h
  | some mem =>
      rw [mockGnbReestablishment] at h
      change Except.ok _ = Except.ok (data, len) at h
      injection h with h
      injection h with hdata hlen
      rw [← hlen, asn1BufferLength, rrcEncodeReestablishment, rrcEncodeConfig, asn1EncodeFields_cons,
        asn1EncodeFields_cons]
      have hzero : asn1LengthBytes 0 = 1 := rfl
      have hclear : (asn1Clear ⟨mem, 0, 64, 0⟩).bitOffset = 0 ∧ (asn1Clear ⟨mem, 0, 64, 0⟩).capacity = 64 :=
        ⟨rfl, rfl⟩
      obtain ⟨hoffset, hcapacity⟩ := hclear
      generalize asn1Clear ⟨mem, 0, 64, 0⟩ = buf at hoffset hcapacity ⊢
      generalize (_ : Byte).setWidth 32 = value
      obtain ⟨hoffset', hcapacity'⟩ := asn1EncodeBits_moves buf value 2 (by decide) (by omega)
      generalize (asn1EncodeBits buf value 2).1 = buf' at hoffset' hcapacity' ⊢
      obtain ⟨hoffset'', hcapacity''⟩ := asn1EncodeBits_moves buf' 0 6 (by decide) (by omega)
      generalize (asn1EncodeBits buf' 0 6).1 = buf'' at hoffset'' hcapacity'' ⊢
      rw [asn1EncodeFields, asn1EncodeOctetString_moves buf'' zeros 0 (by omega)]
      omega

/-! ### One message -/

/-- What a message can do at most: the UE may get connected or registered, and what is sent is of two lengths.
Sessions and handovers are left alone. -/
structure MockGnbOutcome.Modest (ue : MockGnbUeContext) (stats : MockGnbStats) (outcome : MockGnbOutcome) :
    Prop where
  ranUeNgapId : outcome.ue.ranUeNgapId = ue.ranUeNgapId
  pduSessions : outcome.ue.pduSessions = ue.pduSessions
  numActiveSessions : outcome.ue.numActiveSessions = ue.numActiveSessions
  state : outcome.ue.state = ue.state ∨ outcome.ue.state = .connected ∨ outcome.ue.state = .registered
  totalConnections : outcome.stats.totalConnections = stats.totalConnections
  activeConnections : outcome.stats.activeConnections = stats.activeConnections
  registrations : stats.successfulRegistrations = stats.totalRegistrations →
    outcome.stats.successfulRegistrations = outcome.stats.totalRegistrations
  successfulHandovers : outcome.stats.successfulHandovers = stats.successfulHandovers
  sent : ∀ data len, outcome.sent = some (data, len) → len = 5 ∨ len = 2

section Message

variable {around : MockGnbSurroundings} {config : MockGnbConfig} {ue : MockGnbUeContext} {stats : MockGnbStats}
  {data : Memory} {len : Nat}

theorem modest_nothing : MockGnbOutcome.Modest ue stats { ue, stats, sent := none } where
  ranUeNgapId := rfl
  pduSessions := rfl
  numActiveSessions := rfl
  state := Or.inl rfl
  totalConnections := rfl
  activeConnections := rfl
  registrations := id
  successfulHandovers := rfl
  sent := fun _ _ h => by cases h

/-- The context of a UE that gets connected. -/
def MockGnbUeContext.Connects (ue connected : MockGnbUeContext) : Prop :=
  connected.ranUeNgapId = ue.ranUeNgapId ∧ connected.pduSessions = ue.pduSessions
    ∧ connected.numActiveSessions = ue.numActiveSessions ∧ connected.state = .connected

theorem modest_of_connects {connected : MockGnbUeContext} (h : ue.Connects connected) :
    MockGnbOutcome.Modest ue stats { ue := connected, stats, sent := none } where
  ranUeNgapId := h.1
  pduSessions := h.2.1
  numActiveSessions := h.2.2.1
  state := Or.inr (Or.inl h.2.2.2)
  totalConnections := rfl
  activeConnections := rfl
  registrations := id
  successfulHandovers := rfl
  sent := fun _ _ h => by cases h

theorem sendNgapResponse_modest {connected : MockGnbUeContext} (h : ue.Connects connected)
    {response : Option (Memory × Nat)} (hlen : ∀ data len, response = some (data, len) → len = 5 ∨ len = 2) :
    MockGnbOutcome.Modest ue stats (sendNgapResponse around connected stats response) := by
  cases response with
  | none => exact modest_of_connects h
  | some response =>
      rw [sendNgapResponse]
      split
      · exact modest_of_connects h
      · have hmodest : MockGnbOutcome.Modest ue stats { ue := connected, stats, sent := none } :=
          modest_of_connects h
        exact { hmodest with sent := hlen }

theorem processSetupRequest_modest :
    MockGnbOutcome.Modest ue stats (processSetupRequest around config ue stats data len) := by
  rw [processSetupRequest]
  split
  · exact modest_nothing
  · dsimp only
    split
    · apply sendNgapResponse_modest
      · exact ⟨rfl, rfl, rfl, rfl⟩
      · intro data len hresponse
        exact Or.inl (generateRrcSetupAsn1_length (ok_of_toOption hresponse))
    · exact modest_of_connects ⟨rfl, rfl, rfl, rfl⟩

theorem processReestablishmentRequest_modest :
    MockGnbOutcome.Modest ue stats (processReestablishmentRequest around config ue stats data len) := by
  rw [processReestablishmentRequest]
  split
  · exact modest_nothing
  · dsimp only
    split
    · apply sendNgapResponse_modest
      · exact ⟨rfl, rfl, rfl, rfl⟩
      · intro data len hresponse
        exact Or.inr (mockGnbReestablishment_length (ok_of_toOption hresponse))
    · exact modest_of_connects ⟨rfl, rfl, rfl, rfl⟩

theorem processSetupComplete_modest :
    MockGnbOutcome.Modest ue stats (processSetupComplete ue stats data len) := by
  rw [processSetupComplete]
  split
  · exact modest_nothing
  · exact
      { ranUeNgapId := rfl
        pduSessions := rfl
        numActiveSessions := rfl
        state := Or.inr (Or.inr rfl)
        totalConnections := rfl
        activeConnections := rfl
        registrations := fun h => congrArg (· + 1) h
        successfulHandovers := rfl
        sent := fun _ _ h => by cases h }

/-- A measurement report has to have ten bytes, and what is taken for a handover preparation has nine. -/
theorem processHandoverPreparation_eq (h : detectRrcMessageType data len = .handoverPreparation) :
    processHandoverPreparation around config ue stats data len = { ue, stats, sent := none } := by
  rw [len_of_handoverPreparation h]
  rfl

theorem netWord_of_ne_zero (h : data 0 ≠ 0) {code : Word} (hcode : byteOf code 3 = 0) : netWord data 0 ≠ code := by
  intro heq
  have hbyte := congrArg (byteOf · 3) heq
  rw [netWord] at hbyte
  exact h (((byteOf_beWord_three _ _ _ _).symm.trans hbyte).trans hcode)

/-- **No message of the simple format is known**, since its type would be less than 2²⁴. -/
theorem processSimpleMessage_eq (h : data 0 ≠ 0) :
    processSimpleMessage around config ue stats data = { ue, stats, sent := none } := by
  rw [processSimpleMessage]
  dsimp only
  rw [if_neg (netWord_of_ne_zero h (by decide)), if_neg (netWord_of_ne_zero h (by decide)),
    if_neg (netWord_of_ne_zero h (by decide)), if_neg (netWord_of_ne_zero h (by decide)),
    if_neg (netWord_of_ne_zero h (by decide))]

theorem processNgapMessage_modest :
    MockGnbOutcome.Modest ue stats (processNgapMessage around config ue stats data len) := by
  rw [processNgapMessage]
  split
  · exact modest_nothing
  · split
    · exact processSetupRequest_modest
    · exact processSetupComplete_modest
    · exact processReestablishmentRequest_modest
    · rename_i hdetected
      rw [processHandoverPreparation_eq hdetected]
      exact modest_nothing
    · rename_i hdetected
      split
      · exact modest_nothing
      · rename_i hlong
        have hfirst : data 0 ≠ 0 := by
          intro hzero
          rw [zero_detected hzero (by omega)] at hdetected
          cases hdetected
        rw [processSimpleMessage_eq hfirst]
        exact modest_nothing
    · exact modest_nothing

end Message

/-! ### Runs -/

def mockGnbFirstSlot : Fin mockGnbMaxUes := ⟨0, Nat.zero_lt_succ 1023⟩

/-- The table while a connection is handled: the first slot belongs to it. -/
def mockGnbOneUe (id : Word) : Fin mockGnbMaxUes → Option Word :=
  Function.update (fun _ => none) mockGnbFirstSlot (some id)

/-- The server knows the UE of the connection that it handles and no other. The UE has got neither a session nor a
handover. -/
structure MockGnbServer.Serving (server : MockGnbServer) (ue : MockGnbUeContext) : Prop where
  state : ue.state = .connecting ∨ ue.state = .connected ∨ ue.state = .registered
  inactive : ∀ i, (ue.pduSessions i).state = .inactive
  numActiveSessions : ue.numActiveSessions = 0
  ranUeNgapId : ue.ranUeNgapId = server.ranUeIdCounter
  ueContexts : server.ueContexts = mockGnbOneUe ue.ranUeNgapId
  numActiveUes : server.numActiveUes = 1
  activeConnections : server.stats.activeConnections = 1

structure MockGnbServer.Waiting (server : MockGnbServer) : Prop where
  ueContexts : server.ueContexts = fun _ => none
  numActiveUes : server.numActiveUes = 0
  activeConnections : server.stats.activeConnections = 0

/-- What holds in every state that a run reaches. -/
structure MockGnbServer.Simple (server : MockGnbServer) : Prop where
  waiting : server.current = none → server.Waiting
  serving : ∀ ue, server.current = some ue → server.Serving ue
  totalConnections : server.stats.totalConnections = server.ranUeIdCounter
  registrations : server.stats.successfulRegistrations = server.stats.totalRegistrations
  successfulHandovers : server.stats.successfulHandovers = 0

theorem first_isNone_empty :
    first Option.isNone (fun _ : Fin mockGnbMaxUes => (none : Option Word)) = some mockGnbFirstSlot := by
  refine first_eq_some_iff.mpr ⟨rfl, fun j hj => ?_⟩
  exact absurd hj (Nat.not_lt_zero _)

theorem first_mockGnbOneUe (id : Word) :
    first (fun pointer => pointer == some id) (mockGnbOneUe id) = some mockGnbFirstSlot := by
  refine first_eq_some_iff.mpr ⟨?_, fun j hj => ?_⟩
  · rw [mockGnbOneUe, Function.update_self, beq_self_eq_true]
  · exact absurd hj (Nat.not_lt_zero _)

section Steps

variable {server : MockGnbServer}

theorem MockGnbServer.Simple.accept (h : server.Simple) (allocated : Bool) (rand : Nat) (socket : Int) :
    (mockGnbStep server (.accept allocated rand socket)).Simple := by
  cases hcurrent : server.current with
  | some ue =>
      rw [mockGnbStep, hcurrent]
      exact h
  | none =>
      have hwaiting := h.waiting hcurrent
      cases allocated with
      | false =>
          rw [mockGnbStep, hcurrent]
          exact h
      | true =>
          have hcreate : mockGnbCreateUeContext server true rand socket
              = ({ server with
                    ranUeIdCounter := server.ranUeIdCounter + 1
                    ueContexts := mockGnbOneUe (server.ranUeIdCounter + 1)
                    numActiveUes := server.numActiveUes + 1 },
                some (mockGnbNewUeContext (server.ranUeIdCounter + 1) rand socket)) := by
            rw [mockGnbCreateUeContext, if_pos rfl]
            dsimp only
            rw [hwaiting.ueContexts, first_isNone_empty]
            rfl
          rw [mockGnbStep, hcurrent, hcreate]
          refine
            { waiting := fun hnone => by cases hnone
              serving := fun ue hue => ?_
              totalConnections := congrArg (· + 1) h.totalConnections
              registrations := h.registrations
              successfulHandovers := h.successfulHandovers }
          cases hue
          exact
            { state := Or.inl rfl
              inactive := fun _ => rfl
              numActiveSessions := rfl
              ranUeNgapId := rfl
              ueContexts := rfl
              numActiveUes := congrArg (· + 1) hwaiting.numActiveUes
              activeConnections := congrArg (· + 1) hwaiting.activeConnections }

theorem MockGnbServer.Simple.receive (h : server.Simple) (around : MockGnbSurroundings) (data : Memory)
    (len : Nat) : (mockGnbStep server (.receive around data len)).Simple := by
  cases hcurrent : server.current with
  | none =>
      rw [mockGnbStep, hcurrent]
      exact h
  | some ue =>
      have hserving := h.serving ue hcurrent
      rw [mockGnbStep, hcurrent]
      dsimp only
      have hmodest := @processNgapMessage_modest around server.config ue
        { server.stats with ngapMessagesReceived := server.stats.ngapMessagesReceived + 1 } data len
      generalize processNgapMessage around server.config ue
        { server.stats with ngapMessagesReceived := server.stats.ngapMessagesReceived + 1 } data len = outcome
        at hmodest ⊢
      refine
        { waiting := fun hnone => by cases hnone
          serving := fun ue' hue => ?_
          totalConnections := hmodest.totalConnections.trans h.totalConnections
          registrations := hmodest.registrations h.registrations
          successfulHandovers := hmodest.successfulHandovers.trans h.successfulHandovers }
      cases hue
      refine
        { state := ?_
          inactive := fun i => by rw [hmodest.pduSessions]; exact hserving.inactive i
          numActiveSessions := hmodest.numActiveSessions.trans hserving.numActiveSessions
          ranUeNgapId := hmodest.ranUeNgapId.trans hserving.ranUeNgapId
          ueContexts := by rw [hmodest.ranUeNgapId]; exact hserving.ueContexts
          numActiveUes := hserving.numActiveUes
          activeConnections := hmodest.activeConnections.trans hserving.activeConnections }
      rcases hmodest.state with hstate | hstate
      · rw [hstate]
        exact hserving.state
      · exact Or.inr hstate

theorem MockGnbServer.Simple.close (h : server.Simple) : (mockGnbStep server .close).Simple := by
  cases hcurrent : server.current with
  | none =>
      rw [mockGnbStep, hcurrent]
      exact h
  | some ue =>
      have hserving := h.serving ue hcurrent
      have hempty : Function.update (mockGnbOneUe ue.ranUeNgapId) mockGnbFirstSlot none = fun _ => none := by
        rw [mockGnbOneUe, Function.update_idem, Function.update_eq_self_iff]
      have hremove : mockGnbRemoveUeContext server ue
          = { server with ueContexts := fun _ => none, numActiveUes := server.numActiveUes - 1 } := by
        rw [mockGnbRemoveUeContext, hserving.ueContexts, first_mockGnbOneUe]
        dsimp only
        rw [hempty]
      rw [mockGnbStep, hcurrent]
      dsimp only
      rw [hremove]
      exact
        { waiting := fun _ =>
            { ueContexts := rfl
              numActiveUes := congrArg (· - 1) hserving.numActiveUes
              activeConnections := congrArg (· - 1) hserving.activeConnections }
          serving := fun ue hue => by cases hue
          totalConnections := h.totalConnections
          registrations := h.registrations
          successfulHandovers := h.successfulHandovers }

theorem MockGnbServer.Simple.step (h : server.Simple) (op : MockGnbOp) : (mockGnbStep server op).Simple := by
  cases op with
  | accept allocated rand socket => exact h.accept allocated rand socket
  | receive around data len => exact h.receive around data len
  | close => exact h.close

theorem mockGnbServerInit_simple (config : MockGnbConfig) : (mockGnbServerInit config).Simple where
  waiting := fun _ => ⟨rfl, rfl, rfl⟩
  serving := fun _ h => by cases h
  totalConnections := rfl
  registrations := rfl
  successfulHandovers := rfl

theorem MockGnbServer.Simple.run (h : server.Simple) (ops : List MockGnbOp) :
    (ops.foldl mockGnbStep server).Simple := by
  induction ops generalizing server with
  | nil => exact h
  | cons op ops ih => exact ih (h.step op)

theorem mockGnbSent_length {op : MockGnbOp} {data : Memory} {len : Nat}
    (h : mockGnbSent server op = some (data, len)) : len = 5 ∨ len = 2 := by
  cases op with
  | accept allocated rand socket => cases h
  | close => cases h
  | receive around received receivedLen =>
      obtain ⟨ue, -, hsent⟩ := Option.bind_eq_some_iff.mp h
      exact processNgapMessage_modest.sent data len hsent

end Steps

/-- A message of less than twenty bytes is refused. -/
theorem rrcProcessIncomingMessage_short (ue : UeContext) (data : Memory) {len : BitVec 64}
    (hlen : len < rrcMinLength) (granted : BitVec 64 → Bool) (outcome : RrcOutcome) :
    rrcProcessIncomingMessage ue data len granted outcome = (ue, .error .invalidParam) := by
  rw [rrcProcessIncomingMessage]
  split
  · rfl
  · rw [rrcDecodeMessage, if_pos hlen]
    rfl

/-- **Whatever connects to the mock gNB and whatever it sends, at most one UE is known, and it never gets a
session nor a handover.** -/
theorem mockGnb_serves_one (config : MockGnbConfig) (ops : List MockGnbOp) :
    (ops.foldl mockGnbStep (mockGnbServerInit config)).Simple :=
  (mockGnbServerInit_simple config).run ops

/-- **The UE accepts no answer of the mock gNB**: all of them are shorter than the header that it expects. -/
theorem mockGnb_is_not_understood (config : MockGnbConfig) (ops : List MockGnbOp) :
    ∀ sent ∈ Runs.emitted mockGnbStep mockGnbSent (mockGnbServerInit config) ops,
      ∀ (ue : UeContext) (granted : BitVec 64 → Bool) (outcome : RrcOutcome),
        rrcProcessIncomingMessage ue sent.1 (BitVec.ofNat 64 sent.2) granted outcome = (ue, .error .invalidParam) := by
  intro sent hsent ue granted outcome
  obtain ⟨before, op, after, -, hemit⟩ := (Runs.mem_emitted_iff mockGnbStep mockGnbSent).mp hsent
  obtain ⟨data, len⟩ := sent
  apply rrcProcessIncomingMessage_short
  rcases mockGnbSent_length hemit with rfl | rfl
  · exact show (5 : BitVec 64) < 20 by decide
  · exact show (2 : BitVec 64) < 20 by decide

end Uesim
