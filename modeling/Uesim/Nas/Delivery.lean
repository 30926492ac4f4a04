import Uesim.Crypto.MacSeparation
import Uesim.Library.Runs
import Uesim.Nas.Reception

/-!
# Delivery between two NAS peers

The sender tags the plain data and then enciphers it under the next count. The receiver counts in step
and deciphers with the right count, but it looks at the tag first, while the data is still enciphered. So
a message arrives exactly when its enciphered data has the tag of its plain data, which under the null
cipher is no condition and under no other cipher holds of all data.
-/

namespace Uesim

open Bytes

variable {Session : Type} {receiver : NasUeContext Session}
  {message : NasMessage} {messages : List NasMessage} {data : List Byte}

/-- The network protects the messages one after the other as `nas_send_message` does, downlink, and the
receiver gets the data of every one. -/
def NasDelivers : NasSecurityContext → NasUeContext Session → List NasMessage → Prop
  | _, _, [] => True
  | sender, receiver, message :: messages =>
      ∃ sender' sent receiver' got, nasProtect .downlink sender message = (sender', .ok sent)
        ∧ nasProcessMessage receiver sent = (receiver', .ok got)
        ∧ got.messageData = message.messageData ∧ NasDelivers sender' receiver' messages

structure NasReceiving (receiver : NasUeContext Session) (cipherAlg : NasCipheringAlgorithm)
    (integrityAlg : NasIntegrityAlgorithm) : Prop where
  active : receiver.active = true
  valid : receiver.securityContext.securityContextValid = true
  cipheringAlg : receiver.securityContext.cipheringAlg = cipherAlg
  integrityAlg : receiver.securityContext.integrityAlg = integrityAlg

def NasMessage.HasPayload (message : NasMessage) : Prop :=
  ∃ data, message.messageData = some data ∧ data ≠ []

/-- The enciphered data has the tag of the plain data. -/
def NasSecurityContext.TagSurvives (ctx : NasSecurityContext) (message : NasMessage) : Prop :=
  ∀ data, message.messageData = some data →
    ctx.tag .downlink ((ctx.countUp .downlink).encipher .downlink data) = ctx.tag .downlink data

theorem nasDelivers_cons_iff (hactive : receiver.active = true)
    (hvalid : receiver.securityContext.securityContextValid = true)
    (halg : receiver.securityContext.integrityAlg ≠ .nia0) (hdata : message.messageData = some data)
    (hne : data ≠ []) :
    NasDelivers receiver.securityContext receiver (message :: messages)
      ↔ receiver.securityContext.TagSurvives message
        ∧ NasDelivers (receiver.securityContext.countUp .downlink)
            { receiver with
              securityContext := receiver.securityContext.countUp .downlink
              messagesReceived := receiver.messagesReceived + 1 } messages := by
  set security := receiver.securityContext
  set next := security.countUp .downlink
  obtain ⟨mac, htag⟩ := NasSecurityContext.exists_tag halg .downlink data
  obtain ⟨sent, hsent, hmac, hprotected, hover, hciphered⟩ := nasProtect_of_tag hvalid hdata hne htag
  obtain ⟨mac', htag'⟩ := NasSecurityContext.exists_tag halg .downlink (next.encipher .downlink data)
  have hprocess := nasProcessMessage_of_tag hactive hvalid hprotected hover htag'
  have hsurvives : security.TagSurvives message ↔ mac' = mac := by
    constructor
    · intro h
      exact Option.some.inj (htag'.symm.trans ((h data hdata).trans htag))
    · rintro rfl data' hdata'
      obtain rfl := Option.some.inj (hdata.symm.trans hdata')
      exact htag'.trans htag.symm
  have hnext : next.securityContextValid = true :=
    (NasSecurityContext.countUp_securityContextValid _ _).trans hvalid
  -- the receiver deciphers with the count that the sender enciphered with
  have hgot : (if sent.ciphered then
      { sent with messageData := (nasDecipherMessage next sent).messageData } else sent).messageData
        = message.messageData := by
    rw [hdata]
    split
    · calc (nasDecipherMessage next sent).messageData
          = some (next.decipher .downlink (next.encipher .downlink data)) :=
            nasDecipherMessage_messageData hnext hover
        _ = some data := congrArg some (next.decipher_encipher .downlink data)
    · rename_i hclear
      have hnull : security.cipheringAlg = .nea0 := by
        by_contra hcipher
        exact hclear (hciphered hcipher)
      have hplain : next.encipher .downlink data = data :=
        NasSecurityContext.encipher_countUp_of_nea0 hnull
      rw [hover, hplain]
  rw [hmac] at hprocess
  rw [hsurvives, NasDelivers]
  constructor
  · rintro ⟨sender', sent', receiver', got, hcall, hok, -, hrest⟩
    obtain ⟨rfl, hsame⟩ := Prod.mk.inj (hsent.symm.trans hcall)
    obtain rfl := Except.ok.inj hsame
    rw [hprocess] at hok
    split at hok
    · rename_i hmacs
      obtain ⟨rfl, -⟩ := Prod.mk.inj hok
      exact ⟨hmacs, hrest⟩
    · cases (Prod.mk.inj hok).2
  · rintro ⟨hmacs, hrest⟩
    exact ⟨next, sent, _, _, hsent, hprocess.trans (if_pos hmacs), hgot, hrest⟩

/-- A sequence arrives exactly when every message keeps its tag under the count at which it comes. -/
theorem nasDelivers_iff_always (messages : List NasMessage)
    (hmessages : ∀ message ∈ messages, message.HasPayload)
    (hactive : receiver.active = true) (hvalid : receiver.securityContext.securityContextValid = true)
    (halg : receiver.securityContext.integrityAlg ≠ .nia0) :
    NasDelivers receiver.securityContext receiver messages
      ↔ Runs.Always (fun security _ => security.countUp .downlink) NasSecurityContext.TagSurvives
        receiver.securityContext messages := by
  induction messages generalizing receiver with
  | nil => exact Iff.rfl
  | cons message messages ih =>
      obtain ⟨⟨data, hdata, hne⟩, hrest⟩ := List.forall_mem_cons.mp hmessages
      rw [nasDelivers_cons_iff hactive hvalid halg hdata hne]
      refine and_congr_right fun _ => ?_
      set next : NasUeContext Session := { receiver with
        securityContext := receiver.securityContext.countUp .downlink
        messagesReceived := receiver.messagesReceived + 1 }
      change NasDelivers next.securityContext next messages
        ↔ Runs.Always _ _ next.securityContext messages
      have hnext : next.securityContext.securityContextValid = true :=
        (NasSecurityContext.countUp_securityContextValid _ _).trans hvalid
      refine ih hrest hactive hnext fun h => ?_
      exact halg ((NasSecurityContext.countUp_integrityAlg _ _).symm.trans h)

theorem tagSurvives_of_nea0 {ctx : NasSecurityContext} (hnull : ctx.cipheringAlg = .nea0)
    (message : NasMessage) : ctx.TagSurvives message := by
  intro data _
  rw [NasSecurityContext.encipher_countUp_of_nea0 hnull]

/-! ### One zero byte -/

theorem snow3gEncrypt_zero :
    snow3gEncrypt (Vector.replicate 16 0x00) ⟨1, 0, 1⟩ [0] = [0x40] := by
  decide +kernel

/-- Every row of the table makes `0x40` of a zero byte, under a key of its own. -/
theorem exists_encrypt_zero {i : Fin 4} {ops : PdcpCryptoOps} (hops : gCryptoOps i = some ops) :
    ∃ key, ops.encrypt key ⟨1, 0, 1⟩ [0] = [0x40] := by
  match i with
  | 0 => simp [gCryptoOps] at hops
  | 1 =>
      obtain rfl := Option.some.inj hops
      exact ⟨_, snow3gEncrypt_zero⟩
  | 2 =>
      obtain rfl := Option.some.inj hops
      refine ⟨Vector.replicate 16 0x9a, ?_⟩
      change aesEncrypt _ _ _ = _
      decide +kernel
  | 3 =>
      obtain rfl := Option.some.inj hops
      refine ⟨Vector.replicate 16 0x76, ?_⟩
      change zucEncrypt _ _ _ = _
      decide +kernel

theorem computeMac_byte_ne {i : Fin 4} {ops : PdcpCryptoOps} (hops : gCryptoOps i = some ops)
    (params : PdcpCipherParams) :
    ops.computeMac (Vector.replicate 16 0) [0x40] params
      ≠ ops.computeMac (Vector.replicate 16 0) [0] params := by
  by_cases hi : i = 2
  · subst hi
    obtain rfl := Option.some.inj hops
    -- the tag of AES ignores the parameters
    change aesComputeMac _ [0x40] ⟨0, 0, 0⟩ ≠ aesComputeMac _ [0] ⟨0, 0, 0⟩
    decide +kernel
  · have hlen : (Keystream.loadWords [0x40]).length = (Keystream.loadWords [0]).length := rfl
    rw [ne_eq, streamMac_eq_iff (isStreamMac_of_ne hops hi) hlen]
    decide

theorem exists_not_tagSurvives (cipherAlg : NasCipheringAlgorithm)
    (integrityAlg : NasIntegrityAlgorithm) (hcipher : cipherAlg ≠ .nea0)
    (hintegrity : integrityAlg ≠ .nia0) :
    ∃ receiver : NasUeContext Unit, NasReceiving receiver cipherAlg integrityAlg
      ∧ ¬receiver.securityContext.TagSurvives (nasCreateMessage 0x68 [0]) := by
  obtain ⟨ops, hops⟩ := exists_cipherOps hcipher
  obtain ⟨macOps, hmacOps⟩ := exists_macOps hintegrity
  obtain ⟨key, hkey⟩ := exists_encrypt_zero hops
  set receiver : NasUeContext Unit :=
    { nasSecuredUe cipherAlg integrityAlg with
      securityContext := { (nasSecuredUe cipherAlg integrityAlg).securityContext with knasEnc := key } }
  refine ⟨receiver, ⟨rfl, rfl, rfl, rfl⟩, fun h => ?_⟩
  have htag : ∀ data, receiver.securityContext.tag .downlink data
      = some (macOps.computeMac (Vector.replicate 16 0) data ⟨0, 0, 1⟩) := fun data =>
    congrArg (Option.map fun ops : PdcpCryptoOps =>
      ops.computeMac (Vector.replicate 16 0) data ⟨0, 0, 1⟩) hmacOps
  have henciphered : (receiver.securityContext.countUp .downlink).encipher .downlink [0] = [0x40] := by
    have hrow : gCryptoOps (receiver.securityContext.countUp .downlink).cipheringAlg.index = some ops :=
      hops
    rw [NasSecurityContext.encipher, hrow]
    exact hkey
  have hsame := h [0] rfl
  rw [htag, htag, henciphered] at hsame
  exact computeMac_byte_ne hmacOps _ (Option.some.inj hsame)

/-- **What arrives.** A sequence arrives exactly when every message keeps its tag once it is enciphered;
and two algorithms deliver every sequence under every context exactly when the cipher is the null
cipher. -/
theorem nasDelivers_iff (cipherAlg : NasCipheringAlgorithm) (integrityAlg : NasIntegrityAlgorithm)
    (halg : integrityAlg ≠ .nia0) :
    (∀ (Session : Type) (receiver : NasUeContext Session) (messages : List NasMessage),
        NasReceiving receiver cipherAlg integrityAlg → (∀ message ∈ messages, message.HasPayload) →
        (NasDelivers receiver.securityContext receiver messages
          ↔ Runs.Always (fun security _ => security.countUp .downlink) NasSecurityContext.TagSurvives
            receiver.securityContext messages))
      ∧ ((∀ (Session : Type) (receiver : NasUeContext Session) (messages : List NasMessage),
          NasReceiving receiver cipherAlg integrityAlg → (∀ message ∈ messages, message.HasPayload) →
          NasDelivers receiver.securityContext receiver messages) ↔ cipherAlg = .nea0) := by
  have hexact : ∀ (Session : Type) (receiver : NasUeContext Session) (messages : List NasMessage),
      NasReceiving receiver cipherAlg integrityAlg → (∀ message ∈ messages, message.HasPayload) →
      (NasDelivers receiver.securityContext receiver messages
        ↔ Runs.Always (fun security _ => security.countUp .downlink) NasSecurityContext.TagSurvives
          receiver.securityContext messages) := fun Session receiver messages hreceiving hpayload =>
    nasDelivers_iff_always messages hpayload hreceiving.active hreceiving.valid
      (fun hnull => halg (hreceiving.integrityAlg.symm.trans hnull))
  refine ⟨hexact, ?_, ?_⟩
  · intro hall
    by_contra hcipher
    obtain ⟨receiver, hreceiving, hlost⟩ := exists_not_tagSurvives cipherAlg integrityAlg hcipher halg
    have hpayload : ∀ message ∈ [nasCreateMessage 0x68 [0]], message.HasPayload :=
      List.forall_mem_singleton.mpr ⟨_, rfl, by decide⟩
    have hkept := (hexact Unit receiver _ hreceiving hpayload).mp (hall Unit receiver _ hreceiving hpayload)
    exact hlost hkept.1
  · rintro hnull Session receiver messages hreceiving hpayload
    refine (hexact Session receiver messages hreceiving hpayload).mpr ?_
    have hstep : ∀ (security : NasSecurityContext) (message : NasMessage),
        security.cipheringAlg = .nea0 → True → (security.countUp .downlink).cipheringAlg = .nea0 :=
      fun _ _ hsecurity _ => (NasSecurityContext.countUp_cipheringAlg _ _).trans hsecurity
    exact Runs.Always.of_invariant (fun _ message hsecurity _ => tagSurvives_of_nea0 hsecurity message)
      hstep (hreceiving.cipheringAlg.trans hnull) (Runs.always_of_forall (fun _ _ _ => trivial) _)

/-- Under the null cipher, two messages. -/
theorem nasDelivers_iff_nea0 :
    NasDelivers (nasSecuredUe .nea0 .nia3).securityContext (nasSecuredUe .nea0 .nia3)
      [nasCreateMessage 0x68 [1, 2], nasCreateMessage 0x68 [3]] := by
  refine (nasDelivers_iff .nea0 .nia3 (by decide)).2.mpr rfl Unit _ _ ⟨rfl, rfl, rfl, rfl⟩ ?_
  intro message hmessage
  simp only [List.mem_cons, List.not_mem_nil, or_false] at hmessage
  rcases hmessage with rfl | rfl
  · exact ⟨_, rfl, by decide⟩
  · exact ⟨_, rfl, by decide⟩

/-- A zero byte that SNOW 3G enciphers is turned away. -/
theorem not_nasDelivers_nea1 :
    ¬NasDelivers (nasSecuredUe .nea1 .nia1).securityContext (nasSecuredUe .nea1 .nia1)
      [nasCreateMessage 0x68 [0]] := by
  intro h
  have hkept := (nasDelivers_cons_iff rfl rfl (by decide) rfl (by decide)).mp h
  have hsame : some (snow3gComputeMac (Vector.replicate 16 0)
      (snow3gEncrypt (Vector.replicate 16 0) ⟨1, 0, 1⟩ [0]) ⟨0, 0, 1⟩)
        = some (snow3gComputeMac (Vector.replicate 16 0) [0] ⟨0, 0, 1⟩) := hkept.1 [0] rfl
  rw [snow3gEncrypt_zero] at hsame
  have hrow : gCryptoOps 1 = some ⟨snow3gEncrypt, snow3gDecrypt, snow3gComputeMac⟩ := rfl
  exact computeMac_byte_ne hrow _ (Option.some.inj hsame)

end Uesim
