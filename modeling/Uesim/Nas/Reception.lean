import Uesim.Nas.Protection

/-!
# What NAS reception lets through

Whether a received message is looked at depends on its flags alone, and the decoder clears both, so what
it decodes passes whatever its header and its tag are. Where a tag is looked at, the count of the
downlink moves first, and a message that is turned away has moved it as well.
-/

namespace Uesim

open Bytes

variable {Session : Type} {ctx next : NasUeContext Session} {message decoded got : NasMessage}
  {data encoded : List Byte} {mac : Word}

/-! ### Messages with a tag -/

theorem nasProcessMessage_of_tag (hactive : ctx.active = true)
    (hvalid : ctx.securityContext.securityContextValid = true)
    (hprotected : message.integrityProtected = true) (hdata : message.messageData = some data)
    (htag : ctx.securityContext.tag .downlink data = some mac) :
    nasProcessMessage ctx message
      = if mac = message.header.messageAuthenticationCode then
          ({ ctx with
              securityContext := ctx.securityContext.countUp .downlink
              messagesReceived := ctx.messagesReceived + 1 },
            .ok (if message.ciphered then { message with
                messageData :=
                  (nasDecipherMessage (ctx.securityContext.countUp .downlink) message).messageData }
              else message))
        else ({ ctx with securityContext := ctx.securityContext.countUp .downlink },
          .error .protocol) := by
  have hverify := nasVerifyIntegrityProtection_of_tag hvalid hprotected hdata htag
  by_cases hmac : mac = message.header.messageAuthenticationCode
  · rw [beq_iff_eq.mpr hmac] at hverify
    simp [nasProcessMessage, hactive, hprotected, hverify, hmac]
  · rw [beq_eq_false_iff_ne.mpr hmac] at hverify
    simp [nasProcessMessage, hactive, hprotected, hverify, hmac]

/-! ### Messages as they are decoded -/

/-- The security header is not plain, and the tag is that of the data under the key and the count in
force. -/
def NasSecurityContext.Verifies (ctx : NasSecurityContext) (message : NasMessage) : Prop :=
  message.header.securityHeaderType ≠ 0
    ∧ ∃ data, message.messageData = some data
      ∧ ctx.tag .downlink data = some message.header.messageAuthenticationCode

/-- If a byte string is decoded and processed with success, it verifies. -/
def NasAuthenticates (ctx : NasUeContext Session) (message : NasMessage) (encoded : List Byte) : Prop :=
  ∀ decoded next got, nasDecodeMessage message encoded = .ok decoded →
    nasProcessMessage ctx decoded = (next, .ok got) → ctx.securityContext.Verifies decoded

/-- No message: fewer than two bytes, or a security header and fewer bytes than the header has in
memory. -/
def NasUndecodable : List Byte → Prop
  | _ :: typeByte :: rest =>
      typeByte >>> 4 &&& 0x0f ≠ 0 ∧ rest.length + 2 < nasMessageHeaderSize
  | _ => True

/-- A security header, and behind it the tag of what comes after the sequence number. -/
def NasSecurityContext.Signed (ctx : NasSecurityContext) : List Byte → Prop
  | _ :: typeByte :: m0 :: m1 :: m2 :: m3 :: _ :: data =>
      typeByte >>> 4 &&& 0x0f ≠ 0 ∧ ctx.tag .downlink data = some (leWord m0 m1 m2 m3)
  | _ => False

theorem nasDecodeMessage_plain {typeByte : Byte} (hplain : typeByte >>> 4 &&& 0x0f = 0)
    (message : NasMessage) (discriminator : Byte) (rest : List Byte) :
    ∃ decoded, nasDecodeMessage message (discriminator :: typeByte :: rest) = .ok decoded
      ∧ decoded.header.securityHeaderType = 0 := by
  refine ⟨_, if_pos hplain, ?_⟩
  exact hplain

theorem nasDecodeMessage_secured {typeByte m0 m1 m2 m3 : Byte}
    (hsecured : typeByte >>> 4 &&& 0x0f ≠ 0) (hlong : nasMessageHeaderSize ≤ data.length + 7)
    (message : NasMessage) (discriminator sequenceNumber : Byte) :
    ∃ decoded, nasDecodeMessage message
        (discriminator :: typeByte :: m0 :: m1 :: m2 :: m3 :: sequenceNumber :: data) = .ok decoded
      ∧ decoded.header.securityHeaderType ≠ 0
      ∧ decoded.header.messageAuthenticationCode = leWord m0 m1 m2 m3
      ∧ decoded.messageData = some data := by
  have hdata : data ≠ [] := by
    apply List.ne_nil_of_length_pos
    rw [nasMessageHeaderSize] at hlong
    omega
  have hfits : ¬(m0 :: m1 :: m2 :: m3 :: sequenceNumber :: data).length + 2 < nasMessageHeaderSize := by
    simpa using hlong
  refine ⟨_, (if_neg hsecured).trans (if_neg hfits), hsecured, rfl, ?_⟩
  exact if_neg hdata

theorem nasDecodeMessage_short {typeByte : Byte} {rest : List Byte}
    (hsecured : typeByte >>> 4 &&& 0x0f ≠ 0) (hshort : rest.length + 2 < nasMessageHeaderSize)
    (message : NasMessage) (discriminator : Byte) :
    nasDecodeMessage message (discriminator :: typeByte :: rest) = .error .invalidParam :=
  (if_neg hsecured).trans (if_pos hshort)

theorem nasDecodeMessage_flags (h : nasDecodeMessage message encoded = .ok decoded) :
    decoded.integrityProtected = false ∧ decoded.ciphered = false := by
  unfold nasDecodeMessage at h
  split at h
  · cases h
  · cases h
  · dsimp only at h
    split at h
    · rw [← Except.ok.inj h]
      exact ⟨rfl, rfl⟩
    · split at h
      · cases h
      · split at h
        · rw [← Except.ok.inj h]
          exact ⟨rfl, rfl⟩
        · cases h

theorem nasProcessMessage_of_clear (ctx : NasUeContext Session)
    (hprotected : message.integrityProtected = false) (hciphered : message.ciphered = false) :
    nasProcessMessage ctx message
      = if ctx.active then
          ({ ctx with messagesReceived := ctx.messagesReceived + 1 }, .ok message)
        else (ctx, .error .invalidParam) := by
  unfold nasProcessMessage
  rw [hprotected, hciphered]
  rfl

theorem nasAuthenticates_iff_of_ok (h : nasDecodeMessage message encoded = .ok decoded) :
    NasAuthenticates ctx message encoded
      ↔ ctx.active = false ∨ ctx.securityContext.Verifies decoded := by
  obtain ⟨hprotected, hciphered⟩ := nasDecodeMessage_flags h
  have hprocess := nasProcessMessage_of_clear ctx hprotected hciphered
  cases hactive : ctx.active with
  | false =>
      refine iff_of_true ?_ (.inl rfl)
      intro decoded' next got hdecoded hok
      obtain rfl := Except.ok.inj (h.symm.trans hdecoded)
      rw [hprocess, hactive] at hok
      cases hok
  | true =>
      rw [hactive] at hprocess
      constructor
      · exact fun hall => .inr (hall decoded _ _ h hprocess)
      · rintro (hoff | hverifies) decoded' next got hdecoded -
        · cases hoff
        · obtain rfl := Except.ok.inj (h.symm.trans hdecoded)
          exact hverifies

theorem nasAuthenticates_of_error {e : UesimError} (h : nasDecodeMessage message encoded = .error e) :
    NasAuthenticates ctx message encoded := by
  intro decoded next got hdecoded
  cases h.symm.trans hdecoded

theorem not_signed_of_plain (ctx : NasSecurityContext) {typeByte : Byte}
    (hplain : typeByte >>> 4 &&& 0x0f = 0) (discriminator : Byte) (rest : List Byte) :
    ¬ctx.Signed (discriminator :: typeByte :: rest) := by
  rcases rest with _ | ⟨m0, _ | ⟨m1, _ | ⟨m2, _ | ⟨m3, _ | ⟨sequenceNumber, data⟩⟩⟩⟩⟩
  · exact id
  · exact id
  · exact id
  · exact id
  · exact id
  · exact fun h => h.1 hplain

theorem nasAuthenticates_iff_signed (ctx : NasUeContext Session) (message : NasMessage)
    (encoded : List Byte) :
    NasAuthenticates ctx message encoded
      ↔ ctx.active = false ∨ NasUndecodable encoded ∨ ctx.securityContext.Signed encoded := by
  rcases encoded with _ | ⟨discriminator, _ | ⟨typeByte, rest⟩⟩
  · exact iff_of_true (nasAuthenticates_of_error rfl) (.inr (.inl trivial))
  · exact iff_of_true (nasAuthenticates_of_error rfl) (.inr (.inl trivial))
  · by_cases hplain : typeByte >>> 4 &&& 0x0f = 0
    · obtain ⟨decoded, hok, hheader⟩ := nasDecodeMessage_plain hplain message discriminator rest
      have hnever : ¬ctx.securityContext.Verifies decoded := fun h => h.1 hheader
      have hdecodable : ¬NasUndecodable (discriminator :: typeByte :: rest) := fun h => h.1 hplain
      have hunsigned := not_signed_of_plain ctx.securityContext hplain discriminator rest
      rw [nasAuthenticates_iff_of_ok hok, or_iff_left hnever, or_iff_left (not_or.mpr
        ⟨hdecodable, hunsigned⟩)]
    · rcases Nat.lt_or_ge (rest.length + 2) nasMessageHeaderSize with hshort | hlong
      · exact iff_of_true
          (nasAuthenticates_of_error (nasDecodeMessage_short hplain hshort message discriminator))
          (.inr (.inl ⟨hplain, hshort⟩))
      · rw [nasMessageHeaderSize] at hlong
        obtain ⟨m0, m1, m2, m3, sequenceNumber, data, rfl⟩ :=
          exists_fields_of_length (by omega : 5 ≤ rest.length)
        simp only [List.length_cons] at hlong
        obtain ⟨decoded, hok, hheader, hmac, hdata⟩ :=
          nasDecodeMessage_secured hplain
            (by rw [nasMessageHeaderSize]; omega : nasMessageHeaderSize ≤ data.length + 7)
            message discriminator sequenceNumber
        have hdecodable : ¬NasUndecodable
            (discriminator :: typeByte :: m0 :: m1 :: m2 :: m3 :: sequenceNumber :: data) := by
          rintro ⟨-, hshort⟩
          simp only [List.length_cons, nasMessageHeaderSize] at hshort
          omega
        have hverifies : ctx.securityContext.Verifies decoded ↔ ctx.securityContext.Signed
            (discriminator :: typeByte :: m0 :: m1 :: m2 :: m3 :: sequenceNumber :: data) := by
          constructor
          · rintro ⟨-, data', hdata', htag⟩
            obtain rfl := Option.some.inj (hdata.symm.trans hdata')
            exact ⟨hplain, htag.trans (congrArg some hmac)⟩
          · rintro ⟨-, htag⟩
            exact ⟨hheader, data, hdata, htag.trans (congrArg some hmac.symm)⟩
        rw [nasAuthenticates_iff_of_ok hok, hverifies, or_iff_right hdecodable]

/-- **Nothing is authenticated.** A byte string that is decoded and processed with success verifies
exactly when the context is not active, the bytes are no message, or they happen to be signed; and so
every byte string does only in a context that is not active. -/
theorem nasAuthenticates_iff (ctx : NasUeContext Session) :
    (∀ message encoded, NasAuthenticates ctx message encoded
        ↔ ctx.active = false ∨ NasUndecodable encoded ∨ ctx.securityContext.Signed encoded)
      ∧ ((∀ message encoded, NasAuthenticates ctx message encoded) ↔ ctx.active = false) := by
  refine ⟨nasAuthenticates_iff_signed ctx, ?_, ?_⟩
  · intro h
    -- two bytes are a plain message
    have hplain := (nasAuthenticates_iff_signed ctx _ _).mp (h (nasCreateMessage 0 []) [0x7e, 0x02])
    refine hplain.resolve_right ?_
    rintro (⟨hsecured, -⟩ | hsigned)
    · exact absurd hsecured (by decide)
    · exact hsigned
  · exact fun hoff message encoded => (nasAuthenticates_iff_signed ctx message encoded).mpr (.inl hoff)

/-- A plain message of two bytes passes. -/
theorem nasAuthenticates_not_plain :
    let ctx := nasSecuredUe .nea2 .nia2
    ¬ NasAuthenticates ctx (nasCreateMessage 0 []) [0x7e, 0x02] := by
  intro ctx h
  exact (h _ _ _ rfl rfl).1 rfl

/-! ### Messages that are turned away -/

def NasAccepts (ctx : NasUeContext Session) (message : NasMessage) : Prop :=
  (nasProcessMessage ctx message).2.isOk = true

instance (ctx : NasUeContext Session) (message : NasMessage) : Decidable (NasAccepts ctx message) :=
  inferInstanceAs (Decidable ((nasProcessMessage ctx message).2.isOk = true))

theorem nasAccepts_iff_of_tag (hactive : ctx.active = true)
    (hvalid : ctx.securityContext.securityContextValid = true)
    (hprotected : message.integrityProtected = true) (hdata : message.messageData = some data)
    (htag : ctx.securityContext.tag .downlink data = some mac) :
    NasAccepts ctx message ↔ mac = message.header.messageAuthenticationCode := by
  rw [NasAccepts, nasProcessMessage_of_tag hactive hvalid hprotected hdata htag]
  split
  · rename_i hmac
    exact iff_of_true rfl hmac
  · rename_i hmac
    exact iff_of_false Bool.false_ne_true hmac

/-- The security context, the state and the PDU sessions are as before, and whatever would have been
accepted still is. -/
structure NasUnharmed (ctx next : NasUeContext Session) : Prop where
  securityContext : next.securityContext = ctx.securityContext
  mmState : next.mmState = ctx.mmState
  pduSessions : next.pduSessions = ctx.pduSessions
  accepts : ∀ genuine, NasAccepts ctx genuine → NasAccepts next genuine

theorem NasUnharmed.refl (ctx : NasUeContext Session) : NasUnharmed ctx ctx :=
  ⟨rfl, rfl, rfl, fun _ h => h⟩

/-- **How a message is turned away**: by a context that is not active, for want of data, or for its tag,
and then the count has moved. -/
theorem nasProcessMessage_error {e : UesimError} (h : nasProcessMessage ctx message = (next, .error e)) :
    (e = .invalidParam ∧ next = ctx ∧ (ctx.active = false ∨ message.messageData = none))
      ∨ (e = .protocol ∧ ctx.active = true ∧ message.messageData ≠ none
        ∧ next = { ctx with securityContext := ctx.securityContext.countUp .downlink }) := by
  unfold nasProcessMessage at h
  by_cases hactive : ctx.active = true
  · rw [if_pos hactive] at h
    by_cases hprotected : message.integrityProtected = true
    · rw [if_pos hprotected] at h
      rcases nasVerifyIntegrityProtection_cases ctx.securityContext message with
        hpass | ⟨hnone, hfail⟩ | ⟨data, mac, hdata, -, hcompared⟩
      · rw [hpass] at h
        cases (Prod.mk.inj h).2
      · rw [hfail] at h
        obtain ⟨rfl, he⟩ := Prod.mk.inj h
        exact .inl ⟨(Except.error.inj he).symm, rfl, .inr hnone⟩
      · rw [hcompared] at h
        cases hmac : mac == message.header.messageAuthenticationCode with
        | true =>
            rw [hmac] at h
            cases (Prod.mk.inj h).2
        | false =>
            rw [hmac] at h
            obtain ⟨hnext, he⟩ := Prod.mk.inj h
            exact .inr ⟨(Except.error.inj he).symm, hactive, by simp [hdata], hnext.symm⟩
    · rw [if_neg hprotected] at h
      cases (Prod.mk.inj h).2
  · rw [if_neg hactive] at h
    obtain ⟨hnext, he⟩ := Prod.mk.inj h
    exact .inl ⟨(Except.error.inj he).symm, hnext.symm, .inl (Bool.eq_false_of_not_eq_true hactive)⟩

/-- **No message whose tag fails leaves the context unharmed.** What is turned away does so exactly when
the context is not active or the message has no data, where no tag is looked at. -/
theorem nasUnharmed_iff {e : UesimError} (h : nasProcessMessage ctx message = (next, .error e)) :
    NasUnharmed ctx next ↔ ctx.active = false ∨ message.messageData = none := by
  rcases nasProcessMessage_error h with ⟨-, rfl, hreason⟩ | ⟨-, hactive, hdata, rfl⟩
  · exact iff_of_true (.refl _) hreason
  · refine iff_of_false (fun hunharmed => ?_) ?_
    · exact ctx.securityContext.countUp_ne .downlink hunharmed.securityContext
    · rintro (hoff | hnone)
      · rw [hactive] at hoff
        cases hoff
      · exact hdata hnone

/-- A message that is marked as protected and has no data. -/
theorem nasUnharmed_iff_null :
    let ctx := nasSecuredUe .nea0 .nia1
    let message := { nasCreateMessage 0x68 [] with integrityProtected := true }
    NasUnharmed ctx (nasProcessMessage ctx message).1 := by
  intro ctx message
  have herror : nasProcessMessage ctx message
      = ((nasProcessMessage ctx message).1, .error .invalidParam) := rfl
  exact (nasUnharmed_iff herror).mpr (.inr rfl)

/-- One forged message, and the genuine one after it, which the network tagged under count zero, is
turned away as well. -/
theorem not_nasUnharmed_forged :
    let ctx := nasSecuredUe .nea0 .nia1
    let signed (mac : Word) : NasMessage := { nasCreateMessage 0x68 [1] with
      header.messageAuthenticationCode := mac
      integrityProtected := true }
    let genuine := signed (snow3gComputeMac ctx.securityContext.knasInt [1]
      (ctx.securityContext.cipherParams .downlink))
    (nasProcessMessage ctx (signed 0)).2 = .error .protocol
      ∧ ¬ NasUnharmed ctx (nasProcessMessage ctx (signed 0)).1
      ∧ NasAccepts ctx genuine ∧ ¬ NasAccepts (nasProcessMessage ctx (signed 0)).1 genuine := by
  intro ctx signed genuine
  have hforged : nasProcessMessage ctx (signed 0)
      = ({ ctx with securityContext := ctx.securityContext.countUp .downlink }, .error .protocol) := by
    have hmac : ¬snow3gComputeMac (Vector.replicate 16 0) [1] ⟨0, 0, 1⟩ = 0 := by decide +kernel
    exact (nasProcessMessage_of_tag rfl rfl rfl rfl rfl).trans (if_neg hmac)
  have hgenuine : NasAccepts ctx genuine := (nasAccepts_iff_of_tag rfl rfl rfl rfl rfl).mpr rfl
  have hlost : ¬ NasAccepts (nasProcessMessage ctx (signed 0)).1 genuine := by
    -- the receiver expects count one by now
    have hmac : ¬snow3gComputeMac (Vector.replicate 16 0) [1] ⟨1, 0, 1⟩
        = snow3gComputeMac (Vector.replicate 16 0) [1] ⟨0, 0, 1⟩ := by decide +kernel
    rw [hforged]
    exact (nasAccepts_iff_of_tag rfl rfl rfl rfl rfl).not.mpr hmac
  have herror : (nasProcessMessage ctx (signed 0)).2 = .error .protocol := congrArg Prod.snd hforged
  exact ⟨herror, fun hunharmed => hlost (hunharmed.accepts genuine hgenuine), hgenuine, hlost⟩

end Uesim
