import Mathlib.Data.List.Induction
import Uesim.Library.Runs
import Uesim.Nas.Protection

/-!
# Which NAS keystreams are used twice

The key does not change while contexts are created and updated and messages are sent, so the keystream
of a message is chosen by the uplink count. What moves the count is integrity protection, before the
cipher reads it; the null integrity algorithm does not move it, and a context that is created anew
starts again from zero under the key it finds. Two ciphered messages with no creation in between have
different counts as soon as one message after the first, the second included, is integrity protected.
-/

namespace Uesim

open Bytes

inductive NasTxOp where
  | create (cipherAlg : NasCipheringAlgorithm) (integrityAlg : NasIntegrityAlgorithm)
  | update (newCipherAlg : NasCipheringAlgorithm) (newIntegrityAlg : NasIntegrityAlgorithm)
  | send (message : NasMessage)

def NasTxOp.isCreate : NasTxOp → Bool
  | create _ _ => true
  | _ => false

def NasTxOp.isSend : NasTxOp → Bool
  | send _ => true
  | _ => false

variable {Session : Type}

def nasTxStep (ctx : NasUeContext Session) : NasTxOp → NasUeContext Session
  | .create cipherAlg integrityAlg => nasCreateSecurityContext ctx cipherAlg integrityAlg
  | .update cipherAlg integrityAlg => nasUpdateSecurityContext ctx cipherAlg integrityAlg
  | .send message => (nasSendMessage ctx message).1

def nasTxRun (ctx : NasUeContext Session) (ops : List NasTxOp) : NasUeContext Session :=
  ops.foldl nasTxStep ctx

/-! ### What a call does -/

def NasUeContext.Protects (ctx : NasUeContext Session) : NasTxOp → Prop
  | .send message => ctx.active = true ∧ ctx.securityContext.securityContextValid = true
      ∧ ctx.securityContext.integrityAlg ≠ .nia0 ∧ message.messageData ≠ none
  | _ => False

def NasUeContext.Ciphers (ctx : NasUeContext Session) : NasTxOp → Prop
  | .send message => ctx.active = true ∧ ctx.securityContext.securityContextValid = true
      ∧ ctx.securityContext.cipheringAlg ≠ .nea0 ∧ message.messageData ≠ none
      ∧ message.messageData ≠ some []
  | _ => False

instance (ctx : NasUeContext Session) (op : NasTxOp) : Decidable (ctx.Protects op) := by
  cases op <;> unfold NasUeContext.Protects <;> infer_instance

instance (ctx : NasUeContext Session) (op : NasTxOp) : Decidable (ctx.Ciphers op) := by
  cases op <;> unfold NasUeContext.Ciphers <;> infer_instance

/-- The key and the parameters that a call hands to a cipher: those in force after the tag is made. -/
def nasKeystream (ctx : NasUeContext Session) (op : NasTxOp) :
    Option (Vector Byte 16 × PdcpCipherParams) :=
  if ctx.Ciphers op then
    some ((nasTxStep ctx op).securityContext.knasEnc,
      (nasTxStep ctx op).securityContext.cipherParams .uplink)
  else none

def nasCipherLog : NasUeContext Session → List NasTxOp → List (Vector Byte 16 × PdcpCipherParams) :=
  Runs.emitted nasTxStep nasKeystream

variable {ctx : NasUeContext Session} {op : NasTxOp}

theorem nasTxStep_send (ctx : NasUeContext Session) (message : NasMessage) :
    (nasTxStep ctx (.send message)).securityContext
      = if ctx.Protects (.send message) then ctx.securityContext.countUp .uplink
        else ctx.securityContext := by
  have hfirst := nasProtect_fst .uplink ctx.securityContext message
  unfold nasTxStep nasSendMessage
  by_cases hactive : ctx.active = true
  · simp only [hactive, ↓reduceIte, NasUeContext.Protects, true_and]
    rw [← hfirst]
    split <;> rename_i hcall <;> rw [hcall]
  · simp [hactive, NasUeContext.Protects]

theorem nasTxStep_send_of_countUp {α : Type} {f : NasSecurityContext → α}
    (hf : ∀ ctx direction, f (NasSecurityContext.countUp ctx direction) = f ctx)
    (ctx : NasUeContext Session) (message : NasMessage) :
    f (nasTxStep ctx (.send message)).securityContext = f ctx.securityContext := by
  rw [nasTxStep_send]
  split
  · exact hf ctx.securityContext .uplink
  · rfl

theorem nasTxStep_knasEnc (ctx : NasUeContext Session) (op : NasTxOp) :
    (nasTxStep ctx op).securityContext.knasEnc = ctx.securityContext.knasEnc := by
  cases op with
  | create | update => rfl
  | send message => exact nasTxStep_send_of_countUp NasSecurityContext.countUp_knasEnc ctx message

theorem nasTxStep_uplinkCount (ctx : NasUeContext Session) (hop : op.isCreate = false) :
    (nasTxStep ctx op).securityContext.uplinkCount
      = ctx.securityContext.uplinkCount + if ctx.Protects op then 1 else 0 := by
  cases op with
  | create => cases hop
  | update => simp [nasTxStep, nasUpdateSecurityContext, NasUeContext.Protects]
  | send message =>
      rw [nasTxStep_send]
      split
      · rfl
      · exact (BitVec.add_zero _).symm

/-- What a call hands to a cipher is what the message that it sends was enciphered with. -/
theorem nasSendMessage_messageData {message sent : NasMessage} {next : NasUeContext Session}
    (h : nasSendMessage ctx message = (next, .ok sent)) :
    sent.messageData = if ctx.Ciphers (.send message)
      then message.messageData.map (next.securityContext.encipher .uplink)
      else message.messageData := by
  have hnext : nasTxStep ctx (.send message) = next := congrArg Prod.fst h
  have hvalid := nasTxStep_send_of_countUp NasSecurityContext.countUp_securityContextValid ctx message
  have halg := nasTxStep_send_of_countUp NasSecurityContext.countUp_cipheringAlg ctx message
  rw [hnext] at hvalid halg
  unfold nasSendMessage at h
  split at h
  · rename_i hactive
    split at h
    · cases (Prod.mk.inj h).2
    · rename_i security enciphered hcall
      obtain ⟨rfl, hsent⟩ := Prod.mk.inj h
      rw [← Except.ok.inj hsent, nasProtect_messageData hcall]
      dsimp only at hvalid halg ⊢
      rw [hvalid]
      by_cases hciphers : ctx.Ciphers (.send message)
      · rw [if_pos hciphers, if_pos hciphers.2.1]
      · rw [if_neg hciphers]
        split
        · rename_i hon
          cases hdata : message.messageData with
          | none => rfl
          | some data =>
              -- nothing but an empty message or the null cipher is left
              rw [Option.map_some]
              congr 1
              by_cases hnull : ctx.securityContext.cipheringAlg = .nea0
              · exact NasSecurityContext.encipher_of_nea0 (halg.trans hnull)
              · have hempty : data = [] := by
                  by_contra hne
                  exact hciphers ⟨hactive, hon, hnull, by simp [hdata], by simpa [hdata] using hne⟩
                rw [hempty, NasSecurityContext.encipher_nil]
        · rfl
  · cases (Prod.mk.inj h).2

/-! ### Counting the tags -/

def nasProtected (ctx : NasUeContext Session) : List NasTxOp → Nat
  | [] => 0
  | op :: ops => (if ctx.Protects op then 1 else 0) + nasProtected (nasTxStep ctx op) ops

theorem nasProtected_le (ctx : NasUeContext Session) (ops : List NasTxOp) :
    nasProtected ctx ops ≤ ops.countP NasTxOp.isSend := by
  induction ops generalizing ctx with
  | nil => exact le_rfl
  | cons op ops ih =>
      rw [nasProtected, List.countP_cons, Nat.add_comm]
      apply Nat.add_le_add (ih _)
      cases op with
      | create | update => simp [NasUeContext.Protects]
      | send => simp only [NasTxOp.isSend, ↓reduceIte]; split <;> decide

theorem nasTxRun_uplinkCount (ctx : NasUeContext Session) {ops : List NasTxOp}
    (hops : ∀ op ∈ ops, op.isCreate = false) :
    (nasTxRun ctx ops).securityContext.uplinkCount
      = ctx.securityContext.uplinkCount + BitVec.ofNat 32 (nasProtected ctx ops) := by
  induction ops generalizing ctx with
  | nil => exact (BitVec.add_zero _).symm
  | cons op ops ih =>
      obtain ⟨hop, hrest⟩ := List.forall_mem_cons.mp hops
      have hstep := nasTxStep_uplinkCount ctx hop
      calc (nasTxRun ctx (op :: ops)).securityContext.uplinkCount
          = (nasTxStep ctx op).securityContext.uplinkCount
              + BitVec.ofNat 32 (nasProtected (nasTxStep ctx op) ops) := ih _ hrest
        _ = ctx.securityContext.uplinkCount + ((if ctx.Protects op then 1 else 0)
              + BitVec.ofNat 32 (nasProtected (nasTxStep ctx op) ops)) := by
            rw [hstep, BitVec.add_assoc]
        _ = ctx.securityContext.uplinkCount
              + BitVec.ofNat 32 (nasProtected ctx (op :: ops)) := by
            rw [nasProtected, BitVec.ofNat_add]
            split <;> rfl

theorem nasTxRun_knasEnc (ctx : NasUeContext Session) (ops : List NasTxOp) :
    (nasTxRun ctx ops).securityContext.knasEnc = ctx.securityContext.knasEnc := by
  induction ops generalizing ctx with
  | nil => rfl
  | cons op ops ih => exact (ih _).trans (nasTxStep_knasEnc ctx op)

/-! ### Two ciphered messages -/

theorem exists_last_create (ops : List NasTxOp) :
    (∀ op ∈ ops, op.isCreate = false)
      ∨ ∃ old cipherAlg integrityAlg new, ops = old ++ .create cipherAlg integrityAlg :: new
        ∧ ∀ op ∈ new, op.isCreate = false := by
  induction ops using List.reverseRecOn with
  | nil => exact .inl (by simp)
  | append_singleton ops op ih =>
      cases op with
      | create cipherAlg integrityAlg => exact .inr ⟨ops, cipherAlg, integrityAlg, [], rfl, by simp⟩
      | update | send =>
          rcases ih with hnone | ⟨old, cipherAlg, integrityAlg, new, rfl, hnew⟩
          · exact .inl (List.forall_mem_append.mpr ⟨hnone, by simp [NasTxOp.isCreate]⟩)
          · refine .inr ⟨old, cipherAlg, integrityAlg, _, List.append_assoc _ _ _, ?_⟩
            exact List.forall_mem_append.mpr ⟨hnew, by simp [NasTxOp.isCreate]⟩

/-- After a creation the count is the number of the tags since. -/
theorem nasTxRun_uplinkCount_create (ctx : NasUeContext Session) (old : List NasTxOp)
    (cipherAlg : NasCipheringAlgorithm) (integrityAlg : NasIntegrityAlgorithm) {new : List NasTxOp}
    (hnew : ∀ op ∈ new, op.isCreate = false) :
    (nasTxRun ctx (old ++ .create cipherAlg integrityAlg :: new)).securityContext.uplinkCount
      = BitVec.ofNat 32 (nasProtected
          (nasCreateSecurityContext (nasTxRun ctx old) cipherAlg integrityAlg) new) := by
  calc (nasTxRun ctx (old ++ .create cipherAlg integrityAlg :: new)).securityContext.uplinkCount
      = (nasTxRun (nasCreateSecurityContext (nasTxRun ctx old) cipherAlg integrityAlg)
          new).securityContext.uplinkCount := by
        rw [nasTxRun, List.foldl_append]
        rfl
    _ = 0 + BitVec.ofNat 32 (nasProtected
          (nasCreateSecurityContext (nasTxRun ctx old) cipherAlg integrityAlg) new) :=
        nasTxRun_uplinkCount _ hnew
    _ = _ := BitVec.zero_add _

/-- Some message after the first, the second included, is sent with a tag; and where the context was
created anew in between, the messages tagged since then are not as many as the count of the first. -/
def NasSetApart (ctx : NasUeContext Session) (first : NasTxOp) (between : List NasTxOp)
    (second : NasTxOp) : Prop :=
  ((∀ op ∈ between, op.isCreate = false) →
      0 < nasProtected (nasTxStep ctx first) (between ++ [second]))
    ∧ ∀ old cipherAlg integrityAlg new, between = old ++ .create cipherAlg integrityAlg :: new →
      (∀ op ∈ new, op.isCreate = false) →
        BitVec.ofNat 32 (nasProtected (nasCreateSecurityContext (nasTxRun (nasTxStep ctx first) old)
            cipherAlg integrityAlg) (new ++ [second]))
          ≠ ctx.securityContext.uplinkCount + if ctx.Protects first then 1 else 0

theorem NasUeContext.Ciphers.isCreate (h : ctx.Ciphers op) : op.isCreate = false := by
  cases op with
  | create | update => exact absurd h id
  | send => rfl

theorem NasUeContext.Ciphers.keystream (h : ctx.Ciphers op) :
    nasKeystream ctx op = some (ctx.securityContext.knasEnc,
      ⟨(nasTxStep ctx op).securityContext.uplinkCount, 0, PdcpDirection.uplink.toByte⟩) := by
  rw [nasKeystream, if_pos h, nasTxStep_knasEnc]
  rfl

theorem nasTxRun_concat (ctx : NasUeContext Session) (ops : List NasTxOp) (op : NasTxOp) :
    nasTxRun ctx (ops ++ [op]) = nasTxStep (nasTxRun ctx ops) op := by
  rw [nasTxRun, nasTxRun, List.foldl_append]
  rfl

/-- Under one key two ciphered messages differ in the count only. -/
theorem nasKeystream_ne_iff_uplinkCount {first second : NasTxOp} {between : List NasTxOp}
    (hfirst : ctx.Ciphers first)
    (hsecond : (nasTxRun (nasTxStep ctx first) between).Ciphers second) :
    nasKeystream (nasTxRun (nasTxStep ctx first) between) second ≠ nasKeystream ctx first
      ↔ (nasTxRun (nasTxStep ctx first) (between ++ [second])).securityContext.uplinkCount
        ≠ (nasTxStep ctx first).securityContext.uplinkCount := by
  have hkey : (nasTxRun (nasTxStep ctx first) between).securityContext.knasEnc
      = ctx.securityContext.knasEnc :=
    (nasTxRun_knasEnc (nasTxStep ctx first) between).trans (nasTxStep_knasEnc ctx first)
  rw [hfirst.keystream, hsecond.keystream, hkey, nasTxRun_concat]
  simp

/-- A count that goes on by less than a whole turn is another one. -/
theorem add_ofNat_ne_iff (count : Word) {n : Nat} (h : n < 2 ^ 32) :
    count + BitVec.ofNat 32 n ≠ count ↔ 0 < n := by
  rw [ne_eq, BitVec.add_right_eq_self, Nat.pos_iff_ne_zero, not_iff_not, ← BitVec.toNat_inj,
    BitVec.toNat_ofNat, Nat.mod_eq_of_lt h]
  rfl

theorem nasKeystream_ne_iff {first second : NasTxOp} {between : List NasTxOp}
    (hfirst : ctx.Ciphers first)
    (hsecond : (nasTxRun (nasTxStep ctx first) between).Ciphers second)
    (hfew : (between ++ [second]).countP NasTxOp.isSend < 2 ^ 32) :
    nasKeystream (nasTxRun (nasTxStep ctx first) between) second ≠ nasKeystream ctx first
      ↔ NasSetApart ctx first between second := by
  set mid := nasTxStep ctx first
  have hmid : mid.securityContext.uplinkCount
      = ctx.securityContext.uplinkCount + if ctx.Protects first then 1 else 0 :=
    nasTxStep_uplinkCount ctx hfirst.isCreate
  rw [nasKeystream_ne_iff_uplinkCount hfirst hsecond, NasSetApart, ← hmid]
  rcases exists_last_create between with hnone | ⟨old, cipherAlg, integrityAlg, new, rfl, hnew⟩
  · -- the count went on from the first message, by fewer than `2 ^ 32`
    have hops : ∀ op ∈ between ++ [second], op.isCreate = false :=
      List.forall_mem_append.mpr ⟨hnone, by simpa using hsecond.isCreate⟩
    have hsmall : nasProtected mid (between ++ [second]) < 2 ^ 32 :=
      lt_of_le_of_lt (nasProtected_le _ _) hfew
    rw [nasTxRun_uplinkCount mid hops, add_ofNat_ne_iff _ hsmall]
    constructor
    · intro hpos
      refine ⟨fun _ => hpos, ?_⟩
      rintro old cipherAlg integrityAlg new rfl -
      have hcreate := hnone (.create cipherAlg integrityAlg) (by simp)
      cases hcreate
    · exact fun h => h.1 hnone
  · -- the count started again at the last creation
    have hrestart : ∀ {old cipherAlg integrityAlg new}, (∀ op ∈ new, NasTxOp.isCreate op = false) →
        (nasTxRun mid ((old ++ .create cipherAlg integrityAlg :: new)
            ++ [second])).securityContext.uplinkCount
          = BitVec.ofNat 32 (nasProtected (nasCreateSecurityContext (nasTxRun mid old) cipherAlg
              integrityAlg) (new ++ [second])) := by
      intro old cipherAlg integrityAlg new hnew
      rw [List.append_assoc, List.cons_append]
      apply nasTxRun_uplinkCount_create
      exact List.forall_mem_append.mpr ⟨hnew, by simpa using hsecond.isCreate⟩
    constructor
    · intro hne
      constructor
      · intro hnone
        have hcreate := hnone (.create cipherAlg integrityAlg) (by simp)
        cases hcreate
      · intro old' cipherAlg' integrityAlg' new' heq hnew'
        rw [heq, hrestart hnew'] at hne
        exact hne
    · intro h
      rw [hrestart hnew]
      exact h.2 old cipherAlg integrityAlg new rfl hnew

/-- **When no two messages are enciphered alike.** In a run of fewer than `2 ^ 32` messages no key and
parameters are used twice exactly when every two messages that are ciphered stand apart. -/
theorem nasCipherLog_nodup_iff (ctx : NasUeContext Session) (ops : List NasTxOp)
    (hfew : ops.countP NasTxOp.isSend < 2 ^ 32) :
    (nasCipherLog ctx ops).Nodup
      ↔ ∀ before first between second after, ops = before ++ first :: (between ++ second :: after) →
        (nasTxRun ctx before).Ciphers first →
        (nasTxRun ctx (before ++ first :: between)).Ciphers second →
        NasSetApart (nasTxRun ctx before) first between second := by
  have hsplit : ∀ before first between, nasTxRun ctx (before ++ first :: between)
      = nasTxRun (nasTxStep (nasTxRun ctx before) first) between := by
    intro before first between
    rw [nasTxRun, List.foldl_append]
    rfl
  have hfewer : ∀ {before first between second after},
      ops = before ++ first :: (between ++ second :: after) →
        (between ++ [second]).countP NasTxOp.isSend < 2 ^ 32 := by
    rintro before first between second after rfl
    refine lt_of_le_of_lt (List.Sublist.countP_le ?_) hfew
    rw [show before ++ first :: (between ++ second :: after)
      = (before ++ [first]) ++ ((between ++ [second]) ++ after) by simp]
    exact (List.sublist_append_left _ _).trans (List.sublist_append_right _ _)
  rw [nasCipherLog, Runs.nodup_emitted_iff]
  constructor
  · intro h before first between second after hops hfirst hsecond
    rw [hsplit] at hsecond
    refine (nasKeystream_ne_iff hfirst hsecond (hfewer hops)).mp fun heq => ?_
    exact h before first between second after hops _ hfirst.keystream (heq.trans hfirst.keystream)
  · intro h before first between second after hops used hused hagain
    have hciphers : ∀ {state : NasUeContext Session} {op : NasTxOp},
        nasKeystream state op = some used → state.Ciphers op := by
      intro state op hsome
      by_contra hnot
      rw [nasKeystream, if_neg hnot] at hsome
      cases hsome
    have hsecond := hciphers hagain
    have hapart := h before first between second after hops (hciphers hused)
      (by rw [hsplit]; exact hsecond)
    exact (nasKeystream_ne_iff (hciphers hused) hsecond (hfewer hops)).mpr hapart
      (hagain.trans hused.symm)

theorem nasCipherLog_nodup_iff_two :
    let ctx := nasSecuredUe .nea1 .nia1
    NasSetApart ctx (.send (nasCreateMessage 0x41 [1])) [] (.send (nasCreateMessage 0x41 [2])) := by
  intro ctx
  exact (nasCipherLog_nodup_iff ctx
    [.send (nasCreateMessage 0x41 [1]), .send (nasCreateMessage 0x41 [2])] (by decide)).mp (by decide)
    [] _ [] _ [] rfl (by decide) (by decide)

/-- Two messages under the null integrity algorithm, and two with a creation in between. -/
theorem nasCipherLog_not_nodup :
    ¬ (nasCipherLog (nasSecuredUe .nea1 .nia0)
        [.send (nasCreateMessage 0x41 [1]), .send (nasCreateMessage 0x41 [2])]).Nodup
      ∧ ¬ (nasCipherLog (nasSecuredUe .nea1 .nia1)
        [.send (nasCreateMessage 0x41 [1]), .create .nea1 .nia1,
          .send (nasCreateMessage 0x41 [2])]).Nodup := by
  constructor
  · decide
  · decide

end Uesim
