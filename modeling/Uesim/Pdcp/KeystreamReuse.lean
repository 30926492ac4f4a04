import Uesim.Pdcp.Transmit

/-!
# Which keystreams are used twice

The keystream of a PDU is chosen by the key, COUNT, bearer and direction. One sender never comes back
to a COUNT under the same key: its COUNTs are the values of an injective sequence as long as it sends
fewer than `2 ^ 32` PDUs. Two senders that face each other over a signalling bearer are another
matter. Both were created with the same direction, both start the same sequence, and so they share
everything from their first PDUs on.
-/

namespace Uesim

open Bytes

/-! ### One sender and its key refreshes -/

inductive PdcpTxOp where
  | data (sdu : List Byte)
  | keyRefresh (newCipherKey newIntegrityKey : Vector Byte 16)

def PdcpTxOp.IsData : PdcpTxOp → Prop
  | data _ => True
  | keyRefresh _ _ => False

/-- The calls that send an SDU; one that is empty is refused. -/
def PdcpTxOp.sends : PdcpTxOp → Bool
  | data sdu => !sdu.isEmpty
  | keyRefresh _ _ => false

/-- The COUNTs that a run of the sender protects its PDUs with, each with the number of refreshes
before it. -/
def txCounts (entity : PdcpEntity) (epoch : Nat) : List PdcpTxOp → List (Nat × Word)
  | [] => []
  | .data sdu :: ops =>
      match pdcpProcessTxData entity sdu with
      | (entity, .ok _) => (epoch, pdcpGetTxCount entity) :: txCounts entity epoch ops
      | (entity, .error _) => txCounts entity epoch ops
  | .keyRefresh ck ik :: ops =>
      txCounts (pdcpPerformKeyRefresh entity ck ik).1 (epoch + 1) ops

theorem txCounts_data_nil (entity : PdcpEntity) (epoch : Nat) (ops : List PdcpTxOp) :
    txCounts entity epoch (.data [] :: ops) = txCounts entity epoch ops := by
  rw [txCounts, pdcpProcessTxData_nil]

theorem PdcpEntity.Sending.txCounts_data {s n : Nat} {ctx : PdcpSecurityContext}
    {entity : PdcpEntity} (hs : IsSnLength s) (h : entity.Sending s n ctx) {sdu : List Byte}
    (hsdu : sdu ≠ []) (ops : List PdcpTxOp) (epoch : Nat) :
    ∃ next : PdcpEntity, next.Sending s (n + 1) ctx
      ∧ txCounts entity epoch (.data sdu :: ops)
        = (epoch, BitVec.ofNat 32 (txCountAt s n)) :: txCounts next epoch ops := by
  obtain ⟨-, pdu, hok, -, -, -, hnext⟩ := h.processTxData hs hsdu
  refine ⟨(pdcpProcessTxData entity sdu).1, hnext, ?_⟩
  have hcall : pdcpProcessTxData entity sdu = ((pdcpProcessTxData entity sdu).1, .ok pdu) := by
    rw [← hok]
  rw [txCounts, hcall]
  dsimp only
  rw [hnext.toSent.getTxCount hs]

/-- No COUNT of the log comes twice in one epoch, and those of epoch `epoch` are values of the
sequence from `n` on. -/
def CountsFrom (s n epoch : Nat) (log : List (Nat × Word)) : Prop :=
  log.Nodup ∧ ∀ record ∈ log, epoch ≤ record.1
    ∧ (record.1 = epoch → ∃ m, n ≤ m ∧ m < 2 ^ 32 ∧ record.2 = BitVec.ofNat 32 (txCountAt s m))

namespace CountsFrom

variable {s n epoch : Nat} {log : List (Nat × Word)}

theorem nil (s n epoch : Nat) : CountsFrom s n epoch [] := by
  simp [CountsFrom]

theorem cons (hs : IsSnLength s) (hn : n < 2 ^ 32) (h : CountsFrom s (n + 1) epoch log) :
    CountsFrom s n epoch ((epoch, BitVec.ofNat 32 (txCountAt s n)) :: log) := by
  obtain ⟨hnodup, hrecords⟩ := h
  constructor
  · -- a COUNT of this epoch that comes later has a larger index, so it is not the first
    refine List.nodup_cons.mpr ⟨fun hmem => ?_, hnodup⟩
    obtain ⟨m, hnm, hm, heq⟩ := (hrecords _ hmem).2 rfl
    have hnat := congrArg BitVec.toNat heq
    rw [BitVec.toNat_ofNat, BitVec.toNat_ofNat, Nat.mod_eq_of_lt (txCountAt_lt hs.le hn),
      Nat.mod_eq_of_lt (txCountAt_lt hs.le hm)] at hnat
    have hsame := txCountAt_injective s hnat
    omega
  · refine List.forall_mem_cons.mpr ⟨⟨le_rfl, fun _ => ⟨n, le_rfl, hn, rfl⟩⟩, ?_⟩
    intro record hrecord
    obtain ⟨hepoch, hindex⟩ := hrecords record hrecord
    refine ⟨hepoch, fun hsame => ?_⟩
    obtain ⟨m, hnm, hm, heq⟩ := hindex hsame
    exact ⟨m, by omega, hm, heq⟩

theorem refresh (h : CountsFrom s 0 (epoch + 1) log) : CountsFrom s n epoch log := by
  refine ⟨h.1, fun record hrecord => ?_⟩
  have hepoch := (h.2 record hrecord).1
  exact ⟨by omega, fun hsame => absurd hsame (by omega)⟩

end CountsFrom

theorem PdcpEntity.Sending.countsFrom {s : Nat} (hs : IsSnLength s) (ops : List PdcpTxOp) :
    ∀ {n epoch : Nat} {ctx : PdcpSecurityContext} {entity : PdcpEntity}, entity.Sending s n ctx →
      (∀ block, block <:+: ops → (∀ op ∈ block, op.IsData) →
        block.countP PdcpTxOp.sends < 2 ^ 32) →
      (∀ block, block <+: ops → (∀ op ∈ block, op.IsData) →
        n + block.countP PdcpTxOp.sends < 2 ^ 32) →
      CountsFrom s n epoch (txCounts entity epoch ops) := by
  induction ops with
  | nil =>
      intro n epoch ctx entity _ _ _
      exact .nil s n epoch
  | cons op ops ih =>
      intro n epoch ctx entity h hblocks hprefix
      have hblocks' : ∀ block, block <:+: ops → (∀ op ∈ block, op.IsData) →
          block.countP PdcpTxOp.sends < 2 ^ 32 := fun block hblock =>
        hblocks block (hblock.trans (List.suffix_cons op ops).isInfix)
      cases op with
      | data sdu =>
          have hprefix' : ∀ block, block <+: ops → (∀ op ∈ block, op.IsData) →
              n + (block.countP PdcpTxOp.sends + if sdu = [] then 0 else 1) < 2 ^ 32 := by
            intro block hblock hdata
            have hlonger := hprefix (.data sdu :: block) (List.cons_prefix_cons.mpr ⟨rfl, hblock⟩)
              (List.forall_mem_cons.mpr ⟨trivial, hdata⟩)
            simpa [List.countP_cons, PdcpTxOp.sends] using hlonger
          by_cases hsdu : sdu = []
          · rw [hsdu, txCounts_data_nil]
            simp only [hsdu, ↓reduceIte, Nat.add_zero] at hprefix'
            exact ih h hblocks' hprefix'
          · obtain ⟨next, hnext, hlog⟩ := h.txCounts_data hs hsdu ops epoch
            simp only [hsdu, ↓reduceIte] at hprefix'
            have hn : n < 2 ^ 32 := by
              have hfirst := hprefix' [] List.nil_prefix (by simp)
              omega
            rw [hlog]
            refine .cons hs hn (ih hnext hblocks' fun block hblock hdata => ?_)
            have hfew := hprefix' block hblock hdata
            omega
      | keyRefresh ck ik =>
          obtain ⟨ctx', hfresh⟩ := h.keyRefresh ck ik
          refine .refresh (ih hfresh hblocks' fun block hblock hdata => ?_)
          have hfew := hblocks' block hblock.isInfix hdata
          omega

/-- **One sender never uses a COUNT twice under one key**, whatever it sends and however its keys
are refreshed in between, as long as fewer than `2 ^ 32` SDUs are sent between two refreshes. -/
theorem txCounts_nodup {bearer : Nat} {direction : PdcpDirection} {created : PdcpEntity}
    (hcreate : pdcpCreateEntity bearer direction = .ok created) (ctx : PdcpSecurityContext)
    (ops : List PdcpTxOp)
    (hfew : ∀ block, block <:+: ops → (∀ op ∈ block, op.IsData) →
      block.countP PdcpTxOp.sends < 2 ^ 32) :
    (txCounts ((pdcpActivateEntity created).withSecurity ctx) 0 ops).Nodup := by
  obtain ⟨-, rfl⟩ := pdcpCreateEntity_eq_ok_iff.mp hcreate
  have hfresh := sending_newEntity bearer direction ctx
  refine (hfresh.countsFrom (isSnLength_snLengthOf bearer) ops hfew ?_).1
  intro block hblock hdata
  rw [Nat.zero_add]
  exact hfew block hblock.isInfix hdata

theorem txCounts_nodup_refresh :
    (txCounts ((pdcpActivateEntity (pdcpNewEntity 4 .uplink)).withSecurity
        (pdcpCreateSecurityContext .nea2 .nia0 (Vector.replicate 16 0) (Vector.replicate 16 0))) 0
      [.data [1], .data [2], .keyRefresh (Vector.replicate 16 3) (Vector.replicate 16 4), .data [1],
        .data [2]]).Nodup :=
  txCounts_nodup (show pdcpCreateEntity 4 .uplink = _ from rfl) _ _ fun _ hblock _ =>
    lt_of_le_of_lt (List.countP_le_length.trans hblock.length_le) (by decide)

/-! ### Two senders that face each other -/

inductive PdcpSide where
  | first
  | second
  deriving DecidableEq

/-- The cipher parameters that a run of two senders uses, each with the side that used them. A PDU
that was not ciphered leaves no record. -/
def cipherLog (peers : PdcpSide → PdcpEntity) :
    List (PdcpSide × List Byte) → List (PdcpSide × PdcpCipherParams)
  | [] => []
  | (side, sdu) :: ops =>
      match pdcpProcessTxData (peers side) sdu with
      | (entity, .ok pdu) =>
          if pdu.ciphered then
            (side, pdcpCipherParams entity) :: cipherLog (Function.update peers side entity) ops
          else cipherLog (Function.update peers side entity) ops
      | (entity, .error _) => cipherLog (Function.update peers side entity) ops

section Peers

variable {s : Nat} {ctx : PdcpSecurityContext} {peers : PdcpSide → PdcpEntity}

theorem cipherLog_nil (side : PdcpSide) (ops : List (PdcpSide × List Byte)) :
    cipherLog peers ((side, []) :: ops) = cipherLog peers ops := by
  rw [cipherLog, pdcpProcessTxData_nil]
  dsimp only
  rw [Function.update_eq_self]

theorem cipherLog_cons (hs : IsSnLength s) {side : PdcpSide} {n : Nat}
    (h : (peers side).Sending s n ctx) {sdu : List Byte} (hsdu : sdu ≠ [])
    (ops : List (PdcpSide × List Byte)) :
    ∃ next : PdcpEntity, next.Sending s (n + 1) ctx
      ∧ cipherLog peers ((side, sdu) :: ops)
        = (if ctx.cipheringAlg = .nea0 then [] else [(side, ⟨BitVec.ofNat 32 (txCountAt s n),
            BitVec.ofNat 8 (peers side).bearerType, (peers side).direction.toByte⟩)])
          ++ cipherLog (Function.update peers side next) ops := by
  obtain ⟨-, pdu, hok, -, -, hciphered, hnext⟩ := h.processTxData hs hsdu
  refine ⟨(pdcpProcessTxData (peers side) sdu).1, hnext, ?_⟩
  have hparams : pdcpCipherParams (pdcpProcessTxData (peers side) sdu).1
      = ⟨BitVec.ofNat 32 (txCountAt s n), BitVec.ofNat 8 (peers side).bearerType,
        (peers side).direction.toByte⟩ := by
    have hcount : pdcpGetCount (pdcpProcessTxData (peers side) sdu).1
        = BitVec.ofNat 32 (txCountAt s n) := hnext.toSent.getTxCount hs
    rw [pdcpCipherParams, hcount, pdcpProcessTxData_fst]
    split <;> rfl
  have hcall : pdcpProcessTxData (peers side) sdu
      = ((pdcpProcessTxData (peers side) sdu).1, .ok pdu) := by rw [← hok]
  rw [cipherLog, hcall]
  dsimp only
  rw [hparams]
  by_cases halg : ctx.cipheringAlg = .nea0
  · have hclear : ¬ pdu.ciphered = true := fun h => hciphered.mp h halg
    rw [if_neg hclear, if_pos halg, List.nil_append]
  · rw [if_pos (hciphered.mpr halg), if_neg halg, List.singleton_append]

/-- A side that sends anything ciphered starts with the next COUNT of its sequence. -/
theorem mem_cipherLog (hs : IsSnLength s) (halg : ctx.cipheringAlg ≠ .nea0) {side : PdcpSide}
    {sdu : List Byte} (hsdu : sdu ≠ []) (ops : List (PdcpSide × List Byte)) :
    ∀ {peers : PdcpSide → PdcpEntity} (n : PdcpSide → Nat),
      (∀ side, (peers side).Sending s (n side) ctx) → (side, sdu) ∈ ops →
      (side, (⟨BitVec.ofNat 32 (txCountAt s (n side)), BitVec.ofNat 8 (peers side).bearerType,
        (peers side).direction.toByte⟩ : PdcpCipherParams)) ∈ cipherLog peers ops := by
  induction ops with
  | nil => simp
  | cons op ops ih =>
      obtain ⟨other, sdu'⟩ := op
      intro peers n h hmem
      by_cases hempty : sdu' = []
      · rw [hempty, cipherLog_nil]
        refine ih n h ((List.mem_cons.mp hmem).resolve_left fun heq => ?_)
        exact hsdu ((Prod.mk.inj heq).2.trans hempty)
      · obtain ⟨next, hnext, hlog⟩ := cipherLog_cons hs (h other) hempty ops
        rw [hlog, if_neg halg]
        by_cases hside : other = side
        · exact hside ▸ List.mem_cons_self
        · have hpeers : ∀ side, (Function.update peers other next side).Sending s
              (Function.update n other (n other + 1) side) ctx := by
            intro side
            by_cases hother : side = other
            · subst hother
              simpa using hnext
            · simpa [hother] using h side
          have hrest := ih _ hpeers
            ((List.mem_cons.mp hmem).resolve_left fun heq => hside (Prod.mk.inj heq).1.symm)
          rw [Function.update_of_ne (Ne.symm hside), Function.update_of_ne (Ne.symm hside)] at hrest
          exact List.mem_cons_of_mem _ hrest

theorem of_mem_cipherLog (hs : IsSnLength s) {side : PdcpSide} {params : PdcpCipherParams}
    (ops : List (PdcpSide × List Byte)) :
    ∀ {peers : PdcpSide → PdcpEntity}, (∀ side, ∃ n, (peers side).Sending s n ctx) →
      (side, params) ∈ cipherLog peers ops →
      ctx.cipheringAlg ≠ .nea0 ∧ ∃ sdu, (side, sdu) ∈ ops ∧ sdu ≠ [] := by
  induction ops with
  | nil => simp [cipherLog]
  | cons op ops ih =>
      obtain ⟨other, sdu⟩ := op
      intro peers h hmem
      by_cases hempty : sdu = []
      · rw [hempty, cipherLog_nil] at hmem
        obtain ⟨halg, sdu', hsdu', hne⟩ := ih h hmem
        exact ⟨halg, sdu', List.mem_cons_of_mem _ hsdu', hne⟩
      · obtain ⟨n, hn⟩ := h other
        obtain ⟨next, hnext, hlog⟩ := cipherLog_cons hs hn hempty ops
        rw [hlog] at hmem
        rcases List.mem_append.mp hmem with hhead | hrest
        · split at hhead
          · cases hhead
          · rename_i halg
            have hside : side = other := (Prod.mk.inj (List.mem_singleton.mp hhead)).1
            exact ⟨halg, sdu, hside ▸ List.mem_cons_self, hempty⟩
        · obtain ⟨halg, sdu', hsdu', hne⟩ := ih (fun side => by
            by_cases hother : side = other
            · subst hother
              exact ⟨n + 1, by simpa using hnext⟩
            · simpa [hother] using h side) hrest
          exact ⟨halg, sdu', List.mem_cons_of_mem _ hsdu', hne⟩

end Peers

/-- **Two peers share keystream as soon as both send.** The two entities of a signalling bearer, as
`pdcp_init` makes them, never use the same parameters exactly when nothing is ciphered or one of them
keeps silent. -/
theorem cipherLog_disjoint_iff {srb1 srb2 srb : PdcpEntity} (hinit : pdcpInit = .ok (srb1, srb2))
    (hsrb : srb = srb1 ∨ srb = srb2) (ctx : PdcpSecurityContext)
    (ops : List (PdcpSide × List Byte)) :
    (∀ params, (.first, params) ∈ cipherLog (fun _ => srb.withSecurity ctx) ops →
        (.second, params) ∉ cipherLog (fun _ => srb.withSecurity ctx) ops)
      ↔ ctx.cipheringAlg = .nea0 ∨ (∀ sdu, (.first, sdu) ∈ ops → sdu = [])
        ∨ (∀ sdu, (.second, sdu) ∈ ops → sdu = []) := by
  have hs : IsSnLength 5 := .inl rfl
  have hfresh : (srb.withSecurity ctx).Sending 5 0 ctx := by
    obtain ⟨rfl, rfl⟩ := Prod.mk.inj (Except.ok.inj hinit)
    rcases hsrb with rfl | rfl
    · exact sending_newEntity pdcpBearerSrb1 .bidirectional ctx
    · exact sending_newEntity pdcpBearerSrb2 .bidirectional ctx
  constructor
  · intro h
    by_contra hcontra
    simp only [not_or, not_forall] at hcontra
    obtain ⟨halg, ⟨sdu, hmem, hsdu⟩, sdu', hmem', hsdu'⟩ := hcontra
    exact h _ (mem_cipherLog hs halg hsdu ops (fun _ => 0) (fun _ => hfresh) hmem)
      (mem_cipherLog hs halg hsdu' ops (fun _ => 0) (fun _ => hfresh) hmem')
  · intro hquiet params hfirst hsecond
    obtain ⟨halg, sdu, hmem, hsdu⟩ := of_mem_cipherLog hs ops (fun _ => ⟨0, hfresh⟩) hfirst
    obtain ⟨-, sdu', hmem', hsdu'⟩ := of_mem_cipherLog hs ops (fun _ => ⟨0, hfresh⟩) hsecond
    rcases hquiet with hnull | hsilent | hsilent
    · exact halg hnull
    · exact hsdu (hsilent sdu hmem)
    · exact hsdu' (hsilent sdu' hmem')

theorem cipherLog_disjoint_iff_silent :
    let entity := (pdcpActivateEntity (pdcpNewEntity pdcpBearerSrb1 .bidirectional)).withSecurity
      (pdcpCreateSecurityContext .nea1 .nia1 (Vector.replicate 16 0) (Vector.replicate 16 0))
    ∀ params, (.first, params) ∈ cipherLog (fun _ => entity) [(.first, [1]), (.first, [2])] →
      (.second, params) ∉ cipherLog (fun _ => entity) [(.first, [1]), (.first, [2])] :=
  (cipherLog_disjoint_iff rfl (.inl rfl) _ _).mpr (.inr (.inr (by simp)))

/-- Each side sends one byte on SRB1. -/
theorem cipherLog_shared :
    let entity := (pdcpActivateEntity (pdcpNewEntity pdcpBearerSrb1 .bidirectional)).withSecurity
      (pdcpCreateSecurityContext .nea1 .nia1 (Vector.replicate 16 0) (Vector.replicate 16 0))
    ¬ ∀ params, (.first, params) ∈ cipherLog (fun _ => entity) [(.first, [1]), (.second, [2])] →
      (.second, params) ∉ cipherLog (fun _ => entity) [(.first, [1]), (.second, [2])] := by
  intro entity h
  exact h ⟨1, 1, 2⟩ (by decide +kernel) (by decide +kernel)

end Uesim
