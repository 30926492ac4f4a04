import Uesim.Crypto.Ops
import Uesim.Crypto.Snow3gSequence
import Uesim.Crypto.ZucShares

/-!
# Messages the integrity algorithms confuse

A tag is a function of the key and the parameters. Two messages are confused when these functions are
the same, so that no choice of key tells them apart. Under SNOW 3G and ZUC a message counts only with
the number of its words and their exclusive or; under AES a short last block is padded to what might
as well have been sent.
-/

namespace Uesim

open Bytes Keystream

/-- Two messages have the same tag under every key and all parameters. -/
def SameMac (computeMac : Vector Byte 16 → List Byte → PdcpCipherParams → Word)
    (m m' : List Byte) : Prop :=
  ∀ key params, computeMac key m params = computeMac key m' params

def IsStreamMac (computeMac : Vector Byte 16 → List Byte → PdcpCipherParams → Word) : Prop :=
  computeMac = snow3gComputeMac ∨ computeMac = zucComputeMac

def wordCount (m : List Byte) : Nat := (loadWords m).length

/-- What the keystream words that only the longer message takes in have to make up for if the tags are
to be the same. -/
def wordDifference (m m' : List Byte) : Word := xorSum (loadWords m) ^^^ xorSum (loadWords m')

/-- The words that only the longer message takes in stand still for SNOW 3G, and make up for the
difference. -/
def Snow3gConfuses (m m' : List Byte) : Prop :=
  CarrySums.Settled ((beyond (wordCount m) (wordCount m')).map snow3gTerm)
    ∧ xorSum (((beyond (wordCount m) (wordCount m')).map snow3gTerm).map CarrySums.Term.known)
      = wordDifference m m'

instance (m m' : List Byte) : Decidable (Snow3gConfuses m m') := inferInstanceAs (Decidable (_ ∧ _))

/-- Two messages that algorithm `i` is sure to tell apart. -/
def ToldApart : Fin 4 → List Byte → List Byte → Prop
  | 1, m, m' => ¬ Snow3gConfuses m m'
  | 3, m, m' => ZucMoves (wordCount m) (wordCount m')
      ∨ ZucStill (wordCount m) (wordCount m') ∧ zucRest (wordCount m) (wordCount m') ≠ wordDifference m m'
  | _, _, _ => False

section Stream

variable {computeMac : Vector Byte 16 → List Byte → PdcpCipherParams → Word} {m m' : List Byte}

theorem streamMac_eq_iff (hmac : IsStreamMac computeMac)
    (hlen : (loadWords m).length = (loadWords m').length)
    (key : Vector Byte 16) (params : PdcpCipherParams) :
    computeMac key m params = computeMac key m' params
      ↔ xorSum (loadWords m) = xorSum (loadWords m') := by
  rcases hmac with rfl | rfl
  · exact tag_eq_iff _ _ hlen
  · exact tag_eq_iff _ _ hlen

theorem sameMac_iff (hmac : IsStreamMac computeMac)
    (hlen : (loadWords m).length = (loadWords m').length) :
    SameMac computeMac m m' ↔ xorSum (loadWords m) = xorSum (loadWords m') := by
  constructor
  · intro h
    exact (streamMac_eq_iff hmac hlen (Vector.replicate 16 0) ⟨0, 0, 0⟩).mp (h _ _)
  · intro h key params
    exact (streamMac_eq_iff hmac hlen key params).mpr h

theorem sameMac_of_perm (hmac : IsStreamMac computeMac) (hperm : (loadWords m).Perm (loadWords m')) :
    SameMac computeMac m m' :=
  (sameMac_iff hmac hperm.length_eq).mpr (xorSum_perm hperm)

theorem sameMac_append_zeros (hmac : IsStreamMac computeMac) {k : Nat} (hm : m.length % 4 ≠ 0)
    (hk : m.length % 4 + k ≤ 4) : SameMac computeMac m (m ++ List.replicate k 0) := by
  rw [sameMac_iff hmac] <;> rw [loadWords_append_zeros hm hk]

end Stream

theorem isStreamMac_of_ne {i : Fin 4} {ops : PdcpCryptoOps} (hops : gCryptoOps i = some ops)
    (hi : i ≠ 2) : IsStreamMac ops.computeMac := by
  match i with
  | 0 => simp [gCryptoOps] at hops
  | 1 =>
      obtain rfl := Option.some.inj hops
      exact .inl rfl
  | 2 => exact absurd rfl hi
  | 3 =>
      obtain rfl := Option.some.inj hops
      exact .inr rfl

section Pairs

variable {m m' : List Byte}

theorem zucComputeMac_eq_iff (key : Vector Byte 16) (params : PdcpCipherParams) :
    zucComputeMac key m params = zucComputeMac key m' params
      ↔ xorSum ((beyond (wordCount m) (wordCount m')).map
          (word zucGenerateKeystream (zucInitContext key params))) = wordDifference m m' :=
  tag_eq_tag_iff _ _ m m'

theorem ZucMoves.not_sameMac (h : ZucMoves (wordCount m) (wordCount m')) :
    ¬ SameMac zucComputeMac m m' := by
  intro hsame
  obtain ⟨key, params, hne⟩ := h.exists_ne (wordDifference m m')
  exact hne ((zucComputeMac_eq_iff key params).mp (hsame key params))

theorem ZucStill.sameMac_iff (h : ZucStill (wordCount m) (wordCount m')) :
    SameMac zucComputeMac m m' ↔ zucRest (wordCount m) (wordCount m') = wordDifference m m' := by
  have hpoint : ∀ key params, zucComputeMac key m params = zucComputeMac key m' params
      ↔ zucRest (wordCount m) (wordCount m') = wordDifference m m' := by
    intro key params
    rw [zucComputeMac_eq_iff, h.xorSum_eq]
  constructor
  · intro hsame
    exact (hpoint (Vector.replicate 16 0) ⟨0, 0, 0⟩).mp (hsame _ _)
  · intro hrest key params
    exact (hpoint key params).mpr hrest

theorem sameMac_aes_of_padded (h : BlockMode.padded m = BlockMode.padded m') :
    SameMac aesComputeMac m m' := by
  intro key params
  have htag : aesCmac (aesInitContext key) m = aesCmac (aesInitContext key) m' :=
    BlockMode.chainTag_eq_of_padded _ h
  rw [aesComputeMac, aesComputeMac, htag]

theorem ToldApart.not_sameMac {i : Fin 4} {ops : PdcpCryptoOps} (hops : gCryptoOps i = some ops)
    (h : ToldApart i m m') : ¬ SameMac ops.computeMac m m' := by
  match i with
  | 0 => exact h.elim
  | 1 =>
      obtain rfl := Option.some.inj hops
      exact fun hsame => h ((snow3gComputeMac_eq_iff m m').mp hsame)
  | 2 => exact h.elim
  | 3 =>
      obtain rfl := Option.some.inj hops
      rcases h with hmoves | ⟨hstill, hne⟩
      · exact hmoves.not_sameMac
      · exact fun hsame => hne (hstill.sameMac_iff.mp hsame)

end Pairs

-- the keystream word between these lengths depends neither on the key nor on the parameters
example : CarrySums.Settled ((beyond 230 231).map snow3gTerm) := by decide +kernel

end Uesim
