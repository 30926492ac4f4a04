import Uesim.Types
import Uesim.Library.Bytes
import Uesim.Library.XorFold

/-!
# Validation of an authentication response

The network keeps up to five vectors and compares a response with what the current one expects. Under 5G-AKA
both are first put through a key derivation, which rotates bytes into a register; the register does not tell
responses with the same rotating checksum apart.
-/

namespace Uesim

open Bytes

inductive NasAuthenticationType where
  | fiveGAka
  | eap
  | fiveGAkaPrime
  deriving DecidableEq, Repr

structure NasAuthVector where
  rand : Vector Byte 16
  xres : Vector Byte 16
  autn : Vector Byte 16
  kasme : Vector Byte 32
  used : Bool
  deriving DecidableEq

def nasMaxAuthenticationVector : Nat := 5

theorem nasMaxAuthenticationVector_pos : 0 < nasMaxAuthenticationVector := by decide

/-- The type is zero, which is none, until a request has set it. The current vector is one of the array,
available or not. -/
structure NasAuthContext where
  authType : Option NasAuthenticationType
  vectors : Vector NasAuthVector nasMaxAuthenticationVector
  numVectors : Nat
  currentVector : Nat
  authenticated : Bool
  numVectors_le : numVectors ≤ nasMaxAuthenticationVector
  currentVector_lt : currentVector < nasMaxAuthenticationVector
  deriving DecidableEq

def NasAuthVector.zero : NasAuthVector where
  rand := Vector.replicate 16 0
  xres := Vector.replicate 16 0
  autn := Vector.replicate 16 0
  kasme := Vector.replicate 32 0
  used := false

def NasAuthContext.zero : NasAuthContext where
  authType := none
  vectors := Vector.replicate nasMaxAuthenticationVector .zero
  numVectors := 0
  currentVector := 0
  authenticated := false
  numVectors_le := Nat.zero_le _
  currentVector_lt := nasMaxAuthenticationVector_pos

def NasAuthContext.current (ctx : NasAuthContext) : NasAuthVector :=
  ctx.vectors.get ⟨ctx.currentVector, ctx.currentVector_lt⟩

/-- The first half of the master key is CK. -/
def NasAuthVector.ck (vector : NasAuthVector) : Vector Byte 16 :=
  Vector.ofFn fun i => cell vector.kasme i.val

def NasAuthVector.ik (vector : NasAuthVector) : Vector Byte 16 :=
  Vector.ofFn fun i => cell vector.kasme (i.val + 16)

/-! ### RES* -/

def constantTimeMemcmp (a b : List Byte) : Byte :=
  (List.zipWith (· ^^^ ·) a b).foldl (· ||| ·) 0

/-- One step of the derivations: the byte goes in, and the register is rotated to the left. -/
def nasRotate (x : Byte) : Byte := x <<< 1 ||| x >>> 7

/-- The input of the derivation of RES*, with the function code 0x6B. -/
def nasResStarInput (res : List Byte) (ck ik : Vector Byte 16) : List Byte :=
  0x6B :: res ++ [BitVec.ofNat 8 (res.length >>> 8), BitVec.ofNat 8 res.length] ++ ck.toList ++ ik.toList
    ++ [0, 32]

def nasComputeResStar (res : List Byte) (ck ik : Vector Byte 16) : Vector Byte 32 :=
  Vector.ofFn fun i =>
    XorFold.fold nasRotate (cell ck (i.val % 16) ^^^ cell ik (i.val % 16)) (nasResStarInput res ck ik)
      ^^^ (0x6B + BitVec.ofNat 8 i.val)

/-! ### The response -/

/-- The search for AT_RES in an EAP response: what the attribute says, or that there is none that can be
compared, or nothing if the rounds run out. -/
def nasFindAtRes (response : List Byte) (xres : Vector Byte 16) : Nat → Nat → Option (Option Bool)
  | 0, _ => none
  | rounds + 1, offset =>
      if offset + 4 ≤ response.length then
        let attrLen := response.getD (offset + 1) 0 * 4
        if response.getD offset 0 = 0x03 then
          let resBytes := ((response.getD (offset + 2) 0).toNat + 7) / 8
          some (if offset + 4 + resBytes ≤ response.length ∧ resBytes = 16 then
            some (constantTimeMemcmp ((response.drop (offset + 4)).take 16) xres.toList == 0)
          else none)
        else nasFindAtRes response xres rounds (offset + attrLen.toNat)
      else some none

/-- Whether the response is the expected one, by the type of authentication. Nothing if the search does not
end: a round takes at least four bytes or stays where it is, so it ends within as many rounds as there are
bytes or never. -/
def nasResponseValid (authType : Option NasAuthenticationType) (vector : NasAuthVector)
    (response : List Byte) : Option Bool :=
  match authType with
  | some .fiveGAka | some .fiveGAkaPrime =>
      let resStar := nasComputeResStar (response.take 16) vector.ck vector.ik
      let xresStar := nasComputeResStar vector.xres.toList vector.ck vector.ik
      some (constantTimeMemcmp resStar.toList xresStar.toList == 0)
  | some .eap =>
      if response.length < 16 ∨ response.getD 0 0 ≠ 1 ∨ response.getD 4 0 ≠ 50 then some false
      else (nasFindAtRes response vector.xres (response.length + 1) 5).map (·.getD false)
  | none => some false

/-- A valid response uses up the current vector, and the next one is taken if there is one. -/
def NasAuthContext.accepted (ctx : NasAuthContext) : NasAuthContext :=
  { ctx with
    vectors := ctx.vectors.set ctx.currentVector { ctx.current with used := true } ctx.currentVector_lt
    authenticated := true
    currentVector := if ctx.currentVector < ctx.numVectors - 1 then ctx.currentVector + 1
      else ctx.currentVector
    currentVector_lt := by
      have hnum := ctx.numVectors_le
      have hcurrent := ctx.currentVector_lt
      split <;> omega }

/-- No response is `NULL` or of length zero. The call comes to nothing if it does not end. -/
def nasValidateAuthenticationResponse (ctx : NasAuthContext) (response : List Byte) :
    Option (NasAuthContext × Except UesimError Bool) :=
  if response = [] then some (ctx, .error .invalidParam)
  else if ctx.numVectors = 0 then some (ctx, .error .invalidParam)
  else if ctx.current.used then some (ctx, .error .invalidParam)
  else (nasResponseValid ctx.authType ctx.current response).map fun valid =>
    (if valid then ctx.accepted else ctx, .ok valid)

/-! ### The register -/

theorem nasRotate_linear : XorFold.Linear nasRotate := by
  intro x y
  apply BitVec.eq_of_getLsbD_eq
  intro bit hbit
  simp only [nasRotate, BitVec.getLsbD_or, BitVec.getLsbD_xor, BitVec.getLsbD_shiftLeft,
    BitVec.getLsbD_ushiftRight]
  by_cases hzero : bit = 0
  · simp [hzero]
  · have hx : x.getLsbD (7 + bit) = false := BitVec.getLsbD_of_ge _ _ (by omega)
    have hy : y.getLsbD (7 + bit) = false := BitVec.getLsbD_of_ge _ _ (by omega)
    have hpos : ¬bit < 1 := by omega
    simp [hx, hy, hbit, hpos]

theorem nasRotate_period : ∀ x, nasRotate^[8] x = x := by decide +kernel

theorem nasRotate_iterate_congr {m n : Nat} (h : m % 8 = n % 8) (x : Byte) :
    nasRotate^[m] x = nasRotate^[n] x := by
  rw [XorFold.iterate_mod_eq nasRotate_period, h, ← XorFold.iterate_mod_eq nasRotate_period]

def nasChecksum (res : List Byte) : Byte := XorFold.checksum nasRotate res

def nasResStarKeys (ck ik : Vector Byte 16) : List Byte := ck.toList ++ ik.toList ++ [0, 32]

theorem checksum_nasResStarInput {res : List Byte} (hres : res.length < 256) (ck ik : Vector Byte 16) :
    nasChecksum (nasResStarInput res ck ik)
      = nasRotate^[res.length + 5] 0x6B ^^^ nasRotate^[4] (nasChecksum res)
        ^^^ nasRotate^[3] (BitVec.ofNat 8 res.length) ^^^ nasChecksum (nasResStarKeys ck ik) := by
  have hinput : nasResStarInput res ck ik
      = (0x6B :: res) ++ (0 :: BitVec.ofNat 8 res.length :: nasResStarKeys ck ik) := by
    have hhigh : res.length >>> 8 = 0 := by
      rw [Nat.shiftRight_eq_div_pow]
      exact Nat.div_eq_of_lt hres
    rw [nasResStarInput, nasResStarKeys, hhigh]
    simp
  have hkeys : (nasResStarKeys ck ik).length = 34 := by simp [nasResStarKeys]
  rw [hinput, nasChecksum, nasRotate_linear.checksum_append, nasRotate_linear.checksum_zero_cons,
    nasRotate_linear.checksum_cons, nasRotate_linear.checksum_cons, nasRotate_linear.iterate,
    ← Function.iterate_add_apply]
  simp only [List.length_cons, hkeys]
  have hcode : (34 + 1 + 1 + (res.length + 1)) % 8 = (res.length + 5) % 8 := by omega
  rw [nasRotate_iterate_congr hcode, nasRotate_iterate_congr (show (34 + 1 + 1) % 8 = 4 % 8 from rfl),
    nasRotate_iterate_congr (show (34 + 1) % 8 = 3 % 8 from rfl), ← BitVec.xor_assoc]
  rfl

theorem cell_nasComputeResStar {res : List Byte} (hres : res.length < 256) (ck ik : Vector Byte 16)
    {i : Nat} (hi : i < 32) :
    cell (nasComputeResStar res ck ik) i
      = nasRotate^[res.length + 5] (cell ck (i % 16) ^^^ cell ik (i % 16) ^^^ 0x6B)
        ^^^ (nasRotate^[4] (nasChecksum res) ^^^ nasRotate^[3] (BitVec.ofNat 8 res.length))
        ^^^ (nasChecksum (nasResStarKeys ck ik) ^^^ (0x6B + BitVec.ofNat 8 i)) := by
  have hlength : (nasResStarInput res ck ik).length = res.length + 37 := by
    simp [nasResStarInput]
  have hsteps : (res.length + 37) % 8 = (res.length + 5) % 8 := by omega
  have hcell : cell (nasComputeResStar res ck ik) i
      = XorFold.fold nasRotate (cell ck (i % 16) ^^^ cell ik (i % 16)) (nasResStarInput res ck ik)
        ^^^ (0x6B + BitVec.ofNat 8 i) := by
    rw [cell_of_lt _ hi, nasComputeResStar, Vector.getElem_ofFn]
  have hchecksum := checksum_nasResStarInput hres ck ik
  rw [nasChecksum] at hchecksum
  rw [hcell, nasRotate_linear.fold_eq, hlength, nasRotate_iterate_congr hsteps, hchecksum,
    nasRotate_linear.iterate _ (cell ck (i % 16) ^^^ cell ik (i % 16)) 0x6B]
  ac_rfl

/-- What one response and the expected one have to do for the derivation to come to the same, byte by byte
of the keys. -/
def NasResponsesCollide (ck ik : Vector Byte 16) (response res : List Byte) : Prop :=
  ∀ i < 16, nasRotate^[response.length + 5] (cell ck i ^^^ cell ik i ^^^ 0x6B)
      ^^^ nasRotate^[res.length + 5] (cell ck i ^^^ cell ik i ^^^ 0x6B)
    = nasRotate^[4] (nasChecksum response ^^^ nasChecksum res)
      ^^^ nasRotate^[3] (BitVec.ofNat 8 response.length ^^^ BitVec.ofNat 8 res.length)

theorem xor_xor_eq_iff {w : Nat} {a a' b b' c c' k : BitVec w} :
    a ^^^ (b ^^^ c) ^^^ k = a' ^^^ (b' ^^^ c') ^^^ k ↔ a ^^^ a' = (b ^^^ b') ^^^ (c ^^^ c') := by
  rw [BitVec.xor_left_inj, ← xor_eq_zero, ← xor_eq_zero (a := a ^^^ a')]
  have hsum : a ^^^ (b ^^^ c) ^^^ (a' ^^^ (b' ^^^ c')) = a ^^^ a' ^^^ (b ^^^ b' ^^^ (c ^^^ c')) := by
    ac_rfl
  rw [hsum]

theorem vector_ext_cell {n : Nat} {v v' : Vector Byte n} : v = v' ↔ ∀ i < n, cell v i = cell v' i := by
  refine ⟨fun h i _ => by rw [h], fun h => ?_⟩
  apply Vector.ext
  intro i hi
  rw [← cell_of_lt v hi, ← cell_of_lt v' hi, h i hi]

/-- **Two responses have the same `RES*` exactly when they collide.** -/
theorem nasComputeResStar_eq_iff {response res : List Byte} (hresponse : response.length < 256)
    (hres : res.length < 256) (ck ik : Vector Byte 16) :
    nasComputeResStar response ck ik = nasComputeResStar res ck ik
      ↔ NasResponsesCollide ck ik response res := by
  rw [vector_ext_cell, NasResponsesCollide]
  have hbyte : ∀ i < 32, (cell (nasComputeResStar response ck ik) i = cell (nasComputeResStar res ck ik) i
      ↔ nasRotate^[response.length + 5] (cell ck (i % 16) ^^^ cell ik (i % 16) ^^^ 0x6B)
          ^^^ nasRotate^[res.length + 5] (cell ck (i % 16) ^^^ cell ik (i % 16) ^^^ 0x6B)
        = nasRotate^[4] (nasChecksum response ^^^ nasChecksum res)
          ^^^ nasRotate^[3] (BitVec.ofNat 8 response.length ^^^ BitVec.ofNat 8 res.length)) := by
    intro i hi
    rw [cell_nasComputeResStar hresponse ck ik hi, cell_nasComputeResStar hres ck ik hi, xor_xor_eq_iff,
      nasRotate_linear.iterate 4, nasRotate_linear.iterate 3]
  constructor
  · intro h i hi
    have hsame := (hbyte i (by omega)).mp (h i (by omega))
    rwa [Nat.mod_eq_of_lt hi] at hsame
  · intro h i hi
    exact (hbyte i hi).mpr (h (i % 16) (Nat.mod_lt _ (by decide)))

theorem nasRotate_iterate_eq_zero_iff {n : Nat} {x : Byte} : nasRotate^[n] x = 0 ↔ x = 0 := by
  constructor
  · intro h
    have hback : nasRotate^[8 * n] x = x := nasRotate_iterate_congr (n := 0) (Nat.mul_mod_right 8 n) x
    have hsteps : 8 * n = 7 * n + n := by omega
    rw [← hback, hsteps, Function.iterate_add_apply, h, (nasRotate_linear.iterate _).zero]
  · rintro rfl
    exact (nasRotate_linear.iterate n).zero

theorem nasResponsesCollide_of_length {response res : List Byte} (h : response.length = res.length)
    (ck ik : Vector Byte 16) :
    NasResponsesCollide ck ik response res ↔ nasChecksum response = nasChecksum res := by
  have hiff : (0 : Byte) = nasRotate^[4] (nasChecksum response ^^^ nasChecksum res)
      ↔ nasChecksum response = nasChecksum res := by
    rw [eq_comm, nasRotate_iterate_eq_zero_iff, xor_eq_zero]
  have hadd : ∀ x : Byte, x ^^^ nasRotate^[3] 0 = x := by
    intro x
    rw [(nasRotate_linear.iterate 3).zero]
    exact BitVec.xor_zero
  rw [NasResponsesCollide, h]
  simp only [BitVec.xor_self]
  rw [← hiff]
  exact ⟨fun hall => (hall 0 (by decide)).trans (hadd _), fun hsame i _ => hsame.trans (hadd _).symm⟩

theorem foldl_or_eq_zero_iff {w : Nat} (acc : BitVec w) (words : List (BitVec w)) :
    words.foldl (· ||| ·) acc = 0 ↔ acc = 0 ∧ ∀ word ∈ words, word = 0 := by
  induction words generalizing acc with
  | nil => simp
  | cons word words ih =>
      have hor : acc ||| word = 0 ↔ acc = 0 ∧ word = 0 := BitVec.or_eq_zero_iff
      rw [List.foldl_cons, ih, hor, List.forall_mem_cons, and_assoc]

theorem constantTimeMemcmp_eq_zero_iff {a b : List Byte} (h : a.length = b.length) :
    constantTimeMemcmp a b = 0 ↔ a = b := by
  rw [constantTimeMemcmp, foldl_or_eq_zero_iff, and_iff_right rfl]
  induction a generalizing b with
  | nil =>
      rw [List.length_eq_zero_iff.mp h.symm]
      simp
  | cons x a ih =>
      obtain ⟨y, b, rfl⟩ := List.exists_cons_of_length_eq_add_one h.symm
      rw [List.zipWith_cons_cons, List.forall_mem_cons, xor_eq_zero, ih (Nat.succ.inj h), List.cons.injEq]

/-! ### The answer -/

/-- The call comes back, and with a yes exactly if the response is the one that is expected. -/
def NasAuthContext.ValidatesExactly (ctx : NasAuthContext) (response : List Byte) : Prop :=
  ∃ ctx' valid, nasValidateAuthenticationResponse ctx response = some (ctx', .ok valid)
    ∧ (valid = true ↔ response = ctx.current.xres.toList)

theorem nasValidateAuthenticationResponse_of_unused {ctx : NasAuthContext} {response : List Byte}
    (hresponse : response ≠ []) (hvectors : ctx.numVectors ≠ 0) (hunused : ctx.current.used = false) :
    nasValidateAuthenticationResponse ctx response
      = (nasResponseValid ctx.authType ctx.current response).map fun valid =>
        (if valid then ctx.accepted else ctx, .ok valid) := by
  rw [nasValidateAuthenticationResponse, if_neg hresponse, if_neg hvectors, hunused]
  rfl

theorem nasResponseValid_fiveGAka (vector : NasAuthVector) {response : List Byte}
    (hle : response.length ≤ 16) :
    ∃ valid, nasResponseValid (some .fiveGAka) vector response = some valid
      ∧ (valid = true ↔ NasResponsesCollide vector.ck vector.ik response vector.xres.toList) := by
  refine ⟨_, rfl, ?_⟩
  have hlength : vector.xres.toList.length = 16 := by simp
  rw [beq_iff_eq, constantTimeMemcmp_eq_zero_iff (by simp), List.take_of_length_le hle, Vector.toList_inj,
    nasComputeResStar_eq_iff (by omega) (by omega)]

theorem NasAuthContext.validatesExactly_iff {ctx : NasAuthContext} {response : List Byte}
    (htype : ctx.authType = some .fiveGAka) (hvectors : ctx.numVectors ≠ 0)
    (hunused : ctx.current.used = false) (hpos : 1 ≤ response.length) (hle : response.length ≤ 16) :
    ctx.ValidatesExactly response ↔ response = ctx.current.xres.toList
      ∨ ¬NasResponsesCollide ctx.current.ck ctx.current.ik response ctx.current.xres.toList := by
  have hresponse : response ≠ [] := List.ne_nil_of_length_pos hpos
  have hself : response = ctx.current.xres.toList →
      NasResponsesCollide ctx.current.ck ctx.current.ik response ctx.current.xres.toList := by
    rintro rfl
    exact (nasResponsesCollide_of_length rfl _ _).mpr rfl
  obtain ⟨valid, hvalid, hcompare⟩ := nasResponseValid_fiveGAka ctx.current hle
  have hcall := nasValidateAuthenticationResponse_of_unused hresponse hvectors hunused
  rw [htype, hvalid, Option.map_some] at hcall
  constructor
  · rintro ⟨ctx', valid', hvalid', hexact⟩
    obtain ⟨-, hok⟩ := Prod.mk.inj (Option.some.inj (hcall.symm.trans hvalid'))
    rw [← Except.ok.inj hok, hcompare] at hexact
    by_cases hcollide : NasResponsesCollide ctx.current.ck ctx.current.ik response ctx.current.xres.toList
    · exact .inl (hexact.mp hcollide)
    · exact .inr hcollide
  · intro hcondition
    refine ⟨_, valid, hcall, ?_⟩
    rw [hcompare]
    exact ⟨fun hcollide => hcondition.resolve_right (not_not_intro hcollide), hself⟩

theorem nasComputeResStar_eq_iff_checksum {res res' : List Byte} (hres : res.length = 16)
    (hres' : res'.length = 16) (ck ik : Vector Byte 16) :
    nasComputeResStar res ck ik = nasComputeResStar res' ck ik ↔ nasChecksum res = nasChecksum res' := by
  rw [nasComputeResStar_eq_iff (by omega) (by omega), nasResponsesCollide_of_length (by omega)]

/-- A context after a first request: one vector, of which nothing but the challenge was written. -/
def nasChallengedContext : NasAuthContext :=
  { NasAuthContext.zero with
    authType := some .fiveGAka
    numVectors := 1
    numVectors_le := by decide }

/-- **Under 5G-AKA the validation is exact for a response of up to sixteen bytes exactly when that is the
expected one or does not collide with it.** And two responses of sixteen bytes have the same `RES*` exactly
when they have the same rotating checksum, under every key. -/
theorem nasValidateAuthenticationResponse_exact_iff {ctx : NasAuthContext} {response : List Byte}
    (htype : ctx.authType = some .fiveGAka) (hvectors : ctx.numVectors ≠ 0)
    (hunused : ctx.current.used = false) (hpos : 1 ≤ response.length) (hle : response.length ≤ 16) :
    (ctx.ValidatesExactly response ↔ response = ctx.current.xres.toList
        ∨ ¬NasResponsesCollide ctx.current.ck ctx.current.ik response ctx.current.xres.toList)
      ∧ ∀ (ck ik : Vector Byte 16) (res res' : Vector Byte 16),
        nasComputeResStar res.toList ck ik = nasComputeResStar res'.toList ck ik
          ↔ nasChecksum res.toList = nasChecksum res'.toList :=
  ⟨NasAuthContext.validatesExactly_iff htype hvectors hunused hpos hle,
    fun ck ik _ _ => nasComputeResStar_eq_iff_checksum (by simp) (by simp) ck ik⟩

/-- Against an expected response of zeros, one with a single bit set is refused. -/
theorem nasValidateAuthenticationResponse_exact_challenged :
    nasChallengedContext.ValidatesExactly (1 :: List.replicate 15 0) := by
  have hlength : (1 :: List.replicate 15 (0 : Byte)).length
      = nasChallengedContext.current.xres.toList.length := rfl
  have hapart : ¬NasResponsesCollide nasChallengedContext.current.ck nasChallengedContext.current.ik
      (1 :: List.replicate 15 0) nasChallengedContext.current.xres.toList := by
    rw [nasResponsesCollide_of_length hlength]
    decide
  exact (nasValidateAuthenticationResponse_exact_iff rfl (by decide) rfl (by decide) (by decide)).1.mpr
    (.inr hapart)

/-- The expected response is sixteen zeros. Another one of sixteen bytes is accepted, and one of eight is. And
two responses have the same `RES*` under every key. -/
theorem nasValidateAuthenticationResponse_not_exact :
    ¬nasChallengedContext.ValidatesExactly (1 :: 2 :: List.replicate 14 0)
      ∧ ¬nasChallengedContext.ValidatesExactly (List.replicate 7 0 ++ [6])
      ∧ ∀ ck ik : Vector Byte 16, nasComputeResStar (1 :: 2 :: List.replicate 14 0) ck ik
        = nasComputeResStar (List.replicate 16 0) ck ik := by
  have hlong : NasResponsesCollide nasChallengedContext.current.ck nasChallengedContext.current.ik
      (1 :: 2 :: List.replicate 14 0) nasChallengedContext.current.xres.toList :=
    (nasResponsesCollide_of_length rfl _ _).mpr (by decide)
  have hshort : NasResponsesCollide nasChallengedContext.current.ck nasChallengedContext.current.ik
      (List.replicate 7 0 ++ [6]) nasChallengedContext.current.xres.toList := by
    unfold NasResponsesCollide
    decide
  refine ⟨fun h => ?_, fun h => ?_, fun ck ik => ?_⟩
  · rw [NasAuthContext.validatesExactly_iff rfl (by decide) rfl (by decide) (by decide)] at h
    exact h.elim (by decide) fun hcollide => hcollide hlong
  · rw [NasAuthContext.validatesExactly_iff rfl (by decide) rfl (by decide) (by decide)] at h
    exact h.elim (by decide) fun hcollide => hcollide hshort
  · exact (nasComputeResStar_eq_iff_checksum rfl rfl ck ik).mpr (by decide)

end Uesim
