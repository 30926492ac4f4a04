import Uesim.Library.Reading
import Uesim.Nas.Authentication

/-!
# The attributes of an EAP response

The search for AT_RES moves on by what each attribute says its length is, four times a byte in eight bits. It
reads nothing behind the response. It ends within as many rounds as there are bytes, unless it comes to an
attribute whose length is a multiple of 64: then it stays there for ever.
-/

namespace Uesim

open Bytes BitMemory Reading

/-! ### The validation as a program that reads -/

def nasReadAtRes (xres : Vector Byte 16) (responseLength : Nat) : Nat → Nat → Reading (Option (Option Bool))
  | 0, _ => pure none
  | rounds + 1, offset =>
      if offset + 4 ≤ responseLength then
        .byte offset fun attrType => .byte (offset + 1) fun attrUnits =>
          if attrType = 0x03 then
            .byte (offset + 2) fun resLen =>
              let resBytes := (resLen.toNat + 7) / 8
              if offset + 4 + resBytes ≤ responseLength ∧ resBytes = 16 then do
                let res ← bytes (offset + 4) 16
                pure (some (some (constantTimeMemcmp res xres.toList == 0)))
              else pure (some none)
          else nasReadAtRes xres responseLength rounds (offset + (attrUnits * 4).toNat)
      else pure (some none)

def nasReadResponseValid (authType : Option NasAuthenticationType) (vector : NasAuthVector)
    (responseLength : Nat) : Reading (Option Bool) :=
  match authType with
  | some .fiveGAka | some .fiveGAkaPrime => do
      let res ← bytes 0 (min responseLength 16)
      let resStar := nasComputeResStar res vector.ck vector.ik
      let xresStar := nasComputeResStar vector.xres.toList vector.ck vector.ik
      pure (some (constantTimeMemcmp resStar.toList xresStar.toList == 0))
  | some .eap =>
      if responseLength < 16 then pure (some false)
      else
        .byte 0 fun code => .byte 4 fun type =>
          if code ≠ 1 ∨ type ≠ 50 then pure (some false)
          else do
            let found ← nasReadAtRes vector.xres responseLength (responseLength + 1) 5
            pure (found.map (·.getD false))
  | none => pure (some false)

def nasReadAuthenticationResponse (ctx : NasAuthContext) (responseLength : Nat) :
    Reading (Option (NasAuthContext × Except UesimError Bool)) :=
  if responseLength = 0 then pure (some (ctx, .error .invalidParam))
  else if ctx.numVectors = 0 then pure (some (ctx, .error .invalidParam))
  else if ctx.current.used then pure (some (ctx, .error .invalidParam))
  else do
    let valid ← nasReadResponseValid ctx.authType ctx.current responseLength
    pure (valid.map fun valid => (if valid then ctx.accepted else ctx, .ok valid))

section Run

variable (response : List Byte)

theorem run_nasReadAtRes (xres : Vector Byte 16) (rounds offset : Nat) :
    (nasReadAtRes xres response.length rounds offset).run (ofBytes response)
      = nasFindAtRes response xres rounds offset := by
  have hat (i : Nat) : ofBytes response i = response.getD i 0 := rfl
  induction rounds generalizing offset with
  | zero => rfl
  | succ rounds ih =>
      rw [nasReadAtRes, nasFindAtRes]
      split
      · rw [run, run, hat, hat]
        split
        · rw [run, hat]
          dsimp only
          split
          · rename_i hfits
            have hbytes : offset + 4 + 16 ≤ response.length := hfits.2 ▸ hfits.1
            rw [run_bind, run_bytes_ofBytes hbytes, run_pure]
          · rfl
        · exact ih _
      · rfl

theorem run_nasReadResponseValid (authType : Option NasAuthenticationType) (vector : NasAuthVector) :
    (nasReadResponseValid authType vector response.length).run (ofBytes response)
      = nasResponseValid authType vector response := by
  have htake : (bytes 0 (min response.length 16)).run (ofBytes response) = response.take 16 := by
    rw [run_bytes_ofBytes (by omega), List.drop_zero, Nat.min_comm, ← List.take_eq_take_min]
  cases authType with
  | none => rfl
  | some authType =>
    cases authType with
    | fiveGAka => rw [nasReadResponseValid, run_bind, htake, nasResponseValid, run_pure]
    | fiveGAkaPrime => rw [nasReadResponseValid, run_bind, htake, nasResponseValid, run_pure]
    | eap =>
        have hat (i : Nat) : ofBytes response i = response.getD i 0 := rfl
        rw [nasReadResponseValid, nasResponseValid]
        by_cases hshort : response.length < 16
        · rw [if_pos hshort, if_pos (.inl hshort), run_pure]
        · rw [if_neg hshort, run, run, hat, hat]
          by_cases hother : response.getD 0 0 ≠ 1 ∨ response.getD 4 0 ≠ 50
          · rw [if_pos hother, if_pos (.inr hother), run_pure]
          · rw [if_neg hother, if_neg (not_or.mpr ⟨hshort, hother⟩), run_bind, run_nasReadAtRes, run_pure]

theorem run_nasReadAuthenticationResponse (ctx : NasAuthContext) :
    (nasReadAuthenticationResponse ctx response.length).run (ofBytes response)
      = nasValidateAuthenticationResponse ctx response := by
  rw [nasReadAuthenticationResponse, nasValidateAuthenticationResponse]
  by_cases hempty : response = []
  · rw [if_pos (List.length_eq_zero_iff.mpr hempty), if_pos hempty, run_pure]
  · rw [if_neg fun hlength => hempty (List.length_eq_zero_iff.mp hlength), if_neg hempty]
    split
    · rfl
    · split
      · rfl
      · rw [run_bind, run_nasReadResponseValid, run_pure]

end Run

/-! ### Where the search comes to -/

/-- What the attribute at this place says its length is. -/
def nasAttrLen (response : List Byte) (offset : Nat) : Nat := (response.getD (offset + 1) 0 * 4).toNat

/-- The search looks at an attribute here and goes on behind it. -/
def NasAttrPassed (response : List Byte) (offset : Nat) : Prop :=
  offset + 4 ≤ response.length ∧ response.getD offset 0 ≠ 0x03

/-- The search comes to this place. -/
inductive NasAttrAt (response : List Byte) : Nat → Prop
  | first : NasAttrAt response 5
  | next {offset : Nat} : NasAttrAt response offset → NasAttrPassed response offset →
      NasAttrAt response (offset + nasAttrLen response offset)

/-- Every attribute that the search passes has a length. -/
def NasAttrsAdvance (response : List Byte) : Prop :=
  ∀ offset, NasAttrAt response offset → NasAttrPassed response offset → nasAttrLen response offset ≠ 0

section Search

variable {response : List Byte} {xres : Vector Byte 16} {rounds offset : Nat}

theorem nasFindAtRes_passed (h : NasAttrPassed response offset) :
    nasFindAtRes response xres (rounds + 1) offset
      = nasFindAtRes response xres rounds (offset + nasAttrLen response offset) := by
  rw [nasFindAtRes, if_pos h.1]
  exact if_neg h.2

theorem nasFindAtRes_of_not_passed (h : ¬NasAttrPassed response offset) :
    nasFindAtRes response xres (rounds + 1) offset ≠ none := by
  rw [nasFindAtRes]
  split
  · rename_i hinside
    have hres : response.getD offset 0 = 0x03 := by
      by_contra hother
      exact h ⟨hinside, hother⟩
    rw [hres]
    exact Option.some_ne_none _
  · exact Option.some_ne_none none

/-- An attribute without a length is never left. -/
theorem nasFindAtRes_of_length_zero (h : NasAttrPassed response offset)
    (hlen : nasAttrLen response offset = 0) :
    nasFindAtRes response xres rounds offset = none := by
  induction rounds with
  | zero => rfl
  | succ rounds ih => rw [nasFindAtRes_passed h, hlen, Nat.add_zero, ih]

/-- A search that ends has ended from every place that it comes to. -/
theorem NasAttrAt.ends (h : NasAttrAt response offset) (hends : nasFindAtRes response xres rounds 5 ≠ none) :
    ∃ left, nasFindAtRes response xres left offset ≠ none := by
  induction h with
  | first => exact ⟨rounds, hends⟩
  | next hat hpassed ih =>
      obtain ⟨left, hleft⟩ := ih
      cases left with
      | zero => exact absurd rfl hleft
      | succ left => exact ⟨left, @nasFindAtRes_passed _ xres _ _ hpassed ▸ hleft⟩

/-- Each round takes at least one byte. -/
theorem NasAttrsAdvance.ends (h : NasAttrsAdvance response) (hat : NasAttrAt response offset)
    (hpos : 0 < rounds) (hrounds : response.length < offset + rounds) :
    nasFindAtRes response xres rounds offset ≠ none := by
  induction rounds generalizing offset with
  | zero => exact absurd hpos (Nat.lt_irrefl 0)
  | succ rounds ih =>
      by_cases hpassed : NasAttrPassed response offset
      · have hinside := hpassed.1
        have hlen := h offset hat hpassed
        rw [nasFindAtRes_passed hpassed]
        exact ih (hat.next hpassed) (by omega) (by omega)
      · exact nasFindAtRes_of_not_passed hpassed

theorem NasAttrsAdvance.of_ends (hends : nasFindAtRes response xres rounds 5 ≠ none) :
    NasAttrsAdvance response := by
  intro offset hat hpassed hlen
  obtain ⟨left, hleft⟩ := hat.ends hends
  exact hleft (nasFindAtRes_of_length_zero hpassed hlen)

theorem nasFindAtRes_ends_iff :
    nasFindAtRes response xres (response.length + 1) 5 ≠ none ↔ NasAttrsAdvance response :=
  ⟨.of_ends, fun hadvance => hadvance.ends .first (Nat.succ_pos _) (by omega)⟩

/-- **The search ends at all exactly if it ends within as many rounds as there are bytes.** -/
theorem exists_nasFindAtRes_iff :
    (∃ rounds, nasFindAtRes response xres rounds 5 ≠ none)
      ↔ nasFindAtRes response xres (response.length + 1) 5 ≠ none :=
  ⟨fun ⟨_, hends⟩ => nasFindAtRes_ends_iff.mpr (.of_ends hends), fun hends => ⟨_, hends⟩⟩

end Search

/-! ### What is read -/

theorem within_nasReadAtRes (mem : Memory) (xres : Vector Byte 16) (responseLength rounds offset : Nat) :
    (nasReadAtRes xres responseLength rounds offset).Within mem responseLength := by
  induction rounds generalizing offset with
  | zero => exact within_pure _ _ _
  | succ rounds ih =>
      rw [nasReadAtRes]
      split
      · rename_i hinside
        rw [within_byte, within_byte]
        refine ⟨by omega, by omega, ?_⟩
        split
        · rw [within_byte]
          refine ⟨by omega, ?_⟩
          dsimp only
          split
          · rename_i hfits
            rw [within_bind, within_bytes]
            exact ⟨.inr (by omega), within_pure _ _ _⟩
          · exact within_pure _ _ _
        · exact ih _
      · exact within_pure _ _ _

theorem within_nasReadResponseValid (mem : Memory) (authType : Option NasAuthenticationType)
    (vector : NasAuthVector) (responseLength : Nat) :
    (nasReadResponseValid authType vector responseLength).Within mem responseLength := by
  have haka : (bytes 0 (min responseLength 16)).Within mem responseLength := by
    rw [within_bytes]
    omega
  cases authType with
  | none => exact within_pure _ _ _
  | some authType =>
    cases authType with
    | fiveGAka => exact within_bind.mpr ⟨haka, within_pure _ _ _⟩
    | fiveGAkaPrime => exact within_bind.mpr ⟨haka, within_pure _ _ _⟩
    | eap =>
        rw [nasReadResponseValid]
        split
        · exact within_pure _ _ _
        · rw [within_byte, within_byte]
          refine ⟨by omega, by omega, ?_⟩
          split
          · exact within_pure _ _ _
          · exact within_bind.mpr ⟨within_nasReadAtRes _ _ _ _ _, within_pure _ _ _⟩

/-- **Nothing behind the response is read.** -/
theorem within_nasReadAuthenticationResponse (mem : Memory) (ctx : NasAuthContext) (responseLength : Nat) :
    (nasReadAuthenticationResponse ctx responseLength).Within mem responseLength := by
  rw [nasReadAuthenticationResponse]
  split
  · exact within_pure _ _ _
  split
  · exact within_pure _ _ _
  split
  · exact within_pure _ _ _
  · exact within_bind.mpr ⟨within_nasReadResponseValid _ _ _ _, within_pure _ _ _⟩

/-! ### The validation -/

/-- The search is made: there is a vector that has not been used, and the response is one to AKA'. -/
structure NasEapSearches (ctx : NasAuthContext) (response : List Byte) : Prop where
  numVectors : ctx.numVectors ≠ 0
  used : ctx.current.used = false
  length : 16 ≤ response.length
  code : response.getD 0 0 = 1
  type : response.getD 4 0 = 50

/-- The validation comes to an end, within as many rounds as there are bytes, and reads nothing behind
them. -/
def NasResponseBounded (ctx : NasAuthContext) (response : List Byte) : Prop :=
  (nasReadAuthenticationResponse ctx response.length).run (ofBytes response) ≠ none
    ∧ (nasReadAuthenticationResponse ctx response.length).Within (ofBytes response) response.length

section Validation

variable {ctx : NasAuthContext} {response : List Byte}

theorem nasValidateAuthenticationResponse_of_searches (hauth : ctx.authType = some .eap)
    (h : NasEapSearches ctx response) :
    nasValidateAuthenticationResponse ctx response ≠ none
      ↔ nasFindAtRes response ctx.current.xres (response.length + 1) 5 ≠ none := by
  have hnonempty : response ≠ [] := List.ne_nil_of_length_pos (Nat.lt_of_lt_of_le (by decide) h.length)
  have hheader : ¬(response.length < 16 ∨ response.getD 0 0 ≠ 1 ∨ response.getD 4 0 ≠ 50) := by
    rintro (hshort | hcode | htype)
    · exact absurd h.length (Nat.not_le.mpr hshort)
    · exact hcode h.code
    · exact htype h.type
  rw [nasValidateAuthenticationResponse, if_neg hnonempty, if_neg h.numVectors, h.used, hauth,
    if_neg (by decide), nasResponseValid, if_neg hheader, ne_eq, Option.map_eq_none_iff,
    Option.map_eq_none_iff]

theorem nasValidateAuthenticationResponse_of_not_searches (hauth : ctx.authType = some .eap)
    (h : ¬NasEapSearches ctx response) : nasValidateAuthenticationResponse ctx response ≠ none := by
  rw [nasValidateAuthenticationResponse]
  split
  · exact Option.some_ne_none _
  split
  · exact Option.some_ne_none _
  split
  · exact Option.some_ne_none _
  rename_i hvectors hused
  have hheader : response.length < 16 ∨ response.getD 0 0 ≠ 1 ∨ response.getD 4 0 ≠ 50 := by
    by_contra hnone
    rw [not_or, not_or, not_not, not_not] at hnone
    exact h ⟨hvectors, Bool.eq_false_iff.mpr hused, Nat.le_of_not_lt hnone.1, hnone.2.1, hnone.2.2⟩
  rw [hauth, nasResponseValid, if_pos hheader]
  exact Option.some_ne_none _

end Validation

/-- **The validation of an EAP response is bounded exactly if no search is made or every attribute that the
search passes has a length.** -/
theorem nasResponseBounded_iff {ctx : NasAuthContext} (hauth : ctx.authType = some .eap)
    (response : List Byte) :
    NasResponseBounded ctx response ↔ (NasEapSearches ctx response → NasAttrsAdvance response) := by
  rw [NasResponseBounded, and_iff_left (within_nasReadAuthenticationResponse _ _ _),
    run_nasReadAuthenticationResponse]
  by_cases hsearches : NasEapSearches ctx response
  · rw [nasValidateAuthenticationResponse_of_searches hauth hsearches, nasFindAtRes_ends_iff,
      forall_prop_of_true hsearches]
  · exact iff_of_true (nasValidateAuthenticationResponse_of_not_searches hauth hsearches)
      fun h => absurd h hsearches

/-- One vector, for EAP. -/
def NasAuthContext.eap : NasAuthContext :=
  { NasAuthContext.zero with authType := some .eap, numVectors := 1, numVectors_le := Nat.le_of_ble_eq_true rfl }

/-- A response to AKA' of sixteen bytes, the first attribute of another type and with this length. -/
def nasEapResponse (attrUnits : Byte) : List Byte := [1, 0, 0, 16, 50, 1, attrUnits] ++ List.replicate 9 0

theorem nasResponseBounded_eap : NasResponseBounded NasAuthContext.eap (nasEapResponse 3) := by
  have hends : nasFindAtRes (nasEapResponse 3) NasAuthContext.eap.current.xres
      ((nasEapResponse 3).length + 1) 5 ≠ none := by decide
  exact (nasResponseBounded_iff rfl (nasEapResponse 3)).mpr fun _ => nasFindAtRes_ends_iff.mp hends

theorem nasResponse_not_bounded :
    ¬NasResponseBounded NasAuthContext.eap (nasEapResponse 0)
      ∧ ¬NasResponseBounded NasAuthContext.eap (nasEapResponse 64) := by
  constructor
  · rintro ⟨hends, -⟩
    rw [run_nasReadAuthenticationResponse] at hends
    exact hends rfl
  · rintro ⟨hends, -⟩
    rw [run_nasReadAuthenticationResponse] at hends
    exact hends rfl

end Uesim
