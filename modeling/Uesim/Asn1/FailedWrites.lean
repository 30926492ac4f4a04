import Uesim.Asn1.PerFrame
import Uesim.Asn1.PerRoundTrip
import Uesim.Asn1.RrcContainers
import Uesim.Library.Runs

/-!
# Writers that fail

A writer of bits finds out in the middle of a field that the buffer is full, and what is made of several
fields finds out behind the first of them. What is written by then stays. So a call that fails leaves the
buffer as it was only if it is refused for its arguments, or if there was no room for a single bit.
-/

namespace Uesim

open Bytes BitMemory Runs

inductive Asn1Write where
  | bits (value : Word) (numBits : Nat)
  | length (len : Nat)
  | octetString (data : Memory) (len : Nat)
  | constrainedInteger (value minVal maxVal : Int)

namespace Asn1Write

def encode (buf : Asn1Buffer) : Asn1Write → Asn1Buffer × Except UesimError Unit
  | bits value numBits => asn1EncodeBits buf value numBits
  | length len => asn1EncodeLength buf len
  | octetString data len => asn1EncodeOctetString buf data len
  | constrainedInteger value minVal maxVal => asn1EncodeConstrainedInteger buf value minVal maxVal

/-- The call is refused for its arguments. -/
def Refused : Asn1Write → Prop
  | bits _ numBits => 32 < numBits
  | length _ => False
  | octetString _ _ => False
  | constrainedInteger value minVal maxVal =>
      maxVal < minVal ∨ value < minVal ∨ maxVal < value ∨ 32 < countBits (asn1Range minVal maxVal)

/-- The bits that the call writes. -/
def width : Asn1Write → Nat
  | bits _ numBits => numBits
  | length len => 8 * asn1LengthBytes len
  | octetString _ len => 8 * (asn1LengthBytes len + len)
  | constrainedInteger _ minVal maxVal => countBits (asn1Range minVal maxVal)

/-- If the call fails, the buffer is as it was. -/
def Harmless (buf : Asn1Buffer) (call : Asn1Write) : Prop :=
  ∀ after error, call.encode buf = (after, .error error) → after = buf

/-- The call is refused for its arguments, or there is room for all that it writes, or for nothing. -/
def Whole (buf : Asn1Buffer) (call : Asn1Write) : Prop :=
  call.Refused ∨ buf.bitOffset + call.width ≤ 8 * buf.capacity ∨ buf.bitOffset = 8 * buf.capacity

end Asn1Write

/-! ### What a writer leaves -/

/-- A writer has room and keeps the counts together, or it fails and moves `bit_offset`, unless the buffer is
full. -/
inductive Asn1Buffer.Writes (buf : Asn1Buffer) (width : Nat) (result : Asn1Buffer × Except UesimError Unit) :
    Prop
  | all (hroom : buf.bitOffset + width ≤ 8 * buf.capacity) (hok : result.2 = .ok ()) (htight : result.1.Tight)
  | nothing (hfull : buf.bitOffset = 8 * buf.capacity) (herror : result.2 ≠ .ok ()) (hsame : result.1 = buf)
  | some (hroom : ¬buf.bitOffset + width ≤ 8 * buf.capacity) (hfull : buf.bitOffset ≠ 8 * buf.capacity)
      (herror : result.2 ≠ .ok ()) (hmoved : result.1.bitOffset ≠ buf.bitOffset)

section Writers

variable {buf : Asn1Buffer}

theorem asn1EncodeBits_of_full (hfull : buf.bitOffset = 8 * buf.capacity) (value : Word) {numBits : Nat}
    (hpos : 0 < numBits) (hbits : numBits ≤ 32) :
    asn1EncodeBits buf value numBits = (buf, .error .capacity) := by
  obtain ⟨i, rfl⟩ := Nat.exists_eq_succ_of_ne_zero hpos.ne'
  have hend : buf.bitOffset / 8 ≥ buf.capacity := by omega
  rw [asn1EncodeBits, if_neg (Nat.not_lt.mpr hbits), asn1EncodeBitsLoop, if_pos hend]

theorem asn1EncodeBits_writes (h : buf.Tight) (value : Word) {numBits : Nat} (hbits : numBits ≤ 32) :
    buf.Writes numBits (asn1EncodeBits buf value numBits) := by
  have hinside := h.inside
  by_cases hroom : buf.bitOffset + numBits ≤ 8 * buf.capacity
  · rw [asn1EncodeBits_eq hbits hroom]
    exact .all hroom rfl ⟨rfl, hroom⟩
  · by_cases hfull : buf.bitOffset = 8 * buf.capacity
    · rw [asn1EncodeBits_of_full hfull value (by omega) hbits]
      exact .nothing hfull (fun hok => by cases hok) rfl
    · rcases asn1EncodeBits_cases buf value hbits with ⟨-, hoffset, -⟩ | ⟨herror, -, hend, -⟩
      · have hin := (asn1EncodeBits_advances buf value numBits).inside hinside
        omega
      · refine .some hroom hfull ?_ (by omega)
        rw [herror]
        exact fun hok => nomatch hok

/-- A marker and a number behind it. Whatever fails, the marker has moved `bit_offset`. -/
theorem asn1EncodeBits_marker_writes (h : buf.Tight) (marker value : Word) {numBits : Nat}
    (hpos : 0 < numBits) (hbits : numBits ≤ 32) :
    buf.Writes (8 + numBits) (asn1EncodeBits (asn1EncodeBits buf marker 8).1 value numBits) := by
  have hfirst := asn1EncodeBits_advances buf marker 8
  have hsecond := (asn1EncodeBits_advances (asn1EncodeBits buf marker 8).1 value numBits).bitOffset_le
  have hcapacity := hfirst.capacity
  have hinside := h.inside
  by_cases hfull : buf.bitOffset = 8 * buf.capacity
  · rw [asn1EncodeBits_of_full hfull marker (by decide) (by decide),
      asn1EncodeBits_of_full hfull value hpos hbits]
    exact .nothing hfull (fun hok => by cases hok) rfl
  · rcases asn1EncodeBits_cases buf marker (by decide : 8 ≤ 32) with ⟨-, hoffset, hsize⟩ | ⟨-, -, hend, hcut⟩
    · have htight : (asn1EncodeBits buf marker 8).1.Tight :=
        ⟨by rw [hsize, hoffset], by rw [hcapacity]; exact hfirst.inside hinside⟩
      cases asn1EncodeBits_writes htight value hbits with
      | all hroom hok htight => exact .all (by omega) hok htight
      | nothing hend herror hsame => exact .some (by omega) hfull herror (by omega)
      | some hroom hend herror hmoved => exact .some (by omega) hfull herror (by omega)
    · have hlast :
          (asn1EncodeBits buf marker 8).1.bitOffset = 8 * (asn1EncodeBits buf marker 8).1.capacity := by
        have hend' := hfirst.inside hinside
        omega
      have herror := asn1EncodeBits_of_full hlast value hpos hbits
      refine .some (by omega) hfull ?_ (by omega)
      rw [herror]
      exact fun hok => nomatch hok

theorem asn1EncodeLength_writes (h : buf.Tight) (len : Nat) :
    buf.Writes (8 * asn1LengthBytes len) (asn1EncodeLength buf len) := by
  rw [asn1EncodeLength, asn1LengthBytes]
  split
  · exact asn1EncodeBits_writes h _ (by decide)
  · split
    · exact @asn1EncodeBits_marker_writes buf h _ _ 8 (by decide) (by decide)
    · exact @asn1EncodeBits_marker_writes buf h _ _ 16 (by decide) (by decide)

/-- A length that fails is all that is written of a string. -/
theorem asn1EncodeOctetString_of_error {len : Nat} (h : (asn1EncodeLength buf len).2 ≠ .ok ())
    (data : Memory) :
    asn1EncodeOctetString buf data len = asn1EncodeLength buf len := by
  rw [asn1EncodeOctetString]
  generalize asn1EncodeLength buf len = result at h ⊢
  obtain ⟨after, error | ⟨⟩⟩ := result
  · rfl
  · exact absurd rfl h

/-- If the length has room and the string has none, the length stays. -/
theorem asn1EncodeOctetString_writes (h : buf.Tight) (data : Memory) (len : Nat) :
    buf.Writes (8 * (asn1LengthBytes len + len)) (asn1EncodeOctetString buf data len) := by
  have hbytes : 0 < asn1LengthBytes len := by
    rw [asn1LengthBytes]
    repeat' split
    all_goals decide
  by_cases hlength : buf.bitOffset + 8 * asn1LengthBytes len ≤ 8 * buf.capacity
  · by_cases hroom : buf.bitOffset + 8 * (asn1LengthBytes len + len) ≤ 8 * buf.capacity
    · rw [asn1EncodeOctetString_eq hroom]
      refine .all hroom rfl ⟨?_, hroom⟩
      dsimp only
      omega
    · have hover : (buf.bitOffset + 8 * asn1LengthBytes len + 7) / 8 + len > buf.capacity := by omega
      rw [asn1EncodeOctetString, asn1EncodeLength_eq hlength]
      dsimp only
      rw [asn1CopyString, if_pos hover]
      refine .some hroom (by omega) (fun hok => by cases hok) ?_
      dsimp only
      omega
  · cases asn1EncodeLength_writes h len with
    | all hroom hok htight => exact absurd hroom hlength
    | nothing hfull herror hsame =>
        rw [asn1EncodeOctetString_of_error herror]
        exact .nothing hfull herror hsame
    | some hroom hfull herror hmoved =>
        rw [asn1EncodeOctetString_of_error herror]
        exact .some (by omega) hfull herror hmoved

end Writers

namespace Asn1Write

variable {buf : Asn1Buffer}

theorem encode_of_refused {call : Asn1Write} (h : call.Refused) : (call.encode buf).1 = buf := by
  cases call with
  | bits value numBits =>
      have hbits : 32 < numBits := h
      rw [encode, asn1EncodeBits, if_pos hbits]
  | length len => exact h.elim
  | octetString data len => exact h.elim
  | constrainedInteger value minVal maxVal =>
      rw [encode, asn1EncodeConstrainedInteger]
      split
      · rfl
      · split
        · rfl
        · dsimp only
          split
          · rfl
          · have hbits : 32 < countBits (asn1Range minVal maxVal) := by
              rcases h with h | h | h | h
              all_goals omega
            rw [asn1EncodeBits, if_pos hbits]

theorem encode_writes (h : buf.Tight) {call : Asn1Write} (hrefused : ¬call.Refused) :
    buf.Writes call.width (call.encode buf) := by
  cases call with
  | bits value numBits => exact asn1EncodeBits_writes h value (Nat.not_lt.mp hrefused)
  | length len => exact asn1EncodeLength_writes h len
  | octetString data len => exact asn1EncodeOctetString_writes h data len
  | constrainedInteger value minVal maxVal =>
      simp only [Refused, not_or, Int.not_lt, Nat.not_lt] at hrefused
      obtain ⟨hbounds, hmin, hmax, hbits⟩ := hrefused
      rw [encode, asn1EncodeConstrainedInteger, if_neg (by omega), if_neg (by omega)]
      dsimp only
      split
      · rename_i hzero
        have hwidth : (constrainedInteger value minVal maxVal).width = 0 := countBits_eq_zero_iff.mpr hzero
        exact .all (hwidth ▸ h.inside) rfl h
      · exact asn1EncodeBits_writes h _ hbits

/-- **A call is harmless and keeps the counts together exactly if it is refused, or has room, or finds the
buffer full.** -/
theorem harmless_iff (h : buf.Tight) (call : Asn1Write) :
    call.Harmless buf ∧ (call.encode buf).1.Tight ↔ call.Whole buf := by
  by_cases hrefused : call.Refused
  · have hsame := @encode_of_refused buf call hrefused
    refine iff_of_true ⟨fun after error hafter => ?_, by rwa [hsame]⟩ (.inl hrefused)
    rw [hafter] at hsame
    exact hsame
  · rw [Whole, or_iff_right hrefused]
    cases encode_writes h hrefused with
    | all hroom hok htight =>
        refine iff_of_true ⟨fun after error hafter => ?_, htight⟩ (.inl hroom)
        rw [hafter] at hok
        cases hok
    | nothing hfull herror hsame =>
        refine iff_of_true ⟨fun after error hafter => ?_, by rwa [hsame]⟩ (.inr hfull)
        rw [hafter] at hsame
        exact hsame
    | some hroom hfull herror hmoved =>
        refine iff_of_false (fun hharmless => ?_) (not_or.mpr ⟨hroom, hfull⟩)
        cases hresult : (call.encode buf).2 with
        | ok => exact herror hresult
        | error error =>
            exact hmoved (congrArg Asn1Buffer.bitOffset (hharmless.1 _ error (by rw [← hresult])))

end Asn1Write

/-! ### Sequences of calls -/

def asn1WriteStep (buf : Asn1Buffer) (call : Asn1Write) : Asn1Buffer := (call.encode buf).1

/-- **The calls that fail are harmless, and the counts stay together, in exactly the sequences of which every
call is refused, or has room, or finds the buffer full.** -/
theorem asn1Writes_harmless_iff {buf : Asn1Buffer} (h : buf.Tight) (calls : List Asn1Write) :
    Always asn1WriteStep (fun buf call => call.Harmless buf ∧ (asn1WriteStep buf call).Tight) buf calls
      ↔ Always asn1WriteStep (fun buf call => call.Whole buf) buf calls :=
  @always_iff _ _ asn1WriteStep Asn1Buffer.Tight _ _ (fun _ call h => Asn1Write.harmless_iff h call)
    (fun _ call h hwhole => ((Asn1Write.harmless_iff h call).mpr hwhole).2) buf h calls

/-- A length with room, an octet string that finds the buffer full, and bits that are refused. -/
theorem asn1Writes_harmless_three :
    Always asn1WriteStep (fun buf call => call.Harmless buf ∧ (asn1WriteStep buf call).Tight) ⟨zeros, 0, 1, 0⟩
      [.length 5, .octetString zeros 2, .bits 0 33] :=
  (asn1Writes_harmless_iff ⟨rfl, by decide⟩ _).mpr
    ⟨.inr (.inl (by decide)), .inr (.inr (by decide)), .inl (by decide : 32 < 33), trivial⟩

/-- Sixteen bits into a buffer that has room for twelve: `bit_offset` goes to the end, and `size` stays. -/
theorem asn1Write_not_harmless :
    Asn1Buffer.Tight ⟨zeros, 1, 2, 4⟩ ∧ ¬(Asn1Write.bits 0xFFFF 16).Harmless ⟨zeros, 1, 2, 4⟩
      ∧ ¬(asn1WriteStep ⟨zeros, 1, 2, 4⟩ (.bits 0xFFFF 16)).Tight := by
  refine ⟨⟨rfl, by decide⟩, fun h => ?_, fun h => ?_⟩
  · have hoffset := congrArg Asn1Buffer.bitOffset (h _ .capacity rfl)
    exact absurd hoffset (by decide)
  · exact absurd h.size_eq (by decide)

end Uesim
