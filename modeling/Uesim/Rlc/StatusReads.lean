import Uesim.Library.Reading
import Uesim.Rlc.AmRelease
import Uesim.Rlc.Lifecycle

/-!
# What is read of a status PDU

The header is read without a look at the length, and the loop over the NACKs looks at it once for a NACK and
then reads to the end of the NACK. A status PDU is read within its length exactly when it is long enough for
the header and no NACK in it is cut off.
-/

namespace Uesim

open Bytes BitMemory Reading

/-! ### The reading side as a program that reads -/

def rlcReadCpt : Reading Byte := .byte 0 fun first => .done ((first >>> 5) &&& 0x07)

def rlcReadAckSn (snLength : Byte) : Reading (BitVec 16) :=
  if snLength = 12 then
    .byte 0 fun first => .byte 1 fun second =>
      .done (((first &&& 0x1f).setWidth 16 <<< 7) ||| ((second >>> 1) &&& 0x7f).setWidth 16)
  else
    .byte 0 fun first => .byte 1 fun second => .byte 2 fun third =>
      .done (((first &&& 0x1f).setWidth 16 <<< 13) ||| (second.setWidth 16 <<< 5)
        ||| ((third >>> 3) &&& 0x1f).setWidth 16)

def rlcReadFlag (bitOffset : Nat) : Reading Bool :=
  .byte (bitOffset / 8) fun byte => .done (byte.getLsbD (7 - bitOffset % 8))

def rlcReadPart (bitOffset : Nat) : Reading Byte :=
  .byte (bitOffset / 8) fun byte => .done (byte >>> (7 - bitOffset % 8))

def rlcReadNackSn (snLength : Byte) (bitOffset : Nat) : Reading (BitVec 16 × Nat) :=
  if snLength = 12 then do
    let high ← rlcReadPart bitOffset
    let low ← rlcReadPart (bitOffset + 5)
    pure (((high &&& 0x1f).setWidth 16 <<< 7) ||| (low &&& 0x7f).setWidth 16, bitOffset + 12)
  else do
    let high ← rlcReadPart bitOffset
    let middle ← rlcReadPart (bitOffset + 5)
    let low ← rlcReadPart (bitOffset + 13)
    pure (((high &&& 0x1f).setWidth 16 <<< 13) ||| (middle.setWidth 16 <<< 5)
      ||| (low &&& 0x1f).setWidth 16, bitOffset + 18)

def rlcReadNack (snLength : Byte) (scan : RlcNackScan) : Reading RlcNackScan := do
  let nack ← rlcReadNackSn snLength scan.bitOffset
  let e1 ← rlcReadFlag nack.2
  let e2 ← rlcReadFlag (nack.2 + 1)
  pure
    { win := rlcAmMarkForRetransmission scan.win nack.1
      bitOffset := if e2 then nack.2 + 2 + 32 else nack.2 + 2
      e1 := e1 }

/-- `rlc_am_process_status_pdu` with its reads of the status PDU. -/
def rlcReadStatus (win : RlcAmTxWindow) (statusLength : Nat) (snLength : Byte) :
    Reading (RlcAmTxWindow × Except UesimError Unit) :=
  if statusLength = 0 then pure (win, .error .invalidParam)
  else do
    let cpt ← rlcReadCpt
    if cpt ≠ 0 then pure (win, .error .protocol)
    else do
      let ackSn ← rlcReadAckSn snLength
      let e1 ← rlcReadFlag (rlcStatusHeaderBits snLength)
      let start : RlcNackScan :=
        { win := rlcAmReleaseUntil ackSn snLength win
          bitOffset := rlcStatusHeaderBits snLength + 1
          e1 := e1 }
      let scan ← loop (rlcReadNack snLength) (rlcAmNacksEnd statusLength) (8 * statusLength + 1) start
      pure ((scan.getD start).win, .ok ())

section Run

variable (statusData : Memory) (snLength : Byte)

theorem run_rlcReadAckSn : (rlcReadAckSn snLength).run statusData = rlcStatusAckSn statusData snLength := by
  unfold rlcReadAckSn rlcStatusAckSn
  split
  · rfl
  · rfl

theorem run_rlcReadNackSn (bitOffset : Nat) :
    (rlcReadNackSn snLength bitOffset).run statusData = rlcStatusNackSn statusData snLength bitOffset := by
  unfold rlcReadNackSn rlcStatusNackSn
  dsimp only
  split
  · rfl
  · rfl

theorem run_rlcReadNack : (fun scan => (rlcReadNack snLength scan).run statusData)
    = rlcAmProcessNack statusData snLength := by
  funext scan
  rw [rlcReadNack, run_bind, run_rlcReadNackSn]
  rfl

theorem run_rlcReadStatus (win : RlcAmTxWindow) (statusLength : Nat) :
    (rlcReadStatus win statusLength snLength).run statusData
      = rlcAmProcessStatus win statusData statusLength snLength := by
  have hcpt : rlcReadCpt.run statusData = rlcStatusCpt statusData := rfl
  rw [rlcReadStatus, rlcAmProcessStatus]
  split
  · rfl
  · rw [run_bind, hcpt]
    split
    · rfl
    · rw [run_bind, run_bind, run_bind, run_rlcReadAckSn, run_loop, run_rlcReadNack]
      rfl

end Run

/-! ### NACKs that are cut off -/

def rlcSnBits (snLength : Byte) : Nat := if snLength = 12 then 12 else 18

/-- The flags behind the NACK_SN at this bit offset are in the status PDU. -/
def RlcNackInside (statusLength : Nat) (snLength : Byte) (b : Nat) : Prop :=
  (b + rlcSnBits snLength + 1) / 8 < statusLength

/-- The bit offsets at which the flags of the status PDU say that a NACK begins. -/
inductive RlcNackBegins (statusData : Memory) (statusLength : Nat) (snLength : Byte) : Nat → Prop
  | first : bitAt statusData (rlcStatusHeaderBits snLength) = true →
      RlcNackBegins statusData statusLength snLength (rlcStatusHeaderBits snLength + 1)
  | next {b : Nat} : RlcNackBegins statusData statusLength snLength b →
      RlcNackInside statusLength snLength b → bitAt statusData (b + rlcSnBits snLength) = true →
      RlcNackBegins statusData statusLength snLength
        (if bitAt statusData (b + rlcSnBits snLength + 1) then b + rlcSnBits snLength + 2 + 32
          else b + rlcSnBits snLength + 2)

/-- The header is all there, and so is every NACK that begins before the end. -/
structure RlcStatusComplete (statusData : Memory) (statusLength : Nat) (snLength : Byte) : Prop where
  header : rlcStatusHeaderBits snLength / 8 < statusLength
  nacks : ∀ b, RlcNackBegins statusData statusLength snLength b → b / 8 < statusLength →
    RlcNackInside statusLength snLength b

section Rounds

variable {statusData : Memory} {statusLength : Nat} {snLength : Byte}

theorem rlcStatusNackSn_snd (b : Nat) :
    (rlcStatusNackSn statusData snLength b).2 = b + rlcSnBits snLength := by
  unfold rlcStatusNackSn rlcSnBits
  dsimp only
  split
  · rfl
  · rfl

theorem rlcAmProcessNack_bitOffset (scan : RlcNackScan) :
    (rlcAmProcessNack statusData snLength scan).bitOffset
      = if bitAt statusData (scan.bitOffset + rlcSnBits snLength + 1) then
          scan.bitOffset + rlcSnBits snLength + 2 + 32
        else scan.bitOffset + rlcSnBits snLength + 2 := by
  rw [rlcAmProcessNack, rlcStatusNackSn_snd]

theorem rlcAmProcessNack_e1 (scan : RlcNackScan) :
    (rlcAmProcessNack statusData snLength scan).e1
      = bitAt statusData (scan.bitOffset + rlcSnBits snLength) := by
  rw [rlcAmProcessNack, rlcStatusNackSn_snd]

theorem rlcAmNacksEnd_eq_false_iff (scan : RlcNackScan) :
    rlcAmNacksEnd statusLength scan = false ↔ scan.e1 = true ∧ scan.bitOffset / 8 < statusLength := by
  rw [rlcAmNacksEnd, Bool.not_eq_false', Bool.and_eq_true, decide_eq_true_iff]

/-- A round reads to the second flag of its NACK. -/
theorem within_rlcReadNack (scan : RlcNackScan) :
    (rlcReadNack snLength scan).Within statusData statusLength
      ↔ RlcNackInside statusLength snLength scan.bitOffset := by
  have hflag (b : Nat) : (rlcReadFlag b).Within statusData statusLength ↔ b / 8 < statusLength := by
    rw [rlcReadFlag, within_byte, within_done, and_true]
  have hpart (b : Nat) : (rlcReadPart b).Within statusData statusLength ↔ b / 8 < statusLength := by
    rw [rlcReadPart, within_byte, within_done, and_true]
  have hsn (hinside : RlcNackInside statusLength snLength scan.bitOffset) :
      (rlcReadNackSn snLength scan.bitOffset).Within statusData statusLength := by
    rw [RlcNackInside, rlcSnBits] at hinside
    rw [rlcReadNackSn]
    split
    · rename_i hshort
      rw [if_pos hshort] at hinside
      simp only [within_bind, hpart, within_pure, and_true]
      omega
    · rename_i hlong
      rw [if_neg hlong] at hinside
      simp only [within_bind, hpart, within_pure, and_true]
      omega
  rw [rlcReadNack, within_bind, within_bind, within_bind, run_rlcReadNackSn, rlcStatusNackSn_snd, hflag,
    hflag]
  constructor
  · rintro ⟨-, -, hlast, -⟩
    exact hlast
  · intro hinside
    exact ⟨hsn hinside, lt_of_le_of_lt (Nat.div_le_div_right (Nat.le_succ _)) hinside, hinside,
      within_pure _ _ _⟩

theorem rlcNackBegins_of_rounds {start : RlcNackScan}
    (hoffset : start.bitOffset = rlcStatusHeaderBits snLength + 1)
    (he1 : start.e1 = bitAt statusData (rlcStatusHeaderBits snLength))
    (hnacks : ∀ b, RlcNackBegins statusData statusLength snLength b → b / 8 < statusLength →
      RlcNackInside statusLength snLength b) {n : Nat}
    (hgo : ∀ m ≤ n, rlcAmNacksEnd statusLength ((rlcAmProcessNack statusData snLength)^[m] start) = false) :
    RlcNackBegins statusData statusLength snLength
      ((rlcAmProcessNack statusData snLength)^[n] start).bitOffset := by
  induction n with
  | zero =>
      obtain ⟨hflag, -⟩ := (rlcAmNacksEnd_eq_false_iff _).mp (hgo 0 le_rfl)
      rw [Function.iterate_zero_apply, he1] at hflag
      rw [Function.iterate_zero_apply, hoffset]
      exact .first hflag
  | succ n ih =>
      have hbegins := ih fun m hm => hgo m (Nat.le_succ_of_le hm)
      obtain ⟨-, hlength⟩ := (rlcAmNacksEnd_eq_false_iff _).mp (hgo n (Nat.le_succ n))
      obtain ⟨hflag, -⟩ := (rlcAmNacksEnd_eq_false_iff _).mp (hgo (n + 1) le_rfl)
      rw [Function.iterate_succ_apply', rlcAmProcessNack_e1] at hflag
      rw [Function.iterate_succ_apply', rlcAmProcessNack_bitOffset]
      exact .next hbegins (hnacks _ hbegins hlength) hflag

/-- The loop comes to every NACK that begins. -/
theorem RlcNackBegins.exists_round {start : RlcNackScan}
    (hoffset : start.bitOffset = rlcStatusHeaderBits snLength + 1)
    (he1 : start.e1 = bitAt statusData (rlcStatusHeaderBits snLength)) {b : Nat}
    (h : RlcNackBegins statusData statusLength snLength b) :
    ∃ n, ((rlcAmProcessNack statusData snLength)^[n] start).bitOffset = b
      ∧ ((rlcAmProcessNack statusData snLength)^[n] start).e1 = true
      ∧ ∀ m < n, rlcAmNacksEnd statusLength ((rlcAmProcessNack statusData snLength)^[m] start) = false := by
  induction h with
  | first hflag => exact ⟨0, hoffset, he1.trans hflag, fun m hm => absurd hm (Nat.not_lt_zero m)⟩
  | @next b _ hinside hflag ih =>
      obtain ⟨n, rfl, he1, hgo⟩ := ih
      refine ⟨n + 1, ?_, ?_, ?_⟩
      · rw [Function.iterate_succ_apply', rlcAmProcessNack_bitOffset]
      · rw [Function.iterate_succ_apply', rlcAmProcessNack_e1, hflag]
      · intro m hm
        rcases Nat.lt_succ_iff_lt_or_eq.mp hm with hbefore | rfl
        · exact hgo m hbefore
        · rw [rlcAmNacksEnd_eq_false_iff]
          rw [RlcNackInside] at hinside
          exact ⟨he1, by omega⟩

theorem le_iterate_bitOffset (start : RlcNackScan) (n : Nat) :
    n ≤ ((rlcAmProcessNack statusData snLength)^[n] start).bitOffset := by
  induction n with
  | zero => exact Nat.zero_le _
  | succ n ih =>
      rw [Function.iterate_succ_apply']
      exact lt_of_le_of_lt ih (rlcNackScan_bitOffset_lt statusData snLength _)

theorem within_nacks_iff {start : RlcNackScan} (hoffset : start.bitOffset = rlcStatusHeaderBits snLength + 1)
    (he1 : start.e1 = bitAt statusData (rlcStatusHeaderBits snLength)) :
    (loop (rlcReadNack snLength) (rlcAmNacksEnd statusLength) (8 * statusLength + 1) start).Within
        statusData statusLength
      ↔ ∀ b, RlcNackBegins statusData statusLength snLength b → b / 8 < statusLength →
          RlcNackInside statusLength snLength b := by
  rw [within_loop, run_rlcReadNack]
  constructor
  · intro hrounds b hbegins hlength
    obtain ⟨n, rfl, hflag, hgo⟩ := hbegins.exists_round hoffset he1
    have hlast := (rlcAmNacksEnd_eq_false_iff _).mpr ⟨hflag, hlength⟩
    have hfuel := @le_iterate_bitOffset statusData snLength start n
    refine (within_rlcReadNack _).mp (hrounds n (by omega) fun m hm => ?_)
    rcases Nat.lt_or_eq_of_le hm with hbefore | rfl
    · exact hgo m hbefore
    · exact hlast
  · intro hnacks n _ hgo
    have hbegins := rlcNackBegins_of_rounds hoffset he1 hnacks hgo
    obtain ⟨-, hlength⟩ := (rlcAmNacksEnd_eq_false_iff _).mp (hgo n le_rfl)
    exact (within_rlcReadNack _).mpr (hnacks _ hbegins hlength)

end Rounds

/-! ### The whole status PDU -/

theorem within_rlcReadStatus_iff (snLength : Byte) (win : RlcAmTxWindow) (statusData : Memory)
    {statusLength : Nat} (hlength : 0 < statusLength) :
    (rlcReadStatus win statusLength snLength).Within statusData statusLength
      ↔ rlcStatusCpt statusData ≠ 0 ∨ RlcStatusComplete statusData statusLength snLength := by
  have hcpt : rlcReadCpt.Within statusData statusLength := by
    rw [rlcReadCpt, within_byte, within_done, and_true]
    exact hlength
  have hack (hheader : rlcStatusHeaderBits snLength / 8 < statusLength) :
      (rlcReadAckSn snLength).Within statusData statusLength := by
    rw [rlcStatusHeaderBits] at hheader
    rw [rlcReadAckSn]
    split
    · rename_i hshort
      rw [if_pos hshort] at hheader
      simp only [within_byte, within_done, and_true]
      omega
    · rename_i hlong
      rw [if_neg hlong] at hheader
      simp only [within_byte, within_done, and_true]
      omega
  have hflag : (rlcReadFlag (rlcStatusHeaderBits snLength)).Within statusData statusLength
      ↔ rlcStatusHeaderBits snLength / 8 < statusLength := by
    rw [rlcReadFlag, within_byte, within_done, and_true]
  have hrun : rlcReadCpt.run statusData = rlcStatusCpt statusData := rfl
  rw [rlcReadStatus, if_neg hlength.ne', within_bind, hrun]
  by_cases hother : rlcStatusCpt statusData ≠ 0
  · rw [if_pos hother]
    exact iff_of_true ⟨hcpt, within_pure _ _ _⟩ (.inl hother)
  · rw [if_neg hother, or_iff_right hother, within_bind, within_bind, within_bind, hflag]
    constructor
    · rintro ⟨-, -, hheader, hloop, -⟩
      exact ⟨hheader, (within_nacks_iff rfl rfl).mp hloop⟩
    · rintro ⟨hheader, hnacks⟩
      exact ⟨hcpt, hack hheader, hheader, (within_nacks_iff rfl rfl).mpr hnacks, within_pure _ _ _⟩

/-- **A status PDU is read within its length exactly when its CPT is refused, or header and NACKs are all
there.** What is received with 0xC0 in front is refused. -/
theorem rlcStatus_within_iff (snLength : Byte) (win : RlcAmTxWindow) (statusData : Memory)
    {statusLength : Nat} (hlength : 0 < statusLength) :
    ((rlcReadStatus win statusLength snLength).Within statusData statusLength
      ↔ rlcStatusCpt statusData ≠ 0 ∨ RlcStatusComplete statusData statusLength snLength)
    ∧ ∀ pdu : RlcPdu, 2 ≤ pdu.data.length ∧ ofBytes pdu.data 0 = 0xc0 →
        (rlcReadStatus win pdu.data.length snLength).Within (ofBytes pdu.data) pdu.data.length := by
  refine ⟨within_rlcReadStatus_iff snLength win statusData hlength, ?_⟩
  rintro pdu ⟨hlong, hfirst⟩
  exact (within_rlcReadStatus_iff snLength win _ (Nat.zero_lt_of_lt hlong)).mpr
    (.inl (rlcStatusCpt_of_indicator hfirst))

/-- Three bytes without a NACK are read within their length. -/
theorem rlcStatus_within_three :
    ∃ win, rlcAmInitTxWindow 512 = .ok win ∧ (rlcReadStatus win 3 12).Within zeros 3 := by
  have hinit : rlcAmInitTxWindow 512 = .ok _ := dif_pos (by decide)
  refine ⟨_, hinit, (rlcStatus_within_iff 12 _ zeros (by decide)).1.mpr (.inr ⟨by decide, ?_⟩)⟩
  -- no flag is set, so no NACK begins
  intro b hbegins
  induction hbegins with
  | first hflag => cases (bitAt_zeros _).symm.trans hflag
  | next _ _ hflag => cases (bitAt_zeros _).symm.trans hflag

/-- Of a status PDU of one byte the next byte is read as well. -/
theorem rlcStatus_not_within_one :
    ∃ win, rlcAmInitTxWindow 512 = .ok win ∧ 1 ∈ (rlcReadStatus win 1 12).reads (ofBytes [0])
      ∧ ¬ (rlcReadStatus win 1 12).Within (ofBytes [0]) 1 := by
  have hinit : rlcAmInitTxWindow 512 = .ok _ := dif_pos (by decide)
  have hread (win : RlcAmTxWindow) : 1 ∈ (rlcReadStatus win 1 12).reads (ofBytes [0]) := by
    rw [rlcReadStatus, if_neg (by decide), reads_bind, if_neg (by decide), reads_bind]
    refine List.mem_append_right _ (List.mem_append_left _ ?_)
    decide
  exact ⟨_, hinit, hread _, fun hwithin => absurd (hwithin 1 (hread _)) (by decide)⟩

end Uesim
