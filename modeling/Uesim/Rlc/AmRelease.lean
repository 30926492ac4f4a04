import Uesim.Rlc.AmStatus

/-!
# What a status PDU releases

The loop that removes acknowledged PDUs ends where VT(A) meets ACK_SN, wherever the peer put ACK_SN,
and empties the slots of all sequence numbers on the way. The slots it empties are found by residue, so
what it removes depends on what else the window holds there.
-/

namespace Uesim

open Bytes BitMemory

/-- How far `sn` is ahead of `base` among the sequence numbers. -/
def rlcSnOffset (snLength : Byte) (base sn : BitVec 16) : Nat :=
  ((sn - base) &&& rlcSnMask snLength).toNat

structure RlcStatusStep where
  before : RlcAmTxWindow
  statusData : Memory
  statusLength : Nat

namespace RlcStatusStep

variable (snLength : Byte) (step : RlcStatusStep)

def after : RlcAmTxWindow :=
  (rlcAmProcessStatus step.before step.statusData step.statusLength snLength).1

def ackSn : BitVec 16 := rlcStatusAckSn step.statusData snLength

def AckInside : Prop :=
  rlcSnOffset snLength step.before.vtA (step.ackSn snLength)
    ≤ rlcSnOffset snLength step.before.vtA step.before.vtS

def Acked (sn : BitVec 16) : Prop :=
  rlcSnOffset snLength step.before.vtA sn < rlcSnOffset snLength step.before.vtA (step.ackSn snLength)

/-- The status PDU removes only what it acknowledges, and nothing if ACK_SN is not inside. -/
def ReleasesOnlyAcked : Prop :=
  (∀ k, ∀ pdu ∈ step.before.held k, (step.after snLength).held k = [] →
    step.AckInside snLength ∧ step.Acked snLength pdu.sn)
  ∧ (¬ step.AckInside snLength → step.after snLength = step.before)

/-- The status PDU is refused for its length or CPT, or its ACK_SN is inside and no PDU that it does
not acknowledge is in the slot of a sequence number that it does. -/
def Acceptable : Prop :=
  step.statusLength = 0 ∨ rlcStatusCpt step.statusData ≠ 0
  ∨ step.AckInside snLength
    ∧ ∀ k, ∀ pdu ∈ step.before.held k, ∀ sn : BitVec 16, sn.toNat ≤ (rlcSnMask snLength).toNat →
      step.Acked snLength sn →
      sn.toNat % step.before.windowSize.toNat = pdu.sn.toNat % step.before.windowSize.toNat →
      step.Acked snLength pdu.sn

end RlcStatusStep

/-- The transmit windows that initialisation, insertions and status PDUs lead to, with the status PDUs
on the way. -/
inductive RlcAmTxWindow.Run (snLength : Byte) : RlcAmTxWindow → List RlcStatusStep → Prop
  | init {windowSize : BitVec 16} {win : RlcAmTxWindow} :
      rlcAmInitTxWindow windowSize = .ok win → Run snLength win []
  | insert {win : RlcAmTxWindow} {log : List RlcStatusStep} (pdu : RlcPdu) :
      Run snLength win log → Run snLength (rlcAmTxWindowInsert win pdu snLength).1 log
  | status {win : RlcAmTxWindow} {log : List RlcStatusStep} (statusData : Memory)
      (statusLength : Nat) :
      Run snLength win log →
      Run snLength (rlcAmProcessStatus win statusData statusLength snLength).1
        (log ++ [⟨win, statusData, statusLength⟩])

/-! ### Sequence numbers on the circle -/

def rlcSnCount (snLength : Byte) : Nat := (rlcSnMask snLength).toNat + 1

theorem rlcSnCount_dvd (snLength : Byte) : rlcSnCount snLength ∣ 2 ^ 16 := by
  unfold rlcSnCount rlcSnMask
  split <;> decide

theorem rlcSnOffset_lt (snLength : Byte) (base sn : BitVec 16) :
    rlcSnOffset snLength base sn < rlcSnCount snLength := by
  rw [rlcSnOffset, toNat_and_rlcSnMask]
  exact Nat.mod_lt _ (Nat.succ_pos _)

theorem rlcSnOffset_self (snLength : Byte) (base : BitVec 16) : rlcSnOffset snLength base base = 0 := by
  simp [rlcSnOffset]

theorem toNat_rlcSnNext (snLength : Byte) (sn : BitVec 16) :
    ((sn + 1) &&& rlcSnMask snLength).toNat = (sn.toNat + 1) % rlcSnCount snLength := by
  rw [toNat_and_rlcSnMask, BitVec.toNat_add]
  exact Nat.mod_mod_of_dvd _ (rlcSnCount_dvd snLength)

theorem add_rlcSnOffset_mod {snLength : Byte} (base : BitVec 16) {sn : BitVec 16}
    (hsn : sn.toNat < rlcSnCount snLength) :
    (base.toNat + rlcSnOffset snLength base sn) % rlcSnCount snLength = sn.toNat := by
  have hdvd := rlcSnCount_dvd snLength
  have hoffset : rlcSnOffset snLength base sn
      = (2 ^ 16 - base.toNat + sn.toNat) % rlcSnCount snLength := by
    rw [rlcSnOffset, toNat_and_rlcSnMask, BitVec.toNat_sub]
    exact Nat.mod_mod_of_dvd _ hdvd
  have hsum : base.toNat + (2 ^ 16 - base.toNat + sn.toNat) = sn.toNat + 2 ^ 16 := by
    have := base.isLt
    omega
  rw [hoffset, Nat.add_mod_mod, hsum]
  obtain ⟨m, hm⟩ := hdvd
  rw [hm, Nat.add_mul_mod_self_left, Nat.mod_eq_of_lt hsn]

theorem rlcSnOffset_eq_of_mod {snLength : Byte} {base sn : BitVec 16} {j : Nat}
    (hj : j < rlcSnCount snLength) (hsn : (base.toNat + j) % rlcSnCount snLength = sn.toNat) :
    rlcSnOffset snLength base sn = j := by
  have hlt : sn.toNat < rlcSnCount snLength := hsn ▸ Nat.mod_lt _ (Nat.succ_pos _)
  have hcongr : base.toNat + rlcSnOffset snLength base sn ≡ base.toNat + j [MOD rlcSnCount snLength] :=
    (add_rlcSnOffset_mod base hlt).trans hsn.symm
  have hmod := Nat.ModEq.add_left_cancel' _ hcongr
  rwa [Nat.ModEq, Nat.mod_eq_of_lt (rlcSnOffset_lt snLength base sn), Nat.mod_eq_of_lt hj] at hmod

/-! ### The loop that removes acknowledged PDUs -/

theorem toNat_iterate_release_vtA {snLength : Byte} {win : RlcAmTxWindow}
    (hvtA : win.vtA.toNat < rlcSnCount snLength) (n : Nat) :
    ((rlcAmReleaseNext snLength)^[n] win).vtA.toNat = (win.vtA.toNat + n) % rlcSnCount snLength := by
  induction n with
  | zero => exact (Nat.mod_eq_of_lt hvtA).symm
  | succ n ih =>
      rw [Function.iterate_succ_apply']
      exact (toNat_rlcSnNext snLength _).trans (by rw [ih, Nat.mod_add_mod, Nat.add_assoc])

theorem windowSize_iterate_release (snLength : Byte) (win : RlcAmTxWindow) (n : Nat) :
    ((rlcAmReleaseNext snLength)^[n] win).windowSize = win.windowSize := by
  induction n with
  | zero => rfl
  | succ n ih => rwa [Function.iterate_succ_apply']

theorem held_iterate_release {snLength : Byte} {win : RlcAmTxWindow}
    (hvtA : win.vtA.toNat < rlcSnCount snLength) (n k : Nat) :
    ((rlcAmReleaseNext snLength)^[n] win).held k
      = if ∃ j < n, k = (win.vtA.toNat + j) % rlcSnCount snLength % win.windowSize.toNat then []
        else win.held k := by
  induction n with
  | zero => simp
  | succ n ih =>
      have hvtAn := toNat_iterate_release_vtA hvtA n
      have hsize := windowSize_iterate_release snLength win n
      rw [Function.iterate_succ_apply']
      set moved := (rlcAmReleaseNext snLength)^[n] win
      have hstep : (rlcAmReleaseNext snLength moved).held k
          = if k = moved.vtA.toNat % moved.windowSize.toNat then [] else moved.held k :=
        moved.held_setSlot (moved.index moved.vtA) [] k
      rw [hstep, hvtAn, hsize, ih]
      simp only [Nat.lt_succ_iff_lt_or_eq, or_and_right, exists_or, exists_eq_left]
      by_cases hlast : k = (win.vtA.toNat + n) % rlcSnCount snLength % win.windowSize.toNat
      · rw [if_pos hlast, if_pos (.inr hlast)]
      · simp only [hlast, or_false, if_false]

/-- **The loop ends**, where VT(A) meets ACK_SN for the first time. -/
theorem rlcAmReleaseUntil_eq {snLength : Byte} {win : RlcAmTxWindow} {ackSn : BitVec 16}
    (hvtA : win.vtA.toNat < rlcSnCount snLength) (hack : ackSn.toNat < rlcSnCount snLength) :
    rlcAmReleaseUntil ackSn snLength win
      = (rlcAmReleaseNext snLength)^[rlcSnOffset snLength win.vtA ackSn] win := by
  have hlt := rlcSnOffset_lt snLength win.vtA ackSn
  have hcount : rlcSnCount snLength ≤ 2 ^ 16 := Nat.le_of_dvd (by decide) (rlcSnCount_dvd snLength)
  have hrun : Loop.run (rlcAmReleaseNext snLength) (fun win => win.vtA == ackSn) (2 ^ 16 + 1) win
      = some ((rlcAmReleaseNext snLength)^[rlcSnOffset snLength win.vtA ackSn] win) := by
    apply Loop.run_eq_iterate
    · omega
    · apply beq_iff_eq.mpr
      apply BitVec.eq_of_toNat_eq
      rw [toNat_iterate_release_vtA hvtA, add_rlcSnOffset_mod _ hack]
    · intro m hm
      apply beq_eq_false_iff_ne.mpr
      rintro rfl
      -- an earlier meeting would be nearer than the offset
      have := rlcSnOffset_eq_of_mod (hm.trans hlt) (toNat_iterate_release_vtA hvtA m).symm
      omega
  rw [rlcAmReleaseUntil, hrun]
  rfl

/-! ### The loop that marks PDUs for retransmission -/

/-- The two windows hold PDUs of the same sequence numbers in the same slots. -/
structure SameSns (win win' : RlcAmTxWindow) : Prop where
  windowSize : win'.windowSize = win.windowSize
  vtA : win'.vtA = win.vtA
  sns : ∀ k, (win'.held k).map RlcPdu.sn = (win.held k).map RlcPdu.sn

theorem SameSns.refl (win : RlcAmTxWindow) : SameSns win win := ⟨rfl, rfl, fun _ => rfl⟩

theorem SameSns.trans {win win' win'' : RlcAmTxWindow} (h : SameSns win win')
    (h' : SameSns win' win'') : SameSns win win'' :=
  ⟨h'.windowSize.trans h.windowSize, h'.vtA.trans h.vtA, fun k => (h'.sns k).trans (h.sns k)⟩

theorem SameSns.held_eq_nil_iff {win win' : RlcAmTxWindow} (h : SameSns win win') (k : Nat) :
    win'.held k = [] ↔ win.held k = [] := by
  rw [← List.map_eq_nil_iff (f := RlcPdu.sn), h.sns k, List.map_eq_nil_iff]

theorem sameSns_mark (win : RlcAmTxWindow) (nackSn : BitVec 16) :
    SameSns win (rlcAmMarkForRetransmission win nackSn) := by
  unfold rlcAmMarkForRetransmission
  dsimp only
  split
  · exact SameSns.refl win
  · rename_i pdu rest hslot
    refine ⟨rfl, rfl, fun k => ?_⟩
    rw [win.held_setSlot]
    by_cases hk : k = (win.index nackSn : Nat)
    · subst hk
      have hheld := (win.held_index nackSn).trans hslot
      rw [if_pos rfl]
      exact (congrArg (List.map RlcPdu.sn) hheld).symm
    · rw [if_neg hk]

theorem rlcNackScan_bitOffset_lt (statusData : Memory) (snLength : Byte) (scan : RlcNackScan) :
    scan.bitOffset < (rlcAmProcessNack statusData snLength scan).bitOffset := by
  have hnack : scan.bitOffset ≤ (rlcStatusNackSn statusData snLength scan.bitOffset).2 := by
    unfold rlcStatusNackSn
    dsimp only
    split <;> exact Nat.le_add_right _ _
  unfold rlcAmProcessNack
  dsimp only
  split <;> omega

/-- **The loop ends** within as many rounds as the status PDU has bits. -/
theorem isSome_run_rlcAmProcessNack (statusData : Memory) (statusLength : Nat) (snLength : Byte)
    (scan : RlcNackScan) :
    (Loop.run (rlcAmProcessNack statusData snLength) (rlcAmNacksEnd statusLength)
      (8 * statusLength + 1) scan).isSome := by
  apply Loop.isSome_run_of_measure _ _ fun scan => 8 * statusLength - scan.bitOffset
  · intro scan hgo
    have hlt := rlcNackScan_bitOffset_lt statusData snLength scan
    have hinside : scan.bitOffset / 8 < statusLength := by
      unfold rlcAmNacksEnd at hgo
      simp only [Bool.not_eq_false', Bool.and_eq_true, decide_eq_true_eq] at hgo
      exact hgo.2
    omega
  · omega

theorem sameSns_processNacks (statusData : Memory) (statusLength : Nat) (snLength : Byte)
    (win : RlcAmTxWindow) :
    SameSns win (rlcAmProcessNacks statusData statusLength snLength win) := by
  obtain ⟨scan, hrun⟩ := Option.isSome_iff_exists.mp (isSome_run_rlcAmProcessNack statusData
    statusLength snLength (rlcNackScanStart statusData snLength win))
  have hscan : SameSns win scan.win :=
    Loop.run_induction (rlcAmProcessNack statusData snLength) (rlcAmNacksEnd statusLength)
      (P := fun scan => SameSns win scan.win) (fun scan h => h.trans (sameSns_mark scan.win _))
      (SameSns.refl win) hrun
  unfold rlcAmProcessNacks
  dsimp only
  rwa [hrun]

/-! ### One status PDU -/

theorem toNat_rlcStatusAckSn_lt (statusData : Memory) (snLength : Byte) :
    (rlcStatusAckSn statusData snLength).toNat < rlcSnCount snLength := by
  have hlow : ∀ b : Byte, ∀ mask : Byte, ((b &&& mask).setWidth 16).toNat ≤ mask.toNat := by
    intro b mask
    rw [BitVec.toNat_setWidth, BitVec.toNat_and]
    exact (Nat.mod_le _ _).trans Nat.and_le_right
  unfold rlcStatusAckSn rlcSnCount rlcSnMask
  split
  · rw [BitVec.toNat_or]
    apply Nat.or_lt_two_pow (n := 12)
    · have hfirst := hlow (statusData 0) 0x1f
      rw [BitVec.toNat_shiftLeft, Nat.shiftLeft_eq]
      refine (Nat.mod_le _ _).trans_lt ?_
      have : (0x1f : Byte).toNat = 31 := rfl
      omega
    · have hsecond := hlow (statusData 1 >>> 1) 0x7f
      have : (0x7f : Byte).toNat = 127 := rfl
      omega
  · exact BitVec.isLt _

/-- What holds of every window of a run: VT(A) is a sequence number, and a PDU is in the slot of its
own. -/
structure RlcAmTxWindow.Placed (snLength : Byte) (win : RlcAmTxWindow) : Prop where
  vtA_lt : win.vtA.toNat < rlcSnCount snLength
  slot_eq : ∀ k, ∀ pdu ∈ win.held k, pdu.sn.toNat % win.windowSize.toNat = k

/-- All that a status PDU with CPT zero does: the slots of the numbers before ACK_SN are emptied, and
the others keep their numbers. -/
theorem sns_rlcAmProcessStatus {snLength : Byte} {win : RlcAmTxWindow} (h : win.Placed snLength)
    {statusData : Memory} {statusLength : Nat} (hlength : statusLength ≠ 0)
    (hcpt : rlcStatusCpt statusData = 0) :
    SameSns
      ((rlcAmReleaseNext snLength)^[rlcSnOffset snLength win.vtA (rlcStatusAckSn statusData snLength)]
        win)
      (rlcAmProcessStatus win statusData statusLength snLength).1 := by
  rw [rlcAmProcessStatus, if_neg hlength, if_neg (not_not.mpr hcpt)]
  rw [rlcAmReleaseUntil_eq h.vtA_lt (toNat_rlcStatusAckSn_lt statusData snLength)]
  exact sameSns_processNacks statusData statusLength snLength _

theorem vtA_rlcAmProcessStatus {snLength : Byte} {win : RlcAmTxWindow} (h : win.Placed snLength)
    {statusData : Memory} {statusLength : Nat} (hlength : statusLength ≠ 0)
    (hcpt : rlcStatusCpt statusData = 0) :
    (rlcAmProcessStatus win statusData statusLength snLength).1.vtA
      = rlcStatusAckSn statusData snLength := by
  apply BitVec.eq_of_toNat_eq
  rw [(sns_rlcAmProcessStatus h hlength hcpt).vtA, toNat_iterate_release_vtA h.vtA_lt,
    add_rlcSnOffset_mod _ (toNat_rlcStatusAckSn_lt statusData snLength)]

theorem held_rlcAmProcessStatus_eq_nil_iff {snLength : Byte} {win : RlcAmTxWindow}
    (h : win.Placed snLength) {statusData : Memory} {statusLength : Nat} (hlength : statusLength ≠ 0)
    (hcpt : rlcStatusCpt statusData = 0) {k : Nat} (hk : win.held k ≠ []) :
    (rlcAmProcessStatus win statusData statusLength snLength).1.held k = []
      ↔ ∃ j < rlcSnOffset snLength win.vtA (rlcStatusAckSn statusData snLength),
        k = (win.vtA.toNat + j) % rlcSnCount snLength % win.windowSize.toNat := by
  rw [(sns_rlcAmProcessStatus h hlength hcpt).held_eq_nil_iff, held_iterate_release h.vtA_lt]
  constructor
  · intro hnil
    by_contra hnone
    rw [if_neg hnone] at hnil
    exact hk hnil
  · intro hsome
    rw [if_pos hsome]

theorem placed_rlcAmProcessStatus {snLength : Byte} {win : RlcAmTxWindow} (h : win.Placed snLength)
    (statusData : Memory) (statusLength : Nat) :
    (rlcAmProcessStatus win statusData statusLength snLength).1.Placed snLength := by
  by_cases hlength : statusLength = 0
  · rwa [rlcAmProcessStatus, if_pos hlength]
  by_cases hcpt : rlcStatusCpt statusData = 0
  · have hsns := sns_rlcAmProcessStatus h hlength hcpt
    have hsize := windowSize_iterate_release snLength win
      (rlcSnOffset snLength win.vtA (rlcStatusAckSn statusData snLength))
    refine ⟨?_, fun k pdu hpdu => ?_⟩
    · rw [vtA_rlcAmProcessStatus h hlength hcpt]
      exact toNat_rlcStatusAckSn_lt statusData snLength
    · have hsn := List.mem_map_of_mem (f := RlcPdu.sn) hpdu
      rw [hsns.sns, held_iterate_release h.vtA_lt] at hsn
      obtain ⟨old, hold, heq⟩ := List.mem_map.mp hsn
      rw [hsns.windowSize, hsize, ← heq]
      split at hold
      · cases hold
      · exact h.slot_eq k old hold
  · rwa [rlcAmProcessStatus, if_neg hlength, if_pos hcpt]

theorem placed_rlcAmTxWindowInsert {snLength : Byte} {win : RlcAmTxWindow} (h : win.Placed snLength)
    (pdu : RlcPdu) : (rlcAmTxWindowInsert win pdu snLength).1.Placed snLength := by
  rcases rlcAmTxWindowInsert_cases win pdu snLength with hcase | hcase
  · rwa [hcase]
  · rw [hcase]
    refine ⟨h.vtA_lt, fun k other hother => ?_⟩
    rw [win.held_put] at hother
    split at hother
    · rename_i hk
      rcases List.mem_cons.mp hother with rfl | hold
      · exact hk.symm
      · exact h.slot_eq k other hold
    · exact h.slot_eq k other hother

theorem RlcAmTxWindow.Run.placed {snLength : Byte} {win : RlcAmTxWindow} {log : List RlcStatusStep}
    (h : win.Run snLength log) :
    win.Placed snLength ∧ ∀ step ∈ log, step.before.Placed snLength := by
  induction h with
  | @init windowSize win hinit =>
      obtain ⟨-, hvtA, -⟩ := rlcAmInitTxWindow_spec hinit
      refine ⟨⟨?_, fun k pdu hpdu => ?_⟩, by simp⟩
      · rw [hvtA]
        exact Nat.succ_pos _
      · rw [win.held_init hinit] at hpdu
        cases hpdu
  | insert pdu _ ih => exact ⟨placed_rlcAmTxWindowInsert ih.1 pdu, ih.2⟩
  | status statusData statusLength _ ih =>
      refine ⟨placed_rlcAmProcessStatus ih.1 statusData statusLength, fun step hstep => ?_⟩
      rcases List.mem_append.mp hstep with hold | hnew
      · exact ih.2 step hold
      · obtain rfl := List.mem_singleton.mp hnew
        exact ih.1

/-- On a window of a run, a status PDU releases only what it acknowledges exactly when it is
acceptable. -/
theorem RlcStatusStep.releasesOnlyAcked_iff {snLength : Byte} {step : RlcStatusStep}
    (h : step.before.Placed snLength) :
    step.ReleasesOnlyAcked snLength ↔ step.Acceptable snLength := by
  by_cases hlength : step.statusLength = 0
  · have hafter : step.after snLength = step.before := by
      rw [after, rlcAmProcessStatus, if_pos hlength]
    refine iff_of_true ⟨fun k pdu hpdu hnil => ?_, fun _ => hafter⟩ (.inl hlength)
    rw [hafter] at hnil
    exact absurd hnil (List.ne_nil_of_mem hpdu)
  by_cases hcpt : rlcStatusCpt step.statusData = 0
  · have hnil : ∀ {k}, step.before.held k ≠ [] → ((step.after snLength).held k = [] ↔ _) :=
      held_rlcAmProcessStatus_eq_nil_iff h hlength hcpt
    constructor
    · rintro ⟨honly, hunchanged⟩
      have hinside : step.AckInside snLength := by
        by_contra hnot
        have hvtA : step.before.vtA = step.ackSn snLength := by
          rw [← hunchanged hnot]
          exact vtA_rlcAmProcessStatus h hlength hcpt
        apply hnot
        rw [AckInside, ← hvtA, rlcSnOffset_self]
        exact Nat.zero_le _
      refine .inr (.inr ⟨hinside, fun k pdu hpdu sn hsn hacked hslot => ?_⟩)
      refine (honly k pdu hpdu ((hnil (List.ne_nil_of_mem hpdu)).mpr ⟨_, hacked, ?_⟩)).2
      rw [add_rlcSnOffset_mod _ (Nat.lt_succ_of_le hsn), hslot, h.slot_eq k pdu hpdu]
    · rintro (hzero | hrefused | ⟨hinside, hslots⟩)
      · exact absurd hzero hlength
      · exact absurd hcpt hrefused
      · refine ⟨fun k pdu hpdu hempty => ⟨hinside, ?_⟩, fun hnot => absurd hinside hnot⟩
        obtain ⟨j, hj, hk⟩ := (hnil (List.ne_nil_of_mem hpdu)).mp hempty
        have hcount := rlcSnCount_dvd snLength
        have hj' : j < rlcSnCount snLength := hj.trans (rlcSnOffset_lt _ _ _)
        have hmod : (step.before.vtA.toNat + j) % rlcSnCount snLength < rlcSnCount snLength :=
          Nat.mod_lt _ (Nat.succ_pos _)
        have htoNat : (BitVec.ofNat 16 ((step.before.vtA.toNat + j) % rlcSnCount snLength)).toNat
            = (step.before.vtA.toNat + j) % rlcSnCount snLength := by
          rw [BitVec.toNat_ofNat]
          exact Nat.mod_eq_of_lt (hmod.trans_le (Nat.le_of_dvd (by decide) hcount))
        apply hslots k pdu hpdu (BitVec.ofNat 16 ((step.before.vtA.toNat + j) % rlcSnCount snLength))
        · rw [htoNat]
          exact Nat.le_of_lt_succ hmod
        · rwa [Acked, rlcSnOffset_eq_of_mod hj' htoNat.symm]
        · rw [htoNat, ← hk, h.slot_eq k pdu hpdu]
  · have hafter : step.after snLength = step.before := by
      rw [after, rlcAmProcessStatus, if_neg hlength, if_pos hcpt]
    refine iff_of_true ⟨fun k pdu hpdu hnil => ?_, fun _ => hafter⟩ (.inr (.inl hcpt))
    rw [hafter] at hnil
    exact absurd hnil (List.ne_nil_of_mem hpdu)

/-- **A status PDU of a run releases only what it acknowledges exactly when it is refused, or ACK_SN is
between VT(A) and VT(S) and no slot that it empties holds another PDU.** -/
theorem rlcAmProcessStatus_releasesOnlyAcked_iff {snLength : Byte} {win : RlcAmTxWindow}
    {log : List RlcStatusStep} (hrun : win.Run snLength log) :
    ∀ step ∈ log, step.ReleasesOnlyAcked snLength ↔ step.Acceptable snLength :=
  fun _ hstep => RlcStatusStep.releasesOnlyAcked_iff (hrun.placed.2 _ hstep)

theorem exists_run_one :
    ∃ win : RlcAmTxWindow, win.Run 12 [] ∧ win.vtA = 0 ∧ win.vtS = 1
      ∧ ∀ k, ∀ pdu ∈ win.held k, pdu.sn = 0 := by
  have hinit : rlcAmInitTxWindow 512 = .ok _ := dif_pos (by decide)
  refine ⟨_, .insert ⟨[1], 0, 0, 0, false⟩ (.init hinit), rfl, rfl, fun k pdu hpdu => ?_⟩
  change pdu ∈ (rlcAmTxWindowPut _ _ _).held k at hpdu
  rw [RlcAmTxWindow.held_put, RlcAmTxWindow.held_init hinit] at hpdu
  split at hpdu
  · obtain rfl := List.mem_singleton.mp hpdu
    rfl
  · cases hpdu

theorem rlcAmProcessStatus_releasesOnlyAcked_first :
    ∃ win : RlcAmTxWindow, win.Run 12 []
      ∧ (⟨win, ofBytes [0x00, 0x02], 2⟩ : RlcStatusStep).ReleasesOnlyAcked 12 := by
  obtain ⟨win, hrun, hvtA, hvtS, hheld⟩ := exists_run_one
  have hack : rlcStatusAckSn (ofBytes [0x00, 0x02]) 12 = 1 := by decide
  refine ⟨win, hrun, (rlcAmProcessStatus_releasesOnlyAcked_iff
    (.status (ofBytes [0x00, 0x02]) 2 hrun) _ (List.mem_singleton.mpr rfl)).mpr (.inr (.inr ?_))⟩
  simp only [RlcStatusStep.AckInside, RlcStatusStep.Acked, RlcStatusStep.ackSn, hvtA, hvtS, hack]
  refine ⟨by decide, fun k pdu hpdu _ _ _ _ => ?_⟩
  rw [hheld k pdu hpdu]
  decide

/-- ACK_SN 2 is behind VT(S), which is 1, and VT(A) moves to it all the same. -/
theorem rlcAmProcessStatus_not_releasesOnlyAcked :
    ∃ win log, RlcAmTxWindow.Run 12 win log
      ∧ ∃ step ∈ log, step.ackSn 12 = 2 ∧ step.before.vtS = 1 ∧ (step.after 12).vtA = 2
        ∧ ¬ step.ReleasesOnlyAcked 12 := by
  obtain ⟨win, hrun, hvtA, hvtS, -⟩ := exists_run_one
  have hack : rlcStatusAckSn (ofBytes [0x00, 0x04]) 12 = 2 := by decide
  have hcpt : rlcStatusCpt (ofBytes [0x00, 0x04]) = 0 := by decide
  have hafter : (RlcStatusStep.after 12 ⟨win, ofBytes [0x00, 0x04], 2⟩).vtA = 2 := by
    rw [← hack]
    exact vtA_rlcAmProcessStatus hrun.placed.1 (Nat.succ_ne_zero 1) hcpt
  refine ⟨_, _, .status (ofBytes [0x00, 0x04]) 2 hrun, _, List.mem_singleton.mpr rfl, hack, hvtS,
    hafter, ?_⟩
  rw [RlcStatusStep.releasesOnlyAcked_iff hrun.placed.1]
  simp only [RlcStatusStep.Acceptable, RlcStatusStep.AckInside, RlcStatusStep.ackSn, hvtA, hvtS, hack]
  rintro (hlength | hrefused | ⟨hinside, -⟩)
  · cases hlength
  · exact hrefused hcpt
  · exact absurd hinside (by decide)

end Uesim
