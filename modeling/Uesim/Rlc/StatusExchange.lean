import Uesim.Rlc.AmRelease

/-!
# A status PDU from one side to the other

A receiving side writes what it misses into a status PDU and the transmitting side of its peer reads
it. The two sides place the first fields one bit apart, so no status PDU arrives.
-/

namespace Uesim

open Bytes BitMemory

/-- The sequence numbers from VR(R) up to VR(H) that nothing came for, the first sixteen of them. -/
def rlcMissingSns (rx : RlcAmRxWindow) (snLength : Byte) : List (BitVec 16) :=
  (((List.range (rlcSnOffset snLength rx.vrR rx.vrH)).map fun i =>
      (rx.vrR + BitVec.ofNat 16 i) &&& rlcSnMask snLength).filter fun sn =>
    rx.slot (rx.index sn) = []).take 16

/-- The transmit window after the report: VT(A) is at VR(R), what is before VR(R) is released, and
marked is what the receiving side misses. -/
structure StatusReported (rx : RlcAmRxWindow) (tx tx' : RlcAmTxWindow) (snLength : Byte) : Prop where
  vtA : tx'.vtA = rx.vrR
  released : ∀ k, ∀ pdu ∈ tx.held k,
    rlcSnOffset snLength tx.vtA pdu.sn < rlcSnOffset snLength tx.vtA rx.vrR →
    pdu.sn ∉ (tx'.held k).map RlcPdu.sn
  marked : ∀ k, ∀ pdu ∈ tx'.held k, pdu.isSegment = true ↔ pdu.sn ∈ rlcMissingSns rx snLength

/-- The status PDU of the receive window is accepted by the peer and reports to its window. -/
def StatusRoundTrip (rx : RlcAmRxWindow) (tx : RlcAmTxWindow) (snLength : Byte) : Prop :=
  ∃ fuel pdu length, rlcAmGenerateStatus fuel rx snLength = some (pdu, length)
    ∧ ∃ received : Memory, (∀ i < length, received i = pdu i)
      ∧ ∃ tx', rlcAmProcessStatus tx received length snLength = (tx', .ok ())
        ∧ StatusReported rx tx tx' snLength

/-! ### The writing side returns -/

theorem RlcAmRxWindow.Reachable.slot_vrR {snLength : Byte} {win : RlcAmRxWindow}
    (h : win.Reachable snLength) : win.slot (win.index win.vrR) = [] := by
  induction h with
  | init hinit => exact (rlcAmInitRxWindow_spec hinit).2.2 _
  | @insert fuel win next pdu result _ hinsert ih =>
      rcases rlcAmRxWindowInsert_cases hinsert with ⟨rfl, -⟩ | ⟨hmoved, -⟩
      · exact ih
      · obtain ⟨_, -, hends⟩ := Loop.exists_iterate_of_run _ _ hmoved
        exact List.isEmpty_iff.mp hends

section Writer

variable (win : RlcAmRxWindow) (snLength : Byte)

theorem toNat_iterate_writeNext_sn {w : RlcStatusWriter} (hsn : w.sn.toNat < rlcSnCount snLength)
    (n : Nat) :
    ((rlcStatusWriteNext win snLength)^[n] w).sn.toNat = (w.sn.toNat + n) % rlcSnCount snLength := by
  induction n with
  | zero => exact (Nat.mod_eq_of_lt hsn).symm
  | succ n ih =>
      have hkeep : ∀ w, (rlcStatusWriteNext win snLength w).sn
          = (w.sn + 1) &&& rlcSnMask snLength := by
        intro w
        unfold rlcStatusWriteNext rlcStatusWriteNack
        split
        · split <;> rfl
        · rfl
      rw [Function.iterate_succ_apply', hkeep, toNat_rlcSnNext, ih, Nat.mod_add_mod, Nat.add_assoc]

theorem nackCount_writeNext (w : RlcStatusWriter) :
    (rlcStatusWriteNext win snLength w).nackCount
      = if win.slot (win.index w.sn) = [] then w.nackCount + 1 else w.nackCount := by
  unfold rlcStatusWriteNext rlcStatusWriteNack
  split
  · split <;> rfl
  · rfl

theorem nackCount_le_iterate (w : RlcStatusWriter) (n : Nat) :
    w.nackCount ≤ ((rlcStatusWriteNext win snLength)^[n] w).nackCount := by
  induction n with
  | zero => exact Nat.le_refl _
  | succ n ih =>
      rw [Function.iterate_succ_apply', nackCount_writeNext]
      split <;> omega

/-- Once round the circle the loop comes to VR(R) again, and finds its slot empty again. -/
theorem le_nackCount_iterate (hempty : win.slot (win.index win.vrR) = [])
    {w : RlcStatusWriter} (hsn : w.sn = win.vrR) (hlt : win.vrR.toNat < rlcSnCount snLength)
    (rounds : Nat) :
    rounds ≤ ((rlcStatusWriteNext win snLength)^[rounds * rlcSnCount snLength] w).nackCount := by
  have hpos : 0 < rlcSnCount snLength := Nat.succ_pos _
  induction rounds with
  | zero => exact Nat.zero_le _
  | succ rounds ih =>
      set turned := (rlcStatusWriteNext win snLength)^[rounds * rlcSnCount snLength] w with hturned
      have hat : turned.sn = win.vrR := by
        apply BitVec.eq_of_toNat_eq
        rw [hturned, toNat_iterate_writeNext_sn win snLength (hsn ▸ hlt), Nat.add_mul_mod_self_right, hsn,
          Nat.mod_eq_of_lt hlt]
      have hcount : (rlcStatusWriteNext win snLength turned).nackCount = turned.nackCount + 1 := by
        rw [nackCount_writeNext, hat, if_pos hempty]
      have hsplit : (rounds + 1) * rlcSnCount snLength
          = (rlcSnCount snLength - 1) + (rounds * rlcSnCount snLength + 1) := by
        rw [Nat.succ_mul]
        omega
      calc rounds + 1 ≤ turned.nackCount + 1 := Nat.succ_le_succ ih
        _ = (rlcStatusWriteNext win snLength turned).nackCount := hcount.symm
        _ ≤ ((rlcStatusWriteNext win snLength)^[rlcSnCount snLength - 1]
              (rlcStatusWriteNext win snLength turned)).nackCount := nackCount_le_iterate _ _ _ _
        _ = ((rlcStatusWriteNext win snLength)^[(rounds + 1) * rlcSnCount snLength] w).nackCount := by
            rw [hsplit, Function.iterate_add_apply, Function.iterate_succ_apply' _ (rounds * _)]

end Writer

/-- **A status PDU is written for every reachable window.** The slot at VR(R) is empty, so the loop counts
sixteen by going round if it does not meet VR(H) before. -/
theorem exists_rlcAmGenerateStatus {snLength : Byte} {win : RlcAmRxWindow}
    (h : win.Reachable snLength) :
    ∃ fuel pdu length, rlcAmGenerateStatus fuel win snLength = some (pdu, length) := by
  have hlt : win.vrR.toNat < rlcSnCount snLength := Nat.lt_succ_of_le h.vrRInRange
  have hcount : 16 ≤ ((rlcStatusWriteNext win snLength)^[16 * rlcSnCount snLength]
      (rlcStatusWriteStart win snLength)).nackCount :=
    le_nackCount_iterate win snLength h.slot_vrR rfl hlt 16
  have hends : rlcStatusWriteEnds win ((rlcStatusWriteNext win snLength)^[16 * rlcSnCount snLength]
      (rlcStatusWriteStart win snLength)) = true := by
    simp [rlcStatusWriteEnds, hcount]
  obtain ⟨fuel, hsome⟩ := (Loop.exists_run_isSome_iff (rlcStatusWriteNext win snLength)
    (rlcStatusWriteEnds win) (rlcStatusWriteStart win snLength)).mpr ⟨_, hends⟩
  obtain ⟨w, hw⟩ := Option.isSome_iff_exists.mp hsome
  exact ⟨fuel, _, _, Option.map_eq_some_iff.mpr ⟨w, hw, rfl⟩⟩

/-! ### The reading side refuses -/

theorem rlcAmProcessStatus_generate {fuel : Nat} {rx : RlcAmRxWindow} {snLength : Byte}
    {pdu received : Memory} {length : Nat}
    (h : rlcAmGenerateStatus fuel rx snLength = some (pdu, length))
    (hreceived : ∀ i < length, received i = pdu i) (tx : RlcAmTxWindow) :
    rlcAmProcessStatus tx received length snLength = (tx, .error .protocol) := by
  obtain ⟨hlength, hcpt⟩ := rlcStatusCpt_generate h
  have hcpt' : rlcStatusCpt received = 4 := by
    rw [← hcpt, rlcStatusCpt, rlcStatusCpt, hreceived 0 (by omega)]
  rw [rlcAmProcessStatus, if_neg (by omega), if_pos]
  rw [hcpt']
  decide

/-- **No status PDU makes the round trip**, whatever the two windows are. -/
theorem not_statusRoundTrip (rx : RlcAmRxWindow) (tx : RlcAmTxWindow) (snLength : Byte) :
    ¬ StatusRoundTrip rx tx snLength := by
  rintro ⟨fuel, pdu, length, hgenerate, received, hreceived, tx', hprocess, -⟩
  rw [rlcAmProcessStatus_generate hgenerate hreceived tx] at hprocess
  cases (Prod.mk.inj hprocess).2

/-- Between two fresh windows of the default size the status PDU is refused. -/
theorem statusRoundTrip_fresh_refused :
    ∃ rx tx, rlcAmInitRxWindow 512 = .ok rx ∧ rlcAmInitTxWindow 512 = .ok tx
      ∧ ∃ fuel pdu length, rlcAmGenerateStatus fuel rx 12 = some (pdu, length)
        ∧ rlcAmProcessStatus tx pdu length 12 = (tx, .error .protocol)
        ∧ ¬ StatusRoundTrip rx tx 12 := by
  have hrx : rlcAmInitRxWindow 512 = .ok _ := dif_pos (by decide)
  have htx : rlcAmInitTxWindow 512 = .ok _ := dif_pos (by decide)
  have hreach : RlcAmRxWindow.Reachable 12 _ := .init hrx
  obtain ⟨fuel, pdu, length, hgenerate⟩ := exists_rlcAmGenerateStatus hreach
  refine ⟨_, _, hrx, htx, fuel, pdu, length, hgenerate,
    rlcAmProcessStatus_generate hgenerate (fun _ _ => rfl) _, ?_⟩
  rintro ⟨fuel', pdu', length', hgenerate', received, hreceived, tx', hprocess, -⟩
  rw [rlcAmProcessStatus_generate hgenerate' hreceived] at hprocess
  cases (Prod.mk.inj hprocess).2

end Uesim
