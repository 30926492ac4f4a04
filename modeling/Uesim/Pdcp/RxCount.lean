import Uesim.Pdcp.TxCount

/-!
# The receive hyper frame number

`pdcp_get_rx_count` counts wraps by comparing each sequence number with the one before it, in the
order of delivery. A PDU that comes late may be from before the last wrap; the number it leaves behind
then makes the next PDU look like a second wrap. Only that can take the hyper frame number too far:
after a PDU of the current frame a wrap is detected only when there is one.
-/

namespace Uesim

open Bytes

def highestCount (counts : List Nat) : Nat := counts.foldl max 0

/-- A receiver after PDUs with these COUNTs; the PDU carries the low part. -/
def pdcpGetRxCountAll (s : Nat) (entity : PdcpEntity) (counts : List Nat) : PdcpEntity :=
  counts.foldl (fun entity count =>
    (pdcpGetRxCount entity (BitVec.ofNat 32 (count % 2 ^ s))).1) entity

theorem highestCount_append (counts : List Nat) (c : Nat) :
    highestCount (counts ++ [c]) = max (highestCount counts) c := by
  simp [highestCount]

theorem pdcpGetRxCountAll_append (s : Nat) (entity : PdcpEntity) (counts : List Nat) (c : Nat) :
    pdcpGetRxCountAll s entity (counts ++ [c])
      = (pdcpGetRxCount (pdcpGetRxCountAll s entity counts) (BitVec.ofNat 32 (c % 2 ^ s))).1 := by
  simp [pdcpGetRxCountAll]

theorem pdcpDetectSnWraparound_iff {s a b : Nat} (hs : IsSnLength s) (ha : a < 2 ^ s)
    (hb : b < 2 ^ s) :
    pdcpDetectSnWraparound (BitVec.ofNat 32 a) (BitVec.ofNat 32 b) (BitVec.ofNat 32 (2 ^ s)) = true
      ↔ 2 ^ s / 2 < a ∧ b < 2 ^ s / 2 ∧ 2 ^ s / 2 < a - b := by
  have hM : 2 ^ s < 2 ^ 32 := hs.snMax_lt
  have hhalf : (BitVec.ofNat 32 (2 ^ s) / 2).toNat = 2 ^ s / 2 := by
    rw [BitVec.toNat_udiv, BitVec.toNat_ofNat, Nat.mod_eq_of_lt hM]
    rfl
  simp only [pdcpDetectSnWraparound, Bool.and_eq_true, decide_eq_true_eq, gt_iff_lt, BitVec.lt_def,
    hhalf, BitVec.toNat_sub, BitVec.toNat_ofNat]
  rw [Nat.mod_eq_of_lt (by omega : a < 2 ^ 32), Nat.mod_eq_of_lt (by omega : b < 2 ^ 32)]
  generalize 2 ^ s = M at *
  omega

/-- The counters of a receiver whose last PDU had COUNT `last` and whose highest one `highest`. -/
structure PdcpEntity.Received (s last highest : Nat) (entity : PdcpEntity) : Prop where
  snMask : entity.snMask = BitVec.ofNat 32 (2 ^ s - 1)
  snMax : entity.snMax = BitVec.ofNat 32 (2 ^ s)
  lastRxSn : entity.lastRxSn = BitVec.ofNat 32 (last % 2 ^ s)
  rxHfn_le : entity.rxHfn.toNat ≤ highest / 2 ^ s

theorem frame_lt_of_wraparound {M last highest c : Nat} (hlast : last ≤ highest)
    (hframe : highest / M ≤ last / M) (hwindow : highest < c + M / 2)
    (hwrap : M / 2 < last % M ∧ c % M < M / 2 ∧ M / 2 < last % M - c % M) :
    highest / M + 1 ≤ c / M := by
  have hsame : last / M = highest / M := le_antisymm (Nat.div_le_div_right hlast) hframe
  by_contra hcontra
  have hle : M * (c / M) ≤ M * (highest / M) := Nat.mul_le_mul_left M (by omega)
  have hc := Nat.div_add_mod c M
  have hl := Nat.div_add_mod last M
  rw [hsame] at hl
  omega

theorem PdcpEntity.Received.getRxCount {s last highest c : Nat} {entity : PdcpEntity}
    (hs : IsSnLength s) (h : entity.Received s last highest) (hhighest : highest < 2 ^ 32)
    (hwrap : pdcpDetectSnWraparound (BitVec.ofNat 32 (last % 2 ^ s)) (BitVec.ofNat 32 (c % 2 ^ s))
      (BitVec.ofNat 32 (2 ^ s)) = true → highest / 2 ^ s + 1 ≤ c / 2 ^ s) :
    (pdcpGetRxCount entity (BitVec.ofNat 32 (c % 2 ^ s))).1.Received s c (max highest c) := by
  have hmask : BitVec.ofNat 32 (c % 2 ^ s) &&& entity.snMask = BitVec.ofNat 32 (c % 2 ^ s) := by
    rw [h.snMask, ofNat_and_mask hs.le, Nat.mod_mod]
  have hkeep : entity.rxHfn.toNat ≤ max highest c / 2 ^ s :=
    h.rxHfn_le.trans (Nat.div_le_div_right (le_max_left _ _))
  simp only [pdcpGetRxCount, hmask]
  by_cases hzero : entity.lastRxSn = 0
  · rw [if_pos hzero]
    exact ⟨h.snMask, h.snMax, rfl, hkeep⟩
  · rw [if_neg hzero]
    rw [← h.lastRxSn, ← h.snMax] at hwrap
    by_cases hdetect : pdcpDetectSnWraparound entity.lastRxSn (BitVec.ofNat 32 (c % 2 ^ s))
        entity.snMax = true
    · rw [if_pos hdetect]
      refine ⟨h.snMask, h.snMax, rfl, ?_⟩
      have hframe := hwrap hdetect
      have hsmall : highest / 2 ^ s < 2 ^ 32 - 1 := by
        have htwo : 2 ≤ 2 ^ s := hs.two_le_snMax
        have := Nat.div_le_div_left htwo (by decide : 0 < 2) (a := highest)
        omega
      have hle := h.rxHfn_le
      calc (entity.rxHfn + 1).toNat = entity.rxHfn.toNat + 1 := by
            rw [BitVec.toNat_add]
            exact Nat.mod_eq_of_lt (by simp; omega)
        _ ≤ c / 2 ^ s := by omega
        _ ≤ max highest c / 2 ^ s := Nat.div_le_div_right (le_max_right _ _)
    · rw [if_neg hdetect]
      exact ⟨h.snMask, h.snMax, rfl, hkeep⟩

theorem received_initSnParams {s : Nat} (hs : IsSnLength s) {entity : PdcpEntity}
    (hlen : entity.snLength = s) : (pdcpInitSnParams entity).Received s 0 0 := by
  subst hlen
  unfold pdcpInitSnParams
  rcases hs with h | h | h <;> simp only [h] <;> exact ⟨rfl, rfl, rfl, Nat.zero_le _⟩

section Run

variable {s : Nat} {entity : PdcpEntity} {counts : List Nat}

theorem take_succ_eq {i : Nat} (hi : i < counts.length) :
    counts.take (i + 1) = counts.take i ++ [counts.getD i 0] := by
  rw [List.take_add_one, List.getElem?_eq_getElem hi, List.getD_eq_getElem _ _ hi]
  rfl

theorem getD_le_highestCount {i : Nat} (hi : i < counts.length) :
    counts.getD i 0 ≤ highestCount (counts.take (i + 1)) := by
  rw [take_succ_eq hi, highestCount_append]
  exact le_max_right _ _

/-- **The receive hyper frame number stays below the truth while no late PDU is taken for a
reference.** Deliveries keep within half the SN space of the highest COUNT so far, in any order. If,
whenever the PDU before is from an earlier frame than the highest so far, no wrap is detected against
it, then after every delivery the hyper frame number is at most that of the highest COUNT. -/
theorem rxHfn_le_highestCount (hs : IsSnLength s) (hlen : entity.snLength = s)
    (hcounts : ∀ c ∈ counts, c < 2 ^ 32)
    (hwindow : ∀ i < counts.length, 0 < i →
      counts.getD i 0 < highestCount (counts.take i) + 2 ^ s / 2
        ∧ highestCount (counts.take i) < counts.getD i 0 + 2 ^ s / 2)
    (hlate : ∀ i < counts.length, i + 1 < counts.length →
      counts.getD i 0 / 2 ^ s < highestCount (counts.take (i + 1)) / 2 ^ s →
      pdcpDetectSnWraparound (BitVec.ofNat 32 (counts.getD i 0 % 2 ^ s))
        (BitVec.ofNat 32 (counts.getD (i + 1) 0 % 2 ^ s)) (BitVec.ofNat 32 (2 ^ s)) = false) :
    ∀ i ≤ counts.length,
      (pdcpGetRxCountAll s (pdcpInitSnParams entity) (counts.take i)).rxHfn.toNat
        ≤ highestCount (counts.take i) / 2 ^ s := by
  have hpos : 0 < 2 ^ s := Nat.two_pow_pos s
  have hcount : ∀ i < counts.length, counts.getD i 0 < 2 ^ 32 := by
    intro i hi
    rw [List.getD_eq_getElem _ _ hi]
    exact hcounts _ (List.getElem_mem hi)
  -- the state after the first delivery and each one that follows
  have hrun : ∀ i, i < counts.length →
      (pdcpGetRxCountAll s (pdcpInitSnParams entity) (counts.take (i + 1))).Received s
          (counts.getD i 0) (highestCount (counts.take (i + 1)))
        ∧ highestCount (counts.take (i + 1)) < 2 ^ 32 := by
    intro i
    induction i with
    | zero =>
        intro hi
        rw [take_succ_eq hi, List.take_zero, pdcpGetRxCountAll_append, highestCount_append]
        refine ⟨(received_initSnParams hs hlen).getRxCount hs (by decide) fun hdetect => ?_,
          max_lt (by decide) (hcount 0 hi)⟩
        rw [pdcpDetectSnWraparound_iff hs (Nat.mod_lt _ hpos) (Nat.mod_lt _ hpos)] at hdetect
        simp at hdetect
    | succ i ih =>
        intro hi
        obtain ⟨hreceived, hhighest⟩ := ih (by omega)
        rw [take_succ_eq hi, pdcpGetRxCountAll_append, highestCount_append]
        refine ⟨hreceived.getRxCount hs hhighest fun hdetect => ?_, max_lt hhighest (hcount _ hi)⟩
        have hwrap := (pdcpDetectSnWraparound_iff hs (Nat.mod_lt _ hpos) (Nat.mod_lt _ hpos)).mp
          hdetect
        by_cases hframe : counts.getD i 0 / 2 ^ s < highestCount (counts.take (i + 1)) / 2 ^ s
        · rw [hlate i (by omega) hi hframe] at hdetect
          cases hdetect
        · exact frame_lt_of_wraparound (getD_le_highestCount (by omega)) (Nat.not_lt.mp hframe)
            (hwindow (i + 1) hi (by omega)).2 hwrap
  intro i hi
  cases i with
  | zero => exact (received_initSnParams hs hlen).rxHfn_le
  | succ i => exact (hrun i (by omega)).1.rxHfn_le

theorem rxHfn_le_highestCount_reordered :
    (pdcpGetRxCountAll 5 (pdcpNewEntity pdcpBearerSrb1 .uplink)
        ([20, 30, 29, 33, 32, 36].take 6)).rxHfn.toNat
      ≤ highestCount ([20, 30, 29, 33, 32, 36].take 6) / 2 ^ 5 :=
  rxHfn_le_highestCount (.inl rfl) rfl (by decide) (by decide) (by decide) 6 (by decide)

/-- COUNT 31 comes after COUNT 33, and COUNT 34 then counts as a second wrap. -/
theorem rxHfn_late_before_wrap :
    ¬ ∀ counts : List Nat, (∀ c ∈ counts, c < 2 ^ 32) →
      (∀ i < counts.length, 0 < i →
        counts.getD i 0 < highestCount (counts.take i) + 2 ^ 5 / 2
          ∧ highestCount (counts.take i) < counts.getD i 0 + 2 ^ 5 / 2) →
      ∀ i ≤ counts.length,
        (pdcpGetRxCountAll 5 (pdcpNewEntity pdcpBearerSrb1 .uplink) (counts.take i)).rxHfn.toNat
          ≤ highestCount (counts.take i) / 2 ^ 5 := by
  intro h
  exact absurd (h [20, 30, 33, 31, 34] (by decide) (by decide) 5 (by decide)) (by decide)

end Run

end Uesim
