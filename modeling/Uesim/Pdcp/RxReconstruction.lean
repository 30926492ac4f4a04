import Uesim.Pdcp.RxCount

/-!
# COUNT from sequence numbers that come in order

Where PDUs are lost but none overtakes another, and fewer than half a sequence number space is lost at a time,
each wrap is seen by the first PDU behind it. The last sequence number and the hyper frame number are then the
two parts of the last COUNT. A last sequence number of zero, which the code takes for none, is harmless: no
wrap comes within half a space behind it.
-/

namespace Uesim

open Bytes

/-- What `pdcp_get_rx_count` returns for PDUs with these COUNTs, each with the hyper frame number that it
leaves. -/
def pdcpRxCounts (s : Nat) (entity : PdcpEntity) : List Nat → List (Nat × Nat)
  | [] => []
  | count :: counts =>
      let received := pdcpGetRxCount entity (BitVec.ofNat 32 (count % 2 ^ s))
      (received.2.toNat, received.1.rxHfn.toNat) :: pdcpRxCounts s received.1 counts

/-- The counters hold the two parts of this COUNT. -/
structure PdcpEntity.HoldsRxCount (s last : Nat) (entity : PdcpEntity) : Prop where
  snMask : entity.snMask = BitVec.ofNat 32 (2 ^ s - 1)
  snMax : entity.snMax = BitVec.ofNat 32 (2 ^ s)
  lastRxSn : entity.lastRxSn = BitVec.ofNat 32 (last % 2 ^ s)
  rxHfn : entity.rxHfn = BitVec.ofNat 32 (last / 2 ^ s)

theorem frame_of_gap {M last c : Nat} (hle : last ≤ c) (hgap : c < last + M / 2) :
    c / M = last / M ∨ c / M = last / M + 1 := by
  have hM : 0 < M := by omega
  have hlow : last / M ≤ c / M := Nat.div_le_div_right hle
  have hhigh : c / M ≤ (last + M) / M := Nat.div_le_div_right (by omega)
  rw [Nat.add_div_right last hM] at hhigh
  omega

/-- Less than half a space ahead, a wrap is detected exactly when there is one. -/
theorem pdcpDetectSnWraparound_ahead_iff {s last c : Nat} (hs : IsSnLength s) (hle : last ≤ c)
    (hgap : c < last + 2 ^ s / 2) :
    pdcpDetectSnWraparound (BitVec.ofNat 32 (last % 2 ^ s)) (BitVec.ofNat 32 (c % 2 ^ s))
        (BitVec.ofNat 32 (2 ^ s)) = true
      ↔ c / 2 ^ s ≠ last / 2 ^ s := by
  have hpos : 0 < 2 ^ s := Nat.two_pow_pos s
  rw [pdcpDetectSnWraparound_iff hs (Nat.mod_lt _ hpos) (Nat.mod_lt _ hpos)]
  have hlast := Nat.div_add_mod last (2 ^ s)
  have hc := Nat.div_add_mod c (2 ^ s)
  have hlastlt := Nat.mod_lt last hpos
  have hclt := Nat.mod_lt c hpos
  rcases frame_of_gap hle hgap with hsame | hnext
  · rw [hsame] at hc
    refine iff_of_false ?_ fun hne => hne hsame
    rintro ⟨hhigh, hlow, -⟩
    omega
  · rw [hnext, Nat.mul_add, Nat.mul_one] at hc
    refine iff_of_true ?_ (by omega)
    omega

/-- Behind a sequence number of zero there is no wrap within half a space. -/
theorem PdcpEntity.HoldsRxCount.frame_of_lastRxSn_eq_zero {s last c : Nat} {entity : PdcpEntity}
    (hs : IsSnLength s) (h : entity.HoldsRxCount s last) (hzero : entity.lastRxSn = 0) (hle : last ≤ c)
    (hgap : c < last + 2 ^ s / 2) : c / 2 ^ s = last / 2 ^ s := by
  have hM := hs.snMax_lt
  have hmod : last % 2 ^ s = 0 := by
    have hsn := congrArg BitVec.toNat (h.lastRxSn.symm.trans hzero)
    rw [BitVec.toNat_ofNat, Nat.mod_eq_of_lt ((Nat.mod_lt last (Nat.two_pow_pos s)).trans hM)] at hsn
    exact hsn
  rcases frame_of_gap hle hgap with hsame | hnext
  · exact hsame
  · have hlast := Nat.div_add_mod last (2 ^ s)
    have hc := Nat.div_add_mod c (2 ^ s)
    rw [hnext, Nat.mul_add, Nat.mul_one] at hc
    omega

/-- What `pdcp_get_rx_count` returns less than half a space ahead, and the counters it leaves. -/
theorem PdcpEntity.HoldsRxCount.getRxCount {s last c : Nat} {entity : PdcpEntity} (hs : IsSnLength s)
    (h : entity.HoldsRxCount s last) (hle : last ≤ c) (hgap : c < last + 2 ^ s / 2) (hc : c < 2 ^ 32) :
    (pdcpGetRxCount entity (BitVec.ofNat 32 (c % 2 ^ s))).2.toNat = c
      ∧ (pdcpGetRxCount entity (BitVec.ofNat 32 (c % 2 ^ s))).1.rxHfn.toNat = c / 2 ^ s
      ∧ (pdcpGetRxCount entity (BitVec.ofNat 32 (c % 2 ^ s))).1.HoldsRxCount s c := by
  have hmask : BitVec.ofNat 32 (c % 2 ^ s) &&& entity.snMask = BitVec.ofNat 32 (c % 2 ^ s) := by
    rw [h.snMask, ofNat_and_mask hs.le, Nat.mod_mod]
  have hhfn : c / 2 ^ s < 2 ^ 32 := lt_of_le_of_lt (Nat.div_le_self c _) hc
  have hcount : BitVec.ofNat 32 (c % 2 ^ s) + BitVec.ofNat 32 (2 ^ s) * BitVec.ofNat 32 (c / 2 ^ s)
      = BitVec.ofNat 32 c := by
    rw [← BitVec.ofNat_mul, ← BitVec.ofNat_add, Nat.mod_add_div]
  have hframe : (if entity.lastRxSn = 0 then entity
      else if pdcpDetectSnWraparound entity.lastRxSn (BitVec.ofNat 32 (c % 2 ^ s)) entity.snMax then
        { entity with rxHfn := entity.rxHfn + 1 }
      else entity) = { entity with rxHfn := BitVec.ofNat 32 (c / 2 ^ s) } := by
    have hdetect := pdcpDetectSnWraparound_ahead_iff hs hle hgap
    rw [← h.lastRxSn, ← h.snMax] at hdetect
    split
    · -- without a last sequence number, the frame has only just begun
      rename_i hzero
      rw [h.frame_of_lastRxSn_eq_zero hs hzero hle hgap, ← h.rxHfn]
    · split
      · rename_i hwrap
        have hnext := (frame_of_gap hle hgap).resolve_left (hdetect.mp hwrap)
        rw [hnext, BitVec.ofNat_add, ← h.rxHfn]
        rfl
      · rename_i hwrap
        have hsame := not_not.mp fun hne => hwrap (hdetect.mpr hne)
        rw [hsame, ← h.rxHfn]
  have hreceived : pdcpGetRxCount entity (BitVec.ofNat 32 (c % 2 ^ s))
      = ({ entity with
            rxHfn := BitVec.ofNat 32 (c / 2 ^ s)
            lastRxSn := BitVec.ofNat 32 (c % 2 ^ s) }, BitVec.ofNat 32 c) := by
    rw [pdcpGetRxCount, hmask]
    rw [hframe, h.snMax, hcount]
  rw [hreceived, BitVec.toNat_ofNat, BitVec.toNat_ofNat, Nat.mod_eq_of_lt hc, Nat.mod_eq_of_lt hhfn]
  exact ⟨rfl, rfl, h.snMask, h.snMax, rfl, rfl⟩

theorem holdsRxCount_initSnParams {s : Nat} (hs : IsSnLength s) {entity : PdcpEntity}
    (hlen : entity.snLength = s) : (pdcpInitSnParams entity).HoldsRxCount s 0 := by
  obtain ⟨hmask, hmax, hlast, hhfn⟩ := received_initSnParams hs hlen
  refine ⟨hmask, hmax, hlast, BitVec.eq_of_toNat_eq ?_⟩
  rw [Nat.zero_div] at hhfn ⊢
  exact Nat.le_zero.mp hhfn

theorem pdcpRxCounts_eq {s last : Nat} {entity : PdcpEntity} (hs : IsSnLength s)
    (h : entity.HoldsRxCount s last) {counts : List Nat} (hcounts : ∀ c ∈ counts, c < 2 ^ 32)
    (hgaps : (last :: counts).IsChain fun a b => a ≤ b ∧ b < a + 2 ^ s / 2) :
    pdcpRxCounts s entity counts = counts.map fun c => (c, c / 2 ^ s) := by
  induction counts generalizing last entity with
  | nil => rfl
  | cons c counts ih =>
      rw [List.isChain_cons_cons] at hgaps
      obtain ⟨⟨hle, hgap⟩, hrest⟩ := hgaps
      obtain ⟨hcount, hhfn, hafter⟩ := h.getRxCount hs hle hgap (hcounts c List.mem_cons_self)
      rw [pdcpRxCounts, List.map_cons, hcount, hhfn]
      rw [ih hafter (fun c' hc' => hcounts c' (List.mem_cons_of_mem c hc')) hrest]

/-- **Over a channel that loses fewer than half a space at a time and keeps the order, every COUNT is
reconstructed.** -/
theorem pdcpRxCounts_initSnParams {s : Nat} (hs : IsSnLength s) {entity : PdcpEntity}
    (hlen : entity.snLength = s) {counts : List Nat} (hcounts : ∀ c ∈ counts, c < 2 ^ 32)
    (hfirst : ∀ c ∈ counts.head?, c < 2 ^ s / 2)
    (hgaps : counts.IsChain fun a b => a < b ∧ b - a < 2 ^ s / 2) :
    pdcpRxCounts s (pdcpInitSnParams entity) counts = counts.map fun c => (c, c / 2 ^ s) := by
  apply pdcpRxCounts_eq hs (holdsRxCount_initSnParams hs hlen) hcounts
  have hchain : counts.IsChain fun a b => a ≤ b ∧ b < a + 2 ^ s / 2 := by
    refine hgaps.imp fun a b hab => ?_
    omega
  cases counts with
  | nil => exact .singleton 0
  | cons c counts =>
      refine List.isChain_cons_cons.mpr ⟨⟨Nat.zero_le c, ?_⟩, hchain⟩
      rw [Nat.zero_add]
      exact hfirst c rfl

/-- Three wraps of five bits, and a COUNT whose sequence number is zero. -/
theorem pdcpRxCounts_three_wraps :
    pdcpRxCounts 5 (pdcpNewEntity pdcpBearerSrb1 .uplink) [7, 20, 32, 40, 55, 69, 84, 97]
      = [(7, 0), (20, 0), (32, 1), (40, 1), (55, 1), (69, 2), (84, 2), (97, 3)] :=
  pdcpRxCounts_initSnParams (.inl rfl) rfl (by decide) (by decide) (by decide)

end Uesim
