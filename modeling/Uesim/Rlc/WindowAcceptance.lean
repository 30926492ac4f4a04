import Uesim.Rlc.AmRelease
import Uesim.Rlc.WindowMap

/-!
# The sequence numbers that the windows of acknowledged mode accept

Insertion takes the distance of a sequence number from the base of the window, keeps sixteen bits of it and
reads these as a signed number. For twelve-bit sequence numbers the sign never shows. For eighteen bits a
distance of 2^15 or more is negative, so the window accepts what is farthest from it, and numbers that are
behind the base as well.
-/

namespace Uesim

open Bytes SlotTable

/-- The sequence numbers that a window has room for, on the circle of the numbers of this length. -/
def RlcInWindow (snLength : Byte) (base windowSize sn : BitVec 16) : Prop :=
  ((sn.toNat : Int) - base.toNat) % 2 ^ snLength.toNat < windowSize.toNat

instance (snLength : Byte) (base windowSize sn : BitVec 16) :
    Decidable (RlcInWindow snLength base windowSize sn) :=
  inferInstanceAs (Decidable (_ < _))

/-- The PDU is put in front of its slot when the window has room for it, and refused when not. -/
structure RlcAmTxWindow.InsertsInside (snLength : Byte) (win : RlcAmTxWindow) (pdu : RlcPdu) : Prop where
  inserted : RlcInWindow snLength win.vtA win.windowSize pdu.sn →
    ∃ next, rlcAmTxWindowInsert win pdu snLength = (next, .ok ())
      ∧ next.held = Function.update win.held (rlcSlotOf win.windowSize pdu.sn)
        (pdu :: win.held (rlcSlotOf win.windowSize pdu.sn))
  refused : ¬ RlcInWindow snLength win.vtA win.windowSize pdu.sn →
    rlcAmTxWindowInsert win pdu snLength = (win, .error .capacity)

/-- The same for the receive window, where insertion has to return as well. -/
structure RlcAmRxWindow.InsertsInside (snLength : Byte) (win : RlcAmRxWindow) (pdu : RlcPdu) : Prop where
  inserted : RlcInWindow snLength win.vrR win.windowSize pdu.sn →
    ∃ fuel next, rlcAmRxWindowInsert fuel win pdu snLength = some (next, .ok ())
      ∧ next.held = Function.update win.held (rlcSlotOf win.windowSize pdu.sn)
        (pdu :: win.held (rlcSlotOf win.windowSize pdu.sn))
  refused : ¬ RlcInWindow snLength win.vrR win.windowSize pdu.sn →
    ∃ fuel, rlcAmRxWindowInsert fuel win pdu snLength = some (win, .error .capacity)

/-- The sequence numbers for which the sixteen signed bits of the distance say where the number is. -/
def RlcSnComparable (snLength : Byte) (base windowSize sn : BitVec 16) : Prop :=
  snLength = 12
    ∨ base.toNat ≤ sn.toNat ∧ sn.toNat - base.toNat < max windowSize.toNat (2 ^ 15)
    ∨ sn.toNat + 2 ^ 15 < base.toNat ∧ base.toNat + windowSize.toNat ≤ sn.toNat + 2 ^ 16

instance (snLength : Byte) (base windowSize sn : BitVec 16) :
    Decidable (RlcSnComparable snLength base windowSize sn) :=
  inferInstanceAs (Decidable (_ ∨ _))

/-! ### The distance -/

/-- A signed number is below a bound also when its top bit is set. -/
theorem toInt_lt_natCast_iff {w : Nat} (x : BitVec (w + 1)) (n : Nat) :
    x.toInt < (n : Int) ↔ 2 ^ w ≤ x.toNat ∨ x.toNat < n := by
  have hx := x.isLt
  rw [Nat.pow_succ] at hx
  rw [BitVec.toInt_eq_toNat_cond, Nat.pow_succ]
  generalize 2 ^ w = half at hx ⊢
  split <;> omega

theorem rlcSnOffset_eq_emod (snLength : Byte) (base sn : BitVec 16) :
    (rlcSnOffset snLength base sn : Int) = ((sn.toNat : Int) - base.toNat) % rlcSnCount snLength := by
  have hdvd := rlcSnCount_dvd snLength
  have hbase := base.isLt
  have hturned : ((2 ^ 16 - base.toNat + sn.toNat : Nat) : Int)
      = ((sn.toNat : Int) - base.toNat) + (2 ^ 16 : Nat) := by omega
  have hzero : ((2 ^ 16 : Nat) : Int) % rlcSnCount snLength = 0 :=
    Int.emod_eq_zero_of_dvd (Int.natCast_dvd_natCast.mpr hdvd)
  rw [rlcSnOffset, toNat_and_rlcSnMask, BitVec.toNat_sub]
  change ((_ % 2 ^ 16 % rlcSnCount snLength : Nat) : Int) = _
  rw [Nat.mod_mod_of_dvd _ hdvd, Int.natCast_emod, hturned, Int.add_emod, hzero, Int.add_zero,
    Int.emod_emod_of_dvd _ (dvd_refl _)]

/-- **The window accepts the right sequence numbers exactly when the distance is comparable.** -/
theorem accepts_iff_inWindow_iff {snLength : Byte} (hsn : snLength = 12 ∨ snLength = 18)
    (base windowSize sn : BitVec 16) :
    (((sn - base) &&& rlcSnMask snLength).toInt < (windowSize.toNat : Int)
        ↔ RlcInWindow snLength base windowSize sn)
      ↔ RlcSnComparable snLength base windowSize sn := by
  have hoffset := rlcSnOffset_eq_emod snLength base sn
  have hsnlt := sn.isLt
  have hbase := base.isLt
  have hsize := windowSize.isLt
  rw [toInt_lt_natCast_iff, RlcInWindow, RlcSnComparable]
  change ((2 ^ 15 ≤ rlcSnOffset snLength base sn ∨ rlcSnOffset snLength base sn < windowSize.toNat) ↔ _) ↔ _
  rcases hsn with rfl | rfl
  · have hcount : rlcSnCount 12 = 4096 := by decide
    have hpow : (2 : Int) ^ (12 : Byte).toNat = 4096 := by decide
    rw [hcount] at hoffset
    rw [hpow]
    have hlt := Int.emod_lt_of_pos ((sn.toNat : Int) - base.toNat) (by decide : (0 : Int) < 4096)
    refine iff_of_true ?_ (.inl rfl)
    omega
  · have hcount : rlcSnCount 18 = 65536 := by decide
    have hpow : (2 : Int) ^ (18 : Byte).toNat = 262144 := by decide
    have hlong : (18 : Byte) ≠ 12 := by decide
    rw [hcount] at hoffset
    rw [hpow, or_iff_right hlong]
    rcases Nat.lt_or_ge sn.toNat base.toNat with hbehind | hahead
    · omega
    · omega

/-- One slot has the PDU in front, and the others are as before. -/
theorem held_eq_update {held next : Nat → List RlcPdu} {k : Nat} {pdu : RlcPdu}
    (h : ∀ i, next i = if i = k then pdu :: held i else held i) :
    next = Function.update held k (pdu :: held k) := by
  funext i
  rw [h, Function.update_apply]
  split
  · rename_i hi
    rw [hi]
  · rfl

/-! ### The transmit window -/

theorem RlcAmTxWindow.insertsInside_iff {snLength : Byte} (hsn : snLength = 12 ∨ snLength = 18)
    (win : RlcAmTxWindow) (pdu : RlcPdu) :
    win.InsertsInside snLength pdu ↔ RlcSnComparable snLength win.vtA win.windowSize pdu.sn := by
  rw [← accepts_iff_inWindow_iff hsn]
  constructor
  · rintro ⟨hinserted, hrefused⟩
    constructor
    · intro haccept
      by_contra hout
      have hinsert := hrefused hout
      rw [rlcAmTxWindowInsert, if_neg (not_le.mpr haccept)] at hinsert
      cases (Prod.mk.inj hinsert).2
    · intro hin
      by_contra hreject
      obtain ⟨next, hinsert, -⟩ := hinserted hin
      rw [rlcAmTxWindowInsert, if_pos (not_lt.mp hreject)] at hinsert
      cases (Prod.mk.inj hinsert).2
  · intro hcompare
    constructor
    · intro hin
      refine ⟨rlcAmTxWindowPut win pdu snLength, if_neg (not_le.mpr (hcompare.mpr hin)), ?_⟩
      exact held_eq_update fun k => win.held_put pdu snLength k
    · intro hout
      exact if_pos (not_lt.mp fun haccept => hout (hcompare.mp haccept))

/-! ### The receive window -/

/-- When every slot has a sequence number, the loop ends as soon as some slot is empty. -/
theorem exists_run_advance_iff_empty {snLength : Byte} {win : RlcAmRxWindow}
    (hsize : win.windowSize.toNat ≤ rlcSnCount snLength) :
    (∃ fuel, (Loop.run (rlcAmRxAdvance snLength) rlcAmRxAdvanceEnds fuel win).isSome)
      ↔ ∃ i, win.slot i = [] := by
  rw [Loop.exists_run_isSome_iff]
  constructor
  · rintro ⟨n, hends⟩
    rw [iterate_rlcAmRxAdvance_slots, List.isEmpty_iff] at hends
    exact ⟨_, hends⟩
  · rintro ⟨i, hempty⟩
    have hmask : i.val ≤ (rlcSnMask snLength).toNat := Nat.lt_succ_iff.mp (lt_of_lt_of_le i.isLt hsize)
    -- after one round VR(R) is in range
    obtain ⟨n, hends⟩ := (Loop.exists_run_isSome_iff _ _ _).mp
      ((exists_run_advance_iff (vrRInRange_advance snLength win)).mpr ⟨i, hmask, hempty⟩)
    exact ⟨n + 1, hends⟩

theorem rlcAmRxWindowInsert_of_accept {snLength : Byte} {win : RlcAmRxWindow} {pdu : RlcPdu}
    (haccept : rlcAmRxOutOfWindow win pdu snLength = false) (fuel : Nat) :
    rlcAmRxWindowInsert fuel win pdu snLength
      = (Loop.run (rlcAmRxAdvance snLength) rlcAmRxAdvanceEnds fuel
          (rlcAmRxWindowPut win pdu snLength)).map fun win => (win, .ok ()) := by
  rw [rlcAmRxWindowInsert, haccept]
  rfl

theorem exists_insert_ok_iff {snLength : Byte} {win : RlcAmRxWindow}
    (hsize : win.windowSize.toNat ≤ rlcSnCount snLength) {pdu : RlcPdu}
    (haccept : rlcAmRxOutOfWindow win pdu snLength = false) :
    (∃ fuel next, rlcAmRxWindowInsert fuel win pdu snLength = some (next, .ok ())
        ∧ next.held = Function.update win.held (rlcSlotOf win.windowSize pdu.sn)
          (pdu :: win.held (rlcSlotOf win.windowSize pdu.sn)))
      ↔ ∃ i, i ≠ win.index pdu.sn ∧ win.slot i = [] := by
  have hput : (∃ i, (rlcAmRxWindowPut win pdu snLength).slot i = [])
      ↔ ∃ i, i ≠ win.index pdu.sn ∧ win.slot i = [] :=
    exists_congr fun i => slot_rlcAmRxWindowPut win pdu snLength i
  have hsize' : (rlcAmRxWindowPut win pdu snLength).windowSize.toNat ≤ rlcSnCount snLength := hsize
  rw [← hput, ← exists_run_advance_iff_empty hsize']
  constructor
  · rintro ⟨fuel, next, hsome, -⟩
    rw [rlcAmRxWindowInsert_of_accept haccept, Option.map_eq_some_iff] at hsome
    obtain ⟨moved, hmoved, -⟩ := hsome
    exact ⟨fuel, Option.isSome_iff_exists.mpr ⟨moved, hmoved⟩⟩
  · rintro ⟨fuel, hsome⟩
    obtain ⟨moved, hmoved⟩ := Option.isSome_iff_exists.mp hsome
    obtain ⟨-, hheld⟩ := RlcAmRxWindow.held_run hmoved
    refine ⟨fuel, moved, by rw [rlcAmRxWindowInsert_of_accept haccept, hmoved]; rfl, ?_⟩
    rw [hheld]
    exact held_eq_update fun k => win.held_put pdu snLength k

theorem RlcAmRxWindow.insertsInside_iff {snLength : Byte} (hsn : snLength = 12 ∨ snLength = 18)
    {win : RlcAmRxWindow} (hsize : win.windowSize.toNat ≤ rlcSnCount snLength) (pdu : RlcPdu) :
    win.InsertsInside snLength pdu
      ↔ RlcSnComparable snLength win.vrR win.windowSize pdu.sn
        ∧ (RlcInWindow snLength win.vrR win.windowSize pdu.sn →
            ∃ i, i ≠ win.index pdu.sn ∧ win.slot i = []) := by
  have hout : rlcAmRxOutOfWindow win pdu snLength = false
      ↔ ((pdu.sn - win.vrR) &&& rlcSnMask snLength).toInt < (win.windowSize.toNat : Int) := by
    rw [rlcAmRxOutOfWindow, decide_eq_false_iff_not, not_le]
  rw [← accepts_iff_inWindow_iff hsn, ← hout]
  constructor
  · rintro ⟨hinserted, hrefused⟩
    have haccept : rlcAmRxOutOfWindow win pdu snLength = false
        ↔ RlcInWindow snLength win.vrR win.windowSize pdu.sn := by
      constructor
      · intro haccept
        by_contra hfar
        obtain ⟨fuel, hinsert⟩ := hrefused hfar
        rw [rlcAmRxWindowInsert_of_accept haccept, Option.map_eq_some_iff] at hinsert
        obtain ⟨moved, -, hresult⟩ := hinsert
        cases (Prod.mk.inj hresult).2
      · intro hin
        obtain ⟨fuel, next, hinsert, -⟩ := hinserted hin
        by_contra hreject
        rw [rlcAmRxWindowInsert, if_pos (Bool.not_eq_false _ ▸ hreject)] at hinsert
        cases (Prod.mk.inj (Option.some.inj hinsert)).2
    exact ⟨haccept, fun hin => (exists_insert_ok_iff hsize (haccept.mpr hin)).mp (hinserted hin)⟩
  · rintro ⟨hcompare, hslots⟩
    constructor
    · intro hin
      exact (exists_insert_ok_iff hsize (hcompare.mpr hin)).mpr (hslots hin)
    · intro hfar
      have hreject : rlcAmRxOutOfWindow win pdu snLength = true :=
        Bool.eq_true_of_not_eq_false fun haccept => hfar (hcompare.mp haccept)
      exact ⟨0, if_pos hreject⟩

/-- **The windows insert what is inside and refuse the rest exactly for comparable sequence numbers.** The
receive window must keep an empty slot as well, since insertion does not return before it comes to one. -/
theorem rlcAmWindows_insertsInside_iff {snLength : Byte} (hsn : snLength = 12 ∨ snLength = 18)
    (pdu : RlcPdu) :
    (∀ win : RlcAmTxWindow, win.windowSize.toNat ≤ 2 ^ (snLength.toNat - 1) →
      (win.InsertsInside snLength pdu ↔ RlcSnComparable snLength win.vtA win.windowSize pdu.sn))
    ∧ ∀ win : RlcAmRxWindow, win.windowSize.toNat ≤ 2 ^ (snLength.toNat - 1) →
      (win.InsertsInside snLength pdu
        ↔ RlcSnComparable snLength win.vrR win.windowSize pdu.sn
          ∧ (RlcInWindow snLength win.vrR win.windowSize pdu.sn →
              ∃ i, i ≠ win.index pdu.sn ∧ win.slot i = [])) := by
  refine ⟨fun win _ => win.insertsInside_iff hsn pdu, fun win hsize => ?_⟩
  refine RlcAmRxWindow.insertsInside_iff hsn ?_ pdu
  rcases hsn with rfl | rfl
  · exact hsize.trans (by decide)
  · exact win.windowSize.isLt.le

/-- Number 1 goes into windows of two. -/
theorem rlcAmWindows_insertsInside_two :
    ∃ tx rx, rlcAmInitTxWindow 2 = .ok tx ∧ rlcAmInitRxWindow 2 = .ok rx
      ∧ tx.InsertsInside 12 ⟨[1], 1, 0, 0, false⟩ ∧ rx.InsertsInside 12 ⟨[1], 1, 0, 0, false⟩ := by
  have htx : rlcAmInitTxWindow 2 = .ok _ := dif_pos (by decide)
  have hrx : rlcAmInitRxWindow 2 = .ok _ := dif_pos (by decide)
  have hinserts := rlcAmWindows_insertsInside_iff (.inl rfl : (12 : Byte) = 12 ∨ _) ⟨[1], 1, 0, 0, false⟩
  exact ⟨_, _, htx, hrx, (hinserts.1 _ (by decide)).mpr (.inl rfl),
    (hinserts.2 _ (by decide)).mpr ⟨.inl rfl, fun _ => ⟨⟨0, by decide⟩, by decide, by rfl⟩⟩⟩

/-- A fresh window of the default size takes number 40000. -/
theorem rlcAmTxWindow_inserts_outside :
    ∃ win, rlcAmInitTxWindow 512 = .ok win
      ∧ ¬ RlcInWindow 18 win.vtA win.windowSize 40000
      ∧ (rlcAmTxWindowInsert win ⟨[1], 40000, 0, 0, false⟩ 18).2 = .ok ()
      ∧ ¬ win.InsertsInside 18 ⟨[1], 40000, 0, 0, false⟩ := by
  have hinit : rlcAmInitTxWindow 512 = .ok _ := dif_pos (by decide)
  refine ⟨_, hinit, by decide, by rfl, ?_⟩
  rw [RlcAmTxWindow.insertsInside_iff (.inr rfl)]
  decide

end Uesim
