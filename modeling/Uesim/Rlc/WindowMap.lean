import Uesim.Library.SlotTable
import Uesim.Rlc.AmTxWindow

/-!
# The windows of acknowledged mode as maps from sequence numbers

Both windows are tables whose slots are sequence numbers modulo the window size, and neither read
compares the sequence number of what it finds. A window that holds a PDU answers for it to every
number of the same residue.
-/

namespace Uesim

open Bytes SlotTable

/-- The transmit windows that initialisation and insertions of these PDUs lead to. -/
inductive RlcAmTxWindow.Filled (snLength : Byte) (windowSize : BitVec 16) :
    RlcAmTxWindow → List RlcPdu → Prop
  | init {win : RlcAmTxWindow} :
      rlcAmInitTxWindow windowSize = .ok win → Filled snLength windowSize win []
  | insert {win next : RlcAmTxWindow} {pdus : List RlcPdu} {pdu : RlcPdu} :
      Filled snLength windowSize win pdus →
      rlcAmTxWindowInsert win pdu snLength = (next, .ok ()) →
      Filled snLength windowSize next (pdus ++ [pdu])

/-- The receive windows that initialisation and insertions of these PDUs lead to. -/
inductive RlcAmRxWindow.Filled (snLength : Byte) (windowSize : BitVec 16) :
    RlcAmRxWindow → List RlcPdu → Prop
  | init {win : RlcAmRxWindow} :
      rlcAmInitRxWindow windowSize = .ok win → Filled snLength windowSize win []
  | insert {fuel : Nat} {win next : RlcAmRxWindow} {pdus : List RlcPdu} {pdu : RlcPdu} :
      Filled snLength windowSize win pdus →
      rlcAmRxWindowInsert fuel win pdu snLength = some (next, .ok ()) →
      Filled snLength windowSize next (pdus ++ [pdu])

/-- The sequence numbers from VT(A) on that the window has room for. -/
def RlcAmTxWindow.Inside (snLength : Byte) (win : RlcAmTxWindow) (sn : BitVec 16) : Prop :=
  ((sn - win.vtA) &&& rlcSnMask snLength).toNat < win.windowSize.toNat

/-- The sequence numbers from VR(R) on that the window has room for. -/
def RlcAmRxWindow.Inside (snLength : Byte) (win : RlcAmRxWindow) (sn : BitVec 16) : Prop :=
  ((sn - win.vrR) &&& rlcSnMask snLength).toNat < win.windowSize.toNat

def rlcSlotOf (windowSize sn : BitVec 16) : Nat := sn.toNat % windowSize.toNat

/-- The sequence numbers of these PDUs have their residues to themselves among numbers below `space`. -/
def SlotsAlone (windowSize : BitVec 16) (space : Nat) (pdus : List RlcPdu) : Prop :=
  ∀ pdu ∈ pdus, pdu.sn.toNat < windowSize.toNat ∧ space ≤ pdu.sn.toNat + windowSize.toNat

instance (windowSize : BitVec 16) (space : Nat) (pdus : List RlcPdu) :
    Decidable (SlotsAlone windowSize space pdus) :=
  inferInstanceAs (Decidable (∀ pdu ∈ pdus, _))

/-! ### What the slots hold -/

theorem rlcAmTxWindowGet_eq (win : RlcAmTxWindow) :
    rlcAmTxWindowGet win = get (rlcSlotOf win.windowSize) win.held := by
  funext sn
  rw [rlcAmTxWindowGet, SlotTable.get, rlcSlotOf, win.held_index]

theorem RlcAmTxWindow.Filled.holds {snLength : Byte} {windowSize : BitVec 16} {win : RlcAmTxWindow}
    {pdus : List RlcPdu} (h : win.Filled snLength windowSize pdus) :
    win.windowSize = windowSize ∧ Holds RlcPdu.sn (rlcSlotOf windowSize) win.held pdus := by
  induction h with
  | @init win hinit =>
      obtain ⟨hsize, -, -⟩ := rlcAmInitTxWindow_spec hinit
      exact ⟨hsize, holds_nil (win.held_init hinit)⟩
  | @insert win next pdus pdu _ hinsert ih =>
      obtain ⟨rfl, hholds⟩ := ih
      rcases rlcAmTxWindowInsert_cases win pdu snLength with hcase | hcase
      · rw [hcase] at hinsert
        cases (Prod.mk.inj hinsert).2
      · rw [hcase] at hinsert
        obtain rfl := (Prod.mk.inj hinsert).1
        refine ⟨rfl, hholds.push pdu ?_ ?_⟩
        · rw [win.held_put, rlcSlotOf, if_pos rfl]
        · intro i hi
          rw [win.held_put]
          exact if_neg hi

theorem RlcAmRxWindow.held_index (win : RlcAmRxWindow) (sn : BitVec 16) :
    win.held (sn.toNat % win.windowSize.toNat) = win.slot (win.index sn) :=
  dif_pos (Nat.mod_lt _ win.windowSize_pos)

theorem rlcAmRxWindowGet_eq (win : RlcAmRxWindow) :
    rlcAmRxWindowGet win = get (rlcSlotOf win.windowSize) win.held := by
  funext sn
  rw [rlcAmRxWindowGet, SlotTable.get, rlcSlotOf, win.held_index]

theorem RlcAmRxWindow.held_put (win : RlcAmRxWindow) (pdu : RlcPdu) (snLength : Byte) (k : Nat) :
    (rlcAmRxWindowPut win pdu snLength).held k
      = if k = rlcSlotOf win.windowSize pdu.sn then pdu :: win.held k else win.held k := by
  unfold held
  by_cases hk : k < win.windowSize.toNat
  · rw [dif_pos hk, dif_pos (show k < (rlcAmRxWindowPut win pdu snLength).windowSize.toNat from hk)]
    change (win.rxWindow.set (win.index pdu.sn) (pdu :: win.slot (win.index pdu.sn))
      (win.index pdu.sn).isLt)[k] = _
    rw [Vector.getElem_set]
    by_cases hi : (win.index pdu.sn : Nat) = k
    · subst hi
      rw [if_pos rfl, if_pos (show (win.index pdu.sn : Nat) = rlcSlotOf win.windowSize pdu.sn from rfl)]
    · rw [if_neg hi, if_neg fun h => hi h.symm]
      rfl
  · have hne : k ≠ rlcSlotOf win.windowSize pdu.sn :=
      fun h => hk (h ▸ Nat.mod_lt _ win.windowSize_pos)
    rw [dif_neg hk, dif_neg (show ¬ k < (rlcAmRxWindowPut win pdu snLength).windowSize.toNat from hk),
      if_neg hne]

theorem RlcAmRxWindow.held_run {snLength : Byte} {fuel : Nat} {win moved : RlcAmRxWindow}
    (h : Loop.run (rlcAmRxAdvance snLength) rlcAmRxAdvanceEnds fuel win = some moved) :
    moved.windowSize = win.windowSize ∧ moved.held = win.held :=
  Loop.run_induction (rlcAmRxAdvance snLength) rlcAmRxAdvanceEnds
    (P := fun moved => moved.windowSize = win.windowSize ∧ moved.held = win.held)
    (fun _ ih => ih) ⟨rfl, rfl⟩ h

theorem RlcAmRxWindow.held_init {windowSize : BitVec 16} {win : RlcAmRxWindow}
    (h : rlcAmInitRxWindow windowSize = .ok win) :
    win.windowSize = windowSize ∧ ∀ k, win.held k = [] := by
  obtain ⟨hsize, -, hslots⟩ := rlcAmInitRxWindow_spec h
  refine ⟨hsize, fun k => ?_⟩
  unfold held
  split
  · exact hslots _
  · rfl

theorem RlcAmRxWindow.Filled.holds {snLength : Byte} {windowSize : BitVec 16} {win : RlcAmRxWindow}
    {pdus : List RlcPdu} (h : win.Filled snLength windowSize pdus) :
    win.windowSize = windowSize ∧ Holds RlcPdu.sn (rlcSlotOf windowSize) win.held pdus := by
  induction h with
  | @init win hinit =>
      obtain ⟨hsize, hheld⟩ := win.held_init hinit
      exact ⟨hsize, holds_nil hheld⟩
  | @insert fuel win next pdus pdu _ hinsert ih =>
      obtain ⟨rfl, hholds⟩ := ih
      rcases rlcAmRxWindowInsert_cases hinsert with ⟨-, hresult⟩ | ⟨hmoved, -⟩
      · cases hresult
      · obtain ⟨hsize, hheld⟩ := RlcAmRxWindow.held_run hmoved
        refine ⟨hsize, ?_⟩
        rw [hheld]
        refine hholds.push pdu ?_ ?_
        · rw [win.held_put, if_pos rfl]
        · intro i hi
          rw [win.held_put, if_neg hi]

/-! ### When a residue belongs to one number -/

theorem alone_iff {windowSize : BitVec 16} {sn : BitVec 16} {space : Nat}
    (hpos : 0 < windowSize.toNat) (hspace : space ≤ 2 ^ 16) (hsn : sn.toNat < space) :
    (∀ k : BitVec 16, k.toNat < space → rlcSlotOf windowSize k = rlcSlotOf windowSize sn → k = sn)
      ↔ sn.toNat < windowSize.toNat ∧ space ≤ sn.toNat + windowSize.toNat := by
  unfold rlcSlotOf
  constructor
  · intro h
    -- a number one window size away would be a second one in the slot
    have hother : ∀ m < space, m % windowSize.toNat = sn.toNat % windowSize.toNat → m = sn.toNat := by
      intro m hm hmod
      have htoNat : (BitVec.ofNat 16 m).toNat = m := by
        rw [BitVec.toNat_ofNat, Nat.mod_eq_of_lt (by omega)]
      have := h (BitVec.ofNat 16 m) (by omega) (by rw [htoNat, hmod])
      rw [← this, htoNat]
    constructor
    · by_contra hge
      have := hother (sn.toNat - windowSize.toNat) (by omega)
        (Nat.mod_eq_sub_mod (by omega)).symm
      omega
    · by_contra hlt
      have := hother (sn.toNat + windowSize.toNat) (by omega) (Nat.add_mod_right _ _)
      omega
  · rintro ⟨hlt, hge⟩ k hk hmod
    apply BitVec.eq_of_toNat_eq
    rw [Nat.mod_eq_of_lt hlt] at hmod
    by_cases hkw : k.toNat < windowSize.toNat
    · rwa [Nat.mod_eq_of_lt hkw] at hmod
    · have hle : k.toNat % windowSize.toNat ≤ k.toNat - windowSize.toNat := by
        rw [Nat.mod_eq_sub_mod (by omega)]
        exact Nat.mod_le _ _
      omega

theorem holds_isMap_iff {windowSize : BitVec 16} (hpos : 0 < windowSize.toNat) {space : Nat}
    (hspace : space ≤ 2 ^ 16) {pdus : List RlcPdu} (hnodup : (pdus.map RlcPdu.sn).Nodup)
    (hsn : ∀ pdu ∈ pdus, pdu.sn.toNat < space) {held : Nat → List RlcPdu}
    (hholds : Holds RlcPdu.sn (rlcSlotOf windowSize) held pdus) (inside : BitVec 16 → Prop) :
    IsMap RlcPdu.sn (get (rlcSlotOf windowSize) held) (fun sn => sn.toNat < space) inside pdus
      ↔ SlotsAlone windowSize space pdus :=
  (hholds.isMap_iff hnodup hsn inside).trans
    (forall₂_congr fun pdu hpdu => alone_iff hpos hspace (hsn pdu hpdu))

theorem RlcAmTxWindow.Filled.isMap_iff {snLength : Byte} {windowSize : BitVec 16}
    {win : RlcAmTxWindow} {space : Nat} {pdus : List RlcPdu}
    (h : win.Filled snLength windowSize pdus) (hspace : space ≤ 2 ^ 16)
    (hnodup : (pdus.map RlcPdu.sn).Nodup) (hsn : ∀ pdu ∈ pdus, pdu.sn.toNat < space) :
    IsMap RlcPdu.sn (rlcAmTxWindowGet win) (fun sn => sn.toNat < space) (win.Inside snLength) pdus
      ↔ SlotsAlone windowSize space pdus := by
  obtain ⟨rfl, hholds⟩ := h.holds
  rw [rlcAmTxWindowGet_eq]
  exact holds_isMap_iff win.windowSize_pos hspace hnodup hsn hholds _

theorem RlcAmRxWindow.Filled.isMap_iff {snLength : Byte} {windowSize : BitVec 16}
    {win : RlcAmRxWindow} {space : Nat} {pdus : List RlcPdu}
    (h : win.Filled snLength windowSize pdus) (hspace : space ≤ 2 ^ 16)
    (hnodup : (pdus.map RlcPdu.sn).Nodup) (hsn : ∀ pdu ∈ pdus, pdu.sn.toNat < space) :
    IsMap RlcPdu.sn (rlcAmRxWindowGet win) (fun sn => sn.toNat < space) (win.Inside snLength) pdus
      ↔ SlotsAlone windowSize space pdus := by
  obtain ⟨rfl, hholds⟩ := h.holds
  rw [rlcAmRxWindowGet_eq]
  exact holds_isMap_iff win.windowSize_pos hspace hnodup hsn hholds _

/-- **A window is a map from the sequence numbers below `space` exactly when no PDU in it has a
sequence number that another number is congruent to.** -/
theorem rlcAmWindowGet_isMap_iff (snLength : Byte) (windowSize : BitVec 16) {space : Nat}
    (hspace : space ≤ 2 ^ 16) {pdus : List RlcPdu} (hnodup : (pdus.map RlcPdu.sn).Nodup)
    (hsn : ∀ pdu ∈ pdus, pdu.sn.toNat < space) :
    (∀ win : RlcAmTxWindow, win.Filled snLength windowSize pdus →
      (IsMap RlcPdu.sn (rlcAmTxWindowGet win) (fun sn => sn.toNat < space) (win.Inside snLength) pdus
        ↔ SlotsAlone windowSize space pdus))
    ∧ ∀ win : RlcAmRxWindow, win.Filled snLength windowSize pdus →
      (IsMap RlcPdu.sn (rlcAmRxWindowGet win) (fun sn => sn.toNat < space) (win.Inside snLength) pdus
        ↔ SlotsAlone windowSize space pdus) :=
  ⟨fun _ h => h.isMap_iff hspace hnodup hsn, fun _ h => h.isMap_iff hspace hnodup hsn⟩

/-- A fresh window takes in every PDU in front of it. -/
theorem exists_filled (snLength : Byte) {windowSize : BitVec 16} (hpos : 0 < windowSize.toNat)
    {pdus : List RlcPdu}
    (hin : ∀ pdu ∈ pdus, ((pdu.sn - 0) &&& rlcSnMask snLength).toInt < (windowSize.toNat : Int)) :
    ∃ win : RlcAmTxWindow, win.Filled snLength windowSize pdus ∧ win.vtA = 0
      ∧ win.windowSize = windowSize := by
  induction pdus using List.reverseRecOn with
  | nil => exact ⟨_, .init (dif_pos hpos), rfl, rfl⟩
  | append_singleton pdus pdu ih =>
      obtain ⟨win, hfilled, hvtA, rfl⟩ := ih fun p hp => hin p (List.mem_append_left _ hp)
      have hroom := hin pdu (List.mem_append_right _ (List.mem_singleton_self _))
      rw [← hvtA] at hroom
      exact ⟨_, .insert hfilled (if_neg (not_le.mpr hroom)), hvtA, rfl⟩

/-- A window as large as the space of sequence numbers, with two PDUs in it. -/
theorem rlcAmWindowGet_isMap_whole :
    ∃ win : RlcAmTxWindow, win.Filled 12 4096 [⟨[1], 5, 0, 0, false⟩, ⟨[2], 4000, 0, 0, true⟩]
      ∧ IsMap RlcPdu.sn (rlcAmTxWindowGet win) (fun sn => sn.toNat < 2 ^ 12) (win.Inside 12)
        [⟨[1], 5, 0, 0, false⟩, ⟨[2], 4000, 0, 0, true⟩] := by
  obtain ⟨win, hfilled, -, -⟩ := exists_filled 12 (show 0 < (4096 : BitVec 16).toNat by decide)
    (show ∀ pdu ∈ [RlcPdu.mk [1] 5 0 0 false, ⟨[2], 4000, 0, 0, true⟩], _ by decide)
  exact ⟨win, hfilled, ((rlcAmWindowGet_isMap_iff 12 4096 (by decide) (by decide) (by decide)).1 win
    hfilled).mpr (by decide)⟩

/-- A window of the default size answers for number 512 with the PDU that has number 0. -/
theorem rlcAmTxWindowGet_not_isMap :
    ∃ win : RlcAmTxWindow, win.Filled 12 512 [⟨[1], 0, 0, 0, false⟩]
      ∧ rlcAmTxWindowGet win 512 = some ⟨[1], 0, 0, 0, false⟩
      ∧ ¬ IsMap RlcPdu.sn (rlcAmTxWindowGet win) (fun sn => sn.toNat < 2 ^ 12) (win.Inside 12)
        [⟨[1], 0, 0, 0, false⟩] := by
  obtain ⟨win, hfilled, -, -⟩ := exists_filled 12 (show 0 < (512 : BitVec 16).toNat by decide)
    (show ∀ pdu ∈ [RlcPdu.mk [1] 0 0 0 false], _ by decide)
  refine ⟨win, hfilled, ?_, ?_⟩
  · obtain ⟨hsize, hholds⟩ := hfilled.holds
    rw [rlcAmTxWindowGet_eq, hsize, SlotTable.get, hholds]
    decide
  · rw [hfilled.isMap_iff (by decide) (by decide) (by decide)]
    decide

end Uesim
