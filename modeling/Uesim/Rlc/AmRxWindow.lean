import Uesim.Types
import Uesim.Library.Loop

/-!
# The receive window of acknowledged mode

An array of slots that is used as a circle, and five state variables of sixteen bits. Inserting a PDU
puts it in front of what its slot holds and then moves VR(R) on while the slot it points at is not
empty. Nothing ever empties a slot.
-/

namespace Uesim

open Bytes

structure RlcPdu where
  data : List Byte
  sn : BitVec 16
  fi : Byte
  so : BitVec 16
  isSegment : Bool
  deriving DecidableEq

/-- The slots are as many as the window size says, and there is at least one. -/
structure RlcAmRxWindow where
  windowSize : BitVec 16
  windowSize_pos : 0 < windowSize.toNat
  rxWindow : Vector (List RlcPdu) windowSize.toNat
  vrR : BitVec 16
  vrMr : BitVec 16
  vrX : BitVec 16
  vrMs : BitVec 16
  vrH : BitVec 16

namespace RlcAmRxWindow

variable (win : RlcAmRxWindow)

def index (sn : BitVec 16) : Fin win.windowSize.toNat :=
  ⟨sn.toNat % win.windowSize.toNat, Nat.mod_lt _ win.windowSize_pos⟩

def slot (i : Fin win.windowSize.toNat) : List RlcPdu := win.rxWindow.get i

/-- What slot `k` holds; nothing for a number that is no slot. -/
def held (k : Nat) : List RlcPdu :=
  if h : k < win.windowSize.toNat then win.slot ⟨k, h⟩ else []

end RlcAmRxWindow

def rlcAmInitRxWindow (windowSize : BitVec 16) : Except UesimError RlcAmRxWindow :=
  if h : 0 < windowSize.toNat then
    .ok
      { windowSize := windowSize
        windowSize_pos := h
        rxWindow := Vector.replicate windowSize.toNat []
        vrR := 0
        vrMr := windowSize
        vrX := 0
        vrMs := 0
        vrH := 0 }
  else .error .invalidParam

/-- The mask is a sixteen-bit variable, so of the mask for eighteen bits only sixteen are left. -/
def rlcSnMask (snLength : Byte) : BitVec 16 :=
  if snLength = 12 then 0xfff else (0x3ffff : BitVec 32).setWidth 16

/-- The check for the window compares a signed difference with the window size. -/
def rlcAmRxOutOfWindow (win : RlcAmRxWindow) (pdu : RlcPdu) (snLength : Byte) : Bool :=
  let diff := (pdu.sn - win.vrR) &&& rlcSnMask snLength
  (win.windowSize.toNat : Int) ≤ diff.toInt

/-- The window with the PDU in its slot and VR(H) moved, before VR(R) moves. -/
def rlcAmRxWindowPut (win : RlcAmRxWindow) (pdu : RlcPdu) (snLength : Byte) : RlcAmRxWindow :=
  let idx := win.index pdu.sn
  let diff := (pdu.sn - win.vrH) &&& rlcSnMask snLength
  { win with
    rxWindow := win.rxWindow.set idx (pdu :: win.slot idx) idx.isLt
    vrH := if 0 < diff.toInt ∧ diff.toInt < (win.windowSize.toNat : Int) then pdu.sn else win.vrH }

def rlcAmRxAdvance (snLength : Byte) (win : RlcAmRxWindow) : RlcAmRxWindow :=
  let vrR := (win.vrR + 1) &&& rlcSnMask snLength
  { win with
    vrR := vrR
    vrMr := (vrR + win.windowSize) &&& rlcSnMask snLength }

def rlcAmRxAdvanceEnds (win : RlcAmRxWindow) : Bool := (win.slot (win.index win.vrR)).isEmpty

/-- Insertion on so many evaluations of the loop test; without enough of them it has no result. -/
def rlcAmRxWindowInsert (fuel : Nat) (win : RlcAmRxWindow) (pdu : RlcPdu) (snLength : Byte) :
    Option (RlcAmRxWindow × Except UesimError Unit) :=
  if rlcAmRxOutOfWindow win pdu snLength then some (win, .error .capacity)
  else
    (Loop.run (rlcAmRxAdvance snLength) rlcAmRxAdvanceEnds fuel
      (rlcAmRxWindowPut win pdu snLength)).map fun win => (win, .ok ())

def rlcAmRxWindowGet (win : RlcAmRxWindow) (sn : BitVec 16) : Option RlcPdu :=
  (win.slot (win.index sn)).head?

/-- The windows that initialisation and insertions that return can lead to. -/
inductive RlcAmRxWindow.Reachable (snLength : Byte) : RlcAmRxWindow → Prop
  | init {windowSize : BitVec 16} {win : RlcAmRxWindow} :
      rlcAmInitRxWindow windowSize = .ok win → Reachable snLength win
  | insert {fuel : Nat} {win next : RlcAmRxWindow} {pdu : RlcPdu} {result : Except UesimError Unit} :
      Reachable snLength win → rlcAmRxWindowInsert fuel win pdu snLength = some (next, result) →
      Reachable snLength next

/-! ### Initialisation and insertion -/

theorem rlcAmInitRxWindow_spec {windowSize : BitVec 16} {win : RlcAmRxWindow}
    (h : rlcAmInitRxWindow windowSize = .ok win) :
    win.windowSize = windowSize ∧ win.vrR = 0 ∧ ∀ i, win.slot i = [] := by
  unfold rlcAmInitRxWindow at h
  split at h
  · obtain rfl := Except.ok.inj h
    exact ⟨rfl, rfl, fun i => Vector.getElem_replicate ..⟩
  · cases h

theorem rlcAmRxWindowInsert_cases {fuel : Nat} {win next : RlcAmRxWindow} {pdu : RlcPdu} {snLength : Byte}
    {result : Except UesimError Unit}
    (h : rlcAmRxWindowInsert fuel win pdu snLength = some (next, result)) :
    next = win ∧ result = .error .capacity
      ∨ Loop.run (rlcAmRxAdvance snLength) rlcAmRxAdvanceEnds fuel (rlcAmRxWindowPut win pdu snLength)
          = some next ∧ result = .ok () := by
  unfold rlcAmRxWindowInsert at h
  split at h
  · obtain ⟨rfl, rfl⟩ := Prod.mk.inj (Option.some.inj h)
    exact Or.inl ⟨rfl, rfl⟩
  · obtain ⟨moved, hmoved, heq⟩ := Option.map_eq_some_iff.mp h
    obtain ⟨rfl, rfl⟩ := Prod.mk.inj heq
    exact Or.inr ⟨hmoved, rfl⟩

/-! ### Slots -/

/-- The mask keeps the low bits, so under it a successor is a successor modulo a power of two. -/
theorem toNat_and_rlcSnMask (snLength : Byte) (x : BitVec 16) :
    (x &&& rlcSnMask snLength).toNat = x.toNat % ((rlcSnMask snLength).toNat + 1) := by
  unfold rlcSnMask
  split
  · rw [BitVec.toNat_and]
    exact Nat.and_two_pow_sub_one_eq_mod x.toNat 12
  · rw [BitVec.toNat_and]
    exact Nat.and_two_pow_sub_one_eq_mod x.toNat 16

theorem toNat_rlcAmRxAdvance_vrR (snLength : Byte) (win : RlcAmRxWindow) :
    (rlcAmRxAdvance snLength win).vrR.toNat
      = (win.vrR.toNat + 1) % ((rlcSnMask snLength).toNat + 1) := by
  have hdvd : (rlcSnMask snLength).toNat + 1 ∣ 2 ^ 16 := by
    unfold rlcSnMask
    split <;> decide
  change ((win.vrR + 1) &&& rlcSnMask snLength).toNat = _
  rw [toNat_and_rlcSnMask, BitVec.toNat_add, Nat.mod_mod_of_dvd _ hdvd]
  rfl

def RlcAmRxWindow.VrRInRange (snLength : Byte) (win : RlcAmRxWindow) : Prop :=
  win.vrR.toNat ≤ (rlcSnMask snLength).toNat

theorem vrRInRange_advance (snLength : Byte) (win : RlcAmRxWindow) :
    (rlcAmRxAdvance snLength win).VrRInRange snLength := by
  rw [RlcAmRxWindow.VrRInRange, toNat_rlcAmRxAdvance_vrR]
  exact Nat.lt_succ_iff.mp (Nat.mod_lt _ (Nat.succ_pos _))

theorem RlcAmRxWindow.Reachable.vrRInRange {snLength : Byte} {win : RlcAmRxWindow}
    (h : win.Reachable snLength) : win.VrRInRange snLength := by
  induction h with
  | init hinit =>
      obtain ⟨-, hvrR, -⟩ := rlcAmInitRxWindow_spec hinit
      rw [RlcAmRxWindow.VrRInRange, hvrR]
      exact Nat.zero_le _
  | @insert fuel win next pdu result _ hinsert ih =>
      rcases rlcAmRxWindowInsert_cases hinsert with ⟨rfl, -⟩ | ⟨hmoved, -⟩
      · exact ih
      · have hput : (rlcAmRxWindowPut win pdu snLength).VrRInRange snLength := ih
        exact Loop.run_induction (rlcAmRxAdvance snLength) rlcAmRxAdvanceEnds
          (P := fun win => win.VrRInRange snLength) (fun win _ => vrRInRange_advance snLength win)
          hput hmoved

/-! ### When the loop ends -/

theorem iterate_rlcAmRxAdvance_slots (snLength : Byte) (win : RlcAmRxWindow) (n : Nat) :
    rlcAmRxAdvanceEnds ((rlcAmRxAdvance snLength)^[n] win)
      = (win.slot (win.index ((rlcAmRxAdvance snLength)^[n] win).vrR)).isEmpty := by
  have hframe : ∀ n, ∃ vrR vrMr, (rlcAmRxAdvance snLength)^[n] win
      = { win with vrR := vrR, vrMr := vrMr } := by
    intro n
    induction n with
    | zero => exact ⟨win.vrR, win.vrMr, rfl⟩
    | succ n ih =>
        obtain ⟨vrR, vrMr, h⟩ := ih
        rw [Function.iterate_succ_apply', h]
        exact ⟨_, _, rfl⟩
  obtain ⟨vrR, vrMr, h⟩ := hframe n
  rw [h]
  rfl

theorem toNat_iterate_rlcAmRxAdvance_vrR (snLength : Byte) (win : RlcAmRxWindow) (n : Nat) :
    ((rlcAmRxAdvance snLength)^[n] win).vrR.toNat
      = (fun q => (q + 1) % ((rlcSnMask snLength).toNat + 1))^[n] win.vrR.toNat := by
  induction n with
  | zero => rfl
  | succ n ih =>
      rw [Function.iterate_succ_apply', Function.iterate_succ_apply', ← ih,
        toNat_rlcAmRxAdvance_vrR]

def RlcAmRxWindow.EmptyAt (win : RlcAmRxWindow) (q : Nat) : Prop :=
  win.slot ⟨q % win.windowSize.toNat, Nat.mod_lt _ win.windowSize_pos⟩ = []

theorem exists_run_advance_iff {snLength : Byte} {win : RlcAmRxWindow}
    (hrange : win.VrRInRange snLength) :
    (∃ fuel, (Loop.run (rlcAmRxAdvance snLength) rlcAmRxAdvanceEnds fuel win).isSome)
      ↔ ∃ i : Fin win.windowSize.toNat, i.val ≤ (rlcSnMask snLength).toNat ∧ win.slot i = [] := by
  have hplace : ∀ n, rlcAmRxAdvanceEnds ((rlcAmRxAdvance snLength)^[n] win) = true
      ↔ win.EmptyAt ((fun q => (q + 1) % ((rlcSnMask snLength).toNat + 1))^[n] win.vrR.toNat) := by
    intro n
    rw [iterate_rlcAmRxAdvance_slots, ← toNat_iterate_rlcAmRxAdvance_vrR, List.isEmpty_iff]
    rfl
  calc (∃ fuel, (Loop.run (rlcAmRxAdvance snLength) rlcAmRxAdvanceEnds fuel win).isSome)
      ↔ ∃ n, rlcAmRxAdvanceEnds ((rlcAmRxAdvance snLength)^[n] win) = true :=
        Loop.exists_run_isSome_iff _ _ _
    _ ↔ ∃ n, win.EmptyAt
          ((fun q => (q + 1) % ((rlcSnMask snLength).toNat + 1))^[n] win.vrR.toNat) :=
        exists_congr hplace
    _ ↔ ∃ q < (rlcSnMask snLength).toNat + 1, win.EmptyAt q :=
        Loop.exists_iterate_succ_mod_iff (Nat.lt_succ_of_le hrange) win.EmptyAt
    _ ↔ ∃ i : Fin win.windowSize.toNat, i.val ≤ (rlcSnMask snLength).toNat ∧ win.slot i = [] := by
        constructor
        · rintro ⟨q, hq, hempty⟩
          exact ⟨_, (Nat.mod_le _ _).trans (Nat.le_of_lt_succ hq), hempty⟩
        · rintro ⟨i, hi, hempty⟩
          refine ⟨i.val, Nat.lt_succ_of_le hi, ?_⟩
          simpa [RlcAmRxWindow.EmptyAt, Nat.mod_eq_of_lt i.isLt] using hempty

theorem slot_rlcAmRxWindowPut (win : RlcAmRxWindow) (pdu : RlcPdu) (snLength : Byte)
    (i : Fin win.windowSize.toNat) :
    (rlcAmRxWindowPut win pdu snLength).slot i = [] ↔ i ≠ win.index pdu.sn ∧ win.slot i = [] := by
  change (win.rxWindow.set (win.index pdu.sn) (pdu :: win.slot (win.index pdu.sn))
    (win.index pdu.sn).isLt)[i.val] = [] ↔ _
  rw [Vector.getElem_set]
  by_cases h : i = win.index pdu.sn
  · simp [h]
  · rw [if_neg fun heq => h (Fin.ext heq.symm)]
    simp only [ne_eq, h, not_false_eq_true, true_and]
    rfl

theorem exists_insert_isSome_iff {snLength : Byte} {win : RlcAmRxWindow}
    (hrange : win.VrRInRange snLength) (pdu : RlcPdu) :
    (∃ fuel, (rlcAmRxWindowInsert fuel win pdu snLength).isSome)
      ↔ rlcAmRxOutOfWindow win pdu snLength = true
        ∨ ∃ i : Fin win.windowSize.toNat, i.val ≤ (rlcSnMask snLength).toNat
          ∧ i ≠ win.index pdu.sn ∧ win.slot i = [] := by
  by_cases hout : rlcAmRxOutOfWindow win pdu snLength = true
  · simp [rlcAmRxWindowInsert, hout]
  · have hput : (rlcAmRxWindowPut win pdu snLength).VrRInRange snLength := hrange
    have hloop := (exists_run_advance_iff hput).trans (exists_congr fun i =>
      and_congr_right fun _ => slot_rlcAmRxWindowPut win pdu snLength i)
    simp only [rlcAmRxWindowInsert, hout, Bool.false_eq_true, ↓reduceIte, Option.isSome_map,
      false_or]
    exact hloop

/-- **Insertion terminates exactly when it refuses the PDU or leaves a slot empty.** The slot must be
one that the loop can come to, and not the one the PDU goes to. -/
theorem rlcAmRxWindowInsert_terminates_iff {snLength : Byte} (hsn : snLength = 12 ∨ snLength = 18)
    {win : RlcAmRxWindow} (hreach : win.Reachable snLength) (pdu : RlcPdu) :
    (∃ fuel, (rlcAmRxWindowInsert fuel win pdu snLength).isSome)
      ↔ rlcAmRxOutOfWindow win pdu snLength = true
        ∨ ∃ i : Fin win.windowSize.toNat, i.val ≤ (if snLength = 12 then 0xfff else 0xffff)
          ∧ i ≠ win.index pdu.sn ∧ win.slot i = [] := by
  have hmask : (rlcSnMask snLength).toNat = if snLength = 12 then 0xfff else 0xffff := by
    rcases hsn with rfl | rfl <;> decide
  rw [← hmask]
  exact exists_insert_isSome_iff hreach.vrRInRange pdu

theorem rlcAmRxWindowInsert_terminates_two :
    ∃ win, rlcAmInitRxWindow 2 = .ok win
      ∧ ∃ fuel, (rlcAmRxWindowInsert fuel win ⟨[1], 0, 0, 0, false⟩ 12).isSome := by
  have hinit : rlcAmInitRxWindow 2 = .ok _ := rfl
  exact ⟨_, hinit, (rlcAmRxWindowInsert_terminates_iff (.inl rfl) (.init hinit) _).mpr
    (.inr ⟨⟨1, by decide⟩, by decide, by decide, rfl⟩)⟩

/-- The first PDU into a window of one fills it. -/
theorem rlcAmRxWindowInsert_diverges_one :
    ∃ win, rlcAmInitRxWindow 1 = .ok win
      ∧ ¬ ∃ fuel, (rlcAmRxWindowInsert fuel win ⟨[1], 0, 0, 0, false⟩ 12).isSome := by
  refine ⟨_, rfl, ?_⟩
  rw [exists_insert_isSome_iff (Nat.zero_le _)]
  rintro (hout | ⟨i, -, hi, -⟩)
  · exact absurd hout (by decide)
  · exact hi (Subsingleton.elim (α := Fin 1) i _)

end Uesim
