import Uesim.Rlc.AmRxWindow

/-!
# The transmit window of acknowledged mode

The same circle of slots as on the receiving side. Here the status PDUs of the peer empty slots again,
one after another from VT(A) on.
-/

namespace Uesim

open Bytes

/-- The slots are as many as the window size says, and there is at least one. -/
structure RlcAmTxWindow where
  windowSize : BitVec 16
  windowSize_pos : 0 < windowSize.toNat
  txWindow : Vector (List RlcPdu) windowSize.toNat
  vtA : BitVec 16
  vtMs : BitVec 16
  vtS : BitVec 16

namespace RlcAmTxWindow

variable (win : RlcAmTxWindow)

def index (sn : BitVec 16) : Fin win.windowSize.toNat :=
  ⟨sn.toNat % win.windowSize.toNat, Nat.mod_lt _ win.windowSize_pos⟩

def slot (i : Fin win.windowSize.toNat) : List RlcPdu := win.txWindow.get i

def setSlot (i : Fin win.windowSize.toNat) (pdus : List RlcPdu) : RlcAmTxWindow :=
  { win with txWindow := win.txWindow.set i pdus i.isLt }

/-- What slot `k` holds; nothing for a number that is no slot. -/
def held (k : Nat) : List RlcPdu :=
  if h : k < win.windowSize.toNat then win.slot ⟨k, h⟩ else []

end RlcAmTxWindow

def rlcAmInitTxWindow (windowSize : BitVec 16) : Except UesimError RlcAmTxWindow :=
  if h : 0 < windowSize.toNat then
    .ok
      { windowSize := windowSize
        windowSize_pos := h
        txWindow := Vector.replicate windowSize.toNat []
        vtA := 0
        vtMs := windowSize
        vtS := 0 }
  else .error .invalidParam

/-- The window with the PDU in its slot and VT(S) behind it. -/
def rlcAmTxWindowPut (win : RlcAmTxWindow) (pdu : RlcPdu) (snLength : Byte) : RlcAmTxWindow :=
  let idx := win.index pdu.sn
  { win.setSlot idx (pdu :: win.slot idx) with vtS := (pdu.sn + 1) &&& rlcSnMask snLength }

def rlcAmTxWindowInsert (win : RlcAmTxWindow) (pdu : RlcPdu) (snLength : Byte) :
    RlcAmTxWindow × Except UesimError Unit :=
  let diff := (pdu.sn - win.vtA) &&& rlcSnMask snLength
  if (win.windowSize.toNat : Int) ≤ diff.toInt then (win, .error .capacity)
  else (rlcAmTxWindowPut win pdu snLength, .ok ())

def rlcAmTxWindowGet (win : RlcAmTxWindow) (sn : BitVec 16) : Option RlcPdu :=
  (win.slot (win.index sn)).head?

/-! ### Slots by number -/

theorem RlcAmTxWindow.held_setSlot (win : RlcAmTxWindow) (i : Fin win.windowSize.toNat)
    (pdus : List RlcPdu) (k : Nat) :
    (win.setSlot i pdus).held k = if k = i then pdus else win.held k := by
  unfold held
  by_cases hk : k < win.windowSize.toNat
  · rw [dif_pos hk, dif_pos (show k < (win.setSlot i pdus).windowSize.toNat from hk)]
    change (win.txWindow.set i pdus i.isLt)[k] = _
    rw [Vector.getElem_set]
    by_cases hi : (i : Nat) = k
    · rw [if_pos hi, if_pos hi.symm]
    · rw [if_neg hi, if_neg (Ne.symm hi)]
      rfl
  · have hne : k ≠ i := fun h => hk (h ▸ i.isLt)
    rw [dif_neg hk, dif_neg (show ¬ k < (win.setSlot i pdus).windowSize.toNat from hk), if_neg hne]

theorem RlcAmTxWindow.held_index (win : RlcAmTxWindow) (sn : BitVec 16) :
    win.held (sn.toNat % win.windowSize.toNat) = win.slot (win.index sn) :=
  dif_pos (Nat.mod_lt _ win.windowSize_pos)

theorem rlcAmInitTxWindow_spec {windowSize : BitVec 16} {win : RlcAmTxWindow}
    (h : rlcAmInitTxWindow windowSize = .ok win) :
    win.windowSize = windowSize ∧ win.vtA = 0 ∧ ∀ i, win.slot i = [] := by
  unfold rlcAmInitTxWindow at h
  split at h
  · obtain rfl := Except.ok.inj h
    exact ⟨rfl, rfl, fun i => Vector.getElem_replicate ..⟩
  · cases h

theorem RlcAmTxWindow.held_init {windowSize : BitVec 16} {win : RlcAmTxWindow}
    (h : rlcAmInitTxWindow windowSize = .ok win) (k : Nat) : win.held k = [] := by
  unfold held
  split
  · exact (rlcAmInitTxWindow_spec h).2.2 _
  · rfl

theorem RlcAmTxWindow.held_put (win : RlcAmTxWindow) (pdu : RlcPdu) (snLength : Byte) (k : Nat) :
    (rlcAmTxWindowPut win pdu snLength).held k
      = if k = pdu.sn.toNat % win.windowSize.toNat then pdu :: win.held k else win.held k := by
  refine (win.held_setSlot (win.index pdu.sn) (pdu :: win.slot (win.index pdu.sn)) k).trans ?_
  by_cases hk : k = pdu.sn.toNat % win.windowSize.toNat
  · refine (if_pos hk).trans (Eq.trans ?_ (if_pos hk).symm)
    rw [hk, win.held_index]
  · exact (if_neg hk).trans (if_neg hk).symm

theorem rlcAmTxWindowInsert_cases (win : RlcAmTxWindow) (pdu : RlcPdu) (snLength : Byte) :
    rlcAmTxWindowInsert win pdu snLength = (win, .error .capacity)
      ∨ rlcAmTxWindowInsert win pdu snLength = (rlcAmTxWindowPut win pdu snLength, .ok ()) := by
  unfold rlcAmTxWindowInsert
  dsimp only
  split
  · exact .inl rfl
  · exact .inr rfl

end Uesim
