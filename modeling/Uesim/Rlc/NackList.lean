import Uesim.Rlc.StatusExchange
import Uesim.Rlc.WindowMap

/-!
# The NACK list of a status PDU

The status PDU ought to name the first sixteen sequence numbers from VR(R) up to VR(H) that were not received.
It names the first sixteen whose slot is empty, on the way round from VR(R) to VR(H): a received PDU hides all
numbers of its slot, and when VR(R) has moved past VR(H) the way is nearly the whole circle.
-/

namespace Uesim

open Bytes

/-! ### The NACKs that are written -/

/-- The writer with the sequence numbers of its NACKs so far. -/
structure RlcNackLog where
  writer : RlcStatusWriter
  nacks : List (BitVec 16)

def rlcStatusWriteNextLogged (win : RlcAmRxWindow) (snLength : Byte) (log : RlcNackLog) : RlcNackLog where
  writer := rlcStatusWriteNext win snLength log.writer
  nacks :=
    if win.slot (win.index log.writer.sn) = [] then log.nacks ++ [log.writer.sn] else log.nacks

def rlcNackLogStart (win : RlcAmRxWindow) (snLength : Byte) : RlcNackLog where
  writer := rlcStatusWriteStart win snLength
  nacks := []

/-- `rlc_am_generate_status_pdu` with the sequence numbers for which it writes a NACK. -/
def rlcAmGenerateStatusLogged (fuel : Nat) (win : RlcAmRxWindow) (snLength : Byte) : Option RlcNackLog :=
  Loop.run (rlcStatusWriteNextLogged win snLength) (fun log => rlcStatusWriteEnds win log.writer) fuel
    (rlcNackLogStart win snLength)

theorem map_rlcAmGenerateStatusLogged (fuel : Nat) (win : RlcAmRxWindow) (snLength : Byte) :
    (rlcAmGenerateStatusLogged fuel win snLength).map
        (fun log => (BitMemory.clearBit log.writer.pdu log.writer.bitOffset, (log.writer.bitOffset + 7) / 8))
      = rlcAmGenerateStatus fuel win snLength := by
  have hwriter := Loop.map_run (rlcStatusWriteNext win snLength) (rlcStatusWriteEnds win) RlcNackLog.writer
    (fun log => rfl : ∀ log, (rlcStatusWriteNextLogged win snLength log).writer = _) (fun _ => rfl) fuel
    (rlcNackLogStart win snLength)
  change _ = Option.map _ (Loop.run _ _ fuel (rlcNackLogStart win snLength).writer)
  rw [← hwriter, Option.map_map]
  rfl

/-- The sequence number this far from VR(R). -/
def RlcAmRxWindow.snAt (win : RlcAmRxWindow) (snLength : Byte) (i : Nat) : BitVec 16 :=
  (win.vrR + BitVec.ofNat 16 i) &&& rlcSnMask snLength

/-- The sequence numbers among the first from VR(R) on whose slot is empty. -/
def RlcAmRxWindow.emptyAmong (win : RlcAmRxWindow) (snLength : Byte) (n : Nat) : List (BitVec 16) :=
  ((List.range n).map (win.snAt snLength)).filter fun sn => win.slot (win.index sn) = []

section Log

variable {win : RlcAmRxWindow} {snLength : Byte}

theorem toNat_snAt (i : Nat) :
    (win.snAt snLength i).toNat = (win.vrR.toNat + i) % rlcSnCount snLength := by
  have hdvd := rlcSnCount_dvd snLength
  rw [RlcAmRxWindow.snAt, toNat_and_rlcSnMask, BitVec.toNat_add, BitVec.toNat_ofNat]
  change _ % rlcSnCount snLength = _
  rw [Nat.mod_mod_of_dvd _ hdvd, Nat.add_mod, Nat.mod_mod_of_dvd _ hdvd, ← Nat.add_mod]

theorem emptyAmong_succ (n : Nat) :
    win.emptyAmong snLength (n + 1)
      = if win.slot (win.index (win.snAt snLength n)) = [] then
          win.emptyAmong snLength n ++ [win.snAt snLength n]
        else win.emptyAmong snLength n := by
  rw [RlcAmRxWindow.emptyAmong, List.range_succ, List.map_append, List.filter_append]
  split
  · rename_i h
    simp [RlcAmRxWindow.emptyAmong, h]
  · rename_i h
    simp [RlcAmRxWindow.emptyAmong, h]

theorem length_emptyAmong_succ_le (n : Nat) :
    (win.emptyAmong snLength (n + 1)).length ≤ (win.emptyAmong snLength n).length + 1 := by
  rw [emptyAmong_succ]
  split
  · rw [List.length_append, List.length_singleton]
  · exact Nat.le_succ _

/-- The log after so many rounds of the loop. -/
theorem iterate_writeNextLogged (hvrR : win.VrRInRange snLength) (n : Nat) :
    ((rlcStatusWriteNextLogged win snLength)^[n] (rlcNackLogStart win snLength)).writer.sn
        = win.snAt snLength n
      ∧ ((rlcStatusWriteNextLogged win snLength)^[n] (rlcNackLogStart win snLength)).nacks
        = win.emptyAmong snLength n
      ∧ ((rlcStatusWriteNextLogged win snLength)^[n] (rlcNackLogStart win snLength)).writer.nackCount
        = (win.emptyAmong snLength n).length := by
  have hlt : win.vrR.toNat < rlcSnCount snLength := Nat.lt_succ_of_le hvrR
  have hwriter (n : Nat) :
      ((rlcStatusWriteNextLogged win snLength)^[n] (rlcNackLogStart win snLength)).writer
        = (rlcStatusWriteNext win snLength)^[n] (rlcStatusWriteStart win snLength) :=
    Function.Semiconj.iterate_right (f := RlcNackLog.writer) (fun _ => rfl) n (rlcNackLogStart win snLength)
  have hsn (n : Nat) :
      ((rlcStatusWriteNextLogged win snLength)^[n] (rlcNackLogStart win snLength)).writer.sn
        = win.snAt snLength n := by
    apply BitVec.eq_of_toNat_eq
    rw [hwriter, toNat_iterate_writeNext_sn win snLength hlt, toNat_snAt]
    rfl
  refine ⟨hsn n, ?_⟩
  induction n with
  | zero => exact ⟨rfl, rfl⟩
  | succ n ih =>
      obtain ⟨hnacks, hcount⟩ := ih
      rw [Function.iterate_succ_apply', emptyAmong_succ]
      constructor
      · rw [rlcStatusWriteNextLogged, hsn, hnacks]
      · rw [rlcStatusWriteNextLogged, nackCount_writeNext, hsn, hcount]
        split
        · rw [List.length_append, List.length_singleton]
        · rfl

theorem emptyAmong_begins {m n : Nat} (h : m ≤ n) :
    win.emptyAmong snLength m <+: win.emptyAmong snLength n := by
  induction n, h using Nat.le_induction with
  | base => exact List.prefix_rfl
  | succ n _ ih =>
      refine ih.trans ?_
      rw [emptyAmong_succ]
      split
      · exact List.prefix_append _ _
      · exact List.prefix_rfl

/-- **The NACKs are for the first sixteen empty slots on the way from VR(R) to VR(H).** -/
theorem nacks_rlcAmGenerateStatusLogged (hvrR : win.VrRInRange snLength)
    (hvrH : win.vrH.toNat < rlcSnCount snLength) {fuel : Nat} {log : RlcNackLog}
    (h : rlcAmGenerateStatusLogged fuel win snLength = some log) :
    log.nacks = rlcMissingSns win snLength := by
  set distance := rlcSnOffset snLength win.vrR win.vrH with hdistance
  change log.nacks = (win.emptyAmong snLength distance).take 16
  obtain ⟨n, rfl, hends, hgo⟩ := Loop.exists_first_of_run _ _ h
  obtain ⟨hsn, hnacks, hcount⟩ := iterate_writeNextLogged hvrR n
  -- the test in round `m`
  have htest (m : Nat) : rlcStatusWriteEnds win
      ((rlcStatusWriteNextLogged win snLength)^[m] (rlcNackLogStart win snLength)).writer = true
        ↔ win.snAt snLength m = win.vrH ∨ 16 ≤ (win.emptyAmong snLength m).length := by
    obtain ⟨hsn, -, hcount⟩ := iterate_writeNextLogged hvrR m
    rw [rlcStatusWriteEnds, hsn, hcount, Bool.or_eq_true, beq_iff_eq, decide_eq_true_iff]
  have hreach : win.snAt snLength distance = win.vrH := by
    apply BitVec.eq_of_toNat_eq
    rw [toNat_snAt, add_rlcSnOffset_mod _ hvrH]
  have hle : n ≤ distance := by
    by_contra hlt
    have hnot := hgo distance (Nat.lt_of_not_le hlt)
    exact Bool.eq_false_iff.mp hnot ((htest distance).mpr (.inl hreach))
  have hshort : (win.emptyAmong snLength n).length ≤ 16 := by
    cases n with
    | zero => exact Nat.zero_le 16
    | succ m =>
        have hbefore := mt (htest m).mpr (Bool.eq_false_iff.mp (hgo m (Nat.lt_succ_self m)))
        have hstep := @length_emptyAmong_succ_le win snLength m
        omega
  change ((rlcStatusWriteNextLogged win snLength)^[n] (rlcNackLogStart win snLength)).nacks = _
  rw [hnacks]
  rcases (htest n).mp hends with hend | hfull
  · have heq : n = distance := by
      refine (rlcSnOffset_eq_of_mod (lt_of_le_of_lt hle (rlcSnOffset_lt ..)) ?_).symm
      rw [← toNat_snAt, hend]
    rw [← heq, List.take_of_length_le hshort]
  · obtain ⟨rest, hrest⟩ := @emptyAmong_begins win snLength _ _ hle
    rw [← hrest, List.take_left' (by omega)]

end Log

/-! ### The gaps -/

/-- The sequence numbers from VR(R) up to VR(H), none of them where VR(R) has moved past VR(H). -/
def RlcAmRxWindow.expected (win : RlcAmRxWindow) (snLength : Byte) : List (BitVec 16) :=
  if win.vrR = (win.vrH + 1) &&& rlcSnMask snLength then []
  else (List.range (rlcSnOffset snLength win.vrR win.vrH)).map (win.snAt snLength)

/-- The first sixteen of these that none of the PDUs has. -/
def rlcUnreceivedSns (win : RlcAmRxWindow) (snLength : Byte) (pdus : List RlcPdu) : List (BitVec 16) :=
  ((win.expected snLength).filter fun sn => sn ∉ pdus.map RlcPdu.sn).take 16

/-- A status PDU is written, and the NACKs in it are for the gaps. -/
def RlcAmRxWindow.ReportsGaps (win : RlcAmRxWindow) (snLength : Byte) (pdus : List RlcPdu) : Prop :=
  ∃ fuel log, rlcAmGenerateStatusLogged fuel win snLength = some log
    ∧ ∀ sn, sn ∈ log.nacks ↔ sn ∈ rlcUnreceivedSns win snLength pdus

/-- The first entries that pass a test are the first ones that pass a weaker test exactly when those pass it
as well. -/
theorem mem_take_filter_iff {α : Type} {p q : α → Bool} (hpq : ∀ a, p a = true → q a = true) (l : List α)
    (k : Nat) :
    (∀ a, a ∈ (l.filter p).take k ↔ a ∈ (l.filter q).take k) ↔ ∀ a ∈ (l.filter q).take k, p a = true := by
  constructor
  · intro h a ha
    exact (List.mem_filter.mp (List.mem_of_mem_take ((h a).mpr ha))).2
  · intro h a
    have hfilter : l.filter p = (l.filter q).filter p := by
      rw [List.filter_filter]
      refine List.filter_congr fun a _ => ?_
      cases hp : p a with
      | true => rw [hpq a hp, Bool.and_self]
      | false => rw [Bool.false_and]
    have hkeep : ((l.filter q).take k).filter p = (l.filter q).take k := List.filter_eq_self.mpr h
    have heq : ((l.filter q).filter p).take k = (l.filter q).take k := by
      conv_lhs => rw [← List.take_append_drop k (l.filter q), List.filter_append, hkeep]
      rcases Nat.le_total k (l.filter q).length with hlong | hshort
      · rw [List.take_left' (by rw [List.length_take, Nat.min_eq_left hlong])]
      · rw [List.drop_eq_nil_of_le hshort, List.filter_nil, List.append_nil, List.take_take, Nat.min_self]
    rw [hfilter, heq]

theorem RlcAmRxWindow.Filled.reachable {snLength : Byte} {windowSize : BitVec 16} {win : RlcAmRxWindow}
    {pdus : List RlcPdu} (h : win.Filled snLength windowSize pdus) : win.Reachable snLength := by
  induction h with
  | init hinit => exact .init hinit
  | insert _ hinsert ih => exact .insert ih hinsert

theorem RlcAmRxWindow.Filled.vrH_lt {snLength : Byte} {windowSize : BitVec 16} {win : RlcAmRxWindow}
    {pdus : List RlcPdu} (h : win.Filled snLength windowSize pdus)
    (hsn : ∀ pdu ∈ pdus, pdu.sn.toNat < rlcSnCount snLength) : win.vrH.toNat < rlcSnCount snLength := by
  induction h with
  | init hinit =>
      rw [rlcAmInitRxWindow] at hinit
      split at hinit
      · obtain rfl := Except.ok.inj hinit
        exact Nat.succ_pos _
      · cases hinit
  | @insert fuel win next pdus pdu _ hinsert ih =>
      have hold := ih fun pdu hpdu => hsn pdu (List.mem_append_left _ hpdu)
      have hnew := hsn pdu (List.mem_append_right _ (List.mem_singleton_self pdu))
      rcases rlcAmRxWindowInsert_cases hinsert with ⟨-, hresult⟩ | ⟨hmoved, -⟩
      · cases hresult
      · have hput : (rlcAmRxWindowPut win pdu snLength).vrH.toNat < rlcSnCount snLength := by
          rw [rlcAmRxWindowPut]
          dsimp only
          split
          · exact hnew
          · exact hold
        exact Loop.run_induction (rlcAmRxAdvance snLength) rlcAmRxAdvanceEnds
          (P := fun moved => moved.vrH.toNat < rlcSnCount snLength) (fun _ hmoved => hmoved) hput hmoved

/-- The slot of a sequence number is empty exactly when no received PDU belongs into it. -/
theorem RlcAmRxWindow.Filled.slot_eq_nil_iff {snLength : Byte} {windowSize : BitVec 16} {win : RlcAmRxWindow}
    {pdus : List RlcPdu} (h : win.Filled snLength windowSize pdus) (sn : BitVec 16) :
    win.slot (win.index sn) = [] ↔ ∀ pdu ∈ pdus, win.index pdu.sn ≠ win.index sn := by
  obtain ⟨rfl, hholds⟩ := h.holds
  rw [← win.held_index, hholds, List.reverse_eq_nil_iff, List.filter_eq_nil_iff]
  refine forall₂_congr fun pdu _ => ?_
  rw [decide_eq_true_iff, rlcSlotOf, ← Fin.val_ne_iff]
  rfl

theorem RlcAmRxWindow.Filled.nacks {snLength : Byte} {windowSize : BitVec 16} {win : RlcAmRxWindow}
    {pdus : List RlcPdu} (h : win.Filled snLength windowSize pdus)
    (hsn : ∀ pdu ∈ pdus, pdu.sn.toNat < rlcSnCount snLength) :
    win.ReportsGaps snLength pdus
      ↔ ∀ sn, sn ∈ rlcMissingSns win snLength ↔ sn ∈ rlcUnreceivedSns win snLength pdus := by
  have hnacks {fuel : Nat} {log : RlcNackLog}
      (hlog : rlcAmGenerateStatusLogged fuel win snLength = some log) :
      log.nacks = rlcMissingSns win snLength :=
    nacks_rlcAmGenerateStatusLogged h.reachable.vrRInRange (h.vrH_lt hsn) hlog
  constructor
  · rintro ⟨fuel, log, hlog, hreports⟩
    rwa [hnacks hlog] at hreports
  · intro hreports
    obtain ⟨fuel, pdu, length, hgenerate⟩ := exists_rlcAmGenerateStatus h.reachable
    rw [← map_rlcAmGenerateStatusLogged] at hgenerate
    obtain ⟨log, hlog, -⟩ := Option.map_eq_some_iff.mp hgenerate
    refine ⟨fuel, log, hlog, ?_⟩
    rwa [hnacks hlog]

/-- Where VR(R) is one past VR(H) the way goes once round, and begins with a NACK for VR(R) itself. -/
theorem RlcAmRxWindow.Filled.vrR_mem_missing {snLength : Byte} {windowSize : BitVec 16} {win : RlcAmRxWindow}
    {pdus : List RlcPdu} (h : win.Filled snLength windowSize pdus)
    (hvrH : win.vrH.toNat < rlcSnCount snLength)
    (hpast : win.vrR = (win.vrH + 1) &&& rlcSnMask snLength) : win.vrR ∈ rlcMissingSns win snLength := by
  have hvrR : win.vrR.toNat < rlcSnCount snLength := Nat.lt_succ_of_le h.reachable.vrRInRange
  have hcount : 2 ≤ rlcSnCount snLength := by
    unfold rlcSnCount rlcSnMask
    split <;> decide
  have hnext : win.vrR.toNat = (win.vrH.toNat + 1) % rlcSnCount snLength := by
    rw [← toNat_rlcSnNext, ← hpast]
  have hfar : 1 ≤ rlcSnOffset snLength win.vrR win.vrH := by
    by_contra hzero
    have hsame := add_rlcSnOffset_mod win.vrR hvrH
    rw [Nat.lt_one_iff.mp (Nat.lt_of_not_le hzero), Nat.add_zero, Nat.mod_eq_of_lt hvrR, hnext] at hsame
    rcases Nat.lt_or_ge (win.vrH.toNat + 1) (rlcSnCount snLength) with hlt | hge
    · rw [Nat.mod_eq_of_lt hlt] at hsame
      omega
    · rw [Nat.mod_eq_sub_mod hge, Nat.mod_eq_of_lt (by omega)] at hsame
      omega
  have hfirst : win.snAt snLength 0 = win.vrR := by
    apply BitVec.eq_of_toNat_eq
    rw [toNat_snAt, Nat.add_zero, Nat.mod_eq_of_lt hvrR]
  have hone : win.emptyAmong snLength 1 = [win.vrR] := by
    rw [emptyAmong_succ, hfirst, if_pos h.reachable.slot_vrR]
    rfl
  obtain ⟨rest, hrest⟩ := @emptyAmong_begins win snLength _ _ hfar
  change win.vrR ∈ (win.emptyAmong snLength (rlcSnOffset snLength win.vrR win.vrH)).take 16
  rw [← hrest, hone]
  exact List.mem_cons_self

theorem rlcUnreceivedSns_past {snLength : Byte} {win : RlcAmRxWindow}
    (hpast : win.vrR = (win.vrH + 1) &&& rlcSnMask snLength) (pdus : List RlcPdu) :
    rlcUnreceivedSns win snLength pdus = [] := by
  rw [rlcUnreceivedSns, RlcAmRxWindow.expected, if_pos hpast]
  rfl

theorem RlcAmRxWindow.Filled.not_reportsGaps {snLength : Byte} {windowSize : BitVec 16} {win : RlcAmRxWindow}
    {pdus : List RlcPdu} (h : win.Filled snLength windowSize pdus)
    (hsn : ∀ pdu ∈ pdus, pdu.sn.toNat < rlcSnCount snLength)
    (hpast : win.vrR = (win.vrH + 1) &&& rlcSnMask snLength) : ¬ win.ReportsGaps snLength pdus := by
  intro hreports
  have hmissing := ((h.nacks hsn).mp hreports win.vrR).mp (h.vrR_mem_missing (h.vrH_lt hsn) hpast)
  rw [rlcUnreceivedSns_past hpast] at hmissing
  cases hmissing

/-- **The NACK list reports the gaps exactly when VR(R) has not moved past VR(H), and no gap that it is to
report shares its slot with a received PDU.** -/
theorem reportsGaps_iff {snLength : Byte} {windowSize : BitVec 16} {win : RlcAmRxWindow} {pdus : List RlcPdu}
    (h : win.Filled snLength windowSize pdus) (hsn : ∀ pdu ∈ pdus, pdu.sn.toNat < rlcSnCount snLength) :
    win.ReportsGaps snLength pdus
      ↔ win.vrR ≠ (win.vrH + 1) &&& rlcSnMask snLength
        ∧ ∀ sn ∈ rlcUnreceivedSns win snLength pdus, ∀ pdu ∈ pdus, win.index pdu.sn ≠ win.index sn := by
  rw [h.nacks hsn]
  by_cases hpast : win.vrR = (win.vrH + 1) &&& rlcSnMask snLength
  · exact iff_of_false ((h.nacks hsn).not.mp (h.not_reportsGaps hsn hpast)) fun hgood => hgood.1 hpast
  · rw [and_iff_right hpast]
    have hempty (sn : BitVec 16) : decide (win.slot (win.index sn) = []) = true
        ↔ ∀ pdu ∈ pdus, win.index pdu.sn ≠ win.index sn := by
      rw [decide_eq_true_iff]
      exact h.slot_eq_nil_iff sn
    have hweaker (sn : BitVec 16) (hsn : decide (win.slot (win.index sn) = []) = true) :
        decide (sn ∉ pdus.map RlcPdu.sn) = true := by
      rw [decide_eq_true_iff]
      intro hmem
      obtain ⟨pdu, hpdu, rfl⟩ := List.mem_map.mp hmem
      exact (hempty _).mp hsn pdu hpdu rfl
    have hlists := mem_take_filter_iff hweaker
      ((List.range (rlcSnOffset snLength win.vrR win.vrH)).map (win.snAt snLength)) 16
    rw [rlcUnreceivedSns, RlcAmRxWindow.expected, if_neg hpast]
    exact hlists.trans (forall₂_congr fun sn _ => hempty sn)

/-- The PDU with number 0 is lost, and reported when number 1 has come. -/
theorem reportsGaps_one_lost :
    ∃ win, RlcAmRxWindow.Filled 12 512 win [⟨[1], 1, 0, 0, false⟩]
      ∧ rlcUnreceivedSns win 12 [⟨[1], 1, 0, 0, false⟩] = [0]
      ∧ win.ReportsGaps 12 [⟨[1], 1, 0, 0, false⟩] := by
  obtain ⟨win, hfilled, hpast, hlost, hslots⟩ :
      ∃ win, RlcAmRxWindow.Filled 12 512 win [⟨[1], 1, 0, 0, false⟩]
        ∧ win.vrR ≠ (win.vrH + 1) &&& rlcSnMask 12
        ∧ rlcUnreceivedSns win 12 [⟨[1], 1, 0, 0, false⟩] = [0] ∧ win.index 1 ≠ win.index 0 := by
    have hinit : rlcAmInitRxWindow 512 = .ok _ := dif_pos (by decide)
    exact ⟨_, @RlcAmRxWindow.Filled.insert 12 512 1 _ _ [] _ (.init hinit) (by rfl), by decide, by rfl,
      by decide⟩
  refine ⟨win, hfilled, hlost, (reportsGaps_iff hfilled (by decide)).mpr ⟨hpast, fun sn hsn pdu hpdu => ?_⟩⟩
  rw [hlost, List.mem_singleton] at hsn
  rw [List.mem_singleton] at hpdu
  rw [hsn, hpdu]
  exact hslots

/-- After one PDU in order, with number 0, the numbers from 1 on are reported. -/
theorem not_reportsGaps_in_order :
    ∃ win, RlcAmRxWindow.Filled 12 512 win [⟨[1], 0, 0, 0, false⟩]
      ∧ rlcUnreceivedSns win 12 [⟨[1], 0, 0, 0, false⟩] = []
      ∧ ¬ win.ReportsGaps 12 [⟨[1], 0, 0, 0, false⟩] := by
  obtain ⟨win, hfilled, hpast⟩ : ∃ win, RlcAmRxWindow.Filled 12 512 win [⟨[1], 0, 0, 0, false⟩]
      ∧ win.vrR = (win.vrH + 1) &&& rlcSnMask 12 := by
    have hinit : rlcAmInitRxWindow 512 = .ok _ := dif_pos (by decide)
    exact ⟨_, @RlcAmRxWindow.Filled.insert 12 512 2 _ _ [] _ (.init hinit) (by rfl), by rfl⟩
  exact ⟨win, hfilled, rlcUnreceivedSns_past hpast _, hfilled.not_reportsGaps (by decide) hpast⟩

end Uesim
