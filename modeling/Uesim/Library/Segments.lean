import Mathlib.Data.List.Basic
import Mathlib.Logic.Nontrivial.Defs

/-!
# Cutting a list into segments

A list is cut into segments of a fixed length, the last of which may be shorter. The segments in order
are the list, and no other sequence of segments is the list for every list of its length.
-/

namespace Segments

variable {α : Type} (k : Nat)

def segment (l : List α) (i : Nat) : List α := (l.drop (i * k)).take k

theorem segment_append_drop (l : List α) (i : Nat) :
    segment k l i ++ l.drop ((i + 1) * k) = l.drop (i * k) := by
  have hdrop : l.drop ((i + 1) * k) = (l.drop (i * k)).drop k := by
    rw [List.drop_drop, Nat.succ_mul]
  rw [segment, hdrop, List.take_append_drop]

theorem flatMap_segment_range' (l : List α) (m count : Nat) :
    (List.range' m count).flatMap (segment k l) ++ l.drop ((m + count) * k) = l.drop (m * k) := by
  induction count generalizing m with
  | zero => simp
  | succ count ih =>
      have hsum : m + (count + 1) = m + 1 + count := by omega
      rw [List.range'_succ, List.flatMap_cons, List.append_assoc, hsum, ih (m + 1),
        segment_append_drop]

/-- **The segments in order are the list.** -/
theorem flatMap_segment {l : List α} {n : Nat} (h : l.length ≤ n * k) :
    (List.range n).flatMap (segment k l) = l := by
  have hall := flatMap_segment_range' k l 0 n
  rwa [Nat.zero_add, List.drop_of_length_le h, List.append_nil, Nat.zero_mul, List.drop_zero,
    ← List.range_eq_range'] at hall

theorem head?_segment {l : List α} {i : Nat} (hk : 0 < k) :
    (segment k l i).head? = l[i * k]? := by
  rw [segment, List.head?_take, if_neg (Nat.ne_of_gt hk), List.head?_drop]

section Reordered

variable [Nontrivial α] {n len : Nat}

variable (α len) in
theorem exists_list_of_place (p : Nat) :
    ∃ l : List α, l.length = len ∧ ∀ q < len, l[p]? = l[q]? → p < len → p = q := by
  obtain ⟨a, b, hne⟩ := exists_pair_ne α
  refine ⟨(List.range len).map fun q => if q = p then a else b, by simp, fun q hq heq hp => ?_⟩
  by_contra hpq
  simp [hp, hq, Ne.symm hpq, hne] at heq

/-- What gives the rest of every list from segment `m` on is the segments from `m` on in order. -/
theorem eq_range'_of_flatMap_segment (hcover : len ≤ n * k) (hinside : ∀ i < n, i * k < len)
    {pattern : List Nat} (hpattern : ∀ i ∈ pattern, i < n) {m : Nat} (hm : m ≤ n)
    (h : ∀ l : List α, l.length = len → pattern.flatMap (segment k l) = l.drop (m * k)) :
    pattern = List.range' m (n - m) := by
  induction pattern generalizing m with
  | nil =>
      obtain ⟨a, -⟩ := exists_pair_ne α
      have hnil := h (List.replicate len a) List.length_replicate
      have hle : len ≤ m * k := by
        have hlength := congrArg List.length hnil.symm
        simp only [List.length_drop, List.length_replicate, List.flatMap_nil, List.length_nil]
          at hlength
        omega
      have hmn : n - m = 0 := by
        by_contra hlt
        exact absurd (hinside m (by omega)) (Nat.not_lt.mpr hle)
      rw [hmn]
      rfl
  | cons i rest ih =>
      have hi : i < n := hpattern i List.mem_cons_self
      have hk : 0 < k := by
        by_contra hzero
        obtain rfl : k = 0 := by omega
        have := hinside i hi
        omega
      have hmlt : m < n := by
        by_contra hge
        obtain ⟨a, -⟩ := exists_pair_ne α
        have hcons := congrArg List.length (h (List.replicate len a) List.length_replicate)
        have hmk : len ≤ m * k := Nat.le_trans hcover (Nat.mul_le_mul_right k (Nat.le_of_not_lt hge))
        have hik := hinside i hi
        simp only [List.flatMap_cons, List.length_append, segment, List.length_take,
          List.length_drop, List.length_replicate] at hcons
        omega
      -- the first segment must begin where the rest begins
      obtain ⟨l, hlen, hplace⟩ := exists_list_of_place α len (i * k)
      have hfirst : l[i * k]? = l[m * k]? := by
        have hhead := congrArg List.head? (h l hlen)
        rw [List.flatMap_cons, List.head?_append, head?_segment k hk, List.head?_drop] at hhead
        have hsome : (l[i * k]?).isSome := by simp [hlen, hinside i hi]
        rwa [Option.or_of_isSome hsome] at hhead
      have hmul := hplace (m * k) (hinside m hmlt) hfirst (hinside i hi)
      obtain rfl : i = m := Nat.eq_of_mul_eq_mul_right hk hmul
      have hrest : ∀ l : List α, l.length = len →
          rest.flatMap (segment k l) = l.drop ((i + 1) * k) := by
        intro l hlen
        have hcons := h l hlen
        rw [List.flatMap_cons, ← segment_append_drop k l i] at hcons
        exact List.append_cancel_left hcons
      have hcount : n - i = (n - (i + 1)) + 1 := by omega
      rw [hcount, List.range'_succ,
        ih (fun j hj => hpattern j (List.mem_cons_of_mem i hj)) hmlt hrest]

/-- **A sequence of segments is the list, whatever the list is, exactly when it is all of them in
order.** -/
theorem reassembles_iff (hcover : len ≤ n * k) (hinside : ∀ i < n, i * k < len)
    {pattern : List Nat} (hpattern : ∀ i ∈ pattern, i < n) :
    (∀ l : List α, l.length = len → pattern.flatMap (segment k l) = l)
      ↔ pattern = List.range n := by
  constructor
  · intro h
    rw [List.range_eq_range']
    apply eq_range'_of_flatMap_segment (α := α) k hcover hinside hpattern (Nat.zero_le n)
    intro l hlen
    rw [h l hlen, Nat.zero_mul, List.drop_zero]
  · rintro rfl l hlen
    exact flatMap_segment k (hlen ▸ hcover)

end Reordered

end Segments
