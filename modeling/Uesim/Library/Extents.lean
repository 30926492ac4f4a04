import Mathlib.Data.List.Chain
import Mathlib.Data.Set.Lattice
import Mathlib.Order.CompletePartialOrder

/-!
# Extents behind one another

Writers with a common cursor: each starts where the one before it has stopped and occupies some positions
from there on. They occupy different positions unless one of them occupies the position at which it leaves
the cursor.
-/

namespace Extents

/-- What a writer that moves the cursor from `start` to `stop` may occupy. It occupies the first position
if it occupies any, and positions behind the cursor only if it occupies that of the cursor. -/
structure IsExtent (start stop : Nat) (region : Set Nat) : Prop where
  start_le_stop : start ≤ stop
  start_le : ∀ pos ∈ region, start ≤ pos
  start_mem : region.Nonempty → start ∈ region
  stop_eq : region = ∅ → stop = start
  lt_stop : stop ∉ region → ∀ pos ∈ region, pos < stop

variable {α : Type} {start stop : α → Nat} {region : α → Set Nat}

theorem stop_le_of_mem {a : α} {l : List α}
    (h : ∀ b ∈ a :: l, IsExtent (start b) (stop b) (region b))
    (hchain : (a :: l).IsChain fun b c => stop b = start c) : ∀ b ∈ l, stop a ≤ start b := by
  induction l generalizing a with
  | nil => exact fun b hb => absurd hb List.not_mem_nil
  | cons next rest ih =>
      obtain ⟨hnext, hrest⟩ := List.isChain_cons_cons.mp hchain
      have hrest' : ∀ b ∈ next :: rest, IsExtent (start b) (stop b) (region b) := fun b hb =>
        h b (List.mem_cons_of_mem a hb)
      intro b hb
      rcases List.mem_cons.mp hb with rfl | hb
      · exact Nat.le_of_eq hnext
      · calc stop a = start next := hnext
          _ ≤ stop next := (hrest' next List.mem_cons_self).start_le_stop
          _ ≤ start b := ih hrest' hrest b hb

/-- The first writer that occupies anything occupies the position that all of them start from. -/
theorem eq_empty_of_stop_not_mem {a : α} {l : List α}
    (h : ∀ b ∈ a :: l, IsExtent (start b) (stop b) (region b))
    (hchain : (a :: l).IsChain fun b c => stop b = start c) (hstop : ∀ b ∈ l, stop a ∉ region b) :
    ∀ b ∈ l, region b = ∅ := by
  induction l generalizing a with
  | nil => exact fun b hb => absurd hb List.not_mem_nil
  | cons next rest ih =>
      obtain ⟨hnext, hrest⟩ := List.isChain_cons_cons.mp hchain
      have hrest' : ∀ b ∈ next :: rest, IsExtent (start b) (stop b) (region b) := fun b hb =>
        h b (List.mem_cons_of_mem a hb)
      have hextent := hrest' next List.mem_cons_self
      have hempty : region next = ∅ := by
        rw [← Set.not_nonempty_iff_eq_empty]
        intro hnonempty
        exact hstop next List.mem_cons_self (hnext ▸ hextent.start_mem hnonempty)
      have hsame : stop next = stop a := (hextent.stop_eq hempty).trans hnext.symm
      intro b hb
      rcases List.mem_cons.mp hb with rfl | hb
      · exact hempty
      · exact ih hrest' hrest (fun b hb => hsame ▸ hstop b (List.mem_cons_of_mem next hb)) b hb

/-- **Writers in a chain occupy different positions exactly when nothing is written behind one that
occupies the position where it leaves the cursor.** -/
theorem pairwise_disjoint_iff {l : List α} (h : ∀ a ∈ l, IsExtent (start a) (stop a) (region a))
    (hchain : l.IsChain fun a b => stop a = start b) :
    l.Pairwise (fun a b => Disjoint (region a) (region b))
      ↔ l.Pairwise (fun a b => stop a ∈ region a → region b = ∅) := by
  induction l with
  | nil => simp only [List.Pairwise.nil]
  | cons a l ih =>
      rw [List.pairwise_cons, List.pairwise_cons,
        ih (fun b hb => h b (List.mem_cons_of_mem a hb)) hchain.tail]
      refine and_congr_left fun _ => ⟨fun hdisjoint => ?_, fun hempty b hb => ?_⟩
      · intro b hb hspills
        exact eq_empty_of_stop_not_mem h hchain
          (fun b hb => Set.disjoint_left.mp (hdisjoint b hb) hspills) b hb
      · by_cases hspills : stop a ∈ region a
        · rw [hempty b hb hspills]
          exact Set.disjoint_empty _
        · rw [Set.disjoint_left]
          intro pos hpos hpos'
          have hbefore : pos < stop a := (h a List.mem_cons_self).lt_stop hspills pos hpos
          have hbehind : stop a ≤ pos := by
            calc stop a ≤ start b := stop_le_of_mem h hchain b hb
              _ ≤ pos := (h b (List.mem_cons_of_mem a hb)).start_le pos hpos'
          exact Nat.not_lt.mpr hbehind hbefore

end Extents
