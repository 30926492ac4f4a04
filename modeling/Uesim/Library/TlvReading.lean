import Uesim.Library.Reading
import Uesim.Library.Tlv

/-!
# Walking over elements in memory

A walk over elements with a type and a length that reads them where they lie. It stops where less than a
header is left or a length goes past the end. If what is done with an element reads no more than the element,
the walk reads nothing behind the end, whatever the lengths are, and it ends.
-/

namespace Tlv

open Bytes BitMemory Reading

variable {σ : Type}

/-- A number of so many bytes, the highest first. -/
def readNumber (w start len : Nat) : Reading (BitVec w) := do
  let number ← bytes start len
  pure (beValue w number)

theorem run_readNumber {list : List Byte} (w : Nat) {start len : Nat} (h : start + len ≤ list.length) :
    (readNumber w start len).run (ofBytes list) = beValue w ((list.drop start).take len) := by
  rw [readNumber, run_bind, run_bytes_ofBytes h, run_pure]

/-- A number inside a content. -/
theorem run_readNumber_content {list : List Byte} (w : Nat) {start len i n : Nat}
    (hcontent : start + len ≤ list.length) (h : i + n ≤ len) :
    (readNumber w (start + i) n).run (ofBytes list)
      = beValue w ((((list.drop start).take len).drop i).take n) := by
  rw [run_readNumber w (by omega), List.drop_take, List.take_take, List.drop_drop,
    Nat.min_eq_left (by omega)]

theorem within_readNumber (mem : Memory) (w : Nat) {start len limit : Nat} (h : start + len ≤ limit) :
    (readNumber w start len).Within mem limit :=
  within_bind.mpr ⟨within_bytes.mpr (.inr h), within_pure _ _ _⟩

/-- `visit` is given the type of an element and where its content is. -/
def readWalk (visit : σ → BitVec 16 → Nat → Nat → Reading σ) (length : Nat) :
    Nat → Nat → σ → Reading (Option σ)
  | 0, _, _ => pure none
  | rounds + 1, offset, s =>
      if offset + 4 ≤ length then do
        let type ← readNumber 16 offset 2
        let len ← readNumber 16 (offset + 2) 2
        if length < offset + 4 + len.toNat then pure (some s)
        else do
          let next ← visit s type (offset + 4) len.toNat
          readWalk visit length rounds (offset + 4 + len.toNat) next
      else pure (some s)

theorem walk_of_short {list : List Byte} (h : list.length < 4) : walk list = [] := by
  match list, h with
  | [], _ => exact walk_nil
  | [_], _ | [_, _], _ | [_, _, _], _ => rw [walk]; simp

/-- The walk over what lies from a place on, where there is a header. -/
theorem walk_drop {list : List Byte} {offset : Nat} (h : offset + 4 ≤ list.length) :
    walk (list.drop offset)
      = let len := (beValue 16 ((list.drop (offset + 2)).take 2)).toNat
        if list.length < offset + 4 + len then []
        else (beValue 16 ((list.drop offset).take 2), (list.drop (offset + 4)).take len)
          :: walk (list.drop (offset + 4 + len)) := by
  obtain ⟨type₁, type₀, len₁, len₀, rest, hdrop⟩ :
      ∃ type₁ type₀ len₁ len₀ rest, list.drop offset = type₁ :: type₀ :: len₁ :: len₀ :: rest := by
    have hlength := List.length_drop (i := offset) (l := list)
    match list.drop offset, hlength with
    | type₁ :: type₀ :: len₁ :: len₀ :: rest, _ => exact ⟨type₁, type₀, len₁, len₀, rest, rfl⟩
    | [], hshort | [_], hshort | [_, _], hshort | [_, _, _], hshort => simp at hshort; omega
  have hlen : list.drop (offset + 2) = len₁ :: len₀ :: rest := by rw [← List.drop_drop, hdrop]; rfl
  have hrest : list.drop (offset + 4) = rest := by rw [← List.drop_drop, hdrop]; rfl
  have hlength : rest.length = list.length - (offset + 4) := by rw [← hrest, List.length_drop]
  have hfits : (beValue 16 [len₁, len₀]).toNat ≤ rest.length
      ↔ ¬list.length < offset + 4 + (beValue 16 [len₁, len₀]).toNat := by omega
  rw [hdrop, walk, hlen, hrest]
  dsimp only [List.take_succ_cons, List.take_zero]
  rw [if_congr hfits rfl rfl, ite_not, ← List.drop_drop, hrest]

section Walks

variable {visit : σ → BitVec 16 → Nat → Nat → Reading σ}

/-- **A walk goes on to every element that is there, and ends.** -/
theorem run_readWalk {list : List Byte} {f : σ → BitVec 16 × List Byte → σ}
    (hvisit : ∀ s type start len, start + len ≤ list.length →
      (visit s type start len).run (ofBytes list) = f s (type, (list.drop start).take len))
    {rounds offset : Nat} (hrounds : list.length < offset + rounds) (hpos : 0 < rounds) (s : σ) :
    (readWalk visit list.length rounds offset s).run (ofBytes list)
      = some ((walk (list.drop offset)).foldl f s) := by
  induction rounds generalizing offset s with
  | zero => exact absurd hpos (Nat.lt_irrefl 0)
  | succ rounds ih =>
      rw [readWalk]
      by_cases hheader : offset + 4 ≤ list.length
      · rw [if_pos hheader, run_bind, run_bind, run_readNumber 16 (by omega),
          run_readNumber 16 (by omega), walk_drop hheader]
        dsimp only
        split
        · rfl
        · rename_i hfits
          rw [run_bind, hvisit _ _ _ _ (by omega), List.foldl_cons]
          exact ih (by omega) (by omega) _
      · rw [if_neg hheader, walk_of_short (by rw [List.length_drop]; omega)]
        rfl

/-- **A walk reads nothing behind the end.** -/
theorem within_readWalk {mem : Memory} {length : Nat}
    (hvisit : ∀ s type start len, start + len ≤ length → (visit s type start len).Within mem length)
    (rounds offset : Nat) (s : σ) : (readWalk visit length rounds offset s).Within mem length := by
  induction rounds generalizing offset s with
  | zero => exact within_pure _ _ _
  | succ rounds ih =>
      rw [readWalk]
      split
      · rw [within_bind, within_bind]
        refine ⟨within_readNumber mem 16 (by omega), within_readNumber mem 16 (by omega), ?_⟩
        split
        · exact within_pure _ _ _
        · rename_i hfits
          exact within_bind.mpr ⟨hvisit _ _ _ _ (by omega), ih _ _⟩
      · exact within_pure _ _ _

end Walks

end Tlv
