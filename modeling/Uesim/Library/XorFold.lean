import Mathlib.Data.BitVec
import Mathlib.Dynamics.PeriodicPts.Defs

/-!
# Folding words into a register

A register takes in one word after the other by exclusive or and goes through a map after each. If the map
is linear, what the register held and what was folded in stay apart: each has gone through the map as often
as there were words behind it.
-/

namespace XorFold

variable {w : Nat}

def fold (next : BitVec w → BitVec w) (register : BitVec w) (words : List (BitVec w)) : BitVec w :=
  words.foldl (fun register word => next (register ^^^ word)) register

/-- What is folded into an empty register. -/
def checksum (next : BitVec w → BitVec w) (words : List (BitVec w)) : BitVec w := fold next 0 words

def Linear (next : BitVec w → BitVec w) : Prop := ∀ x y, next (x ^^^ y) = next x ^^^ next y

variable {next : BitVec w → BitVec w}

theorem fold_cons (next : BitVec w → BitVec w) (register word : BitVec w) (words : List (BitVec w)) :
    fold next register (word :: words) = fold next (next (register ^^^ word)) words := rfl

theorem fold_append (next : BitVec w → BitVec w) (register : BitVec w) (words more : List (BitVec w)) :
    fold next register (words ++ more) = fold next (fold next register words) more :=
  List.foldl_append

namespace Linear

theorem zero (h : Linear next) : next 0 = 0 := by
  have hzero := h 0 0
  rwa [BitVec.xor_self, BitVec.xor_self] at hzero

theorem iterate (h : Linear next) (n : Nat) : Linear next^[n] := by
  induction n with
  | zero => exact fun x y => rfl
  | succ n ih =>
      intro x y
      rw [Function.iterate_succ_apply', Function.iterate_succ_apply', Function.iterate_succ_apply', ih, h]

/-- **What is folded in adds up** with what the register held. -/
theorem fold_xor (h : Linear next) (x y : BitVec w) (words : List (BitVec w)) :
    fold next (x ^^^ y) words = next^[words.length] x ^^^ fold next y words := by
  induction words generalizing x y with
  | nil => rfl
  | cons word words ih =>
      rw [fold_cons, fold_cons, BitVec.xor_assoc, h, ih, List.length_cons, Function.iterate_succ_apply]

theorem fold_eq (h : Linear next) (register : BitVec w) (words : List (BitVec w)) :
    fold next register words = next^[words.length] register ^^^ checksum next words := by
  have hregister : register ^^^ 0 = register := BitVec.xor_zero
  have hfold := h.fold_xor register 0 words
  rwa [hregister] at hfold

theorem checksum_append (h : Linear next) (words more : List (BitVec w)) :
    checksum next (words ++ more) = next^[more.length] (checksum next words) ^^^ checksum next more := by
  rw [checksum, fold_append, h.fold_eq]
  rfl

theorem checksum_cons (h : Linear next) (word : BitVec w) (words : List (BitVec w)) :
    checksum next (word :: words) = next^[words.length + 1] word ^^^ checksum next words := by
  have hword : fold next 0 [word] = next word := congrArg next (BitVec.zero_xor)
  rw [← List.singleton_append, h.checksum_append, checksum, hword, Function.iterate_succ_apply]

/-- Zeros are not noticed in front. -/
theorem checksum_zero_cons (h : Linear next) (words : List (BitVec w)) :
    checksum next (0 :: words) = checksum next words := by
  rw [h.checksum_cons, (h.iterate _).zero]
  exact BitVec.zero_xor

end Linear

/-- A map that comes back after `period` steps has gone as far as the remainder says. -/
theorem iterate_mod_eq {period : Nat} (hperiod : ∀ x, next^[period] x = x) (n : Nat) (x : BitVec w) :
    next^[n] x = next^[n % period] x :=
  (Function.IsPeriodicPt.iterate_mod_apply (hperiod x) n).symm

end XorFold
