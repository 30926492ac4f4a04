import Mathlib.Data.List.Infix

/-!
# Streaks

So many copies of one value in a row. A counter that is set back by every other value reaches a number exactly
if the values that it is given, behind those that it has counted, contain such a streak.
-/

namespace Streaks

variable {α : Type} {a b : α} {k n : Nat} {xs : List α}

/-- `n` copies of `a` in a row. -/
def Streak (n : Nat) (a : α) (xs : List α) : Prop := List.replicate n a <:+: xs

instance [DecidableEq α] : Decidable (Streak n a xs) :=
  inferInstanceAs (Decidable (List.replicate n a <:+: xs))

theorem not_streak_replicate (h : k < n) : ¬Streak n a (List.replicate k a) := by
  intro hstreak
  have hlength := hstreak.length_le
  rw [List.length_replicate, List.length_replicate] at hlength
  omega

theorem streak_replicate_append (xs : List α) : Streak n a (List.replicate n a ++ xs) :=
  List.infix_append_left

theorem replicate_append_cons (k : Nat) (a : α) (xs : List α) :
    List.replicate k a ++ a :: xs = List.replicate (k + 1) a ++ xs := by
  rw [List.replicate_succ', List.append_assoc]
  rfl

theorem eq_nil_of_isPrefix {copies : List α} (hcopies : ∀ c ∈ copies, c = a) (hne : b ≠ a)
    (h : copies <+: b :: xs) : copies = [] := by
  rcases List.prefix_cons_iff.mp h with hnil | ⟨rest, rfl, -⟩
  · exact hnil
  · exact absurd (hcopies b List.mem_cons_self) hne

/-- Another value ends what has been counted. -/
theorem streak_replicate_append_cons_iff (hne : b ≠ a) (h : k < n) :
    Streak n a (List.replicate k a ++ b :: xs) ↔ Streak n a xs := by
  have hcopies : ∀ c ∈ List.replicate n a, c = a := fun c hc => List.eq_of_mem_replicate hc
  constructor
  · intro hstreak
    rcases List.infix_append_iff.mp hstreak with hleft | hright | ⟨first, second, hsplit, hsuffix, hprefix⟩
    · exact absurd hleft (not_streak_replicate h)
    · rcases List.infix_cons_iff.mp hright with hprefix | hrest
      · have hnil := congrArg List.length (eq_nil_of_isPrefix hcopies hne hprefix)
        rw [List.length_replicate, List.length_nil] at hnil
        omega
      · exact hrest
    · rw [hsplit] at hcopies
      have hnil := eq_nil_of_isPrefix (fun c hc => hcopies c (List.mem_append_right first hc)) hne hprefix
      rw [hnil, List.append_nil] at hsplit
      rw [← hsplit] at hsuffix
      exact absurd hsuffix.isInfix (not_streak_replicate h)
  · intro hstreak
    exact hstreak.trans (List.infix_append_of_infix_right (List.infix_cons (List.infix_refl xs)))

end Streaks
