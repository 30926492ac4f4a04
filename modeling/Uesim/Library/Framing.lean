import Mathlib.Data.List.Basic

/-!
# Messages in a stream

A message goes into a stream as a header of a fixed size and its data. A reader takes one header's worth of
bytes at a time, and refuses what does not look like a header. What it answers is set against what has been
sent: every message is received, or an error stands for it.
-/

/-- How messages are laid out, and which blocks look like a header. -/
structure Framing (α β : Type) where
  size : Nat
  header : α → List β
  data : α → List β
  IsHeader : List β → Prop
  size_pos : 0 < size
  length_header : ∀ a, (header a).length = size
  isHeader_header : ∀ a, IsHeader (header a)

namespace Framing

variable {α β : Type} (F : Framing α β)

def encode (a : α) : List β := F.header a ++ F.data a

def encodeAll (messages : List α) : List β := messages.flatMap F.encode

/-- Blocks of the size of a header, none of which looks like one. -/
inductive Refused : List β → Prop
  | nil : Refused []
  | block {front rest : List β} (hlength : front.length = F.size) (hfront : ¬F.IsHeader front)
      (hrest : Refused rest) : Refused (front ++ rest)

variable {F} {block bytes junk : List β} {messages : List α} {a : α}

@[simp]
theorem encodeAll_nil : F.encodeAll [] = [] := rfl

theorem encodeAll_cons : F.encodeAll (a :: messages) = F.header a ++ (F.data a ++ F.encodeAll messages) := by
  rw [encodeAll, List.flatMap_cons, encode, List.append_assoc]
  rfl

theorem encodeAll_concat : F.encodeAll (messages ++ [a]) = F.encodeAll messages ++ F.encode a := by
  rw [encodeAll, List.flatMap_append, List.flatMap_singleton]
  rfl

/-- **The next block of a stream is one that is refused, or the header of the next message.** -/
theorem block_cases (hjunk : F.Refused junk) (hlength : block.length = F.size)
    (hbytes : block ++ bytes = junk ++ F.encodeAll messages) :
    (¬F.IsHeader block ∧ ∃ junk', F.Refused junk' ∧ bytes = junk' ++ F.encodeAll messages)
      ∨ ∃ a rest, messages = a :: rest ∧ block = F.header a ∧ bytes = F.data a ++ F.encodeAll rest := by
  cases hjunk with
  | block hfront hrefused hrest =>
      rw [List.append_assoc] at hbytes
      obtain ⟨rfl, rfl⟩ := List.append_inj hbytes (hlength.trans hfront.symm)
      exact .inl ⟨hrefused, _, hrest, rfl⟩
  | nil =>
      cases messages with
      | nil =>
          have hnil : block = [] := (List.append_eq_nil_iff.mp hbytes).1
          rw [hnil] at hlength
          exact absurd hlength (Nat.ne_of_lt F.size_pos)
      | cons a rest =>
          rw [List.nil_append, encodeAll_cons] at hbytes
          obtain ⟨hblock, hrest⟩ := List.append_inj hbytes (hlength.trans (F.length_header a).symm)
          exact .inr ⟨a, rest, rfl, hblock, hrest⟩

theorem length_data_lt_encodeAll (hmem : a ∈ messages) :
    (F.data a).length < (F.encodeAll messages).length := by
  obtain ⟨front, back, rfl⟩ := List.append_of_mem hmem
  have hsize := F.size_pos
  rw [encodeAll, List.flatMap_append, List.flatMap_cons, encode, List.length_append, List.length_append,
    List.length_append, F.length_header]
  omega

end Framing

/-! ### Received or answered by an error -/

/-- Every message has been received, or an error stands for it; other errors may come in between. -/
inductive Accounted {α γ ε : Type} (view : α → γ) : List α → List (Except ε γ) → Prop
  | nil : Accounted view [] []
  | received {sent : List α} {answers : List (Except ε γ)} (h : Accounted view sent answers) (a : α) :
      Accounted view (sent ++ [a]) (answers ++ [.ok (view a)])
  | lost {sent : List α} {answers : List (Except ε γ)} (h : Accounted view sent answers) (a : α) (e : ε) :
      Accounted view (sent ++ [a]) (answers ++ [.error e])
  | error {sent : List α} {answers : List (Except ε γ)} (h : Accounted view sent answers) (e : ε) :
      Accounted view sent (answers ++ [.error e])

namespace Accounted

variable {α γ ε : Type} {view : α → γ} {sent : List α} {answers : List (Except ε γ)}

/-- **What has been received is part of what has been sent, in the same order.** -/
theorem sublist (h : Accounted view sent answers) :
    List.Sublist (answers.filterMap Except.toOption) (sent.map view) := by
  induction h with
  | nil => exact List.Sublist.slnil
  | received _ a ih =>
      rw [List.filterMap_append, List.map_append]
      exact ih.append (List.Sublist.refl [view a])
  | lost _ a e ih =>
      rw [List.filterMap_append, List.map_append]
      exact ih.append (List.nil_sublist [view a])
  | error _ e ih =>
      rw [List.filterMap_append]
      exact (List.append_nil _).symm ▸ ih

/-- An error stands for the message that it has refused, wherever one stops counting. -/
theorem take_lost {count : Nat} (h : Accounted view sent answers)
    (htake : Accounted view (sent.take count) answers) (a : α) (e : ε) :
    Accounted view ((sent ++ [a]).take count) (answers ++ [.error e]) := by
  by_cases hcount : count ≤ sent.length
  · rw [List.take_append_of_le_length hcount]
    exact htake.error e
  · rw [List.take_of_length_le (by rw [List.length_append, List.length_singleton]; omega)]
    exact h.lost a e

theorem take_received {count : Nat} (h : Accounted view sent answers) (hcount : sent.length < count) (a : α) :
    Accounted view ((sent ++ [a]).take count) (answers ++ [.ok (view a)]) := by
  rw [List.take_of_length_le (by rw [List.length_append, List.length_singleton]; omega)]
  exact h.received a

end Accounted
