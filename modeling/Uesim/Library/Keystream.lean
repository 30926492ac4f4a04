import Uesim.Library.Bytes

/-!
# Word-oriented keystream generators

A generator hands out one word at a time. Two uses of it are developed here: exclusive or of the
keystream into a byte string, word by word with a short tail, and a tag that folds message words and
keystream words into one accumulator. The first is its own inverse and, on zero input, shows the
keystream itself. The second keeps nothing of the message but the number of its words and their
exclusive or.
-/

namespace Keystream

open Bytes

variable {σ τ : Type} (gen : σ → Word × σ) (gen' : τ → Word × τ)

def word (s : σ) (k : Nat) : Word := (gen ((fun s => (gen s).2)^[k] s)).1

theorem word_zero (s : σ) : word gen s 0 = (gen s).1 := rfl

theorem word_succ (s : σ) (k : Nat) : word gen s (k + 1) = word gen (gen s).2 k := rfl

/-- Exclusive or of a byte string with the keystream. A tail of fewer than four bytes takes the
leading bytes of one more keystream word. -/
def xorStream : σ → List Byte → List Byte
  | s, b0 :: b1 :: b2 :: b3 :: rest =>
      leBytes (leWord b0 b1 b2 b3 ^^^ (gen s).1) ++ xorStream (gen s).2 rest
  | _, [] => []
  | s, tail => tail.zipWith (· ^^^ ·) (leBytes (gen s).1)

theorem xorStream_cons (s : σ) (b0 b1 b2 b3 : Byte) (rest : List Byte) :
    xorStream gen s (b0 :: b1 :: b2 :: b3 :: rest)
      = (b0 ^^^ byteOf (gen s).1 0) :: (b1 ^^^ byteOf (gen s).1 1) :: (b2 ^^^ byteOf (gen s).1 2)
        :: (b3 ^^^ byteOf (gen s).1 3) :: xorStream gen (gen s).2 rest := by
  simp [xorStream, leBytes, leWord]

theorem tail_cases {tail : List Byte}
    (hlong : ∀ b0 b1 b2 b3 rest, tail = b0 :: b1 :: b2 :: b3 :: rest → False)
    (hnil : tail = [] → False) :
    (∃ b0, tail = [b0]) ∨ (∃ b0 b1, tail = [b0, b1]) ∨ ∃ b0 b1 b2, tail = [b0, b1, b2] := by
  match tail with
  | [] => exact absurd rfl hnil
  | [b0] => exact .inl ⟨b0, rfl⟩
  | [b0, b1] => exact .inr (.inl ⟨b0, b1, rfl⟩)
  | [b0, b1, b2] => exact .inr (.inr ⟨b0, b1, b2, rfl⟩)
  | b0 :: b1 :: b2 :: b3 :: rest => exact absurd rfl (hlong b0 b1 b2 b3 rest)

@[simp]
theorem length_xorStream (s : σ) (data : List Byte) : (xorStream gen s data).length = data.length := by
  fun_induction xorStream gen s data with
  | case1 s b0 b1 b2 b3 rest ih => simp [ih]; omega
  | case2 => rfl
  | case3 s tail hlong hnil =>
      obtain ⟨b0, rfl⟩ | ⟨b0, b1, rfl⟩ | ⟨b0, b1, b2, rfl⟩ := tail_cases hlong hnil <;> simp

/-- **Exclusive or undoes itself**, at every length. -/
theorem xorStream_xorStream (s : σ) (data : List Byte) :
    xorStream gen s (xorStream gen s data) = data := by
  fun_induction xorStream gen s data with
  | case1 s b0 b1 b2 b3 rest ih =>
      have hword : leBytes (leWord b0 b1 b2 b3 ^^^ (gen s).1)
          = [b0 ^^^ byteOf (gen s).1 0, b1 ^^^ byteOf (gen s).1 1, b2 ^^^ byteOf (gen s).1 2,
            b3 ^^^ byteOf (gen s).1 3] := by
        simp [leBytes, leWord]
      rw [hword, List.cons_append, List.cons_append, List.cons_append, List.cons_append,
        List.nil_append, xorStream_cons, ih]
      simp
  | case2 => rfl
  | case3 s tail hlong hnil =>
      obtain ⟨b0, rfl⟩ | ⟨b0, b1, rfl⟩ | ⟨b0, b1, b2, rfl⟩ := tail_cases hlong hnil <;>
        simp [xorStream, leBytes]

private theorem replicate_four_mul_succ (n : Nat) :
    List.replicate (4 * (n + 1)) (0 : Byte) = 0 :: 0 :: 0 :: 0 :: List.replicate (4 * n) 0 := by
  rw [show 4 * (n + 1) = 4 * n + 1 + 1 + 1 + 1 by omega]
  simp [List.replicate_succ]

theorem word_eq_of_xorStream_zeros (n : Nat) :
    ∀ (s : σ) (t : τ), xorStream gen s (List.replicate (4 * n) 0)
      = xorStream gen' t (List.replicate (4 * n) 0) → ∀ k < n, word gen s k = word gen' t k := by
  induction n with
  | zero => intro s t _ k hk; omega
  | succ n ih =>
      intro s t h k hk
      rw [replicate_four_mul_succ, xorStream_cons, xorStream_cons] at h
      simp only [List.cons.injEq, zero_xor] at h
      obtain ⟨h0, h1, h2, h3, hrest⟩ := h
      cases k with
      | zero =>
          rw [word_zero, word_zero]
          exact leBytes_injective (by simp only [leBytes, h0, h1, h2, h3])
      | succ k =>
          rw [word_succ, word_succ]
          exact ih _ _ hrest k (by omega)

/-- A receiver that undoes a sender's exclusive or on zeros runs the same keystream. -/
theorem word_eq_of_undone {n : Nat} {s : σ} {t : τ}
    (h : xorStream gen' t (xorStream gen s (List.replicate (4 * n) 0)) = List.replicate (4 * n) 0) :
    ∀ k < n, word gen s k = word gen' t k := by
  refine word_eq_of_xorStream_zeros gen gen' n s t ?_
  rw [← xorStream_xorStream gen' t (xorStream gen s (List.replicate (4 * n) 0)), h]

/-! ### The accumulating tag -/

/-- The words of a message, the last one padded with zero bytes. -/
def loadWords : List Byte → List Word
  | b0 :: b1 :: b2 :: b3 :: rest => leWord b0 b1 b2 b3 :: loadWords rest
  | [] => []
  | tail => [leWord (tail.getD 0 0) (tail.getD 1 0) (tail.getD 2 0) 0]

/-- Fold message words and keystream words into the accumulator; one keystream word more is folded
in after the last message word. -/
def accumulate : σ → Word → List Word → Word
  | s, acc, [] => acc ^^^ (gen s).1
  | s, acc, w :: ws => accumulate (gen s).2 (acc ^^^ (w ^^^ (gen s).1)) ws

def tag (s : σ) (message : List Byte) : Word := accumulate gen s 0 (loadWords message)

theorem accumulate_eq (s : σ) (acc : Word) (ws : List Word) :
    accumulate gen s acc ws
      = acc ^^^ (xorSum ws ^^^ xorSum ((List.range (ws.length + 1)).map (word gen s))) := by
  induction ws generalizing s acc with
  | nil => simp [accumulate, word_zero]
  | cons w ws ih =>
      rw [accumulate, ih, xorSum_cons, List.length_cons, List.range_succ_eq_map (n := ws.length + 1),
        List.map_cons, List.map_map, xorSum_cons, word_zero, BitVec.xor_assoc, xor_xor_xor_comm]
      rfl

/-- **All the tag keeps of a message**: how many words it has and their exclusive or. -/
theorem tag_eq (s : σ) (message : List Byte) :
    tag gen s message = xorSum (loadWords message)
      ^^^ xorSum ((List.range ((loadWords message).length + 1)).map (word gen s)) := by
  rw [tag, accumulate_eq, zero_xor]

theorem tag_eq_iff (s : σ) {m m' : List Byte} (hlen : (loadWords m).length = (loadWords m').length) :
    tag gen s m = tag gen s m' ↔ xorSum (loadWords m) = xorSum (loadWords m') := by
  rw [tag_eq, tag_eq, hlen]
  exact ⟨xor_right_cancel, fun h => by rw [h]⟩

/-- Where the keystream words stand that only the longer of two messages takes in, given how many words
each has. -/
def beyond (n n' : Nat) : List Nat := List.range' (min n n' + 1) (max n n' - min n n')

theorem xorSum_range_xor (f : Nat → Word) (n n' : Nat) :
    xorSum ((List.range (n + 1)).map f) ^^^ xorSum ((List.range (n' + 1)).map f)
      = xorSum ((beyond n n').map f) := by
  have hle : ∀ a k : Nat, xorSum ((List.range (a + 1)).map f) ^^^ xorSum ((List.range (a + k + 1)).map f)
      = xorSum ((List.range' (a + 1) k).map f) := by
    intro a k
    have hrange : List.range (a + k + 1) = List.range (a + 1) ++ List.range' (a + 1) k := by
      rw [List.range_eq_range', List.range_eq_range', Nat.add_right_comm, ← List.range'_append_1,
        Nat.zero_add]
    rw [hrange, List.map_append, xorSum_append, ← BitVec.xor_assoc, BitVec.xor_self]
    exact BitVec.zero_xor
  rcases Nat.le_total n n' with h | h
  · obtain ⟨k, rfl⟩ := Nat.exists_eq_add_of_le h
    rw [hle, beyond, min_eq_left h, max_eq_right h, Nat.add_sub_cancel_left]
  · obtain ⟨k, rfl⟩ := Nat.exists_eq_add_of_le h
    rw [BitVec.xor_comm, hle, beyond, min_eq_right h, max_eq_left h, Nat.add_sub_cancel_left]

/-- Two messages have one tag if the words beyond the shorter one make up for the difference. -/
theorem tag_eq_tag_iff (s : σ) (m m' : List Byte) :
    tag gen s m = tag gen s m' ↔ xorSum ((beyond (loadWords m).length (loadWords m').length).map (word gen s))
      = xorSum (loadWords m) ^^^ xorSum (loadWords m') := by
  rw [tag_eq, tag_eq, ← xorSum_range_xor]
  exact ⟨xor_eq_xor_of_xor_eq_xor, fun h => (xor_eq_xor_of_xor_eq_xor h.symm).symm⟩

theorem loadWords_replicate_zero (n : Nat) :
    loadWords (List.replicate n 0) = List.replicate ((n + 3) / 4) 0 := by
  induction n using Nat.strong_induction_on with
  | _ n ih =>
      match n with
      | 0 | 1 | 2 | 3 => rfl
      | n + 4 =>
          rw [show (n + 4 + 3) / 4 = (n + 3) / 4 + 1 by omega]
          simp only [List.replicate_succ, loadWords]
          rw [ih n (by omega)]
          rfl

theorem loadWords_append_zeros {message : List Byte} {k : Nat} (hshort : message.length % 4 ≠ 0)
    (hk : message.length % 4 + k ≤ 4) :
    loadWords (message ++ List.replicate k 0) = loadWords message := by
  fun_induction loadWords message with
  | case1 b0 b1 b2 b3 rest ih =>
      simp only [List.length_cons] at hshort hk
      rw [List.cons_append, List.cons_append, List.cons_append, List.cons_append, loadWords,
        ih (by omega) (by omega)]
  | case2 => simp at hshort
  | case3 tail hlong hnil =>
      obtain ⟨b0, rfl⟩ | ⟨b0, b1, rfl⟩ | ⟨b0, b1, b2, rfl⟩ := tail_cases hlong hnil
      · match k with
        | 0 | 1 | 2 | 3 => rfl
        | k + 4 => simp at hk; omega
      · match k with
        | 0 | 1 | 2 => rfl
        | k + 3 => simp at hk; omega
      · match k with
        | 0 | 1 => rfl
        | k + 2 => simp at hk; omega

/-- Two generators that tag every message alike agree from the third word on. -/
theorem word_eq_of_tag_eq {s : σ} {t : τ}
    (h : ∀ message, message ≠ [] → tag gen s message = tag gen' t message) (k : Nat) (hk : 2 ≤ k) :
    word gen s k = word gen' t k := by
  have hsum : ∀ n, 1 ≤ n → xorSum ((List.range (n + 1)).map (word gen s))
      = xorSum ((List.range (n + 1)).map (word gen' t)) := by
    intro n hn
    have htag := h (List.replicate (4 * n) 0) (by simp; omega)
    rw [tag_eq, tag_eq, loadWords_replicate_zero, List.length_replicate,
      show (4 * n + 3) / 4 = n by omega] at htag
    exact xor_left_cancel htag
  have hlong := hsum k (by omega)
  have hshort := hsum (k - 1) (by omega)
  rw [Nat.sub_add_cancel (by omega)] at hshort
  rw [List.range_succ, List.map_append, List.map_append, xorSum_append, xorSum_append, hshort] at hlong
  simpa using xor_left_cancel hlong

end Keystream
