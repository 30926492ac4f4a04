import Uesim.Library.Bytes

/-!
# Modes of a sixteen-byte block function

Counter mode and a chained tag, over an arbitrary function on blocks. Counter mode is its own
inverse, and on one zero block it shows the block function at the starting counter. The tag marks the
end of a short last block by a byte and leaves a full last block unmarked, so a message and the same
message with the mark and zeros written out are chained alike.
-/

namespace BlockMode

open Bytes

abbrev Block := Vector Byte 16

variable (cipher next : Block → Block)

/-- Exclusive or of a byte string into a block; bytes that are not there count as zero. -/
def xorInto (block : Block) (data : List Byte) : Block :=
  Vector.ofFn fun i => block[i] ^^^ data.getD i.val 0

/-- Counter mode over `n` blocks, the last of which may be short. -/
def ctr : Nat → Block → List Byte → List Byte
  | 0, _, _ => []
  | n + 1, counter, data =>
      (data.take 16).zipWith (· ^^^ ·) (cipher counter).toList ++ ctr n (next counter) (data.drop 16)

theorem length_ctr (n : Nat) (counter : Block) (data : List Byte) (hn : data.length ≤ 16 * n) :
    (ctr cipher next n counter data).length = data.length := by
  induction n generalizing counter data with
  | zero => simp only [ctr, List.length_nil]; omega
  | succ n ih =>
      rw [ctr, List.length_append, ih _ _ (by rw [List.length_drop]; omega)]
      simp only [List.length_zipWith, List.length_take, Vector.length_toList, List.length_drop]
      omega

private theorem zipWith_xor_zipWith_xor (xs ys : List Byte) (h : xs.length ≤ ys.length) :
    (xs.zipWith (· ^^^ ·) ys).zipWith (· ^^^ ·) ys = xs := by
  induction xs generalizing ys with
  | nil => rfl
  | cons x xs ih =>
      cases ys with
      | nil => simp at h
      | cons y ys =>
          rw [List.zipWith_cons_cons, List.zipWith_cons_cons, ih ys (by simpa using h),
            BitVec.xor_assoc, BitVec.xor_self, BitVec.xor_zero]

/-- **Counter mode undoes itself**, at every length. -/
theorem ctr_ctr (n : Nat) (counter : Block) (data : List Byte) (hn : data.length ≤ 16 * n) :
    ctr cipher next n counter (ctr cipher next n counter data) = data := by
  induction n generalizing counter data with
  | zero =>
      have hnil : data = [] := List.eq_nil_of_length_eq_zero (by omega)
      rw [hnil, ctr]
  | succ n ih =>
      have hhead : ((data.take 16).zipWith (· ^^^ ·) (cipher counter).toList).length
          = (data.take 16).length := by
        simp [List.length_zipWith]
      rcases Nat.le_total data.length 16 with hshort | hlong
      · have hdrop : data.drop 16 = [] := List.drop_eq_nil_of_le hshort
        have hrest : ctr cipher next n (next counter) [] = [] :=
          List.eq_nil_of_length_eq_zero (by rw [length_ctr _ _ _ _ _ (by simp), List.length_nil])
        have htake : data.take 16 = data := List.take_of_length_le hshort
        rw [htake] at hhead
        rw [ctr, ctr, hdrop, hrest, htake, List.append_nil, List.take_of_length_le (by omega),
          List.drop_eq_nil_of_le (by omega), hrest, List.append_nil,
          zipWith_xor_zipWith_xor _ _ (by simpa using hshort)]
      · have hlen : ((data.take 16).zipWith (· ^^^ ·) (cipher counter).toList).length = 16 := by
          rw [hhead, List.length_take]
          omega
        rw [ctr, ctr, List.take_append_of_le_length (by omega), List.take_of_length_le (by omega),
          List.drop_append_of_le_length (by omega), List.drop_eq_nil_of_le (by omega), List.nil_append,
          ih _ _ (by rw [List.length_drop]; omega), zipWith_xor_zipWith_xor _ _ (by simp),
          List.take_append_drop]

theorem ctr_zero_block (counter : Block) :
    ctr cipher next 1 counter (List.replicate 16 0) = (cipher counter).toList := by
  have hzero : ∀ ys : List Byte, (List.replicate ys.length 0).zipWith (· ^^^ ·) ys = ys := by
    intro ys
    induction ys with
    | nil => rfl
    | cons y ys ih =>
        rw [List.length_cons, List.replicate_succ, List.zipWith_cons_cons, ih, zero_xor]
  have hlen : (cipher counter).toList.length = 16 := by simp
  have hblock := hzero (cipher counter).toList
  rw [hlen] at hblock
  simpa [ctr] using hblock

/-! ### The counter blocks -/

/-- Counter mode with the blocks that it gives to the block function, in order. -/
def ctrFed : Nat → Block → List Byte → List Byte × List Block
  | 0, _, _ => ([], [])
  | n + 1, counter, data =>
      let rest := ctrFed n (next counter) (data.drop 16)
      ((data.take 16).zipWith (· ^^^ ·) (cipher counter).toList ++ rest.1, counter :: rest.2)

theorem fst_ctrFed (n : Nat) (counter : Block) (data : List Byte) :
    (ctrFed cipher next n counter data).1 = ctr cipher next n counter data := by
  induction n generalizing counter data with
  | zero => rfl
  | succ n ih => rw [ctrFed, ctr, ih]

theorem snd_ctrFed (n : Nat) (counter : Block) (data : List Byte) :
    (ctrFed cipher next n counter data).2 = (List.range n).map fun i => next^[i] counter := by
  induction n generalizing counter data with
  | zero => rfl
  | succ n ih =>
      rw [ctrFed, ih, List.range_succ_eq_map, List.map_cons, List.map_map]
      rfl

/-! ### The chained tag -/

/-- Chain `n` full blocks of the message into `iv`. -/
def chain : Nat → Block → List Byte → Block
  | 0, iv, _ => iv
  | n + 1, iv, message => chain n (cipher (xorInto iv (message.take 16))) (message.drop 16)

def partialBlock (message : List Byte) : List Byte := message.drop (16 * (message.length / 16))

/-- Chain the full blocks, then a short block marked by `0x80`, then apply the block function once
more. -/
def chainTag (message : List Byte) : Block :=
  let iv := chain cipher (message.length / 16) (Vector.replicate 16 0) message
  let tail := partialBlock message
  cipher (if tail = [] then iv else cipher (xorInto iv (tail ++ [0x80])))

theorem chain_append (n : Nat) (iv : Block) (front rest : List Byte) (hlen : front.length = 16 * n) :
    chain cipher n iv (front ++ rest) = chain cipher n iv front := by
  induction n generalizing iv front with
  | zero => rfl
  | succ n ih =>
      rw [chain, chain, List.take_append_of_le_length (by omega),
        List.drop_append_of_le_length (by omega), ih _ _ (by rw [List.length_drop]; omega)]

theorem chain_succ (n : Nat) (iv : Block) (message : List Byte) :
    chain cipher (n + 1) iv message
      = cipher (xorInto (chain cipher n iv message) ((message.drop (16 * n)).take 16)) := by
  induction n generalizing iv message with
  | zero => rfl
  | succ n ih =>
      rw [chain, ih, chain, List.drop_drop, show 16 + 16 * n = 16 * (n + 1) by omega]

theorem xorInto_append_zeros (block : Block) (data : List Byte) (n : Nat) :
    xorInto block (data ++ List.replicate n 0) = xorInto block data := by
  apply Vector.ext
  intro i hi
  simp only [xorInto, Vector.getElem_ofFn, List.getD_eq_getElem?_getD]
  congr 1
  rcases Nat.lt_or_ge i data.length with h | h
  · rw [List.getElem?_append_left h]
  · rw [List.getElem?_append_right h, List.getElem?_eq_none h, List.getElem?_replicate]
    split <;> rfl

/-- **The padding is not injective.** A message with a short last block and the same message with
the mark and the zeros up to the block boundary written out have the same tag. -/
theorem chainTag_padded (message : List Byte) (h : message.length % 16 ≠ 0) :
    chainTag cipher (message ++ 0x80 :: List.replicate (15 - message.length % 16) 0)
      = chainTag cipher message := by
  set padded := message ++ 0x80 :: List.replicate (15 - message.length % 16) 0 with hpadded
  set n := message.length / 16 with hn
  have hlen : padded.length = 16 * (n + 1) := by
    simp only [hpadded, List.length_append, List.length_cons, List.length_replicate]
    omega
  have hfront : (message.take (16 * n)).length = 16 * n := by
    rw [List.length_take]
    omega
  have hchain : chain cipher n (Vector.replicate 16 0) padded
      = chain cipher n (Vector.replicate 16 0) message := by
    have hsplit : padded = message.take (16 * n)
        ++ (message.drop (16 * n) ++ 0x80 :: List.replicate (15 - message.length % 16) 0) := by
      rw [← List.append_assoc, List.take_append_drop]
    rw [hsplit, chain_append cipher n _ _ _ hfront]
    conv_rhs => rw [← List.take_append_drop (16 * n) message, chain_append cipher n _ _ _ hfront]
  have htail : (padded.drop (16 * n)).take 16
      = (partialBlock message ++ [0x80]) ++ List.replicate (15 - message.length % 16) 0 := by
    rw [hpadded, List.drop_append_of_le_length (by omega), List.take_of_length_le]
    · simp [partialBlock, hn]
    · simp only [List.length_append, List.length_drop, List.length_cons, List.length_replicate]
      omega
  have hpartial : partialBlock message ≠ [] := by
    intro hnil
    have := congrArg List.length hnil
    simp only [partialBlock, List.length_drop, List.length_nil] at this
    omega
  have hfull : partialBlock padded = [] := by
    rw [partialBlock, hlen]
    exact List.drop_eq_nil_of_le (by omega)
  have hblocks : padded.length / 16 = n + 1 := by omega
  simp only [chainTag, hfull, hpartial, ↓reduceIte, hblocks]
  rw [chain_succ, hchain, htail, xorInto_append_zeros]

/-- A message with the padding of its last block written out. -/
def padded (message : List Byte) : List Byte :=
  if message.length % 16 = 0 then message
  else message ++ 0x80 :: List.replicate (15 - message.length % 16) 0

/-- **The tag keeps of a message only its padded form.** -/
theorem chainTag_eq_of_padded {message message' : List Byte} (h : padded message = padded message') :
    chainTag cipher message = chainTag cipher message' := by
  have hpadded : ∀ message, chainTag cipher message = chainTag cipher (padded message) := by
    intro message
    rw [padded]
    split
    · rfl
    · exact (chainTag_padded cipher message ‹_›).symm
  rw [hpadded message, h, ← hpadded message']

end BlockMode
