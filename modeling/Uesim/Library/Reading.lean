import Uesim.Library.BitFields
import Uesim.Library.Loop

/-!
# Programs that read memory

A decoder is a program that asks for bytes, one at a time, and goes on with what it is told. Run on a
memory it has a result, and it has read certain places, so that its result depends on these places only.
-/

namespace BitMemory

open Bytes

/-- A program that reads bytes and returns a value. -/
inductive Reading (α : Type) where
  | done (a : α)
  | byte (i : Nat) (next : Byte → Reading α)

namespace Reading

variable {α β : Type}

def run (mem : Memory) : Reading α → α
  | done a => a
  | byte i next => (next (mem i)).run mem

def reads (mem : Memory) : Reading α → List Nat
  | done _ => []
  | byte i next => i :: (next (mem i)).reads mem

def bind (p : Reading α) (f : α → Reading β) : Reading β :=
  match p with
  | done a => f a
  | byte i next => byte i fun b => (next b).bind f

instance : Monad Reading where
  pure := done
  bind := bind

@[simp]
theorem run_pure (mem : Memory) (a : α) : (pure a : Reading α).run mem = a := rfl

@[simp]
theorem reads_pure (mem : Memory) (a : α) : (pure a : Reading α).reads mem = [] := rfl

@[simp]
theorem run_bind (mem : Memory) (p : Reading α) (f : α → Reading β) :
    (p >>= f).run mem = (f (p.run mem)).run mem := by
  change (p.bind f).run mem = _
  induction p with
  | done a => rfl
  | byte i next ih => exact ih (mem i)

@[simp]
theorem reads_bind (mem : Memory) (p : Reading α) (f : α → Reading β) :
    (p >>= f).reads mem = p.reads mem ++ (f (p.run mem)).reads mem := by
  change (p.bind f).reads mem = _
  induction p with
  | done a => rfl
  | byte i next ih => exact congrArg (i :: ·) (ih (mem i))

theorem run_congr {mem mem' : Memory} {p : Reading α} (h : ∀ i ∈ p.reads mem, mem' i = mem i) :
    p.run mem' = p.run mem := by
  induction p with
  | done a => rfl
  | byte i next ih =>
      have hfirst : mem' i = mem i := h i List.mem_cons_self
      change (next (mem' i)).run mem' = (next (mem i)).run mem
      rw [hfirst]
      exact ih (mem i) fun j hj => h j (List.mem_cons_of_mem i hj)

/-- The program reads below `len` only. -/
def Within (mem : Memory) (len : Nat) (p : Reading α) : Prop := ∀ i ∈ p.reads mem, i < len

theorem within_pure (mem : Memory) (len : Nat) (a : α) :
    Within mem len (pure a : Reading α) := by
  simp [Within]

theorem within_done {mem : Memory} {len : Nat} {a : α} : Within mem len (done a) ↔ True :=
  iff_true_intro (within_pure mem len a)

theorem within_byte {mem : Memory} {len i : Nat} {next : Byte → Reading α} :
    Within mem len (byte i next) ↔ i < len ∧ Within mem len (next (mem i)) := by
  simp only [Within, reads, List.mem_cons, or_imp, forall_and, forall_eq]

theorem within_bind {mem : Memory} {len : Nat} {p : Reading α} {f : α → Reading β} :
    Within mem len (p >>= f) ↔ Within mem len p ∧ Within mem len (f (p.run mem)) := by
  simp only [Within, reads_bind, List.mem_append, or_imp, forall_and]

/-- **A program that reads below `len` returns what the first `len` bytes determine.** -/
theorem Within.run_eq {mem mem' : Memory} {len : Nat} {p : Reading α} (h : p.Within mem len)
    (hsame : ∀ i < len, mem' i = mem i) : p.run mem' = p.run mem :=
  run_congr fun i hi => hsame i (h i hi)

/-! ### Loops -/

section Loops

variable {σ : Type}

/-- A loop whose rounds read, on so many evaluations of its test. -/
def loop (step : σ → Reading σ) (stop : σ → Bool) : Nat → σ → Reading (Option σ)
  | 0, _ => pure none
  | fuel + 1, s =>
      if stop s then pure (some s)
      else do
        let next ← step s
        loop step stop fuel next

variable {step : σ → Reading σ} {stop : σ → Bool}

theorem run_loop (mem : Memory) (fuel : Nat) (s : σ) :
    (loop step stop fuel s).run mem = Loop.run (fun s => (step s).run mem) stop fuel s := by
  induction fuel generalizing s with
  | zero => rfl
  | succ fuel ih =>
      rw [loop, Loop.run]
      split
      · rfl
      · rw [run_bind, ih]

/-- **A loop reads below `len` exactly when every round that it comes to does.** -/
theorem within_loop {mem : Memory} {len fuel : Nat} {s : σ} :
    Within mem len (loop step stop fuel s)
      ↔ ∀ n < fuel, (∀ m ≤ n, stop ((fun s => (step s).run mem)^[m] s) = false) →
          Within mem len (step ((fun s => (step s).run mem)^[n] s)) := by
  induction fuel generalizing s with
  | zero => exact iff_of_true (within_pure mem len none) fun n hn => absurd hn (Nat.not_lt_zero n)
  | succ fuel ih =>
      rw [loop]
      cases hstop : stop s with
      | true =>
          refine iff_of_true (within_pure mem len (some s)) fun n _ hgo => ?_
          have hfirst := hgo 0 (Nat.zero_le n)
          rw [Function.iterate_zero_apply, hstop] at hfirst
          cases hfirst
      | false =>
          rw [if_neg (by simp), within_bind, ih]
          constructor
          · rintro ⟨hfirst, hrest⟩ n hn hgo
            cases n with
            | zero => exact hfirst
            | succ n =>
                exact hrest n (Nat.lt_of_succ_lt_succ hn) fun m hm => hgo (m + 1) (Nat.succ_le_succ hm)
          · intro hall
            refine ⟨hall 0 (Nat.succ_pos fuel) fun m hm => ?_, fun n hn hgo => ?_⟩
            · rw [Nat.le_zero.mp hm, Function.iterate_zero_apply, hstop]
            · refine hall (n + 1) (Nat.succ_lt_succ hn) fun m hm => ?_
              cases m with
              | zero => exact hstop
              | succ m => exact hgo m (Nat.le_of_succ_le_succ hm)

end Loops

/-! ### Bits and bytes -/

variable {w : Nat}

/-- Read `width` bits from `pos` on into what `acc` holds, looking each of them up in its byte. -/
def bits (pos : Nat) (acc : BitVec w) : Nat → Reading (BitVec w)
  | 0 => done acc
  | i + 1 => byte (pos / 8) fun b =>
      bits (pos + 1) (if b.getLsbD (7 - pos % 8) then acc ||| BitVec.twoPow w i else acc) i

@[simp]
theorem run_bits (mem : Memory) (pos : Nat) (acc : BitVec w) (width : Nat) :
    (bits pos acc width).run mem = readBits mem pos acc width := by
  induction width generalizing pos acc with
  | zero => rfl
  | succ i ih => exact ih _ _

theorem reads_bits (mem : Memory) (pos : Nat) (acc : BitVec w) (width : Nat) :
    (bits pos acc width).reads mem = (List.range' pos width).map (· / 8) := by
  induction width generalizing pos acc with
  | zero => rfl
  | succ i ih => exact congrArg (pos / 8 :: ·) (ih _ _)

theorem within_bits {mem : Memory} {len pos width : Nat} {acc : BitVec w} :
    (bits pos acc width).Within mem len ↔ width = 0 ∨ pos + width ≤ 8 * len := by
  simp only [Within, reads_bits, List.forall_mem_map, List.mem_range'_1]
  constructor
  · intro h
    by_cases hnone : width = 0
    · exact .inl hnone
    · have hlast := h (pos + width - 1) (by omega)
      omega
  · intro h q hq
    omega

def bytes (start : Nat) : Nat → Reading (List Byte)
  | 0 => done []
  | len + 1 => byte start fun b => do
      let rest ← bytes (start + 1) len
      pure (b :: rest)

@[simp]
theorem run_bytes (mem : Memory) (start len : Nat) :
    (bytes start len).run mem = (List.range' start len).map mem := by
  induction len generalizing start with
  | zero => rfl
  | succ len ih =>
      rw [bytes, run, run_bind, ih]
      rfl

theorem run_bytes_ofBytes {list : List Byte} {start len : Nat} (h : start + len ≤ list.length) :
    (bytes start len).run (ofBytes list) = (list.drop start).take len := by
  rw [run_bytes]
  apply List.ext_getElem
  · rw [List.length_map, List.length_range', List.length_take, List.length_drop]
    omega
  · intro i hi hi'
    rw [List.length_map, List.length_range'] at hi
    rw [List.getElem_map, List.getElem_range', List.getElem_take, List.getElem_drop, Nat.one_mul]
    exact (List.getElem_eq_getD 0).symm

theorem reads_bytes (mem : Memory) (start len : Nat) :
    (bytes start len).reads mem = List.range' start len := by
  induction len generalizing start with
  | zero => rfl
  | succ len ih =>
      rw [bytes, reads, reads_bind, ih, reads_pure, List.append_nil]
      rfl

theorem within_bytes {mem : Memory} {limit start len : Nat} :
    (bytes start len).Within mem limit ↔ len = 0 ∨ start + len ≤ limit := by
  simp only [Within, reads_bytes, List.mem_range'_1]
  constructor
  · intro h
    by_cases hnone : len = 0
    · exact .inl hnone
    · have hlast := h (start + len - 1) (by omega)
      omega
  · intro h i hi
    omega

/-- A list of bytes that lie one after the other below `len`. -/
def PartBelow (mem : Memory) (len : Nat) (part : List Byte) : Prop :=
  ∃ start size, start + size ≤ len ∧ part = (List.range' start size).map mem

theorem partBelow_nil (mem : Memory) (len : Nat) : PartBelow mem len [] := ⟨0, 0, Nat.zero_le len, rfl⟩

theorem partBelow_run_bytes (mem : Memory) {len start size : Nat} (h : start + size ≤ len) :
    PartBelow mem len ((bytes start size).run mem) :=
  ⟨start, size, h, run_bytes mem start size⟩

end Reading

end BitMemory
