import Mathlib.Algebra.Group.Nat.Defs
import Mathlib.Data.Set.BooleanAlgebra
import Mathlib.Order.CompletePartialOrder
import Uesim.Core.Memory

/-!
# Blocks of the pool

The bytes that are used already and those that are asked for are added up in a machine word, and so are the
elements of an array multiplied. The blocks are disjoint as long as neither wraps.
-/

namespace Uesim

namespace MemoryState

/-- The blocks that were handed out from the pool are disjoint, inside of it, and as long as was asked for. -/
structure PoolSound (memory : MemoryState) : Prop where
  disjoint : memory.ranges.Pairwise fun a b => Disjoint a.bytes b.bytes
  inside : ∀ range ∈ memory.ranges, range.bytes ⊆ Set.Ico 0 memory.pool.totalSize.toNat
  long_enough : ∀ range ∈ memory.ranges, range.requested ≤ range.length
  used_le : memory.pool.usedSize ≤ memory.pool.totalSize

/-- The call leaves the pool sound, and not less of it in use. -/
def KeepsPool (memory : MemoryState) (call : MemoryCall) : Prop :=
  (memoryCall memory call).PoolSound ∧ memory.pool.usedSize ≤ (memoryCall memory call).pool.usedSize

/-- The bytes in use and those asked for are less than a machine word holds; and so is the size of an array
that is served from the pool. -/
def NoWrap (memory : MemoryState) : MemoryCall → Prop
  | .malloc size _ => memory.pool.usedSize.toNat + size.toNat < 2 ^ 64
  | .calloc nmemb size _ =>
      memory.pool.usedSize.toNat + (nmemb * size).toNat < 2 ^ 64
        ∧ (memory.pool.usedSize.toNat + (nmemb * size).toNat ≤ memory.pool.totalSize.toNat →
          nmemb.toNat * size.toNat < 2 ^ 64)
  | _ => True

/-- Besides, no block goes beyond what is in use. -/
structure PoolUsed (memory : MemoryState) : Prop where
  sound : memory.PoolSound
  below : ∀ range ∈ memory.ranges, range.offset + range.length ≤ memory.pool.usedSize.toNat

variable {memory : MemoryState} {size : Size} {requested : Nat}

/-! ### Asking for a block -/

/-- The pool with so many bytes more in use, as a machine word counts. -/
def cut (memory : MemoryState) (size : Size) (requested : Nat) : MemoryState :=
  { memory with
    pool := { memory.pool with usedSize := memory.pool.usedSize + size }
    held := { address := memory.pool.baseAddress + memory.pool.usedSize.toNat, origin := .pool } :: memory.held
    ranges := { offset := memory.pool.usedSize.toNat, length := size.toNat, requested } :: memory.ranges }

theorem allocate_of_le (h : memory.pool.usedSize + size ≤ memory.pool.totalSize) (answer : SystemAnswer) :
    memory.allocate (uesimMalloc memory.pool size) size.toNat requested answer
      = memory.cut size requested := by
  rw [uesimMalloc, if_pos h]
  rfl

theorem allocate_of_not_le (h : ¬memory.pool.usedSize + size ≤ memory.pool.totalSize)
    (answer : SystemAnswer) :
    memory.allocate (uesimMalloc memory.pool size) size.toNat requested answer
      = memory.systemMalloc answer := by
  rw [uesimMalloc, if_neg h]
  rfl

theorem toNat_used_add (memory : MemoryState) (size : Size) :
    (memory.pool.usedSize + size).toNat = (memory.pool.usedSize.toNat + size.toNat) % 2 ^ 64 :=
  BitVec.toNat_add _ _

theorem pool_systemMalloc (memory : MemoryState) (answer : SystemAnswer) :
    (memory.systemMalloc answer).pool = memory.pool ∧ (memory.systemMalloc answer).ranges = memory.ranges := by
  rw [systemMalloc]
  split <;> exact ⟨rfl, rfl⟩

theorem PoolUsed.of_same (h : memory.PoolUsed) {memory' : MemoryState} (hpool : memory'.pool = memory.pool)
    (hranges : memory'.ranges = memory.ranges) : memory'.PoolUsed := by
  obtain ⟨⟨hdisjoint, hinside, hlong, hused⟩, hbelow⟩ := h
  rw [← hranges] at hdisjoint hinside hlong hbelow
  rw [← hpool] at hinside hused hbelow
  exact ⟨⟨hdisjoint, hinside, hlong, hused⟩, hbelow⟩

theorem PoolUsed.cut (h : memory.PoolUsed)
    (hfits : memory.pool.usedSize.toNat + size.toNat ≤ memory.pool.totalSize.toNat)
    (hlong : requested ≤ size.toNat) : (memory.cut size requested).PoolUsed := by
  have htotal := memory.pool.totalSize.isLt
  have hused : (memory.pool.usedSize + size).toNat = memory.pool.usedSize.toNat + size.toNat := by
    rw [toNat_used_add]
    exact Nat.mod_eq_of_lt (Nat.lt_of_le_of_lt hfits htotal)
  refine ⟨⟨?_, ?_, ?_, ?_⟩, ?_⟩
  · refine List.pairwise_cons.mpr ⟨fun range hmem => ?_, h.sound.disjoint⟩
    rw [Set.disjoint_left]
    rintro i ⟨hlow, -⟩ ⟨-, hhigh⟩
    have hbelow := h.below range hmem
    change memory.pool.usedSize.toNat ≤ i at hlow
    omega
  · refine List.forall_mem_cons.mpr ⟨?_, h.sound.inside⟩
    rintro i ⟨-, hhigh⟩
    exact ⟨Nat.zero_le i, Nat.lt_of_lt_of_le hhigh hfits⟩
  · exact List.forall_mem_cons.mpr ⟨hlong, h.sound.long_enough⟩
  · rw [BitVec.le_def]
    exact Nat.le_trans (Nat.le_of_eq hused) hfits
  · refine List.forall_mem_cons.mpr ⟨Nat.le_of_eq hused.symm, fun range hmem => ?_⟩
    have hbelow := h.below range hmem
    exact Nat.le_trans hbelow (Nat.le_trans (Nat.le_add_right _ _) (Nat.le_of_eq hused.symm))

theorem not_poolSound_of_wrap (hwrap : 2 ^ 64 ≤ memory.pool.usedSize.toNat + size.toNat) :
    ¬(memory.cut size requested).PoolSound := by
  intro hsound
  have htotal := memory.pool.totalSize.isLt
  have hused := memory.pool.usedSize.isLt
  have hinside := hsound.inside _ List.mem_cons_self
  have hlast : memory.pool.usedSize.toNat + size.toNat - 1 ∈ Set.Ico 0 memory.pool.totalSize.toNat :=
    hinside ⟨by change memory.pool.usedSize.toNat ≤ _; omega,
      by change _ < memory.pool.usedSize.toNat + size.toNat; omega⟩
  have hlt := hlast.2
  omega

/-- **A block keeps the pool sound exactly when its end does not wrap, and, if it is one of the pool, it is not
shorter than was asked for.** -/
theorem PoolUsed.allocate_iff (h : memory.PoolUsed) (size : Size) (requested : Nat)
    (answer : SystemAnswer) :
    let memory' := memory.allocate (uesimMalloc memory.pool size) size.toNat requested answer
    let fits : Prop := memory.pool.usedSize.toNat + size.toNat < 2 ^ 64
      ∧ (memory.pool.usedSize.toNat + size.toNat ≤ memory.pool.totalSize.toNat → requested ≤ size.toNat)
    ((memory'.PoolSound ∧ memory.pool.usedSize ≤ memory'.pool.usedSize) ↔ fits)
      ∧ (fits → memory'.PoolUsed) := by
  intro memory' fits
  have htotal := memory.pool.totalSize.isLt
  have hsize := size.isLt
  have hle : memory.pool.usedSize.toNat ≤ memory.pool.totalSize.toNat := BitVec.le_def.mp h.sound.used_le
  have hserved : memory.pool.usedSize + size ≤ memory.pool.totalSize
      ↔ (memory.pool.usedSize.toNat + size.toNat) % 2 ^ 64 ≤ memory.pool.totalSize.toNat := by
    rw [BitVec.le_def, toNat_used_add]
  by_cases hcut : memory.pool.usedSize + size ≤ memory.pool.totalSize
  · have heq : memory' = memory.cut size requested := allocate_of_le hcut answer
    rw [heq]
    by_cases hwrap : memory.pool.usedSize.toNat + size.toNat < 2 ^ 64
    · have hfits : memory.pool.usedSize.toNat + size.toNat ≤ memory.pool.totalSize.toNat := by
        rwa [hserved, Nat.mod_eq_of_lt hwrap] at hcut
      have hused : memory.pool.usedSize ≤ (memory.cut size requested).pool.usedSize := by
        rw [BitVec.le_def]
        change _ ≤ (memory.pool.usedSize + size).toNat
        rw [toNat_used_add, Nat.mod_eq_of_lt hwrap]
        exact Nat.le_add_right _ _
      refine ⟨⟨fun hsound => ⟨hwrap, fun _ => hsound.1.long_enough _ List.mem_cons_self⟩, fun hall => ?_⟩,
        fun hall => h.cut hfits (hall.2 hfits)⟩
      exact ⟨(h.cut hfits (hall.2 hfits)).sound, hused⟩
    · refine ⟨iff_of_false (fun hsound => ?_) fun hall => hwrap hall.1, fun hall => absurd hall.1 hwrap⟩
      exact not_poolSound_of_wrap (Nat.not_lt.mp hwrap) hsound.1
  · have heq : memory' = memory.systemMalloc answer := allocate_of_not_le hcut answer
    obtain ⟨hpool, hranges⟩ := memory.pool_systemMalloc answer
    have hsame : memory'.PoolUsed := by
      rw [heq]
      exact h.of_same hpool hranges
    have hfull : fits := by
      rw [hserved] at hcut
      have hlt : memory.pool.usedSize.toNat + size.toNat < 2 ^ 64 := by omega
      rw [Nat.mod_eq_of_lt hlt] at hcut
      exact ⟨hlt, fun hfits => absurd hfits hcut⟩
    refine ⟨iff_of_true ⟨hsame.sound, ?_⟩ hfull, fun _ => hsame⟩
    rw [heq, hpool]
    exact BitVec.le_refl _

/-! ### One call -/

theorem pool_systemRealloc (memory : MemoryState) (number : Nat) (size : Size) (answer : SystemAnswer) :
    (memory.systemRealloc number size answer).pool = memory.pool
      ∧ (memory.systemRealloc number size answer).ranges = memory.ranges := by
  rw [systemRealloc]
  dsimp only
  split
  · exact memory.pool_systemMalloc answer
  · split
    · split
      · exact ⟨rfl, rfl⟩
      · split <;> exact ⟨rfl, rfl⟩
    · exact ⟨rfl, rfl⟩

theorem pool_release (memory : MemoryState) (number : Nat) :
    (memory.release number).pool = memory.pool ∧ (memory.release number).ranges = memory.ranges := by
  rw [release]
  dsimp only
  split <;> exact ⟨rfl, rfl⟩

/-- The product of a word-sized count and size is the size of the array unless it wraps. -/
theorem mul_le_toNat_mul_iff (nmemb size : Size) :
    nmemb.toNat * size.toNat ≤ (nmemb * size).toNat ↔ nmemb.toNat * size.toNat < 2 ^ 64 := by
  have hlt := (nmemb * size).isLt
  rw [BitVec.toNat_mul]
  constructor
  · intro hle
    rw [BitVec.toNat_mul] at hlt
    exact Nat.lt_of_le_of_lt hle hlt
  · intro hfits
    rw [Nat.mod_eq_of_lt hfits]

theorem PoolUsed.call_iff (h : memory.PoolUsed) (call : MemoryCall) :
    (memory.KeepsPool call ↔ memory.NoWrap call)
      ∧ (memory.NoWrap call → (memoryCall memory call).PoolUsed) := by
  cases call with
  | malloc size answer =>
      obtain ⟨hiff, hkept⟩ := h.allocate_iff size size.toNat answer
      have hlong : memory.pool.usedSize.toNat + size.toNat < 2 ^ 64
            ∧ (memory.pool.usedSize.toNat + size.toNat ≤ memory.pool.totalSize.toNat →
              size.toNat ≤ size.toNat)
          ↔ memory.NoWrap (.malloc size answer) := and_iff_left fun _ => Nat.le_refl _
      rw [hlong] at hiff hkept
      exact ⟨hiff, hkept⟩
  | calloc nmemb size answer =>
      obtain ⟨hiff, hkept⟩ :=
        h.allocate_iff (nmemb * size) (nmemb.toNat * size.toNat) answer
      rw [mul_le_toNat_mul_iff] at hiff hkept
      exact ⟨hiff, hkept⟩
  | realloc number size answer =>
      obtain ⟨hpool, hranges⟩ := memory.pool_systemRealloc number size answer
      have hsame := h.of_same hpool hranges
      refine ⟨iff_of_true ⟨hsame.sound, ?_⟩ trivial, fun _ => hsame⟩
      exact BitVec.le_of_eq (congrArg MemoryPool.usedSize hpool).symm
  | free number =>
      obtain ⟨hpool, hranges⟩ := memory.pool_release number
      have hsame := h.of_same hpool hranges
      refine ⟨iff_of_true ⟨hsame.sound, ?_⟩ trivial, fun _ => hsame⟩
      exact BitVec.le_of_eq (congrArg MemoryPool.usedSize hpool).symm

theorem init_poolUsed (pool : MemoryPool) (hunused : pool.usedSize = 0) : (init pool).PoolUsed := by
  refine ⟨⟨.nil, fun _ hmem => ?_, fun _ hmem => ?_, ?_⟩, fun _ hmem => ?_⟩
  · cases hmem
  · cases hmem
  · change pool.usedSize ≤ pool.totalSize
    rw [hunused, BitVec.le_def]
    exact Nat.zero_le _
  · cases hmem

end MemoryState

/-- **The blocks of the pool are disjoint, inside of it and long enough, and no byte comes out of use, exactly
as long as neither the bytes in use nor the size of an array in the pool wraps.** -/
theorem memoryPool_sound_iff (baseAddress : Nat) (hbase : 0 < baseAddress) (heapSize : Size)
    (calls : List MemoryCall) :
    Runs.Always memoryCall MemoryState.KeepsPool (.init (memoryInit baseAddress hbase heapSize)) calls
      ↔ Runs.Always memoryCall MemoryState.NoWrap (.init (memoryInit baseAddress hbase heapSize)) calls :=
  Runs.always_iff (fun _ call h => (h.call_iff call).1) (fun _ call h => (h.call_iff call).2)
    (MemoryState.init_poolUsed _ rfl) calls

def SystemAnswer.none : SystemAnswer := { address := fun _ _ => .none, fresh := fun _ _ _ h => by cases h }

/-- Two blocks of a pool of 64 bytes. -/
theorem memoryPool_sound_two :
    Runs.Always memoryCall MemoryState.KeepsPool (.init (memoryInit 4096 (by decide) 64))
      [.malloc 16 .none, .calloc 4 8 .none] := by
  refine (memoryPool_sound_iff 4096 (by decide) 64 _).mpr ⟨?_, ?_, trivial⟩
  · change (0 : Size).toNat + (16 : Size).toNat < 2 ^ 64
    decide
  · constructor
    · decide
    · intro _
      decide

/-- With 16 bytes in use, a block that reaches round the whole address space to the begin of the pool. -/
theorem memoryPool_not_sound_wrap :
    ¬Runs.Always memoryCall MemoryState.KeepsPool (.init (memoryInit 4096 (by decide) 64))
      [.malloc 16 .none, .malloc (-16) .none] := by
  rintro ⟨-, ⟨-, hle⟩, -⟩
  exact absurd hle (by decide)

end Uesim
