import Mathlib.Data.List.Perm.Basic
import Mathlib.Order.Interval.Set.Basic
import Uesim.Library.Runs

/-!
# The memory pool

Blocks are cut from the front of one block that the C library has given, and are not taken back. What does not
fit comes from the C library. Three functions tell both kinds of pointers apart, each in its own way. What the
blocks contain is left out.
-/

namespace Uesim

abbrev Size := BitVec 64

/-- `malloc` has returned the base address. -/
structure MemoryPool where
  baseAddress : Nat
  totalSize : Size
  usedSize : Size
  base_pos : 0 < baseAddress

def memoryInit (baseAddress : Nat) (base_pos : 0 < baseAddress) (heapSize : Size) : MemoryPool :=
  { baseAddress, totalSize := heapSize, usedSize := 0, base_pos }

/-- The pointer into the pool, or none if the C library is asked. -/
def uesimMalloc (pool : MemoryPool) (size : Size) : MemoryPool × Option Nat :=
  if pool.usedSize + size ≤ pool.totalSize then
    ({ pool with usedSize := pool.usedSize + size }, some (pool.baseAddress + pool.usedSize.toNat))
  else (pool, none)

def uesimCalloc (pool : MemoryPool) (nmemb size : Size) : MemoryPool × Option Nat :=
  uesimMalloc pool (nmemb * size)

/-- What `realloc` is called with. -/
def uesimRealloc (ptr : Nat) : Nat := ptr

/-- What `free` is called with, if it is called. -/
def uesimFree (pool : MemoryPool) (ptr : Nat) : Option Nat :=
  if ptr ≥ pool.baseAddress ∧ ptr < pool.baseAddress + pool.totalSize.toNat then none else some ptr

inductive MemoryOrigin where
  | pool
  | system
  deriving DecidableEq

structure MemoryPointer where
  address : Nat
  origin : MemoryOrigin
  deriving DecidableEq

def MemoryPointer.null : MemoryPointer := { address := 0, origin := .system }

/-- Bytes of the pool that were handed out, and how many were asked for. -/
structure MemoryRange where
  offset : Nat
  length : Nat
  requested : Nat

def MemoryRange.bytes (range : MemoryRange) : Set Nat := Set.Ico range.offset (range.offset + range.length)

/-- Besides the pool, the blocks of the C library that it has not got back, the pointers that the callers have
not given back, and all that was ever handed out from the pool. -/
structure MemoryState where
  pool : MemoryPool
  system : List Nat
  held : List MemoryPointer
  ranges : List MemoryRange

def MemoryState.init (pool : MemoryPool) : MemoryState := { pool, system := [], held := [], ranges := [] }

/-- What the C library answers if it is asked for a block: none, or an address that is neither NULL, nor that
of one of these blocks, nor inside of the pool. -/
structure SystemAnswer where
  address : MemoryPool → List Nat → Option Nat
  fresh : ∀ pool blocks ptr, address pool blocks = some ptr →
    ptr ≠ 0 ∧ ptr ∉ blocks ∧ uesimFree pool ptr = some ptr

/-- A pointer is given back by its number among those held; without one it is NULL. -/
inductive MemoryCall where
  | malloc (size : Size) (answer : SystemAnswer)
  | calloc (nmemb size : Size) (answer : SystemAnswer)
  | realloc (number : Nat) (size : Size) (answer : SystemAnswer)
  | free (number : Nat)

namespace MemoryState

def pointer (memory : MemoryState) (number : Nat) : MemoryPointer := memory.held.getD number .null

/-- The C library is asked for a block. -/
def systemMalloc (memory : MemoryState) (answer : SystemAnswer) : MemoryState :=
  match answer.address memory.pool memory.system with
  | some address =>
      { memory with
        system := address :: memory.system
        held := { address, origin := .system } :: memory.held }
  | none => memory

/-- What the pool has served is handed out, and else what the C library answers. -/
def allocate (memory : MemoryState) (served : MemoryPool × Option Nat) (length requested : Nat)
    (answer : SystemAnswer) : MemoryState :=
  match served with
  | (pool, some address) =>
      { memory with
        pool
        held := { address, origin := .pool } :: memory.held
        ranges := { offset := memory.pool.usedSize.toNat, length, requested } :: memory.ranges }
  | (_, none) => memory.systemMalloc answer

/-- `realloc` moves a block of the C library, or keeps it, or takes it back if no bytes are asked for. What it
does with another pointer is not defined. -/
def systemRealloc (memory : MemoryState) (number : Nat) (size : Size) (answer : SystemAnswer) : MemoryState :=
  let ptr := uesimRealloc (memory.pointer number).address
  if ptr = 0 then memory.systemMalloc answer
  else if ptr ∈ memory.system then
    let released : MemoryState :=
      { memory with
        system := memory.system.erase ptr
        held := memory.held.eraseIdx number }
    match answer.address memory.pool released.system with
    | some address =>
        { released with
          system := address :: released.system
          held := { address, origin := .system } :: released.held }
    | none => if size = 0 then released else memory
  else memory

def release (memory : MemoryState) (number : Nat) : MemoryState :=
  let released := { memory with held := memory.held.eraseIdx number }
  match uesimFree memory.pool (memory.pointer number).address with
  | some ptr => { released with system := memory.system.erase ptr }
  | none => released

end MemoryState

def memoryCall (memory : MemoryState) : MemoryCall → MemoryState
  | .malloc size answer =>
      memory.allocate (uesimMalloc memory.pool size) size.toNat size.toNat answer
  | .calloc nmemb size answer =>
      memory.allocate (uesimCalloc memory.pool nmemb size) (nmemb * size).toNat (nmemb.toNat * size.toNat)
        answer
  | .realloc number size answer => memory.systemRealloc number size answer
  | .free number => memory.release number

end Uesim
