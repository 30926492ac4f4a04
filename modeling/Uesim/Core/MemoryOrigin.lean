import Mathlib.Data.List.GetD
import Uesim.Core.Memory

/-!
# Whose block a pointer is

A pointer is one of the pool if it lies below the pool's end. So a block without bytes at the very end of the
pool is taken for one of the C library, and reallocating does not ask at all.
-/

namespace Uesim

namespace MemoryState

/-- The C library gets NULL, or a pointer that it has returned and not got back. -/
def Returns (memory : MemoryState) (ptr : MemoryPointer) (argument : Nat) : Prop :=
  argument = 0 ∨ (ptr.origin = .system ∧ argument ∈ memory.system)

/-- What the C library gets from a call. -/
def ReturnsOwn (memory : MemoryState) : MemoryCall → Prop
  | .realloc number _ _ =>
      memory.Returns (memory.pointer number) (uesimRealloc (memory.pointer number).address)
  | .free number =>
      ∀ argument, uesimFree memory.pool (memory.pointer number).address = some argument →
        memory.Returns (memory.pointer number) argument
  | _ => True

/-- No pointer into the pool is reallocated, and none to the end of the pool is freed. -/
def TellsApart (memory : MemoryState) : MemoryCall → Prop
  | .realloc number _ _ => (memory.pointer number).origin = .system
  | .free number =>
      (memory.pointer number).origin = .pool →
        (memory.pointer number).address ≠ memory.pool.baseAddress + memory.pool.totalSize.toNat
  | _ => True

/-- The blocks of the C library that are held, each as often as it is held. -/
def systemHeld (held : List MemoryPointer) : List Nat :=
  (held.filter fun ptr => ptr.origin = .system).map MemoryPointer.address

/-- Every block of the C library is held once and outside of the pool, and every pointer into the pool is in
the pool or at its end. -/
structure Owned (memory : MemoryState) : Prop where
  used_le : memory.pool.usedSize ≤ memory.pool.totalSize
  held_once : (systemHeld memory.held).Perm memory.system
  outside : ∀ ptr ∈ memory.system, ptr ≠ 0 ∧ uesimFree memory.pool ptr = some ptr
  in_pool : ∀ ptr ∈ memory.held, ptr.origin = .pool →
    memory.pool.baseAddress ≤ ptr.address
      ∧ ptr.address ≤ memory.pool.baseAddress + memory.pool.totalSize.toNat

variable {memory : MemoryState}

theorem pointer_cases (memory : MemoryState) (number : Nat) :
    (memory.pointer number = .null ∧ memory.held.eraseIdx number = memory.held)
      ∨ (memory.pointer number ∈ memory.held
        ∧ memory.held.Perm (memory.pointer number :: memory.held.eraseIdx number)) := by
  rw [pointer]
  rcases Nat.lt_or_ge number memory.held.length with hlt | hge
  · right
    rw [List.getD_eq_getElem _ _ hlt]
    exact ⟨List.getElem_mem hlt, (List.getElem_cons_eraseIdx_perm hlt).symm⟩
  · left
    exact ⟨List.getD_eq_default _ _ hge, List.eraseIdx_of_length_le hge⟩

theorem Owned.pointer_spec (h : memory.Owned) (number : Nat) :
    memory.pointer number = .null
      ∨ ((memory.pointer number).origin = .system ∧ (memory.pointer number).address ∈ memory.system)
      ∨ ((memory.pointer number).origin = .pool
        ∧ memory.pool.baseAddress ≤ (memory.pointer number).address
        ∧ (memory.pointer number).address ≤ memory.pool.baseAddress + memory.pool.totalSize.toNat) := by
  rcases memory.pointer_cases number with ⟨hnull, -⟩ | ⟨hmem, -⟩
  · exact .inl hnull
  · cases horigin : (memory.pointer number).origin with
    | system =>
        refine .inr (.inl ⟨rfl, h.held_once.mem_iff.mp ?_⟩)
        exact List.mem_map.mpr ⟨_, List.mem_filter.mpr ⟨hmem, decide_eq_true horigin⟩, rfl⟩
    | pool => exact .inr (.inr ⟨rfl, h.in_pool _ hmem horigin⟩)

/-- **The C library gets its own exactly when both kinds of pointers are told apart.** -/
theorem Owned.returnsOwn_iff (h : memory.Owned) (call : MemoryCall) :
    memory.ReturnsOwn call ↔ memory.TellsApart call := by
  cases call with
  | malloc size answer => exact Iff.rfl
  | calloc nmemb size answer => exact Iff.rfl
  | realloc number size answer =>
      rw [ReturnsOwn, TellsApart, Returns, uesimRealloc]
      rcases h.pointer_spec number with hnull | ⟨horigin, hmem⟩ | ⟨horigin, hlow, -⟩
      · rw [hnull]
        exact iff_of_true (.inl rfl) rfl
      · exact iff_of_true (.inr ⟨horigin, hmem⟩) horigin
      · have hbase := memory.pool.base_pos
        rw [horigin]
        refine iff_of_false ?_ (by decide)
        rintro (hzero | ⟨hsystem, -⟩)
        · omega
        · cases hsystem
  | free number =>
      rw [ReturnsOwn, TellsApart]
      rcases h.pointer_spec number with hnull | ⟨horigin, hmem⟩ | ⟨horigin, hlow, hhigh⟩
      · rw [hnull]
        refine iff_of_true (fun argument hargument => .inl ?_) fun hpool => by cases hpool
        rw [uesimFree, if_neg (fun hin => Nat.not_lt.mpr hin.1 memory.pool.base_pos)] at hargument
        exact (Option.some.inj hargument).symm
      · refine iff_of_true (fun argument hargument => .inr ⟨horigin, ?_⟩) fun hpool => ?_
        · rw [(h.outside _ hmem).2] at hargument
          cases hargument
          exact hmem
        · rw [horigin] at hpool
          cases hpool
      · constructor
        · intro hreturns _ hend
          have hfree : uesimFree memory.pool (memory.pointer number).address
              = some (memory.pointer number).address := by
            rw [uesimFree, if_neg (fun hin => Nat.not_lt.mpr (Nat.le_of_eq hend.symm) hin.2)]
          rcases hreturns _ hfree with hzero | ⟨hsystem, -⟩
          · have hbase := memory.pool.base_pos
            omega
          · rw [horigin] at hsystem
            cases hsystem
        · intro hbefore argument hargument
          have hne := hbefore horigin
          rw [uesimFree, if_pos ⟨hlow, by omega⟩] at hargument
          cases hargument

/-! ### What is held stays apart -/

theorem systemHeld_perm {held held' : List MemoryPointer} (h : held.Perm held') :
    (systemHeld held).Perm (systemHeld held') :=
  (h.filter _).map _

theorem systemHeld_cons_system (address : Nat) (held : List MemoryPointer) :
    systemHeld ({ address, origin := .system } :: held) = address :: systemHeld held := rfl

theorem systemHeld_cons_pool {ptr : MemoryPointer} (h : ptr.origin = .pool) (held : List MemoryPointer) :
    systemHeld (ptr :: held) = systemHeld held := by
  rw [systemHeld, List.filter_cons_of_neg (by simp [h])]
  rfl

theorem Owned.systemMalloc (h : memory.Owned) (answer : SystemAnswer) :
    (memory.systemMalloc answer).Owned := by
  rw [MemoryState.systemMalloc]
  split
  · rename_i address hanswer
    obtain ⟨hne, -, hfree⟩ := answer.fresh _ _ _ hanswer
    exact ⟨h.used_le, h.held_once.cons address, List.forall_mem_cons.mpr ⟨⟨hne, hfree⟩, h.outside⟩,
      List.forall_mem_cons.mpr ⟨fun horigin => (by cases horigin), h.in_pool⟩⟩
  · exact h

theorem Owned.allocate (h : memory.Owned) (size : Size) (length requested : Nat) (answer : SystemAnswer) :
    (memory.allocate (uesimMalloc memory.pool size) length requested answer).Owned := by
  rw [uesimMalloc]
  split
  · rename_i hserved
    have hle := BitVec.le_def.mp h.used_le
    refine ⟨hserved, h.held_once, h.outside, List.forall_mem_cons.mpr ⟨fun _ => ⟨?_, ?_⟩, h.in_pool⟩⟩
    · exact Nat.le_add_right _ _
    · exact Nat.add_le_add_left hle _
  · exact h.systemMalloc answer

theorem Owned.giveBack (h : memory.Owned) {number : Nat} (horigin : (memory.pointer number).origin = .system)
    (hheld : memory.held.Perm (memory.pointer number :: memory.held.eraseIdx number)) :
    ({ memory with
      system := memory.system.erase (memory.pointer number).address
      held := memory.held.eraseIdx number } : MemoryState).Owned := by
  have hptr : memory.pointer number = { address := (memory.pointer number).address, origin := .system } := by
    rw [← horigin]
  have hsystem : memory.system.Perm
      ((memory.pointer number).address :: systemHeld (memory.held.eraseIdx number)) := by
    rw [← systemHeld_cons_system, ← hptr]
    exact h.held_once.symm.trans (systemHeld_perm hheld)
  refine ⟨h.used_le, ?_, fun ptr hmem => h.outside ptr (List.mem_of_mem_erase hmem),
    fun ptr hmem => h.in_pool ptr (List.mem_of_mem_eraseIdx hmem)⟩
  have herase := hsystem.erase (memory.pointer number).address
  rw [List.erase_cons_head] at herase
  exact herase.symm

theorem Owned.forget (h : memory.Owned) {number : Nat} (horigin : (memory.pointer number).origin = .pool)
    (hheld : memory.held.Perm (memory.pointer number :: memory.held.eraseIdx number)) :
    ({ memory with held := memory.held.eraseIdx number } : MemoryState).Owned := by
  refine ⟨h.used_le, ?_, h.outside, fun ptr hmem => h.in_pool ptr (List.mem_of_mem_eraseIdx hmem)⟩
  have hperm := systemHeld_perm hheld
  rw [systemHeld_cons_pool horigin] at hperm
  exact hperm.symm.trans h.held_once

theorem Owned.systemRealloc (h : memory.Owned) {number : Nat}
    (hsystem : (memory.pointer number).origin = .system) (size : Size) (answer : SystemAnswer) :
    (memory.systemRealloc number size answer).Owned := by
  rw [MemoryState.systemRealloc, uesimRealloc]
  dsimp only
  split
  · exact h.systemMalloc answer
  · rename_i hsome
    rcases memory.pointer_cases number with ⟨hnull, -⟩ | ⟨-, hheld⟩
    · exact absurd (congrArg MemoryPointer.address hnull) hsome
    · have hback := h.giveBack hsystem hheld
      split
      · split
        · rename_i address hanswer
          obtain ⟨hne, -, hfree⟩ := answer.fresh _ _ _ hanswer
          exact ⟨h.used_le, hback.held_once.cons address,
            List.forall_mem_cons.mpr ⟨⟨hne, hfree⟩, hback.outside⟩,
            List.forall_mem_cons.mpr ⟨fun horigin => (by cases horigin), hback.in_pool⟩⟩
        · split
          · exact hback
          · exact h
      · exact h

theorem Owned.release (h : memory.Owned) {number : Nat} (happart : memory.TellsApart (.free number)) :
    (memory.release number).Owned := by
  rw [MemoryState.release]
  dsimp only
  rcases memory.pointer_cases number with ⟨hnull, herase⟩ | ⟨hmem, hheld⟩
  · have hfree : uesimFree memory.pool (memory.pointer number).address = some 0 := by
      rw [hnull]
      exact if_neg fun hin => Nat.not_lt.mpr hin.1 memory.pool.base_pos
    have hzero : 0 ∉ memory.system := fun hmem => (h.outside 0 hmem).1 rfl
    rw [hfree, herase]
    dsimp only
    rw [List.erase_of_not_mem hzero]
    exact h
  · cases horigin : (memory.pointer number).origin with
    | system =>
        have hsystem : (memory.pointer number).address ∈ memory.system := by
          refine h.held_once.mem_iff.mp (List.mem_map.mpr ⟨_, List.mem_filter.mpr ⟨hmem, ?_⟩, rfl⟩)
          exact decide_eq_true horigin
        rw [(h.outside _ hsystem).2]
        exact h.giveBack horigin hheld
    | pool =>
        obtain ⟨hlow, hhigh⟩ := h.in_pool _ hmem horigin
        have hne := happart horigin
        rw [uesimFree, if_pos ⟨hlow, by omega⟩]
        exact h.forget horigin hheld

theorem Owned.call (h : memory.Owned) {call : MemoryCall} (happart : memory.TellsApart call) :
    (memoryCall memory call).Owned := by
  cases call with
  | malloc size answer => exact h.allocate size _ _ answer
  | calloc nmemb size answer => exact h.allocate (nmemb * size) _ _ answer
  | realloc number size answer => exact h.systemRealloc happart size answer
  | free number => exact h.release happart

theorem init_owned (pool : MemoryPool) (hunused : pool.usedSize = 0) : (init pool).Owned := by
  refine ⟨?_, .refl _, fun _ hmem => ?_, fun _ hmem => ?_⟩
  · change pool.usedSize ≤ pool.totalSize
    rw [hunused, BitVec.le_def]
    exact Nat.zero_le _
  · cases hmem
  · cases hmem

end MemoryState

/-- **The C library gets only its own pointers back exactly when no pointer into the pool is reallocated and
none to its end is freed.** -/
theorem memory_returnsOwn_iff (baseAddress : Nat) (hbase : 0 < baseAddress) (heapSize : Size)
    (calls : List MemoryCall) :
    Runs.Always memoryCall MemoryState.ReturnsOwn (.init (memoryInit baseAddress hbase heapSize)) calls
      ↔ Runs.Always memoryCall MemoryState.TellsApart (.init (memoryInit baseAddress hbase heapSize)) calls :=
  Runs.always_iff (fun _ call h => h.returnsOwn_iff call) (fun _ _ h happart => h.call happart)
    (MemoryState.init_owned _ rfl) calls

def SystemAnswer.only (ptr : Nat) (hne : ptr ≠ 0) : SystemAnswer where
  address pool blocks := if ptr ∉ blocks ∧ uesimFree pool ptr = some ptr then some ptr else none
  fresh pool blocks ptr' h := by
    split at h
    · rename_i hfresh
      cases h
      exact ⟨hne, hfresh⟩
    · cases h

/-- A block of the pool is freed, and one that does not fit is reallocated. -/
theorem memory_returnsOwn_heap :
    Runs.Always memoryCall MemoryState.ReturnsOwn (.init (memoryInit 4096 (by decide) 64))
      [.malloc 16 (.only 8192 (by decide)), .free 0, .malloc 100 (.only 8192 (by decide)),
        .realloc 0 200 (.only 12288 (by decide))] := by
  refine (memory_returnsOwn_iff 4096 (by decide) 64 _).mpr ⟨trivial, fun _ => ?_, trivial, ?_, trivial⟩
  · decide
  · rfl

/-- A block of the pool is reallocated. -/
theorem memory_not_returnsOwn_realloc :
    ¬Runs.Always memoryCall MemoryState.ReturnsOwn (.init (memoryInit 4096 (by decide) 64))
      [.malloc 16 (.only 8192 (by decide)), .realloc 0 32 (.only 8192 (by decide))] := by
  rintro ⟨-, hreturns, -⟩
  rcases hreturns with hzero | ⟨hsystem, -⟩
  · exact absurd hzero (by decide)
  · exact absurd hsystem (by decide)

end Uesim
