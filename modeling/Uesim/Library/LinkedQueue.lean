import Mathlib.Data.List.Nodup
import Mathlib.Logic.Function.Basic

/-!
# Queues of linked nodes

A queue with a link to its first node and one to its last. A node is appended behind the last one and taken
from the front; both move as many links as the queue is short.
-/

namespace LinkedQueue

variable {α : Type}

structure Node (α : Type) where
  value : α
  next : Option Nat

/-- The nodes that are allocated, by their address. -/
abbrev Heap (α : Type) := Nat → Option (Node α)

/-- Following the link meets these nodes, and then no more. -/
def Linked (heap : Heap α) : Option Nat → List (Nat × α) → Prop
  | link, [] => link = none
  | link, (ptr, value) :: nodes =>
      link = some ptr ∧ ∃ next, heap ptr = some ⟨value, next⟩ ∧ Linked heap next nodes

theorem Linked.congr {heap heap' : Heap α} {link : Option Nat} {nodes : List (Nat × α)}
    (h : Linked heap link nodes) (hsame : ∀ node ∈ nodes, heap' node.1 = heap node.1) :
    Linked heap' link nodes := by
  induction nodes generalizing link with
  | nil => exact h
  | cons node nodes ih =>
      obtain ⟨hfirst, hrest⟩ := List.forall_mem_cons.mp hsame
      obtain ⟨hlink, next, hnode, hnodes⟩ := h
      exact ⟨hlink, next, hfirst.trans hnode, ih hnodes hrest⟩

theorem Linked.allocated {heap : Heap α} {link : Option Nat} {nodes : List (Nat × α)}
    (h : Linked heap link nodes) {node : Nat × α} (hnode : node ∈ nodes) : heap node.1 ≠ none := by
  induction nodes generalizing link with
  | nil => cases hnode
  | cons first nodes ih =>
      obtain ⟨-, next, hfirst, hnodes⟩ := h
      rcases List.mem_cons.mp hnode with rfl | hnode
      · rw [hfirst]
        exact Option.some_ne_none _
      · exact ih hnodes hnode

theorem Linked.append {heap heap' : Heap α} {link : Option Nat} {nodes : List (Nat × α)}
    {last new : Nat × α} (h : Linked heap link (nodes ++ [last]))
    (hsame : ∀ node ∈ nodes, heap' node.1 = heap node.1)
    (hlast : heap' last.1 = some ⟨last.2, some new.1⟩) (hnew : heap' new.1 = some ⟨new.2, none⟩) :
    Linked heap' link (nodes ++ [last] ++ [new]) := by
  induction nodes generalizing link with
  | nil =>
      obtain ⟨hlink, -⟩ := h
      exact ⟨hlink, _, hlast, rfl, _, hnew, rfl⟩
  | cons node nodes ih =>
      obtain ⟨hfirst, hrest⟩ := List.forall_mem_cons.mp hsame
      obtain ⟨hlink, next, hnode, hnodes⟩ := h
      exact ⟨hlink, next, hfirst.trans hnode, ih hnodes hrest⟩

theorem Linked.last {heap : Heap α} {link : Option Nat} {nodes : List (Nat × α)} {last : Nat × α}
    (h : Linked heap link (nodes ++ [last])) : heap last.1 = some ⟨last.2, none⟩ := by
  induction nodes generalizing link with
  | nil =>
      obtain ⟨-, next, hlast, hnext⟩ := h
      have hnone : next = none := hnext
      rw [hlast, hnone]
  | cons node nodes ih =>
      obtain ⟨-, next, -, hnodes⟩ := h
      exact ih hnodes

/-- A queue of these nodes, with its two links. -/
structure Queue (heap : Heap α) (head tail : Option Nat) (nodes : List (Nat × α)) : Prop where
  linked : Linked heap head nodes
  tail_eq : tail = nodes.getLast?.map (·.1)
  nodup : (nodes.map (·.1)).Nodup

namespace Queue

variable {heap : Heap α} {head tail : Option Nat} {nodes : List (Nat × α)}

theorem head_eq_none_iff (h : Queue heap head tail nodes) : head = none ↔ nodes = [] := by
  have hlinked := h.linked
  cases nodes with
  | nil => exact iff_of_true hlinked rfl
  | cons node nodes =>
      obtain ⟨rfl, -⟩ := hlinked
      exact iff_of_false (Option.some_ne_none _) (List.cons_ne_nil _ _)

theorem tail_eq_none_iff (h : Queue heap head tail nodes) : tail = none ↔ nodes = [] := by
  rw [h.tail_eq, Option.map_eq_none_iff, List.getLast?_eq_none_iff]

theorem not_mem (h : Queue heap head tail nodes) {ptr : Nat} (hfree : heap ptr = none) :
    ptr ∉ nodes.map (·.1) := by
  intro hmem
  obtain ⟨node, hnode, rfl⟩ := List.mem_map.mp hmem
  exact h.linked.allocated hnode hfree

theorem nodup_append (h : Queue heap head tail nodes) {ptr : Nat} (hfree : heap ptr = none) (value : α) :
    ((nodes ++ [(ptr, value)]).map (·.1)).Nodup := by
  rw [List.map_append, List.map_singleton, List.nodup_append_comm, List.singleton_append,
    List.nodup_cons]
  exact ⟨h.not_mem hfree, h.nodup⟩

theorem push_first (h : Queue heap head tail nodes) (htail : tail = none) (ptr : Nat) (value : α) :
    Queue (Function.update heap ptr (some ⟨value, none⟩)) (some ptr) (some ptr)
      (nodes ++ [(ptr, value)]) := by
  obtain rfl := h.tail_eq_none_iff.mp htail
  exact ⟨⟨rfl, none, Function.update_self _ _ _, rfl⟩, rfl, List.nodup_singleton _⟩

theorem push (h : Queue heap head tail nodes) {last : Nat} (htail : tail = some last) {ptr : Nat}
    (hfree : heap ptr = none) (value : α) :
    ∃ node, heap last = some node
      ∧ Queue (Function.update (Function.update heap ptr (some ⟨value, none⟩)) last
          (some { node with next := some ptr })) head (some ptr) (nodes ++ [(ptr, value)]) := by
  have hne : nodes ≠ [] := fun hnil => by
    rw [h.tail_eq_none_iff.mpr hnil] at htail
    cases htail
  obtain ⟨front, node, rfl⟩ : ∃ front node, nodes = front ++ [node] :=
    ⟨_, _, (List.dropLast_append_getLast hne).symm⟩
  have hlast : last = node.1 := by
    have htail' := h.tail_eq
    rw [htail, List.getLast?_concat] at htail'
    exact Option.some.inj htail'
  subst hlast
  have hfresh := h.not_mem hfree
  have hptr : ptr ≠ node.1 := by
    rintro rfl
    exact hfresh (List.mem_map.mpr ⟨node, by simp, rfl⟩)
  have hfront : ∀ other ∈ front, other.1 ≠ node.1 ∧ other.1 ≠ ptr := by
    intro other hother
    constructor
    · intro hsame
      have hnodup := h.nodup
      rw [List.map_append, List.nodup_append] at hnodup
      exact hnodup.2.2 other.1 (List.mem_map.mpr ⟨other, hother, rfl⟩) node.1 (by simp) hsame
    · rintro rfl
      exact hfresh (List.mem_map.mpr ⟨other, by simp [hother], rfl⟩)
  refine ⟨⟨node.2, none⟩, h.linked.last, ?_, ?_, h.nodup_append hfree value⟩
  · refine h.linked.append (fun other hother => ?_) (Function.update_self _ _ _) ?_
    · rw [Function.update_of_ne (hfront other hother).1, Function.update_of_ne (hfront other hother).2]
    · rw [Function.update_of_ne hptr, Function.update_self]
  · rw [List.getLast?_concat]
    rfl

theorem pop (h : Queue heap head tail nodes) {first : Nat} (hhead : head = some first) :
    ∃ node rest, heap first = some node ∧ nodes = (first, node.value) :: rest
      ∧ Queue (Function.update heap first none) node.next
        (if node.next = none then none else tail) rest := by
  have hlinked := h.linked
  cases nodes with
  | nil =>
      rw [hhead] at hlinked
      cases hlinked
  | cons node rest =>
      obtain ⟨hlink, next, hnode, hrest⟩ := hlinked
      have hfirst : first = node.1 := Option.some.inj (hhead.symm.trans hlink)
      subst hfirst
      have hnodup := h.nodup
      rw [List.map_cons, List.nodup_cons] at hnodup
      have hkept : Linked (Function.update heap node.1 none) next rest := by
        refine hrest.congr fun other hother => Function.update_of_ne ?_ _ _
        intro hsame
        exact hnodup.1 (List.mem_map.mpr ⟨other, hother, hsame⟩)
      refine ⟨⟨node.2, next⟩, rest, hnode, rfl, hkept, ?_, hnodup.2⟩
      dsimp only
      cases rest with
      | nil =>
          have hnone : next = none := hrest
          rw [if_pos hnone]
          rfl
      | cons other rest =>
          obtain ⟨rfl, -⟩ := hrest
          rw [if_neg (Option.some_ne_none _), h.tail_eq, List.getLast?_cons_cons]

end Queue

theorem queue_empty : Queue (fun _ => none : Heap α) none none [] :=
  ⟨rfl, rfl, List.nodup_nil⟩

end LinkedQueue
