import Uesim.Library.Bytes

/-!
# Elements with a type and a length

Each element of a message has two bytes for its type, two bytes for a length, and its content. The content of
a grouped element is made of elements again. A writer announces lengths that it computes as it likes. Whoever
reads the message moves on by what is announced, and finds the elements that were written exactly if each of
them announces the length that its content has.
-/

namespace Tlv

open Bytes

/-! ### Numbers in bytes, the highest first -/

variable {w : Nat}

def beBytes (v : BitVec w) : Nat → List Byte
  | 0 => []
  | n + 1 => (v >>> (8 * n)).setWidth 8 :: beBytes v n

/-- The number with one more byte at its end. -/
def appendByte (acc : BitVec w) (byte : Byte) : BitVec w := (acc <<< 8) ||| byte.setWidth w

def beValue (w : Nat) (bytes : List Byte) : BitVec w := bytes.foldl appendByte 0

@[simp]
theorem length_beBytes (v : BitVec w) (n : Nat) : (beBytes v n).length = n := by
  induction n with
  | zero => rfl
  | succ n ih => rw [beBytes, List.length_cons, ih]

theorem appendByte_shift (v : BitVec w) (n : Nat) :
    appendByte (v >>> (8 * (n + 1))) ((v >>> (8 * n)).setWidth 8) = v >>> (8 * n) := by
  apply BitVec.eq_of_getLsbD_eq
  intro i hi
  by_cases hlow : i < 8
  · simp [appendByte, hi, hlow]
  · have hplace : 8 * (n + 1) + (i - 8) = 8 * n + i := by omega
    simp [appendByte, hi, hlow, hplace]

theorem foldl_beBytes (v : BitVec w) (n : Nat) :
    (beBytes v n).foldl appendByte (v >>> (8 * n)) = v := by
  induction n with
  | zero => rw [beBytes, List.foldl_nil, Nat.mul_zero, BitVec.ushiftRight_zero]
  | succ n ih => rw [beBytes, List.foldl_cons, appendByte_shift, ih]

theorem beValue_beBytes (v : BitVec w) {n : Nat} (hn : w ≤ 8 * n) : beValue w (beBytes v n) = v := by
  have hzero : v >>> (8 * n) = 0 := BitVec.ushiftRight_eq_zero hn
  rw [beValue, ← hzero]
  exact foldl_beBytes v n

theorem beBytes_inj {v v' : BitVec w} {n : Nat} (hn : w ≤ 8 * n) :
    beBytes v n = beBytes v' n ↔ v = v' := by
  constructor
  · intro h
    rw [← beValue_beBytes v hn, h, beValue_beBytes v' hn]
  · rintro rfl
    rfl

/-- Bits above those that are written do not matter. -/
theorem beBytes_setWidth (v : BitVec w) {w' n : Nat} (hn : 8 * n ≤ w') :
    beBytes (v.setWidth w') n = beBytes v n := by
  induction n with
  | zero => rfl
  | succ n ih =>
      have hbyte : (v.setWidth w' >>> (8 * n)).setWidth 8 = (v >>> (8 * n)).setWidth 8 := by
        apply BitVec.eq_of_getLsbD_eq
        intro i hi
        have hplace : 8 * n + i < w' := by omega
        simp [hi, hplace]
      rw [beBytes, beBytes, hbyte, ih (by omega)]

/-! ### Elements -/

def header (type len : BitVec 16) : List Byte := beBytes type 2 ++ beBytes len 2

@[simp]
theorem length_header (type len : BitVec 16) : (header type len).length = 4 := rfl

theorem header_append_inj {type type' len len' : BitVec 16} {bytes bytes' : List Byte} :
    header type len ++ bytes = header type' len' ++ bytes' ↔ type = type' ∧ len = len' ∧ bytes = bytes' := by
  constructor
  · intro h
    obtain ⟨hheader, hbytes⟩ := List.append_inj h rfl
    obtain ⟨htype, hlen⟩ := List.append_inj hheader rfl
    exact ⟨(beBytes_inj (by decide)).mp htype, (beBytes_inj (by decide)).mp hlen, hbytes⟩
  · rintro ⟨rfl, rfl, rfl⟩
    rfl

/-- An element with the length that its writer announces. -/
inductive Element where
  | plain (type announced : BitVec 16) (content : List Byte)
  | grouped (type announced : BitVec 16) (members : List Element)

namespace Element

def type : Element → BitVec 16
  | plain type _ _ => type
  | grouped type _ _ => type

def announced : Element → BitVec 16
  | plain _ announced _ => announced
  | grouped _ announced _ => announced

end Element

mutual

/-- What is written behind the header of an element. -/
def Element.content : Element → List Byte
  | .plain _ _ content => content
  | .grouped _ _ members => elementsBytes members

/-- What is written for elements one after the other. -/
def elementsBytes : List Element → List Byte
  | [] => []
  | element :: elements =>
      header element.type element.announced ++ element.content ++ elementsBytes elements

end

@[simp]
theorem elementsBytes_nil : elementsBytes [] = [] := rfl

theorem elementsBytes_cons (element : Element) (elements : List Element) :
    elementsBytes (element :: elements)
      = header element.type element.announced ++ (element.content ++ elementsBytes elements) := by
  rw [elementsBytes, List.append_assoc]

@[simp]
theorem Element.content_plain (type announced : BitVec 16) (content : List Byte) :
    (Element.plain type announced content).content = content := by
  rw [Element.content]

@[simp]
theorem Element.content_grouped (type announced : BitVec 16) (members : List Element) :
    (Element.grouped type announced members).content = elementsBytes members := by
  rw [Element.content]

theorem length_elementsBytes_cons (element : Element) (elements : List Element) :
    (elementsBytes (element :: elements)).length
      = 4 + element.content.length + (elementsBytes elements).length := by
  rw [elementsBytes_cons, List.length_append, List.length_append, length_header, Nat.add_assoc]

theorem elementsBytes_append (first second : List Element) :
    elementsBytes (first ++ second) = elementsBytes first ++ elementsBytes second := by
  induction first with
  | nil => rfl
  | cons element first ih => simp [elementsBytes_cons, ih]

/-- What holds of no elements, and of elements with one more in front of them, holds of all. -/
theorem elements_induction {P : List Element → Prop} (hnil : P [])
    (hplain : ∀ type announced content elements, P elements →
      P (.plain type announced content :: elements))
    (hgrouped : ∀ type announced members elements, P members → P elements →
      P (.grouped type announced members :: elements)) (elements : List Element) : P elements :=
  @Element.rec_1 (fun element => ∀ elements, P elements → P (element :: elements)) P hplain
    (fun type announced members ihMembers elements => hgrouped type announced members elements ihMembers)
    hnil (fun _ elements hcons ih => hcons elements ih) elements

/-! ### Walks -/

/-- A walk over the bytes by their types and lengths visits these elements, and ends with the last byte.
Inside of a grouped element a walk over its content does the same. -/
inductive Visits : List Byte → List Element → Prop
  | nil : Visits [] []
  | plain {len : BitVec 16} {content rest : List Byte} {elements : List Element}
      (type announced : BitVec 16) (hlen : len.toNat = content.length) (hrest : Visits rest elements) :
      Visits (header type len ++ (content ++ rest)) (.plain type announced content :: elements)
  | grouped {len : BitVec 16} {content rest : List Byte} {members elements : List Element}
      (type announced : BitVec 16) (hlen : len.toNat = content.length)
      (hmembers : Visits content members) (hrest : Visits rest elements) :
      Visits (header type len ++ (content ++ rest)) (.grouped type announced members :: elements)

/-- Each element announces the length of its content, and so do its members. -/
inductive Element.Sized : Element → Prop
  | plain {type announced : BitVec 16} {content : List Byte} (hlen : announced.toNat = content.length) :
      Sized (.plain type announced content)
  | grouped {type announced : BitVec 16} {members : List Element}
      (hlen : announced.toNat = (elementsBytes members).length)
      (hmembers : ∀ member ∈ members, member.Sized) : Sized (.grouped type announced members)

theorem Element.sized_plain_iff {type announced : BitVec 16} {content : List Byte} :
    (Element.plain type announced content).Sized ↔ announced.toNat = content.length := by
  constructor
  · rintro ⟨hlen⟩
    exact hlen
  · exact .plain

theorem Element.sized_grouped_iff {type announced : BitVec 16} {members : List Element} :
    (Element.grouped type announced members).Sized
      ↔ announced.toNat = (elementsBytes members).length ∧ ∀ member ∈ members, member.Sized := by
  constructor
  · rintro (_ | ⟨hlen, hmembers⟩)
    exact ⟨hlen, hmembers⟩
  · rintro ⟨hlen, hmembers⟩
    exact .grouped hlen hmembers

theorem Visits.plain_inv {bytes content : List Byte} {type announced : BitVec 16} {elements : List Element}
    (h : Visits bytes (.plain type announced content :: elements)) :
    ∃ (len : BitVec 16) (rest : List Byte), len.toNat = content.length ∧ Visits rest elements
      ∧ bytes = header type len ++ (content ++ rest) := by
  cases h with
  | plain _ _ hlen hrest => exact ⟨_, _, hlen, hrest, rfl⟩

theorem Visits.grouped_inv {bytes : List Byte} {type announced : BitVec 16} {members elements : List Element}
    (h : Visits bytes (.grouped type announced members :: elements)) :
    ∃ (len : BitVec 16) (content rest : List Byte), len.toNat = content.length ∧ Visits content members
      ∧ Visits rest elements ∧ bytes = header type len ++ (content ++ rest) := by
  cases h with
  | grouped _ _ hlen hmembers hrest => exact ⟨_, _, _, hlen, hmembers, hrest, rfl⟩

theorem Element.Sized.toNat_announced {element : Element} (h : element.Sized) :
    element.announced.toNat = element.content.length := by
  cases h with
  | plain hlen => simpa [Element.announced] using hlen
  | grouped hlen _ => simpa [Element.announced] using hlen

/-- A walk passes as many bytes as are written for what it visits. -/
theorem Visits.length_eq {bytes : List Byte} {elements : List Element} (h : Visits bytes elements) :
    bytes.length = (elementsBytes elements).length := by
  induction h with
  | nil => rfl
  | plain type announced hlen hrest ih =>
      simp [length_elementsBytes_cons, ih, Nat.add_assoc]
  | grouped type announced hlen hmembers hrest ihMembers ih =>
      simp [length_elementsBytes_cons, ihMembers, ih, Nat.add_assoc]

theorem visits_of_sized (elements : List Element) (h : ∀ element ∈ elements, element.Sized) :
    Visits (elementsBytes elements) elements := by
  revert h
  apply elements_induction
    (P := fun elements => (∀ element ∈ elements, element.Sized) → Visits (elementsBytes elements) elements)
  · intro _
    exact .nil
  · intro type announced content elements ih h
    obtain ⟨hfirst, hrest⟩ := List.forall_mem_cons.mp h
    rw [elementsBytes_cons]
    exact .plain type announced (Element.sized_plain_iff.mp hfirst) (ih hrest)
  · intro type announced members elements ihMembers ih h
    obtain ⟨hfirst, hrest⟩ := List.forall_mem_cons.mp h
    obtain ⟨hlen, hmembers⟩ := Element.sized_grouped_iff.mp hfirst
    rw [elementsBytes_cons]
    exact .grouped type announced hlen (ihMembers hmembers) (ih hrest)

theorem sized_of_visits (elements : List Element) (h : Visits (elementsBytes elements) elements) :
    ∀ element ∈ elements, element.Sized := by
  revert h
  apply elements_induction
    (P := fun elements => Visits (elementsBytes elements) elements → ∀ element ∈ elements, element.Sized)
  · intro _
    exact List.forall_mem_nil _
  · intro type announced content elements ih h
    obtain ⟨len, rest, hlen, hrest, hbytes⟩ := Visits.plain_inv h
    rw [elementsBytes_cons, header_append_inj] at hbytes
    obtain ⟨-, rfl, hbytes⟩ := hbytes
    obtain rfl := List.append_cancel_left hbytes
    exact List.forall_mem_cons.mpr ⟨.plain hlen, ih hrest⟩
  · intro type announced members elements ihMembers ih h
    obtain ⟨len, content, rest, hlen, hmembers, hrest, hbytes⟩ := Visits.grouped_inv h
    rw [elementsBytes_cons, header_append_inj] at hbytes
    obtain ⟨-, rfl, hbytes⟩ := hbytes
    obtain ⟨rfl, rfl⟩ := List.append_inj hbytes hmembers.length_eq.symm
    exact List.forall_mem_cons.mpr ⟨.grouped hlen (ihMembers hmembers), ih hrest⟩

/-- **A walk over what is written visits the elements that were written, exactly if all of them announce the
lengths that they have.** -/
theorem visits_elementsBytes_iff {elements : List Element} :
    Visits (elementsBytes elements) elements ↔ ∀ element ∈ elements, element.Sized :=
  ⟨sized_of_visits elements, visits_of_sized elements⟩

/-! ### Reading on the fly -/

/-- What a reader finds that does not know what was written: types with contents, until less than a header is
left or a length goes past the end. -/
def walk : List Byte → List (BitVec 16 × List Byte)
  | type₁ :: type₀ :: len₁ :: len₀ :: rest =>
      let len := (beValue 16 [len₁, len₀]).toNat
      if len ≤ rest.length then (beValue 16 [type₁, type₀], rest.take len) :: walk (rest.drop len) else []
  | _ => []
  termination_by bytes => bytes.length
  decreasing_by
    simp only [List.length_drop, List.length_cons]
    omega

@[simp]
theorem walk_nil : walk [] = [] := by
  rw [walk]
  simp

theorem walk_header_append (type len : BitVec 16) (rest : List Byte) :
    walk (header type len ++ rest)
      = if len.toNat ≤ rest.length then (type, rest.take len.toNat) :: walk (rest.drop len.toNat)
        else [] := by
  have htype : beValue 16 (beBytes type 2) = type := beValue_beBytes type (by decide)
  have hlen : beValue 16 (beBytes len 2) = len := beValue_beBytes len (by decide)
  simp only [beBytes] at htype hlen
  simp only [header, beBytes, List.cons_append, List.nil_append]
  rw [walk, htype, hlen]

/-- A length that is right leads to the next header. -/
theorem walk_element {type len : BitVec 16} {content : List Byte} (hlen : len.toNat = content.length)
    (rest : List Byte) :
    walk (header type len ++ (content ++ rest)) = (type, content) :: walk rest := by
  rw [walk_header_append, if_pos, hlen, List.take_left, List.drop_left]
  rw [hlen, List.length_append]
  exact Nat.le_add_right _ _

/-- A length that goes past the end ends the walk. -/
theorem walk_of_length_lt {type len : BitVec 16} {rest : List Byte} (hlen : rest.length < len.toNat) :
    walk (header type len ++ rest) = [] := by
  rw [walk_header_append, if_neg (Nat.not_le.mpr hlen)]

end Tlv
