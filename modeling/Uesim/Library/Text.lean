import Uesim.Library.Bytes
import Mathlib.Data.List.DropRight
import Mathlib.Data.Nat.Digits.Lemmas

/-!
# Text in bytes

Lines as `fgets` reads them, the blanks around a key and its value, and decimal numbers.
-/

namespace Text

open Bytes

def byte (c : Char) : Byte := BitVec.ofNat 8 c.toNat

/-- The bytes of a string literal. -/
def text (s : String) : List Byte := s.toByteArray.data.toList.map UInt8.toBitVec

/-! ### Lines -/

/-- Every line up to its newline, or up to what the buffer holds. -/
def fgetsLines (size : Nat) (line : List Byte) : List Byte → List (List Byte)
  | [] => if line = [] then [] else [line]
  | b :: rest =>
      if b = byte '\n' ∨ (line ++ [b]).length + 1 = size then
        (line ++ [b]) :: fgetsLines size [] rest
      else fgetsLines size (line ++ [b]) rest

/-- A line with its newline at the end, that fits in the buffer. -/
structure IsLine (size : Nat) (line : List Byte) : Prop where
  ends : ∃ front, line = front ++ [byte '\n'] ∧ byte '\n' ∉ front
  length_lt : line.length < size

theorem fgetsLines_append {size : Nat} {line front rest : List Byte} (hfront : byte '\n' ∉ front)
    (hlength : (line ++ front).length + 1 < size) :
    fgetsLines size line (front ++ byte '\n' :: rest)
      = (line ++ front ++ [byte '\n']) :: fgetsLines size [] rest := by
  induction front generalizing line with
  | nil =>
      rw [List.nil_append, fgetsLines, if_pos (.inl rfl), List.append_nil]
  | cons b front ih =>
      obtain ⟨hb, hrest⟩ := not_or.mp (List.mem_cons.not.mp hfront)
      have hsame : line ++ b :: front = line ++ [b] ++ front := by
        rw [List.append_assoc]
        rfl
      rw [hsame] at hlength ⊢
      have hroom : ¬(b = byte '\n' ∨ (line ++ [b]).length + 1 = size) := by
        rintro (heq | hfull)
        · exact hb heq.symm
        · rw [List.length_append] at hlength
          omega
      rw [List.cons_append, fgetsLines, if_neg hroom]
      exact ih hrest hlength

/-- **What has been written line by line is read line by line.** -/
theorem fgetsLines_flatten {size : Nat} {lines : List (List Byte)} (h : ∀ line ∈ lines, IsLine size line) :
    fgetsLines size [] lines.flatten = lines := by
  induction lines with
  | nil => rfl
  | cons line lines ih =>
      obtain ⟨⟨front, rfl, hfront⟩, hlength⟩ := h line List.mem_cons_self
      rw [List.flatten_cons, List.append_assoc]
      rw [List.length_append] at hlength
      refine (fgetsLines_append hfront hlength).trans ?_
      change (front ++ [byte '\n']) :: fgetsLines size [] lines.flatten = _
      rw [ih fun line hmem => h line (List.mem_cons_of_mem _ hmem)]

/-- A line that fills the buffer goes on in the next one. -/
theorem fgetsLines_full {size : Nat} {line front rest : List Byte} (hfront : byte '\n' ∉ front)
    (hne : front ≠ []) (hlength : (line ++ front).length + 1 = size) :
    fgetsLines size line (front ++ rest) = (line ++ front) :: fgetsLines size [] rest := by
  induction front generalizing line with
  | nil => exact absurd rfl hne
  | cons b front ih =>
      obtain ⟨hb, hrest⟩ := not_or.mp (List.mem_cons.not.mp hfront)
      have hsame : line ++ b :: front = line ++ [b] ++ front := by
        rw [List.append_assoc]
        rfl
      rw [hsame] at hlength ⊢
      rw [List.cons_append, fgetsLines]
      by_cases hlast : front = []
      · rw [hlast, List.append_nil] at hlength
        rw [hlast, List.append_nil, List.nil_append, if_pos (.inr hlength)]
      · have hroom : ¬(b = byte '\n' ∨ (line ++ [b]).length + 1 = size) := by
          rintro (heq | hfull)
          · exact hb heq.symm
          · rw [List.length_append] at hlength
            exact hlast (List.length_eq_zero_iff.mp (by omega))
        rw [if_neg hroom]
        exact ih hrest hlast hlength

theorem length_lt_of_mem_fgetsLines {size : Nat} {line front file : List Byte} (hfront : front.length + 1 < size)
    (h : line ∈ fgetsLines size front file) : line.length < size := by
  induction file generalizing front with
  | nil =>
      rw [fgetsLines] at h
      split at h
      · exact absurd h List.not_mem_nil
      · rw [List.mem_singleton.mp h]
        omega
  | cons b file ih =>
      have hnext : (front ++ [b]).length = front.length + 1 := List.length_append
      rw [fgetsLines] at h
      split at h
      · rcases List.mem_cons.mp h with rfl | hmem
        · omega
        · exact ih (by rw [List.length_nil]; omega) hmem
      · rename_i hroom
        exact ih (by rw [hnext] at hroom ⊢; omega) h

/-! ### Keys and values -/

def isBlank (b : Byte) : Bool := b = byte ' ' || b = byte '\t'

def isSpace (b : Byte) : Bool := isBlank b || b = byte '\n' || b = byte '\r'

/-- Bytes are dropped from the end, but never the first one. -/
def trimEnd (p : Byte → Bool) : List Byte → List Byte
  | [] => []
  | b :: rest => b :: rest.rdropWhile p

/-- A key is a word, without anything that means something in a line. -/
structure IsKey (key : List Byte) : Prop where
  ne_nil : key ≠ []
  length_lt : key.length < 64
  plain : ∀ b ∈ key, b ≠ 0 ∧ b ≠ byte '#' ∧ b ≠ byte '=' ∧ b ≠ byte '[' ∧ isSpace b = false

def isKey (key : List Byte) : Bool :=
  key ≠ [] && decide (key.length < 64) && key.all fun b =>
    !(b == 0) && !(b == byte '#') && !(b == byte '=') && !(b == byte '[') && !isSpace b

theorem IsKey.of_isKey {key : List Byte} (h : isKey key = true) : IsKey key := by
  unfold isKey at h
  rw [Bool.and_eq_true, Bool.and_eq_true, decide_eq_true_eq, decide_eq_true_eq, List.all_eq_true] at h
  refine ⟨h.1.1, h.1.2, fun b hb => ?_⟩
  have hplain := h.2 b hb
  simp only [Bool.and_eq_true, Bool.not_eq_true', beq_eq_false_iff_ne] at hplain
  exact ⟨hplain.1.1.1.1, hplain.1.1.1.2, hplain.1.1.2, hplain.1.2, hplain.2⟩

/-- A value of one line: no end of a line or a string, no comment, and no blanks around it. -/
structure IsValue (value : List Byte) : Prop where
  plain : ∀ b ∈ value, b ≠ 0 ∧ b ≠ byte '#' ∧ b ≠ byte '\n' ∧ b ≠ byte '\r'
  head : ∀ b ∈ value.head?, isBlank b = false
  last : ∀ b ∈ value.getLast?, isBlank b = false

def isValue (value : List Byte) : Bool :=
  (value.all fun b => !(b == 0) && !(b == byte '#') && !(b == byte '\n') && !(b == byte '\r'))
    && value.head?.all (!isBlank ·) && value.getLast?.all (!isBlank ·)

theorem IsValue.of_isValue {value : List Byte} (h : isValue value = true) : IsValue value := by
  unfold isValue at h
  rw [Bool.and_eq_true, Bool.and_eq_true, List.all_eq_true, Option.all_eq_true, Option.all_eq_true] at h
  refine ⟨fun b hb => ?_, fun b hb => ?_, fun b hb => ?_⟩
  · have hplain := h.1.1 b hb
    simp only [Bool.and_eq_true, Bool.not_eq_true', beq_eq_false_iff_ne] at hplain
    exact ⟨hplain.1.1.1, hplain.1.1.2, hplain.1.2, hplain.2⟩
  · exact (Bool.not_eq_true' _).mp (h.1.2 b hb)
  · exact (Bool.not_eq_true' _).mp (h.2 b hb)

/-- What is left of a line without its comment and the blanks around it. -/
def strip (line : List Byte) : List Byte :=
  trimEnd isSpace (((line.takeWhile (· ≠ 0)).takeWhile (· ≠ byte '#')).dropWhile isBlank)

def keyOf (start : List Byte) : List Byte := trimEnd isBlank (start.takeWhile (· ≠ byte '='))

def valueOf (start : List Byte) : List Byte := ((start.dropWhile (· ≠ byte '=')).tail).dropWhile isBlank

def lower (b : Byte) : Byte := if byte 'A' ≤ b ∧ b ≤ byte 'Z' then b + 32 else b

/-- `strcasecmp` finds no difference. -/
def eqIgnoreCase (a b : List Byte) : Bool := a.map lower = b.map lower

section Line

variable {p : Byte → Bool} {key value front back : List Byte}

theorem isBlank_of_isSpace {b : Byte} (h : isSpace b = false) : isBlank b = false := by
  unfold isSpace at h
  rw [Bool.or_eq_false_iff, Bool.or_eq_false_iff] at h
  exact h.1.1

theorem rdropWhile_append_of_forall (hback : ∀ b ∈ back, p b = true) :
    (front ++ back).rdropWhile p = front.rdropWhile p := by
  induction back using List.reverseRecOn with
  | nil => rw [List.append_nil]
  | append_singleton back b ih =>
      rw [← List.append_assoc, List.rdropWhile_concat_pos p _ b (hback b (List.mem_append_right _ (by simp)))]
      exact ih fun other hmem => hback other (List.mem_append_left _ hmem)

theorem trimEnd_append (hfront : front ≠ []) (hlast : ∀ b ∈ front.getLast?, p b = false)
    (hback : ∀ b ∈ back, p b = true) : trimEnd p (front ++ back) = front := by
  obtain ⟨b, rest, rfl⟩ := List.exists_cons_of_ne_nil hfront
  have hrest : rest.rdropWhile p = rest := by
    rw [List.rdropWhile_eq_self_iff]
    intro hne
    rw [hlast _ (by rw [List.getLast?_cons_of_ne_nil hne]; exact List.getLast?_eq_some_getLast hne)]
    exact Bool.false_ne_true
  rw [List.cons_append, trimEnd, rdropWhile_append_of_forall hback, hrest]

theorem takeWhile_eq_self {line : List Byte} {b : Byte} (h : b ∉ line) :
    line.takeWhile (· ≠ b) = line := by
  rw [List.takeWhile_eq_self_iff]
  intro other hmem
  exact decide_eq_true fun heq => h (heq ▸ hmem)

theorem dropWhile_eq_self {line : List Byte} (h : ∀ b ∈ line.head?, p b = false) :
    line.dropWhile p = line := by
  cases line with
  | nil => rfl
  | cons b rest =>
      rw [List.dropWhile_cons, if_neg]
      rw [h b rfl]
      exact Bool.false_ne_true

/-- The part behind the equals sign, as it is left when the line has been stripped. -/
def afterEquals (value : List Byte) : List Byte := if value = [] then [] else byte ' ' :: value

theorem keyLine_eq (key value : List Byte) :
    ∃ back, key ++ text " = " ++ value ++ [byte '\n'] = key ++ text " =" ++ afterEquals value ++ back
      ∧ ∀ b ∈ back, isSpace b = true := by
  by_cases hnil : value = []
  · refine ⟨[byte ' ', byte '\n'], ?_, by decide⟩
    rw [hnil, afterEquals, if_pos rfl, List.append_nil, List.append_nil, List.append_assoc, List.append_assoc]
    rfl
  · refine ⟨[byte '\n'], ?_, by decide⟩
    rw [afterEquals, if_neg hnil, List.append_assoc, List.append_assoc, List.append_assoc, List.append_assoc]
    rfl

theorem getLast?_afterEquals (hvalue : IsValue value) :
    ∀ b ∈ (key ++ text " =" ++ afterEquals value).getLast?, isSpace b = false := by
  intro b hb
  by_cases hnil : value = []
  · rw [hnil, afterEquals, if_pos rfl, List.append_nil, List.getLast?_append] at hb
    obtain rfl : byte '=' = b := Option.some.inj hb
    rfl
  · rw [afterEquals, if_neg hnil, List.getLast?_append, List.getLast?_cons_of_ne_nil hnil,
      List.getLast?_eq_some_getLast hnil] at hb
    obtain rfl : value.getLast hnil = b := Option.some.inj hb
    have hplain := hvalue.plain _ (List.getLast_mem hnil)
    have hlast := hvalue.last _ (List.getLast?_eq_some_getLast hnil)
    unfold isSpace
    rw [hlast, decide_eq_false hplain.2.2.1, decide_eq_false hplain.2.2.2]
    rfl

theorem head?_append_key (hkey : IsKey key) (back : List Byte) :
    ∀ b ∈ (key ++ back).head?, isBlank b = false := by
  intro b hb
  obtain ⟨first, rest, rfl⟩ := List.exists_cons_of_ne_nil hkey.ne_nil
  obtain rfl : first = b := Option.some.inj hb
  exact isBlank_of_isSpace (hkey.plain first List.mem_cons_self).2.2.2.2

theorem strip_keyLine (hkey : IsKey key) (hvalue : IsValue value) :
    strip (key ++ text " = " ++ value ++ [byte '\n']) = key ++ text " =" ++ afterEquals value := by
  have hmem (b : Byte) (hkey' : b ∉ key) (hvalue' : b ∉ value) (hother : b ∉ text " = " ∧ b ≠ byte '\n') :
      b ∉ key ++ text " = " ++ value ++ [byte '\n'] := by
    rw [List.mem_append, List.mem_append, List.mem_append, List.mem_singleton]
    rintro (((h | h) | h) | h)
    · exact hkey' h
    · exact hother.1 h
    · exact hvalue' h
    · exact hother.2 h
  have hzero := hmem 0 (fun h => (hkey.plain 0 h).1 rfl) (fun h => (hvalue.plain 0 h).1 rfl) (by decide)
  have hcomment := hmem (byte '#') (fun h => (hkey.plain _ h).2.1 rfl) (fun h => (hvalue.plain _ h).2.1 rfl)
    (by decide)
  rw [strip, takeWhile_eq_self hzero, takeWhile_eq_self hcomment, List.append_assoc, List.append_assoc,
    dropWhile_eq_self (head?_append_key hkey _), ← List.append_assoc, ← List.append_assoc]
  obtain ⟨back, heq, hback⟩ := keyLine_eq key value
  rw [heq]
  exact trimEnd_append (by simp [hkey.ne_nil]) (getLast?_afterEquals hvalue) hback

theorem takeWhile_append_cons {line rest : List Byte} {b : Byte} (h : b ∉ line) :
    (line ++ b :: rest).takeWhile (· ≠ b) = line ∧ (line ++ b :: rest).dropWhile (· ≠ b) = b :: rest := by
  have hline : ∀ other ∈ line, decide (other ≠ b) = true := by
    intro other hmem
    exact decide_eq_true fun heq => h (heq ▸ hmem)
  rw [List.takeWhile_append_of_pos hline, List.dropWhile_append_of_pos hline]
  simp

theorem equals_notMem (hkey : IsKey key) : byte '=' ∉ key ++ [byte ' '] := by
  rw [List.mem_append, List.mem_singleton]
  rintro (h | h)
  · exact (hkey.plain _ h).2.2.1 rfl
  · exact absurd h (by decide)

theorem key_equals_eq (key back : List Byte) :
    key ++ text " =" ++ back = key ++ [byte ' '] ++ byte '=' :: back := by
  rw [List.append_assoc, List.append_assoc]
  rfl

theorem keyOf_append (hkey : IsKey key) (back : List Byte) : keyOf (key ++ text " =" ++ back) = key := by
  rw [keyOf, key_equals_eq, (takeWhile_append_cons (equals_notMem hkey)).1]
  refine trimEnd_append hkey.ne_nil ?_ (by decide)
  intro b hb
  exact isBlank_of_isSpace (hkey.plain b (List.mem_of_getLast? hb)).2.2.2.2

theorem valueOf_append (hkey : IsKey key) (hvalue : IsValue value) :
    valueOf (key ++ text " =" ++ afterEquals value) = value := by
  rw [valueOf, key_equals_eq, (takeWhile_append_cons (equals_notMem hkey)).2, List.tail_cons, afterEquals]
  split
  · rename_i hnil
    rw [hnil]
    rfl
  · have hblank : isBlank (byte ' ') = true := by decide
    rw [List.dropWhile_cons, if_pos hblank]
    exact dropWhile_eq_self hvalue.head

end Line

/-! ### Decimal numbers -/

def isDigit (b : Byte) : Bool := byte '0' ≤ b && b ≤ byte '9'

def decimal (n : Nat) : List Byte :=
  if n = 0 then [byte '0'] else (Nat.digits 10 n).reverse.map fun d => byte '0' + BitVec.ofNat 8 d

def decimalValue (digits : List Byte) : Nat :=
  digits.foldl (fun value b => 10 * value + (b.toNat - (byte '0').toNat)) 0

theorem digit_toNat {d : Nat} (h : d < 10) : (byte '0' + BitVec.ofNat 8 d).toNat = 48 + d := by
  rw [BitVec.toNat_add, BitVec.toNat_ofNat]
  change (48 + d % 256) % 256 = 48 + d
  omega

theorem foldr_digits {digits : List Nat} (h : ∀ d ∈ digits, d < 10) :
    digits.foldr (fun d value => 10 * value + ((byte '0' + BitVec.ofNat 8 d).toNat - (byte '0').toNat)) 0
      = Nat.ofDigits 10 digits := by
  induction digits with
  | nil => rfl
  | cons d digits ih =>
      rw [List.foldr_cons, ih fun d' hmem => h d' (List.mem_cons_of_mem _ hmem), Nat.ofDigits_cons,
        digit_toNat (h d List.mem_cons_self)]
      change 10 * _ + (48 + d - 48) = d + 10 * _
      omega

theorem decimalValue_decimal (n : Nat) : decimalValue (decimal n) = n := by
  unfold decimal
  split
  · rename_i hzero
    rw [hzero]
    rfl
  · rw [decimalValue, List.foldl_map, List.foldl_reverse,
      foldr_digits fun d hd => Nat.digits_lt_base (by decide) hd]
    exact Nat.ofDigits_digits 10 n

theorem isDigit_digit {d : Nat} (h : d < 10) : isDigit (byte '0' + BitVec.ofNat 8 d) = true := by
  unfold isDigit
  rw [Bool.and_eq_true, decide_eq_true_eq, decide_eq_true_eq, BitVec.le_def, BitVec.le_def, digit_toNat h]
  change 48 ≤ 48 + d ∧ 48 + d ≤ 57
  omega

theorem isDigit_of_mem_decimal {n : Nat} {b : Byte} (hb : b ∈ decimal n) : isDigit b = true := by
  unfold decimal at hb
  split at hb
  · rw [List.mem_singleton.mp hb]
    rfl
  · obtain ⟨d, hd, rfl⟩ := List.mem_map.mp hb
    exact isDigit_digit (Nat.digits_lt_base (by decide) (List.mem_reverse.mp hd))

theorem decimal_ne_nil (n : Nat) : decimal n ≠ [] := by
  unfold decimal
  split
  · exact List.cons_ne_nil _ _
  · rename_i hne
    rw [ne_eq, List.map_eq_nil_iff, List.reverse_eq_nil_iff]
    exact Nat.digits_ne_nil_iff_ne_zero.mpr hne

theorem length_decimal_le {n k : Nat} (h : n < 10 ^ (k + 1)) : (decimal n).length ≤ k + 1 := by
  unfold decimal
  split
  · exact Nat.le_add_left 1 k
  · rw [List.length_map, List.length_reverse]
    exact (Nat.digits_length_le_iff (by decide) n).mpr h

/-! ### Numbers with zeros in front of them -/

/-- `%0<width>lu` -/
def padded (width n : Nat) : List Byte :=
  List.replicate (width - (decimal n).length) (byte '0') ++ decimal n

theorem decimalValue_zeros (count : Nat) (digits : List Byte) :
    decimalValue (List.replicate count (byte '0') ++ digits) = decimalValue digits := by
  induction count with
  | zero => rfl
  | succ count ih =>
      rw [List.replicate_succ, List.cons_append, ← ih]
      rfl

theorem decimalValue_padded (width n : Nat) : decimalValue (padded width n) = n := by
  rw [padded, decimalValue_zeros, decimalValue_decimal]

theorem padded_inj {width m n : Nat} : padded width m = padded width n ↔ m = n := by
  refine ⟨fun h => ?_, congrArg (padded width)⟩
  rw [← decimalValue_padded width m, h, decimalValue_padded]

theorem length_padded {width n : Nat} (h : n < 10 ^ (width + 1)) :
    (padded (width + 1) n).length = width + 1 := by
  have hlength := length_decimal_le h
  rw [padded, List.length_append, List.length_replicate]
  omega

theorem decimal_of_lt {n : Nat} (h : n < 10) : decimal n = [byte '0' + BitVec.ofNat 8 n] := by
  unfold decimal
  split
  · rename_i hzero
    rw [hzero]
    rfl
  · rename_i hne
    rw [Nat.digits_of_lt 10 n hne h]
    rfl

/-- The last digit stands behind the others. -/
theorem decimal_of_ge {n : Nat} (h : 10 ≤ n) :
    decimal n = decimal (n / 10) ++ [byte '0' + BitVec.ofNat 8 (n % 10)] := by
  have hne : n ≠ 0 := by omega
  have hne' : n / 10 ≠ 0 := by omega
  rw [decimal, decimal, if_neg hne, if_neg hne', Nat.digits_def' (by decide) (Nat.pos_of_ne_zero hne),
    List.reverse_cons, List.map_append]
  rfl

theorem padded_eq_append {width n : Nat} (hwidth : 0 < width) :
    padded (width + 1) n = padded width (n / 10) ++ [byte '0' + BitVec.ofNat 8 (n % 10)] := by
  by_cases h : n < 10
  · have hzeros : List.replicate width (byte '0') = List.replicate (width - 1) (byte '0') ++ decimal 0 := by
      calc List.replicate width (byte '0')
          = List.replicate (width - 1 + 1) (byte '0') := by rw [Nat.sub_add_cancel hwidth]
        _ = _ := List.replicate_succ'
    rw [padded, padded, Nat.div_eq_of_lt h, Nat.mod_eq_of_lt h, decimal_of_lt h]
    exact congrArg (· ++ _) hzeros
  · have hlength : (decimal n).length = (decimal (n / 10)).length + 1 := by
      rw [decimal_of_ge (by omega), List.length_append]
      rfl
    rw [padded, padded, hlength, Nat.add_sub_add_right, decimal_of_ge (n := n) (by omega), List.append_assoc]

/-! ### Words -/

section Words

variable (p : Byte → Bool)

/-- The words between the bytes that `p` accepts, as `strtok_r` finds them. `word` is what has been read of one. -/
def wordsFrom (word : List Byte) : List Byte → List (List Byte)
  | [] => if word = [] then [] else [word]
  | b :: rest =>
      if p b then
        if word = [] then wordsFrom [] rest else word :: wordsFrom [] rest
      else wordsFrom (word ++ [b]) rest

structure IsWord (word : List Byte) : Prop where
  ne_nil : word ≠ []
  plain : ∀ b ∈ word, p b = false

variable {p} {word blanks : List Byte}

theorem wordsFrom_blanks (hblanks : ∀ b ∈ blanks, p b = true) (rest : List Byte) :
    wordsFrom p [] (blanks ++ rest) = wordsFrom p [] rest := by
  induction blanks with
  | nil => rfl
  | cons b blanks ih =>
      rw [List.cons_append, wordsFrom, if_pos (hblanks b List.mem_cons_self), if_pos rfl]
      exact ih fun other hmem => hblanks other (List.mem_cons_of_mem b hmem)

theorem wordsFrom_plain (hplain : ∀ b ∈ word, p b = false) (front rest : List Byte) :
    wordsFrom p front (word ++ rest) = wordsFrom p (front ++ word) rest := by
  induction word generalizing front with
  | nil => rw [List.nil_append, List.append_nil]
  | cons b word ih =>
      have hb : ¬p b = true := Bool.eq_false_iff.mp (hplain b List.mem_cons_self)
      rw [List.cons_append, wordsFrom, if_neg hb, ih fun other hmem => hplain other (List.mem_cons_of_mem b hmem),
        List.append_assoc]
      rfl

/-- A word ends where blanks follow. -/
theorem wordsFrom_word (hword : IsWord p word) (hne : blanks ≠ []) (hblanks : ∀ b ∈ blanks, p b = true)
    (rest : List Byte) : wordsFrom p [] (word ++ (blanks ++ rest)) = word :: wordsFrom p [] rest := by
  obtain ⟨b, blanks, rfl⟩ := List.exists_cons_of_ne_nil hne
  rw [wordsFrom_plain hword.plain, List.nil_append, List.cons_append, wordsFrom,
    if_pos (hblanks b List.mem_cons_self), if_neg hword.ne_nil,
    wordsFrom_blanks fun other hmem => hblanks other (List.mem_cons_of_mem b hmem)]

/-- A word, and others with blanks before them. -/
def spaced (word : List Byte) (rest : List (List Byte × List Byte)) : List Byte :=
  word ++ rest.flatMap fun piece => piece.1 ++ piece.2

/-- **The words come back, however much there is between them.** -/
theorem wordsFrom_spaced (hword : IsWord p word) {rest : List (List Byte × List Byte)}
    (hrest : ∀ piece ∈ rest, piece.1 ≠ [] ∧ (∀ b ∈ piece.1, p b = true) ∧ IsWord p piece.2) :
    wordsFrom p [] (spaced word rest) = word :: rest.map Prod.snd := by
  induction rest generalizing word with
  | nil =>
      rw [spaced, List.flatMap_nil, wordsFrom_plain hword.plain, List.nil_append, wordsFrom, if_neg hword.ne_nil]
      rfl
  | cons piece rest ih =>
      obtain ⟨hne, hblanks, hnext⟩ := hrest piece List.mem_cons_self
      have hrec := ih hnext fun other hmem => hrest other (List.mem_cons_of_mem piece hmem)
      rw [spaced, List.flatMap_cons, List.append_assoc, wordsFrom_word hword hne hblanks]
      exact congrArg (word :: ·) hrec

end Words

end Text
