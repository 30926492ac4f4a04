import Uesim.Library.Reading

/-!
# Readers of bit fields and what they accept

A reader walks through memory field by field: it asks for the next bits and goes on with what it is told.
The layout of a value is the list of fields that shows it. A reader with a layout returns the value whose
layout the memory shows, and stops behind it. Layouts of parts are put together along the program.
-/

namespace BitMemory

open Bytes

/-- A program that reads fields, each of them behind the one before. -/
inductive BitReader (w : Nat) (α : Type) where
  | done (a : α)
  | field (width : Nat) (next : BitVec w → BitReader w α)

namespace BitReader

variable {w : Nat} {α β : Type}

def value (mem : Memory) (pos : Nat) : BitReader w α → α
  | done a => a
  | field width next => (next (readBits mem pos 0 width)).value mem (pos + width)

/-- The position behind the last field. -/
def stop (mem : Memory) (pos : Nat) : BitReader w α → Nat
  | done _ => pos
  | field width next => (next (readBits mem pos 0 width)).stop mem (pos + width)

def bind (p : BitReader w α) (f : α → BitReader w β) : BitReader w β :=
  match p with
  | done a => f a
  | field width next => field width fun bits => (next bits).bind f

instance : Monad (BitReader w) where
  pure := done
  bind := bind

/-- The reader as a program that looks up bytes. -/
def reading (pos : Nat) : BitReader w α → Reading α
  | done a => pure a
  | field width next => do
      let bits ← Reading.bits pos 0 width
      (next bits).reading (pos + width)

@[simp]
theorem value_pure (mem : Memory) (pos : Nat) (a : α) : (pure a : BitReader w α).value mem pos = a :=
  rfl

@[simp]
theorem stop_pure (mem : Memory) (pos : Nat) (a : α) : (pure a : BitReader w α).stop mem pos = pos :=
  rfl

theorem value_bind (mem : Memory) (pos : Nat) (p : BitReader w α) (f : α → BitReader w β) :
    (p >>= f).value mem pos = (f (p.value mem pos)).value mem (p.stop mem pos) := by
  change (p.bind f).value mem pos = _
  induction p generalizing pos with
  | done a => rfl
  | field width next ih => exact ih _ (pos + width)

theorem stop_bind (mem : Memory) (pos : Nat) (p : BitReader w α) (f : α → BitReader w β) :
    (p >>= f).stop mem pos = (f (p.value mem pos)).stop mem (p.stop mem pos) := by
  change (p.bind f).stop mem pos = _
  induction p generalizing pos with
  | done a => rfl
  | field width next ih => exact ih _ (pos + width)

theorem run_reading (mem : Memory) (pos : Nat) (p : BitReader w α) :
    (p.reading pos).run mem = p.value mem pos := by
  induction p generalizing pos with
  | done a => rfl
  | field width next ih =>
      rw [reading, Reading.run_bind, Reading.run_bits]
      exact ih _ (pos + width)

theorem le_stop (mem : Memory) (pos : Nat) (p : BitReader w α) : pos ≤ p.stop mem pos := by
  induction p generalizing pos with
  | done a => exact Nat.le_refl pos
  | field width next ih => exact (Nat.le_add_right pos width).trans (ih _ (pos + width))

/-- **A reader looks at the bytes below `len` only, exactly if it stops before the end of them.** -/
theorem within_reading {mem : Memory} {pos len : Nat} (hpos : pos ≤ 8 * len) (p : BitReader w α) :
    (p.reading pos).Within mem len ↔ p.stop mem pos ≤ 8 * len := by
  induction p generalizing pos with
  | done a => simpa [reading, stop] using iff_of_true (Reading.within_pure mem len a) hpos
  | field width next ih =>
      rw [reading, Reading.within_bind, Reading.within_bits, Reading.run_bits]
      constructor
      · rintro ⟨hfirst, hrest⟩
        exact (ih _ (by omega)).mp hrest
      · intro hstop
        have hfirst : pos + width ≤ 8 * len := (le_stop mem _ _).trans hstop
        exact ⟨Or.inr hfirst, (ih _ hfirst).mpr hstop⟩

/-- Read a field into a variable of `n` bits. -/
def bits {n : Nat} (width : Nat) : BitReader w (BitVec n) := field width fun v => done (v.setWidth n)

/-- Read `n` entries one behind the other. -/
def entries (p : BitReader w α) : (n : Nat) → BitReader w {items : List α // items.length = n}
  | 0 => pure ⟨[], rfl⟩
  | n + 1 => do
      let item ← p
      let items ← entries p n
      pure ⟨item :: items.1, congrArg Nat.succ items.2⟩

end BitReader

/-! ### Layouts -/

variable {w : Nat} {α β : Type}

/-- A field of a layout: what is written to it, and what may be read from it. -/
structure Slot (w : Nat) where
  written : BitVec w
  width : Nat
  shows : BitVec w → Prop

namespace Slot

/-- The field shows what is written to it. -/
def exact (field : BitVec w × Nat) : Slot w :=
  { written := field.1, width := field.2, shows := (· = field.1) }

def field (slot : Slot w) : BitVec w × Nat := (slot.written, slot.width)

/-- What is read where the slot is written over bits that are already set. -/
def merged (slot : Slot w) (beneath : BitVec w) : BitVec w :=
  (slot.written.setWidth slot.width).setWidth w ||| beneath

@[simp]
theorem field_exact (field : BitVec w × Nat) : (exact field).field = field := rfl

end Slot

/-- Fields that show what is written to them. -/
def exactly (fields : List (BitVec w × Nat)) : List (Slot w) := fields.map Slot.exact

def slotsWidth (slots : List (Slot w)) : Nat := (slots.map Slot.width).sum

/-- The memory shows the layout from `pos` on. -/
def Shown (mem : Memory) (pos : Nat) : List (Slot w) → Prop
  | [] => True
  | slot :: slots => slot.shows (readBits mem pos 0 slot.width) ∧ Shown mem (pos + slot.width) slots

/-- Each field of the layout shows its value with the bits set that the memory has in its place. -/
def Kept (mem : Memory) (pos : Nat) : List (Slot w) → Prop
  | [] => True
  | slot :: slots =>
      slot.shows (slot.merged (readBits mem pos 0 slot.width)) ∧ Kept mem (pos + slot.width) slots

@[simp]
theorem exactly_nil : exactly ([] : List (BitVec w × Nat)) = [] := rfl

@[simp]
theorem exactly_cons (field : BitVec w × Nat) (fields : List (BitVec w × Nat)) :
    exactly (field :: fields) = Slot.exact field :: exactly fields := rfl

@[simp]
theorem exactly_append (first second : List (BitVec w × Nat)) :
    exactly (first ++ second) = exactly first ++ exactly second := List.map_append

theorem exactly_flatMap (items : List α) (fields : α → List (BitVec w × Nat)) :
    exactly (items.flatMap fields) = items.flatMap fun item => exactly (fields item) :=
  List.map_flatMap

theorem map_field_exactly (fields : List (BitVec w × Nat)) :
    (exactly fields).map Slot.field = fields := by
  rw [exactly, List.map_map]
  exact List.map_id fields

@[simp]
theorem slotsWidth_nil : slotsWidth ([] : List (Slot w)) = 0 := rfl

@[simp]
theorem slotsWidth_cons (slot : Slot w) (slots : List (Slot w)) :
    slotsWidth (slot :: slots) = slot.width + slotsWidth slots := rfl

@[simp]
theorem slotsWidth_append (first second : List (Slot w)) :
    slotsWidth (first ++ second) = slotsWidth first + slotsWidth second := by
  simp [slotsWidth]

theorem fieldsWidth_append (first second : List (BitVec w × Nat)) :
    fieldsWidth (first ++ second) = fieldsWidth first + fieldsWidth second := by
  simp [fieldsWidth]

theorem fieldsWidth_map_field (slots : List (Slot w)) :
    fieldsWidth (slots.map Slot.field) = slotsWidth slots := by
  rw [fieldsWidth, List.map_map]
  rfl

theorem shown_append {mem : Memory} {pos : Nat} {first second : List (Slot w)} :
    Shown mem pos (first ++ second)
      ↔ Shown mem pos first ∧ Shown mem (pos + slotsWidth first) second := by
  induction first generalizing pos with
  | nil => simp [Shown]
  | cons slot first ih =>
      rw [List.cons_append, Shown, ih, Shown, slotsWidth_cons, and_assoc, Nat.add_assoc]

theorem kept_congr {mem mem' : Memory} {pos : Nat} {slots : List (Slot w)}
    (h : ∀ q, pos ≤ q → bitAt mem q = bitAt mem' q) : Kept mem pos slots ↔ Kept mem' pos slots := by
  induction slots generalizing pos with
  | nil => rfl
  | cons slot slots ih =>
      rw [Kept, Kept, readBits_congr 0 fun q hq _ => h q hq, ih fun q hq => h q (by omega)]

theorem kept_of_mem {mem : Memory} {pos : Nat} {slots : List (Slot w)} (h : Kept mem pos slots)
    {slot : Slot w} (hslot : slot ∈ slots) :
    ∃ beneath : BitVec w, beneath.toNat < 2 ^ slot.width ∧ slot.shows (slot.merged beneath) := by
  induction slots generalizing pos with
  | nil => cases hslot
  | cons head slots ih =>
      rcases List.mem_cons.mp hslot with rfl | htail
      · exact ⟨_, toNat_readBits_lt mem pos slot.width, h.1⟩
      · exact ih h.2 htail

/-- Blank memory keeps every field that shows what is written to it. -/
theorem kept_zeros {pos : Nat} {slots : List (Slot w)} (h : ∀ slot ∈ slots, slot.shows (slot.merged 0)) :
    Kept zeros pos slots := by
  have hblank : ∀ (pos width : Nat), readBits zeros pos (0 : BitVec w) width = 0 := by
    intro pos width
    apply BitVec.eq_of_getLsbD_eq
    intro i _
    simp [getLsbD_readBits, bitAt_zeros]
  induction slots generalizing pos with
  | nil => trivial
  | cons slot slots ih =>
      rw [Kept, hblank]
      exact ⟨h slot List.mem_cons_self, ih fun slot hslot => h slot (List.mem_cons_of_mem _ hslot)⟩

/-- A field that its value fits shows it. -/
theorem shows_exactly {fields : List (BitVec w × Nat)} (h : ∀ field ∈ fields, field.1.toNat < 2 ^ field.2) :
    ∀ slot ∈ exactly fields, slot.shows (slot.merged 0) := by
  rw [exactly, List.forall_mem_map]
  intro field hfield
  have hfits : (field.1.setWidth field.2).setWidth w = field.1 := by
    apply BitVec.eq_of_toNat_eq
    rw [BitVec.toNat_setWidth, BitVec.toNat_setWidth, Nat.mod_eq_of_lt (h field hfield),
      Nat.mod_eq_of_lt field.1.isLt]
  exact BitVec.or_zero.trans hfits

theorem readBits_writeBits_eq_over (mem : Memory) (pos : Nat) (slot : Slot w) :
    readBits (writeBits mem pos slot.written slot.width) pos 0 slot.width
      = slot.merged (readBits mem pos 0 slot.width) := by
  apply BitVec.eq_of_getLsbD_eq
  intro i hi
  have hzero : (0 : BitVec w).getLsbD i = false := BitVec.getLsbD_zero
  rw [Slot.merged, BitVec.getLsbD_or, getLsbD_readBits, getLsbD_readBits, BitVec.getLsbD_setWidth,
    BitVec.getLsbD_setWidth, hzero, Bool.false_or, Bool.false_or]
  by_cases hwidth : i < slot.width
  · have hplace : pos + slot.width - 1 - (pos + slot.width - 1 - i) = i := by omega
    have hin : pos ≤ pos + slot.width - 1 - i ∧ pos + slot.width - 1 - i < pos + slot.width := by omega
    rw [bitAt_writeBits, hplace]
    simp [hin, hwidth, hi, Bool.or_comm]
  · simp [hwidth]

/-- **A layout that is written over memory is shown, if each of its fields is kept there.** -/
theorem shown_writeFields {mem : Memory} {pos : Nat} (slots : List (Slot w))
    (rest : List (BitVec w × Nat)) :
    Shown (writeFields mem pos (slots.map Slot.field ++ rest)) pos slots ↔ Kept mem pos slots := by
  induction slots generalizing mem pos with
  | nil => rfl
  | cons slot slots ih =>
      have hfirst : readBits (writeFields mem pos ((slot :: slots).map Slot.field ++ rest)) pos 0 slot.width
          = slot.merged (readBits mem pos 0 slot.width) := by
        rw [← readBits_writeBits_eq_over]
        exact readBits_congr 0 fun q _ hq => bitAt_writeFields_of_not_mem _ (Or.inl hq)
      have hrest : Kept (writeBits mem pos slot.written slot.width) (pos + slot.width) slots
          ↔ Kept mem (pos + slot.width) slots :=
        kept_congr fun q hq => bitAt_writeBits_of_not_mem _ (Or.inr hq)
      rw [Shown, Kept, hfirst]
      exact and_congr_right fun _ => ih.trans hrest

/-! ### Readers with a layout -/

/-- The reader returns good values, the one whose layout is shown, and stops behind its layout. -/
structure Reads (p : BitReader w α) (good : α → Prop) (layout : α → List (Slot w)) : Prop where
  good_value : ∀ mem pos, good (p.value mem pos)
  value_eq_iff : ∀ mem pos {a}, good a → (p.value mem pos = a ↔ Shown mem pos (layout a))
  stop_eq : ∀ mem pos, p.stop mem pos = pos + slotsWidth (layout (p.value mem pos))
  narrow : ∀ {a}, good a → ∀ slot ∈ layout a, slot.width ≤ w

theorem reads_pure (a : α) : Reads (pure a : BitReader w α) (a = ·) fun _ => [] where
  good_value _ _ := rfl
  value_eq_iff _ _ _ h := iff_of_true h trivial
  stop_eq _ _ := rfl
  narrow _ := List.forall_mem_nil _

/-- **A program reads the layout of its first part, and behind it that of what it does with it.** The first
part is found in the result by `get`. -/
theorem Reads.bind {p : BitReader w α} {f : α → BitReader w β} {goodA : α → Prop}
    {goodB : α → β → Prop} {layoutA : α → List (Slot w)} {layoutB : α → β → List (Slot w)}
    (hp : Reads p goodA layoutA) (get : β → α) (hget : ∀ a b, goodB a b → get b = a)
    (hf : ∀ a, goodA a → Reads (f a) (goodB a) (layoutB a)) :
    Reads (p >>= f) (fun b => goodA (get b) ∧ goodB (get b) b)
      (fun b => layoutA (get b) ++ layoutB (get b) b) := by
  have hgood : ∀ mem pos, goodB (p.value mem pos) ((p >>= f).value mem pos) := by
    intro mem pos
    rw [BitReader.value_bind]
    exact (hf _ (hp.good_value mem pos)).good_value mem (p.stop mem pos)
  have hgetValue : ∀ mem pos, get ((p >>= f).value mem pos) = p.value mem pos := fun mem pos =>
    hget _ _ (hgood mem pos)
  refine ⟨fun mem pos => ?_, fun mem pos b hb => ?_, fun mem pos => ?_, fun {b} hb => ?_⟩
  · rw [hgetValue]
    exact ⟨hp.good_value mem pos, hgood mem pos⟩
  · rw [shown_append, ← hp.value_eq_iff mem pos hb.1]
    constructor
    · intro heq
      have hfirst : p.value mem pos = get b := by rw [← heq, hgetValue]
      refine ⟨hfirst, ?_⟩
      rw [BitReader.value_bind, hp.stop_eq, hfirst] at heq
      exact ((hf _ hb.1).value_eq_iff mem _ hb.2).mp heq
    · rintro ⟨hfirst, hrest⟩
      rw [BitReader.value_bind, hp.stop_eq, hfirst]
      exact ((hf _ hb.1).value_eq_iff mem _ hb.2).mpr hrest
  · have hstop := (hf _ (hp.good_value mem pos)).stop_eq mem (p.stop mem pos)
    rw [← BitReader.value_bind] at hstop
    rw [BitReader.stop_bind, hstop, hgetValue, slotsWidth_append, hp.stop_eq, Nat.add_assoc]
  · exact List.forall_mem_append.mpr ⟨hp.narrow hb.1, (hf _ hb.1).narrow hb.2⟩

theorem Reads.congr {p : BitReader w α} {good good' : α → Prop} {layout layout' : α → List (Slot w)}
    (h : Reads p good layout) (hgood : ∀ a, good a ↔ good' a)
    (hlayout : ∀ a, good a → layout a = layout' a) : Reads p good' layout' where
  good_value mem pos := (hgood _).mp (h.good_value mem pos)
  value_eq_iff mem pos a ha := by
    rw [h.value_eq_iff mem pos ((hgood a).mpr ha), hlayout a ((hgood a).mpr ha)]
  stop_eq mem pos := by rw [h.stop_eq, hlayout _ (h.good_value mem pos)]
  narrow ha := by
    rw [← hlayout _ ((hgood _).mpr ha)]
    exact h.narrow ((hgood _).mpr ha)

/-- The same along a program that makes a record of the parts it reads. -/
theorem Reads.part {p : BitReader w α} {f : α → BitReader w β} {goodA : α → Prop}
    {goodB : α → β → Prop} {made : α → β → β} {layoutA : α → List (Slot w)} {layoutB : α → β → List (Slot w)}
    (hp : Reads p goodA layoutA) (get : β → α) (hget : ∀ a b, get (made a b) = a)
    (hf : ∀ a, Reads (f a) (fun b => goodB a b ∧ made a b = b) (layoutB a)) :
    Reads (p >>= f) (fun b => (goodA (get b) ∧ goodB (get b) b) ∧ made (get b) b = b)
      (fun b => layoutA (get b) ++ layoutB (get b) b) := by
  have hfound : ∀ a b, goodB a b ∧ made a b = b → get b = a := by
    intro a b h
    rw [← h.2, hget]
  apply (hp.bind get hfound fun a _ => hf a).congr
  · intro b
    exact and_assoc.symm
  · intro b _
    rfl

/-- The end of such a program. -/
theorem reads_record (a : α) : Reads (pure a : BitReader w α) (fun b => True ∧ a = b) fun _ => [] :=
  (reads_pure a).congr (fun _ => (iff_of_eq (true_and _)).symm) fun _ _ => rfl

theorem reads_bits {n width : Nat} (hwidth : width ≤ n ∧ width ≤ w) :
    Reads (BitReader.bits width : BitReader w (BitVec n)) (fun v => v.toNat < 2 ^ width)
      (fun v => exactly [(v.setWidth w, width)]) := by
  obtain ⟨hn, hw⟩ := hwidth
  have hlt : ∀ mem pos, ((readBits mem pos (0 : BitVec w) width).setWidth n).toNat
      = (readBits mem pos (0 : BitVec w) width).toNat := by
    intro mem pos
    rw [BitVec.toNat_setWidth]
    exact Nat.mod_eq_of_lt ((toNat_readBits_lt mem pos width).trans_le (Nat.pow_le_pow_right (by omega) hn))
  refine ⟨fun mem pos => ?_, fun mem pos v hv => ?_, fun mem pos => rfl, fun _ => ?_⟩
  · change ((readBits mem pos (0 : BitVec w) width).setWidth n).toNat < 2 ^ width
    rw [hlt]
    exact toNat_readBits_lt mem pos width
  · have hvalue : (v.setWidth w).toNat = v.toNat := by
      rw [BitVec.toNat_setWidth]
      exact Nat.mod_eq_of_lt (hv.trans_le (Nat.pow_le_pow_right (by omega) hw))
    change (readBits mem pos (0 : BitVec w) width).setWidth n = v
      ↔ readBits mem pos 0 width = v.setWidth w ∧ True
    rw [and_true, ← BitVec.toNat_inj, ← BitVec.toNat_inj, hlt, hvalue]
  · exact List.forall_mem_singleton.mpr hw

/-- A field as wide as the variable it is read into. -/
theorem reads_whole {n : Nat} (hw : n ≤ w) :
    Reads (BitReader.bits n : BitReader w (BitVec n)) (fun _ => True)
      (fun v => exactly [(v.setWidth w, n)]) :=
  (reads_bits ⟨Nat.le_refl n, hw⟩).congr (fun v => iff_of_true v.isLt trivial) fun _ _ => rfl

/-- A case of a sum that is read by the reader of its contents. -/
theorem Reads.case {p : BitReader w α} {good : α → Prop} {layout : α → List (Slot w)}
    (hp : Reads p good layout) {mk : α → β} (hmk : Function.Injective mk) {goodB : β → Prop}
    {layoutB : β → List (Slot w)} (hgood : ∀ b, goodB b ↔ ∃ a, mk a = b ∧ good a)
    (hlayout : ∀ a, layoutB (mk a) = layout a) :
    Reads (p >>= fun a => pure (mk a)) goodB layoutB := by
  have hvalue : ∀ mem pos, (p >>= fun a => pure (mk a)).value mem pos = mk (p.value mem pos) :=
    fun mem pos => BitReader.value_bind mem pos p _
  refine ⟨fun mem pos => ?_, fun mem pos b hb => ?_, fun mem pos => ?_, fun {b} hb => ?_⟩
  · rw [hvalue, hgood]
    exact ⟨_, rfl, hp.good_value mem pos⟩
  · obtain ⟨a, rfl, ha⟩ := (hgood b).mp hb
    rw [hvalue, hlayout, hmk.eq_iff]
    exact hp.value_eq_iff mem pos ha
  · rw [hvalue, hlayout, BitReader.stop_bind]
    exact hp.stop_eq mem pos
  · obtain ⟨a, rfl, ha⟩ := (hgood b).mp hb
    rw [hlayout]
    exact hp.narrow ha

theorem Reads.ite {c : Prop} [Decidable c] {p q : BitReader w α} {good : α → Prop}
    {layout : α → List (Slot w)} (hp : c → Reads p good layout) (hq : ¬c → Reads q good layout) :
    Reads (if c then p else q) good layout := by
  by_cases hc : c
  · rw [if_pos hc]
    exact hp hc
  · rw [if_neg hc]
    exact hq hc

/-- The first `len` bytes begin with the layout of one of the `values`. -/
def BeginsWith (values : α → Prop) (layout : α → List (Slot w)) (mem : Memory) (len : Nat) : Prop :=
  ∃ a, values a ∧ Shown mem 0 (layout a) ∧ slotsWidth (layout a) ≤ 8 * len

/-- **A reader stays below `len` and returns one of the wanted values, exactly if the memory begins with the
layout of one.** -/
theorem Reads.within_and_iff {p : BitReader w α} {good : α → Prop} {layout : α → List (Slot w)}
    (h : Reads p good layout) (wanted : α → Prop) (mem : Memory) (len : Nat) :
    (p.reading 0).Within mem len ∧ wanted (p.value mem 0)
      ↔ BeginsWith (fun a => good a ∧ wanted a) layout mem len := by
  have hstop : p.stop mem 0 = slotsWidth (layout (p.value mem 0)) := by
    rw [h.stop_eq, Nat.zero_add]
  rw [BitReader.within_reading (Nat.zero_le _), hstop]
  constructor
  · rintro ⟨hroom, hwanted⟩
    have hgood := h.good_value mem 0
    exact ⟨_, ⟨hgood, hwanted⟩, (h.value_eq_iff mem 0 hgood).mp rfl, hroom⟩
  · rintro ⟨a, ⟨hgood, hwanted⟩, hshown, hroom⟩
    obtain rfl := (h.value_eq_iff mem 0 hgood).mpr hshown
    exact ⟨hroom, hwanted⟩

theorem reads_entries {p : BitReader w α} {good : α → Prop} {layout : α → List (Slot w)}
    (hp : Reads p good layout) (n : Nat) :
    Reads (p.entries n) (fun items => ∀ item ∈ items.1, good item)
      (fun items => items.1.flatMap layout) := by
  induction n with
  | zero =>
      apply (reads_pure _).congr
      · rintro ⟨items, hitems⟩
        have hnil := List.length_eq_zero_iff.mp hitems
        subst hnil
        simp
      · rintro _ rfl
        rfl
  | succ n ih =>
      have hrest : ∀ a, good a → Reads (do
            let items ← p.entries n
            pure (⟨a :: items.1, congrArg Nat.succ items.2⟩ : {items : List α // items.length = n + 1}))
          (fun items => (∀ item ∈ items.1.tail, good item) ∧ a :: items.1.tail = items.1)
          (fun items => items.1.tail.flatMap layout) := by
        intro a _
        apply (ih.bind (fun items : {items : List α // items.length = n + 1} =>
          ⟨items.1.tail, by simp [items.2]⟩) _ fun items _ => reads_pure _).congr
        · intro items
          exact and_congr_right fun _ => Subtype.ext_iff
        · intro items _
          exact List.append_nil _
        · rintro items _ rfl
          rfl
      have hne : ∀ items : {items : List α // items.length = n + 1}, items.1 ≠ [] := fun items =>
        List.ne_nil_of_length_eq_add_one items.2
      have hcons : ∀ items : {items : List α // items.length = n + 1},
          items.1.head (hne items) :: items.1.tail = items.1 := fun items => List.cons_head_tail (hne items)
      apply (hp.bind (fun items => items.1.head (hne items)) _ hrest).congr
      · intro items
        rw [hcons, and_iff_left rfl, ← List.forall_mem_cons, hcons]
      · intro items _
        rw [← List.flatMap_cons, hcons]
      · rintro a ⟨items, hlen⟩ ⟨-, hitems⟩
        cases items with
        | nil => cases hlen
        | cons b items => exact (List.cons.inj hitems).1.symm

/-! ### Counted lists -/

/-- A count and as many entries as a loop visits that goes up to the count and no further than the array
of `max` entries that holds them. -/
structure Counted (n : Nat) (α : Type) (max : Nat) where
  count : BitVec n
  items : List α
  length_items : items.length = min count.toNat max

namespace Counted

variable {n max : Nat}

@[ext]
theorem ext {counted counted' : Counted n α max} (hcount : counted.count = counted'.count)
    (hitems : counted.items = counted'.items) : counted = counted' := by
  cases counted
  cases counted'
  cases hcount
  cases hitems
  rfl

def empty : Counted n α max := ⟨0, [], by simp⟩

@[simp]
theorem count_empty : (empty : Counted n α max).count = 0 := rfl

@[simp]
theorem items_empty : (empty : Counted n α max).items = [] := rfl

/-- A list of one entry. -/
def one (a : α) : Counted (n + 1) α (max + 1) where
  count := 1
  items := [a]
  length_items := by
    have hone : (1 : BitVec (n + 1)).toNat = 1 := BitVec.toNat_one (Nat.succ_pos n)
    rw [List.length_singleton, hone]
    omega

def map {β : Type} (f : α → β) (counted : Counted n α max) : Counted n β max :=
  ⟨counted.count, counted.items.map f, by rw [List.length_map, counted.length_items]⟩

/-- The array has an entry for everything that is counted. -/
def InBounds (counted : Counted n α max) : Prop := counted.count.toNat ≤ max

/-- The same for the entries, too. -/
def Bounded (inBounds : α → Prop) (counted : Counted n α max) : Prop :=
  counted.InBounds ∧ ∀ item ∈ counted.items, inBounds item

/-- The field of the count, and the entries behind it. -/
def fields (width : Nat) (item : α → List (BitVec w × Nat)) (counted : Counted n α max) :
    List (BitVec w × Nat) :=
  (counted.count.setWidth w, width) :: counted.items.flatMap item

def layout (width : Nat) (item : α → List (Slot w)) (counted : Counted n α max) : List (Slot w) :=
  Slot.exact (counted.count.setWidth w, width) :: counted.items.flatMap item

/-- The count fits its field, and the entries are good. -/
def Fits (width : Nat) (good : α → Prop) (counted : Counted n α max) : Prop :=
  counted.count.toNat < 2 ^ width ∧ ∀ item ∈ counted.items, good item

theorem fits_true {width : Nat} {counted : Counted n α max} :
    counted.Fits width (fun _ => True) ↔ counted.count.toNat < 2 ^ width :=
  and_iff_left fun _ _ => trivial

theorem exactly_fields (width : Nat) (item : α → List (BitVec w × Nat)) (counted : Counted n α max) :
    exactly (counted.fields width item) = counted.layout width fun a => exactly (item a) := by
  rw [fields, exactly_cons, exactly_flatMap, layout]

theorem map_field_layout {width : Nat} {item : α → List (Slot w)} {fields : α → List (BitVec w × Nat)}
    (h : ∀ a, (item a).map Slot.field = fields a) (counted : Counted n α max) :
    (counted.layout width item).map Slot.field = counted.fields width fields := by
  rw [layout, Counted.fields, List.map_cons, List.map_flatMap]
  simp only [h]
  rfl

theorem mem_layout {width : Nat} {item : α → List (Slot w)} {counted : Counted n α max} {a : α}
    (ha : a ∈ counted.items) {slot : Slot w} (hslot : slot ∈ item a) :
    slot ∈ counted.layout width item :=
  List.mem_cons_of_mem _ (List.mem_flatMap.mpr ⟨a, ha, hslot⟩)

end Counted

/-- Read a count and the entries that it and the array have room for. -/
def BitReader.counted {n max : Nat} (width : Nat) (p : BitReader w α) : BitReader w (Counted n α max) := do
  let count ← bits width
  let items ← p.entries (min count.toNat max)
  pure ⟨count, items.1, items.2⟩

theorem reads_counted {n max width : Nat} {p : BitReader w α} {good : α → Prop}
    {layout : α → List (Slot w)} (hp : Reads p good layout) (hwidth : width ≤ n ∧ width ≤ w) :
    Reads (p.counted width : BitReader w (Counted n α max)) (Counted.Fits width good)
      (Counted.layout width layout) := by
  have hitems : ∀ count : BitVec n, count.toNat < 2 ^ width → Reads (do
        let items ← p.entries (min count.toNat max)
        pure ⟨count, items.1, items.2⟩)
      (fun counted : Counted n α max => (∀ item ∈ counted.items, good item) ∧ count = counted.count)
      (fun counted => counted.items.flatMap layout) := by
    intro count _
    refine ⟨fun mem pos => ?_, fun mem pos counted hcounted => ?_, fun mem pos => ?_,
      fun {counted} hcounted => ?_⟩
    · rw [BitReader.value_bind]
      exact ⟨(reads_entries hp _).good_value mem pos, rfl⟩
    · obtain ⟨hgood, rfl⟩ := hcounted
      rw [BitReader.value_bind, BitReader.value_pure,
        ← (reads_entries hp _).value_eq_iff mem pos (a := ⟨counted.items, counted.length_items⟩) hgood,
        Subtype.ext_iff]
      exact ⟨fun h => congrArg Counted.items h, fun h => Counted.ext rfl h⟩
    · rw [BitReader.stop_bind, BitReader.value_bind]
      exact (reads_entries hp _).stop_eq mem pos
    · exact (reads_entries hp _).narrow (a := ⟨counted.items, counted.length_items⟩) hcounted.1
  apply ((reads_bits hwidth).bind Counted.count (fun _ _ h => h.2.symm) hitems).congr
  · intro counted
    rw [and_iff_left rfl, Counted.Fits]
  · intro counted _
    rfl

end BitMemory
