import Uesim.Library.Bytes

/-!
# Checking tables of bytes

A substitution box is a table of 256 bytes, and what one needs to know about it is found by going
through it. Walking down a list for every look is slow, so the table is packed into one number first,
from which a byte is cut by a shift. A property that holds of the packed table at every byte holds of
the table.
-/

namespace ByteTable

open Bytes

/-- The bytes as digits of one number, the first one lowest. -/
def pack (bytes : List Byte) : Nat := bytes.foldr (fun b packed => b.toNat + 256 * packed) 0

def look (packed : Nat) (b : Byte) : Byte := BitVec.ofNat 8 (packed >>> (8 * b.toNat))

theorem ofNat_pack_shiftRight (bytes : List Byte) (i : Nat) :
    BitVec.ofNat 8 (pack bytes >>> (8 * i)) = bytes.getD i 0 := by
  induction bytes generalizing i with
  | nil => simp [pack]
  | cons b bytes ih =>
      have hb : b.toNat < 256 := b.isLt
      have hcons : pack (b :: bytes) = b.toNat + 256 * pack bytes := rfl
      cases i with
      | zero =>
          apply BitVec.eq_of_toNat_eq
          rw [hcons, Nat.mul_zero, Nat.shiftRight_zero, BitVec.toNat_ofNat, List.getD_cons_zero]
          omega
      | succ i =>
          have htail : (b.toNat + 256 * pack bytes) >>> 8 = pack bytes := by
            rw [Nat.shiftRight_eq_div_pow]
            omega
          rw [hcons, show 8 * (i + 1) = 8 + 8 * i by omega, Nat.shiftRight_add, htail, ih,
            List.getD_cons_succ]

theorem look_pack (table : Vector Byte 256) (b : Byte) :
    look (pack table.toList) b = table.get b.toFin := by
  have hb : b.toNat < 256 := b.isLt
  rw [look, ofNat_pack_shiftRight, List.getD_eq_getElem?_getD,
    List.getElem?_eq_getElem (by simpa using hb)]
  rfl

/-- Application that computes the number before it hands it on. -/
def force {α : Type} (n : Nat) (f : Nat → α) : α :=
  match n with
  | 0 => f 0
  | m + 1 => f (m + 1)

theorem force_eq {α : Type} (n : Nat) (f : Nat → α) : force n f = f n := by
  cases n with
  | zero => rfl
  | succ m => rfl

theorem forall_byte {p : Byte → Bool} (h : (List.range 256).all (fun n => p (BitVec.ofNat 8 n)) = true)
    (b : Byte) : p b = true := by
  have hb := List.all_eq_true.mp h b.toNat (List.mem_range.mpr b.isLt)
  rwa [BitVec.ofNat_toNat, BitVec.setWidth_eq] at hb

def check (table table' : Vector Byte 256) (p : (Byte → Byte) → (Byte → Byte) → Byte → Bool) : Bool :=
  force (pack table.toList) fun packed => force (pack table'.toList) fun packed' =>
    (List.range 256).all fun n => p (look packed) (look packed') (BitVec.ofNat 8 n)

/-- **A check that succeeds is a theorem about the tables.** -/
theorem of_check {table table' : Vector Byte 256}
    {p : (Byte → Byte) → (Byte → Byte) → Byte → Bool} (h : check table table' p = true) (b : Byte) :
    p (fun b => table.get b.toFin) (fun b => table'.get b.toFin) b = true := by
  have hlook : look (pack table.toList) = fun b => table.get b.toFin := funext (look_pack table)
  have hlook' : look (pack table'.toList) = fun b => table'.get b.toFin := funext (look_pack table')
  rw [check, force_eq, force_eq, hlook, hlook'] at h
  exact forall_byte h b

end ByteTable
