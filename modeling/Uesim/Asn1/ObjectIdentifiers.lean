import Uesim.Asn1.Lengths
import Uesim.Library.Loop

/-!
# Object identifiers

The first two components are written in one byte, and each of the others in groups of seven bits, all but the
last of them with a flag that more follow. There is no length. The reader takes as many components as it is
asked for, but not more than four, and none that begins behind the first 1024 bytes.
-/

namespace Uesim

open Bytes BitMemory

/-! ### Writing and reading -/

/-- Four groups are the longest form. -/
def asn1EncodeOidComponent (val : Word) : List Word :=
  if val < 128 then [val]
  else if val < 16384 then [(val >>> 7) ||| 0x80, val &&& 0x7F]
  else if val < 2097152 then [(val >>> 14) ||| 0x80, ((val >>> 7) &&& 0x7F) ||| 0x80, val &&& 0x7F]
  else
    [(val >>> 21) ||| 0x80, ((val >>> 14) &&& 0x7F) ||| 0x80, ((val >>> 7) &&& 0x7F) ||| 0x80,
      val &&& 0x7F]

/-- The bytes that are written one after the other. -/
def asn1OidBytes (first second : Word) (rest : List Word) : List Word :=
  ((40 * first + second).setWidth 8).setWidth 32 :: rest.flatMap asn1EncodeOidComponent

/-- No result of a writer is looked at. -/
def asn1EncodeOid (buf : Asn1Buffer) : List Word → Asn1Buffer × Except UesimError Unit
  | first :: second :: rest =>
      (asn1EncodeFields buf ((asn1OidBytes first second rest).map fun byte => (byte, 8)), .ok ())
  | _ => (buf, .error .invalidParam)

/-- The variables of the loop over the groups. -/
structure Asn1OidScan where
  bitOffset : Nat
  val : Word
  more : Bool

def asn1OidGroup (data : Memory) (scan : Asn1OidScan) : Asn1OidScan :=
  let (bitOffset, byte) := asn1DecodeField data scan.bitOffset 8
  { bitOffset, val := (scan.val <<< 7) ||| (byte &&& 0x7F), more := byte &&& 0x80 != 0 }

/-- The loop tests the flag after each group, on so much fuel. -/
def asn1DecodeOidComponent (fuel : Nat) (data : Memory) (bitOffset : Nat) : Option Asn1OidScan :=
  Loop.run (asn1OidGroup data) (fun scan => !scan.more) fuel ⟨bitOffset, 0, true⟩

/-- The loop over the components, with so many places left for them. -/
def asn1DecodeOidLoop (fuel : Nat) (data : Memory) : Nat → Nat → List Word → Option (Nat × List Word)
  | 0, bitOffset, oid => some (bitOffset, oid)
  | left + 1, bitOffset, oid =>
      if bitOffset / 8 < 1024 then
        match asn1DecodeOidComponent fuel data bitOffset with
        | none => none
        | some scan =>
            if (oid ++ [scan.val]).length ≥ 4 then some (scan.bitOffset, oid ++ [scan.val])
            else asn1DecodeOidLoop fuel data left scan.bitOffset (oid ++ [scan.val])
      else some (bitOffset, oid)

/-- No result if the groups of a component do not end. -/
def asn1DecodeOid (fuel : Nat) (data : Memory) (bitOffset maxComponents : Nat) :
    Option (Nat × Except UesimError (List Word)) :=
  if maxComponents < 2 then some (bitOffset, .error .capacity)
  else
    let (bitOffset, firstByte) := asn1DecodeField data bitOffset 8
    (asn1DecodeOidLoop fuel data (maxComponents - 2) bitOffset [firstByte / 40, firstByte % 40]).map
      fun decoded => (decoded.1, .ok decoded.2)

/-! ### Groups of seven bits -/

/-- The number in `n` groups with the flag and one without it. -/
def asn1OidGroups (val : Word) : Nat → List Word
  | 0 => [val &&& 0x7F]
  | n + 1 => (((val >>> (7 * (n + 1))) &&& 0x7F) ||| 0x80) :: asn1OidGroups val n

theorem length_asn1OidGroups (val : Word) (n : Nat) : (asn1OidGroups val n).length = n + 1 := by
  induction n with
  | zero => rfl
  | succ n ih => rw [asn1OidGroups, List.length_cons, ih]

theorem toNat_and_low (val : Word) : (val &&& 0x7F).toNat = val.toNat % 2 ^ 7 := by
  have hmask : (0x7F : Word).toNat = 2 ^ 7 - 1 := rfl
  rw [BitVec.toNat_and, hmask, Nat.and_two_pow_sub_one_eq_mod]

theorem and_low_of_lt {val : Word} (h : val.toNat < 2 ^ 7) : val &&& 0x7F = val := by
  apply BitVec.eq_of_toNat_eq
  rw [toNat_and_low, Nat.mod_eq_of_lt h]

theorem flagged_and_low (group : Word) : (group ||| 0x80) &&& 0x7F = group &&& 0x7F := by
  rw [BitVec.and_or_distrib_right]
  exact BitVec.or_zero

theorem flagged_and_flag (group : Word) : (group ||| 0x80) &&& 0x80 = 0x80 := by
  apply BitVec.eq_of_getLsbD_eq
  intro i hi
  rw [BitVec.getLsbD_and, BitVec.getLsbD_or]
  cases (0x80 : Word).getLsbD i <;> simp

theorem low_and_flag (group : Word) : (group &&& 0x7F) &&& 0x80 = 0 := by
  rw [BitVec.and_assoc]
  exact BitVec.and_zero

/-- A group goes behind the groups that are there. -/
theorem append_group (val : Word) (n : Nat) :
    ((val >>> (7 * (n + 1))) <<< 7) ||| ((val >>> (7 * n)) &&& 0x7F) = val >>> (7 * n) := by
  apply BitVec.eq_of_toNat_eq
  have hpow : (2 : Nat) ^ (7 * (n + 1)) = 2 ^ (7 * n) * 2 ^ 7 := by rw [← Nat.pow_add, Nat.mul_succ]
  have hlt := (val >>> (7 * n)).isLt
  rw [BitVec.toNat_ushiftRight, Nat.shiftRight_eq_div_pow] at hlt
  rw [BitVec.toNat_or, toNat_and_low, BitVec.toNat_shiftLeft, BitVec.toNat_ushiftRight,
    BitVec.toNat_ushiftRight, Nat.shiftRight_eq_div_pow, Nat.shiftRight_eq_div_pow, hpow,
    ← Nat.div_div_eq_div_mul]
  generalize val.toNat / 2 ^ (7 * n) = high at hlt ⊢
  rw [Nat.shiftLeft_eq, Nat.mod_eq_of_lt (by omega), ← Nat.shiftLeft_eq,
    ← Nat.shiftLeft_add_eq_or_of_lt (Nat.mod_lt _ (by decide)), Nat.shiftLeft_eq]
  omega

theorem shiftRight_eq_zero_of_lt {val : Word} {n : Nat} (h : val.toNat < 2 ^ n) : val >>> n = 0 := by
  apply BitVec.eq_of_toNat_eq
  rw [BitVec.toNat_ushiftRight, Nat.shiftRight_eq_div_pow, Nat.div_eq_of_lt h]
  rfl

/-- The forms of the writer are groups, as many as the number needs. -/
theorem exists_asn1OidGroups {val : Word} (h : val.toNat < 2 ^ 28) :
    ∃ n ≤ 3, asn1EncodeOidComponent val = asn1OidGroups val n ∧ val.toNat < 2 ^ (7 * (n + 1)) := by
  have hshift (k : Nat) : (val >>> k).toNat = val.toNat / 2 ^ k := by
    rw [BitVec.toNat_ushiftRight, Nat.shiftRight_eq_div_pow]
  have htop (k : Nat) (hk : val.toNat < 2 ^ k * 2 ^ 7) : (val >>> k) &&& 0x7F = val >>> k := by
    apply and_low_of_lt
    rw [hshift]
    exact Nat.div_lt_of_lt_mul hk
  rw [asn1EncodeOidComponent]
  split
  · rename_i hone
    exact ⟨0, by decide, by rw [asn1OidGroups, and_low_of_lt hone], hone⟩
  · split
    · rename_i htwo
      refine ⟨1, by decide, ?_, htwo⟩
      rw [asn1OidGroups, asn1OidGroups, htop (7 * (0 + 1)) htwo]
    · split
      · rename_i hthree
        refine ⟨2, by decide, ?_, hthree⟩
        rw [asn1OidGroups, asn1OidGroups, asn1OidGroups, htop (7 * (1 + 1)) hthree]
      · refine ⟨3, by decide, ?_, h⟩
        rw [asn1OidGroups, asn1OidGroups, asn1OidGroups, asn1OidGroups, htop (7 * (2 + 1)) h]

theorem toNat_lt_of_mem_asn1OidGroups {val : Word} {n : Nat} {group : Word}
    (h : group ∈ asn1OidGroups val n) : group.toNat < 2 ^ 8 := by
  have hlow (group : Word) : (group &&& 0x7F).toNat < 2 ^ 7 := by
    rw [toNat_and_low]
    exact Nat.mod_lt _ (by decide)
  induction n with
  | zero =>
      obtain rfl := List.mem_singleton.mp h
      exact (hlow val).trans (by decide)
  | succ n ih =>
      rcases List.mem_cons.mp h with rfl | hrest
      · rw [BitVec.toNat_or]
        exact Nat.or_lt_two_pow ((hlow _).trans (by decide)) (by decide)
      · exact ih hrest

/-! ### What is read of what was written -/

section Read

variable {data : Memory} {pos : Nat} {val : Word}

theorem asn1OidGroup_eq (scan : Asn1OidScan) :
    asn1OidGroup data scan
      = { bitOffset := scan.bitOffset + 8
          val := (scan.val <<< 7) ||| (readBits data scan.bitOffset 0 8 &&& 0x7F)
          more := readBits data scan.bitOffset (0 : Word) 8 &&& 0x80 != 0 } := by
  rw [asn1OidGroup, asn1DecodeField_eq data _ (by decide)]

theorem asn1OidGroup_flagged {n : Nat} (more : Bool)
    (hread : readBits data pos 0 8 = ((val >>> (7 * n)) &&& 0x7F) ||| 0x80) :
    asn1OidGroup data ⟨pos, val >>> (7 * (n + 1)), more⟩ = ⟨pos + 8, val >>> (7 * n), true⟩ := by
  have hlow : ((val >>> (7 * n)) &&& 0x7F) &&& 0x7F = (val >>> (7 * n)) &&& 0x7F := by
    rw [BitVec.and_assoc, BitVec.and_self]
  rw [asn1OidGroup_eq]
  dsimp only
  rw [hread, flagged_and_low, flagged_and_flag, hlow, append_group]
  rfl

theorem asn1OidGroup_last (more : Bool) (hread : readBits data pos 0 8 = val &&& 0x7F) :
    asn1OidGroup data ⟨pos, val >>> 7, more⟩ = ⟨pos + 8, val, false⟩ := by
  have happend := append_group val 0
  rw [Nat.mul_zero, BitVec.ushiftRight_zero] at happend
  rw [asn1OidGroup_eq]
  dsimp only
  rw [hread, low_and_flag, BitVec.and_assoc, BitVec.and_self]
  exact congrArg (Asn1OidScan.mk (pos + 8) · false) happend

/-- The loop reads groups up to the one without the flag. -/
theorem run_asn1OidGroup {n fuel : Nat} (hfuel : n + 1 < fuel)
    (hread : readFields data pos (List.replicate (n + 1) 8) = asn1OidGroups val n) :
    Loop.run (asn1OidGroup data) (fun scan => !scan.more) fuel ⟨pos, val >>> (7 * (n + 1)), true⟩
      = some ⟨pos + 8 * (n + 1), val, false⟩ := by
  induction n generalizing pos fuel with
  | zero =>
      obtain ⟨fuel, rfl⟩ := Nat.exists_eq_add_of_le' hfuel
      have hlast := (List.cons.inj hread).1
      have hround := asn1OidGroup_last true hlast
      rw [Loop.run, if_neg (by simp)]
      exact (congrArg (Loop.run _ _ (fuel + 1)) hround).trans (if_pos rfl)
  | succ n ih =>
      obtain ⟨fuel, rfl⟩ := Nat.exists_eq_add_of_le' (Nat.one_le_of_lt hfuel)
      rw [List.replicate_succ, readFields, asn1OidGroups] at hread
      obtain ⟨hfirst, hrest⟩ := List.cons.inj hread
      rw [Loop.run, if_neg (by simp), asn1OidGroup_flagged true hfirst, ih (by omega) hrest]
      have hend : pos + 8 + 8 * (n + 1) = pos + 8 * (n + 1 + 1) := by omega
      rw [hend]

/-- A component that is written in at most four groups is read back. -/
theorem asn1DecodeOidComponent_eq {fuel : Nat} (hfuel : 4 < fuel) (hval : val.toNat < 2 ^ 28)
    (hread : readFields data pos (List.replicate (asn1EncodeOidComponent val).length 8)
      = asn1EncodeOidComponent val) :
    asn1DecodeOidComponent fuel data pos
      = some ⟨pos + 8 * (asn1EncodeOidComponent val).length, val, false⟩ := by
  obtain ⟨n, hn, hform, hlt⟩ := exists_asn1OidGroups hval
  rw [hform, length_asn1OidGroups] at hread ⊢
  have hrun := run_asn1OidGroup (by omega : n + 1 < fuel) hread
  rwa [shiftRight_eq_zero_of_lt hlt] at hrun

/-- Bytes that are read one after the other are read in two parts. -/
theorem readFields_bytes_append {first second : List Word}
    (hread : readFields data pos (List.replicate (first ++ second).length 8) = first ++ second) :
    readFields data pos (List.replicate first.length 8) = first
      ∧ readFields data (pos + 8 * first.length) (List.replicate second.length 8) = second := by
  have hlength (widths : List Nat) :
      ∀ pos, (readFields data pos widths : List Word).length = widths.length := by
    induction widths with
    | nil => exact fun _ => rfl
    | cons width widths ih => exact fun pos => congrArg Nat.succ (ih (pos + width))
  rw [List.length_append, List.replicate_add, readFields_append, List.sum_replicate_nat, Nat.mul_comm]
    at hread
  refine List.append_inj hread ?_
  rw [hlength, List.length_replicate]

theorem asn1DecodeOidLoop_eq {fuel : Nat} (hfuel : 4 < fuel) {rest oid : List Word}
    (hrest : ∀ val ∈ rest, val.toNat < 2 ^ 28) (hoid : oid.length < 4)
    (hread : readFields data pos (List.replicate (rest.flatMap asn1EncodeOidComponent).length 8)
      = rest.flatMap asn1EncodeOidComponent)
    (hnear : ∀ i < min (4 - oid.length) rest.length,
      (pos + 8 * ((rest.take i).flatMap asn1EncodeOidComponent).length) / 8 < 1024) :
    ∃ stop, asn1DecodeOidLoop fuel data rest.length pos oid
      = some (stop, oid ++ rest.take (4 - oid.length)) := by
  induction rest generalizing pos oid with
  | nil => exact ⟨pos, by rw [List.take_nil, List.append_nil]; rfl⟩
  | cons val rest ih =>
      obtain ⟨hval, hrest⟩ := List.forall_mem_cons.mp hrest
      obtain ⟨hfirst, hread⟩ := readFields_bytes_append hread
      have hhere : pos / 8 < 1024 := hnear 0 (by rw [List.length_cons]; omega)
      have hleft : 4 - oid.length = 4 - (oid ++ [val]).length + 1 := by
        rw [List.length_append, List.length_singleton]
        omega
      rw [List.length_cons, asn1DecodeOidLoop, if_pos hhere, asn1DecodeOidComponent_eq hfuel hval hfirst]
      dsimp only
      split
      · rename_i hfull
        have htaken : (val :: rest).take (4 - oid.length) = [val] := by
          rw [hleft, Nat.sub_eq_zero_of_le hfull]
          rfl
        exact ⟨_, by rw [htaken]⟩
      · rename_i hspace
        obtain ⟨stop, hloop⟩ := ih hrest (Nat.not_le.mp hspace) hread fun i hi => by
          have hplace := hnear (i + 1) (by rw [List.length_cons, hleft]; omega)
          rwa [List.take_succ_cons, List.flatMap_cons, List.length_append, Nat.mul_add, ← Nat.add_assoc]
            at hplace
        refine ⟨stop, ?_⟩
        rw [hloop, hleft, List.take_succ_cons, List.append_assoc, List.singleton_append]

end Read

/-! ### Object identifiers that come back -/

theorem asn1EncodeOid_data {buf : Asn1Buffer} {first second : Word} {rest : List Word}
    (hroom : buf.bitOffset + 8 * (asn1OidBytes first second rest).length ≤ 8 * buf.capacity) :
    ∃ after, asn1EncodeOid buf (first :: second :: rest) = (after, .ok ())
      ∧ after.data = writeFields buf.data buf.bitOffset
          ((asn1OidBytes first second rest).map fun byte => (byte, 8)) := by
  refine ⟨_, rfl, ?_⟩
  generalize asn1OidBytes first second rest = bytes at hroom ⊢
  induction bytes generalizing buf with
  | nil => rfl
  | cons byte bytes ih =>
      rw [List.length_cons] at hroom
      have hfits : buf.bitOffset + 8 ≤ 8 * buf.capacity := by omega
      rw [List.map_cons, asn1EncodeFields, asn1EncodeBits_eq (by decide) hfits, ih]
      · rfl
      · dsimp only
        omega

theorem toNat_lt_of_mem_asn1OidBytes {first second : Word} {rest : List Word}
    (hrest : ∀ val ∈ rest, val.toNat < 2 ^ 28) {byte : Word} (h : byte ∈ asn1OidBytes first second rest) :
    byte.toNat < 2 ^ 8 := by
  rcases List.mem_cons.mp h with rfl | hgroup
  · rw [BitVec.toNat_setWidth_of_le (by decide)]
    exact BitVec.isLt _
  · obtain ⟨val, hval, hgroup⟩ := List.mem_flatMap.mp hgroup
    obtain ⟨n, -, hform, -⟩ := exists_asn1OidGroups (hrest val hval)
    exact toNat_lt_of_mem_asn1OidGroups (hform ▸ hgroup)

/-- The two components of the first byte. -/
theorem asn1OidFirstByte {first second : Word} (hfirst : first.toNat ≤ 2) (hsecond : second.toNat < 40) :
    ((40 * first + second).setWidth 8).setWidth 32 / 40 = first
      ∧ ((40 * first + second).setWidth 8).setWidth 32 % 40 = second := by
  have hbyte : (((40 * first + second).setWidth 8).setWidth 32 : Word).toNat
      = 40 * first.toNat + second.toNat := by
    rw [BitVec.toNat_setWidth, BitVec.toNat_setWidth, BitVec.toNat_add, BitVec.toNat_mul]
    have hforty : (40 : Word).toNat = 40 := rfl
    rw [hforty]
    omega
  have hforty : (40 : Word).toNat = 40 := rfl
  constructor
  · apply BitVec.eq_of_toNat_eq
    rw [BitVec.toNat_udiv, hbyte, hforty]
    omega
  · apply BitVec.eq_of_toNat_eq
    rw [BitVec.toNat_umod, hbyte, hforty]
    omega

/-- **The first four components come back**, those from the third on if they are below 2 to the 28 and begin
in the first 1024 bytes. -/
theorem asn1DecodeOid_asn1EncodeOid {buf : Asn1Buffer}
    (hblank : Blank buf.data buf.bitOffset (8 * buf.capacity)) {first second : Word} {rest : List Word}
    (hfirst : first.toNat ≤ 2) (hsecond : second.toNat < 40) (hrest : ∀ val ∈ rest, val.toNat < 2 ^ 28)
    (hroom : buf.bitOffset + 8 * (asn1OidBytes first second rest).length ≤ 8 * buf.capacity)
    (hnear : ∀ i < min 2 rest.length,
      (buf.bitOffset + 8 * (asn1OidBytes first second (rest.take i)).length) / 8 < 1024)
    {fuel : Nat} (hfuel : 4 < fuel) :
    ∃ after stop, asn1EncodeOid buf (first :: second :: rest) = (after, .ok ())
      ∧ asn1DecodeOid fuel after.data buf.bitOffset (first :: second :: rest).length
          = some (stop, .ok ((first :: second :: rest).take 4)) := by
  obtain ⟨after, hencode, hdata⟩ := asn1EncodeOid_data hroom
  have hvalues : ∀ field ∈ (asn1OidBytes first second rest).map fun byte => (byte, 8),
      field.1.toNat < 2 ^ field.2 :=
    List.forall_mem_map.mpr fun byte hbyte => toNat_lt_of_mem_asn1OidBytes hrest hbyte
  have hwidth : fieldsWidth ((asn1OidBytes first second rest).map fun byte => (byte, 8))
      = 8 * (asn1OidBytes first second rest).length := by
    simp [fieldsWidth, Function.comp_def, Nat.mul_comm]
  have hread := readFields_writeFields hblank (by rwa [hwidth]) hvalues
  rw [← hdata, List.map_map, List.map_map] at hread
  have hall : readFields after.data buf.bitOffset
      (List.replicate (asn1OidBytes first second rest).length 8) = asn1OidBytes first second rest := by
    simpa [Function.comp_def] using hread
  obtain ⟨hbyte, hgroups⟩ := @readFields_bytes_append after.data buf.bitOffset [_] _ hall
  obtain ⟨hquotient, hremainder⟩ := asn1OidFirstByte hfirst hsecond
  have hloop := @asn1DecodeOidLoop_eq after.data (buf.bitOffset + 8) fuel hfuel rest [first, second] hrest
    (by simp) hgroups fun i hi => by
      have hplace := hnear i hi
      rwa [asn1OidBytes, List.length_cons, Nat.mul_succ, Nat.add_comm (8 * _), ← Nat.add_assoc] at hplace
  obtain ⟨stop, hloop⟩ := hloop
  refine ⟨after, stop, hencode, ?_⟩
  rw [asn1DecodeOid, if_neg (by simp), asn1DecodeField_eq _ _ (by decide)]
  dsimp only
  rw [(List.cons.inj hbyte).1, hquotient, hremainder]
  change (asn1DecodeOidLoop fuel after.data rest.length _ _).map _ = _
  rw [hloop]
  rfl

/-- 1.3.6.300, whose last component has two groups. -/
theorem asn1DecodeOid_asn1EncodeOid_four :
    ∃ after stop, asn1EncodeOid ⟨zeros, 0, 8, 3⟩ [1, 3, 6, 300] = (after, .ok ())
      ∧ asn1DecodeOid 5 after.data 3 4 = some (stop, .ok [1, 3, 6, 300]) :=
  @asn1DecodeOid_asn1EncodeOid ⟨zeros, 0, 8, 3⟩ (fun q _ _ => bitAt_zeros q) 1 3 [6, 300] (by decide)
    (by decide) (by simp) (by decide) (by decide) 5 (by decide)

/-! ### Four components -/

theorem length_asn1DecodeOidLoop_le {fuel : Nat} {data : Memory} {left pos : Nat} {oid : List Word}
    {decoded : Nat × List Word} (hoid : oid.length < 4)
    (h : asn1DecodeOidLoop fuel data left pos oid = some decoded) : decoded.2.length ≤ 4 := by
  induction left generalizing pos oid with
  | zero =>
      obtain rfl := Option.some.inj h
      exact Nat.le_of_lt hoid
  | succ left ih =>
      rw [asn1DecodeOidLoop] at h
      split at h
      · split at h
        · cases h
        · split at h
          · obtain rfl := Option.some.inj h
            rw [List.length_append, List.length_singleton]
            exact hoid
          · rename_i hspace
            exact ih (Nat.not_le.mp hspace) h
      · obtain rfl := Option.some.inj h
        exact Nat.le_of_lt hoid

/-- More than four components are never returned. -/
theorem length_asn1DecodeOid_le {fuel : Nat} {data : Memory} {pos max stop : Nat} {oid : List Word}
    (h : asn1DecodeOid fuel data pos max = some (stop, .ok oid)) : oid.length ≤ 4 := by
  rw [asn1DecodeOid] at h
  split at h
  · cases h
  · obtain ⟨decoded, hloop, hdecoded⟩ := Option.map_eq_some_iff.mp h
    obtain ⟨-, hoid⟩ := Prod.mk.inj hdecoded
    obtain rfl := Except.ok.inj hoid
    exact length_asn1DecodeOidLoop_le (by simp) hloop

/-- Whenever the object identifier is encoded, it is decoded. -/
def OidComesBack (buf : Asn1Buffer) (oid : List Word) : Prop :=
  ∀ after, asn1EncodeOid buf oid = (after, .ok ()) →
    ∃ fuel stop, asn1DecodeOid fuel after.data buf.bitOffset oid.length = some (stop, .ok oid)

/-- Of 1.3.6.1.4 the last component is not read. -/
theorem oid_not_comesBack : ¬OidComesBack ⟨zeros, 0, 8, 0⟩ [1, 3, 6, 1, 4] := by
  intro h
  obtain ⟨fuel, stop, hdecode⟩ := h _ rfl
  exact absurd (length_asn1DecodeOid_le hdecode) (by decide)

end Uesim
