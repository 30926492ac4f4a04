import Uesim.Library.Runs
import Uesim.Nas.Nssai

/-!
# Which slice a PDU session gets

The candidate is the first there is of five, and the lists of the allowed and of the rejected slices decide
about it. A slice that is rejected is kept as long as the array has a cell for it. When it has none the call
reports success all the same, and the slice is as good as ever.
-/

namespace Uesim

/-- The first `count` slices of an array. -/
structure NasSliceArray where
  slices : List NasSNssai
  length_le : slices.length ≤ nasMaxSNssai

namespace NasSliceArray

def empty : NasSliceArray := ⟨[], Nat.zero_le _⟩

/-- What does not fit is left out. -/
def ofSlices (slices : List NasSNssai) : NasSliceArray :=
  ⟨slices.take nasMaxSNssai, List.length_take_le _ _⟩

def push (array : NasSliceArray) (slice : NasSNssai) : NasSliceArray :=
  if h : array.slices.length < nasMaxSNssai then
    ⟨array.slices ++ [slice], Nat.le_trans (Nat.le_of_eq List.length_append) h⟩
  else array

theorem slices_push_of_lt {array : NasSliceArray} (slice : NasSNssai)
    (h : array.slices.length < nasMaxSNssai) : (array.push slice).slices = array.slices ++ [slice] := by
  rw [push, dif_pos h]

theorem push_of_not_lt {array : NasSliceArray} (slice : NasSNssai)
    (h : ¬array.slices.length < nasMaxSNssai) : array.push slice = array := by
  rw [push, dif_neg h]

theorem mem_push {array : NasSliceArray} (slice : NasSNssai) {entry : NasSNssai}
    (h : entry ∈ array.slices) : entry ∈ (array.push slice).slices := by
  by_cases hroom : array.slices.length < nasMaxSNssai
  · rw [slices_push_of_lt slice hroom]
    exact List.mem_append_left _ h
  · rwa [push_of_not_lt slice hroom]

end NasSliceArray

/-- What the selection reads of the NAS context. A default slice is there once it is configured. -/
structure NasSliceContext where
  defaultSlice : Option NasSNssai
  allowed : NasSliceArray
  rejected : NasSliceArray
  subscribed : NasSliceArray
  subscribedDefault : Option NasSNssai

inductive NasSliceSelectResult where
  | notAllowed
  | notSubscribed
  | rejected
  | noDefault
  deriving DecidableEq

def nasSstEmbb : Bytes.Byte := 1
def nasSstHci : Bytes.Byte := 5

def nasSliceInit : NasSliceContext :=
  { defaultSlice := none
    allowed := .empty
    rejected := .empty
    subscribed := .empty
    subscribedDefault := none }

/-- The differentiator counts where there is one, and has to be there in both or in none. -/
def nasSliceCompareSNssai (slice1 slice2 : NasSNssai) : Bool :=
  if slice1.sst ≠ slice2.sst then false
  else
    match slice1.sd, slice2.sd with
    | some sd1, some sd2 => sd1 = sd2
    | none, none => true
    | _, _ => false

/-! The slices are those that the count covers, and there are none of them without an array. -/

def nasSliceSetSubscription (context : NasSliceContext) (slices : Option (List NasSNssai))
    (defaultSlice : Option NasSNssai) : NasSliceContext × Except UesimError Unit :=
  match slices with
  | none => (context, .error .invalidParam)
  | some [] => (context, .error .invalidParam)
  | some (slice :: slices) =>
      ({ context with
          subscribed := .ofSlices (slice :: slices)
          subscribedDefault := defaultSlice.or context.subscribedDefault }, .ok ())

def nasSliceSetAllowed (context : NasSliceContext) (slices : Option (List NasSNssai)) :
    NasSliceContext × Except UesimError Unit :=
  match slices with
  | none => (context, .error .invalidParam)
  | some [] => (context, .error .invalidParam)
  | some (slice :: slices) => ({ context with allowed := .ofSlices (slice :: slices) }, .ok ())

def nasSliceAddRejected (context : NasSliceContext) (slice : Option NasSNssai) :
    NasSliceContext × Except UesimError Unit :=
  match slice with
  | none => (context, .error .invalidParam)
  -- a slice that finds no cell is dropped, and that is a success too
  | some slice => ({ context with rejected := context.rejected.push slice }, .ok ())

/-- Without a list every standard slice type is allowed. -/
def nasSliceIsAllowed (context : NasSliceContext) (slice : NasSNssai) : Bool :=
  if context.allowed.slices.any (nasSliceCompareSNssai · slice) then true
  else if context.allowed.slices.length = 0 then nasSstEmbb ≤ slice.sst ∧ slice.sst ≤ nasSstHci
  else false

def nasSliceIsRejected (context : NasSliceContext) (slice : NasSNssai) : Bool :=
  context.rejected.slices.any (nasSliceCompareSNssai · slice)

/-- There is a slice for every context. -/
def nasSliceGetDefault (context : NasSliceContext) : NasSNssai :=
  match context.defaultSlice, context.subscribedDefault, context.allowed.slices,
    context.subscribed.slices with
  | some slice, _, _, _ => slice
  | none, some slice, _, _ => slice
  | none, none, slice :: _, _ => slice
  | none, none, [], slice :: _ => slice
  | none, none, [], [] => { sst := nasSstEmbb, sd := none, mappedSst := none, mappedSd := none }

def nasSliceSelectForPduSession (context : NasSliceContext) : Except NasSliceSelectResult NasSNssai :=
  let defaultSlice := nasSliceGetDefault context
  if nasSliceIsAllowed context defaultSlice = false then .error .notAllowed
  else if nasSliceIsRejected context defaultSlice then .error .rejected
  else .ok defaultSlice

/-! ### Equal slices -/

theorem nasSliceCompareSNssai_iff (slice1 slice2 : NasSNssai) :
    nasSliceCompareSNssai slice1 slice2 = true ↔ slice1.sst = slice2.sst ∧ slice1.sd = slice2.sd := by
  unfold nasSliceCompareSNssai
  by_cases hsst : slice1.sst = slice2.sst
  · cases hsd1 : slice1.sd <;> cases hsd2 : slice2.sd <;> simp [hsst]
  · simp [hsst]

theorem nasSliceIsRejected_iff (context : NasSliceContext) (slice : NasSNssai) :
    nasSliceIsRejected context slice = true
      ↔ ∃ entry ∈ context.rejected.slices, nasSliceCompareSNssai entry slice = true :=
  List.any_eq_true

theorem nasSliceIsRejected_of_compare {context : NasSliceContext} {selected slice : NasSNssai}
    (h : nasSliceIsRejected context slice = true)
    (hequal : nasSliceCompareSNssai selected slice = true) :
    nasSliceIsRejected context selected = true := by
  obtain ⟨entry, hentry, hcompare⟩ := (nasSliceIsRejected_iff context slice).mp h
  obtain ⟨hsst, hsd⟩ := (nasSliceCompareSNssai_iff entry slice).mp hcompare
  obtain ⟨hsst', hsd'⟩ := (nasSliceCompareSNssai_iff selected slice).mp hequal
  refine (nasSliceIsRejected_iff context selected).mpr ⟨entry, hentry, ?_⟩
  rw [nasSliceCompareSNssai_iff]
  exact ⟨hsst.trans hsst'.symm, hsd.trans hsd'.symm⟩

theorem nasSliceSelectForPduSession_eq_ok {context : NasSliceContext} {selected : NasSNssai}
    (h : nasSliceSelectForPduSession context = .ok selected) :
    nasSliceIsAllowed context selected = true ∧ nasSliceIsRejected context selected = false := by
  unfold nasSliceSelectForPduSession at h
  dsimp only at h
  split at h
  · cases h
  rename_i hallowed
  split at h
  · cases h
  rename_i hrejected
  rw [← Except.ok.inj h]
  exact ⟨by simpa using hallowed, by simpa using hrejected⟩

theorem exists_allowed_of_select {context : NasSliceContext} {selected : NasSNssai}
    (hallowed : context.allowed.slices ≠ []) (h : nasSliceSelectForPduSession context = .ok selected) :
    ∃ entry ∈ context.allowed.slices, nasSliceCompareSNssai entry selected = true := by
  have hselected := (nasSliceSelectForPduSession_eq_ok h).1
  have hlength : context.allowed.slices.length ≠ 0 := fun hzero => hallowed (List.length_eq_zero_iff.mp hzero)
  unfold nasSliceIsAllowed at hselected
  rw [if_neg hlength] at hselected
  split at hselected
  · rename_i hany
    exact List.any_eq_true.mp hany
  · cases hselected

/-! ### Runs -/

inductive NasSliceOp where
  | setAllowed (slices : Option (List NasSNssai))
  | setSubscription (slices : Option (List NasSNssai)) (defaultSlice : Option NasSNssai)
  | addRejected (slice : Option NasSNssai)

/-- The context, and the slices of which the UE has been told that they are rejected now. -/
structure NasSliceHistory where
  context : NasSliceContext
  reported : List NasSNssai

namespace NasSliceHistory

def start (context : NasSliceContext) : NasSliceHistory := { context, reported := [] }

def added (history : NasSliceHistory) (slice : Option NasSNssai)
    (result : NasSliceContext × Except UesimError Unit) : NasSliceHistory :=
  { context := result.1
    reported := if result.2 = .ok () then slice.toList ++ history.reported else history.reported }

end NasSliceHistory

def nasSliceStep (history : NasSliceHistory) : NasSliceOp → NasSliceHistory
  | .setAllowed slices => { history with context := (nasSliceSetAllowed history.context slices).1 }
  | .setSubscription slices defaultSlice =>
      { history with context := (nasSliceSetSubscription history.context slices defaultSlice).1 }
  | .addRejected slice => history.added slice (nasSliceAddRejected history.context slice)

namespace NasSliceHistory

/-- Every slice that was reported is rejected and not selected, and what is selected is on the list if
there is one. -/
structure Lawful (history : NasSliceHistory) : Prop where
  rejected : ∀ slice ∈ history.reported, nasSliceIsRejected history.context slice = true
  notSelected : ∀ slice ∈ history.reported, ∀ selected,
    nasSliceSelectForPduSession history.context = .ok selected →
      nasSliceCompareSNssai selected slice = false
  allowed : history.context.allowed.slices ≠ [] → ∀ selected,
    nasSliceSelectForPduSession history.context = .ok selected →
      ∃ entry ∈ history.context.allowed.slices, nasSliceCompareSNssai entry selected = true

/-- There is a cell for a rejected slice, or it is rejected already. -/
def Fits (history : NasSliceHistory) : NasSliceOp → Prop
  | .setAllowed _ => True
  | .setSubscription _ _ => True
  | .addRejected slice =>
      ∀ s ∈ slice, history.context.rejected.slices.length < nasMaxSNssai
        ∨ nasSliceIsRejected history.context s = true

theorem lawful_iff (history : NasSliceHistory) :
    history.Lawful ↔ ∀ slice ∈ history.reported, nasSliceIsRejected history.context slice = true := by
  refine ⟨Lawful.rejected, fun h => ⟨h, ?_, fun hallowed selected => exists_allowed_of_select hallowed⟩⟩
  intro slice hslice selected hselect
  have hnot := (nasSliceSelectForPduSession_eq_ok hselect).2
  by_contra hequal
  rw [nasSliceIsRejected_of_compare (h slice hslice) (by simpa using hequal)] at hnot
  cases hnot

end NasSliceHistory

theorem rejected_nasSliceSetAllowed (context : NasSliceContext) (slices : Option (List NasSNssai)) :
    (nasSliceSetAllowed context slices).1.rejected = context.rejected := by
  unfold nasSliceSetAllowed
  split <;> rfl

theorem rejected_nasSliceSetSubscription (context : NasSliceContext) (slices : Option (List NasSNssai))
    (defaultSlice : Option NasSNssai) :
    (nasSliceSetSubscription context slices defaultSlice).1.rejected = context.rejected := by
  unfold nasSliceSetSubscription
  split <;> rfl

theorem nasSliceIsRejected_congr {context context' : NasSliceContext}
    (h : context'.rejected = context.rejected) (slice : NasSNssai) :
    nasSliceIsRejected context' slice = nasSliceIsRejected context slice := by
  rw [nasSliceIsRejected, h, nasSliceIsRejected]

theorem nasSliceIsRejected_addRejected {context : NasSliceContext} {slice : NasSNssai}
    (h : nasSliceIsRejected context slice = true) (added : Option NasSNssai) :
    nasSliceIsRejected (nasSliceAddRejected context added).1 slice = true := by
  cases added with
  | none => exact h
  | some added =>
      obtain ⟨entry, hentry, hcompare⟩ := (nasSliceIsRejected_iff context slice).mp h
      exact (nasSliceIsRejected_iff _ slice).mpr
        ⟨entry, NasSliceArray.mem_push added hentry, hcompare⟩

/-- The slice of a call is rejected afterwards exactly if it was before or finds a cell. -/
theorem nasSliceIsRejected_addRejected_self (context : NasSliceContext) (slice : NasSNssai) :
    nasSliceIsRejected (nasSliceAddRejected context (some slice)).1 slice = true
      ↔ context.rejected.slices.length < nasMaxSNssai ∨ nasSliceIsRejected context slice = true := by
  by_cases hroom : context.rejected.slices.length < nasMaxSNssai
  · refine iff_of_true ?_ (Or.inl hroom)
    refine (nasSliceIsRejected_iff _ slice).mpr ⟨slice, ?_, ?_⟩
    · have hslices := NasSliceArray.slices_push_of_lt slice hroom
      exact hslices ▸ List.mem_append_right _ List.mem_cons_self
    · exact (nasSliceCompareSNssai_iff slice slice).mpr ⟨rfl, rfl⟩
  · have hsame : (nasSliceAddRejected context (some slice)).1.rejected = context.rejected :=
      NasSliceArray.push_of_not_lt slice hroom
    rw [nasSliceIsRejected_congr hsame]
    exact (or_iff_right hroom).symm

/-- One call keeps what was reported, and its own slice is rejected exactly if it fits. -/
theorem nasSliceStep_lawful_iff (history : NasSliceHistory) (op : NasSliceOp) (h : history.Lawful) :
    (nasSliceStep history op).Lawful ↔ history.Fits op := by
  rw [NasSliceHistory.lawful_iff] at h ⊢
  cases op with
  | setAllowed slices =>
      refine iff_of_true ?_ trivial
      intro slice hslice
      have hsame := rejected_nasSliceSetAllowed history.context slices
      exact (nasSliceIsRejected_congr hsame slice).trans (h slice hslice)
  | setSubscription slices defaultSlice =>
      refine iff_of_true ?_ trivial
      intro slice hslice
      have hsame := rejected_nasSliceSetSubscription history.context slices defaultSlice
      exact (nasSliceIsRejected_congr hsame slice).trans (h slice hslice)
  | addRejected added =>
      cases added with
      | none => exact iff_of_true h fun s hs => absurd hs (Option.not_mem_none s)
      | some added =>
          have hkeep : ∀ slice ∈ history.reported,
              nasSliceIsRejected (nasSliceAddRejected history.context (some added)).1 slice = true :=
            fun slice hslice => nasSliceIsRejected_addRejected (h slice hslice) (some added)
          have hself := nasSliceIsRejected_addRejected_self history.context added
          constructor
          · intro hall s hs
            rw [← Option.mem_some.mp hs]
            exact hself.mp (hall added List.mem_cons_self)
          · intro hfits slice hslice
            rcases List.mem_cons.mp hslice with rfl | hold
            · exact hself.mpr (hfits slice rfl)
            · exact hkeep slice hold

/-- **A rejected slice is never selected again exactly in the runs in which the rejected slices fit.** -/
theorem nasSliceRun_lawful_iff (context : NasSliceContext) (ops : List NasSliceOp) :
    Runs.Throughout nasSliceStep NasSliceHistory.Lawful (NasSliceHistory.start context) ops
      ↔ Runs.Always nasSliceStep NasSliceHistory.Fits (NasSliceHistory.start context) ops := by
  apply Runs.throughout_iff (fun _ h => h) (fun history op h => nasSliceStep_lawful_iff history op h)
  · intro history op h hfits
    exact (nasSliceStep_lawful_iff history op h).mpr hfits
  · rw [NasSliceHistory.lawful_iff]
    exact fun slice hslice => absurd hslice List.not_mem_nil

def nasPlainSlice (sst : Bytes.Byte) : NasSNssai :=
  { sst := sst, sd := none, mappedSst := none, mappedSd := none }

/-- Nine slices are rejected, and the last one is the default. -/
theorem nasSliceRun_ninth_selected :
    ¬Runs.Throughout nasSliceStep NasSliceHistory.Lawful (NasSliceHistory.start nasSliceInit)
      ([2, 3, 4, 5, 6, 7, 8, 9, 1].map fun sst => .addRejected (some (nasPlainSlice sst))) := by
  intro h
  have hlawful : NasSliceHistory.Lawful _ := h.2.2.2.2.2.2.2.2.2
  have hbad := hlawful.notSelected (nasPlainSlice 1) List.mem_cons_self (nasPlainSlice 1) (by decide)
  revert hbad
  decide

end Uesim
