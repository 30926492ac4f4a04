import Mathlib.Data.List.Nodup

/-!
# Runs of a state machine

A run is a list of operations. What is asked of a run is asked of every operation in the state in which it
comes, or of every state that is reached. If a condition on the single operations is what keeps the
invariant, it decides about whole runs.
-/

namespace Runs

variable {σ ω : Type}

section Total

variable (step : σ → ω → σ)

/-- Every operation meets the condition in the state in which it comes. -/
def Always (P : σ → ω → Prop) : σ → List ω → Prop
  | _, [] => True
  | s, op :: ops => P s op ∧ Always P (step s op) ops

/-- Every state has the property, the first one included. -/
def Throughout (P : σ → Prop) : σ → List ω → Prop
  | s, [] => P s
  | s, op :: ops => P s ∧ Throughout P (step s op) ops

variable {step} {Inv : σ → Prop} {Safe Good : σ → ω → Prop}

instance decidableAlways (P : σ → ω → Prop) [∀ s op, Decidable (P s op)] :
    ∀ s ops, Decidable (Always step P s ops)
  | _, [] => .isTrue trivial
  | s, op :: ops =>
      have := decidableAlways P (step s op) ops
      inferInstanceAs (Decidable (P s op ∧ Always step P (step s op) ops))

theorem throughout_iff_always (P : σ → Prop) (s : σ) (ops : List ω) :
    Throughout step P s ops ↔ P s ∧ Always step (fun s op => P (step s op)) s ops := by
  induction ops generalizing s with
  | nil => exact ⟨fun h => ⟨h, trivial⟩, And.left⟩
  | cons op ops ih => exact and_congr_right fun _ => ih (step s op)

/-- **If the safe operations are the good ones wherever the invariant holds, and keep it, then the good
runs are the safe ones.** -/
theorem always_iff (hgood : ∀ s op, Inv s → (Good s op ↔ Safe s op))
    (hstep : ∀ s op, Inv s → Safe s op → Inv (step s op)) {s : σ} (hs : Inv s) (ops : List ω) :
    Always step Good s ops ↔ Always step Safe s ops := by
  induction ops generalizing s with
  | nil => exact Iff.rfl
  | cons op ops ih =>
      constructor
      · rintro ⟨hop, hops⟩
        have hsafe := (hgood s op hs).mp hop
        exact ⟨hsafe, (ih (hstep s op hs hsafe)).mp hops⟩
      · rintro ⟨hsafe, hops⟩
        exact ⟨(hgood s op hs).mpr hsafe, (ih (hstep s op hs hsafe)).mpr hops⟩

theorem always_congr (h : ∀ s op, Good s op ↔ Safe s op) (s : σ) (ops : List ω) :
    Always step Good s ops ↔ Always step Safe s ops := by
  have heq : Good = Safe := by
    ext s op
    exact h s op
  rw [heq]

theorem always_and (P Q : σ → ω → Prop) (s : σ) (ops : List ω) :
    Always step (fun s op => P s op ∧ Q s op) s ops ↔ Always step P s ops ∧ Always step Q s ops := by
  induction ops generalizing s with
  | nil => exact ⟨fun _ => ⟨trivial, trivial⟩, fun _ => trivial⟩
  | cons op ops ih => exact (and_congr_right fun _ => ih (step s op)).trans and_and_and_comm

theorem throughout_iff {P : σ → Prop} (hP : ∀ s, Inv s → P s)
    (hgood : ∀ s op, Inv s → (P (step s op) ↔ Safe s op))
    (hstep : ∀ s op, Inv s → Safe s op → Inv (step s op)) {s : σ} (hs : Inv s) (ops : List ω) :
    Throughout step P s ops ↔ Always step Safe s ops := by
  rw [throughout_iff_always]
  exact (and_iff_right (hP s hs)).trans (always_iff hgood hstep hs ops)

theorem always_of_forall {P : σ → ω → Prop} {ops : List ω} (h : ∀ op ∈ ops, ∀ s, P s op) (s : σ) :
    Always step P s ops := by
  induction ops generalizing s with
  | nil => trivial
  | cons op ops ih =>
      exact ⟨h op List.mem_cons_self s, ih (fun op' hmem => h op' (List.mem_cons_of_mem _ hmem)) _⟩

theorem always_iff_forall {P : ω → Prop} (s : σ) (ops : List ω) :
    Always step (fun _ op => P op) s ops ↔ ∀ op ∈ ops, P op := by
  induction ops generalizing s with
  | nil => exact iff_of_true trivial (List.forall_mem_nil P)
  | cons op ops ih => exact (and_congr_right fun _ => ih (step s op)).trans List.forall_mem_cons.symm

theorem always_append (P : σ → ω → Prop) (s : σ) (ops more : List ω) :
    Always step P s (ops ++ more) ↔ Always step P s ops ∧ Always step P (ops.foldl step s) more := by
  induction ops generalizing s with
  | nil => exact ⟨fun h => ⟨trivial, h⟩, And.right⟩
  | cons op ops ih => exact (and_congr_right fun _ => ih (step s op)).trans and_assoc.symm

theorem Always.of_invariant (hgood : ∀ s op, Inv s → Safe s op → Good s op)
    (hstep : ∀ s op, Inv s → Safe s op → Inv (step s op)) {s : σ} {ops : List ω} (hs : Inv s)
    (h : Always step Safe s ops) : Always step Good s ops := by
  induction ops generalizing s with
  | nil => trivial
  | cons op ops ih => exact ⟨hgood s op hs h.1, ih (hstep s op hs h.1) h.2⟩

theorem Throughout.of_invariant {P : σ → Prop} (hP : ∀ s, Inv s → P s)
    (hstep : ∀ s op, Inv s → Safe s op → Inv (step s op)) {s : σ} {ops : List ω} (hs : Inv s)
    (h : Always step Safe s ops) : Throughout step P s ops := by
  rw [throughout_iff_always]
  exact ⟨hP s hs, h.of_invariant (fun s op hs hop => hP _ (hstep s op hs hop)) hstep hs⟩

theorem Always.take {P : σ → ω → Prop} {s : σ} {ops : List ω} (h : Always step P s ops) (count : Nat) :
    Always step P s (ops.take count) := by
  rw [← List.take_append_drop count ops, always_append] at h
  exact h.1

/-- **If an operation that is not safe goes wrong in some end of the run, the safe runs are those of which
every part is good whatever end it comes to.** -/
theorem always_iff_ends {Ends : List ω → Prop} (hgood : ∀ s op, Inv s → Safe s op → Good s op)
    (hstep : ∀ s op, Inv s → Safe s op → Inv (step s op))
    (hends : ∀ s more, Ends more → Always step Safe s more)
    (hwrong : ∀ s op, Inv s → ¬Safe s op → ∃ more, Ends more ∧ ¬Always step Good (step s op) more)
    {s : σ} (hs : Inv s) (ops : List ω) :
    (∀ count more, Ends more → Always step Good s (ops.take count ++ more)) ↔ Always step Safe s ops := by
  constructor
  · intro h
    induction ops generalizing s with
    | nil => trivial
    | cons op ops ih =>
        have hsafe : Safe s op := by
          by_contra hnot
          obtain ⟨more, hmore, hbad⟩ := hwrong s op hs hnot
          exact hbad (h 1 more hmore).2
        exact ⟨hsafe, ih (hstep s op hs hsafe) fun count more hmore => (h (count + 1) more hmore).2⟩
  · intro h count more hmore
    exact Always.of_invariant hgood hstep hs
      ((always_append Safe s _ more).mpr ⟨h.take count, hends _ more hmore⟩)

/-- **If an operation that is not safe loses what is never found again, the runs that end well are the safe
ones.** -/
theorem final_iff {Lost Final : σ → Prop} (hstep : ∀ s op, Inv s → Safe s op → Inv (step s op))
    (hlose : ∀ s op, Inv s → ¬Safe s op → Lost (step s op)) (hlost : ∀ s op, Lost s → Lost (step s op))
    (hend : ∀ s, Inv s → Final s) (hbad : ∀ s, Lost s → ¬Final s) {s : σ} (hs : Inv s) (ops : List ω) :
    Final (ops.foldl step s) ↔ Always step Safe s ops := by
  induction ops generalizing s with
  | nil => exact iff_of_true (hend s hs) trivial
  | cons op ops ih =>
      by_cases hsafe : Safe s op
      · exact (ih (hstep s op hs hsafe)).trans (and_iff_right hsafe).symm
      · refine iff_of_false (hbad _ ?_) fun h => hsafe h.1
        exact List.foldlRecOn ops step (hlose s op hs hsafe) fun s hs op _ => hlost s op hs

end Total

section Emitted

variable {α : Type} (step : σ → ω → σ) (emit : σ → ω → Option α)

/-- What a run puts out, in the order in which it does. -/
def emitted : σ → List ω → List α
  | _, [] => []
  | s, op :: ops => (emit s op).toList ++ emitted (step s op) ops

theorem mem_emitted_iff {s : σ} {ops : List ω} {x : α} :
    x ∈ emitted step emit s ops
      ↔ ∃ before op after, ops = before ++ op :: after ∧ emit (before.foldl step s) op = some x := by
  induction ops generalizing s with
  | nil =>
      refine iff_of_false List.not_mem_nil ?_
      rintro ⟨before, op, after, heq, -⟩
      exact List.append_ne_nil_of_right_ne_nil before (List.cons_ne_nil op after) heq.symm
  | cons op ops ih =>
      rw [emitted, List.mem_append, Option.mem_toList, ih]
      constructor
      · rintro (hhead | ⟨before, later, after, rfl, hlater⟩)
        · exact ⟨[], op, ops, rfl, hhead⟩
        · exact ⟨op :: before, later, after, rfl, hlater⟩
      · rintro ⟨before, later, after, heq, hlater⟩
        cases before with
        | nil =>
            obtain ⟨rfl, rfl⟩ := List.cons.inj heq
            exact .inl hlater
        | cons head before =>
            obtain ⟨rfl, hops⟩ := List.cons.inj heq
            exact .inr ⟨before, later, after, hops, hlater⟩

/-- **Nothing is put out twice exactly when no two operations put out the same**, each in the state in
which it comes. -/
theorem nodup_emitted_iff {s : σ} {ops : List ω} :
    (emitted step emit s ops).Nodup
      ↔ ∀ before first between second after, ops = before ++ first :: (between ++ second :: after) →
        ∀ x, emit (before.foldl step s) first = some x →
          emit (between.foldl step (step (before.foldl step s) first)) second ≠ some x := by
  induction ops generalizing s with
  | nil =>
      refine iff_of_true List.nodup_nil ?_
      intro before first between second after heq
      exact absurd heq.symm (List.append_ne_nil_of_right_ne_nil before (List.cons_ne_nil _ _))
  | cons op ops ih =>
      have hhead : (emit s op).toList.Nodup := by cases emit s op <;> simp
      rw [emitted, List.nodup_append', ih]
      constructor
      · rintro ⟨-, hrest, hfresh⟩ before first between second after heq x hfirst hsecond
        cases before with
        | nil =>
            obtain ⟨rfl, rfl⟩ := List.cons.inj heq
            exact hfresh (Option.mem_toList.mpr hfirst)
              ((mem_emitted_iff step emit).mpr ⟨between, second, after, rfl, hsecond⟩)
        | cons head before =>
            obtain ⟨rfl, hops⟩ := List.cons.inj heq
            exact hrest before first between second after hops x hfirst hsecond
      · intro h
        refine ⟨hhead, ?_, ?_⟩
        · intro before first between second after heq x hfirst
          exact h (op :: before) first between second after (by rw [heq]; rfl) x hfirst
        · intro x hfirst hlater
          obtain ⟨between, second, after, heq, hsecond⟩ := (mem_emitted_iff step emit).mp hlater
          exact h [] op between second after (by rw [heq]; rfl) x (Option.mem_toList.mp hfirst) hsecond

theorem length_emitted_le (s : σ) (ops : List ω) : (emitted step emit s ops).length ≤ ops.length := by
  induction ops generalizing s with
  | nil => exact Nat.le_refl 0
  | cons op ops ih =>
      have hrest := ih (step s op)
      have hfirst : (emit s op).toList.length ≤ 1 := by cases emit s op <;> simp
      rw [emitted, List.length_append, List.length_cons]
      omega

/-- **What has been opened is what has been closed and what is open**, if that is so of every operation. -/
theorem balance_emitted (Inv : σ → Prop) (φ : σ → Nat) (opens closes : α → Bool)
    (hinv : ∀ s op, Inv s → Inv (step s op))
    (hstep : ∀ s op, Inv s → φ (step s op) + (emit s op).toList.countP closes
      = φ s + (emit s op).toList.countP opens) {s : σ} (hs : Inv s) (ops : List ω) :
    φ (ops.foldl step s) + (emitted step emit s ops).countP closes
      = φ s + (emitted step emit s ops).countP opens := by
  induction ops generalizing s with
  | nil => rfl
  | cons op ops ih =>
      have hrest := ih (hinv s op hs)
      have hfirst := hstep s op hs
      rw [List.foldl_cons, emitted, List.countP_append, List.countP_append]
      omega

end Emitted

theorem exists_foldlM {step : σ → ω → Option σ} {Inv : σ → Prop}
    (hstep : ∀ s op, Inv s → ∃ s', step s op = some s' ∧ Inv s') {s : σ} (hs : Inv s) (ops : List ω) :
    ∃ s', ops.foldlM step s = some s' ∧ Inv s' := by
  induction ops generalizing s with
  | nil => exact ⟨s, rfl, hs⟩
  | cons op ops ih =>
      obtain ⟨mid, hmid, hinv⟩ := hstep s op hs
      obtain ⟨s', hs', hinv'⟩ := ih hinv
      refine ⟨s', ?_, hinv'⟩
      rw [List.foldlM_cons, hmid]
      exact hs'

end Runs
