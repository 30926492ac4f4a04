import Uesim.Core.GnbConnections

/-!
# The topology of the gNBs of a UE

Whom a UE points to, with nothing of a gNB but its address and whether it is the serving one. Adding, removing
and switching are what can change it. A new gNB spoils it if its address is taken, and a switch does if there
is no room for the old serving gNB.
-/

namespace Uesim.Core

structure GnbLink where
  addr : GnbAddr
  isServing : Bool

structure GnbLinks where
  gnbs : Nat → Option GnbLink
  servingGnb : Option Nat
  candidateGnbs : List (Option Nat)

namespace GnbLinks

def Distinct (links : GnbLinks) : Prop :=
  ∀ gnb gnb' link link', links.gnbs gnb = some link → links.gnbs gnb' = some link' →
    link.addr = link'.addr → gnb = gnb'

def Kept (links : GnbLinks) : Prop :=
  ∀ gnb link, links.gnbs gnb = some link → links.servingGnb = some gnb ∨ some gnb ∈ links.candidateGnbs

/-- No gNB is lost, and none is there twice. -/
structure Topology (links : GnbLinks) : Prop where
  bounded : links.candidateGnbs.length ≤ maxGnbCandidates
  nonnull : none ∉ links.candidateGnbs
  nodup : links.candidateGnbs.Nodup
  serving_not_candidate : ∀ gnb, links.servingGnb = some gnb → some gnb ∉ links.candidateGnbs
  isServing_iff : ∀ gnb link, links.gnbs gnb = some link →
    (link.isServing = true ↔ links.servingGnb = some gnb)
  distinct : links.Distinct
  kept : links.Kept

/-- What holds in any run: a UE points to gNBs only, and the first one that is added is its serving gNB. -/
structure Linked (links : GnbLinks) : Prop where
  bounded : links.candidateGnbs.length ≤ maxGnbCandidates
  nodup : links.candidateGnbs.Nodup
  candidate : ∀ candidate ∈ links.candidateGnbs, ∃ gnb link, candidate = some gnb ∧ links.gnbs gnb = some link
  serving : ∀ gnb, links.servingGnb = some gnb → ∃ link, links.gnbs gnb = some link
  serving_not_candidate : ∀ gnb, links.servingGnb = some gnb → some gnb ∉ links.candidateGnbs
  isServing_iff : ∀ gnb link, links.gnbs gnb = some link →
    (link.isServing = true ↔ links.servingGnb = some gnb)
  empty : links.servingGnb = none → ∀ gnb, links.gnbs gnb = none

def addServing (links : GnbLinks) (gnb : Nat) (addr : GnbAddr) : GnbLinks :=
  { links with
    gnbs := Function.update links.gnbs gnb (some { addr, isServing := true })
    servingGnb := some gnb }

def addCandidate (links : GnbLinks) (gnb : Nat) (addr : GnbAddr) : GnbLinks :=
  { links with
    gnbs := Function.update links.gnbs gnb (some { addr, isServing := false })
    candidateGnbs := links.candidateGnbs ++ [some gnb] }

def remove (links : GnbLinks) (gnb : Nat) : GnbLinks :=
  { links with
    gnbs := Function.update links.gnbs gnb none
    candidateGnbs := links.candidateGnbs.erase (some gnb) }

/-- The candidates, and the old serving gNB if there is room. -/
def grown (links : GnbLinks) (old : Nat) : List (Option Nat) :=
  if links.candidateGnbs.length < maxGnbCandidates then links.candidateGnbs ++ [some old]
  else links.candidateGnbs

/-- Switch from the one to the other. -/
def switch (links : GnbLinks) (old new : Nat) : GnbLinks :=
  { gnbs := fun gnb => (links.gnbs gnb).map fun link => { link with isServing := gnb = new }
    servingGnb := some new
    candidateGnbs := (links.grown old).erase (some new) }

/-! ### What the links keep -/

variable {links : GnbLinks} {gnb : Nat} {addr : GnbAddr}

namespace Linked

theorem topology_iff (h : links.Linked) : links.Topology ↔ links.Distinct ∧ links.Kept := by
  constructor
  · exact fun htopology => ⟨htopology.distinct, htopology.kept⟩
  · rintro ⟨hdistinct, hkept⟩
    exact
      { bounded := h.bounded
        nonnull := by
          intro hnone
          obtain ⟨gnb, link, hsome, -⟩ := h.candidate none hnone
          cases hsome
        nodup := h.nodup
        serving_not_candidate := h.serving_not_candidate
        isServing_iff := h.isServing_iff
        distinct := hdistinct
        kept := hkept }

theorem not_mem_of_fresh (h : links.Linked) (hfresh : links.gnbs gnb = none) :
    some gnb ∉ links.candidateGnbs := by
  intro hmem
  obtain ⟨gnb', link, heq, hlink⟩ := h.candidate _ hmem
  rw [← Option.some.inj heq, hfresh] at hlink
  cases hlink

theorem ne_serving_of_fresh (h : links.Linked) (hfresh : links.gnbs gnb = none) :
    links.servingGnb ≠ some gnb := by
  intro hserving
  obtain ⟨link, hlink⟩ := h.serving gnb hserving
  rw [hfresh] at hlink
  cases hlink

theorem addServing (h : links.Linked) (hserving : links.servingGnb = none) (gnb : Nat) (addr : GnbAddr) :
    (links.addServing gnb addr).Linked := by
  have hempty := h.empty hserving
  have hcandidates : links.candidateGnbs = [] := by
    refine List.eq_nil_iff_forall_not_mem.mpr fun candidate hmem => ?_
    obtain ⟨gnb', link, -, hlink⟩ := h.candidate candidate hmem
    rw [hempty] at hlink
    cases hlink
  unfold GnbLinks.addServing
  rw [hcandidates]
  exact
    { bounded := Nat.zero_le _
      nodup := List.nodup_nil
      candidate := fun _ hmem => absurd hmem List.not_mem_nil
      serving := by
        rintro gnb' heq
        rw [← Option.some.inj heq]
        exact ⟨_, Function.update_self ..⟩
      serving_not_candidate := fun _ _ => List.not_mem_nil
      isServing_iff := by
        intro gnb' link hlink
        by_cases heq : gnb' = gnb
        · subst heq
          dsimp only at hlink
          rw [Function.update_self] at hlink
          rw [← Option.some.inj hlink]
          exact iff_of_true rfl rfl
        · dsimp only at hlink
          rw [Function.update_of_ne heq, hempty] at hlink
          cases hlink
      empty := fun hnone => by cases hnone }

theorem addCandidate (h : links.Linked) (hserving : links.servingGnb ≠ none)
    (hlength : links.candidateGnbs.length < maxGnbCandidates) (hfresh : links.gnbs gnb = none)
    (addr : GnbAddr) : (links.addCandidate gnb addr).Linked := by
  have hother : ∀ gnb' link, links.gnbs gnb' = some link →
      (links.addCandidate gnb addr).gnbs gnb' = some link := by
    intro gnb' link hlink
    have hne : gnb' ≠ gnb := by
      rintro rfl
      rw [hfresh] at hlink
      cases hlink
    unfold GnbLinks.addCandidate
    dsimp only
    rw [Function.update_of_ne hne, hlink]
  exact
    { bounded := by
        unfold GnbLinks.addCandidate
        rw [List.length_append]
        exact hlength
      nodup := by
        unfold GnbLinks.addCandidate
        refine List.nodup_append'.mpr ⟨h.nodup, List.nodup_singleton _, ?_⟩
        rw [List.disjoint_singleton]
        exact h.not_mem_of_fresh hfresh
      candidate := by
        intro candidate hmem
        rcases List.mem_append.mp hmem with hold | hnew
        · obtain ⟨gnb', link, heq, hlink⟩ := h.candidate candidate hold
          exact ⟨gnb', link, heq, hother gnb' link hlink⟩
        · exact ⟨gnb, _, List.mem_singleton.mp hnew, Function.update_self ..⟩
      serving := by
        intro gnb' heq
        obtain ⟨link, hlink⟩ := h.serving gnb' heq
        exact ⟨link, hother gnb' link hlink⟩
      serving_not_candidate := by
        intro gnb' heq hmem
        rcases List.mem_append.mp hmem with hold | hnew
        · exact h.serving_not_candidate gnb' heq hold
        · rw [Option.some.inj (List.mem_singleton.mp hnew)] at heq
          exact h.ne_serving_of_fresh hfresh heq
      isServing_iff := by
        intro gnb' link hlink
        unfold GnbLinks.addCandidate at hlink
        dsimp only at hlink
        by_cases heq : gnb' = gnb
        · rw [heq, Function.update_self] at hlink
          rw [← Option.some.inj hlink, heq]
          exact iff_of_false Bool.false_ne_true (h.ne_serving_of_fresh hfresh)
        · rw [Function.update_of_ne heq] at hlink
          exact h.isServing_iff gnb' link hlink
      empty := fun hnone => absurd hnone hserving }

theorem remove (h : links.Linked) (hserving : links.servingGnb ≠ some gnb) : (links.remove gnb).Linked := by
  have hother : ∀ gnb' link, gnb' ≠ gnb → links.gnbs gnb' = some link →
      (links.remove gnb).gnbs gnb' = some link := by
    intro gnb' link hne hlink
    unfold GnbLinks.remove
    dsimp only
    rw [Function.update_of_ne hne, hlink]
  have hbefore : ∀ gnb' link, (links.remove gnb).gnbs gnb' = some link → links.gnbs gnb' = some link := by
    intro gnb' link hlink
    unfold GnbLinks.remove at hlink
    dsimp only at hlink
    by_cases heq : gnb' = gnb
    · rw [heq, Function.update_self] at hlink
      cases hlink
    · rwa [Function.update_of_ne heq] at hlink
  exact
    { bounded := Nat.le_trans List.length_erase_le h.bounded
      nodup := h.nodup.erase _
      candidate := by
        intro candidate hmem
        obtain ⟨gnb', link, rfl, hlink⟩ := h.candidate candidate (List.mem_of_mem_erase hmem)
        have hne : gnb' ≠ gnb := by
          rintro rfl
          exact (h.nodup.not_mem_erase) hmem
        exact ⟨gnb', link, rfl, hother gnb' link hne hlink⟩
      serving := by
        intro gnb' heq
        obtain ⟨link, hlink⟩ := h.serving gnb' heq
        have hne : gnb' ≠ gnb := by
          rintro rfl
          exact hserving heq
        exact ⟨link, hother gnb' link hne hlink⟩
      serving_not_candidate := fun gnb' heq hmem =>
        h.serving_not_candidate gnb' heq (List.mem_of_mem_erase hmem)
      isServing_iff := fun gnb' link hlink => h.isServing_iff gnb' link (hbefore gnb' link hlink)
      empty := by
        intro hnone gnb'
        unfold GnbLinks.remove
        dsimp only
        by_cases heq : gnb' = gnb
        · rw [heq, Function.update_self]
        · rw [Function.update_of_ne heq]
          exact h.empty hnone gnb' }

theorem nodup_grown (h : links.Linked) {old : Nat} (hold : links.servingGnb = some old) :
    (links.grown old).Nodup := by
  unfold grown
  split
  · refine List.nodup_append'.mpr ⟨h.nodup, List.nodup_singleton _, ?_⟩
    rw [List.disjoint_singleton]
    exact h.serving_not_candidate old hold
  · exact h.nodup

theorem mem_grown_iff (links : GnbLinks) (old : Nat) (candidate : Option Nat) :
    candidate ∈ links.grown old ↔ candidate ∈ links.candidateGnbs ∨
      candidate = some old ∧ links.candidateGnbs.length < maxGnbCandidates := by
  unfold grown
  split
  · rename_i hlength
    rw [List.mem_append, List.mem_singleton, and_iff_left hlength]
  · rename_i hlength
    exact ⟨.inl, fun hmem => hmem.resolve_right fun h => hlength h.2⟩

theorem mem_switch_iff (h : links.Linked) {old new : Nat} (hold : links.servingGnb = some old)
    (candidate : Option Nat) :
    candidate ∈ (links.switch old new).candidateGnbs ↔ candidate ≠ some new ∧
      (candidate ∈ links.candidateGnbs ∨
        candidate = some old ∧ links.candidateGnbs.length < maxGnbCandidates) := by
  rw [← mem_grown_iff]
  exact (h.nodup_grown hold).mem_erase_iff

theorem length_grown_le (h : links.Linked) (old : Nat) : (links.grown old).length ≤ maxGnbCandidates := by
  unfold grown
  split
  · rename_i hlength
    rw [List.length_append]
    exact hlength
  · exact h.bounded

theorem switch (h : links.Linked) {old new : Nat} (hold : links.servingGnb = some old)
    (hnew : some new ∈ links.candidateGnbs) : (links.switch old new).Linked := by
  have hexists : ∀ gnb link, links.gnbs gnb = some link →
      ∃ link', (links.switch old new).gnbs gnb = some link' := by
    intro gnb link hlink
    refine ⟨{ link with isServing := gnb = new }, ?_⟩
    unfold GnbLinks.switch
    dsimp only
    rw [hlink]
    rfl
  exact
    { bounded := Nat.le_trans List.length_erase_le (h.length_grown_le old)
      nodup := (h.nodup_grown hold).erase _
      candidate := by
        intro candidate hcandidate
        rcases ((h.mem_switch_iff hold candidate).mp hcandidate).2 with hbefore | ⟨rfl, -⟩
        · obtain ⟨gnb, link, heq, hlink⟩ := h.candidate candidate hbefore
          obtain ⟨link', hlink'⟩ := hexists gnb link hlink
          exact ⟨gnb, link', heq, hlink'⟩
        · obtain ⟨link, hlink⟩ := h.serving old hold
          obtain ⟨link', hlink'⟩ := hexists old link hlink
          exact ⟨old, link', rfl, hlink'⟩
      serving := by
        intro gnb heq
        obtain ⟨gnb', link, heq', hlink⟩ := h.candidate _ hnew
        rw [← Option.some.inj heq', Option.some.inj heq] at hlink
        exact hexists gnb link hlink
      serving_not_candidate := by
        intro gnb heq
        rw [← heq]
        exact (h.nodup_grown hold).not_mem_erase
      isServing_iff := by
        intro gnb link hlink
        obtain ⟨link', -, rfl⟩ := Option.map_eq_some_iff.mp hlink
        exact decide_eq_true_iff.trans ⟨fun heq => by rw [heq]; rfl, fun heq => (Option.some.inj heq).symm⟩
      empty := fun hnone => by cases hnone }

/-! ### When the topology stays -/

theorem addServing_topology (h : links.Linked) (hserving : links.servingGnb = none) (gnb : Nat)
    (addr : GnbAddr) : (links.addServing gnb addr).Topology := by
  have honly : ∀ gnb' link, (links.addServing gnb addr).gnbs gnb' = some link → gnb' = gnb := by
    intro gnb' link hlink
    by_contra hne
    unfold GnbLinks.addServing at hlink
    dsimp only at hlink
    rw [Function.update_of_ne hne, h.empty hserving] at hlink
    cases hlink
  refine (h.addServing hserving gnb addr).topology_iff.mpr ⟨?_, ?_⟩
  · intro gnb₁ gnb₂ link₁ link₂ h₁ h₂ _
    rw [honly gnb₁ link₁ h₁, honly gnb₂ link₂ h₂]
  · intro gnb' link hlink
    rw [honly gnb' link hlink]
    exact .inl rfl

theorem addCandidate_topology_iff (h : links.Linked) (htopology : links.Topology)
    (hserving : links.servingGnb ≠ none) (hlength : links.candidateGnbs.length < maxGnbCandidates)
    (hfresh : links.gnbs gnb = none) (addr : GnbAddr) :
    (links.addCandidate gnb addr).Topology ↔
      ∀ gnb' link, links.gnbs gnb' = some link → link.addr ≠ addr := by
  have hself : (links.addCandidate gnb addr).gnbs gnb = some { addr, isServing := false } :=
    Function.update_self ..
  have hother : ∀ gnb', gnb' ≠ gnb → (links.addCandidate gnb addr).gnbs gnb' = links.gnbs gnb' :=
    fun gnb' hne => Function.update_of_ne hne ..
  have hne : ∀ gnb' link, links.gnbs gnb' = some link → gnb' ≠ gnb := by
    rintro gnb' link hlink rfl
    rw [hfresh] at hlink
    cases hlink
  rw [(h.addCandidate hserving hlength hfresh addr).topology_iff]
  constructor
  · rintro ⟨hdistinct, -⟩ gnb' link hlink haddr
    have hlink' := hlink
    rw [← hother gnb' (hne gnb' link hlink)] at hlink'
    exact hne gnb' link hlink (hdistinct gnb' gnb link _ hlink' hself haddr)
  · intro hnew
    constructor
    · intro gnb₁ gnb₂ link₁ link₂ h₁ h₂ haddr
      by_cases heq₁ : gnb₁ = gnb
      · by_cases heq₂ : gnb₂ = gnb
        · rw [heq₁, heq₂]
        · rw [heq₁, hself] at h₁
          rw [hother gnb₂ heq₂] at h₂
          rw [← Option.some.inj h₁] at haddr
          exact absurd haddr.symm (hnew gnb₂ link₂ h₂)
      · rw [hother gnb₁ heq₁] at h₁
        by_cases heq₂ : gnb₂ = gnb
        · rw [heq₂, hself] at h₂
          rw [← Option.some.inj h₂] at haddr
          exact absurd haddr (hnew gnb₁ link₁ h₁)
        · rw [hother gnb₂ heq₂] at h₂
          exact htopology.distinct gnb₁ gnb₂ link₁ link₂ h₁ h₂ haddr
    · intro gnb' link hlink
      by_cases heq : gnb' = gnb
      · exact .inr (List.mem_append_right _ (List.mem_singleton.mpr (congrArg some heq)))
      · rw [hother gnb' heq] at hlink
        exact (htopology.kept gnb' link hlink).imp_right (List.mem_append_left _)

theorem remove_topology (h : links.Linked) (htopology : links.Topology)
    (hserving : links.servingGnb ≠ some gnb) : (links.remove gnb).Topology := by
  have hbefore : ∀ gnb' link, (links.remove gnb).gnbs gnb' = some link →
      gnb' ≠ gnb ∧ links.gnbs gnb' = some link := by
    intro gnb' link hlink
    unfold GnbLinks.remove at hlink
    dsimp only at hlink
    by_cases heq : gnb' = gnb
    · rw [heq, Function.update_self] at hlink
      cases hlink
    · rw [Function.update_of_ne heq] at hlink
      exact ⟨heq, hlink⟩
  refine (h.remove hserving).topology_iff.mpr ⟨?_, ?_⟩
  · intro gnb₁ gnb₂ link₁ link₂ h₁ h₂
    exact htopology.distinct gnb₁ gnb₂ link₁ link₂ (hbefore gnb₁ link₁ h₁).2 (hbefore gnb₂ link₂ h₂).2
  · intro gnb' link hlink
    obtain ⟨hne, hlink⟩ := hbefore gnb' link hlink
    refine (htopology.kept gnb' link hlink).imp_right fun hmem => ?_
    exact (List.mem_erase_of_ne fun heq => hne (Option.some.inj heq)).mpr hmem

/-- Where there is no room, the old serving gNB is the one that is lost. -/
theorem switch_topology_iff (h : links.Linked) (htopology : links.Topology) {old new : Nat}
    (hold : links.servingGnb = some old) (hnew : some new ∈ links.candidateGnbs) :
    (links.switch old new).Topology ↔ links.candidateGnbs.length < maxGnbCandidates := by
  have hnotOld := h.serving_not_candidate old hold
  have hne : old ≠ new := by
    rintro rfl
    exact hnotOld hnew
  rw [(h.switch hold hnew).topology_iff]
  constructor
  · rintro ⟨-, hkept⟩
    by_contra hfull
    obtain ⟨link, hlink⟩ := h.serving old hold
    have hlink' : (links.switch old new).gnbs old = some { link with isServing := old = new } := by
      unfold GnbLinks.switch
      dsimp only
      rw [hlink]
      rfl
    rcases hkept old _ hlink' with hserving | hmem
    · exact hne (Option.some.inj hserving).symm
    · rcases ((h.mem_switch_iff hold _).mp hmem).2 with hbefore | ⟨-, hlength⟩
      · exact hnotOld hbefore
      · exact hfull hlength
  · intro hlength
    constructor
    · intro gnb₁ gnb₂ link₁ link₂ h₁ h₂ haddr
      obtain ⟨before₁, hbefore₁, rfl⟩ := Option.map_eq_some_iff.mp h₁
      obtain ⟨before₂, hbefore₂, rfl⟩ := Option.map_eq_some_iff.mp h₂
      exact htopology.distinct gnb₁ gnb₂ before₁ before₂ hbefore₁ hbefore₂ haddr
    · intro gnb' link hlink
      obtain ⟨before, hbefore, -⟩ := Option.map_eq_some_iff.mp hlink
      by_cases heq : gnb' = new
      · exact .inl (congrArg some heq.symm)
      · refine .inr ((h.mem_switch_iff hold _).mpr ⟨fun hsome => heq (Option.some.inj hsome), ?_⟩)
        rcases htopology.kept gnb' before hbefore with hserving | hmem
        · exact .inr ⟨hserving.symm.trans hold, hlength⟩
        · exact .inl hmem

end Linked

end GnbLinks

end Uesim.Core
