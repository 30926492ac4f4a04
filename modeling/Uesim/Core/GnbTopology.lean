import Uesim.Core.GnbLinks
import Uesim.Library.Runs

/-!
# The gNBs of a UE: none lost, none twice

Connecting and disconnecting leave the topology alone, so what is left are adding, removing and switching. Two
things can go wrong: a candidate is not compared with the serving gNB, and a serving gNB for which there is no
room among the candidates is in neither place.
-/

namespace Uesim.Core

def GnbContext.link (ctx : GnbContext) : GnbLink := { addr := ctx.addr, isServing := ctx.isServing }

def UeContext.links (ue : UeContext) : GnbLinks :=
  { gnbs := fun gnb => (ue.gnbs gnb).map GnbContext.link
    servingGnb := ue.servingGnb
    candidateGnbs := ue.candidateGnbs }

inductive GnbOp where
  | add (addr : GnbAddr) (outcome : AllocOutcome)
  | remove (gnb : Nat)
  | switchServing (gnb : Nat)
  | connect (gnb : Nat) (outcome : ConnectOutcome)
  | disconnect (gnb : Nat)
  | handover (outcome : ConnectOutcome)
  | measure (gnb : Nat) (rsrp : Int)

/-- The power is measured outside: a gNB is handed out to whoever adds it. -/
def measureGnb (ue : UeContext) (gnb : Nat) (rsrp : Int) : UeContext :=
  match ue.gnbs gnb with
  | none => ue
  | some ctx => ue.setGnb gnb { ctx with rsrp }

def gnbStep (ue : UeContext) : GnbOp → UeContext
  | .add addr outcome => (uesimAddGnb ue addr outcome).1
  | .remove gnb => (uesimRemoveGnb ue gnb).1
  | .switchServing gnb => (uesimSwitchServingGnb ue gnb).1
  | .connect gnb outcome => (uesimConnectGnb ue gnb outcome).1
  | .disconnect gnb => (uesimDisconnectGnb ue gnb).1
  | .handover outcome => (executeHandoverProcedure ue outcome).1
  | .measure gnb rsrp => measureGnb ue gnb rsrp

/-- The power of some candidate is above the invalid one. -/
def UeContext.HasMeasured (ue : UeContext) : Prop :=
  ∃ gnb ctx, some gnb ∈ ue.candidateGnbs ∧ ue.gnbs gnb = some ctx ∧ -140 < ctx.rsrp

/-- A gNB with the address of the serving one is not accepted, and whenever a candidate becomes the serving
gNB there is room for the old one. -/
def UeContext.KeepsTopology (ue : UeContext) : GnbOp → Prop
  | .add addr outcome =>
      ∀ serving ctx, ue.servingGnb = some serving → ue.gnbs serving = some ctx → ctx.addr = addr →
        maxGnbCandidates ≤ ue.candidateGnbs.length ∨ ue.calloc outcome = none ∨ outcome.mutexMade = false
  | .switchServing gnb => some gnb ∈ ue.candidateGnbs → ue.candidateGnbs.length < maxGnbCandidates
  | .handover outcome =>
      ue.HasMeasured → outcome.Succeeds ue.fds → ue.candidateGnbs.length < maxGnbCandidates
  | _ => True

/-! ### What the operations do to the links -/

namespace UeContext

variable {ue : UeContext} {gnb : Nat} {ctx : GnbContext}

theorem links_gnbs (h : ue.gnbs gnb = some ctx) : ue.links.gnbs gnb = some ctx.link := by
  unfold links
  dsimp only
  rw [h]
  rfl

theorem links_gnbs_eq_none_iff : ue.links.gnbs gnb = none ↔ ue.gnbs gnb = none := Option.map_eq_none_iff

theorem links_setGnb (ue : UeContext) (gnb : Nat) (ctx : GnbContext) :
    (ue.setGnb gnb ctx).links
      = { ue.links with gnbs := Function.update ue.links.gnbs gnb (some ctx.link) } := by
  unfold links setGnb
  dsimp only
  congr 1
  funext other
  by_cases hother : other = gnb
  · rw [hother, Function.update_self, Function.update_self]
    rfl
  · rw [Function.update_of_ne hother, Function.update_of_ne hother]

theorem links_freeGnb (ue : UeContext) (gnb : Nat) :
    (ue.freeGnb gnb).links
      = { ue.links with gnbs := Function.update ue.links.gnbs gnb none } := by
  unfold links freeGnb
  dsimp only
  congr 1
  funext other
  by_cases hother : other = gnb
  · rw [hother, Function.update_self, Function.update_self]
    rfl
  · rw [Function.update_of_ne hother, Function.update_of_ne hother]

theorem links_setGnb_of_link_eq (h : ue.gnbs gnb = some ctx) {ctx' : GnbContext}
    (hlink : ctx'.link = ctx.link) : (ue.setGnb gnb ctx').links = ue.links := by
  rw [links_setGnb, hlink, ← links_gnbs h, Function.update_eq_self]

end UeContext

theorem links_uesimConnectGnb (ue : UeContext) (gnb : Nat) (outcome : ConnectOutcome) :
    (uesimConnectGnb ue gnb outcome).1.links = ue.links := by
  cases hgnb : ue.gnbs gnb with
  | none =>
      unfold uesimConnectGnb
      rw [hgnb]
  | some ctx =>
      by_cases hstate : ctx.state = .connected
      · rw [uesimConnectGnb_connected hgnb hstate]
      · rcases uesimConnectGnb_cases hgnb hstate outcome with
          ⟨error, gtpuSocket, -, -, hconnect⟩ | ⟨ngap, gtpu, -, -, -, hconnect⟩
        · rw [hconnect]
          exact UeContext.links_setGnb_of_link_eq hgnb rfl
        · rw [hconnect]
          exact UeContext.links_setGnb_of_link_eq hgnb rfl

theorem links_uesimDisconnectGnb (ue : UeContext) (gnb : Nat) :
    (uesimDisconnectGnb ue gnb).1.links = ue.links := by
  unfold uesimDisconnectGnb
  cases hgnb : ue.gnbs gnb with
  | none => rfl
  | some ctx =>
      dsimp only
      split <;> exact UeContext.links_setGnb_of_link_eq hgnb rfl

theorem links_measureGnb (ue : UeContext) (gnb : Nat) (rsrp : Int) :
    (measureGnb ue gnb rsrp).links = ue.links := by
  unfold measureGnb
  cases hgnb : ue.gnbs gnb with
  | none => rfl
  | some ctx => exact UeContext.links_setGnb_of_link_eq hgnb rfl

theorem eraseIdx_of_idxOf? {candidates : List (Option Nat)} {gnb found : Nat}
    (h : candidates.idxOf? (some gnb) = some found) :
    candidates.eraseIdx found = candidates.erase (some gnb) := by
  rw [List.erase_eq_eraseIdx, h]

theorem mem_of_idxOf? {candidates : List (Option Nat)} {gnb found : Nat}
    (h : candidates.idxOf? (some gnb) = some found) : some gnb ∈ candidates := by
  by_contra hmem
  rw [List.idxOf?_eq_none_iff.mpr hmem] at h
  cases h

theorem uesimRemoveGnb_cases (ue : UeContext) (gnb : Nat) :
    (uesimRemoveGnb ue gnb).1.links = ue.links ∨
      some gnb ∈ ue.candidateGnbs ∧ ue.servingGnb ≠ some gnb ∧
        (uesimRemoveGnb ue gnb).1.links = ue.links.remove gnb := by
  unfold uesimRemoveGnb
  cases hgnb : ue.gnbs gnb with
  | none => exact .inl rfl
  | some ctx =>
      dsimp only
      by_cases hserving : ue.servingGnb = some gnb
      · rw [if_pos hserving]
        exact .inl rfl
      rw [if_neg hserving]
      cases hfound : ue.candidateGnbs.idxOf? (some gnb) with
      | none => exact .inl rfl
      | some found =>
          refine .inr ⟨mem_of_idxOf? hfound, hserving, ?_⟩
          dsimp only
          have hlinks : (if ctx.state = .connected then (uesimDisconnectGnb ue gnb).1 else ue).links
              = ue.links := by
            split
            · exact links_uesimDisconnectGnb ue gnb
            · rfl
          generalize (if ctx.state = .connected then (uesimDisconnectGnb ue gnb).1 else ue) = after at hlinks
          have hcandidates : after.candidateGnbs = ue.candidateGnbs := congrArg GnbLinks.candidateGnbs hlinks
          have hfree := UeContext.links_freeGnb after gnb
          rw [hlinks] at hfree
          rw [hcandidates, eraseIdx_of_idxOf? hfound]
          exact congrArg
            (fun links => { links with candidateGnbs := ue.candidateGnbs.erase (some gnb) }) hfree

theorem gnbs_eq_none_of_calloc {ue : UeContext} {outcome : AllocOutcome} {gnb : Nat}
    (h : ue.calloc outcome = some gnb) : ue.gnbs gnb = none := by
  obtain ⟨-, hnone⟩ := Option.filter_eq_some_iff.mp h
  exact Option.isNone_iff_eq_none.mp hnone

/-- Some candidate has the address. -/
def GnbLinks.HasCandidate (links : GnbLinks) (addr : GnbAddr) : Prop :=
  ∃ gnb link, some gnb ∈ links.candidateGnbs ∧ links.gnbs gnb = some link ∧ link.addr = addr

theorem isDuplicate_iff (ue : UeContext) (addr : GnbAddr) :
    ue.isDuplicate addr = true ↔ ue.links.HasCandidate addr := by
  unfold UeContext.isDuplicate
  rw [List.any_eq_true]
  constructor
  · rintro ⟨candidate, hmem, haddr⟩
    cases candidate with
    | none => cases haddr
    | some gnb =>
        rw [Option.bind_some] at haddr
        cases hgnb : ue.gnbs gnb with
        | none =>
            rw [hgnb] at haddr
            cases haddr
        | some ctx =>
            rw [hgnb] at haddr
            exact ⟨gnb, ctx.link, hmem, UeContext.links_gnbs hgnb, of_decide_eq_true haddr⟩
  · rintro ⟨gnb, link, hmem, hlink, haddr⟩
    obtain ⟨ctx, hgnb, rfl⟩ := Option.map_eq_some_iff.mp hlink
    refine ⟨some gnb, hmem, ?_⟩
    rw [Option.bind_some, hgnb]
    exact decide_eq_true haddr

/-- Where a new gNB is compared with the candidates, its context is there already. -/
def UeContext.Accepts (ue : UeContext) (outcome : AllocOutcome) (gnb : Nat) : Prop :=
  ue.candidateGnbs.length < maxGnbCandidates ∧ ue.calloc outcome = some gnb ∧ outcome.mutexMade = true

theorem uesimAddGnb_cases (ue : UeContext) (addr : GnbAddr) (outcome : AllocOutcome) :
    (uesimAddGnb ue addr outcome).1 = ue ∨
      ∃ gnb ctx, ue.gnbs gnb = none ∧ ctx.ngapSocket = none ∧ ctx.gtpuSocket = none ∧
        ctx.state ≠ .connected ∧
        (ue.servingGnb = none ∧
            (uesimAddGnb ue addr outcome).1
              = { ue.setGnb gnb ctx with servingGnb := some gnb, gnbAddr := addr } ∨
          ue.servingGnb ≠ none ∧
            (uesimAddGnb ue addr outcome).1
              = { ue.setGnb gnb ctx with candidateGnbs := ue.candidateGnbs ++ [some gnb] }) := by
  unfold uesimAddGnb
  split
  · exact .inl rfl
  · cases hplace : ue.calloc outcome with
    | none => exact .inl rfl
    | some gnb =>
        have hfresh := gnbs_eq_none_of_calloc hplace
        dsimp only
        split
        · exact .inl rfl
        · cases hserving : ue.servingGnb with
          | none => exact .inr ⟨gnb, _, hfresh, rfl, rfl, (fun heq => by cases heq), .inl ⟨rfl, rfl⟩⟩
          | some serving =>
              dsimp only
              split
              · exact .inl rfl
              · exact .inr ⟨gnb, _, hfresh, rfl, rfl, (fun heq => by cases heq),
                  .inr ⟨Option.some_ne_none serving, rfl⟩⟩

theorem uesimAddGnb_first {ue : UeContext} (hserving : ue.servingGnb = none) (addr : GnbAddr)
    (outcome : AllocOutcome) :
    (uesimAddGnb ue addr outcome).1.links = ue.links ∨
      ∃ gnb, ue.gnbs gnb = none ∧ (uesimAddGnb ue addr outcome).1.links = ue.links.addServing gnb addr := by
  unfold uesimAddGnb
  rw [hserving, if_neg fun h => h.2 rfl]
  cases hplace : ue.calloc outcome with
  | none => exact .inl rfl
  | some gnb =>
      dsimp only
      cases outcome.mutexMade with
      | false => exact .inl rfl
      | true =>
          refine .inr ⟨gnb, gnbs_eq_none_of_calloc hplace, ?_⟩
          rw [if_neg (by decide)]
          exact congrArg (fun links => { links with servingGnb := some gnb })
            (UeContext.links_setGnb ue gnb _)

theorem uesimAddGnb_refused {ue : UeContext} {serving : Nat} (hserving : ue.servingGnb = some serving)
    (addr : GnbAddr) {outcome : AllocOutcome} (h : ∀ gnb, ¬ue.Accepts outcome gnb) :
    (uesimAddGnb ue addr outcome).1 = ue := by
  unfold uesimAddGnb
  by_cases hlength : ue.candidateGnbs.length < maxGnbCandidates
  · rw [if_neg fun hfull => Nat.not_le_of_lt hlength hfull.1]
    cases hplace : ue.calloc outcome with
    | none => rfl
    | some gnb =>
        dsimp only
        cases hmutex : outcome.mutexMade with
        | false => rfl
        | true => exact absurd ⟨hlength, hplace, hmutex⟩ (h gnb)
  · rw [if_pos ⟨Nat.le_of_not_lt hlength, by rw [hserving]; exact Option.some_ne_none _⟩]

theorem uesimAddGnb_accepted {ue : UeContext} {serving gnb : Nat} (hserving : ue.servingGnb = some serving)
    (addr : GnbAddr) {outcome : AllocOutcome} (h : ue.Accepts outcome gnb) :
    (ue.links.HasCandidate addr → (uesimAddGnb ue addr outcome).1 = ue) ∧
      (¬ue.links.HasCandidate addr →
        (uesimAddGnb ue addr outcome).1.links = ue.links.addCandidate gnb addr) := by
  obtain ⟨hlength, hplace, hmutex⟩ := h
  unfold uesimAddGnb
  rw [if_neg fun hfull => Nat.not_le_of_lt hlength hfull.1, hplace, hserving, hmutex]
  dsimp only
  constructor
  · intro hadd
    rw [if_neg (by decide), if_pos ((isDuplicate_iff ue addr).mpr hadd)]
  · intro hnew
    rw [if_neg (by decide), if_neg fun hadd => hnew ((isDuplicate_iff ue addr).mp hadd)]
    exact congrArg (fun links => { links with candidateGnbs := ue.candidateGnbs ++ [some gnb] })
      (UeContext.links_setGnb ue gnb _)

/-! ### Switching and handovers -/

variable {ue : UeContext} {old new : Nat} {oldCtx newCtx : GnbContext}

theorem eraseIdx_grown {found : Nat} (hfound : ue.candidateGnbs.idxOf? (some new) = some found) (old : Nat) :
    (if ue.candidateGnbs.length < maxGnbCandidates then ue.candidateGnbs ++ [some old]
      else ue.candidateGnbs).eraseIdx found = (ue.links.grown old).erase (some new) := by
  have hmem := mem_of_idxOf? hfound
  obtain ⟨hfoundLt, -⟩ := List.idxOf?_eq_some_iff.mp hfound
  unfold GnbLinks.grown
  change _ = (if ue.candidateGnbs.length < maxGnbCandidates then ue.candidateGnbs ++ [some old]
      else ue.candidateGnbs).erase (some new)
  split
  · rw [List.eraseIdx_append_of_lt_length hfoundLt, List.erase_append_left _ hmem,
      eraseIdx_of_idxOf? hfound]
  · exact eraseIdx_of_idxOf? hfound

/-- What a switch comes to between two gNBs that are there. -/
theorem uesimSwitchServingGnb_eq (hold : ue.servingGnb = some old) (holdCtx : ue.gnbs old = some oldCtx)
    (hnew : some new ∈ ue.candidateGnbs) (hnewCtx : ue.gnbs new = some newCtx) (hne : new ≠ old) :
    (uesimSwitchServingGnb ue new).1
      = { (ue.setGnb old { oldCtx with isServing := false, state := .handoverCandidate }).setGnb new
            { newCtx with isServing := true, state := .connected } with
          servingGnb := some new
          gnbAddr := newCtx.addr
          ngapSocket := newCtx.ngapSocket
          gtpuSocket := newCtx.gtpuSocket
          candidateGnbs := (ue.links.grown old).erase (some new) } := by
  obtain ⟨found, hfound⟩ : ∃ found, ue.candidateGnbs.idxOf? (some new) = some found := by
    refine Option.ne_none_iff_exists'.mp fun hnone => ?_
    exact List.idxOf?_eq_none_iff.mp hnone hnew
  have herase := eraseIdx_grown hfound old
  have hafter : (ue.setGnb old { oldCtx with isServing := false, state := .handoverCandidate }).gnbs new
      = some newCtx := by
    unfold UeContext.setGnb
    dsimp only
    rw [Function.update_of_ne hne, hnewCtx]
  unfold uesimSwitchServingGnb
  rw [hnewCtx, hfound, hold, Option.bind_some, holdCtx, Option.map_some]
  dsimp only
  rw [← herase]
  by_cases hlength : ue.candidateGnbs.length < maxGnbCandidates
  · have hlength' : (ue.setGnb old { oldCtx with isServing := false, state := .handoverCandidate }
        ).candidateGnbs.length < maxGnbCandidates := hlength
    rw [if_pos hlength', if_pos hlength]
    dsimp only
    rw [hafter]
    rfl
  · have hlength' : ¬(ue.setGnb old { oldCtx with isServing := false, state := .handoverCandidate }
        ).candidateGnbs.length < maxGnbCandidates := hlength
    rw [if_neg hlength', if_neg hlength, hafter]
    rfl

theorem uesimSwitchServingGnb_not_found (hnew : some new ∉ ue.candidateGnbs) :
    (uesimSwitchServingGnb ue new).1 = ue := by
  unfold uesimSwitchServingGnb
  rw [List.idxOf?_eq_none_iff.mpr hnew]
  cases ue.gnbs new <;> rfl

theorem uesimRemoveGnb_not_found (hmem : some new ∉ ue.candidateGnbs) :
    (uesimRemoveGnb ue new).1 = ue := by
  unfold uesimRemoveGnb
  rw [List.idxOf?_eq_none_iff.mpr hmem]
  cases ue.gnbs new with
  | none => rfl
  | some ctx =>
      dsimp only
      split <;> rfl

theorem exists_serving_of_mem (h : ue.links.Linked) {gnb : Nat} (hmem : some gnb ∈ ue.candidateGnbs) :
    ∃ old, ue.servingGnb = some old := by
  refine Option.ne_none_iff_exists'.mp fun hnone => ?_
  obtain ⟨gnb, link, -, hlink⟩ := h.candidate _ hmem
  rw [h.empty hnone] at hlink
  cases hlink

/-- The two gNBs of a switch. -/
theorem exists_gnbs_of_mem (h : ue.links.Linked) {gnb : Nat} (hmem : some gnb ∈ ue.candidateGnbs) :
    ∃ old oldCtx ctx, ue.servingGnb = some old ∧ ue.gnbs old = some oldCtx ∧ ue.gnbs gnb = some ctx ∧
      gnb ≠ old := by
  obtain ⟨old, hold⟩ := exists_serving_of_mem h hmem
  obtain ⟨link, hlink⟩ := h.serving old hold
  obtain ⟨oldCtx, holdCtx, -⟩ := Option.map_eq_some_iff.mp hlink
  obtain ⟨gnb', link, heq, hlink⟩ := h.candidate _ hmem
  obtain rfl := Option.some.inj heq
  obtain ⟨ctx, hctx, -⟩ := Option.map_eq_some_iff.mp hlink
  refine ⟨old, oldCtx, ctx, hold, holdCtx, hctx, ?_⟩
  rintro rfl
  exact h.serving_not_candidate gnb hold hmem

theorem links_uesimSwitchServingGnb (h : ue.links.Linked) (hold : ue.servingGnb = some old)
    (hnew : some new ∈ ue.candidateGnbs) :
    (uesimSwitchServingGnb ue new).1.links = ue.links.switch old new := by
  obtain ⟨old', oldCtx, newCtx, hold', holdCtx, hnewCtx, hne⟩ := exists_gnbs_of_mem h hnew
  obtain rfl := Option.some.inj (hold.symm.trans hold')
  rw [uesimSwitchServingGnb_eq hold holdCtx hnew hnewCtx hne]
  unfold GnbLinks.switch UeContext.setGnb
  unfold UeContext.links
  dsimp only
  congr 1
  funext gnb
  by_cases hgnbNew : gnb = new
  · rw [hgnbNew, Function.update_self, hnewCtx, Option.map_some, Option.map_some, Option.map_some,
      decide_eq_true rfl]
    rfl
  rw [Function.update_of_ne hgnbNew, decide_eq_false hgnbNew]
  by_cases hgnbOld : gnb = old
  · rw [hgnbOld, Function.update_self, holdCtx, Option.map_some, Option.map_some, Option.map_some]
    rfl
  · rw [Function.update_of_ne hgnbOld]
    cases hgnb : ue.gnbs gnb with
    | none => rfl
    | some ctx =>
        have hserving : ctx.isServing = false := by
          have hiff := h.isServing_iff gnb ctx.link (UeContext.links_gnbs hgnb)
          rw [← Bool.not_eq_true]
          intro htrue
          have hgnbServing : ue.servingGnb = some gnb := hiff.mp htrue
          exact hgnbOld (Option.some.inj (hgnbServing.symm.trans hold))
        rw [Option.map_some, Option.map_some, GnbContext.link, hserving]

theorem mem_of_bestCandidate {candidates : List (Option Nat)} {best : Option (Nat × Int)} {gnb : Nat}
    {rsrp : Int} (h : bestCandidate ue candidates best = some (gnb, rsrp)) :
    some gnb ∈ candidates ∨ best = some (gnb, rsrp) := by
  induction candidates generalizing best with
  | nil => exact .inr h
  | cons candidate candidates ih =>
      unfold bestCandidate at h
      split at h
      · exact (ih h).imp_left (List.mem_cons_of_mem _)
      · rename_i gnb' rsrp' hcandidate
        obtain ⟨gnb'', rfl, hctx⟩ := Option.bind_eq_some_iff.mp hcandidate
        obtain ⟨ctx, -, heq⟩ := Option.map_eq_some_iff.mp hctx
        split at h
        · rcases ih h with hmem | hbest
          · exact .inl (List.mem_cons_of_mem _ hmem)
          · rw [← heq] at hbest
            rw [(Prod.mk.inj (Option.some.inj hbest)).1]
            exact .inl List.mem_cons_self
        · exact (ih h).imp_left (List.mem_cons_of_mem _)

theorem bestCandidate_eq_none_iff {candidates : List (Option Nat)} {best : Option (Nat × Int)} :
    bestCandidate ue candidates best = none ↔
      best = none ∧ ∀ gnb ctx, some gnb ∈ candidates → ue.gnbs gnb = some ctx → ctx.rsrp ≤ -140 := by
  induction candidates generalizing best with
  | nil => exact ⟨fun h => ⟨h, fun _ _ hmem => absurd hmem List.not_mem_nil⟩, And.left⟩
  | cons candidate candidates ih =>
      unfold bestCandidate
      split
      · rename_i hcandidate
        rw [ih]
        refine and_congr_right fun _ => ⟨fun h gnb ctx hmem hctx => ?_, fun h gnb ctx hmem => ?_⟩
        · rcases List.mem_cons.mp hmem with heq | hmem
          · rw [← heq, Option.bind_some, hctx] at hcandidate
            cases hcandidate
          · exact h gnb ctx hmem hctx
        · exact h gnb ctx (List.mem_cons_of_mem _ hmem)
      · rename_i gnb rsrp hcandidate
        obtain ⟨gnb', rfl, hplace⟩ := Option.bind_eq_some_iff.mp hcandidate
        obtain ⟨ctx, hctx, heq⟩ := Option.map_eq_some_iff.mp hplace
        obtain ⟨rfl, rfl⟩ := Prod.mk.inj heq
        rw [apply_ite (· = none), ih, ih]
        split
        · rename_i hbetter
          refine iff_of_false (fun h => Option.some_ne_none _ h.1) fun ⟨hnone, h⟩ => ?_
          rw [hnone] at hbetter
          exact absurd (h gnb' ctx List.mem_cons_self hctx) (not_le.mpr hbetter)
        · rename_i hworse
          refine and_congr_right fun hnone =>
            ⟨fun h other otherCtx hmem hother => ?_, fun h other _ hmem => ?_⟩
          · rcases List.mem_cons.mp hmem with heq | hmem
            · obtain rfl := Option.some.inj heq
              obtain rfl := Option.some.inj (hctx.symm.trans hother)
              rw [hnone] at hworse
              exact not_lt.mp hworse
            · exact h other otherCtx hmem hother
          · exact h other _ (List.mem_cons_of_mem _ hmem)

theorem bestCandidate_ne_none_iff : bestCandidate ue ue.candidateGnbs none ≠ none ↔ ue.HasMeasured := by
  rw [Ne, bestCandidate_eq_none_iff]
  unfold UeContext.HasMeasured
  push Not
  exact ⟨fun h => h rfl, fun h _ => h⟩

/-! ### Only the serving gNB is connected -/

/-- No gNB is connected without being marked as the serving one. -/
def UeContext.ConnectedServes (ue : UeContext) : Prop :=
  ∀ gnb ctx, ue.gnbs gnb = some ctx → ctx.state = .connected → ctx.isServing = true

namespace UeContext.ConnectedServes

variable {gnb : Nat} {ctx : GnbContext}

theorem update (h : ue.ConnectedServes) {after : UeContext} {slot : Option GnbContext}
    (hgnbs : after.gnbs = Function.update ue.gnbs gnb slot)
    (hslot : ∀ ctx, slot = some ctx → ctx.state = .connected → ctx.isServing = true) :
    after.ConnectedServes := by
  intro other otherCtx hother
  rw [hgnbs] at hother
  by_cases heq : other = gnb
  · rw [heq, Function.update_self] at hother
    exact hslot otherCtx hother
  · rw [Function.update_of_ne heq] at hother
    exact h other otherCtx hother

theorem setGnb (h : ue.ConnectedServes) (gnb : Nat) (hctx : ctx.state = .connected → ctx.isServing = true) :
    (ue.setGnb gnb ctx).ConnectedServes := by
  refine h.update rfl fun ctx' heq => ?_
  obtain rfl := Option.some.inj heq
  exact hctx

theorem freeGnb (h : ue.ConnectedServes) (gnb : Nat) : (ue.freeGnb gnb).ConnectedServes :=
  h.update rfl fun _ hnone => by cases hnone

theorem add (h : ue.ConnectedServes) (addr : GnbAddr) (outcome : AllocOutcome) :
    (uesimAddGnb ue addr outcome).1.ConnectedServes := by
  rcases uesimAddGnb_cases ue addr outcome with hsame | ⟨gnb, ctx, -, -, -, hstate, ⟨-, hadd⟩ | ⟨-, hadd⟩⟩
  · rw [hsame]
    exact h
  · rw [hadd]
    exact h.setGnb gnb fun hconnected => absurd hconnected hstate
  · rw [hadd]
    exact h.setGnb gnb fun hconnected => absurd hconnected hstate

theorem connect (h : ue.ConnectedServes) (gnb : Nat) (outcome : ConnectOutcome) :
    (uesimConnectGnb ue gnb outcome).1.ConnectedServes := by
  cases hgnb : ue.gnbs gnb with
  | none =>
      unfold uesimConnectGnb
      rw [hgnb]
      exact h
  | some ctx =>
      by_cases hstate : ctx.state = .connected
      · rw [uesimConnectGnb_connected hgnb hstate]
        exact h
      rcases uesimConnectGnb_cases hgnb hstate outcome with
        ⟨error, gtpuSocket, -, -, hconnect⟩ | ⟨ngap, gtpu, -, -, -, hconnect⟩
      · rw [hconnect]
        exact h.setGnb gnb fun hconnected => by cases hconnected
      · rw [hconnect]
        refine h.setGnb gnb fun hconnected => ?_
        by_contra hnot
        rw [if_neg hnot] at hconnected
        cases hconnected

theorem disconnect (h : ue.ConnectedServes) (gnb : Nat) : (uesimDisconnectGnb ue gnb).1.ConnectedServes := by
  cases hgnb : ue.gnbs gnb with
  | none =>
      unfold uesimDisconnectGnb
      rw [hgnb]
      exact h
  | some ctx =>
      rw [uesimDisconnectGnb_eq hgnb]
      exact h.setGnb gnb fun hconnected => by cases hconnected

theorem remove (h : ue.ConnectedServes) (gnb : Nat) : (uesimRemoveGnb ue gnb).1.ConnectedServes := by
  unfold uesimRemoveGnb
  cases ue.gnbs gnb with
  | none => exact h
  | some ctx =>
      dsimp only
      split
      · exact h
      cases ue.candidateGnbs.idxOf? (some gnb) with
      | none => exact h
      | some found =>
          dsimp only
          split
          · exact (h.disconnect gnb).freeGnb gnb
          · exact h.freeGnb gnb

theorem switch (h : ue.ConnectedServes) (hlinked : ue.links.Linked) (gnb : Nat) :
    (uesimSwitchServingGnb ue gnb).1.ConnectedServes := by
  by_cases hmem : some gnb ∈ ue.candidateGnbs
  · obtain ⟨old, oldCtx, ctx, hold, holdCtx, hctx, hne⟩ := exists_gnbs_of_mem hlinked hmem
    rw [uesimSwitchServingGnb_eq hold holdCtx hmem hctx hne]
    exact (h.setGnb old fun hconnected => by cases hconnected).setGnb gnb fun _ => rfl
  · rw [uesimSwitchServingGnb_not_found hmem]
    exact h

theorem measure (h : ue.ConnectedServes) (gnb : Nat) (rsrp : Int) :
    (measureGnb ue gnb rsrp).ConnectedServes := by
  unfold measureGnb
  cases hgnb : ue.gnbs gnb with
  | none => exact h
  | some ctx => exact h.setGnb gnb (h gnb ctx hgnb)

end UeContext.ConnectedServes

/-- A handover switches to the best candidate if connecting succeeds. -/
theorem executeHandoverProcedure_cases (h : ue.links.Linked) (hconnected : ue.ConnectedServes)
    (outcome : ConnectOutcome) :
    (∃ best, ue.HasMeasured ∧ outcome.Succeeds ue.fds ∧ some best ∈ ue.candidateGnbs ∧
      (executeHandoverProcedure ue outcome).1
        = (uesimSwitchServingGnb (uesimConnectGnb ue best outcome).1 best).1) ∨
    ¬(ue.HasMeasured ∧ outcome.Succeeds ue.fds) ∧
      ((executeHandoverProcedure ue outcome).1 = ue ∨
        ∃ gnb, (executeHandoverProcedure ue outcome).1 = (uesimConnectGnb ue gnb outcome).1) := by
  unfold executeHandoverProcedure
  cases hbest : bestCandidate ue ue.candidateGnbs none with
  | none =>
      refine .inr ⟨fun hnot => bestCandidate_ne_none_iff.mpr hnot.1 hbest, .inl ?_⟩
      split <;> rfl
  | some found =>
      obtain ⟨best, rsrp⟩ := found
      have hmeasured : ue.HasMeasured := by
        rw [← bestCandidate_ne_none_iff, hbest]
        exact Option.some_ne_none _
      have hmem : some best ∈ ue.candidateGnbs := by
        rcases mem_of_bestCandidate hbest with hmem | hnone
        · exact hmem
        · cases hnone
      obtain ⟨old, -, ctx, -, -, hctx, -⟩ := exists_gnbs_of_mem h hmem
      -- no candidate is connected, so it is the outcome that decides
      have hstate : ctx.state ≠ .connected := by
        intro hstate
        have hserving := (h.isServing_iff best ctx.link (UeContext.links_gnbs hctx)).mp
          (hconnected best ctx hctx hstate)
        exact h.serving_not_candidate best hserving hmem
      rw [if_neg fun hlength => List.ne_nil_of_mem hmem (List.eq_nil_of_length_eq_zero hlength)]
      dsimp only
      rcases uesimConnectGnb_cases hctx hstate outcome with
        ⟨error, gtpuSocket, hfails, -, hconnect⟩ | ⟨ngap, gtpu, hsucceeds, -, -, hconnect⟩
      · rw [hconnect]
        exact .inr ⟨fun hnot => hfails hnot.2, .inr ⟨best, by rw [hconnect]⟩⟩
      · refine .inl ⟨best, hmeasured, hsucceeds, hmem, ?_⟩
        rw [hconnect]

theorem links_executeHandoverProcedure (h : ue.links.Linked) (hconnected : ue.ConnectedServes)
    (outcome : ConnectOutcome) :
    (ue.HasMeasured ∧ outcome.Succeeds ue.fds) ∧
        (∃ best old, some best ∈ ue.candidateGnbs ∧ ue.servingGnb = some old ∧
          (executeHandoverProcedure ue outcome).1.links = ue.links.switch old best) ∨
      ¬(ue.HasMeasured ∧ outcome.Succeeds ue.fds) ∧
        (executeHandoverProcedure ue outcome).1.links = ue.links := by
  rcases executeHandoverProcedure_cases h hconnected outcome with
    ⟨best, hmeasured, hsucceeds, hmem, hhandover⟩ | ⟨hnot, hsame | ⟨gnb, hconnect⟩⟩
  · obtain ⟨old, hold⟩ := exists_serving_of_mem h hmem
    refine .inl ⟨⟨hmeasured, hsucceeds⟩, best, old, hmem, hold, ?_⟩
    have hlinks := links_uesimConnectGnb ue best outcome
    have hcandidates : (uesimConnectGnb ue best outcome).1.candidateGnbs = ue.candidateGnbs :=
      congrArg GnbLinks.candidateGnbs hlinks
    have hserving : (uesimConnectGnb ue best outcome).1.servingGnb = ue.servingGnb :=
      congrArg GnbLinks.servingGnb hlinks
    rw [hhandover, ← hlinks]
    rw [← hlinks] at h
    rw [← hcandidates] at hmem
    rw [← hserving] at hold
    exact links_uesimSwitchServingGnb h hold hmem
  · exact .inr ⟨hnot, congrArg UeContext.links hsame⟩
  · exact .inr ⟨hnot, (congrArg UeContext.links hconnect).trans (links_uesimConnectGnb ue gnb outcome)⟩

theorem UeContext.ConnectedServes.handover (hconnected : ue.ConnectedServes) (h : ue.links.Linked)
    (outcome : ConnectOutcome) : (executeHandoverProcedure ue outcome).1.ConnectedServes := by
  rcases executeHandoverProcedure_cases h hconnected outcome with
    ⟨best, -, -, -, hhandover⟩ | ⟨-, hsame | ⟨gnb, hconnect⟩⟩
  · rw [hhandover]
    refine (hconnected.connect best outcome).switch ?_ best
    rw [links_uesimConnectGnb]
    exact h
  · rw [hsame]
    exact hconnected
  · rw [hconnect]
    exact hconnected.connect gnb outcome

theorem connectedServes_gnbStep (h : ue.links.Linked) (hconnected : ue.ConnectedServes) (op : GnbOp) :
    (gnbStep ue op).ConnectedServes := by
  cases op with
  | add addr outcome => exact hconnected.add addr outcome
  | remove gnb => exact hconnected.remove gnb
  | switchServing gnb => exact hconnected.switch h gnb
  | connect gnb outcome => exact hconnected.connect gnb outcome
  | disconnect gnb => exact hconnected.disconnect gnb
  | handover outcome => exact hconnected.handover h outcome
  | measure gnb rsrp => exact hconnected.measure gnb rsrp

/-! ### Runs -/

theorem linked_uesimAddGnb (h : ue.links.Linked) (addr : GnbAddr) (outcome : AllocOutcome) :
    (uesimAddGnb ue addr outcome).1.links.Linked := by
  cases hserving : ue.servingGnb with
  | none =>
      rcases uesimAddGnb_first hserving addr outcome with hsame | ⟨gnb, -, hadd⟩
      · rw [hsame]
        exact h
      · rw [hadd]
        exact h.addServing hserving gnb addr
  | some serving =>
      by_cases haccepts : ∃ gnb, ue.Accepts outcome gnb
      · obtain ⟨gnb, haccepts⟩ := haccepts
        obtain ⟨hdup, hnew⟩ := uesimAddGnb_accepted hserving addr haccepts
        by_cases hcandidate : ue.links.HasCandidate addr
        · rw [hdup hcandidate]
          exact h
        · rw [hnew hcandidate]
          refine h.addCandidate ?_ haccepts.1 ?_ addr
          · exact fun hnone => by cases hserving.symm.trans hnone
          · exact UeContext.links_gnbs_eq_none_iff.mpr (gnbs_eq_none_of_calloc haccepts.2.1)
      · rw [uesimAddGnb_refused hserving addr fun gnb hgnb => haccepts ⟨gnb, hgnb⟩]
        exact h

theorem linked_uesimRemoveGnb (h : ue.links.Linked) (gnb : Nat) : (uesimRemoveGnb ue gnb).1.links.Linked := by
  rcases uesimRemoveGnb_cases ue gnb with hsame | ⟨-, hserving, hremove⟩
  · exact hsame ▸ h
  · exact hremove ▸ h.remove hserving

theorem linked_gnbStep (h : ue.links.Linked) (hconnected : ue.ConnectedServes) (op : GnbOp) :
    (gnbStep ue op).links.Linked := by
  cases op with
  | add addr outcome => exact linked_uesimAddGnb h addr outcome
  | remove gnb => exact linked_uesimRemoveGnb h gnb
  | switchServing gnb =>
      by_cases hmem : some gnb ∈ ue.candidateGnbs
      · obtain ⟨old, hold⟩ := exists_serving_of_mem h hmem
        exact links_uesimSwitchServingGnb h hold hmem ▸ h.switch hold hmem
      · have hsame : (gnbStep ue (.switchServing gnb)).links = ue.links :=
          congrArg UeContext.links (uesimSwitchServingGnb_not_found hmem)
        exact hsame ▸ h
  | connect gnb outcome => exact (links_uesimConnectGnb ue gnb outcome).symm ▸ h
  | disconnect gnb => exact (links_uesimDisconnectGnb ue gnb).symm ▸ h
  | handover outcome =>
      rcases links_executeHandoverProcedure h hconnected outcome with
        ⟨-, best, old, hmem, hold, hswitch⟩ | ⟨-, hsame⟩
      · exact hswitch ▸ h.switch hold hmem
      · exact hsame ▸ h
  | measure gnb rsrp => exact (links_measureGnb ue gnb rsrp).symm ▸ h

theorem exists_accepts_iff {outcome : AllocOutcome} :
    (∃ gnb, ue.Accepts outcome gnb) ↔ ¬(maxGnbCandidates ≤ ue.candidateGnbs.length ∨
      ue.calloc outcome = none ∨ outcome.mutexMade = false) := by
  constructor
  · rintro ⟨gnb, hlength, hplace, hmutex⟩ (hfull | hnone | hfails)
    · exact Nat.not_le_of_lt hlength hfull
    · cases hnone.symm.trans hplace
    · cases hfails.symm.trans hmutex
  · intro hnot
    rw [not_or, not_or] at hnot
    obtain ⟨gnb, hplace⟩ := Option.ne_none_iff_exists'.mp hnot.2.1
    exact ⟨gnb, Nat.lt_of_not_le hnot.1, hplace, (Bool.not_eq_false _).mp hnot.2.2⟩

theorem topology_uesimAddGnb_iff (h : ue.links.Linked) (htopology : ue.links.Topology) (addr : GnbAddr)
    (outcome : AllocOutcome) :
    (uesimAddGnb ue addr outcome).1.links.Topology ↔ ue.KeepsTopology (.add addr outcome) := by
  cases hserving : ue.servingGnb with
  | none =>
      refine iff_of_true ?_ fun serving ctx hsome => by cases hserving.symm.trans hsome
      rcases uesimAddGnb_first hserving addr outcome with hsame | ⟨gnb, -, hadd⟩
      · rw [hsame]
        exact htopology
      · rw [hadd]
        exact h.addServing_topology hserving gnb addr
  | some serving =>
      by_cases haccepts : ∃ gnb, ue.Accepts outcome gnb
      · obtain ⟨gnb, haccepts⟩ := haccepts
        have hnot := exists_accepts_iff.mp ⟨gnb, haccepts⟩
        obtain ⟨hdup, hnew⟩ := uesimAddGnb_accepted hserving addr haccepts
        by_cases hcandidate : ue.links.HasCandidate addr
        · rw [hdup hcandidate]
          refine iff_of_true htopology ?_
          intro serving' ctx hserving' hctx haddr
          obtain ⟨other, link, hmem, hlink, haddr'⟩ := hcandidate
          have heq := htopology.distinct other serving' link ctx.link hlink (UeContext.links_gnbs hctx)
            (haddr'.trans haddr.symm)
          rw [heq] at hmem
          exact absurd hmem (h.serving_not_candidate serving' hserving')
        · rw [hnew hcandidate, h.addCandidate_topology_iff htopology
            (fun hnone => by cases hserving.symm.trans hnone) haccepts.1
            (UeContext.links_gnbs_eq_none_iff.mpr (gnbs_eq_none_of_calloc haccepts.2.1))]
          constructor
          · intro hdistinct serving' ctx _ hctx haddr
            exact absurd haddr (hdistinct serving' ctx.link (UeContext.links_gnbs hctx))
          · intro hkeeps other link hlink haddr
            rcases htopology.kept other link hlink with hother | hmem
            · obtain ⟨ctx, hctx, rfl⟩ := Option.map_eq_some_iff.mp hlink
              exact hnot (hkeeps other ctx hother hctx haddr)
            · exact hcandidate ⟨other, link, hmem, hlink, haddr⟩
      · rw [uesimAddGnb_refused hserving addr fun gnb hgnb => haccepts ⟨gnb, hgnb⟩]
        refine iff_of_true htopology ?_
        intro serving' ctx _ _ _
        exact not_not.mp (mt exists_accepts_iff.mpr haccepts)

theorem topology_gnbStep_iff (h : ue.links.Linked) (hconnected : ue.ConnectedServes)
    (htopology : ue.links.Topology) (op : GnbOp) :
    (gnbStep ue op).links.Topology ↔ ue.KeepsTopology op := by
  cases op with
  | add addr outcome => exact topology_uesimAddGnb_iff h htopology addr outcome
  | remove gnb =>
      refine iff_of_true ?_ trivial
      rcases uesimRemoveGnb_cases ue gnb with hsame | ⟨-, hserving, hremove⟩
      · exact hsame ▸ htopology
      · exact hremove ▸ h.remove_topology htopology hserving
  | switchServing gnb =>
      by_cases hmem : some gnb ∈ ue.candidateGnbs
      · obtain ⟨old, hold⟩ := exists_serving_of_mem h hmem
        unfold gnbStep UeContext.KeepsTopology
        rw [links_uesimSwitchServingGnb h hold hmem, h.switch_topology_iff htopology hold hmem]
        exact ⟨fun hlength _ => hlength, fun hkeeps => hkeeps hmem⟩
      · have hsame : (gnbStep ue (.switchServing gnb)).links = ue.links :=
          congrArg UeContext.links (uesimSwitchServingGnb_not_found hmem)
        exact iff_of_true (hsame ▸ htopology) fun hmem' => absurd hmem' hmem
  | connect gnb outcome => exact iff_of_true ((links_uesimConnectGnb ue gnb outcome).symm ▸ htopology) trivial
  | disconnect gnb => exact iff_of_true ((links_uesimDisconnectGnb ue gnb).symm ▸ htopology) trivial
  | handover outcome =>
      unfold gnbStep UeContext.KeepsTopology
      rcases links_executeHandoverProcedure h hconnected outcome with
        ⟨⟨hmeasured, hsucceeds⟩, best, old, hmem, hold, hswitch⟩ | ⟨hnot, hsame⟩
      · rw [hswitch, h.switch_topology_iff htopology hold hmem]
        exact ⟨fun hlength _ _ => hlength, fun hkeeps => hkeeps hmeasured hsucceeds⟩
      · rw [hsame]
        exact iff_of_true htopology fun hmeasured hsucceeds => absurd ⟨hmeasured, hsucceeds⟩ hnot
  | measure gnb rsrp => exact iff_of_true ((links_measureGnb ue gnb rsrp).symm ▸ htopology) trivial

theorem UeContext.initial_linked (gnbAddr : GnbAddr) (active : Bool) :
    (UeContext.initial gnbAddr active).links.Linked :=
  { bounded := Nat.zero_le _
    nodup := List.nodup_nil
    candidate := fun _ hmem => absurd hmem List.not_mem_nil
    serving := fun _ hserving => by cases hserving
    serving_not_candidate := fun _ _ => List.not_mem_nil
    isServing_iff := fun _ _ hgnb => by cases hgnb
    empty := fun _ _ => rfl }

theorem UeContext.initial_topology (gnbAddr : GnbAddr) (active : Bool) :
    (UeContext.initial gnbAddr active).links.Topology :=
  (UeContext.initial_linked gnbAddr active).topology_iff.mpr
    ⟨fun _ _ _ _ hgnb => (by cases hgnb), fun _ _ hgnb => (by cases hgnb)⟩

theorem UeContext.initial_connectedServes (gnbAddr : GnbAddr) (active : Bool) :
    (UeContext.initial gnbAddr active).ConnectedServes := fun _ _ hgnb => by cases hgnb

/-- **The gNBs of a UE are neither lost nor there twice exactly in the runs that accept no gNB with the
address of the serving one and switch only while there is room for the old one.** -/
theorem gnbRun_topology_iff (gnbAddr : GnbAddr) (active : Bool) (ops : List GnbOp) :
    Runs.Throughout gnbStep (fun ue => ue.links.Topology) (UeContext.initial gnbAddr active) ops
      ↔ Runs.Always gnbStep UeContext.KeepsTopology (UeContext.initial gnbAddr active) ops :=
  @Runs.throughout_iff _ _ gnbStep
    (fun ue => ue.links.Linked ∧ ue.ConnectedServes ∧ ue.links.Topology) UeContext.KeepsTopology
    (fun ue => ue.links.Topology) (fun _ h => h.2.2) (fun _ op h => topology_gnbStep_iff h.1 h.2.1 h.2.2 op)
    (fun _ op h hkeeps =>
      ⟨linked_gnbStep h.1 h.2.1 op, connectedServes_gnbStep h.1 h.2.1 op,
        (topology_gnbStep_iff h.1 h.2.1 h.2.2 op).mpr hkeeps⟩) _
    ⟨UeContext.initial_linked gnbAddr active, UeContext.initial_connectedServes gnbAddr active,
      UeContext.initial_topology gnbAddr active⟩ ops

/-- The address of the serving gNB is added once more. -/
theorem gnbRun_not_topology :
    ¬Runs.Throughout gnbStep (fun ue => ue.links.Topology) (UeContext.initial ⟨0, 0⟩ true)
      [.add ⟨1, 38412⟩ { place := some 0, mutexMade := true },
        .add ⟨1, 38412⟩ { place := some 1, mutexMade := true }] := by
  rintro ⟨-, -, htopology⟩
  have heq := htopology.distinct 0 1 ⟨⟨1, 38412⟩, true⟩ ⟨⟨1, 38412⟩, false⟩ rfl rfl rfl
  cases heq

end Uesim.Core