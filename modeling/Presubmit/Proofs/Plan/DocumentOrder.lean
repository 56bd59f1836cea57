import Presubmit.Proofs.Plan.Contents
import Presubmit.Proofs.Suite.Tags

/-! The order of a document. When requirements, the suites of each kind and the tags of each suite
are put in another order, the plan holds the same units and suites in the order that follows. -/
namespace Presubmit

/-- Which suites of two documents stand for each other. Such suites differ at most in the order of
their tags. -/
structure SuiteMatching where
  Rel : {k : SuiteKind} → Suite k → Suite k → Prop
  retags : ∀ {k : SuiteKind} {s t : Suite k}, Rel s t → s.Retags t

namespace SuiteMatching

/-- The suites stand for each other if they say the same, but for the order of tags. -/
def byTags : SuiteMatching where
  Rel s t := s.Retags t
  retags h := h

instance {k : SuiteKind} (s t : Suite k) : Decidable (byTags.Rel s t) :=
  inferInstanceAs (Decidable (s.Retags t))

/-- The suites stand for each other once both are given the same criticality. -/
def settled (m : SuiteMatching) : SuiteMatching where
  Rel s t := ∃ a b critical, m.Rel a b ∧ a.withCritical critical = s ∧ b.withCritical critical = t
  retags := by
    rintro k s t ⟨a, b, critical, hab, rfl, rfl⟩
    exact (m.retags hab).withCritical critical

end SuiteMatching

/-- The requirements ask for the same build and, kind by kind, declare suites that stand for each
other, in any order. -/
structure Requirement.Matches (m : SuiteMatching) (r r' : Requirement) : Prop where
  criteria : r.criteria = r'.criteria
  hw : Option.Rel (Rearranged m.Rel) r.hw r'.hw
  vm : Option.Rel (Rearranged m.Rel) r.vm r'.vm
  tastVm : Option.Rel (Rearranged m.Rel) r.tastVm r'.tastVm
  moblabVm : Option.Rel (Rearranged m.Rel) r.moblabVm r'.moblabVm

/-- The units run suites that stand for each other on the same build, in any order. -/
structure PlanUnit.Matches (m : SuiteMatching) {k : SuiteKind} (u v : PlanUnit k) : Prop where
  source : u.source = v.source
  suites : Rearranged m.settled.Rel u.suites v.suites

/-- The plans of two documents hold the same units in any order. One function of a requirement gives
the units of both, in the order of their documents, and it takes requirements that match to units
that match. -/
structure Plan.Matches (m : SuiteMatching)
    (unit? : (k : SuiteKind) → Requirement → Option (PlanUnit k)) (rs rs' : List Requirement)
    (plan plan' : Plan) : Prop where
  units : ∀ k, Rearranged (PlanUnit.Matches m) (plan.units k) (plan'.units k)
  first : ∀ k, plan.units k = rs.filterMap (unit? k)
  second : ∀ k, plan'.units k = rs'.filterMap (unit? k)
  respects : ∀ k, ∀ ⦃r r' : Requirement⦄, r.Matches m r' →
    Option.Rel (PlanUnit.Matches m) (unit? k r) (unit? k r')

theorem Suite.Retags.candidate {k : SuiteKind} {s t : Suite k} (h : s.Retags t) (c : Criteria)
    (b : Build) : (s.candidate c b).Retags (t.candidate c b) where
  build := rfl
  buildCritical := rfl
  kind := rfl
  board := by
    obtain ⟨common, detail⟩ := s
    obtain ⟨common', detail'⟩ := t
    obtain rfl : detail = detail' := h.detail
    cases detail <;> rfl
  common := h.common

namespace Pruning

variable {settings : Settings} {p : Pruning} {cs ds : List Candidate}

theorem survives_iff_of_retags {target : String} {k : SuiteKind} {s t : Suite k}
    (h : s.Retags t) : p.Survives target s ↔ p.Survives target t := by
  cases k <;> simp only [Survives, h.detail]

/-- Selection sees no order among the survivors. -/
theorem keeps_eq (h : Rearranged Candidate.Retags cs ds) :
    p.Keeps settings cs = p.Keeps settings ds := by
  funext i s
  simp only [Keeps, SuiteId.heads_iff_of_retags h]

theorem keeps_iff_of_retags {i : SuiteId} {s t : SuiteCommon} (h : s.Retags t) :
    p.Keeps settings cs i s ↔ p.Keeps settings cs i t := by
  simp only [Keeps, h.exists_group_iff, h.disabledByDefault]

end Pruning

namespace Requirement

variable {settings : Settings} {builds : List Build} {p : Pruning} {m : SuiteMatching}
  {r r' : Requirement} {rs rs' : List Requirement} {k : SuiteKind}

theorem Matches.listed (h : r.Matches m r') (k : SuiteKind) :
    Rearranged m.Rel (r.listed k) (r'.listed k) := by
  have hgetD : ∀ {k : SuiteKind} {ss ts : Option (List (Suite k))},
      Option.Rel (Rearranged m.Rel) ss ts → Rearranged m.Rel (ss.getD []) (ts.getD []) := by
    intro k ss ts hst
    cases hst with
    | none => exact .of_forall₂ .nil
    | some hst => exact hst
  cases k with
  | hw => exact hgetD h.hw
  | vm => exact hgetD h.vm
  | tastVm => exact hgetD h.tastVm
  | moblabVm => exact hgetD h.moblabVm

theorem Matches.chosen?_eq (h : r.Matches m r') :
    r.chosen? settings builds = r'.chosen? settings builds := by
  rw [chosen?, chosen?, h.criteria]

theorem Matches.valid_iff (h : r.Matches m r') : r.Valid ↔ r'.Valid := by
  rw [Valid, Valid, h.criteria]

theorem rearranged_survivors (h : Rearranged (Matches m) rs rs') :
    Rearranged Candidate.Retags (survivors settings builds p rs)
      (survivors settings builds p rs') := by
  rw [survivors_eq, survivors_eq]
  refine h.flatMap fun r r' hr => ?_
  rw [hr.chosen?_eq]
  cases r'.chosen? settings builds with
  | none => exact .of_forall₂ .nil
  | some cb =>
    obtain ⟨c, b⟩ := cb
    have hkinds : Rearranged Eq SuiteKind.all SuiteKind.all := .of_forall₂ (by simp)
    refine hkinds.flatMap fun k l hkl => ?_
    subst hkl
    have hsurvives : Rearranged m.Rel
        ((r.listed k).filter fun s => p.Survives c.target s)
        ((r'.listed k).filter fun s => p.Survives c.target s) :=
      (hr.listed k).filter fun s t hst => by
        simpa using Pruning.survives_iff_of_retags (m.retags hst)
    exact hsurvives.map fun s t hst => (m.retags hst).candidate c b

/-- Which suites are kept does not depend on the order of the document. -/
theorem kept_eq_of_rearranged (h : Rearranged (Matches m) rs rs') :
    kept settings builds p rs k = kept settings builds p rs' k := by
  funext r c b
  refine List.filter_congr fun s _ => decide_eq_decide.2 ?_
  rw [Pruning.keeps_eq (rearranged_survivors h)]

theorem unit?_eq_of_rearranged (h : Rearranged (Matches m) rs rs') :
    unit? settings builds p rs k = unit? settings builds p rs' k := by
  funext r
  simp only [unit?_eq, kept_eq_of_rearranged h]

theorem Matches.kept (h : r.Matches m r') (c : Criteria) (b : Build) :
    Rearranged m.Rel (r.kept settings builds p rs k c b) (r'.kept settings builds p rs k c b) :=
  (h.listed k).filter fun s t hst => by
    have hsame := m.retags hst
    rw [decide_eq_true_iff, decide_eq_true_iff, Pruning.survives_iff_of_retags hsame,
      hsame.common.name, Pruning.keeps_iff_of_retags hsame.common]

/-- Requirements that match have units that match, if any. -/
theorem Matches.unit? (h : r.Matches m r') :
    Option.Rel (PlanUnit.Matches m) (r.unit? settings builds p rs k)
      (r'.unit? settings builds p rs k) := by
  rw [Requirement.unit?_eq, Requirement.unit?_eq, h.chosen?_eq]
  cases r'.chosen? settings builds with
  | none => exact .none
  | some cb =>
    obtain ⟨c, b⟩ := cb
    have hkept : Rearranged m.Rel (r.kept settings builds p rs k c b)
        (r'.kept settings builds p rs k c b) := h.kept c b
    simp only [Option.bind_some]
    cases b.artifacts with
    | none => exact .none
    | some payload =>
      simp only [Option.bind_some, hkept.eq_nil_iff]
      split
      next => exact .none
      next =>
        refine .some ⟨rfl, hkept.map fun s t hst => ?_⟩
        have hcritical := (m.retags hst).common.critical
        rw [Suite.planned_eq, Suite.planned_eq, ← hcritical]
        exact ⟨s, t, _, hst, rfl, rfl⟩

end Requirement

section Assembly

variable {settings : Settings} {builds : List Build} {p : Pruning} {m : SuiteMatching}
  {rs rs' : List Requirement}

theorem forall_valid_of_rearranged (h : Rearranged (Requirement.Matches m) rs rs')
    (hvalid : ∀ r ∈ rs, r.Valid) : ∀ r' ∈ rs', r'.Valid := by
  intro r' hr'
  obtain ⟨r, hr, hmatch⟩ := h.flip.exists_of_mem hr'
  exact hmatch.valid_iff.1 (hvalid r hr)

theorem groupHeads_targets_eq {ts ts' : List Target} {names : List String}
    (h : Rearranged (Requirement.Matches m) rs rs')
    (hts : Plan.targets settings p builds rs = .ok ts)
    (hts' : Plan.targets settings p builds rs' = .ok ts') :
    groupHeads settings ts names = groupHeads settings ts' names := by
  obtain ⟨-, rfl⟩ := Plan.targets_eq_ok_iff.1 hts
  obtain ⟨-, rfl⟩ := Plan.targets_eq_ok_iff.1 hts'
  refine groupHeads_eq_of_retags ?_
  rw [flatMap_candidates_placed?, flatMap_candidates_placed?]
  exact Requirement.rearranged_survivors h

theorem matches_of_rearranged {plan plan' : Plan} (h : Rearranged (Requirement.Matches m) rs rs')
    (hplan : Plan.assemble settings rs builds p = .ok plan)
    (hplan' : Plan.assemble settings rs' builds p = .ok plan') :
    Plan.Matches m (Requirement.unit? settings builds p rs) rs rs' plan plan' := by
  obtain ⟨-, rfl⟩ := assemble_eq_ok_iff.1 hplan
  obtain ⟨-, rfl⟩ := assemble_eq_ok_iff.1 hplan'
  have hrespects : ∀ k, ∀ ⦃r r' : Requirement⦄, r.Matches m r' →
      Option.Rel (PlanUnit.Matches m) (r.unit? settings builds p rs k)
        (r'.unit? settings builds p rs k) := fun k r r' hr => hr.unit?
  constructor
  case units =>
    intro k
    rw [Plan.units_ofUnits, Plan.units_ofUnits, ← Requirement.unit?_eq_of_rearranged h]
    exact h.filterMap (hrespects k)
  case first =>
    intro k
    rw [Plan.units_ofUnits]
  case second =>
    intro k
    rw [Plan.units_ofUnits, ← Requirement.unit?_eq_of_rearranged h]
  case respects => exact hrespects

theorem exists_plan (settings : Settings) (builds : List Build) (p : Pruning)
    (hvalid : ∀ r ∈ rs, r.Valid) :
    ∃ ts plan, Plan.targets settings p builds rs = .ok ts ∧
      Plan.assemble settings rs builds p = .ok plan :=
  ⟨_, _, Plan.targets_eq_ok_iff.2 ⟨hvalid, rfl⟩, assemble_eq_ok_iff.2 ⟨hvalid, rfl⟩⟩

/-- Valid requirements in another order choose the same heads of groups and give plans that match as
their suites do. The units are those that the first document gives to its requirements. -/
theorem assemble_rearranged (hvalid : ∀ r ∈ rs, r.Valid)
    (h : Rearranged (Requirement.Matches m) rs rs') :
    ∃ ts ts' plan plan',
      Plan.targets settings p builds rs = .ok ts ∧ Plan.targets settings p builds rs' = .ok ts' ∧
      (Plan.choice settings p ts).groupHeads = (Plan.choice settings p ts').groupHeads ∧
      Plan.assemble settings rs builds p = .ok plan ∧
      Plan.assemble settings rs' builds p = .ok plan' ∧
      Plan.Matches m (Requirement.unit? settings builds p rs) rs rs' plan plan' := by
  have hvalid' := forall_valid_of_rearranged h hvalid
  obtain ⟨ts, plan, hts, hplan⟩ := exists_plan settings builds p hvalid
  obtain ⟨ts', plan', hts', hplan'⟩ := exists_plan settings builds p hvalid'
  exact ⟨ts, ts', plan, plan', hts, hts', groupHeads_targets_eq h hts hts', hplan, hplan',
    matches_of_rearranged h hplan hplan'⟩

end Assembly

namespace Sample

section

variable {m : SuiteMatching} {target : String} {hws hws' : List (Suite .hw)}
  {vms vms' : List (Suite .vm)} {tastVms tastVms' : List (Suite .tastVm)}
  {moblabVms moblabVms' : List (Suite .moblabVm)}

theorem requirement_matches (hhw : Rearranged m.Rel hws hws') :
    (requirement target hws).Matches m (requirement target hws') :=
  ⟨rfl, .some hhw, .none, .none, .none⟩

theorem allKinds_matches (hhw : Rearranged m.Rel hws hws') (hvm : Rearranged m.Rel vms vms')
    (htastVm : Rearranged m.Rel tastVms tastVms')
    (hmoblabVm : Rearranged m.Rel moblabVms moblabVms') :
    (allKinds target hws vms tastVms moblabVms).Matches m
      (allKinds target hws' vms' tastVms' moblabVms') :=
  ⟨rfl, .some hhw, .some hvm, .some htastVm, .some hmoblabVm⟩

end

def mixed : Pruning :=
  { oneof "bvt" with onlyGroups := Names.ofList ["cq"], alsoGroups := Names.ofList ["tast"] }

def bothBuilt : List Build :=
  [build "eve" "eve-cq", build "coral" "coral-cq"]

def eveFirst : List Requirement :=
  [allKinds "eve" [hw "b" ["bvt", "perf"], hw "a" ["cq"], hw "c" []]
      [vm "v" ["cq", "perf"], vm "w" ["tast"]] [tastVm "t" ["tast"]]
      [moblabVm "m" ["cq"], moblabVm "n" ["bvt"]],
    requirement "coral" [hw "b" ["bvt", "bvt", "perf"], hw "d" ["tast"]]]

def coralFirst : List Requirement :=
  [requirement "coral" [hw "d" ["tast"], hw "b" ["perf", "bvt", "bvt"]],
    allKinds "eve" [hw "c" [], hw "b" ["perf", "bvt"], hw "a" ["cq"]]
      [vm "w" ["tast"], vm "v" ["perf", "cq"]] [tastVm "t" ["tast"]]
      [moblabVm "n" ["bvt"], moblabVm "m" ["cq"]]]

theorem eveFirst_rearranged : Rearranged (Requirement.Matches .byTags) eveFirst coralFirst := by
  have heve : Rearranged SuiteMatching.byTags.Rel
      [hw "b" ["bvt", "perf"], hw "a" ["cq"], hw "c" []]
      [hw "c" [], hw "b" ["perf", "bvt"], hw "a" ["cq"]] :=
    ⟨[hw "c" [], hw "b" ["bvt", "perf"], hw "a" ["cq"]], by decide, by decide⟩
  have hvm : Rearranged SuiteMatching.byTags.Rel [vm "v" ["cq", "perf"], vm "w" ["tast"]]
      [vm "w" ["tast"], vm "v" ["perf", "cq"]] :=
    ⟨[vm "w" ["tast"], vm "v" ["cq", "perf"]], by decide, by decide⟩
  have htastVm : Rearranged SuiteMatching.byTags.Rel [tastVm "t" ["tast"]] [tastVm "t" ["tast"]] :=
    .of_forall₂ (by decide)
  have hmoblabVm : Rearranged SuiteMatching.byTags.Rel
      [moblabVm "m" ["cq"], moblabVm "n" ["bvt"]] [moblabVm "n" ["bvt"], moblabVm "m" ["cq"]] :=
    ⟨[moblabVm "n" ["bvt"], moblabVm "m" ["cq"]], by decide, by decide⟩
  have hcoral : Rearranged SuiteMatching.byTags.Rel
      [hw "b" ["bvt", "bvt", "perf"], hw "d" ["tast"]]
      [hw "d" ["tast"], hw "b" ["perf", "bvt", "bvt"]] :=
    ⟨[hw "d" ["tast"], hw "b" ["bvt", "bvt", "perf"]], by decide, by decide⟩
  exact ⟨eveFirst.reverse, by decide,
    .cons (requirement_matches hcoral)
      (.cons (allKinds_matches heve hvm htastVm hmoblabVm) .nil)⟩

end Sample

open Sample in
theorem assemble_rearranged_mixed :
    (∀ r ∈ eveFirst, r.Valid) ∧ Rearranged (Requirement.Matches .byTags) eveFirst coralFirst ∧
      ∃ ts ts' plan plan',
        Plan.targets Settings.standard mixed bothBuilt eveFirst = .ok ts ∧
        Plan.targets Settings.standard mixed bothBuilt coralFirst = .ok ts' ∧
        (Plan.choice Settings.standard mixed ts).groupHeads =
          (Plan.choice Settings.standard mixed ts').groupHeads ∧
        Plan.assemble Settings.standard eveFirst bothBuilt mixed = .ok plan ∧
        Plan.assemble Settings.standard coralFirst bothBuilt mixed = .ok plan' ∧
        Plan.Matches .byTags (Requirement.unit? Settings.standard bothBuilt mixed eveFirst)
          eveFirst coralFirst plan plan' := by
  have hvalid : ∀ r ∈ eveFirst, r.Valid := by decide
  exact ⟨hvalid, eveFirst_rearranged, assemble_rearranged hvalid eveFirst_rearranged⟩

end Presubmit
