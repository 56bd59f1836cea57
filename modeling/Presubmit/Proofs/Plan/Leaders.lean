import Presubmit.Proofs.Plan.Contents

/-! The suite that leads a oneof-group runs. Groups are formed of the suites that survive on a
chosen build, so no group with such a suite goes without. -/
namespace Presubmit

/-- A suite that survives pruning on the build that was chosen for its requirement. -/
structure Survivor (settings : Settings) (builds : List Build) (p : Pruning)
    (rs : List Requirement) where
  requirement : Requirement
  criteria : Criteria
  build : Build
  kind : SuiteKind
  suite : Suite kind
  listed : requirement ∈ rs
  chosen : requirement.chosen? settings builds = some (criteria, build)
  declared : suite ∈ requirement.listed kind
  survives : p.Survives criteria.target suite

namespace Survivor

variable {settings : Settings} {builds : List Build} {p : Pruning} {rs : List Requirement}

def candidate (x : Survivor settings builds p rs) : Candidate :=
  x.suite.candidate x.criteria x.build

def groups (x : Survivor settings builds p rs) : List String :=
  x.suite.common.groups

/-- A unit of the plan on the build of the survivor holds its suite, its criticality settled. -/
def Runs (x : Survivor settings builds p rs) (plan : Plan) : Prop :=
  ∃ u ∈ plan.units x.kind,
    u.source.target = x.criteria.target ∧ u.source.builder = x.build.builder ∧
    x.build.artifacts = some u.source.payload ∧
    x.suite.planned x.build ∈ u.suites

theorem mem_survivors_iff {c : Candidate} :
    c ∈ survivors settings builds p rs ↔
      ∃ x : Survivor settings builds p rs, x.candidate = c := by
  rw [survivors_eq, List.mem_flatMap]
  constructor
  · rintro ⟨r, hr, hc⟩
    cases hchosen : r.chosen? settings builds with
    | none => simp [hchosen] at hc
    | some cb =>
      obtain ⟨criteria, b⟩ := cb
      simp only [hchosen, Pruning.runnable, List.mem_flatMap, List.mem_map, List.mem_filter] at hc
      obtain ⟨k, -, s, ⟨hs, hsurvives⟩, rfl⟩ := hc
      exact ⟨⟨r, criteria, b, k, s, hr, hchosen, hs, by simpa using hsurvives⟩, rfl⟩
  · rintro ⟨x, rfl⟩
    refine ⟨x.requirement, x.listed, ?_⟩
    simp only [x.chosen, Pruning.runnable, List.mem_flatMap, List.mem_map, List.mem_filter]
    exact ⟨x.kind, x.kind.mem_all, x.suite, ⟨x.declared, by simpa using x.survives⟩, rfl⟩

variable {plan : Plan} {g : String}

/-- What selection keeps is in the plan. -/
theorem runs_of_keeps (h : Plan.assemble settings rs builds p = .ok plan)
    (x : Survivor settings builds p rs)
    (hkeeps : p.Keeps settings (survivors settings builds p rs) x.candidate.id x.suite.common) :
    x.Runs plan := by
  obtain ⟨-, rfl⟩ := assemble_eq_ok_iff.1 h
  obtain ⟨payload, hpayload, -⟩ := (Requirement.accepts_of_chosen? x.chosen).artifact
  have hkept : x.suite ∈ x.requirement.kept settings builds p rs x.kind x.criteria x.build :=
    Requirement.mem_kept_iff.2 ⟨x.declared, x.survives, hkeeps⟩
  have hunit := Requirement.unit?_eq_some_iff.2
    ⟨x.criteria, x.build, payload, x.chosen, hpayload, List.ne_nil_of_mem hkept, rfl⟩
  rw [Runs, Plan.units_ofUnits]
  exact ⟨_, List.mem_filterMap.2 ⟨x.requirement, x.listed, hunit⟩, rfl, rfl, hpayload,
    List.mem_map.2 ⟨x.suite, hkept, rfl⟩⟩

/-- A leader of a oneof-group is kept for its identity. -/
theorem keeps_of_leads (hg : g ∈ p.oneofGroups) {x : Survivor settings builds p rs}
    (hx : x.candidate.Leads settings (survivors settings builds p rs) g) :
    p.Keeps settings (survivors settings builds p rs) x.candidate.id x.suite.common := by
  have hrules : ¬ (p.oneofGroups = ∅ ∧ p.onlyGroups = ∅) := fun hnone =>
    Names.eq_empty_iff.1 hnone.1 g hg
  unfold Pruning.Keeps
  rw [if_neg hrules]
  exact .inr (.inl ⟨g, hg, x.candidate, hx, rfl⟩)

theorem exists_leads (x : Survivor settings builds p rs) (hx : g ∈ x.groups) :
    ∃ y : Survivor settings builds p rs,
      y.candidate.Leads settings (survivors settings builds p rs) g := by
  have hmem : x.candidate ∈ survivors settings builds p rs := mem_survivors_iff.2 ⟨x, rfl⟩
  rw [← flatMap_candidates_placed?] at hmem
  obtain ⟨c, hc⟩ := Presubmit.exists_leads hmem hx
  rw [flatMap_candidates_placed?] at hc
  obtain ⟨y, rfl⟩ := mem_survivors_iff.1 hc.mem
  exact ⟨y, hc⟩

/-- If a suite with the tag of a oneof-group survives, then the plan runs one to which none of these
is preferred. -/
theorem exists_least_runs (h : Plan.assemble settings rs builds p = .ok plan)
    (hg : g ∈ p.oneofGroups) (hsome : ∃ x : Survivor settings builds p rs, g ∈ x.groups) :
    ∃ y : Survivor settings builds p rs, g ∈ y.groups ∧ y.Runs plan ∧
      ∀ z : Survivor settings builds p rs, g ∈ z.groups →
        Candidate.compare settings y.candidate z.candidate ≠ .gt := by
  obtain ⟨x, hx⟩ := hsome
  obtain ⟨y, hy⟩ := exists_leads x hx
  refine ⟨y, hy.tagged, runs_of_keeps h y (keeps_of_leads hg hy), fun z hz => ?_⟩
  have hle := hy.least z.candidate (mem_survivors_iff.2 ⟨z, rfl⟩) hz
  exact Ordering.ne_gt_iff_isLE.2 hle

end Survivor

namespace Sample

/-- One suite per oneof-group, of the Tast framework and on one target only. -/
def tastOnEve : Pruning :=
  { oneof "tast" with disableNonTast := true, onlyTargets := Names.ofList ["eve"] }

def eveTagged : Requirement :=
  allKinds "eve" [autotest "a" ["tast"], hw "e" ["tast"], hw "d" ["tast"]] [vm "v" ["tast"]]
    [tastVm "t" ["tast"]] [moblabVm "m" ["tast"]]

def threeTargets : List Requirement :=
  [eveTagged, requirement "bob" [hw "b" ["tast"]], requirement "coral" [hw "c" ["tast"]]]

def oneFailed : List Build :=
  [build "eve" "eve-cq", build "bob" "bob-cq",
    { build "coral" "coral-cq" with status := .failure }]

def tagged : Survivor Settings.standard oneFailed tastOnEve threeTargets where
  requirement := eveTagged
  criteria := ⟨"eve", none⟩
  build := build "eve" "eve-cq"
  kind := .hw
  suite := hw "e" ["tast"]
  listed := by decide
  chosen := by decide
  declared := by decide
  survives := by decide

end Sample

open Sample in
/-- Of the eight tagged suites, three are pruned for their framework, one for its target, and one
has no build that succeeded. The virtual machine comes first among the others. -/
theorem exists_least_runs_pruned :
    ∃ plan, Plan.assemble Settings.standard threeTargets oneFailed tastOnEve = .ok plan ∧
      plan.hw = [] ∧ plan.tastVm.map (·.suites.length) = [1] ∧
      "tast" ∈ tastOnEve.oneofGroups ∧
      (∃ x : Survivor Settings.standard oneFailed tastOnEve threeTargets, "tast" ∈ x.groups) ∧
      ∃ y : Survivor Settings.standard oneFailed tastOnEve threeTargets,
        "tast" ∈ y.groups ∧ y.Runs plan ∧
        ∀ z : Survivor Settings.standard oneFailed tastOnEve threeTargets, "tast" ∈ z.groups →
          Candidate.compare Settings.standard y.candidate z.candidate ≠ .gt := by
  have hplan : Plan.assemble Settings.standard threeTargets oneFailed tastOnEve = .ok _ :=
    assemble_eq_ok_iff.2 ⟨by decide, rfl⟩
  have hgroup : "tast" ∈ tastOnEve.oneofGroups := by decide
  have hsome : ∃ x : Survivor Settings.standard oneFailed tastOnEve threeTargets,
      "tast" ∈ x.groups := ⟨tagged, by decide⟩
  exact ⟨_, hplan, by decide, by decide, hgroup, hsome,
    Survivor.exists_least_runs hplan hgroup hsome⟩

end Presubmit
