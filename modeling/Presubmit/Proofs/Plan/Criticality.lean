import Presubmit.Proofs.Plan.Leaders
import Presubmit.Proofs.Plan.Scheduled

/-! Criticality is settled twice: when suites are ranked, one that says nothing is as critical as
its build, and in the plan it is critical unless its build is not. Ranking goes by the build as
well, so that a group with a critical suite has a critical leader. -/
namespace Presubmit

namespace Candidate

variable {settings : Settings} {a b c : Candidate}

/-- The suite is critical in a plan: its build is, and it does not say otherwise itself. -/
def IsCritical (c : Candidate) : Prop :=
  c.buildCritical = true ∧ c.common.critical ≠ some false

theorem settled_critical_iff : c.settled.critical = some true ↔ c.IsCritical := by
  simp [settled, IsCritical]

/-- On a critical build ranking and plan agree. -/
theorem isCritical_iff : c.IsCritical ↔ c.critical = true ∧ c.buildCritical = true := by
  unfold IsCritical critical
  cases c.common.critical with
  | none => simp
  | some own => cases own <;> simp

/-- No suite that is not critical is preferred to a critical one. -/
theorem IsCritical.of_compare_ne_gt (hb : b.IsCritical) (h : compare settings a b ≠ .gt) :
    a.IsCritical := by
  rw [isCritical_iff] at hb ⊢
  obtain ⟨hcritical, hbuild⟩ := hb
  have hnot : Ord.compare true false = .gt := rfl
  cases ha : a.critical with
  | false => simp [compare, hcritical, ha, hnot] at h
  | true =>
    cases ha' : a.buildCritical with
    | false => simp [compare, hcritical, hbuild, ha, ha', hnot] at h
    | true => exact ⟨rfl, rfl⟩

end Candidate

namespace Survivor

variable {settings : Settings} {builds : List Build} {p : Pruning} {rs : List Requirement}
  {plan : Plan} {g : String}

theorem mem_scheduled_iff (h : Plan.assemble settings rs builds p = .ok plan)
    {x : SuiteId × SuiteCommon} :
    x ∈ plan.scheduled ↔ ∃ y : Survivor settings builds p rs,
      p.Keeps settings (survivors settings builds p rs) y.candidate.id y.suite.common ∧
        (y.candidate.id, y.candidate.settled) = x := by
  simp only [(scheduled_perm h).mem_iff, List.mem_map, List.mem_filter, decide_eq_true_eq]
  constructor
  · rintro ⟨c, ⟨hc, hkeeps⟩, hx⟩
    obtain ⟨y, rfl⟩ := mem_survivors_iff.1 hc
    exact ⟨y, hkeeps, hx⟩
  · rintro ⟨y, hkeeps, hx⟩
    exact ⟨y.candidate, ⟨mem_survivors_iff.2 ⟨y, rfl⟩, hkeeps⟩, hx⟩

/-- The plan holds a critical suite of a oneof-group exactly if some suite of the group that
survives is critical. -/
theorem exists_critical_scheduled_iff (h : Plan.assemble settings rs builds p = .ok plan)
    (hg : g ∈ p.oneofGroups) :
    (∃ x ∈ plan.scheduled, g ∈ x.2.groups ∧ x.2.critical = some true) ↔
      ∃ x : Survivor settings builds p rs, g ∈ x.groups ∧ x.build.critical = true ∧
        x.suite.common.critical ≠ some false := by
  constructor
  · rintro ⟨x, hx, hgroup, hcritical⟩
    obtain ⟨y, -, rfl⟩ := (mem_scheduled_iff h).1 hx
    exact ⟨y, hgroup, Candidate.settled_critical_iff.1 hcritical⟩
  · rintro ⟨x, hgroup, hcritical⟩
    obtain ⟨y, hy⟩ := exists_leads x hgroup
    have hle := hy.least x.candidate (mem_survivors_iff.2 ⟨x, rfl⟩) hgroup
    have hleader : y.candidate.IsCritical :=
      Candidate.IsCritical.of_compare_ne_gt (b := x.candidate) hcritical
        (Ordering.ne_gt_iff_isLE.2 hle)
    exact ⟨_, (mem_scheduled_iff h).2 ⟨y, keeps_of_leads hg hy, rfl⟩, hy.tagged,
      Candidate.settled_critical_iff.2 hleader⟩

end Survivor

namespace Sample

def flagged (name : String) (critical : Option Bool) : Suite .hw :=
  { hw name ["tast"] with common := { (hw name ["tast"]).common with critical := critical } }

/-- Only the suite of the third is critical: the first says that it is not, and the build of the
second is not, so that its virtual machines do not come first. -/
def mixedCriticality : List Requirement :=
  [requirement "eve" [flagged "a" (some false)],
    allKinds "coral" [flagged "b" (some true)] [vm "v" ["tast"]] [tastVm "t" ["tast"]]
      [moblabVm "m" ["tast"]],
    requirement "sarien" [flagged "c" none]]

def mixedBuilds : List Build :=
  [build "eve" "eve-cq", { build "coral" "coral-cq" with critical := false },
    build "sarien" "sarien-cq"]

def criticalOnSarien : Survivor Settings.standard mixedBuilds (oneof "tast") mixedCriticality where
  requirement := requirement "sarien" [flagged "c" none]
  criteria := ⟨"sarien", none⟩
  build := build "sarien" "sarien-cq"
  kind := .hw
  suite := flagged "c" none
  listed := by decide
  chosen := by decide
  declared := by decide
  survives := by decide

end Sample

open Sample in
theorem exists_critical_scheduled_mixed :
    ∃ plan,
      Plan.assemble Settings.standard mixedCriticality mixedBuilds (oneof "tast") = .ok plan ∧
      "tast" ∈ (oneof "tast").oneofGroups ∧
      (∃ x ∈ plan.scheduled, "tast" ∈ x.2.groups ∧ x.2.critical = some true) ∧
      ∃ x : Survivor Settings.standard mixedBuilds (oneof "tast") mixedCriticality,
        "tast" ∈ x.groups ∧ x.build.critical = true ∧ x.suite.common.critical ≠ some false := by
  obtain ⟨plan, hplan⟩ : ∃ plan,
      Plan.assemble Settings.standard mixedCriticality mixedBuilds (oneof "tast") = .ok plan :=
    ⟨_, assemble_eq_ok_iff.2 ⟨by decide, rfl⟩⟩
  have hgroup : "tast" ∈ (oneof "tast").oneofGroups := by decide
  have hsome : ∃ x : Survivor Settings.standard mixedBuilds (oneof "tast") mixedCriticality,
      "tast" ∈ x.groups ∧ x.build.critical = true ∧ x.suite.common.critical ≠ some false :=
    ⟨criticalOnSarien, by decide, by decide, by decide⟩
  have hplanned := (Survivor.exists_critical_scheduled_iff hplan hgroup).2 hsome
  exact ⟨plan, hplan, hgroup, hplanned, hsome⟩

end Presubmit
