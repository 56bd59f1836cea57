import Mathlib.Data.List.Perm.Basic
import Presubmit.Proofs.Plan.MorePaths
import Presubmit.Proofs.Plan.Scheduled

/-! More also-groups. They bring back suites that group rules or their default would leave out, and
bear neither on what is pruned nor on which suites lead a group. -/
namespace Presubmit

namespace Pruning

def withAlso (p : Pruning) (added : Names) : Pruning :=
  { p with alsoGroups := p.alsoGroups.union added }

variable {settings : Settings} {p : Pruning} {added : Names}

theorem survives_withAlso_iff {target : String} {k : SuiteKind} {s : Suite k} :
    (p.withAlso added).Survives target s ↔ p.Survives target s := by
  cases k <;> rfl

/-- An added group keeps its suites whatever the other rules say. -/
theorem keeps_withAlso_iff {cs : List Candidate} {i : SuiteId} {s : SuiteCommon} :
    (p.withAlso added).Keeps settings cs i s ↔
      p.Keeps settings cs i s ∨ ∃ g ∈ s.groups, g ∈ added := by
  have halso : (∃ g ∈ s.groups, g ∈ (p.withAlso added).alsoGroups) ↔
      (∃ g ∈ s.groups, g ∈ p.alsoGroups) ∨ ∃ g ∈ s.groups, g ∈ added := by
    simp only [withAlso, Names.mem_union, and_or_left, exists_or]
  unfold Keeps
  rw [halso, or_assoc, or_assoc]
  exact or_congr_right or_comm

/-- The candidate carries an added tag and is not kept without it. -/
def Regains (settings : Settings) (p : Pruning) (added : Names) (cs : List Candidate)
    (c : Candidate) : Prop :=
  (∃ g ∈ c.common.groups, g ∈ added) ∧ ¬ p.Keeps settings cs c.id c.common

instance (settings : Settings) (p : Pruning) (added : Names) (cs : List Candidate)
    (c : Candidate) : Decidable (p.Regains settings added cs c) :=
  inferInstanceAs (Decidable (_ ∧ _))

end Pruning

/-- The second plan, made with more also-groups, has what the first has and the suites that the
added groups bring back. Units correspond by the requirement that they come from. -/
structure Plan.Gains (settings : Settings) (builds : List Build) (p : Pruning) (added : Names)
    (rs : List Requirement) (plan plan' : Plan) : Prop where
  first (k : SuiteKind) : plan.units k = rs.filterMap (Requirement.unit? settings builds p rs k)
  second (k : SuiteKind) :
    plan'.units k = rs.filterMap (Requirement.unit? settings builds (p.withAlso added) rs k)
  stays (k : SuiteKind) (r : Requirement) (u : PlanUnit k) :
    r.unit? settings builds p rs k = some u →
      ∃ v, r.unit? settings builds (p.withAlso added) rs k = some v ∧ u.Within v
  aligned (k : SuiteKind) : List.SublistForall₂ PlanUnit.Within (plan.units k) (plan'.units k)
  gained (k : SuiteKind) (r : Requirement) (c : Criteria) (b : Build) (s : Suite k) :
    (s ∈ r.kept settings builds (p.withAlso added) rs k c b ∧
        s ∉ r.kept settings builds p rs k c b) ↔
      s ∈ r.listed k ∧ p.Survives c.target s ∧
        p.Regains settings added (survivors settings builds p rs) (s.candidate c b)
  scheduled : plan'.scheduled.Perm (plan.scheduled ++
    ((survivors settings builds p rs).filter
      (p.Regains settings added (survivors settings builds p rs) ·)).map fun c => (c.id, c.settled))

section Plans

variable {settings : Settings} {builds : List Build} {rs : List Requirement} {p : Pruning}
  {added : Names} {plan plan' : Plan}

theorem targets_withAlso (settings : Settings) (p : Pruning) (added : Names) (builds : List Build)
    (rs : List Requirement) :
    Plan.targets settings (p.withAlso added) builds rs = Plan.targets settings p builds rs :=
  rfl

theorem survivors_withAlso :
    survivors settings builds (p.withAlso added) rs = survivors settings builds p rs := by
  simp only [survivors, Pruning.runnable, Pruning.survives_withAlso_iff]

theorem kept_withAlso_sublist (k : SuiteKind) (r : Requirement) (c : Criteria) (b : Build) :
    (r.kept settings builds p rs k c b).Sublist
      (r.kept settings builds (p.withAlso added) rs k c b) := by
  refine List.monotone_filter_right _ fun s hs => ?_
  rw [decide_eq_true_iff] at hs ⊢
  rw [survivors_withAlso]
  exact ⟨Pruning.survives_withAlso_iff.2 hs.1, Pruning.keeps_withAlso_iff.2 (.inl hs.2)⟩

theorem gained_iff {k : SuiteKind} {r : Requirement} {c : Criteria} {b : Build} {s : Suite k} :
    (s ∈ r.kept settings builds (p.withAlso added) rs k c b ∧
        s ∉ r.kept settings builds p rs k c b) ↔
      s ∈ r.listed k ∧ p.Survives c.target s ∧
        p.Regains settings added (survivors settings builds p rs) (s.candidate c b) := by
  rw [Requirement.mem_kept_iff, Requirement.mem_kept_iff, survivors_withAlso,
    Pruning.survives_withAlso_iff, Pruning.keeps_withAlso_iff]
  constructor
  · rintro ⟨⟨hs, hsurvives, hkeeps | htag⟩, hnot⟩
    · exact absurd ⟨hs, hsurvives, hkeeps⟩ hnot
    · exact ⟨hs, hsurvives, htag, fun hkeeps => hnot ⟨hs, hsurvives, hkeeps⟩⟩
  · rintro ⟨hs, hsurvives, htag, hdropped⟩
    exact ⟨⟨hs, hsurvives, .inr htag⟩, fun hkept => hdropped hkept.2.2⟩

/-- What satisfies one of two conditions satisfies the first, or the second alone. -/
theorem filter_or_perm {α : Type} (P Q : α → Prop) [DecidablePred P] [DecidablePred Q]
    (xs : List α) :
    (xs.filter fun x => P x ∨ Q x).Perm (xs.filter (P ·) ++ xs.filter fun x => Q x ∧ ¬ P x) := by
  have hsplit := List.filter_append_perm (fun x => decide (P x)) (xs.filter fun x => P x ∨ Q x)
  rw [List.filter_filter, List.filter_filter] at hsplit
  refine hsplit.symm.trans (.of_eq ?_)
  congr 1 <;> refine List.filter_congr fun x _ => ?_
  · by_cases hP : P x <;> simp [hP]
  · by_cases hP : P x <;> simp [hP]

theorem scheduled_withAlso_perm (h : Plan.assemble settings rs builds p = .ok plan)
    (h' : Plan.assemble settings rs builds (p.withAlso added) = .ok plan') :
    plan'.scheduled.Perm (plan.scheduled ++
      ((survivors settings builds p rs).filter
        (p.Regains settings added (survivors settings builds p rs) ·)).map
          fun c => (c.id, c.settled)) := by
  have hfirst := scheduled_perm h
  have hsecond := scheduled_perm h'
  simp only [survivors_withAlso, Pruning.keeps_withAlso_iff] at hsecond
  have hsplit := filter_or_perm
    (fun c : Candidate => p.Keeps settings (survivors settings builds p rs) c.id c.common)
    (fun c => ∃ g ∈ c.common.groups, g ∈ added) (survivors settings builds p rs)
  refine hsecond.trans ((hsplit.map fun c => (c.id, c.settled)).trans ?_)
  rw [List.map_append]
  exact hfirst.symm.append_right _

theorem gains_of_withAlso (h : Plan.assemble settings rs builds p = .ok plan)
    (h' : Plan.assemble settings rs builds (p.withAlso added) = .ok plan') :
    Plan.Gains settings builds p added rs plan plan' := by
  obtain ⟨-, rfl⟩ := assemble_eq_ok_iff.1 h
  obtain ⟨-, rfl⟩ := assemble_eq_ok_iff.1 h'
  have hstays : ∀ k (r : Requirement) u, r.unit? settings builds p rs k = some u →
      ∃ v, r.unit? settings builds (p.withAlso added) rs k = some v ∧ u.Within v :=
    fun k r u hu => exists_unit?_within_of_kept (kept_withAlso_sublist k r) hu
  constructor
  case first => exact fun k => Plan.units_ofUnits _ k
  case second => exact fun k => Plan.units_ofUnits _ k
  case stays => exact hstays
  case aligned =>
    intro k
    rw [Plan.units_ofUnits, Plan.units_ofUnits]
    exact sublistForall₂_filterMap (hstays k) rs
  case gained => exact fun k r c b s => gained_iff
  case scheduled => exact scheduled_withAlso_perm h h'

/-- A plan that can be made can be made with more also-groups. The targets, their suites and the
heads of groups are the same, and the plan gains the suites of the added groups that it lacked. -/
theorem assemble_withAlso_gains (h : Plan.assemble settings rs builds p = .ok plan)
    (added : Names) :
    ∃ ts plan',
      Plan.targets settings p builds rs = .ok ts ∧
      Plan.targets settings (p.withAlso added) builds rs = .ok ts ∧
      (Plan.choice settings (p.withAlso added) ts).groupHeads =
        (Plan.choice settings p ts).groupHeads ∧
      Plan.assemble settings rs builds (p.withAlso added) = .ok plan' ∧
      Plan.Gains settings builds p added rs plan plan' := by
  obtain ⟨hvalid, -⟩ := assemble_eq_ok_iff.1 h
  have hts : Plan.targets settings p builds rs = .ok _ := Plan.targets_eq_ok_iff.2 ⟨hvalid, rfl⟩
  have hplan' : Plan.assemble settings rs builds (p.withAlso added) = .ok _ :=
    assemble_eq_ok_iff.2 ⟨hvalid, rfl⟩
  exact ⟨_, _, hts, (targets_withAlso settings p added builds rs).trans hts, rfl, hplan',
    gains_of_withAlso h hplan'⟩

end Plans

namespace Sample

def bvtOrCq : Pruning :=
  { oneof "bvt" with onlyGroups := Names.ofList ["cq"] }

def perf : Names :=
  Names.ofList ["perf"]

/-- Group rules leave out the suites that are tagged for performance, and with them all of the
third. -/
def withPerf : List Requirement :=
  [allKinds "eve" [hw "a" ["cq"], hw "b" ["perf"]] [vm "v" ["perf"]] [tastVm "t" ["cq"]]
      [moblabVm "m" []],
    requirement "coral" [hw "c" ["bvt"], optional "d" ["perf"]],
    requirement "sarien" [optional "e" ["perf"]]]

def allBuilt : List Build :=
  [build "eve" "eve-cq", build "coral" "coral-cq", build "sarien" "sarien-cq"]

end Sample

open Sample in
theorem assemble_withAlso_gains_perf :
    ∃ plan, Plan.assemble Settings.standard withPerf allBuilt bvtOrCq = .ok plan ∧
      plan.hw.map (·.suites.length) = [1, 1] ∧ plan.vm = [] ∧
      ∃ ts plan',
        Plan.targets Settings.standard bvtOrCq allBuilt withPerf = .ok ts ∧
        Plan.targets Settings.standard (bvtOrCq.withAlso perf) allBuilt withPerf = .ok ts ∧
        (Plan.choice Settings.standard (bvtOrCq.withAlso perf) ts).groupHeads =
          (Plan.choice Settings.standard bvtOrCq ts).groupHeads ∧
        Plan.assemble Settings.standard withPerf allBuilt (bvtOrCq.withAlso perf) = .ok plan' ∧
        plan'.hw.map (·.suites.length) = [2, 2, 1] ∧ plan'.vm.map (·.suites.length) = [1] ∧
        Plan.Gains Settings.standard allBuilt bvtOrCq perf withPerf plan plan' := by
  have hplan : ∀ p, Plan.assemble Settings.standard withPerf allBuilt p = .ok _ :=
    fun p => assemble_eq_ok_iff.2 ⟨by decide, rfl⟩
  obtain ⟨ts, plan', hts, hts', hheads, hplan', hgains⟩ :=
    assemble_withAlso_gains (hplan bvtOrCq) perf
  obtain rfl := Except.ok.inj ((hplan _).symm.trans hplan')
  exact ⟨_, hplan bvtOrCq, by decide, by decide, ts, _, hts, hts', hheads, hplan', by decide,
    by decide, hgains⟩

end Presubmit
