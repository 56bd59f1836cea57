import Mathlib.Data.List.Basic
import Mathlib.Data.List.Perm.Basic
import Presubmit.Proofs.Plan.Contents

/-! All suites of a plan taken together are the surviving suites that selection keeps, each as often
as it survives. -/
namespace Presubmit

/-- The common part with the criticality that the plan gives it. -/
def Candidate.settled (c : Candidate) : SuiteCommon :=
  { c.common with critical := some (c.buildCritical && c.common.critical != some false) }

/-- The identity and the common part of each suite. -/
def PlanUnit.scheduled {k : SuiteKind} (u : PlanUnit k) : List (SuiteId × SuiteCommon) :=
  u.suites.map fun s => (⟨⟨u.source.target, u.source.builder⟩, k, s.common.name⟩, s.common)

def Plan.scheduled (plan : Plan) : List (SuiteId × SuiteCommon) :=
  SuiteKind.all.flatMap fun k => (plan.units k).flatMap PlanUnit.scheduled

theorem flatMap_comm_perm {α β γ : Type} (xs : List α) (ys : List β) (f : α → β → List γ) :
    (xs.flatMap fun x => ys.flatMap (f x)).Perm (ys.flatMap fun y => xs.flatMap (f · y)) := by
  induction xs with
  | nil => simp
  | cons x xs ih =>
    simp only [List.flatMap_cons]
    exact (ih.append_left _).trans (List.flatMap_append_perm ys (f x) _)

variable {settings : Settings} {builds : List Build} {p : Pruning} {rs : List Requirement}

/-- The suites of one kind and one requirement that survive and are kept. -/
private theorem scheduled_unit? (k : SuiteKind) {r : Requirement} {c : Criteria} {b : Build}
    (h : r.chosen? settings builds = some (c, b)) :
    (r.unit? settings builds p rs k).toList.flatMap PlanUnit.scheduled =
      ((p.runnable c b (r.listed k)).filter fun x =>
        p.Keeps settings (survivors settings builds p rs) x.id x.common).map
          fun x => (x.id, x.settled) := by
  obtain ⟨payload, hpayload, -⟩ := (Requirement.accepts_of_chosen? h).artifact
  have hkept : ((p.runnable c b (r.listed k)).filter fun x =>
        p.Keeps settings (survivors settings builds p rs) x.id x.common) =
      (r.kept settings builds p rs k c b).map (Suite.candidate c b) := by
    rw [Pruning.runnable, List.filter_map, List.filter_filter, Requirement.kept, keptOf]
    congr 1
    refine List.filter_congr fun s _ => ?_
    rw [Bool.eq_iff_iff]
    simp only [Bool.and_eq_true, decide_eq_true_eq, Function.comp_apply]
    exact and_comm
  rw [hkept, List.map_map]
  simp only [Requirement.unit?_eq, h, hpayload, Option.bind_some]
  split
  next hnil => simp [hnil]
  next =>
    simp only [Option.toList_some, List.flatMap_singleton, PlanUnit.scheduled, List.map_map]
    rfl

theorem scheduled_perm {plan : Plan} (h : Plan.assemble settings rs builds p = .ok plan) :
    plan.scheduled.Perm
      (((survivors settings builds p rs).filter fun c =>
        p.Keeps settings (survivors settings builds p rs) c.id c.common).map
          fun c => (c.id, c.settled)) := by
  obtain ⟨-, rfl⟩ := assemble_eq_ok_iff.1 h
  simp only [Plan.scheduled, Plan.units_ofUnits, List.filterMap_eq_flatMap_toList,
    List.flatMap_assoc]
  refine (flatMap_comm_perm _ _ _).trans (.of_eq ?_)
  nth_rewrite 3 [survivors_eq]
  rw [List.filter_flatMap, List.map_flatMap]
  refine List.flatMap_congr fun r _ => ?_
  cases hr : r.chosen? settings builds with
  | none => simp [Requirement.unit?_eq, hr]
  | some cb =>
    obtain ⟨c, b⟩ := cb
    simp only [scheduled_unit? _ hr, List.filter_flatMap, List.map_flatMap]

end Presubmit
