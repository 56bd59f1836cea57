import Presubmit.Proofs.Plan.Contents

/-! Requirements without group rules. No suite then has a bearing on another, and a list of
requirements may be planned in parts. -/
namespace Presubmit

namespace Plan

/-- A plan is given by its units. -/
theorem eq_ofUnits_iff {plan : Plan} {units : (k : SuiteKind) → List (PlanUnit k)} :
    plan = ofUnits units ↔ ∀ k, plan.units k = units k := by
  constructor
  · intro h k
    rw [h, units_ofUnits]
  · intro h
    obtain ⟨hw, vm, tastVm, moblabVm⟩ := plan
    have hhw : hw = units .hw := h .hw
    have hvm : vm = units .vm := h .vm
    have htastVm : tastVm = units .tastVm := h .tastVm
    have hmoblabVm : moblabVm = units .moblabVm := h .moblabVm
    rw [ofUnits, hhw, hvm, htastVm, hmoblabVm]

end Plan

section Ungrouped

variable {settings : Settings} {builds : List Build} {p : Pruning} {rs rs' : List Requirement}

/-- Other suites are asked about only under group rules. -/
theorem Pruning.keeps_congr_of_ungrouped (honeof : p.oneofGroups = ∅) (honly : p.onlyGroups = ∅)
    (cs ds : List Candidate) (i : SuiteId) (s : SuiteCommon) :
    p.Keeps settings cs i s ↔ p.Keeps settings ds i s := by
  unfold Keeps
  rw [if_pos ⟨honeof, honly⟩, if_pos ⟨honeof, honly⟩]

/-- What a requirement contributes does not depend on the requirements around it. -/
theorem Requirement.unit?_congr_of_ungrouped (honeof : p.oneofGroups = ∅)
    (honly : p.onlyGroups = ∅) (rs rs' : List Requirement) (k : SuiteKind) (r : Requirement) :
    r.unit? settings builds p rs k = r.unit? settings builds p rs' k := by
  have hkept : ∀ c b, r.kept settings builds p rs k c b = r.kept settings builds p rs' k c b := by
    intro c b
    unfold kept keptOf
    apply List.filter_congr
    intro s _
    apply decide_eq_decide.2
    exact and_congr_right fun _ => Pruning.keeps_congr_of_ungrouped honeof honly _ _ _ _
  simp only [unit?_eq, hkept]

/-- The parts of a list are planned exactly if the whole list is, and the whole plan then has the
units of the first part followed by those of the second. -/
theorem assemble_append_eq_ok_iff (honeof : p.oneofGroups = ∅) (honly : p.onlyGroups = ∅)
    {plan : Plan} :
    Plan.assemble settings (rs ++ rs') builds p = .ok plan ↔
      ∃ first second, Plan.assemble settings rs builds p = .ok first ∧
        Plan.assemble settings rs' builds p = .ok second ∧
        ∀ k, plan.units k = first.units k ++ second.units k := by
  have hunits : ∀ k, (rs ++ rs').filterMap
        (Requirement.unit? settings builds p (rs ++ rs') k) =
      rs.filterMap (Requirement.unit? settings builds p rs k) ++
        rs'.filterMap (Requirement.unit? settings builds p rs' k) := by
    intro k
    have halone : ∀ (us : List Requirement) (r : Requirement),
        r.unit? settings builds p (rs ++ rs') k = r.unit? settings builds p us k := fun us r =>
      Requirement.unit?_congr_of_ungrouped honeof honly (rs ++ rs') us k r
    rw [List.filterMap_append, List.filterMap_congr fun r _ => halone rs r,
      List.filterMap_congr fun r _ => halone rs' r]
  simp only [assemble_eq_ok_iff, List.forall_mem_append, Plan.eq_ofUnits_iff, hunits]
  constructor
  · intro h
    obtain ⟨⟨hrs, hrs'⟩, hplan⟩ := h
    refine ⟨_, _, ⟨hrs, fun k => Plan.units_ofUnits _ k⟩, ⟨hrs', fun k => Plan.units_ofUnits _ k⟩,
      fun k => ?_⟩
    rw [hplan, Plan.units_ofUnits, Plan.units_ofUnits]
  · intro h
    obtain ⟨first, second, ⟨hrs, hfirst⟩, ⟨hrs', hsecond⟩, hplan⟩ := h
    refine ⟨⟨hrs, hrs'⟩, fun k => ?_⟩
    rw [hplan, hfirst, hsecond]

end Ungrouped

namespace Sample

def firstPart : List Requirement :=
  [allKinds "eve" [hw "a" ["tast"], hw "b" []] [vm "v" []] [] [moblabVm "m" []]]

def secondPart : List Requirement :=
  [allKinds "eve" [hw "a" ["tast"]] [vm "v" []] [tastVm "t" []] []]

end Sample

open Sample in
/-- Both parts name the target `eve` and the suites `a` and `v`. -/
theorem assemble_append_same_target :
    Pruning.none.oneofGroups = ∅ ∧ Pruning.none.onlyGroups = ∅ ∧
    ∃ plan first second,
      Plan.assemble Settings.standard (firstPart ++ secondPart) [build "eve" "eve-cq"]
        Pruning.none = .ok plan ∧
      plan.hw.map (·.suites.length) = [2, 1] ∧ plan.vm.map (·.suites.length) = [1, 1] ∧
      Plan.assemble Settings.standard firstPart [build "eve" "eve-cq"] Pruning.none = .ok first ∧
      Plan.assemble Settings.standard secondPart [build "eve" "eve-cq"] Pruning.none = .ok second ∧
      ∀ k, plan.units k = first.units k ++ second.units k := by
  have hplan : Plan.assemble Settings.standard (firstPart ++ secondPart) [build "eve" "eve-cq"]
      Pruning.none = .ok _ := assemble_eq_ok_iff.2 ⟨by decide, rfl⟩
  obtain ⟨first, second, hfirst, hsecond, hunits⟩ :=
    (assemble_append_eq_ok_iff (by decide) (by decide)).1 hplan
  exact ⟨by decide, by decide, _, first, second, hplan, by decide, by decide, hfirst, hsecond,
    hunits⟩

end Presubmit
