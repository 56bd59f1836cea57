import Mathlib.Data.List.Nodup
import Mathlib.Data.List.Perm.Subperm
import Presubmit.Proofs.Plan.Scheduled

/-! Oneof-groups. The head of a group is remembered by its identity alone, so a suite that shares
the identity is scheduled as well, with or without the tag. -/
namespace Presubmit

/-- No more suites than oneof-groups are scheduled, and each of them carries the tag of one. -/
def OneSuitePerGroup (p : Pruning) (plan : Plan) : Prop :=
  plan.scheduled.length ≤ p.oneofGroups.size ∧
    ∀ x ∈ plan.scheduled, ∃ g ∈ x.2.groups, g ∈ p.oneofGroups

instance (p : Pruning) (plan : Plan) : Decidable (OneSuitePerGroup p plan) :=
  inferInstanceAs (Decidable (_ ∧ _))

section

variable (settings : Settings) (builds : List Build) (p : Pruning) (rs : List Requirement)

/-- The identity of a suite that leads one of the oneof-groups. -/
def Elects (i : SuiteId) : Prop :=
  ∃ g ∈ p.oneofGroups, i.Heads settings (survivors settings builds p rs) g

instance (i : SuiteId) : Decidable (Elects settings builds p rs i) :=
  inferInstanceAs (Decidable (∃ g ∈ p.oneofGroups, _))

/-- How many survivors have the identity. -/
def sharing (i : SuiteId) : Nat :=
  ((survivors settings builds p rs).map Candidate.id).count i

end

variable {settings : Settings} {builds : List Build} {p : Pruning} {rs : List Requirement}
  {plan : Plan}

/-- Under oneof-groups alone the plan consists of the elected identities. -/
theorem scheduled_perm_of_oneof (h : Plan.assemble settings rs builds p = .ok plan)
    (hone : p.oneofGroups ≠ ∅) (honly : p.onlyGroups = ∅) (halso : p.alsoGroups = ∅) :
    plan.scheduled.Perm
      (((survivors settings builds p rs).filter fun c => Elects settings builds p rs c.id).map
        fun c => (c.id, c.settled)) := by
  refine (scheduled_perm h).trans (.of_eq ?_)
  congr 1
  refine List.filter_congr fun c _ => decide_eq_decide.2 ?_
  simp [Pruning.Keeps, Elects, hone, honly, halso]

/-- There are no more elected identities than oneof-groups. -/
theorem length_le_of_elects {is : List SuiteId} (hnodup : is.Nodup)
    (h : ∀ i ∈ is, Elects settings builds p rs i) : is.length ≤ p.oneofGroups.size := by
  have hsub : is ⊆ groupHeads settings (rs.filterMap (Requirement.placed? settings builds p))
      p.oneofGroups.toList := fun i hi => by
    rw [mem_groupHeads, flatMap_candidates_placed?]
    exact h i hi
  calc is.length ≤ (groupHeads settings _ p.oneofGroups.toList).length :=
        (List.subperm_of_subset hnodup hsub).length_le
    _ ≤ p.oneofGroups.size := length_groupHeads_le _ _ _

theorem countP_elects_le
    (h : ∀ i, Elects settings builds p rs i → sharing settings builds p rs i = 1) :
    ((survivors settings builds p rs).countP fun c => Elects settings builds p rs c.id) ≤
      p.oneofGroups.size := by
  let elected := ((survivors settings builds p rs).map Candidate.id).filter fun i =>
    Elects settings builds p rs i
  have helects : ∀ i ∈ elected, Elects settings builds p rs i := fun i hi => by
    simpa using (List.mem_filter.1 hi).2
  have hnodup : elected.Nodup := by
    refine List.nodup_iff_count_le_one.2 fun i => ?_
    by_cases hi : i ∈ elected
    · rw [List.count_filter (by simpa using helects i hi)]
      exact Nat.le_of_eq (h i (helects i hi))
    · rw [List.count_eq_zero_of_not_mem hi]
      exact Nat.zero_le 1
  have hlength := length_le_of_elects hnodup helects
  rwa [← List.countP_eq_length_filter, List.countP_map] at hlength

theorem eq_of_count_map_eq_one {α β : Type} [BEq β] [LawfulBEq β] {f : α → β} {xs : List α}
    {x y : α} (h : (xs.map f).count (f x) = 1) (hx : x ∈ xs) (hy : y ∈ xs) (hxy : f y = f x) :
    y = x := by
  rw [List.count, List.countP_map, List.countP_eq_length_filter, List.length_eq_one_iff] at h
  obtain ⟨z, hz⟩ := h
  have hx' : x ∈ [z] := hz ▸ List.mem_filter.2 ⟨hx, by simp⟩
  have hy' : y ∈ [z] := hz ▸ List.mem_filter.2 ⟨hy, by simp [hxy]⟩
  rw [List.mem_singleton.1 hx', List.mem_singleton.1 hy']

theorem exists_tag_of_elects {c : Candidate} (hc : c ∈ survivors settings builds p rs)
    (helects : Elects settings builds p rs c.id) (h : sharing settings builds p rs c.id = 1) :
    ∃ g ∈ c.common.groups, g ∈ p.oneofGroups := by
  obtain ⟨g, hg, d, hd, hid⟩ := helects
  obtain rfl := eq_of_count_map_eq_one h hc hd.mem hid
  exact ⟨g, hd.tagged, hg⟩

/-- A oneof rule schedules every survivor that shares an elected identity and nothing else, and one
suite per group exactly if these are no more than the groups and all carry such a tag. It is enough
that no elected identity is shared. -/
theorem oneSuitePerGroup_iff (h : Plan.assemble settings rs builds p = .ok plan)
    (hone : p.oneofGroups ≠ ∅) (honly : p.onlyGroups = ∅) (halso : p.alsoGroups = ∅) :
    (∀ i, (plan.scheduled.map Prod.fst).count i =
      if Elects settings builds p rs i then sharing settings builds p rs i else 0) ∧
    (OneSuitePerGroup p plan ↔
      ((survivors settings builds p rs).countP fun c => Elects settings builds p rs c.id) ≤
          p.oneofGroups.size ∧
        ∀ c ∈ survivors settings builds p rs, Elects settings builds p rs c.id →
          ∃ g ∈ c.common.groups, g ∈ p.oneofGroups) ∧
    ((∀ i, Elects settings builds p rs i → sharing settings builds p rs i = 1) →
      OneSuitePerGroup p plan) := by
  have hperm := scheduled_perm_of_oneof h hone honly halso
  have hiff : OneSuitePerGroup p plan ↔
      ((survivors settings builds p rs).countP fun c => Elects settings builds p rs c.id) ≤
          p.oneofGroups.size ∧
        ∀ c ∈ survivors settings builds p rs, Elects settings builds p rs c.id →
          ∃ g ∈ c.common.groups, g ∈ p.oneofGroups := by
    unfold OneSuitePerGroup
    rw [hperm.length_eq, List.length_map, ← List.countP_eq_length_filter]
    refine and_congr_right fun _ => ?_
    simp only [hperm.mem_iff, List.forall_mem_map, List.mem_filter, decide_eq_true_eq, and_imp,
      Candidate.settled]
  have hcount : ∀ i, (plan.scheduled.map Prod.fst).count i =
      if Elects settings builds p rs i then sharing settings builds p rs i else 0 := fun i => by
    have hids : (plan.scheduled.map Prod.fst).Perm
        (((survivors settings builds p rs).map Candidate.id).filter fun i =>
          Elects settings builds p rs i) := by
      refine (hperm.map Prod.fst).trans (.of_eq ?_)
      rw [List.map_map, List.filter_map]
      rfl
    rw [hids.count_eq]
    split
    next hi => rw [List.count_filter (by simpa using hi), sharing]
    next hi =>
      refine List.count_eq_zero_of_not_mem fun hmem => hi ?_
      simpa using (List.mem_filter.1 hmem).2
  exact ⟨hcount, hiff, fun hunique => hiff.2 ⟨countP_elects_le hunique, fun c hc helects =>
    exists_tag_of_elects hc helects (hunique c.id helects)⟩⟩

open Sample in
/-- The suite on a virtual machine leads the group. -/
theorem oneSuitePerGroup_two_targets :
    (oneof "tast").oneofGroups ≠ ∅ ∧ (oneof "tast").onlyGroups = ∅ ∧
      (oneof "tast").alsoGroups = ∅ ∧
      ∃ plan, Plan.assemble Settings.standard
          [allKinds "eve" [hw "b" ["tast"], hw "c" []] [vm "v" ["tast"]] [tastVm "t" []]
            [moblabVm "m" []], requirement "coral" [hw "a" ["tast"]]]
          [build "eve" "eve-cq", build "coral" "coral-cq"] (oneof "tast") = .ok plan ∧
        OneSuitePerGroup (oneof "tast") plan :=
  have hplan := assemble_eq_ok_iff.2 ⟨by decide, rfl⟩
  ⟨by decide, by decide, by decide, _, hplan,
    (oneSuitePerGroup_iff hplan (by decide) (by decide) (by decide)).2.1.2 (by decide)⟩

/-- Two suites of one name, only one of them tagged, are both scheduled for the one group. -/
theorem not_forall_oneSuitePerGroup :
    ¬ ∀ (settings : Settings) (rs : List Requirement) (builds : List Build) (p : Pruning)
      (plan : Plan), p.oneofGroups ≠ ∅ → p.onlyGroups = ∅ → p.alsoGroups = ∅ →
      Plan.assemble settings rs builds p = .ok plan → OneSuitePerGroup p plan := by
  intro h
  have hplan := h Settings.standard
    [Sample.requirement "eve" [Sample.hw "a" ["tast"], Sample.hw "a" []]]
    [Sample.build "eve" "eve-cq"] (Sample.oneof "tast") _ (by decide) (by decide) (by decide)
    (assemble_eq_ok_iff.2 ⟨by decide, rfl⟩)
  exact absurd hplan (by decide)

end Presubmit
