import Mathlib.Data.List.Perm.Basic
import Presubmit.Proofs.Suite.Heads

/-! Forming groups loses no suite and invents none. A group is there exactly if a suite names it,
and it holds every suite as often as the suite names it, most preferred first. -/
namespace Presubmit

/-- The suite as a member of its groups. Hardware suites run on the board that they name, and all
others on the build target. -/
def Target.member (t : Target) : {k : SuiteKind} → Suite k → Candidate
  | .hw, ⟨common, .hw board _ _⟩ => ⟨t.id, t.build.critical, .hw, board, common⟩
  | .vm, s => ⟨t.id, t.build.critical, .vm, t.id.target, s.common⟩
  | .tastVm, s => ⟨t.id, t.build.critical, .tastVm, t.id.target, s.common⟩
  | .moblabVm, s => ⟨t.id, t.build.critical, .moblabVm, t.id.target, s.common⟩

/-- All suites of all targets, each as often as it carries the tag. -/
def taggedMembers (targets : List Target) (group : String) : List Candidate :=
  targets.flatMap fun t => SuiteKind.all.flatMap fun k => (t.suites k).flatMap fun s =>
    List.replicate (s.common.groups.count group) (t.member s)

/-- The lists are the groups of the targets, one for each tag that some suite carries. -/
structure Grouping (settings : Settings) (targets : List Target)
    (found : List (String × List Candidate)) : Prop where
  ascending : found.Pairwise (·.1 < ·.1)
  named (g : String) : (∃ cs, (g, cs) ∈ found) ↔
    ∃ t ∈ targets, ∃ k, ∃ s ∈ t.suites k, g ∈ s.common.groups
  members (g : String) (cs : List Candidate) : (g, cs) ∈ found → cs.Perm (taggedMembers targets g)
  sorted (g : String) (cs : List Candidate) : (g, cs) ∈ found →
    cs.Pairwise fun a b => Candidate.compare settings a b ≠ .gt

section Collecting

/-- Every group that is recorded has members. -/
def NoneEmpty (members : Dict (List Candidate)) : Prop :=
  ∀ g cs, members.get? g = some cs → cs ≠ []

theorem NoneEmpty.insert {members : Dict (List Candidate)} (h : NoneEmpty members) (group : String)
    {cs : List Candidate} (hcs : cs ≠ []) : NoneEmpty (members.insert group cs) := by
  intro g ds hds
  by_cases hg : g = group
  · subst hg
    rw [Dict.get?_insert_self, Option.some.injEq] at hds
    exact hds ▸ hcs
  · rw [Dict.get?_insert_of_ne _ hg] at hds
    exact h g ds hds

/-- A candidate that joins leaves no group empty. -/
theorem NoneEmpty.join {members : Dict (List Candidate)} (h : NoneEmpty members) (c : Candidate) :
    NoneEmpty (c.join members) := by
  unfold Candidate.join
  induction c.common.groups generalizing members with
  | nil => exact h
  | cons tag tags ih => exact ih (h.insert tag (List.append_ne_nil_of_right_ne_nil _ (by simp)))

theorem NoneEmpty.foldl_join {members : Dict (List Candidate)} (h : NoneEmpty members)
    (cs : List Candidate) : NoneEmpty (cs.foldl (fun ms c => c.join ms) members) := by
  induction cs generalizing members with
  | nil => exact h
  | cons c cs ih => exact ih (h.join c)

theorem noneEmpty_collect (targets : List Target) : NoneEmpty (collect targets) := by
  have hempty : NoneEmpty ∅ := fun g cs h => by simp at h
  exact hempty.foldl_join (targets.flatMap Target.candidates)

theorem get?_collect_eq_some_iff {targets : List Target} {g : String} {cs : List Candidate} :
    (collect targets).get? g = some cs ↔ cs = membersOf targets g ∧ cs ≠ [] := by
  unfold membersOf
  cases h : (collect targets).get? g with
  | none => simp
  | some ds =>
    have hds := noneEmpty_collect targets g ds h
    simp only [Option.some.injEq, Option.getD_some]
    constructor
    · rintro rfl
      exact ⟨rfl, hds⟩
    · rintro ⟨rfl, -⟩
      rfl

end Collecting

section Groups

variable {settings : Settings} {targets : List Target}

/-- The listed groups are those that have members. -/
theorem mem_groups_iff {g : String} {cs : List Candidate} :
    (g, cs) ∈ groups settings targets ↔ cs = groupOf settings targets g ∧ cs ≠ [] := by
  simp only [groups, List.mem_map, Prod.exists, Prod.mk.injEq, Dict.mem_entries_iff,
    get?_collect_eq_some_iff, groupOf]
  constructor
  · rintro ⟨_, _, ⟨rfl, hne⟩, rfl, rfl⟩
    exact ⟨rfl, fun hnil => hne (by simpa using congrArg List.length hnil)⟩
  · rintro ⟨rfl, hne⟩
    refine ⟨g, _, ⟨rfl, fun hnil => hne ?_⟩, rfl, rfl⟩
    rw [hnil, List.mergeSort_nil]

theorem member_eq (t : Target) {k : SuiteKind} (s : Suite k) :
    t.member s = ⟨t.id, t.build.critical, k, s.board t.id.target, s.common⟩ := by
  obtain ⟨common, detail⟩ := s
  cases detail <;> rfl

/-- The fold over all suites collects each of them under each of its tags. -/
theorem membersOf_eq_taggedMembers (group : String) :
    membersOf targets group = taggedMembers targets group := by
  simp only [membersOf_eq, taggedMembers, Target.candidates, Target.candidatesOf,
    List.flatMap_assoc, List.flatMap_map, member_eq]

theorem mem_flatMap_candidates {c : Candidate} :
    c ∈ targets.flatMap Target.candidates ↔
      ∃ t ∈ targets, ∃ k, ∃ s ∈ t.suites k, t.member s = c := by
  simp [Target.candidates, Target.candidatesOf, SuiteKind.mem_all, member_eq]

theorem groupOf_ne_nil_iff (settings : Settings) (targets : List Target) (g : String) :
    groupOf settings targets g ≠ [] ↔
      ∃ t ∈ targets, ∃ k, ∃ s ∈ t.suites k, g ∈ s.common.groups := by
  constructor
  · intro hne
    obtain ⟨c, hc⟩ := List.exists_mem_of_ne_nil _ hne
    obtain ⟨hc, hg⟩ := mem_groupOf.1 hc
    obtain ⟨t, ht, k, s, hs, rfl⟩ := mem_flatMap_candidates.1 hc
    rw [member_eq] at hg
    exact ⟨t, ht, k, s, hs, hg⟩
  · rintro ⟨t, ht, k, s, hs, hg⟩
    have hc := mem_flatMap_candidates.2 ⟨t, ht, k, s, hs, rfl⟩
    exact List.ne_nil_of_mem (mem_groupOf.2 ⟨hc, by rwa [member_eq]⟩)

/-- Grouping sorts the suites under their tags, and does no more. -/
theorem groups_grouping (settings : Settings) (targets : List Target) :
    Grouping settings targets (groups settings targets) where
  ascending := (collect targets).ascending.map _ fun _ _ h => h
  named g := by
    rw [← groupOf_ne_nil_iff settings]
    simp only [mem_groups_iff, exists_eq_left]
  members g cs h := by
    obtain ⟨rfl, -⟩ := mem_groups_iff.1 h
    rw [← membersOf_eq_taggedMembers]
    exact List.mergeSort_perm _ _
  sorted g cs h := by
    obtain ⟨rfl, -⟩ := mem_groups_iff.1 h
    exact (pairwise_groupOf settings targets g).imp Ordering.ne_gt_iff_isLE.2

end Groups

end Presubmit
