import Presubmit.Proofs.Plan.Contents

/-! Builds and requirements that a plan does not see. Of the builds only those count that could
stand for a target, and of their order only the one among builds of the same target. -/
namespace Presubmit

/-- The record names its target, and it is a successful build with something to test. -/
structure Build.Usable (settings : Settings) (b : Build) : Prop where
  target : ∃ t, b.target = some t ∧ t ≠ ""
  needed : b.pointless = false
  artifact : ∃ a, b.artifacts = some a ∧
    ∃ t ∈ settings.testArtifacts, ∃ files, (t, files) ∈ a.files.entries
  success : b.status = .success

theorem Build.usable_iff {settings : Settings} {b : Build} :
    b.Usable settings ↔ b.testable settings.testArtifacts = true ∧ b.status = .success := by
  simp only [Build.testable, Build.hasTarget, Bool.and_eq_true, Bool.not_eq_true',
    Criteria.hasArtifact_iff, Option.any_eq_true, decide_eq_true_eq]
  constructor
  · intro h
    exact ⟨⟨⟨h.target, h.needed⟩, h.artifact⟩, h.success⟩
  · rintro ⟨⟨⟨htarget, hneeded⟩, hartifact⟩, hsuccess⟩
    exact ⟨htarget, hneeded, hartifact, hsuccess⟩

instance (settings : Settings) (b : Build) : Decidable (b.Usable settings) :=
  decidable_of_iff _ Build.usable_iff.symm

/-- The records of each target are the same, in the same order. -/
def Build.SameByTarget (builds builds' : List Build) : Prop :=
  ∀ t : String, builds.filter (fun b => b.target = some t) =
    builds'.filter fun b => b.target = some t

theorem Build.SameByTarget.swap (before after : List Build) {a b : Build}
    (h : a.target ≠ b.target) :
    SameByTarget (before ++ a :: b :: after) (before ++ b :: a :: after) := by
  intro t
  rw [List.filter_append, List.filter_append]
  congr 1
  by_cases ha : a.target = some t
  · have hb : b.target ≠ some t := fun hb => h (ha.trans hb.symm)
    simp [ha, hb]
  · simp [List.filter_cons, ha]

namespace Criteria

variable {settings : Settings} {c : Criteria} {b : Build}

theorem Accepts.usable (h : c.Accepts settings b) : b.Usable settings where
  target := ⟨c.target, h.target, h.named⟩
  needed := h.needed
  artifact := h.artifact
  success := h.success

/-- Records that the criteria refuse may be left out. -/
theorem find?_filter_of_accepts {keep : Build → Bool}
    (h : ∀ b, c.Accepts settings b → keep b = true) (builds : List Build) :
    (builds.filter keep).find? (fun b => c.Accepts settings b) =
      builds.find? fun b => c.Accepts settings b := by
  rw [List.find?_filter]
  congr 1
  funext b
  simp only [decide_eq_decide, decide_eq_true_iff]
  exact ⟨And.right, fun hb => ⟨h b hb, hb⟩⟩

end Criteria

namespace Plan

/-- The suites that are elected for the oneof-groups. -/
def heads (settings : Settings) (p : Pruning) (builds : List Build) (rs : List Requirement) :
    Except Failure (List SuiteId) :=
  (targets settings p builds rs).map fun ts => (choice settings p ts).groupHeads

/-- The same plan or the same failure, by the same choice of suites for the oneof-groups. -/
structure Agrees (settings : Settings) (p : Pruning) (rs : List Requirement) (builds : List Build)
    (rs' : List Requirement) (builds' : List Build) : Prop where
  heads : Plan.heads settings p builds rs = Plan.heads settings p builds' rs'
  plan : assemble settings rs builds p = assemble settings rs' builds' p

variable {settings : Settings} {p : Pruning} {rs rs' : List Requirement}
  {builds builds' : List Build}

theorem Agrees.of_targets
    (h : targets settings p builds rs = targets settings p builds' rs') :
    Agrees settings p rs builds rs' builds' := by
  constructor
  case heads => unfold Plan.heads; rw [h]
  case plan => unfold assemble; rw [h]

/-- Of the records, only the first one that criteria accept counts. -/
theorem Agrees.of_find?
    (h : ∀ c : Criteria, builds.find? (fun b => c.Accepts settings b) =
      builds'.find? fun b => c.Accepts settings b) (rs : List Requirement) :
    Agrees settings p rs builds rs builds' := by
  have htarget : ∀ (r : Requirement) (i : Nat),
      Requirement.target settings p (builds.filter (Build.testable settings.testArtifacts)) i r =
        Requirement.target settings p (builds'.filter (Build.testable settings.testArtifacts)) i r
      := by
    intro r i
    unfold Requirement.target
    cases r.target? with
    | none => rfl
    | some c => simp only [Criteria.select?_filter_testable, h]
  apply Agrees.of_targets
  unfold targets
  simp only [htarget]

/-- Requirements that choose no build have no target. -/
theorem filterMap_placed?_filter (settings : Settings) (builds : List Build) (p : Pruning)
    (rs : List Requirement) :
    (rs.filter fun r => (r.chosen? settings builds).isSome).filterMap
        (Requirement.placed? settings builds p) =
      rs.filterMap (Requirement.placed? settings builds p) := by
  rw [List.filterMap_filter]
  congr 1
  funext r
  cases h : r.chosen? settings builds <;> simp [Requirement.placed?, h]

theorem targets_filter_chosen? (h : ∀ r ∈ rs, r.Valid) :
    targets settings p builds rs =
      targets settings p builds (rs.filter fun r => (r.chosen? settings builds).isSome) := by
  have hleft : ∀ r ∈ rs.filter (fun r => (r.chosen? settings builds).isSome), r.Valid := by
    intro r hr
    exact h r (List.mem_of_mem_filter hr)
  rw [targets_eq_ok_iff.2 ⟨h, rfl⟩, eq_comm, targets_eq_ok_iff]
  exact ⟨hleft, (filterMap_placed?_filter settings builds p rs).symm⟩

/-- A plan stays the same, and so do the suites that stand for the oneof-groups, if the builds that
are of no use are left out, if the builds of different targets change places, and, where every
requirement names a target, if those that choose no build are left out. -/
theorem agrees_without_unusable (settings : Settings) (p : Pruning) (rs : List Requirement)
    (builds : List Build) :
    Agrees settings p rs builds rs (builds.filter fun b => b.Usable settings) ∧
    (∀ builds', Build.SameByTarget builds builds' → Agrees settings p rs builds rs builds') ∧
    ((∀ r ∈ rs, r.Valid) →
      Agrees settings p rs builds (rs.filter fun r => (r.chosen? settings builds).isSome) builds ∧
      ∃ plan, assemble settings rs builds p = .ok plan) := by
  refine ⟨?_, ?_, ?_⟩
  · apply Agrees.of_find?
    intro c
    symm
    apply Criteria.find?_filter_of_accepts
    intro b hb
    exact decide_eq_true hb.usable
  · intro builds' hbuilds
    apply Agrees.of_find?
    intro c
    have htarget : ∀ b, c.Accepts settings b → decide (b.target = some c.target) = true := by
      intro b hb
      exact decide_eq_true hb.target
    rw [← Criteria.find?_filter_of_accepts htarget builds, hbuilds,
      Criteria.find?_filter_of_accepts htarget builds']
  · intro h
    exact ⟨.of_targets (targets_filter_chosen? h), _, assemble_eq_ok_iff.2 ⟨h, rfl⟩⟩

end Plan

namespace Sample

def failed (target builder : String) : Build :=
  { build target builder with status := .failure }

def virtualOnCoral : List Requirement :=
  [requirement "eve" [hw "b" ["tast"]], allKinds "coral" [] [vm "a" ["tast"]] [] []]

end Sample

open Sample in
/-- A virtual machine comes before hardware, but not if its build failed. -/
theorem agrees_without_unusable_failed :
    Plan.Agrees Settings.standard (oneof "tast")
      virtualOnCoral [build "eve" "eve-cq", failed "coral" "coral-cq"]
      virtualOnCoral [failed "coral" "coral-cq", build "eve" "eve-cq"] ∧
    Plan.Agrees Settings.standard (oneof "tast")
      virtualOnCoral [build "eve" "eve-cq", failed "coral" "coral-cq"]
      [requirement "eve" [hw "b" ["tast"]]] [build "eve" "eve-cq", failed "coral" "coral-cq"] ∧
    Plan.assemble Settings.standard virtualOnCoral
        [build "eve" "eve-cq", failed "coral" "coral-cq"] (oneof "tast") =
      .ok ⟨[⟨source "eve" "eve-cq", [settled true (hw "b" ["tast"])]⟩], [], [], []⟩ := by
  have hswap : Build.SameByTarget [build "eve" "eve-cq", failed "coral" "coral-cq"]
      [failed "coral" "coral-cq", build "eve" "eve-cq"] := .swap [] [] (by decide)
  have hvalid : ∀ r ∈ virtualOnCoral, r.Valid := by decide
  exact ⟨(Plan.agrees_without_unusable _ _ _ _).2.1 _ hswap,
    ((Plan.agrees_without_unusable _ _ _ _).2.2 hvalid).1,
    assemble_eq_ok_iff.2 ⟨hvalid, by decide⟩⟩

end Presubmit
