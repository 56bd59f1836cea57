import Presubmit.Decision.Request
import Presubmit.Proofs.Skipping.Outcomes

/-! The stages of answering a request, and what requests on the same changes have in common. -/
namespace Presubmit

namespace VerdictRequest

variable {settings : Settings} {r : VerdictRequest}

theorem answer_eq_ok_iff {v : Verdict} :
    r.answer settings = .ok v ↔
      ∃ f, IrrelevantFiles.ofPatterns r.irrelevance.patterns = .ok f ∧
        ∃ affected, r.changes.affected settings.unmapped = .ok affected ∧
          r.verdict settings f affected = v := by
  simp only [answer, bind_eq_ok_iff, Except.ok.injEq]

/-- Only the patterns and the changes can fail, in this order. -/
theorem answer_eq_error_iff {e : Failure} :
    r.answer settings = .error e ↔
      IrrelevantFiles.ofPatterns r.irrelevance.patterns = .error e ∨
      ∃ f, IrrelevantFiles.ofPatterns r.irrelevance.patterns = .ok f ∧
        r.changes.affected settings.unmapped = .error e := by
  simp [answer, bind_eq_error_iff]

end VerdictRequest

namespace PlanRequest

variable {settings : Settings} {r : PlanRequest}

theorem answer_eq_ok_iff {plan : Plan} :
    r.answer settings = .ok plan ↔
      ∃ affected, r.changes.affected settings.unmapped = .ok affected ∧
        ∃ p, Pruning.ofRules r.restrictions affected = .ok p ∧
          Plan.assemble settings r.requirements r.builds p = .ok plan := by
  simp only [answer, bind_eq_ok_iff]

/-- The changes are resolved first, and the plan is assembled last. -/
theorem answer_eq_error_iff {e : Failure} :
    r.answer settings = .error e ↔
      r.changes.affected settings.unmapped = .error e ∨
      ∃ affected, r.changes.affected settings.unmapped = .ok affected ∧
        (Pruning.ofRules r.restrictions affected = .error e ∨
          ∃ p, Pruning.ofRules r.restrictions affected = .ok p ∧
            Plan.assemble settings r.requirements r.builds p = .error e) := by
  simp only [answer, bind_eq_error_iff]

end PlanRequest

namespace SkipRequest

variable {settings : Settings} {r : SkipRequest}

theorem answer_eq_ok_iff {s : Skipping} :
    r.answer settings = .ok s ↔
      ∃ f, IrrelevantFiles.ofPatterns r.irrelevance.patterns = .ok f ∧
        ∃ affected, r.changes.affected settings.unmapped = .ok affected ∧
          Skipping.ofBuilders r.builders affected f = .ok s := by
  simp only [answer, bind_eq_ok_iff]

/-- The builders are asked last. -/
theorem answer_eq_error_iff {e : Failure} :
    r.answer settings = .error e ↔
      IrrelevantFiles.ofPatterns r.irrelevance.patterns = .error e ∨
      ∃ f, IrrelevantFiles.ofPatterns r.irrelevance.patterns = .ok f ∧
        (r.changes.affected settings.unmapped = .error e ∨
          ∃ affected, r.changes.affected settings.unmapped = .ok affected ∧
            Skipping.ofBuilders r.builders affected f = .error e) := by
  simp only [answer, bind_eq_error_iff]

/-- Skipping image builders agrees with the verdict on a single run of the same changes, which fails
no more often. The image builders are skipped, in their order, exactly if the reason is that all
files are irrelevant to builds, which is so if there are any and the patterns rule them all out. -/
theorem irrelevant_eq_images (settings : Settings) (changes : ChangeSet)
    (irrelevance : IrrelevanceRules) (relevance : Option RelevanceRules) (builder : String)
    (builders : List Builder) :
    (∀ e, VerdictRequest.answer settings ⟨builder, changes, irrelevance, relevance⟩ = .error e →
      answer settings ⟨builders, changes, irrelevance⟩ = .error e) ∧
    ∀ v s, VerdictRequest.answer settings ⟨builder, changes, irrelevance, relevance⟩ = .ok v →
      answer settings ⟨builders, changes, irrelevance⟩ = .ok s →
        (s.irrelevant = if v.reason = .knownNonBuild then
          (builders.filter fun b => "IMAGE_ZIP" ∈ b.artifactTypes).map Builder.name else []) ∧
        ∃ f affected, IrrelevantFiles.ofPatterns irrelevance.patterns = .ok f ∧
          changes.affected settings.unmapped = .ok affected ∧
          (v.reason = .knownNonBuild ↔ affected ≠ [] ∧ ∀ a ∈ affected, f.rulesOut a = true) := by
  constructor
  · intro e he
    rcases VerdictRequest.answer_eq_error_iff.1 he with hpatterns | ⟨f, hf, hchanges⟩
    · exact answer_eq_error_iff.2 (.inl hpatterns)
    · exact answer_eq_error_iff.2 (.inr ⟨f, hf, .inl hchanges⟩)
  · intro v s hv hs
    obtain ⟨f, hf, affected, haffected, rfl⟩ := VerdictRequest.answer_eq_ok_iff.1 hv
    obtain ⟨f', hf', affected', haffected', hskipping⟩ := answer_eq_ok_iff.1 hs
    obtain rfl : f = f' := Except.ok.inj (hf.symm.trans hf')
    obtain rfl : affected = affected' := Except.ok.inj (haffected.symm.trans haffected')
    refine ⟨?_, f, affected, hf, haffected, Verdict.reason_eq_knownNonBuild_iff⟩
    rw [Skipping.irrelevant_eq_filter hskipping]
    exact if_congr (sparesImages_iff_reason _) rfl rfl

end SkipRequest

namespace Sample

def patchset : Patchset := ⟨"review", 7, 1⟩

/-- One patchset of the project `p`, which lies at `src`. -/
def changes (files : List String) : ChangeSet where
  patchsets := [patchset]
  revisions := ⟨[⟨patchset, "p", none, files⟩]⟩
  roots := (∅ : SourceRoots).setRoot "p" "src"

def builder (name : String) (types : List String) (mode : RunMode) : Builder :=
  ⟨name, types, ⟨mode, ["src/lib/**"]⟩⟩

end Sample

open Sample in
/-- The image builders are skipped whatever their run condition, and the other one for its own. -/
theorem irrelevant_eq_images_docs :
    VerdictRequest.answer Settings.standard
        ⟨"eve-cq", changes ["a.md", "b.md"], ⟨["**/*.md"]⟩, some (.paths ["src"])⟩ =
      .ok (.because .knownNonBuild) ∧
    ∃ s, SkipRequest.answer Settings.standard
        ⟨[builder "x" ["IMAGE_ZIP"] .always, builder "y" [] .onMatch,
          builder "z" ["IMAGE_ZIP"] .onMatch], changes ["a.md", "b.md"], ⟨["**/*.md"]⟩⟩ = .ok s ∧
      s.unmatched = ["y"] ∧ s.irrelevant = ["x", "z"] := by
  have haffected : (changes ["a.md", "b.md"]).affected Settings.standard.unmapped =
      .ok ["src/a.md", "src/b.md"] :=
    map_eq_ok_iff.2 ⟨[["src/a.md", "src/b.md"]], by decide, List.mergeSort_of_pairwise (by decide)⟩
  have hverdict : VerdictRequest.answer Settings.standard
      ⟨"eve-cq", changes ["a.md", "b.md"], ⟨["**/*.md"]⟩, some (.paths ["src"])⟩ =
        .ok (.because .knownNonBuild) :=
    VerdictRequest.answer_eq_ok_iff.2 ⟨_, rfl, _, haffected, by decide⟩
  have hskipping : SkipRequest.answer Settings.standard
      ⟨[builder "x" ["IMAGE_ZIP"] .always, builder "y" [] .onMatch,
        builder "z" ["IMAGE_ZIP"] .onMatch], changes ["a.md", "b.md"], ⟨["**/*.md"]⟩⟩ =
        .ok ⟨[], ["x", "z"], ["y"]⟩ :=
    SkipRequest.answer_eq_ok_iff.2 ⟨_, rfl, _, haffected, by decide⟩
  exact ⟨hverdict, _, hskipping, rfl,
    ((SkipRequest.irrelevant_eq_images _ _ _ _ _ _).2 _ _ hverdict hskipping).1⟩

end Presubmit
