import Presubmit.Decision.Skipping
import Presubmit.Proofs.Sequence
import Presubmit.Proofs.Verdict.Files

/-! The outcomes of builders. The names of each outcome are those of the builders that get it, and
image builders are spared for the same files as a single run. -/
namespace Presubmit

namespace Builder

variable {spareImages : Bool} {affected : List String} {b : Builder}

theorem buildsImage_iff : b.buildsImage = true ↔ "IMAGE_ZIP" ∈ b.artifactTypes := by
  rw [buildsImage, List.contains_iff_mem, imageArtifact]

/-- Nothing else about the builder counts, and the paths do only through the first argument. -/
theorem outcome_eq_irrelevant_iff :
    b.outcome spareImages affected = .ok .irrelevant ↔
      spareImages = true ∧ "IMAGE_ZIP" ∈ b.artifactTypes := by
  rw [← buildsImage_iff, ← Bool.and_eq_true]
  unfold outcome
  split
  next h => simp [h]
  next h =>
    rw [iff_false_right h]
    split
    · intro hskipped
      obtain ⟨skipped, -, ho⟩ := map_eq_ok_iff.1 hskipped
      cases skipped <;> cases ho
    · exact fun ho => nomatch ho

end Builder

/-- Both paths to the decision look at the same files. Which files are relevant to a single builder
does not matter. -/
theorem sparesImages_iff_reason {affected : List String} {f : IrrelevantFiles}
    (relevance : Option (String → Bool)) :
    sparesImages affected f = true ↔
      (Verdict.ofAffected affected f relevance).reason = .knownNonBuild := by
  rw [Verdict.reason_eq_knownNonBuild_iff]
  simp [sparesImages, IrrelevantFiles.retain_eq_nil_iff]

section SamePaths

variable {affected affected' : List String}

theorem sparesImages_congr (h : ∀ a, a ∈ affected ↔ a ∈ affected') (f : IrrelevantFiles) :
    sparesImages affected f = sparesImages affected' f := by
  have hverdict : Verdict.ofAffected affected f none = Verdict.ofAffected affected' f none :=
    Verdict.ofAffected_congr h
  rw [Bool.eq_iff_iff, sparesImages_iff_reason none, sparesImages_iff_reason none, hverdict]

namespace Builder

theorem skippedByPatterns_congr (h : ∀ a, a ∈ affected ↔ a ∈ affected') (b : Builder) :
    b.skippedByPatterns affected = b.skippedByPatterns affected' := by
  have hrequiring : ∀ patterns,
      (requiring? patterns affected).isNone = (requiring? patterns affected').isNone := by
    intro patterns
    rw [Bool.eq_iff_iff]
    simp only [requiring?, Option.isNone_iff_eq_none, List.find?_eq_none, h]
  unfold skippedByPatterns
  simp only [hrequiring]

/-- Neither the order of the paths nor their repetition counts. -/
theorem outcome_congr (h : ∀ a, a ∈ affected ↔ a ∈ affected') (spareImages : Bool) (b : Builder) :
    b.outcome spareImages affected = b.outcome spareImages affected' := by
  have hempty : affected.isEmpty = affected'.isEmpty := by
    rw [Bool.eq_iff_iff]
    simp only [List.isEmpty_iff, List.eq_nil_iff_forall_not_mem, h]
  unfold outcome awaitsMatch
  rw [skippedByPatterns_congr h, hempty]

end Builder

theorem Skipping.ofBuilders_congr (h : ∀ a, a ∈ affected ↔ a ∈ affected')
    (builders : List Builder) (f : IrrelevantFiles) :
    ofBuilders builders affected f = ofBuilders builders affected' f := by
  unfold ofBuilders
  simp only [sparesImages_congr h, Builder.outcome_congr h]

end SamePaths

namespace Skipping

variable {spareImages : Bool} {affected : List String} {f : IrrelevantFiles}
  {builders : List Builder} {s : Skipping}

/-- The names of one outcome are those of the builders that get it, in their order. -/
theorem namesWith_eq_filter {decided : List (Builder × BuilderOutcome)}
    (h : (builders.mapM fun (b : Builder) =>
      (b.outcome spareImages affected).map fun o => (b, o)) = .ok decided) (o : BuilderOutcome) :
    namesWith o decided =
      (builders.filter fun b => b.outcome spareImages affected = .ok o).map Builder.name := by
  have hf := mapM_eq_ok_iff.1 h
  clear h
  induction hf with
  | nil => rfl
  | @cons b d builders decided hb _ ih =>
    obtain ⟨outcome, houtcome, rfl⟩ := map_eq_ok_iff.1 hb
    unfold namesWith at ih ⊢
    rw [List.filter_cons, List.filter_cons, houtcome]
    by_cases ho : outcome = o <;> simp [ho, ih]

theorem irrelevant_eq_filter (h : ofBuilders builders affected f = .ok s) :
    s.irrelevant = if sparesImages affected f then
      (builders.filter fun b => "IMAGE_ZIP" ∈ b.artifactTypes).map Builder.name else [] := by
  obtain ⟨decided, hdecided, rfl⟩ := map_eq_ok_iff.1 h
  have hnames := namesWith_eq_filter hdecided .irrelevant
  simp only [Builder.outcome_eq_irrelevant_iff] at hnames
  rw [ofOutcomes, hnames]
  cases sparesImages affected f <;> simp

end Skipping

end Presubmit
