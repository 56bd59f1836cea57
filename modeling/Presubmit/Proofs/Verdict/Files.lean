import Presubmit.Decision.Verdict
import Presubmit.Path.Containment

/-! The verdict on a run, decided file by file. The two stages that set files aside come to one
condition on each file, and only the reason depends on the stage. -/
namespace Presubmit

namespace IrrelevantFiles

theorem retain_eq_nil_iff {f : IrrelevantFiles} {paths : List String} :
    f.retain paths = [] ↔ ∀ a ∈ paths, f.rulesOut a = true := by
  rw [retain, List.filter_eq_nil_iff]
  refine forall₂_congr fun a _ => ?_
  simp

end IrrelevantFiles

namespace Verdict

/-- The file asks for no build: it is irrelevant to all builds, or not relevant to this one. -/
def Spares (f : IrrelevantFiles) (relevance : Option (String → Bool)) (path : String) : Prop :=
  f.rulesOut path = true ∨ ∃ r, relevance = some r ∧ r path = false

instance (f : IrrelevantFiles) (relevance : Option (String → Bool)) (path : String) :
    Decidable (Spares f relevance path) :=
  match relevance with
  | none => decidable_of_iff (f.rulesOut path = true) (by simp [Spares])
  | some r => decidable_of_iff (f.rulesOut path = true ∨ r path = false) (by simp [Spares])

variable {affected : List String} {f : IrrelevantFiles} {relevance : Option (String → Bool)}

theorem spares_none {path : String} : Spares f none path ↔ f.rulesOut path = true := by
  simp [Spares]

theorem filter_retain_eq_nil_iff {r : String → Bool} :
    (f.retain affected).filter r = [] ↔ ∀ a ∈ affected, Spares f (some r) a := by
  rw [IrrelevantFiles.retain, List.filter_filter, List.filter_eq_nil_iff]
  refine forall₂_congr fun a _ => ?_
  cases h : f.rulesOut a <;> simp [Spares, h]

/-- Both stages as one look at each file. -/
theorem ofAffected_eq (affected : List String) (f : IrrelevantFiles)
    (relevance : Option (String → Bool)) :
    ofAffected affected f relevance =
      if affected ≠ [] ∧ ∀ a ∈ affected, Spares f relevance a then
        if ∀ a ∈ affected, f.rulesOut a = true then because .knownNonBuild
        else because .dependencyGraph
      else necessary := by
  unfold ofAffected
  by_cases hnil : affected = []
  · simp [hnil]
  have hempty : affected.isEmpty = false := by simpa using hnil
  rw [hempty, if_neg Bool.false_ne_true]
  by_cases hknown : ∀ a ∈ affected, f.rulesOut a = true
  · have hspares : ∀ a ∈ affected, Spares f relevance a := fun a ha => .inl (hknown a ha)
    have hretain : f.retain affected = [] := IrrelevantFiles.retain_eq_nil_iff.2 hknown
    rw [hretain, if_pos (And.intro hnil hspares), if_pos hknown]
    rfl
  · have hretain : f.retain affected ≠ [] := fun h =>
      hknown (IrrelevantFiles.retain_eq_nil_iff.1 h)
    rw [if_neg hknown]
    cases relevance with
    | none => simp [hnil, hknown, hretain, spares_none]
    | some r => simp [hnil, hretain, ← filter_retain_eq_nil_iff]

/-- Only the set of paths counts. -/
theorem ofAffected_congr {affected affected' : List String}
    (h : ∀ a, a ∈ affected ↔ a ∈ affected') :
    ofAffected affected f relevance = ofAffected affected' f relevance := by
  have hnil : affected = [] ↔ affected' = [] := by
    simp only [List.eq_nil_iff_forall_not_mem, h]
  simp only [ofAffected_eq, h, hnil, ne_eq]

/-- The verdict on a list of files, from the verdict on each of them alone. -/
structure Combines (v : Verdict) (alone : List Verdict) : Prop where
  pointless : v.pointless = true ↔ alone ≠ [] ∧ ∀ w ∈ alone, w.pointless = true
  reason : v.pointless = true →
    v.reason = if ∀ w ∈ alone, w.reason = .knownNonBuild then .knownNonBuild else .dependencyGraph
  necessary : v.pointless = false → v.reason = .none

theorem pointless_iff : (ofAffected affected f relevance).pointless = true ↔
    affected ≠ [] ∧ ∀ a ∈ affected, Spares f relevance a := by
  rw [ofAffected_eq]
  split
  next h =>
    rw [iff_true_right h]
    split <;> rfl
  next h => simp [Verdict.necessary, h]

theorem reason_eq_knownNonBuild_iff : (ofAffected affected f relevance).reason = .knownNonBuild ↔
    affected ≠ [] ∧ ∀ a ∈ affected, f.rulesOut a = true := by
  rw [ofAffected_eq]
  split
  next h => split <;> simp_all [because]
  next h =>
    have hspares : (∀ a ∈ affected, f.rulesOut a = true) → ∀ a ∈ affected, Spares f relevance a :=
      fun hknown a ha => .inl (hknown a ha)
    simp only [Verdict.necessary, reduceCtorEq, false_iff]
    exact fun hknown => h ⟨hknown.1, hspares hknown.2⟩

theorem reason_of_pointless (h : (ofAffected affected f relevance).pointless = true) :
    (ofAffected affected f relevance).reason =
      if ∀ a ∈ affected, f.rulesOut a = true then .knownNonBuild else .dependencyGraph := by
  rw [ofAffected_eq, if_pos (pointless_iff.1 h)]
  split <;> rfl

theorem reason_of_necessary (h : (ofAffected affected f relevance).pointless = false) :
    (ofAffected affected f relevance).reason = .none := by
  have hnot : ¬ (affected ≠ [] ∧ ∀ a ∈ affected, Spares f relevance a) := fun hspares => by
    simp [pointless_iff.2 hspares] at h
  rw [ofAffected_eq, if_neg hnot]
  rfl

/-- The verdict is decided file by file, and a file alone by what makes it irrelevant. As soon as
there is a file, more files never make a necessary run pointless. -/
theorem ofAffected_combines (affected : List String) (f : IrrelevantFiles)
    (relevance : Option (String → Bool)) :
    (∀ a, ((ofAffected [a] f relevance).pointless = true ↔ Spares f relevance a) ∧
      ((ofAffected [a] f relevance).reason = .knownNonBuild ↔ f.rulesOut a = true)) ∧
    (ofAffected affected f relevance).Combines
      (affected.map fun a => ofAffected [a] f relevance) ∧
    ∀ more, affected ≠ [] → affected ⊆ more →
      (ofAffected affected f relevance).pointless = false →
        (ofAffected more f relevance).pointless = false := by
  have halone : ∀ a, (ofAffected [a] f relevance).pointless = true ↔ Spares f relevance a :=
    fun a => by simp [pointless_iff]
  have hknown : ∀ a, (ofAffected [a] f relevance).reason = .knownNonBuild ↔ f.rulesOut a = true :=
    fun a => by simp [reason_eq_knownNonBuild_iff]
  refine ⟨fun a => ⟨halone a, hknown a⟩, ⟨?_, fun h => ?_, reason_of_necessary⟩,
    fun more hne hsub hnecessary => ?_⟩
  · simp only [pointless_iff, ne_eq, List.map_eq_nil_iff, List.forall_mem_map, halone]
  · simp only [reason_of_pointless h, List.forall_mem_map, hknown]
  · rw [← Bool.not_eq_true, pointless_iff] at hnecessary ⊢
    intro hmore
    exact hnecessary ⟨hne, fun a ha => hmore.2 a (hsub ha)⟩

/-- A document and a file that is not relevant are two reasons, and a relevant file is none. -/
theorem ofAffected_combines_docs_lib :
    ∃ f, IrrelevantFiles.ofPatterns ["**/*.md"] = .ok f ∧
      (ofAffected ["docs/a.md", "lib/b"] f (some (Path.isUnder · "src"))).Combines
        [because .knownNonBuild, because .dependencyGraph] ∧
      (ofAffected ["src/c"] f (some (Path.isUnder · "src"))).pointless = false ∧
      (ofAffected ["lib/b", "src/c", "docs/a.md", "src/c"] f
        (some (Path.isUnder · "src"))).pointless = false := by
  refine ⟨_, rfl, ?_, by decide, ?_⟩
  · exact (ofAffected_combines ["docs/a.md", "lib/b"] _ _).2.1
  · exact (ofAffected_combines ["src/c"] _ _).2.2 _ (by decide) (by decide) (by decide)

end Verdict

end Presubmit
