import Presubmit.Decision.Request
import Presubmit.Proofs.Change.Edits
import Presubmit.Proofs.Pruning.Coverage
import Presubmit.Proofs.Skipping.Outcomes

/-! Answers and the paths behind them. Of the changes, an answer depends on the set of affected
paths alone, or on the failure to find any. -/
namespace Presubmit

/-- How the answers on two change sets are related, each under settings of its own, when the rest of
the request is the same. -/
structure AnswersRelated (R : (α : Type) → Except Failure α → Except Failure α → Prop)
    (s : Settings) (c : ChangeSet) (s' : Settings) (c' : ChangeSet) : Prop where
  verdict : ∀ builder irrelevance relevance,
    R Verdict (VerdictRequest.answer s ⟨builder, c, irrelevance, relevance⟩)
      (VerdictRequest.answer s' ⟨builder, c', irrelevance, relevance⟩)
  plan : ∀ restrictions requirements builds,
    R Plan (PlanRequest.answer s ⟨c, restrictions, requirements, builds⟩)
      (PlanRequest.answer s' ⟨c', restrictions, requirements, builds⟩)
  skipping : ∀ builders irrelevance,
    R Skipping (SkipRequest.answer s ⟨builders, c, irrelevance⟩)
      (SkipRequest.answer s' ⟨builders, c', irrelevance⟩)

/-- The same value or the same failure. -/
def SameAnswers : Settings → ChangeSet → Settings → ChangeSet → Prop :=
  AnswersRelated fun _ x y => x = y

/-- The same failure, or the same paths in whatever order and number. -/
inductive SamePaths : Except Failure (List String) → Except Failure (List String) → Prop where
  | failure (e : Failure) : SamePaths (.error e) (.error e)
  | paths {A B : List String} : (∀ a, a ∈ A ↔ a ∈ B) → SamePaths (.ok A) (.ok B)

theorem SamePaths.refl (x : Except Failure (List String)) : SamePaths x x := by
  cases x with
  | error e => exact .failure e
  | ok A => exact .paths fun _ => .rfl

variable {settings : Settings} {policy : UnmappedPolicy} {c c' : ChangeSet}

/-- Beyond the paths, the policy for changes without a root does not matter. -/
theorem SameAnswers.of_samePaths
    (h : SamePaths (c.affected settings.unmapped) (c'.affected policy)) :
    SameAnswers settings c { settings with unmapped := policy } c' := by
  generalize hx : c.affected settings.unmapped = x at h
  generalize hy : c'.affected policy = y at h
  constructor
  case verdict =>
    intro builder irrelevance relevance
    simp only [VerdictRequest.answer, hx, hy]
    cases IrrelevantFiles.ofPatterns irrelevance.patterns with
    | error e => rfl
    | ok f =>
      cases h with
      | failure e => rfl
      | paths h => exact congrArg Except.ok (Verdict.ofAffected_congr h)
  case plan =>
    intro restrictions requirements builds
    simp only [PlanRequest.answer, hx, hy]
    cases h with
    | failure e => rfl
    | @paths A B h =>
      show (Pruning.ofRules restrictions A >>= _) = (Pruning.ofRules restrictions B >>= _)
      rw [Pruning.ofRules_congr h]
      rfl
  case skipping =>
    intro builders irrelevance
    simp only [SkipRequest.answer, hx, hy]
    cases IrrelevantFiles.ofPatterns irrelevance.patterns with
    | error e => rfl
    | ok f =>
      cases h with
      | failure e => rfl
      | paths h => exact Skipping.ofBuilders_congr h builders f

/-- The same set of paths gets the same answers. So do change sets that edits lead from one to the
other, if the first resolves. -/
theorem sameAnswers_of_paths {paths : List String}
    (h : c.affected settings.unmapped = .ok paths) (c' : ChangeSet) :
    (∀ paths', c'.affected settings.unmapped = .ok paths' → (∀ a, a ∈ paths ↔ a ∈ paths') →
      SameAnswers settings c settings c') ∧
    (Relation.ReflTransGen ChangeSet.Edit c c' →
      ∃ paths', c'.affected settings.unmapped = .ok paths' ∧ (∀ a, a ∈ paths ↔ a ∈ paths') ∧
        SameAnswers settings c settings c') := by
  have hanswers : ∀ paths', c'.affected settings.unmapped = .ok paths' →
      (∀ a, a ∈ paths ↔ a ∈ paths') → SameAnswers settings c settings c' := by
    intro paths' h' hsame
    have hpaths : SamePaths (c.affected settings.unmapped) (c'.affected settings.unmapped) := by
      rw [h, h']
      exact .paths hsame
    exact .of_samePaths hpaths
  refine ⟨hanswers, fun hedits => ?_⟩
  obtain ⟨paths', h', hsame⟩ := ChangeSet.exists_affected_of_edits hedits h
  exact ⟨paths', h', hsame, hanswers paths' h' hsame⟩

namespace Sample

def parent : Patchset := ⟨"review", 1, 1⟩

def child : Patchset := ⟨"review", 2, 1⟩

/-- A patchset of `p` and one of `q`, both of which lie at `src`. -/
def stack (patchsets : List Patchset) (files files' : List String) : ChangeSet where
  patchsets := patchsets
  revisions := ⟨[⟨parent, "p", none, files⟩, ⟨child, "q", some "main", files'⟩]⟩
  roots := ((∅ : SourceRoots).setRoot "p" "src").setBranchRoot "q" "main" "src"

def moveUp : (stack [parent, child] ["a", "b"] ["c"]).Move
    (stack [parent, child] ["a"] ["b", "c"]).revisions where
  giver := parent
  taker := child
  giver_listed := by decide
  taker_listed := by decide
  giver_ne_taker := by decide
  source := ⟨parent, "p", none, ["a", "b"]⟩
  target := ⟨child, "q", some "main", ["c"]⟩
  giver_had := by decide
  taker_had := by decide
  root_eq := by decide
  file := "b"
  before := ["a"]
  after := []
  before' := []
  after' := ["c"]
  source_files := rfl
  target_files := rfl
  giver_has := by decide
  taker_has := by decide
  others p hparent hchild := by
    simp [stack, Revisions.get?, hparent.symm, hchild.symm]

theorem stack_edits : Relation.ReflTransGen ChangeSet.Edit
    (stack [parent, child] ["a", "b"] ["c"])
    (stack [child, parent, child] ["a"] ["b", "c"]) :=
  (Relation.ReflTransGen.single (.move _ moveUp)).tail
    (.patchsets [child, parent, child] (by simp [stack, or_comm]))

end Sample

open Sample in
/-- A file goes to the patchset above, and this is listed once more and first. -/
theorem sameAnswers_of_paths_stack :
    (stack [parent, child] ["a", "b"] ["c"]).affected .refuse = .ok ["src/a", "src/b", "src/c"] ∧
      (stack [child, parent, child] ["a"] ["b", "c"]).affected .refuse =
        .ok ["src/a", "src/b", "src/b", "src/c", "src/c"] ∧
      SameAnswers Settings.standard (stack [parent, child] ["a", "b"] ["c"])
        Settings.standard (stack [child, parent, child] ["a"] ["b", "c"]) ∧
      ∃ paths, (stack [child, parent, child] ["a"] ["b", "c"]).affected .refuse = .ok paths ∧
        ∀ a, a ∈ ["src/a", "src/b", "src/c"] ↔ a ∈ paths := by
  have h : (stack [parent, child] ["a", "b"] ["c"]).affected Settings.standard.unmapped =
      .ok ["src/a", "src/b", "src/c"] :=
    map_eq_ok_iff.2 ⟨[["src/a", "src/b"], ["src/c"]], by decide,
      List.mergeSort_of_pairwise (by decide)⟩
  have hsort : ChangeSet.sortPaths ["src/b", "src/c", "src/a", "src/b", "src/c"] =
      ["src/a", "src/b", "src/b", "src/c", "src/c"] := by
    simp [ChangeSet.sortPaths, List.mergeSort, List.MergeSort.Internal.splitInTwo]
  have h' : (stack [child, parent, child] ["a"] ["b", "c"]).affected Settings.standard.unmapped =
      .ok ["src/a", "src/b", "src/b", "src/c", "src/c"] :=
    map_eq_ok_iff.2 ⟨[["src/b", "src/c"], ["src/a"], ["src/b", "src/c"]], by decide, hsort⟩
  have hpaths := sameAnswers_of_paths h (stack [child, parent, child] ["a"] ["b", "c"])
  obtain ⟨paths, haffected, hsame, -⟩ := hpaths.2 stack_edits
  exact ⟨h, h', hpaths.1 _ h' (by simp), paths, haffected, hsame⟩

end Presubmit
