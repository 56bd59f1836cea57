import Presubmit.Proofs.Request.Answers
import Presubmit.Proofs.Request.SamePaths

/-! Changes without a source root. To skip them is to refuse them in a change set that does not list
them. -/
namespace Presubmit

namespace ChangeSet

/-- The revision of the patchset is known, and its project or branch has no root. -/
def Unmapped (c : ChangeSet) (p : Patchset) : Prop :=
  ∃ r, c.revisions.get? p = some r ∧ c.root? r = none

instance (c : ChangeSet) (p : Patchset) : Decidable (c.Unmapped p) :=
  decidable_of_iff ((c.revisions.get? p).any (fun r => (c.root? r).isNone) = true) (by
    unfold Unmapped
    cases c.revisions.get? p <;> simp)

def withoutUnmapped (c : ChangeSet) : ChangeSet :=
  { c with patchsets := c.patchsets.filter fun p => ¬ c.Unmapped p }

variable {c : ChangeSet} {p : Patchset} {paths : List String}

theorem filesOf_skip_of_unmapped (h : c.Unmapped p) : c.filesOf .skip p = .ok [] := by
  obtain ⟨r, hrevision, hroot⟩ := h
  simp [filesOf, hrevision, hroot]

/-- Only for unmapped patchsets does the policy count. -/
theorem filesOf_skip_of_not_unmapped (h : ¬ c.Unmapped p) :
    c.filesOf .skip p = c.filesOf .refuse p := by
  unfold filesOf
  cases hrevision : c.revisions.get? p with
  | none => rfl
  | some r =>
    cases hroot : c.root? r with
    | some root => simp only [hroot]
    | none => exact absurd ⟨r, hrevision, hroot⟩ h

theorem affected_skip (c : ChangeSet) :
    c.affected .skip = c.withoutUnmapped.affected .refuse := by
  have hsort : ∀ files : Except Failure (List (List String)),
      files.map (fun files => sortPaths files.flatten) =
        (files.map List.flatten).map sortPaths := by
    intro files
    cases files <;> rfl
  have hfiles : (c.patchsets.mapM (c.filesOf .skip)).map List.flatten =
      (c.withoutUnmapped.patchsets.mapM (c.filesOf .refuse)).map List.flatten := by
    apply flatten_mapM_filter
    · intro p hp
      exact filesOf_skip_of_not_unmapped (by simpa using hp)
    · intro p hp
      exact filesOf_skip_of_unmapped (by simpa using hp)
  unfold affected
  rw [hsort, hsort, hfiles]
  rfl

/-- Where changes without a root are refused and none is found, there is none to skip. -/
theorem affected_skip_of_refuse (h : c.affected .refuse = .ok paths) :
    c.affected .skip = .ok paths := by
  have hmapped : ∀ p ∈ c.patchsets, ¬ c.Unmapped p := by
    intro p hp hunmapped
    obtain ⟨r, hr, hroot⟩ := hunmapped
    obtain ⟨s, hs, hskip | ⟨root, hroot'⟩⟩ := exists_affected_iff.1 ⟨paths, h⟩ p hp
    · cases hskip
    · cases hr.symm.trans hs
      cases hroot.symm.trans hroot'
  have hall : c.withoutUnmapped = c := by
    unfold withoutUnmapped
    rw [List.filter_eq_self.2 (by simpa using hmapped)]
  rw [affected_skip, hall, h]

/-- No policy helps where a revision is missing. -/
theorem exists_affected_eq_error (hp : p ∈ c.patchsets) (hunknown : c.revisions.get? p = none)
    (policy : UnmappedPolicy) : ∃ e, c.affected policy = .error e := by
  by_contra hnone
  have hresolves := exists_affected_iff.1 (exists_eq_ok_iff.2 fun e he => hnone ⟨e, he⟩) p hp
  obtain ⟨r, hr, -⟩ := hresolves
  cases hunknown.symm.trans hr

end ChangeSet

section Failing

variable {settings : Settings} {e : Failure}

theorem VerdictRequest.exists_failure {r : VerdictRequest}
    (h : r.changes.affected settings.unmapped = .error e) : ∃ d, r.answer settings = .error d := by
  cases hf : IrrelevantFiles.ofPatterns r.irrelevance.patterns with
  | error d => exact ⟨d, answer_eq_error_iff.2 (.inl hf)⟩
  | ok f => exact ⟨e, answer_eq_error_iff.2 (.inr ⟨f, hf, h⟩)⟩

theorem PlanRequest.exists_failure {r : PlanRequest}
    (h : r.changes.affected settings.unmapped = .error e) : ∃ d, r.answer settings = .error d :=
  ⟨e, answer_eq_error_iff.2 (.inl h)⟩

theorem SkipRequest.exists_failure {r : SkipRequest}
    (h : r.changes.affected settings.unmapped = .error e) : ∃ d, r.answer settings = .error d := by
  cases hf : IrrelevantFiles.ofPatterns r.irrelevance.patterns with
  | error d => exact ⟨d, answer_eq_error_iff.2 (.inl hf)⟩
  | ok f => exact ⟨e, answer_eq_error_iff.2 (.inr ⟨f, hf, .inl h⟩)⟩

end Failing

variable (settings : Settings) (c : ChangeSet)

/-- What is answered where changes without a root are refused is answered where they are skipped. -/
theorem answers_kept_by_skip :
    AnswersRelated (fun _ x y => ∀ v, x = .ok v → y = .ok v)
      { settings with unmapped := .refuse } c { settings with unmapped := .skip } c := by
  constructor
  case verdict =>
    intro builder irrelevance relevance v hv
    obtain ⟨f, hf, affected, haffected, hverdict⟩ := VerdictRequest.answer_eq_ok_iff.1 hv
    exact VerdictRequest.answer_eq_ok_iff.2
      ⟨f, hf, affected, ChangeSet.affected_skip_of_refuse haffected, hverdict⟩
  case plan =>
    intro restrictions requirements builds plan hplan
    obtain ⟨affected, haffected, p, hp, hassemble⟩ := PlanRequest.answer_eq_ok_iff.1 hplan
    exact PlanRequest.answer_eq_ok_iff.2
      ⟨affected, ChangeSet.affected_skip_of_refuse haffected, p, hp, hassemble⟩
  case skipping =>
    intro builders irrelevance s hs
    obtain ⟨f, hf, affected, haffected, hskipping⟩ := SkipRequest.answer_eq_ok_iff.1 hs
    exact SkipRequest.answer_eq_ok_iff.2
      ⟨f, hf, affected, ChangeSet.affected_skip_of_refuse haffected, hskipping⟩

/-- Skipping changes without a root gives every request the answer that it gets without them where
they are refused, value or failure. It keeps every value, and it does not mend an unknown
revision. -/
theorem answers_skip_eq_refuse :
    SameAnswers { settings with unmapped := .skip } c
      { settings with unmapped := .refuse } c.withoutUnmapped ∧
    AnswersRelated (fun _ x y => ∀ v, x = .ok v → y = .ok v)
      { settings with unmapped := .refuse } c { settings with unmapped := .skip } c ∧
    ((∃ p ∈ c.patchsets, c.revisions.get? p = none) →
      AnswersRelated (fun _ x y => (∃ e, x = .error e) ∧ ∃ e, y = .error e)
        { settings with unmapped := .refuse } c { settings with unmapped := .skip } c) := by
  let lenient : Settings := { settings with unmapped := .skip }
  refine ⟨?_, answers_kept_by_skip settings c, ?_⟩
  · have hpaths : SamePaths (c.affected lenient.unmapped) (c.withoutUnmapped.affected .refuse) := by
      rw [ChangeSet.affected_skip]
      exact .refl _
    exact SameAnswers.of_samePaths hpaths
  · intro hmissing
    obtain ⟨p, hp, hunknown⟩ := hmissing
    obtain ⟨e, he⟩ := ChangeSet.exists_affected_eq_error hp hunknown .refuse
    obtain ⟨e', he'⟩ := ChangeSet.exists_affected_eq_error hp hunknown .skip
    constructor
    case verdict =>
      intro builder irrelevance relevance
      exact ⟨VerdictRequest.exists_failure he, VerdictRequest.exists_failure he'⟩
    case plan =>
      intro restrictions requirements builds
      exact ⟨PlanRequest.exists_failure he, PlanRequest.exists_failure he'⟩
    case skipping =>
      intro builders irrelevance
      exact ⟨SkipRequest.exists_failure he, SkipRequest.exists_failure he'⟩

namespace Sample

def stray : Patchset := ⟨"review", 3, 1⟩

/-- The branch of the second patchset has no root, and the third one has no revision. -/
def partlyMapped (patchsets : List Patchset) : ChangeSet :=
  { stack patchsets [] [] with
    revisions := ⟨[⟨parent, "p", none, ["a"]⟩, ⟨child, "q", some "stable", ["b"]⟩]⟩ }

end Sample

open Sample in
theorem answers_skip_eq_refuse_partlyMapped :
    (partlyMapped [parent, child]).withoutUnmapped = partlyMapped [parent] ∧
      SameAnswers { Settings.standard with unmapped := .skip } (partlyMapped [parent, child])
        { Settings.standard with unmapped := .refuse } (partlyMapped [parent]) ∧
      (∃ p ∈ (partlyMapped [child, stray, parent]).patchsets,
        (partlyMapped [child, stray, parent]).revisions.get? p = none) ∧
      AnswersRelated (fun _ x y => (∃ e, x = .error e) ∧ ∃ e, y = .error e)
        { Settings.standard with unmapped := .refuse } (partlyMapped [child, stray, parent])
        { Settings.standard with unmapped := .skip } (partlyMapped [child, stray, parent]) := by
  have hwithout : (partlyMapped [parent, child]).withoutUnmapped = partlyMapped [parent] := by
    decide
  have hunknown : ∃ p ∈ (partlyMapped [child, stray, parent]).patchsets,
      (partlyMapped [child, stray, parent]).revisions.get? p = none := by decide
  have hsame := (answers_skip_eq_refuse Settings.standard (partlyMapped [parent, child])).1
  rw [hwithout] at hsame
  exact ⟨hwithout, hsame, hunknown,
    (answers_skip_eq_refuse Settings.standard (partlyMapped [child, stray, parent])).2.2 hunknown⟩

end Presubmit
