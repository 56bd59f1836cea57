import Presubmit.Change.Affected
import Presubmit.Proofs.Sequence

/-! The paths of a change set, and what keeps it from having any. A path is affected if a patchset
touches it, and of the patchsets that do not resolve the first is reported. -/
namespace Presubmit

namespace ChangeSet

/-- Why a patchset does not resolve. That its project has no root counts only where such changes are
refused. -/
inductive Fault (c : ChangeSet) (policy : UnmappedPolicy) (p : Patchset) : Failure → Prop where
  | unknown : c.revisions.get? p = none → Fault c policy p (.unknownRevision p)
  | unmapped (r : Revision) : c.revisions.get? p = some r → c.root? r = none → policy = .refuse →
      Fault c policy p (.unmappedProject r.project r.branch)

/-- The revision of the patchset is known, and so is its root unless it may be missing. -/
def Resolves (c : ChangeSet) (policy : UnmappedPolicy) (p : Patchset) : Prop :=
  ∃ r, c.revisions.get? p = some r ∧ (policy = .skip ∨ ∃ root, c.root? r = some root)

/-- The revision of the patchset lists the file of the project that lies at the path. -/
def Touches (c : ChangeSet) (p : Patchset) (path : String) : Prop :=
  ∃ r, c.revisions.get? p = some r ∧
    ∃ root, c.root? r = some root ∧ ∃ file ∈ r.files, Path.child root file = path

variable {c : ChangeSet} {policy : UnmappedPolicy} {p : Patchset} {files paths : List String}
  {path : String} {e : Failure}

theorem filesOf_eq_error_iff : c.filesOf policy p = .error e ↔ c.Fault policy p e := by
  unfold filesOf
  constructor
  · intro h
    split at h
    next hrevision =>
      cases h
      exact .unknown hrevision
    next r hrevision =>
      split at h
      next => cases h
      next hroot =>
        split at h <;> cases h
        exact .unmapped r hrevision hroot rfl
  · intro h
    cases h with
    | unknown hrevision => rw [hrevision]
    | unmapped r hrevision hroot hpolicy =>
      rw [hrevision, hpolicy]
      simp only [hroot]

theorem exists_filesOf_iff : (∃ files, c.filesOf policy p = .ok files) ↔ c.Resolves policy p := by
  unfold filesOf Resolves
  cases hrevision : c.revisions.get? p with
  | none => simp
  | some r => cases hroot : c.root? r <;> cases policy <;> simp [hroot]

theorem mem_of_filesOf_eq_ok (h : c.filesOf policy p = .ok files) :
    path ∈ files ↔ c.Touches p path := by
  unfold filesOf at h
  unfold Touches
  cases hrevision : c.revisions.get? p with
  | none => simp [hrevision] at h
  | some r =>
    cases hroot : c.root? r with
    | none => cases policy <;> simp_all
    | some root =>
      simp only [hrevision, hroot, Except.ok.injEq] at h
      simp [← h, hroot]

/-- The first patchset that does not resolve is the one reported. -/
theorem affected_eq_error_iff :
    c.affected policy = .error e ↔ FirstFault (fun _ => c.Fault policy) 0 c.patchsets e := by
  rw [affected, map_eq_error_iff, mapM_eq_error_iff fun _ _ => filesOf_eq_error_iff]

theorem exists_affected_iff :
    (∃ paths, c.affected policy = .ok paths) ↔ ∀ p ∈ c.patchsets, c.Resolves policy p := by
  simp only [affected, map_eq_ok_iff, ← exists_filesOf_iff]
  constructor
  · rintro ⟨_, files, hfiles, -⟩ p hp
    obtain ⟨fs, -, hfs⟩ := exists_of_mapM_eq_ok hfiles hp
    exact ⟨fs, hfs⟩
  · intro h
    obtain ⟨files, hfiles⟩ := exists_mapM_eq_ok h
    exact ⟨_, files, hfiles, rfl⟩

theorem mem_affected_iff (h : c.affected policy = .ok paths) :
    path ∈ paths ↔ ∃ p ∈ c.patchsets, c.Touches p path := by
  obtain ⟨files, hfiles, rfl⟩ := map_eq_ok_iff.1 h
  simp only [sortPaths, List.mem_mergeSort, List.mem_flatten]
  constructor
  · rintro ⟨fs, hfs, hpath⟩
    obtain ⟨p, hp, hok⟩ := (mem_of_mapM_eq_ok hfiles).1 hfs
    exact ⟨p, hp, (mem_of_filesOf_eq_ok hok).1 hpath⟩
  · rintro ⟨p, hp, htouches⟩
    obtain ⟨fs, hfs, hok⟩ := exists_of_mapM_eq_ok hfiles hp
    exact ⟨fs, hfs, (mem_of_filesOf_eq_ok hok).2 htouches⟩

end ChangeSet

end Presubmit
