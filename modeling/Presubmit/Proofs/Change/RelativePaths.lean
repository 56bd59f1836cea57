import Presubmit.Proofs.Change.Paths
import Presubmit.Proofs.Path.Containment

/-! Which affected paths are relative to the source tree. Every rule about files names them without
a leading slash. A path keeps that form below every root that has it, except below the empty one:
the slash between root and file is then the first character. -/
namespace Presubmit

namespace Path

/-- The path does not begin with a slash. -/
def IsRelative (path : String) : Prop :=
  path.toList.head? ≠ some '/'

instance (path : String) : Decidable (IsRelative path) :=
  inferInstanceAs (Decidable (path.toList.head? ≠ some '/'))

/-- Only an empty or an absolute directory is left without a first component by trimming. -/
theorem head?_dropTrailing_append (cs ds : List Char) :
    (dropTrailing cs ++ '/' :: ds).head? = some '/' ↔ cs = [] ∨ cs.head? = some '/' := by
  obtain ⟨n, hn⟩ := exists_eq_dropTrailing_append cs
  cases htrimmed : dropTrailing cs with
  | nil =>
    rw [htrimmed, List.nil_append] at hn
    cases n with
    | zero => simp [hn]
    | succ n => simp [hn, List.replicate_succ]
  | cons d trimmed =>
    rw [htrimmed] at hn
    simp [hn]

theorem isRelative_child_iff (root file : String) :
    IsRelative (child root file) ↔ root ≠ "" ∧ IsRelative root := by
  have hchars : (child root file).toList =
      dropTrailing root.toList ++ '/' :: (trimStart file).toList := by
    simp [child, trimEnd, String.toList_append]
  have hempty : root.toList = [] ↔ root = "" := String.toList_eq_nil_iff
  rw [IsRelative, hchars, ne_eq, head?_dropTrailing_append, hempty, not_or, IsRelative]

end Path

/-- No root that can be looked up begins with a slash. -/
def SourceRoots.AllRelative (s : SourceRoots) : Prop :=
  ∀ project branch root, s.lookup project branch = some root → Path.IsRelative root

namespace ChangeSet

/-- The revision of a patchset has the path as a file of a project at the root of the tree. -/
def AtTreeRoot (c : ChangeSet) (path : String) : Prop :=
  ∃ p ∈ c.patchsets, ∃ r, c.revisions.get? p = some r ∧ c.root? r = some "" ∧
    ∃ file ∈ r.files, Path.child "" file = path

variable {c : ChangeSet} {policy : UnmappedPolicy} {paths : List String} {path : String}

theorem isRelative_iff_not_atTreeRoot (hroots : c.roots.AllRelative)
    (h : c.affected policy = .ok paths) (hpath : path ∈ paths) :
    Path.IsRelative path ↔ ¬ c.AtTreeRoot path := by
  constructor
  · rintro hrelative ⟨p, -, r, -, -, file, -, rfl⟩
    exact ((Path.isRelative_child_iff "" file).1 hrelative).1 rfl
  · intro hbelow
    obtain ⟨p, hp, r, hr, root, hroot, file, hfile, rfl⟩ := (mem_affected_iff h).1 hpath
    have hne : root ≠ "" := by
      rintro rfl
      exact hbelow ⟨p, hp, r, hr, hroot, file, hfile, rfl⟩
    exact (Path.isRelative_child_iff root file).2 ⟨hne, hroots _ _ _ hroot⟩

/-- With relative roots a path is relative unless its project lies at the root of the tree, and all
of them are if no project there has files to show. -/
theorem affected_relative_iff (hroots : c.roots.AllRelative)
    (h : c.affected policy = .ok paths) :
    (∀ path ∈ paths, (Path.IsRelative path ↔ ¬ c.AtTreeRoot path)) ∧
      ((∀ path ∈ paths, Path.IsRelative path) ↔
        ∀ p ∈ c.patchsets, ∀ r, c.revisions.get? p = some r → c.root? r = some "" →
          r.files = []) := by
  have hiff : ∀ path ∈ paths, (Path.IsRelative path ↔ ¬ c.AtTreeRoot path) :=
    fun path hpath => isRelative_iff_not_atTreeRoot hroots h hpath
  refine ⟨hiff, fun hall p hp r hr hroot => ?_, fun hnone path hpath => ?_⟩
  · refine List.eq_nil_iff_forall_not_mem.2 fun file hfile => ?_
    have hpath : Path.child "" file ∈ paths :=
      (mem_affected_iff h).2 ⟨p, hp, r, hr, "", hroot, file, hfile, rfl⟩
    exact (hiff _ hpath).1 (hall _ hpath) ⟨p, hp, r, hr, hroot, file, hfile, rfl⟩
  · refine (hiff path hpath).2 ?_
    rintro ⟨p, hp, r, hr, hroot, file, hfile, -⟩
    rw [hnone p hp r hr hroot] at hfile
    exact List.not_mem_nil hfile

namespace Sample

/-- One patchset of a project at the given root. -/
def placed (root : String) (files : List String) : ChangeSet where
  patchsets := [⟨"review", 1, 1⟩]
  revisions := ⟨[⟨⟨"review", 1, 1⟩, "p", none, files⟩]⟩
  roots := (∅ : SourceRoots).setRoot "p" root

theorem lookup_placed {root found project : String} {files : List String} {branch : Option String}
    (h : (placed root files).roots.lookup project branch = some found) : found = root := by
  by_cases hproject : project = "p"
  · subst hproject
    simpa [placed, SourceRoots.setRoot, SourceRoots.lookup, eq_comm] using h
  · simp [placed, SourceRoots.setRoot, SourceRoots.lookup, Dict.get?_insert_of_ne _ hproject] at h
    cases h

theorem allRelative_placed {root : String} {files : List String} (h : Path.IsRelative root) :
    (placed root files).roots.AllRelative := fun _ _ _ hfound => lookup_placed hfound ▸ h

end Sample

open Sample in
theorem affected_relative_iff_src :
    (placed "src/" ["/a", "b"]).roots.AllRelative ∧
      (placed "src/" ["/a", "b"]).affected .refuse = .ok ["src/a", "src/b"] ∧
      ((∀ path ∈ ["src/a", "src/b"], Path.IsRelative path) ↔
        ∀ p ∈ (placed "src/" ["/a", "b"]).patchsets, ∀ r,
          (placed "src/" ["/a", "b"]).revisions.get? p = some r →
          (placed "src/" ["/a", "b"]).root? r = some "" → r.files = []) := by
  have hroots : (placed "src/" ["/a", "b"]).roots.AllRelative := allRelative_placed (by decide)
  have haffected : (placed "src/" ["/a", "b"]).affected .refuse = .ok ["src/a", "src/b"] :=
    map_eq_ok_iff.2 ⟨[["src/a", "src/b"]], by decide, List.mergeSort_of_pairwise (by decide)⟩
  exact ⟨hroots, haffected, (affected_relative_iff hroots haffected).2⟩

open Sample in
/-- A file of a project at the root of the tree does not get a relative path. -/
theorem not_forall_affected_relative :
    ¬ ∀ (c : ChangeSet) (policy : UnmappedPolicy) (paths : List String), c.roots.AllRelative →
      c.affected policy = .ok paths → ∀ path ∈ paths, Path.IsRelative path := by
  intro h
  have haffected : (placed "" ["README.md"]).affected .refuse = .ok ["/README.md"] :=
    map_eq_ok_iff.2 ⟨[["/README.md"]], by decide, List.mergeSort_singleton _⟩
  have hrelative := h _ .refuse _ (allRelative_placed (by decide)) haffected
  exact absurd (hrelative "/README.md" List.mem_cons_self) (by decide)

end ChangeSet

end Presubmit
