import Presubmit.Proofs.Path.Directories
import Presubmit.Rules.Relevance
import Presubmit.Settings

/-! Relevant paths as they are declared. Trimming, sorting and leaving out repeated entries changes
no answer. For a dependency graph the prefix is taken off before the slashes are, and the order
shows at one place: the prefix without its last slash is no name for the root of the tree. -/
namespace Presubmit.RelevantTree

section Declared

variable {paths : List String} {path declared entry : String}

theorem related_iff :
    related path entry = true ↔
      Path.isUnder path entry = true ∨ Path.isUnder entry path = true := by
  rw [related, Bool.or_eq_true]

theorem related_trimEnd (path declared : String) :
    related path (Path.trimEnd declared) = related path declared := by
  rw [related, Path.isUnder_dir_trimEnd, Path.isUnder_trimEnd, related]

theorem related_root (path : String) : related path "" = true :=
  related_iff.2 (.inl rfl)

theorem mem_entries_ofPaths :
    entry ∈ (ofPaths paths).entries ↔ ∃ declared ∈ paths, Path.trimEnd declared = entry := by
  rw [ofPaths, Names.mem_ofList, List.mem_map]

theorem covers_ofPaths_iff :
    (ofPaths paths).covers path = true ↔ ∃ declared ∈ paths, related path declared = true := by
  rw [covers_iff]
  constructor
  · rintro ⟨_, hentry, hrelated⟩
    obtain ⟨declared, hdeclared, rfl⟩ := mem_entries_ofPaths.1 hentry
    exact ⟨declared, hdeclared, by rwa [related_trimEnd] at hrelated⟩
  · rintro ⟨declared, hdeclared, hrelated⟩
    refine ⟨Path.trimEnd declared, mem_entries_ofPaths.2 ⟨declared, hdeclared, rfl⟩, ?_⟩
    rwa [related_trimEnd]

/-- The entries are the declared paths without trailing slashes, each once and in ascending order,
and a path is covered exactly if it and a path as declared lie one under the other. -/
theorem ofPaths_covers_declared (paths : List String) :
    (∀ path, (ofPaths paths).covers path = true ↔ ∃ declared ∈ paths,
        Path.isUnder path declared = true ∨ Path.isUnder declared path = true) ∧
      (∀ entry, entry ∈ (ofPaths paths).entries ↔
        ∃ declared ∈ paths, Path.trimEnd declared = entry) ∧
      (ofPaths paths).entries.toList.Pairwise (· < ·) ∧
      ∀ entry ∈ (ofPaths paths).entries.toList, entry.toList.getLast? ≠ some '/' := by
  refine ⟨fun path => ?_, fun entry => mem_entries_ofPaths, (ofPaths paths).entries.ascending,
    fun entry hentry => ?_⟩
  · rw [covers_ofPaths_iff]
    simp only [related_iff]
  · obtain ⟨declared, -, rfl⟩ := mem_entries_ofPaths.1 hentry
    rw [Path.toList_trimEnd]
    exact Path.getLast?_dropTrailing declared.toList

end Declared

/-- A dependency graph in which one source path is left open. -/
structure OpenGraph where
  before : List Package
  name : String
  earlier : List String
  later : List String
  after : List Package

def OpenGraph.fill (g : OpenGraph) (source : String) : List Package :=
  g.before ++ ⟨g.name, g.earlier ++ source :: g.later⟩ :: g.after

section Dependencies

variable {start path source : String}

theorem sourcePaths_fill (g : OpenGraph) (source : String) :
    (g.fill source).flatMap (·.sourcePaths) = g.before.flatMap (·.sourcePaths) ++ g.earlier ++
      source :: (g.later ++ g.after.flatMap (·.sourcePaths)) := by
  simp [OpenGraph.fill]

theorem withoutPrefix_of_append {rest : List Char} (h : start.toList ++ rest = path.toList) :
    withoutPrefix start path = String.ofList rest := by
  rw [withoutPrefix, List.isPrefixOf?_eq_some_iff_append_eq.2 h]

theorem withoutPrefix_of_not_isPrefix (h : ¬ start.toList <+: path.toList) :
    withoutPrefix start path = path := by
  unfold withoutPrefix
  cases hrest : start.toList.isPrefixOf? path.toList with
  | none => rfl
  | some rest => exact absurd ⟨rest, List.isPrefixOf?_eq_some_iff_append_eq.1 hrest⟩ h

theorem withoutPrefix_self (start : String) : withoutPrefix start start = "" :=
  withoutPrefix_of_append (List.append_nil _)

/-- Unless it completes the prefix, a slash at the end of a source path is trimmed away again. -/
theorem trimEnd_withoutPrefix_slash (h : source ++ "/" ≠ start) :
    Path.trimEnd (withoutPrefix start (source ++ "/")) =
      Path.trimEnd (withoutPrefix start source) := by
  have hchars : (source ++ "/").toList = source.toList ++ ['/'] := String.toList_append
  by_cases hstart : start.toList <+: source.toList
  · obtain ⟨rest, hrest⟩ := hstart
    have hslash : start.toList ++ (rest ++ ['/']) = (source ++ "/").toList := by
      rw [hchars, ← hrest, List.append_assoc]
    rw [withoutPrefix_of_append hrest, withoutPrefix_of_append hslash, Path.trimEnd, Path.trimEnd,
      String.toList_ofList, String.toList_ofList, Path.dropTrailing_concat_slash]
  · have hnone : ¬ start.toList <+: (source ++ "/").toList := by
      rw [hchars, List.prefix_concat_iff]
      rintro (hwhole | hpart)
      · rw [← hchars, String.toList_inj] at hwhole
        exact h hwhole.symm
      · exact hstart hpart
    rw [withoutPrefix_of_not_isPrefix hstart, withoutPrefix_of_not_isPrefix hnone, Path.trimEnd,
      Path.trimEnd, hchars, Path.dropTrailing_concat_slash]

theorem ofPackages_fill_slash (g : OpenGraph) (h : source ++ "/" ≠ start) :
    ofPackages start (g.fill (source ++ "/")) = ofPackages start (g.fill source) := by
  simp only [ofPackages, ofPaths, sourcePaths_fill, List.map_append, List.map_cons,
    trimEnd_withoutPrefix_slash h]

theorem covers_ofPackages_start (g : OpenGraph) (start path : String) :
    (ofPackages start (g.fill start)).covers path = true := by
  refine covers_ofPaths_iff.2 ⟨"", ?_, related_root path⟩
  rw [sourcePaths_fill, List.map_append, List.map_cons, withoutPrefix_self]
  exact List.mem_append_right _ List.mem_cons_self

/-- A slash after a source path makes a difference for no path, unless it completes the prefix. The
source then is the root of the tree, and makes a difference for all that was not covered without
the slash. -/
theorem covers_fill_slash_iff (start source path : String) (g : OpenGraph) :
    (ofPackages start (g.fill (source ++ "/"))).covers path =
        (ofPackages start (g.fill source)).covers path ↔
      source ++ "/" ≠ start ∨ (ofPackages start (g.fill source)).covers path = true := by
  by_cases h : source ++ "/" = start
  · rw [or_iff_right (not_not_intro h), h, covers_ofPackages_start]
    exact eq_comm
  · rw [ofPackages_fill_slash g h]
    exact iff_of_true rfl (.inl h)

/-- Without its slash, the name of the source tree inside the build environment names nothing in
the tree. -/
theorem not_forall_covers_fill_slash :
    ¬ ∀ (start source path : String) (g : OpenGraph), start.toList.getLast? = some '/' →
      (ofPackages start (g.fill (source ++ "/"))).covers path =
        (ofPackages start (g.fill source)).covers path := by
  intro h
  have hcovers := h Settings.standard.dependencyPrefix "/mnt/host/source" "src/lib/x.cc"
    ⟨[], "chromeos-base/a", [], [], []⟩ (by decide)
  revert hcovers
  decide

end Dependencies

end Presubmit.RelevantTree
