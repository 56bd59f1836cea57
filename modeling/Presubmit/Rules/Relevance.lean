import Presubmit.Path.Containment
import Presubmit.Text.Names

/-! The paths that can change what a builder builds: listed, or taken from its dependency graph. -/
namespace Presubmit

structure Package where
  name : String
  sourcePaths : List String
deriving DecidableEq, Repr

inductive RelevanceRules where
  | paths (paths : List String)
  | dependencies (packages : List Package)
deriving DecidableEq, Repr

/-- Files and directories without trailing slashes. -/
structure RelevantTree where
  entries : Names
deriving DecidableEq

namespace RelevantTree

def ofPaths (paths : List String) : RelevantTree :=
  ⟨Names.ofList (paths.map Path.trimEnd)⟩

def withoutPrefix (start path : String) : String :=
  match start.toList.isPrefixOf? path.toList with
  | some rest => String.ofList rest
  | none => path

/-- Dependency graphs name their sources as seen inside the build environment. -/
def ofPackages (start : String) (packages : List Package) : RelevantTree :=
  ofPaths ((packages.flatMap (·.sourcePaths)).map (withoutPrefix start))

def ofRules (start : String) : RelevanceRules → RelevantTree
  | .paths paths => ofPaths paths
  | .dependencies packages => ofPackages start packages

/-- The path lies under the entry, or the entry under the path. -/
def related (path entry : String) : Bool :=
  Path.isUnder path entry || Path.isUnder entry path

def effectsOn? (r : RelevantTree) (path : String) : Option String :=
  r.entries.toList.find? (related path)

def covers (r : RelevantTree) (path : String) : Bool :=
  (r.effectsOn? path).isSome

theorem covers_iff {r : RelevantTree} {path : String} :
    r.covers path = true ↔ ∃ entry ∈ r.entries.toList, related path entry = true := by
  rw [covers, effectsOn?, List.find?_isSome]

end RelevantTree

end Presubmit
