import Presubmit.Text.Dict

/-! Where projects lie in the source tree. -/
namespace Presubmit

/-- A project has one root for all branches, or a root for each of some branches. -/
inductive Placement where
  | single (root : String)
  | byBranch (roots : Dict String)
deriving DecidableEq

structure SourceRoots where
  projects : Dict Placement
deriving DecidableEq

namespace SourceRoots

instance : EmptyCollection SourceRoots := ⟨⟨∅⟩⟩

def setRoot (s : SourceRoots) (project root : String) : SourceRoots :=
  ⟨s.projects.insert project (.single root)⟩

/-- A single root that was there before is forgotten. -/
def setBranchRoot (s : SourceRoots) (project branch root : String) : SourceRoots :=
  let roots :=
    match s.projects.get? project with
    | some (.byBranch roots) => roots
    | _ => ∅
  ⟨s.projects.insert project (.byBranch (roots.insert branch root))⟩

/-- A single root serves every branch, and a project with branch roots needs a branch. -/
def lookup (s : SourceRoots) (project : String) (branch : Option String) : Option String :=
  match s.projects.get? project with
  | none => none
  | some (.single root) => some root
  | some (.byBranch roots) => branch.bind roots.get?

end SourceRoots

end Presubmit
