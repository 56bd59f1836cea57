import Presubmit.Change.SourceRoots
import Presubmit.Failure
import Presubmit.Path.Containment
import Presubmit.Settings

/-! Changes under test as paths in the source tree. -/
namespace Presubmit

structure ChangeSet where
  patchsets : List Patchset
  revisions : Revisions
  roots : SourceRoots
deriving DecidableEq

namespace ChangeSet

def root? (c : ChangeSet) (r : Revision) : Option String :=
  c.roots.lookup r.project r.branch

/-- The files of one patchset, in the order of its revision. -/
def filesOf (c : ChangeSet) (policy : UnmappedPolicy) (p : Patchset) :
    Except Failure (List String) :=
  match c.revisions.get? p with
  | none => .error (.unknownRevision p)
  | some r =>
    match c.root? r with
    | some root => .ok (r.files.map (Path.child root))
    | none =>
      match policy with
      | .refuse => .error (.unmappedProject r.project r.branch)
      | .skip => .ok []

def sortPaths (paths : List String) : List String :=
  paths.mergeSort fun a b => a ≤ b

/-- Every file of every patchset, sorted and with its repetitions. -/
def affected (c : ChangeSet) (policy : UnmappedPolicy) : Except Failure (List String) :=
  (c.patchsets.mapM (c.filesOf policy)).map fun files => sortPaths files.flatten

end ChangeSet

end Presubmit
