/-! Patchsets under review and the revisions that describe them. -/
namespace Presubmit

/-- One version of a change on a code-review host. -/
structure Patchset where
  host : String
  change : UInt64
  number : UInt32
deriving DecidableEq, Repr

def Patchset.path (p : Patchset) : String :=
  p.host ++ "/" ++ toString p.change.toNat ++ "/" ++ toString p.number.toNat

def Patchset.url (p : Patchset) : String :=
  "https://" ++ p.path

/-- What a patchset touches. File paths are relative to the project. -/
structure Revision where
  patchset : Patchset
  project : String
  branch : Option String
  files : List String
deriving DecidableEq, Repr

structure Revisions where
  entries : List Revision
deriving DecidableEq, Repr

namespace Revisions

instance : EmptyCollection Revisions := ⟨⟨[]⟩⟩

/-- The last revision listed for the patchset. -/
def get? (r : Revisions) (p : Patchset) : Option Revision :=
  (r.entries.filter fun e => e.patchset = p).getLast?

end Revisions

end Presubmit
