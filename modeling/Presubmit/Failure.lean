import Presubmit.Change.Patchset
import Presubmit.Glob.Pattern
import Presubmit.Json.Decoder

/-! Why a request has no answer. -/
namespace Presubmit

inductive Failure where
  | unknownRevision (patchset : Patchset)
  | unmappedProject (project : String) (branch : Option String)
  | invalid (field reason : String)
  | invalidPattern (pattern : String) (error : Glob.SyntaxError)
  | undecodable (error : DecodeError)
deriving DecidableEq, Repr

namespace Failure

def message : Failure → String
  | .unknownRevision p => "unknown revision: " ++ p.path
  | .unmappedProject project none => "no source root for project " ++ project
  | .unmappedProject project (some branch) =>
    "no source root for project " ++ project ++ " and branch " ++ branch
  | .invalid field reason => "validation: " ++ field ++ ": " ++ reason
  | .invalidPattern pattern error =>
    "invalid pattern " ++ Text.quote pattern ++ ": " ++ error.message
  | .undecodable error => "json: " ++ error.message

def indexed (list : String) (i : Nat) : String :=
  list ++ "[" ++ toString i ++ "]"

/-- A restriction with no scope or with two. -/
def ambiguousScope (i : Nat) : Failure :=
  .invalid (indexed "source_tree_test_restriction" i)
    "exactly one of path or file_pattern must be set"

def missingTarget (i : Nat) : Failure :=
  .invalid (indexed "per_target_test_requirements" i ++ ".target_criteria") "missing build target"

def missingArtifacts (builder : String) : Failure :=
  .invalid ("builds[" ++ builder ++ "].artifacts") "missing"

theorem ambiguousScope_eq (i : Nat) :
    ambiguousScope i = .invalid ("source_tree_test_restriction[" ++ toString i ++ "]")
      "exactly one of path or file_pattern must be set" :=
  rfl

theorem missingTarget_eq (i : Nat) :
    missingTarget i = .invalid
      ("per_target_test_requirements[" ++ toString i ++ "].target_criteria")
      "missing build target" := by
  simp [missingTarget, indexed, String.append_assoc]

end Failure

end Presubmit
