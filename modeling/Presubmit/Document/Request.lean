import Presubmit.Decision.Request
import Presubmit.Document.Change
import Presubmit.Document.Rules
import Presubmit.Document.Settings
import Presubmit.Document.Suite

/-! Requests as documents. A request names its command beside its own fields. -/
namespace Presubmit

namespace ChangeSet

def shape : Shape := ⟨"ChangeInputs", ["gerrit_changes", "change_revisions", "source_roots"]⟩

def fields : Fields ChangeSet :=
  ChangeSet.mk
    <$> Fields.withDefault "gerrit_changes" [] (Decoder.list Patchset.decode)
    <*> Fields.withDefault "change_revisions" ∅ Revisions.decode
    <*> Fields.withDefault "source_roots" ∅ SourceRoots.decode

end ChangeSet

namespace VerdictRequest

def shape : Shape :=
  ⟨"PointlessCheckRequest", ["builder_name", "build_irrelevance", "relevance"]⟩

def decode : Decoder VerdictRequest :=
  Decoder.spliced shape ChangeSet.shape
    ((fun builder irrelevance relevance changes =>
        VerdictRequest.mk builder changes irrelevance relevance)
      <$> Fields.required "builder_name" Decoder.text
      <*> Fields.withDefault "build_irrelevance" IrrelevanceRules.none IrrelevanceRules.decode
      <*> Fields.optional "relevance" RelevanceRules.decode)
    ChangeSet.fields
    (fun build changes => build changes)

end VerdictRequest

namespace PlanRequest

def shape : Shape :=
  ⟨"TestPlanRequest", ["source_tree_config", "target_test_requirements", "builds"]⟩

def decode : Decoder PlanRequest :=
  Decoder.spliced shape ChangeSet.shape
    ((fun restrictions requirements builds changes =>
        PlanRequest.mk changes restrictions requirements builds)
      <$> Fields.withDefault "source_tree_config" [] Restriction.decodeList
      <*> Fields.withDefault "target_test_requirements" [] Requirement.decodeList
      <*> Fields.withDefault "builds" [] (Decoder.list Build.decode))
    ChangeSet.fields
    (fun build changes => build changes)

end PlanRequest

namespace SkipRequest

def shape : Shape := ⟨"BuildSkipRequest", ["builders", "build_irrelevance"]⟩

def decode : Decoder SkipRequest :=
  Decoder.spliced shape ChangeSet.shape
    ((fun builders irrelevance changes => SkipRequest.mk builders changes irrelevance)
      <$> Fields.required "builders" (Decoder.list Builder.decode)
      <*> Fields.withDefault "build_irrelevance" IrrelevanceRules.none IrrelevanceRules.decode)
    ChangeSet.fields
    (fun build changes => build changes)

end SkipRequest

inductive Request where
  | verdict (request : VerdictRequest)
  | plan (request : PlanRequest)
  | skipping (request : SkipRequest)
deriving DecidableEq

inductive Command where
  | verdict
  | plan
  | skipping
deriving DecidableEq, Repr

namespace Command

def names : List (String × Command) :=
  [("check_build", .verdict),
   ("generate_test_plan", .plan),
   ("check_builders", .skipping)]

def decode : Decoder Command
  | _, .str s => Decoder.variant names s
  | _, j => .error (j.mismatch "variant identifier")

end Command

/-- How deep a document may nest. -/
def maxDepth : Nat := 127

namespace Request

def shape : Shape := ⟨"Request", ["command"]⟩

/-- The rest of the request, read once the command is known. -/
def decodeAs (j : Json) : Command → Except DecodeError Request
  | .verdict => (VerdictRequest.decode .aside j).map .verdict
  | .plan => (PlanRequest.decode .aside j).map .plan
  | .skipping => (SkipRequest.decode .aside j).map .skipping

/-- A request is read as a whole before its command is known, one level deep in its document. -/
def decode : Decoder Request := fun o j =>
  if !j.readable (maxDepth - 1) then
    .error .malformed
  else
    match j with
    | .obj fields => do
      let command ← Decoder.record shape (Fields.required "command" Command.decode) o (.obj fields)
      decodeAs (.obj (fields.filter fun f => f.1 ≠ "command")) command
    | .arr [] => .error (.missingField "command")
    | .arr (c :: rest) => do
      let command ← Command.decode o c
      decodeAs (.arr rest) command
    | j => .error (j.mismatch "internally tagged enum Request")

end Request

structure Invocation where
  settings : Settings
  request : Request
deriving DecidableEq

namespace Invocation

def shape : Shape := ⟨"Envelope", ["config", "request"]⟩

def decode : Decoder Invocation :=
  Decoder.record shape <|
    Invocation.mk <$> Fields.withDefault "config" Settings.standard Settings.decode
      <*> Fields.required "request" Request.decode

end Invocation

end Presubmit
