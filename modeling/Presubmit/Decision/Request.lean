import Presubmit.Change.Affected
import Presubmit.Decision.Plan
import Presubmit.Decision.Skipping
import Presubmit.Decision.Verdict
import Presubmit.Rules.Relevance

/-! The three requests and their answers. -/
namespace Presubmit

structure VerdictRequest where
  builder : String
  changes : ChangeSet
  irrelevance : IrrelevanceRules
  relevance : Option RelevanceRules
deriving DecidableEq

structure PlanRequest where
  changes : ChangeSet
  restrictions : List Restriction
  requirements : List Requirement
  builds : List Build
deriving DecidableEq

structure SkipRequest where
  builders : List Builder
  changes : ChangeSet
  irrelevance : IrrelevanceRules
deriving DecidableEq

namespace VerdictRequest

def relevantTree (settings : Settings) (r : VerdictRequest) : Option RelevantTree :=
  r.relevance.map (RelevantTree.ofRules settings.dependencyPrefix)

def verdict (settings : Settings) (r : VerdictRequest) (irrelevance : IrrelevantFiles)
    (affected : List String) : Verdict :=
  Verdict.ofAffected affected irrelevance ((r.relevantTree settings).map RelevantTree.covers)

def answer (settings : Settings) (r : VerdictRequest) : Except Failure Verdict := do
  let irrelevance ← IrrelevantFiles.ofPatterns r.irrelevance.patterns
  let affected ← r.changes.affected settings.unmapped
  .ok (r.verdict settings irrelevance affected)

end VerdictRequest

namespace PlanRequest

def answer (settings : Settings) (r : PlanRequest) : Except Failure Plan := do
  let affected ← r.changes.affected settings.unmapped
  let pruning ← Pruning.ofRules r.restrictions affected
  Plan.assemble settings r.requirements r.builds pruning

end PlanRequest

namespace SkipRequest

def answer (settings : Settings) (r : SkipRequest) : Except Failure Skipping := do
  let irrelevance ← IrrelevantFiles.ofPatterns r.irrelevance.patterns
  let affected ← r.changes.affected settings.unmapped
  Skipping.ofBuilders r.builders affected irrelevance

end SkipRequest

end Presubmit
