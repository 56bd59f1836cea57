import Presubmit.Decision.Request
import Presubmit.Journal.Plan
import Presubmit.Journal.Pruning
import Presubmit.Journal.Skipping

/-! The journal of a request: what is reported until it is answered or fails. -/
namespace Presubmit

namespace ChangeSet

def patchsetEvents (c : ChangeSet) (policy : UnmappedPolicy) (p : Patchset) : List Event :=
  match c.revisions.get? p with
  | none => []
  | some r =>
    match c.root? r, policy with
    | some root, _ =>
      let files := sortPaths (r.files.map (Path.child root))
      [⟨.debug, .paths, "affected files for change",
        [("change", p.url), ("files", Event.listText files)]⟩]
    | none, .skip =>
      [⟨.warn, .paths, "no source root; skipping change",
        [("change", p.url), ("project", r.project), ("branch", Event.optionText r.branch)]⟩]
    | none, .refuse => []

/-- Nothing is reported from the first patchset on that has no answer. -/
def events (c : ChangeSet) (policy : UnmappedPolicy) : List Event :=
  let mapped := c.patchsets.takeWhile fun p => (c.filesOf policy p).isOk
  let total :=
    match c.affected policy with
    | .ok paths => [⟨.debug, .paths, "all affected files", [("count", toString paths.length)]⟩]
    | .error _ => []
  mapped.flatMap (c.patchsetEvents policy) ++ total

end ChangeSet

namespace VerdictRequest

def events (settings : Settings) (r : VerdictRequest) : List Event :=
  match IrrelevantFiles.ofPatterns r.irrelevance.patterns with
  | .error _ => []
  | .ok irrelevance =>
    r.changes.events settings.unmapped ++
      match r.changes.affected settings.unmapped with
      | .error _ => []
      | .ok affected =>
        let relevance := r.relevantTree settings
        let verdict := r.verdict settings irrelevance affected
        (relevance.map RelevantTree.loadEvent).toList ++
          Verdict.events r.builder affected irrelevance relevance ++
          [⟨.info, .engine, "pointless check done",
            [("builder", r.builder), ("pointless", toString verdict.pointless)]⟩]

end VerdictRequest

namespace PlanRequest

def events (settings : Settings) (r : PlanRequest) : List Event :=
  r.changes.events settings.unmapped ++
    match r.changes.affected settings.unmapped with
    | .error _ => []
    | .ok affected =>
      match Restrictions.ofList r.restrictions with
      | .error _ => []
      | .ok restrictions =>
        Pruning.events restrictions affected ++
          Plan.events settings r.requirements r.builds
            (Pruning.ofRestrictions restrictions affected)

end PlanRequest

namespace SkipRequest

def events (settings : Settings) (r : SkipRequest) : List Event :=
  match IrrelevantFiles.ofPatterns r.irrelevance.patterns with
  | .error _ => []
  | .ok irrelevance =>
    r.changes.events settings.unmapped ++
      match r.changes.affected settings.unmapped with
      | .error _ => []
      | .ok affected => Skipping.events r.builders affected irrelevance

end SkipRequest

end Presubmit
