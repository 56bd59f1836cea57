import Presubmit.Decision.Plan
import Presubmit.Journal.Event

/-! The journal of planning. -/
namespace Presubmit

namespace Build

private def ineligible (level : Level) (message : String) (b : Build) : List Event :=
  [⟨level, .plan, message, [("builder", Text.quote b.builder)]⟩]

def eligibleEvents (types : List String) (b : Build) : List Event :=
  if !b.hasTarget then
    b.ineligible .warn "filtering out build without a build target"
  else if b.pointless then
    b.ineligible .info "filtering out build marked as pointless"
  else if !b.hasArtifact types then
    b.ineligible .info "filtering out build with missing test artifacts"
  else
    []

end Build

def Criteria.selectEvents (c : Criteria) (matching : BuildMatching) (builds : List Build) :
    List Event :=
  if !builds.any (c.admits matching) then
    [⟨.debug, .plan, "no build found for target criteria", [("build_target", c.target)]⟩]
  else if (c.select? matching builds).isNone then
    [⟨.info, .plan, "can't test build target because all builders failed",
      [("build_target", c.target)]⟩]
  else
    []

namespace Requirement

/-- Each kind is spoken of only if the requirement declares it. -/
private def pruneEvents (r : Requirement) (p : Pruning) (target : String) : List Event :=
  let say := fun message =>
    [(⟨.info, .plan, message, [("build_target", Text.quote target)]⟩ : Event)]
  (if r.hw.isNone then []
    else if p.disableHw then say "no HW testing needed"
    else if p.sparesHw target then say "using only-test rule to skip HW testing"
    else if p.disableNonTast then say "pruning non-Tast HW tests"
    else []) ++
  (if r.vm.isSome && (p.disableVm || p.disableNonTast) then say "no VM testing needed" else []) ++
  (if r.moblabVm.isSome && p.disableNonTast then
    say "pruning Moblab tests due to non-Tast rule"
  else
    [])

def targetEvents (settings : Settings) (p : Pruning) (testable : List Build) (r : Requirement) :
    List Event :=
  match r.target? with
  | none => []
  | some c =>
    c.selectEvents settings.matching testable ++
      match c.select? settings.matching testable with
      | some _ => r.pruneEvents p c.target
      | none => []

end Requirement

namespace Choice

def keepEvents (c : Choice) (id : Build.Id) {k : SuiteKind} (s : Suite k) : List Event :=
  if c.pruning.anyAlso s.common.groups then
    [⟨.debug, .plan, "kept by also-test rule", [("suite", s.common.name)]⟩]
  else if c.pruning.hasGroupRules && !c.keeps id s then
    [⟨.debug, .plan, "pruned by oneof/only rule",
      [("suite", s.common.name), ("build", id.text)]⟩]
  else
    []

def settleEvents (b : Build) {k : SuiteKind} (s : Suite k) : List Event :=
  if (settle b s).common.critical == some false then
    [⟨.debug, .plan, "marking as not critical", [("suite", s.common.name)]⟩]
  else
    []

def suiteEvents (c : Choice) (t : Target) {k : SuiteKind} (s : Suite k) : List Event :=
  c.keepEvents t.id s ++ if c.keeps t.id s then settleEvents t.build s else []

def targetEvents (c : Choice) (t : Target) : List Event :=
  SuiteKind.all.flatMap fun k => (t.suites k).flatMap (c.suiteEvents t)

end Choice

namespace Plan

def resultEvents (p : Plan) : List Event :=
  [⟨.info, .plan, "assembled test plan",
    [("hw", toString p.hw.length),
     ("vm", toString p.vm.length),
     ("tast_vm", toString p.tastVm.length),
     ("moblab_vm", toString p.moblabVm.length)]⟩] ++
  if p.isEmpty then [⟨.info, .plan, "no test units scheduled for this run", []⟩] else []

/-- Nothing is reported from the first requirement on that has no target. -/
def events (settings : Settings) (rs : List Requirement) (builds : List Build) (p : Pruning) :
    List Event :=
  let types := settings.testArtifacts
  let testable := builds.filter (Build.testable types)
  let valid := rs.takeWhile fun r => r.target?.isSome
  builds.flatMap (Build.eligibleEvents types) ++
    valid.flatMap (Requirement.targetEvents settings p testable) ++
    match targets settings p builds rs with
    | .error _ => []
    | .ok ts =>
      ts.flatMap (choice settings p ts).targetEvents ++
        match assemble settings rs builds p with
        | .ok plan => plan.resultEvents
        | .error _ => []

end Plan

end Presubmit
