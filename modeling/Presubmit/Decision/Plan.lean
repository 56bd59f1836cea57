import Presubmit.Build.Record
import Presubmit.Decision.Pruning
import Presubmit.Rules.Requirement
import Presubmit.Suite.Group

/-! The test plan: which suites run on which builds. -/
namespace Presubmit

/-- What the units of one build have in common. -/
structure UnitSource where
  target : String
  builder : String
  payload : Artifacts
deriving DecidableEq

/-- Suites of one kind on one build, with their criticality settled. -/
structure PlanUnit (k : SuiteKind) where
  source : UnitSource
  suites : List (Suite k)
deriving DecidableEq

structure Plan where
  hw : List (PlanUnit .hw)
  vm : List (PlanUnit .vm)
  tastVm : List (PlanUnit .tastVm)
  moblabVm : List (PlanUnit .moblabVm)
deriving DecidableEq

namespace Plan

def units (p : Plan) : (k : SuiteKind) → List (PlanUnit k)
  | .hw => p.hw
  | .vm => p.vm
  | .tastVm => p.tastVm
  | .moblabVm => p.moblabVm

def ofUnits (units : (k : SuiteKind) → List (PlanUnit k)) : Plan :=
  ⟨units .hw, units .vm, units .tastVm, units .moblabVm⟩

@[simp] theorem units_ofUnits (units : (k : SuiteKind) → List (PlanUnit k)) (k : SuiteKind) :
    (ofUnits units).units k = units k := by
  cases k <;> rfl

def isEmpty (p : Plan) : Bool :=
  p.hw.isEmpty && p.vm.isEmpty && p.tastVm.isEmpty && p.moblabVm.isEmpty

end Plan

namespace Pruning

/-- Whether a suite is left once whole categories are pruned for the target. -/
def leaves (p : Pruning) (target : String) {k : SuiteKind} (s : Suite k) : Bool :=
  let dropped :=
    match k with
    | .hw => p.disableHw || p.sparesHw target
    | .vm => p.disableVm
    | _ => false
  !dropped && (!p.disableNonTast || s.isTast)

end Pruning

namespace Requirement

/-- The requirement on its build, without the suites that are pruned. -/
def on (r : Requirement) (p : Pruning) (target : String) (b : Build) : Target where
  id := ⟨target, b.builder⟩
  build := b
  suites k := (r.suites k).filter (p.leaves target)

/-- The target of a requirement, if a build can be chosen for it. -/
def target (settings : Settings) (p : Pruning) (testable : List Build) (i : Nat) (r : Requirement) :
    Except Failure (Option Target) :=
  match r.target? with
  | none => .error (.missingTarget i)
  | some c => .ok ((c.select? settings.matching testable).map (r.on p c.target))

end Requirement

/-- What decides about a single suite: the pruning and the heads of the groups it chose. -/
structure Choice where
  pruning : Pruning
  groupHeads : List SuiteId

namespace Choice

def idOf (id : Build.Id) {k : SuiteKind} (s : Suite k) : SuiteId :=
  ⟨id, k, s.common.name⟩

/-- A suite of an also-group stays in any case. Where group rules hold, the others have to head
a chosen group or belong to an only-group, and elsewhere they must not be disabled by default. -/
def keeps (c : Choice) (id : Build.Id) {k : SuiteKind} (s : Suite k) : Bool :=
  if c.pruning.anyAlso s.common.groups then
    true
  else if c.pruning.hasGroupRules then
    c.groupHeads.contains (idOf id s) || c.pruning.anyOnly s.common.groups
  else
    !s.common.disabledByDefault

/-- A suite is critical only on a critical build, and there unless it says otherwise. -/
def settle (b : Build) {k : SuiteKind} (s : Suite k) : Suite k :=
  s.withCritical (b.critical && s.common.critical.getD true)

def select (c : Choice) (t : Target) (k : SuiteKind) : List (Suite k) :=
  ((t.suites k).filter (c.keeps t.id)).map (settle t.build)

/-- The units of one kind. A target without selected suites has none. -/
def units (c : Choice) (targets : List (Target × Artifacts)) (k : SuiteKind) :
    List (PlanUnit k) :=
  targets.filterMap fun (t, payload) =>
    match c.select t k with
    | [] => none
    | s :: ss => some ⟨⟨t.id.target, t.id.builder, payload⟩, s :: ss⟩

end Choice

namespace Target

def payload (t : Target) : Except Failure (Target × Artifacts) :=
  match t.build.artifacts with
  | some a => .ok (t, a)
  | none => .error (.missingArtifacts t.id.builder)

end Target

namespace Plan

def targets (settings : Settings) (p : Pruning) (builds : List Build) (rs : List Requirement) :
    Except Failure (List Target) :=
  let testable := builds.filter (Build.testable settings.testArtifacts)
  let found := rs.zipIdx.mapM fun (r, i) => Requirement.target settings p testable i r
  found.map fun ts => ts.filterMap id

def choice (settings : Settings) (p : Pruning) (targets : List Target) : Choice where
  pruning := p
  groupHeads := groupHeads settings targets p.oneofGroups.toList

def assemble (settings : Settings) (rs : List Requirement) (builds : List Build) (p : Pruning) :
    Except Failure Plan := do
  let ts ← targets settings p builds rs
  let payloads ← ts.mapM Target.payload
  .ok (ofUnits ((choice settings p ts).units payloads))

end Plan

end Presubmit
