import Presubmit.Decision.Pruning
import Presubmit.Journal.Event

/-! The journal of pruning. -/
namespace Presubmit

namespace Restrictions

/-- The first path that keeps a category of tests. -/
def blockerEvents (r : Restrictions) (c : Category) (paths : List String) : List Event :=
  match paths.find? fun p => !r.permits c p with
  | some path =>
    [⟨.info, .pruner, "cannot disable testing due to file",
      [("path", path), ("category", c.text)]⟩]
  | none => []

/-- One line for each path up to the first without names, with the number of names that are new. -/
def namesEvents (r : Restrictions) (what : String) (names : Effect → List String) :
    Names → List String → List Event
  | _, [] => []
  | known, path :: paths =>
    let found := r.namesAt names path
    if found.isEmpty then
      [⟨.info, .pruner, "cannot restrict testing due to file",
        [("path", path), ("what", Text.quote what)]⟩]
    else
      let grown := known.union (Names.ofList found)
      ⟨.debug, .pruner, "file restricts testing",
        [("path", path), ("what", Text.quote what),
         ("added", toString (grown.size - known.size))]⟩ :: namesEvents r what names grown paths

end Restrictions

namespace Pruning

def resultEvent (p : Pruning) : Event :=
  ⟨.info, .pruner, "prune result",
    [("disable_hw", toString p.disableHw),
     ("disable_vm", toString p.disableVm),
     ("disable_non_tast", toString p.disableNonTast),
     ("only_targets", Event.setText p.onlyTargets),
     ("oneof_groups", Event.setText p.oneofGroups),
     ("only_groups", Event.setText p.onlyGroups),
     ("also_groups", Event.setText p.alsoGroups)]⟩

def events (r : Restrictions) (affected : List String) : List Event :=
  if affected.isEmpty then
    [⟨.info, .pruner, "no affected files, so no tests will be skipped", []⟩]
  else
    r.blockerEvents .hw affected ++
      r.blockerEvents .vm affected ++
      r.blockerEvents .nonTast affected ++
      r.namesEvents "only-test build targets" (·.onlyTargets) ∅ affected ++
      r.namesEvents "oneof test group" (·.oneofGroup.toList) ∅ affected ++
      r.namesEvents "only test group" (·.onlyGroup.toList) ∅ affected ++
      [(ofRestrictions r affected).resultEvent]

end Pruning

end Presubmit
