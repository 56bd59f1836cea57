import Presubmit.Rules.Restriction

/-! What the restrictions let a whole run leave out. -/
namespace Presubmit

/-- Without any targets or groups the name sets restrict nothing. -/
structure Pruning where
  disableHw : Bool
  disableVm : Bool
  disableNonTast : Bool
  onlyTargets : Names
  oneofGroups : Names
  onlyGroups : Names
  alsoGroups : Names
deriving DecidableEq

namespace Pruning

def none : Pruning :=
  ⟨false, false, false, ∅, ∅, ∅, ∅⟩

def sparesHw (p : Pruning) (target : String) : Bool :=
  !p.onlyTargets.isEmpty && target ∉ p.onlyTargets

def hasGroupRules (p : Pruning) : Bool :=
  !p.oneofGroups.isEmpty || !p.onlyGroups.isEmpty

def anyOnly (p : Pruning) (groups : List String) : Bool :=
  groups.any fun g => g ∈ p.onlyGroups

def anyAlso (p : Pruning) (groups : List String) : Bool :=
  groups.any fun g => g ∈ p.alsoGroups

/-- A run without affected paths is not restricted. -/
def ofRestrictions (r : Restrictions) (affected : List String) : Pruning :=
  if affected.isEmpty then
    none
  else
    { disableHw := r.permitsAll .hw affected
      disableVm := r.permitsAll .vm affected
      disableNonTast := r.permitsAll .nonTast affected
      onlyTargets := r.sharedNames (·.onlyTargets) affected
      oneofGroups := r.sharedNames (·.oneofGroup.toList) affected
      onlyGroups := r.sharedNames (·.onlyGroup.toList) affected
      alsoGroups := r.allNames (·.alsoGroup.toList) affected }

/-- The restrictions are checked even if no path is affected. -/
def ofRules (rs : List Restriction) (affected : List String) : Except Failure Pruning :=
  (Restrictions.ofList rs).map fun r => ofRestrictions r affected

end Pruning

end Presubmit
