import Presubmit.Build.Record
import Presubmit.Suite.Basic

/-! What is to be tested on which build target. -/
namespace Presubmit

/-- A kind without a list declares no suites, which is told apart from declaring none. -/
structure Requirement where
  criteria : Option Criteria
  hw : Option (List (Suite .hw))
  vm : Option (List (Suite .vm))
  tastVm : Option (List (Suite .tastVm))
  moblabVm : Option (List (Suite .moblabVm))
deriving DecidableEq, Repr

namespace Requirement

def declared (r : Requirement) : (k : SuiteKind) → Option (List (Suite k))
  | .hw => r.hw
  | .vm => r.vm
  | .tastVm => r.tastVm
  | .moblabVm => r.moblabVm

def suites (r : Requirement) (k : SuiteKind) : List (Suite k) :=
  (r.declared k).getD []

/-- The criteria, unless they are missing or name no target. -/
def target? (r : Requirement) : Option Criteria :=
  r.criteria.filter fun c => c.target ≠ ""

end Requirement

end Presubmit
