/-! Test suites. All suites share a name, a criticality, a switch and group tags, and each kind adds
details of its own. -/
namespace Presubmit

inductive SuiteKind where
  | hw
  | vm
  | tastVm
  | moblabVm
deriving DecidableEq, Repr

namespace SuiteKind

/-- In the order in which suites are collected and compared. -/
def all : List SuiteKind := [.hw, .vm, .tastVm, .moblabVm]

theorem mem_all (k : SuiteKind) : k ∈ all := by
  cases k <;> decide

def rank : SuiteKind → Nat
  | .hw => 0
  | .vm => 1
  | .tastVm => 2
  | .moblabVm => 3

def isVirtual : SuiteKind → Bool
  | .hw => false
  | _ => true

end SuiteKind

inductive HwFramework where
  | autotest
  | tast
deriving DecidableEq, Repr

/-- A suite whose criticality is not given takes that of its build. -/
structure SuiteCommon where
  name : String
  critical : Option Bool
  disabledByDefault : Bool
  groups : List String
deriving DecidableEq, Repr

inductive SuiteDetail : SuiteKind → Type where
  | hw (board suite : String) (framework : HwFramework) : SuiteDetail .hw
  | vm (suite : String) : SuiteDetail .vm
  | tastVm (suite : String) (expressions : List String) : SuiteDetail .tastVm
  | moblabVm (type : String) : SuiteDetail .moblabVm
deriving DecidableEq, Repr

structure Suite (k : SuiteKind) where
  common : SuiteCommon
  detail : SuiteDetail k
deriving DecidableEq, Repr

namespace Suite

variable {k : SuiteKind}

/-- Hardware suites name their board, and the others run on the build target itself. -/
def board (s : Suite k) (target : String) : String :=
  match s.detail with
  | .hw board _ _ => board
  | _ => target

/-- Only suites of the Tast framework survive where other testing is disabled. -/
def isTast (s : Suite k) : Bool :=
  match s.detail with
  | .hw _ _ framework => framework == .tast
  | .tastVm _ _ => true
  | _ => false

def withCritical (s : Suite k) (critical : Bool) : Suite k :=
  { s with common := { s.common with critical := some critical } }

end Suite

end Presubmit
