import Presubmit.Build.Record
import Presubmit.Settings
import Presubmit.Suite.Basic

/-! Suites that compete in a test group, and the order in which they are preferred: critical before
not critical, virtual machines before hardware, boards of low priority number first. -/
namespace Presubmit

/-- A build chosen for testing and the suites that are left for it. -/
structure Target where
  id : Build.Id
  build : Build
  suites : (k : SuiteKind) → List (Suite k)

/-- What identifies a suite within a plan. -/
structure SuiteId where
  build : Build.Id
  kind : SuiteKind
  name : String
deriving DecidableEq, Repr

structure Candidate where
  build : Build.Id
  buildCritical : Bool
  kind : SuiteKind
  board : String
  common : SuiteCommon
deriving DecidableEq, Repr

def Build.Id.compare (a b : Build.Id) : Ordering :=
  (Ord.compare a.target b.target).then (Ord.compare a.builder b.builder)

def SuiteId.compare (a b : SuiteId) : Ordering :=
  (a.build.compare b.build).then
    ((Ord.compare a.kind.rank b.kind.rank).then (Ord.compare a.name b.name))

namespace Candidate

def id (c : Candidate) : SuiteId :=
  ⟨c.build, c.kind, c.common.name⟩

/-- A suite that says nothing is as critical as its build. -/
def critical (c : Candidate) : Bool :=
  c.common.critical.getD c.buildCritical

/-- Boards matter between hardware suites only. -/
def compareBoards (settings : Settings) (a b : Candidate) : Ordering :=
  if a.kind.isVirtual || b.kind.isVirtual then
    .eq
  else
    Ord.compare (settings.priorityOf a.board).toInt (settings.priorityOf b.board).toInt

/-- The candidate that compares less is preferred. -/
def compare (settings : Settings) (a b : Candidate) : Ordering :=
  (Ord.compare b.critical a.critical).then <|
  (Ord.compare b.buildCritical a.buildCritical).then <|
  (Ord.compare b.kind.isVirtual a.kind.isVirtual).then <|
  (compareBoards settings a b).then <|
  (Ord.compare a.common.name b.common.name).then <|
  (a.build.compare b.build).then <|
  Ord.compare a.kind.rank b.kind.rank

def preferred (settings : Settings) (a b : Candidate) : Bool :=
  compare settings a b != .gt

end Candidate

namespace Target

def candidatesOf (t : Target) (k : SuiteKind) : List Candidate :=
  (t.suites k).map fun s =>
    { build := t.id
      buildCritical := t.build.critical
      kind := k
      board := s.board t.id.target
      common := s.common }

def candidates (t : Target) : List Candidate :=
  SuiteKind.all.flatMap t.candidatesOf

end Target

/-- A candidate joins the members of each of its tags, once for every time it carries the tag. -/
def Candidate.join (c : Candidate) (members : Dict (List Candidate)) : Dict (List Candidate) :=
  c.common.groups.foldl (fun ms g => ms.insert g ((ms.get? g).getD [] ++ [c])) members

/-- The members of every group that some suite names, in the order in which they are found. -/
def collect (targets : List Target) : Dict (List Candidate) :=
  (targets.flatMap Target.candidates).foldl (fun ms c => c.join ms) ∅

def membersOf (targets : List Target) (group : String) : List Candidate :=
  ((collect targets).get? group).getD []

/-- The members of a group, most preferred first. -/
def groupOf (settings : Settings) (targets : List Target) (group : String) : List Candidate :=
  (membersOf targets group).mergeSort (Candidate.preferred settings)

/-- Every group that some suite names. -/
def groups (settings : Settings) (targets : List Target) : List (String × List Candidate) :=
  (collect targets).entries.map fun (g, cs) => (g, cs.mergeSort (Candidate.preferred settings))

def dropRepeats : List SuiteId → List SuiteId
  | [] => []
  | k :: ks => if ks.head? = some k then dropRepeats ks else k :: dropRepeats ks

/-- The most preferred member of each named group that has members, in ascending order. -/
def groupHeads (settings : Settings) (targets : List Target) (names : List String) :
    List SuiteId :=
  let firsts := names.filterMap fun g => (groupOf settings targets g).head?
  dropRepeats ((firsts.map Candidate.id).mergeSort fun a b => a.compare b != .gt)

end Presubmit
