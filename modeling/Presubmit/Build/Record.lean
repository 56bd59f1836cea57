import Presubmit.Settings

/-! Builds as the orchestrator reports them, and the choice of the one that stands for a target. -/
namespace Presubmit

inductive Build.Status where
  | scheduled
  | started
  | success
  | failure
  | infraFailure
  | canceled
deriving DecidableEq, Repr

/-- Where the artifacts of a build lie, and its files by artifact type. -/
structure Artifacts where
  bucket : String
  path : String
  files : Dict (List String)
deriving DecidableEq

structure Build where
  builder : String
  target : Option String
  status : Build.Status
  critical : Bool
  pointless : Bool
  artifacts : Option Artifacts
deriving DecidableEq

/-- The build target together with the builder that built it. -/
structure Build.Id where
  target : String
  builder : String
deriving DecidableEq, Repr

def Build.Id.text (b : Build.Id) : String :=
  b.target ++ " (" ++ b.builder ++ ")"

namespace Build

def hasArtifact (b : Build) (types : List String) : Bool :=
  match b.artifacts with
  | some a => types.any a.files.contains
  | none => false

def hasTarget (b : Build) : Bool :=
  b.target.any (· ≠ "")

/-- A build that can be tested at all. -/
def testable (types : List String) (b : Build) : Bool :=
  b.hasTarget && !b.pointless && b.hasArtifact types

end Build

structure Criteria where
  target : String
  builder : Option String
deriving DecidableEq, Repr

namespace Criteria

/-- A named builder counts only where builds are told apart by builder. -/
def admits (c : Criteria) (matching : BuildMatching) (b : Build) : Bool :=
  b.target == some c.target &&
    match matching, c.builder with
    | .byTargetAndBuilder, some builder => b.builder == builder
    | _, _ => true

/-- Only a build that succeeded can stand for its target. -/
def suits (c : Criteria) (matching : BuildMatching) (b : Build) : Bool :=
  c.admits matching b && b.status == .success

def select? (c : Criteria) (matching : BuildMatching) (builds : List Build) : Option Build :=
  builds.find? (c.suits matching)

end Criteria

end Presubmit
