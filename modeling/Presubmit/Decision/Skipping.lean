import Presubmit.Rules.Irrelevance

/-! Builders, the conditions under which they run, and which of them need not be scheduled. -/
namespace Presubmit

inductive RunMode where
  | unspecified
  | always
  | onMatch
deriving DecidableEq, Repr

structure RunCondition where
  mode : RunMode
  patterns : List String
deriving DecidableEq, Repr

structure Builder where
  name : String
  artifactTypes : List String
  condition : RunCondition
deriving DecidableEq, Repr

/-- The artifact type of an image. -/
def imageArtifact : String := "IMAGE_ZIP"

def Builder.buildsImage (b : Builder) : Bool :=
  b.artifactTypes.contains imageArtifact

/-- Builder names by outcome, each in input order. -/
structure Skipping where
  run : List String
  irrelevant : List String
  unmatched : List String
deriving DecidableEq, Repr

inductive BuilderOutcome where
  | run
  | irrelevant
  | unmatched
deriving DecidableEq, Repr

/-- There are affected paths, and all of them are irrelevant to builds. -/
def sparesImages (affected : List String) (irrelevance : IrrelevantFiles) : Bool :=
  !affected.isEmpty && (irrelevance.retain affected).isEmpty

namespace Builder

/-- The first affected path that a run condition asks for. -/
def requiring? (patterns : List Glob.Pattern) (affected : List String) : Option String :=
  affected.find? fun path => patterns.any (·.isMatch path)

/-- A condition without patterns never skips. -/
def skippedByPatterns (b : Builder) (affected : List String) : Except Failure Bool :=
  if b.condition.patterns.isEmpty then
    .ok false
  else
    (b.condition.patterns.mapM Glob.compileRule).map fun patterns =>
      (requiring? patterns affected).isNone

/-- Whether the patterns of the builder decide about it. -/
def awaitsMatch (b : Builder) (affected : List String) : Bool :=
  b.condition.mode == .onMatch && !affected.isEmpty

def outcome (spareImages : Bool) (affected : List String) (b : Builder) :
    Except Failure BuilderOutcome :=
  if spareImages && b.buildsImage then
    .ok .irrelevant
  else if b.awaitsMatch affected then
    (b.skippedByPatterns affected).map fun skipped => if skipped then .unmatched else .run
  else
    .ok .run

end Builder

namespace Skipping

def namesWith (outcome : BuilderOutcome) (decided : List (Builder × BuilderOutcome)) :
    List String :=
  (decided.filter fun d => d.2 = outcome).map fun d => d.1.name

def ofOutcomes (decided : List (Builder × BuilderOutcome)) : Skipping where
  run := namesWith .run decided
  irrelevant := namesWith .irrelevant decided
  unmatched := namesWith .unmatched decided

def ofBuilders (builders : List Builder) (affected : List String) (irrelevance : IrrelevantFiles) :
    Except Failure Skipping :=
  let spareImages := sparesImages affected irrelevance
  let decided := builders.mapM fun (b : Builder) =>
    (b.outcome spareImages affected).map fun o => (b, o)
  decided.map ofOutcomes

end Skipping

end Presubmit
