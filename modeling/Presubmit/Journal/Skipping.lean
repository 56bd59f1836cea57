import Presubmit.Decision.Skipping
import Presubmit.Journal.Verdict

/-! The journal of builders that are skipped or have to run. -/
namespace Presubmit

def RunMode.text : RunMode → String
  | .unspecified => "Unspecified"
  | .always => "AlwaysRun"
  | .onMatch => "OnlyRunOnFileMatch"

namespace Builder

private def patternEvents (b : Builder) (affected : List String) : List Event :=
  if b.condition.patterns.isEmpty then
    [⟨.debug, .skipper, "only-run-on-file-match rule has no patterns", [("builder", b.name)]⟩]
  else
    match b.condition.patterns.mapM Glob.compileRule with
    | .error _ => []
    | .ok patterns =>
      match requiring? patterns affected with
      | none => []
      | some path =>
        [⟨.debug, .skipper, "file requires builder", [("builder", b.name), ("path", path)]⟩]

private def outcomeEvent (b : Builder) : BuilderOutcome → Event
  | .irrelevant =>
    ⟨.info, .skipper, "skipping image builder; changes don't affect the build",
      [("builder", b.name)]⟩
  | .unmatched =>
    ⟨.info, .skipper, "skipping builder; no file matches its run-when patterns",
      [("builder", b.name)]⟩
  | .run =>
    ⟨.debug, .skipper, "must run builder",
      [("builder", b.name), ("mode", b.condition.mode.text)]⟩

def events (spareImages : Bool) (affected : List String) (b : Builder) : List Event :=
  let consulted := !(spareImages && b.buildsImage) && b.awaitsMatch affected
  (if consulted then b.patternEvents affected else []) ++
    match b.outcome spareImages affected with
    | .ok o => [b.outcomeEvent o]
    | .error _ => []

end Builder

namespace Skipping

private def imageEvents (affected : List String) (irrelevance : IrrelevantFiles) : List Event :=
  if affected.isEmpty then
    [⟨.debug, .skipper, "no affected files; image builders can't be ignored", []⟩]
  else
    let remaining := irrelevance.retain affected
    affected.map irrelevance.pathEvent ++
      if remaining.isEmpty then
        [⟨.info, .skipper,
          "all files ruled out by build-irrelevant patterns; image builders are irrelevant", []⟩]
      else
        [⟨.debug, .skipper, "files still relevant to image builders",
          [("files", Event.listText remaining)]⟩]

/-- Nothing is reported after the first builder that has no outcome. -/
def events (builders : List Builder) (affected : List String) (irrelevance : IrrelevantFiles) :
    List Event :=
  let spareImages := sparesImages affected irrelevance
  let decided := builders.takeWhile fun b => (b.outcome spareImages affected).isOk
  imageEvents affected irrelevance ++ decided.flatMap (Builder.events spareImages affected)

end Skipping

end Presubmit
