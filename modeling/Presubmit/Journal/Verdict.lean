import Presubmit.Decision.Verdict
import Presubmit.Journal.Event
import Presubmit.Rules.Relevance

/-! The journal of verdicts. -/
namespace Presubmit

namespace IrrelevantFiles

def pathEvent (f : IrrelevantFiles) (path : String) : Event :=
  match f.matching? path with
  | some p =>
    ⟨.debug, .irrelevance, "ignoring build-irrelevant file",
      [("path", path), ("pattern", Text.quote p.text)]⟩
  | none =>
    ⟨.debug, .irrelevance, "file not ruled out by build-irrelevant patterns", [("path", path)]⟩

end IrrelevantFiles

namespace RelevantTree

def loadEvent (r : RelevantTree) : Event :=
  if r.entries.isEmpty then
    ⟨.warn, .relevance, "relevance source declares no paths; every file will be irrelevant", []⟩
  else
    ⟨.debug, .relevance, "relevant paths loaded", [("count", toString r.entries.size)]⟩

def pathEvent (r : RelevantTree) (path : String) : Event :=
  match r.effectsOn? path with
  | some entry =>
    ⟨.debug, .relevance, "file is relevant", [("path", Text.quote path), ("relevant", entry)]⟩
  | none => ⟨.debug, .relevance, "no relevant path covers file", [("path", Text.quote path)]⟩

end RelevantTree

namespace Verdict

private def pointlessInfo (builder message : String) (more : List (String × String)) : Event :=
  ⟨.info, .pointless, message, ("builder", Text.quote builder) :: more⟩

/-- The end of the story, once irrelevant and unrelated files are set aside. -/
private def outcomeEvent (builder : String) (relevant : List String) : Event :=
  if relevant.isEmpty then
    pointlessInfo builder "all files ruled out by relevant paths" []
  else
    pointlessInfo builder "build is not pointless" [("files", Event.listText relevant)]

def events (builder : String) (affected : List String) (irrelevance : IrrelevantFiles)
    (relevance : Option RelevantTree) : List Event :=
  if affected.isEmpty then
    [pointlessInfo builder
      "no affected files, so this can't be a CQ run; build is necessary" []]
  else
    let remaining := irrelevance.retain affected
    affected.map irrelevance.pathEvent ++
      if remaining.isEmpty then
        [pointlessInfo builder "all files ruled out by build-irrelevant patterns" []]
      else
        match relevance with
        | some r =>
          remaining.map r.pathEvent ++ [outcomeEvent builder (remaining.filter r.covers)]
        | none =>
          [pointlessInfo builder "no relevance source provided; no files filtered by it" [],
           outcomeEvent builder remaining]

end Verdict

end Presubmit
