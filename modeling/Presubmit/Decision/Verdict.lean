import Presubmit.Rules.Irrelevance

/-! Whether the run of one builder is pointless for the affected paths. -/
namespace Presubmit

inductive PointlessReason where
  | none
  | knownNonBuild
  | dependencyGraph
deriving DecidableEq, Repr

structure Verdict where
  pointless : Bool
  reason : PointlessReason
deriving DecidableEq, Repr

namespace Verdict

def necessary : Verdict := ⟨false, .none⟩

def because (reason : PointlessReason) : Verdict := ⟨true, reason⟩

/-- A run without affected paths is necessary. Otherwise irrelevant files are set aside first, and
then those that are not relevant, if it is given which are. -/
def ofAffected (affected : List String) (irrelevance : IrrelevantFiles)
    (relevance : Option (String → Bool)) : Verdict :=
  if affected.isEmpty then
    necessary
  else
    let remaining := irrelevance.retain affected
    if remaining.isEmpty then
      because .knownNonBuild
    else
      let relevant :=
        match relevance with
        | some r => remaining.filter r
        | none => remaining
      if relevant.isEmpty then because .dependencyGraph else necessary

end Verdict

end Presubmit
