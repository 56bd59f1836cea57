import Presubmit.Decision.Request
import Presubmit.Document.Suite

/-! Answers as documents. -/
namespace Presubmit

namespace PointlessReason

def names : List (String × PointlessReason) :=
  [("NONE", .none),
   ("IRRELEVANT_TO_KNOWN_NON_BUILD_DIRECTORIES", .knownNonBuild),
   ("IRRELEVANT_TO_DEPENDENCY_GRAPH", .dependencyGraph)]

def toJson (r : PointlessReason) : Json :=
  Json.nameIn names r

def decode : Decoder PointlessReason :=
  Decoder.enum names

end PointlessReason

namespace Verdict

def toJson (v : Verdict) : Json :=
  .obj [("build_is_pointless", .bool v.pointless), ("pointless_build_reason", v.reason.toJson)]

def shape : Shape :=
  ⟨"PointlessBuildVerdict", ["build_is_pointless", "pointless_build_reason"]⟩

def decode : Decoder Verdict :=
  Decoder.record shape <|
    Verdict.mk <$> Fields.required "build_is_pointless" Decoder.flag
      <*> Fields.required "pointless_build_reason" PointlessReason.decode

end Verdict

namespace Skipping

def toJson (s : Skipping) : Json :=
  .obj
    [("builds_to_run", Json.strings s.run),
     ("skip_for_global_build_irrelevance", Json.strings s.irrelevant),
     ("skip_for_run_when_rules", Json.strings s.unmatched)]

end Skipping

namespace UnitSource

def toJson (c : UnitSource) : Json :=
  .obj
    [("build_target", .str c.target),
     ("builder_name", .str c.builder),
     ("build_payload", c.payload.toJson)]

end UnitSource

namespace PlanUnit

def toJson {k : SuiteKind} (u : PlanUnit k) : Json :=
  .obj [("common", u.source.toJson), ("suites", Json.ofList Suite.toJson u.suites)]

end PlanUnit

namespace Plan

def toJson (p : Plan) : Json :=
  .obj
    [("hw_test_units", Json.ofList PlanUnit.toJson p.hw),
     ("vm_test_units", Json.ofList PlanUnit.toJson p.vm),
     ("tast_vm_test_units", Json.ofList PlanUnit.toJson p.tastVm),
     ("moblab_vm_test_units", Json.ofList PlanUnit.toJson p.moblabVm)]

end Plan

/-- What is written in place of an answer. -/
structure ErrorReport where
  message : String
  field : Option String
deriving DecidableEq, Repr

namespace ErrorReport

/-- A request that is invalid names the field at fault beside the message. -/
def ofFailure : Failure → ErrorReport
  | .invalid field reason => ⟨reason, some field⟩
  | f => ⟨f.message, none⟩

def toJson (e : ErrorReport) : Json :=
  .obj
    ([("error", .bool true), ("message", .str e.message)] ++
      Json.entry? "field" .str e.field)

end ErrorReport

end Presubmit
