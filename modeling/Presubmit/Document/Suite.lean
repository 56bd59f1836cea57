import Presubmit.Document.Build
import Presubmit.Rules.Requirement

/-! Documents about suites and what is to be tested. -/
namespace Presubmit

namespace SuiteKind

def names : List (String × SuiteKind) :=
  [("hw", .hw), ("vm", .vm), ("tast_vm", .tastVm), ("moblab_vm", .moblabVm)]

def toJson (k : SuiteKind) : Json :=
  Json.nameIn names k

def decode : Decoder SuiteKind :=
  Decoder.enum names

end SuiteKind

namespace HwFramework

def names : List (String × HwFramework) :=
  [("autotest", .autotest), ("tast", .tast)]

def toJson (f : HwFramework) : Json :=
  Json.nameIn names f

def decode : Decoder HwFramework :=
  Decoder.enum names

end HwFramework

namespace SuiteCommon

def toJson (c : SuiteCommon) : Json :=
  .obj
    [("display_name", .str c.name),
     ("critical", Json.ofOption .bool c.critical),
     ("disable_by_default", .bool c.disabledByDefault),
     ("test_suite_groups", Json.strings c.groups)]

def shape : Shape where
  name := "TestSuiteCommon"
  fields := ["display_name", "critical", "disable_by_default", "test_suite_groups"]

def decode : Decoder SuiteCommon :=
  Decoder.record shape <|
    SuiteCommon.mk <$> Fields.required "display_name" Decoder.text
      <*> Fields.optional "critical" Decoder.flag
      <*> Fields.withDefault "disable_by_default" false Decoder.flag
      <*> Fields.withDefault "test_suite_groups" [] (Decoder.list Decoder.text)

end SuiteCommon

namespace SuiteDetail

def entries : {k : SuiteKind} → SuiteDetail k → List (String × Json)
  | _, .hw board suite framework =>
    [("skylab_board", .str board),
     ("suite", .str suite),
     ("hw_test_suite_type", framework.toJson)]
  | _, .vm suite => [("suite", .str suite)]
  | _, .tastVm suite expressions =>
    [("suite_name", .str suite), ("tast_test_expr", Json.strings expressions)]
  | _, .moblabVm type => [("test_type", .str type)]

/-- The fields of a suite of the kind. -/
def shape : SuiteKind → Shape
  | .hw => ⟨"HwTest", ["common", "skylab_board", "suite", "hw_test_suite_type"]⟩
  | .vm => ⟨"VmTest", ["common", "suite"]⟩
  | .tastVm => ⟨"TastVmTest", ["common", "suite_name", "tast_test_expr"]⟩
  | .moblabVm => ⟨"MoblabVmTest", ["common", "test_type"]⟩

def fields : (k : SuiteKind) → Fields (SuiteDetail k)
  | .hw =>
    SuiteDetail.hw <$> Fields.required "skylab_board" Decoder.text
      <*> Fields.withDefault "suite" "" Decoder.text
      <*> Fields.withDefault "hw_test_suite_type" .autotest HwFramework.decode
  | .vm => SuiteDetail.vm <$> Fields.withDefault "suite" "" Decoder.text
  | .tastVm =>
    SuiteDetail.tastVm <$> Fields.withDefault "suite_name" "" Decoder.text
      <*> Fields.withDefault "tast_test_expr" [] (Decoder.list Decoder.text)
  | .moblabVm => SuiteDetail.moblabVm <$> Fields.withDefault "test_type" "" Decoder.text

end SuiteDetail

namespace Suite

def toJson {k : SuiteKind} (s : Suite k) : Json :=
  .obj (("common", s.common.toJson) :: s.detail.entries)

def decode (k : SuiteKind) : Decoder (Suite k) :=
  Decoder.record (SuiteDetail.shape k) <|
    Suite.mk <$> Fields.required "common" SuiteCommon.decode <*> SuiteDetail.fields k

end Suite

namespace Requirement

def suitesToJson {k : SuiteKind} (suites : Option (List (Suite k))) : Json :=
  Json.ofOption (Json.ofList Suite.toJson) suites

def toJson (r : Requirement) : Json :=
  .obj
    [("target_criteria", Json.ofOption Criteria.toJson r.criteria),
     ("hw_test_cfg", suitesToJson r.hw),
     ("vm_test_cfg", suitesToJson r.vm),
     ("tast_vm_test_cfg", suitesToJson r.tastVm),
     ("moblab_vm_test_cfg", suitesToJson r.moblabVm)]

def shape : Shape where
  name := "PerTargetTestRequirements"
  fields :=
    ["target_criteria", "hw_test_cfg", "vm_test_cfg", "tast_vm_test_cfg", "moblab_vm_test_cfg"]

def decode : Decoder Requirement :=
  Decoder.record shape <|
    Requirement.mk <$> Fields.optional "target_criteria" Criteria.decode
      <*> Fields.optional "hw_test_cfg" (Decoder.list (Suite.decode .hw))
      <*> Fields.optional "vm_test_cfg" (Decoder.list (Suite.decode .vm))
      <*> Fields.optional "tast_vm_test_cfg" (Decoder.list (Suite.decode .tastVm))
      <*> Fields.optional "moblab_vm_test_cfg" (Decoder.list (Suite.decode .moblabVm))

/-- A document of requirements has them in its only field. -/
def listToJson (rs : List Requirement) : Json :=
  .obj [("per_target_test_requirements", Json.ofList toJson rs)]

def listShape : Shape := ⟨"TargetTestRequirementsConfig", ["per_target_test_requirements"]⟩

def decodeList : Decoder (List Requirement) :=
  Decoder.record listShape <|
    Fields.withDefault "per_target_test_requirements" [] (Decoder.list decode)

end Requirement

end Presubmit
