import Presubmit.Decision.Skipping
import Presubmit.Json.Record
import Presubmit.Rules.Relevance
import Presubmit.Rules.Restriction

/-! Documents with rules about files. -/
namespace Presubmit

namespace IrrelevanceRules

def none : IrrelevanceRules := ⟨[]⟩

def toJson (r : IrrelevanceRules) : Json :=
  .obj [("irrelevant_file_patterns", Json.strings r.patterns)]

def shape : Shape := ⟨"BuildIrrelevanceConfig", ["irrelevant_file_patterns"]⟩

def decode : Decoder IrrelevanceRules :=
  Decoder.record shape <|
    IrrelevanceRules.mk <$>
      Fields.withDefault "irrelevant_file_patterns" [] (Decoder.list Decoder.text)

end IrrelevanceRules

namespace Package

def toJson (p : Package) : Json :=
  .obj
    [("package", .str p.name), ("dependency_source_paths", Json.strings p.sourcePaths)]

def shape : Shape := ⟨"PackageDepInfo", ["package", "dependency_source_paths"]⟩

def decode : Decoder Package :=
  Decoder.record shape <|
    Package.mk <$> Fields.withDefault "package" "" Decoder.text
      <*> Fields.withDefault "dependency_source_paths" [] (Decoder.list Decoder.text)

/-- A dependency graph has its packages in its only field. -/
def graphToJson (ps : List Package) : Json :=
  .obj [("package_deps", Json.ofList toJson ps)]

def graphShape : Shape := ⟨"DependencyGraph", ["package_deps"]⟩

def decodeGraph : Decoder (List Package) :=
  Decoder.record graphShape <| Fields.withDefault "package_deps" [] (Decoder.list decode)

end Package

namespace RelevanceRules

def toJson : RelevanceRules → Json
  | .paths listed => .obj [("relevant_paths", Json.strings listed)]
  | .dependencies packages => .obj [("dep_graph", Package.graphToJson packages)]

def decode : Decoder RelevanceRules :=
  Decoder.tagged
    [("relevant_paths", fun o j => (Decoder.list Decoder.text o j).map .paths),
     ("dep_graph", fun o j => (Package.decodeGraph o j).map .dependencies)]

end RelevanceRules

namespace Effect

def toJson (e : Effect) : Json :=
  .obj
    [("disable_hw_tests", .bool e.disableHw),
     ("disable_vm_tests", .bool e.disableVm),
     ("disable_non_tast_tests", .bool e.disableNonTast),
     ("only_test_build_targets", Json.strings e.onlyTargets),
     ("oneof_test_group", Json.ofOption .str e.oneofGroup),
     ("only_test_group", Json.ofOption .str e.onlyGroup),
     ("also_test_group", Json.ofOption .str e.alsoGroup)]

def shape : Shape where
  name := "TestRestriction"
  fields :=
    ["disable_hw_tests", "disable_vm_tests", "disable_non_tast_tests", "only_test_build_targets",
     "oneof_test_group", "only_test_group", "also_test_group"]

def decode : Decoder Effect :=
  Decoder.record shape <|
    Effect.mk <$> Fields.withDefault "disable_hw_tests" false Decoder.flag
      <*> Fields.withDefault "disable_vm_tests" false Decoder.flag
      <*> Fields.withDefault "disable_non_tast_tests" false Decoder.flag
      <*> Fields.withDefault "only_test_build_targets" [] (Decoder.list Decoder.text)
      <*> Fields.optional "oneof_test_group" Decoder.text
      <*> Fields.optional "only_test_group" Decoder.text
      <*> Fields.optional "also_test_group" Decoder.text

end Effect

namespace Restriction

/-- A scope that is not given is left out. -/
def toJson (r : Restriction) : Json :=
  .obj
    (Json.entry? "path" .str r.path ++
      Json.entry? "file_pattern" .str r.pattern ++
      [("test_restriction", r.effect.toJson)])

def shape : Shape :=
  ⟨"SourceTreeTestRestriction", ["path", "file_pattern", "test_restriction"]⟩

def decode : Decoder Restriction :=
  Decoder.record shape <|
    Restriction.mk <$> Fields.optional "path" Decoder.text
      <*> Fields.optional "file_pattern" Decoder.text
      <*> Fields.withDefault "test_restriction" Effect.none Effect.decode

/-- A document of restrictions has them in its only field. -/
def listToJson (rs : List Restriction) : Json :=
  .obj [("source_tree_test_restriction", Json.ofList toJson rs)]

def listShape : Shape := ⟨"SourceTreeTestConfig", ["source_tree_test_restriction"]⟩

def decodeList : Decoder (List Restriction) :=
  Decoder.record listShape <|
    Fields.withDefault "source_tree_test_restriction" [] (Decoder.list decode)

end Restriction

namespace RunMode

def names : List (String × RunMode) :=
  [("unspecified", .unspecified),
   ("always_run", .always),
   ("only_run_on_file_match", .onMatch)]

def toJson (m : RunMode) : Json :=
  Json.nameIn names m

def decode : Decoder RunMode :=
  Decoder.enum names

end RunMode

namespace RunCondition

def unspecified : RunCondition := ⟨.unspecified, []⟩

def toJson (c : RunCondition) : Json :=
  .obj [("mode", c.mode.toJson), ("file_patterns", Json.strings c.patterns)]

def shape : Shape := ⟨"RunWhen", ["mode", "file_patterns"]⟩

def decode : Decoder RunCondition :=
  Decoder.record shape <|
    RunCondition.mk <$> Fields.withDefault "mode" .unspecified RunMode.decode
      <*> Fields.withDefault "file_patterns" [] (Decoder.list Decoder.text)

end RunCondition

namespace Builder

def toJson (b : Builder) : Json :=
  .obj
    [("name", .str b.name),
     ("artifact_types", Json.strings b.artifactTypes),
     ("run_when", b.condition.toJson)]

def shape : Shape := ⟨"BuilderConfig", ["name", "artifact_types", "run_when"]⟩

def decode : Decoder Builder :=
  Decoder.record shape <|
    Builder.mk <$> Fields.required "name" Decoder.text
      <*> Fields.withDefault "artifact_types" [] (Decoder.list Decoder.text)
      <*> Fields.withDefault "run_when" RunCondition.unspecified RunCondition.decode

end Builder

end Presubmit
