import Presubmit.Json.Record
import Presubmit.Settings

/-! Documents with settings. Every setting that is not given keeps its standard value. -/
namespace Presubmit

namespace UnmappedPolicy

def names : List (String × UnmappedPolicy) :=
  [("fail", .refuse), ("skip_change", .skip)]

def decode : Decoder UnmappedPolicy :=
  Decoder.enum names

end UnmappedPolicy

namespace BuildMatching

def names : List (String × BuildMatching) :=
  [("target_and_builder", .byTargetAndBuilder), ("target_only", .byTarget)]

def decode : Decoder BuildMatching :=
  Decoder.enum names

end BuildMatching

namespace Settings

def shape : Shape where
  name := "Config"
  fields :=
    ["board_priorities", "unmapped_projects", "build_keying", "test_artifact_types",
     "dep_source_path_prefix"]

def decode : Decoder Settings :=
  Decoder.record shape <|
    Settings.mk
      <$> Fields.withDefault "board_priorities" standard.priorities
        (Decoder.dict Decoder.int32)
      <*> Fields.withDefault "unmapped_projects" standard.unmapped UnmappedPolicy.decode
      <*> Fields.withDefault "build_keying" standard.matching BuildMatching.decode
      <*> Fields.withDefault "test_artifact_types" standard.testArtifacts
        (Decoder.list Decoder.text)
      <*> Fields.withDefault "dep_source_path_prefix" standard.dependencyPrefix Decoder.text

end Settings

end Presubmit
