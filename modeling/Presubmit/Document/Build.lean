import Presubmit.Build.Record
import Presubmit.Json.Record

/-! Documents about builds. -/
namespace Presubmit

namespace Build.Status

def names : List (String × Build.Status) :=
  [("SCHEDULED", .scheduled),
   ("STARTED", .started),
   ("SUCCESS", .success),
   ("FAILURE", .failure),
   ("INFRA_FAILURE", .infraFailure),
   ("CANCELED", .canceled)]

def toJson (s : Build.Status) : Json :=
  Json.nameIn names s

def decode : Decoder Build.Status :=
  Decoder.enum names

end Build.Status

namespace Artifacts

def toJson (a : Artifacts) : Json :=
  .obj
    [("gs_bucket", .str a.bucket),
     ("gs_path", .str a.path),
     ("files_by_artifact", Json.ofDict Json.strings a.files)]

def shape : Shape := ⟨"BuildArtifacts", ["gs_bucket", "gs_path", "files_by_artifact"]⟩

def decode : Decoder Artifacts :=
  Decoder.record shape <|
    Artifacts.mk <$> Fields.required "gs_bucket" Decoder.text
      <*> Fields.required "gs_path" Decoder.text
      <*> Fields.withDefault "files_by_artifact" ∅ (Decoder.dict (Decoder.list Decoder.text))

end Artifacts

namespace Build

def toJson (b : Build) : Json :=
  .obj
    [("builder_name", .str b.builder),
     ("build_target", Json.ofOption .str b.target),
     ("status", b.status.toJson),
     ("critical", .bool b.critical),
     ("pointless_build", .bool b.pointless),
     ("artifacts", Json.ofOption Artifacts.toJson b.artifacts)]

def shape : Shape where
  name := "BuildRecord"
  fields :=
    ["builder_name", "build_target", "status", "critical", "pointless_build", "artifacts"]

/-- A build that does not say so is critical. -/
def decode : Decoder Build :=
  Decoder.record shape <|
    Build.mk <$> Fields.required "builder_name" Decoder.text
      <*> Fields.optional "build_target" Decoder.text
      <*> Fields.required "status" Build.Status.decode
      <*> Fields.withDefault "critical" true Decoder.flag
      <*> Fields.withDefault "pointless_build" false Decoder.flag
      <*> Fields.optional "artifacts" Artifacts.decode

end Build

namespace Build.Id

def toJson (b : Build.Id) : Json :=
  .obj [("build_target", .str b.target), ("builder_name", .str b.builder)]

def shape : Shape := ⟨"BuildId", ["build_target", "builder_name"]⟩

def decode : Decoder Build.Id :=
  Decoder.record shape <|
    Build.Id.mk <$> Fields.required "build_target" Decoder.text
      <*> Fields.required "builder_name" Decoder.text

end Build.Id

namespace Criteria

def toJson (c : Criteria) : Json :=
  .obj [("build_target", .str c.target), ("builder_name", Json.ofOption .str c.builder)]

def shape : Shape := ⟨"TargetCriteria", ["build_target", "builder_name"]⟩

def decode : Decoder Criteria :=
  Decoder.record shape <|
    Criteria.mk <$> Fields.withDefault "build_target" "" Decoder.text
      <*> Fields.optional "builder_name" Decoder.text

end Criteria

end Presubmit
