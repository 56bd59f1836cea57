import Presubmit.Change.Patchset
import Presubmit.Change.SourceRoots
import Presubmit.Json.Record

/-! Documents about changes. -/
namespace Presubmit

namespace Patchset

def toJson (p : Patchset) : Json :=
  .obj
    [("host", .str p.host),
     ("change", .int p.change.toNat),
     ("patchset", .int p.number.toNat)]

def shape : Shape := ⟨"ChangeReference", ["host", "change", "patchset"]⟩

def fields : Fields Patchset :=
  Patchset.mk <$> Fields.required "host" Decoder.text
    <*> Fields.required "change" Decoder.uint64
    <*> Fields.required "patchset" Decoder.uint32

def decode : Decoder Patchset :=
  Decoder.record shape fields

end Patchset

namespace Revision

/-- A revision holds the fields of its patchset among its own. -/
def toJson (r : Revision) : Json :=
  .obj
    [("host", .str r.patchset.host),
     ("change", .int r.patchset.change.toNat),
     ("patchset", .int r.patchset.number.toNat),
     ("project", .str r.project),
     ("branch", Json.ofOption .str r.branch),
     ("files", Json.strings r.files)]

def shape : Shape := ⟨"ChangeRevision", ["project", "branch", "files"]⟩

def decode : Decoder Revision :=
  Decoder.spliced shape Patchset.shape
    ((fun project branch files patchset => Revision.mk patchset project branch files)
      <$> Fields.required "project" Decoder.text
      <*> Fields.optional "branch" Decoder.text
      <*> Fields.withDefault "files" [] (Decoder.list Decoder.text))
    Patchset.fields
    (fun build patchset => build patchset)

end Revision

namespace Revisions

def decode : Decoder Revisions := fun o j =>
  (Decoder.list Revision.decode o j).map Revisions.mk

end Revisions

namespace Placement

def toJson : Placement → Json
  | .single root => .str root
  | .byBranch roots => Json.ofDict .str roots

/-- Text or a map of texts; anything else has no reading at all. -/
def decode : Decoder Placement
  | _, .str root => .ok (.single root)
  | o, j =>
    match Decoder.dict Decoder.text o j with
    | .ok roots => .ok (.byBranch roots)
    | .error _ => .error (.noAlternative "ProjectRoots")

end Placement

namespace SourceRoots

def toJson (s : SourceRoots) : Json :=
  Json.ofDict Placement.toJson s.projects

def decode : Decoder SourceRoots := fun o j =>
  (Decoder.dict Placement.decode o j).map SourceRoots.mk

end SourceRoots

end Presubmit
