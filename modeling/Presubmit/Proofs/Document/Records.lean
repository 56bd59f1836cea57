import Presubmit.Document.Answer
import Presubmit.Document.Change
import Presubmit.Proofs.Document.Reading

/-! Documents about changes, builds and verdicts: their text is exact, and what they were written
from is read back, field by field. -/
namespace Presubmit

open Fields

namespace Patchset

@[simp] theorem exact_toJson (p : Patchset) : p.toJson.Exact := by
  simp [toJson]

/-- The fields of a patchset may stand among others. -/
theorem find_fields {p : Patchset} {entries : List (String × Json)}
    (hhost : valuesAt "host" entries = [.str p.host])
    (hchange : valuesAt "change" entries = [.int p.change.toNat])
    (hnumber : valuesAt "patchset" entries = [.int p.number.toNat]) :
    fields.Find entries p := by
  refine ((Find.map Patchset.mk ?host).seq ?change).seq ?number
  case host => exact .required hhost (.text p.host)
  case change => exact .required hchange (.uint64 p.change)
  case number => exact .required hnumber (.uint32 p.number)

theorem reads_toJson (p : Patchset) : decode.Reads p.toJson p :=
  .record (find_fields (by simp) (by simp) (by simp))

end Patchset

namespace Revision

@[simp] theorem exact_toJson (r : Revision) : r.toJson.Exact := by
  simp [toJson]

/-- Own fields and those of the patchset have different names, so neither takes the other's. -/
theorem reads_toJson (r : Revision) : decode.Reads r.toJson r := by
  refine .spliced (((Find.map _ ?project).seq ?branch).seq ?files) ?patchset
  case project => exact .required (by simp) (.text r.project)
  case branch => exact .optional (by simp) (.optionalText r.branch)
  case files => exact .withDefault (by simp) (.texts r.files)
  case patchset => exact Patchset.find_fields (p := r.patchset) (by simp) (by simp) (by simp)

end Revision

namespace Placement

@[simp] theorem exact_toJson (p : Placement) : p.toJson.Exact := by
  cases p <;> simp [toJson]

/-- The two forms are told apart by what is written: a text or a map. -/
theorem reads_toJson (p : Placement) : decode.Reads p.toJson p := by
  intro o
  cases p with
  | single root => rfl
  | byBranch roots =>
    have hroots := Decoder.Reads.dict .text roots o
    simp only [toJson, Json.ofDict] at hroots ⊢
    simp only [decode, hroots]

end Placement

namespace SourceRoots

@[simp] theorem exact_toJson (s : SourceRoots) : s.toJson.Exact := by
  simp [toJson]

theorem reads_toJson (s : SourceRoots) : decode.Reads s.toJson s :=
  (Decoder.Reads.dict Placement.reads_toJson s.projects).map SourceRoots.mk

end SourceRoots

namespace Build.Status

@[simp] theorem exact_toJson (s : Build.Status) : s.toJson.Exact :=
  Json.exact_nameIn names s

theorem reads_toJson (s : Build.Status) : decode.Reads s.toJson s :=
  .enum (by decide) (by cases s <;> decide)

end Build.Status

namespace Artifacts

@[simp] theorem exact_toJson (a : Artifacts) : a.toJson.Exact := by
  simp [toJson]

theorem reads_toJson (a : Artifacts) : decode.Reads a.toJson a := by
  refine .record (((Find.map Artifacts.mk ?bucket).seq ?path).seq ?files)
  case bucket => exact .required (by simp) (.text a.bucket)
  case path => exact .required (by simp) (.text a.path)
  case files => exact .withDefault (by simp) (.dict .texts a.files)

end Artifacts

namespace Build

@[simp] theorem exact_toJson (b : Build) : b.toJson.Exact := by
  simp [toJson]

theorem reads_toJson (b : Build) : decode.Reads b.toJson b := by
  refine .record ((((((Find.map Build.mk ?builder).seq ?target).seq ?status).seq
    ?critical).seq ?pointless).seq ?artifacts)
  case builder => exact .required (by simp) (.text b.builder)
  case target => exact .optional (by simp) (.optionalText b.target)
  case status => exact .required (by simp) b.status.reads_toJson
  case critical => exact .withDefault (by simp) (.flag b.critical)
  case pointless => exact .withDefault (by simp) (.flag b.pointless)
  case artifacts =>
    have hnull : ∀ a : Artifacts, a.toJson ≠ .null := fun _ => nofun
    exact .optional (by simp) (.option Artifacts.reads_toJson hnull b.artifacts)

end Build

namespace Build.Id

@[simp] theorem exact_toJson (b : Build.Id) : b.toJson.Exact := by
  simp [toJson]

theorem reads_toJson (b : Build.Id) : decode.Reads b.toJson b := by
  refine .record ((Find.map Build.Id.mk ?target).seq ?builder)
  case target => exact .required (by simp) (.text b.target)
  case builder => exact .required (by simp) (.text b.builder)

end Build.Id

namespace Criteria

@[simp] theorem exact_toJson (c : Criteria) : c.toJson.Exact := by
  simp [toJson]

theorem reads_toJson (c : Criteria) : decode.Reads c.toJson c := by
  refine .record ((Find.map Criteria.mk ?target).seq ?builder)
  case target => exact .withDefault (by simp) (.text c.target)
  case builder => exact .optional (by simp) (.optionalText c.builder)

end Criteria

namespace PointlessReason

@[simp] theorem exact_toJson (r : PointlessReason) : r.toJson.Exact :=
  Json.exact_nameIn names r

theorem reads_toJson (r : PointlessReason) : decode.Reads r.toJson r :=
  .enum (by decide) (by cases r <;> decide)

end PointlessReason

namespace Verdict

@[simp] theorem exact_toJson (v : Verdict) : v.toJson.Exact := by
  simp [toJson]

theorem reads_toJson (v : Verdict) : decode.Reads v.toJson v := by
  refine .record ((Find.map Verdict.mk ?pointless).seq ?reason)
  case pointless => exact .required (by simp) (.flag v.pointless)
  case reason => exact .required (by simp) v.reason.reads_toJson

end Verdict

end Presubmit
