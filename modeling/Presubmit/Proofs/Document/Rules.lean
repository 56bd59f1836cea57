import Presubmit.Document.Rules
import Presubmit.Document.Suite
import Presubmit.Proofs.Document.Records

/-! Rule documents, and those about suites and builders: their text is exact, and what they were
written from is read back, field by field. -/
namespace Presubmit

open Fields

namespace IrrelevanceRules

@[simp] theorem exact_toJson (r : IrrelevanceRules) : r.toJson.Exact := by
  simp [toJson]

theorem reads_toJson (r : IrrelevanceRules) : decode.Reads r.toJson r := by
  refine .record (Find.map IrrelevanceRules.mk ?patterns)
  exact .withDefault (by simp) (.texts r.patterns)

end IrrelevanceRules

namespace Package

@[simp] theorem exact_toJson (p : Package) : p.toJson.Exact := by
  simp [toJson]

theorem reads_toJson (p : Package) : decode.Reads p.toJson p := by
  refine .record ((Find.map Package.mk ?name).seq ?sourcePaths)
  case name => exact .withDefault (by simp) (.text p.name)
  case sourcePaths => exact .withDefault (by simp) (.texts p.sourcePaths)

@[simp] theorem exact_graphToJson (ps : List Package) : (graphToJson ps).Exact := by
  simp [graphToJson]

theorem reads_graphToJson (ps : List Package) : decodeGraph.Reads (graphToJson ps) ps :=
  .record (.withDefault (by simp) (.list reads_toJson ps))

end Package

namespace RelevanceRules

@[simp] theorem exact_toJson (r : RelevanceRules) : r.toJson.Exact := by
  cases r <;> simp [toJson]

theorem reads_toJson (r : RelevanceRules) : decode.Reads r.toJson r := by
  cases r with
  | paths listed => exact .tagged rfl (.map RelevanceRules.paths (.texts listed))
  | dependencies packages =>
    exact .tagged rfl (.map RelevanceRules.dependencies (Package.reads_graphToJson packages))

end RelevanceRules

namespace Effect

@[simp] theorem exact_toJson (e : Effect) : e.toJson.Exact := by
  simp [toJson]

theorem reads_toJson (e : Effect) : decode.Reads e.toJson e := by
  refine .record (((((((Find.map Effect.mk ?hw).seq ?vm).seq ?nonTast).seq ?targets).seq
    ?oneof).seq ?only).seq ?also)
  case hw => exact .withDefault (by simp) (.flag e.disableHw)
  case vm => exact .withDefault (by simp) (.flag e.disableVm)
  case nonTast => exact .withDefault (by simp) (.flag e.disableNonTast)
  case targets => exact .withDefault (by simp) (.texts e.onlyTargets)
  case oneof => exact .optional (by simp) (.optionalText e.oneofGroup)
  case only => exact .optional (by simp) (.optionalText e.onlyGroup)
  case also => exact .optional (by simp) (.optionalText e.alsoGroup)

end Effect

namespace Restriction

@[simp] theorem exact_toJson (r : Restriction) : r.toJson.Exact := by
  cases hpath : r.path <;> cases hpattern : r.pattern <;>
    simp [toJson, Json.entry?, hpath, hpattern]

/-- A scope that was left out is absent, and the others stand at their keys. -/
theorem reads_toJson (r : Restriction) : decode.Reads r.toJson r := by
  refine .record (((Find.map Restriction.mk ?path).seq ?pattern).seq ?effect)
  case path => exact .optional_entry (by simp) .text fun _ => nofun
  case pattern => exact .optional_entry (by simp) .text fun _ => nofun
  case effect => exact .withDefault (by simp) r.effect.reads_toJson

@[simp] theorem exact_listToJson (rs : List Restriction) : (listToJson rs).Exact := by
  simp [listToJson]

theorem reads_listToJson (rs : List Restriction) : decodeList.Reads (listToJson rs) rs :=
  .record (.withDefault (by simp) (.list reads_toJson rs))

end Restriction

namespace SuiteKind

@[simp] theorem exact_toJson (k : SuiteKind) : k.toJson.Exact :=
  Json.exact_nameIn names k

theorem reads_toJson (k : SuiteKind) : decode.Reads k.toJson k :=
  .enum (by decide) (by cases k <;> decide)

end SuiteKind

namespace HwFramework

@[simp] theorem exact_toJson (f : HwFramework) : f.toJson.Exact :=
  Json.exact_nameIn names f

theorem reads_toJson (f : HwFramework) : decode.Reads f.toJson f :=
  .enum (by decide) (by cases f <;> decide)

end HwFramework

namespace SuiteCommon

@[simp] theorem exact_toJson (c : SuiteCommon) : c.toJson.Exact := by
  simp [toJson]

theorem reads_toJson (c : SuiteCommon) : decode.Reads c.toJson c := by
  refine .record ((((Find.map SuiteCommon.mk ?name).seq ?critical).seq ?disabled).seq ?groups)
  case name => exact .required (by simp) (.text c.name)
  case critical =>
    have hnull : ∀ b, Json.bool b ≠ .null := fun _ => nofun
    exact .optional (by simp) (.option .flag hnull c.critical)
  case disabled => exact .withDefault (by simp) (.flag c.disabledByDefault)
  case groups => exact .withDefault (by simp) (.texts c.groups)

end SuiteCommon

namespace Suite

variable {k : SuiteKind}

@[simp] theorem exact_toJson (s : Suite k) : s.toJson.Exact := by
  obtain ⟨common, detail⟩ := s
  cases detail <;> simp [toJson, SuiteDetail.entries]

/-- One record for each kind; the common part is a field of its own in all of them. -/
theorem reads_toJson (s : Suite k) : (decode k).Reads s.toJson s := by
  obtain ⟨common, detail⟩ := s
  refine .record ((Find.map Suite.mk ?common).seq ?detail)
  case common =>
    have hentry : valuesAt "common" (("common", common.toJson) :: detail.entries) =
        [common.toJson] := by
      cases detail <;> simp [SuiteDetail.entries]
    exact .required hentry common.reads_toJson
  case detail =>
    cases detail with
    | hw board suite framework =>
      refine ((Find.map SuiteDetail.hw ?board).seq ?suite).seq ?framework
      case board => exact .required (by simp [SuiteDetail.entries]) (.text board)
      case suite => exact .withDefault (by simp [SuiteDetail.entries]) (.text suite)
      case framework =>
        exact .withDefault (by simp [SuiteDetail.entries]) framework.reads_toJson
    | vm suite =>
      refine Find.map SuiteDetail.vm ?_
      exact .withDefault (by simp [SuiteDetail.entries]) (.text suite)
    | tastVm suite expressions =>
      refine (Find.map SuiteDetail.tastVm ?suite).seq ?expressions
      case suite => exact .withDefault (by simp [SuiteDetail.entries]) (.text suite)
      case expressions => exact .withDefault (by simp [SuiteDetail.entries]) (.texts expressions)
    | moblabVm type =>
      refine Find.map SuiteDetail.moblabVm ?_
      exact .withDefault (by simp [SuiteDetail.entries]) (.text type)

end Suite

namespace Requirement

variable {k : SuiteKind}

@[simp] theorem exact_suitesToJson (suites : Option (List (Suite k))) :
    (suitesToJson suites).Exact := by
  simp [suitesToJson]

theorem reads_suitesToJson (suites : Option (List (Suite k))) :
    (Decoder.option (Decoder.list (Suite.decode k))).Reads (suitesToJson suites) suites :=
  .option (.list Suite.reads_toJson) (fun _ => nofun) suites

@[simp] theorem exact_toJson (r : Requirement) : r.toJson.Exact := by
  simp [toJson]

theorem reads_toJson (r : Requirement) : decode.Reads r.toJson r := by
  refine .record (((((Find.map Requirement.mk ?criteria).seq ?hw).seq ?vm).seq ?tastVm).seq
    ?moblabVm)
  case criteria =>
    have hnull : ∀ c : Criteria, c.toJson ≠ .null := fun _ => nofun
    exact .optional (by simp) (.option Criteria.reads_toJson hnull r.criteria)
  case hw => exact .optional (by simp) (reads_suitesToJson r.hw)
  case vm => exact .optional (by simp) (reads_suitesToJson r.vm)
  case tastVm => exact .optional (by simp) (reads_suitesToJson r.tastVm)
  case moblabVm => exact .optional (by simp) (reads_suitesToJson r.moblabVm)

@[simp] theorem exact_listToJson (rs : List Requirement) : (listToJson rs).Exact := by
  simp [listToJson]

theorem reads_listToJson (rs : List Requirement) : decodeList.Reads (listToJson rs) rs :=
  .record (.withDefault (by simp) (.list reads_toJson rs))

end Requirement

namespace RunMode

@[simp] theorem exact_toJson (m : RunMode) : m.toJson.Exact :=
  Json.exact_nameIn names m

theorem reads_toJson (m : RunMode) : decode.Reads m.toJson m :=
  .enum (by decide) (by cases m <;> decide)

end RunMode

namespace RunCondition

@[simp] theorem exact_toJson (c : RunCondition) : c.toJson.Exact := by
  simp [toJson]

theorem reads_toJson (c : RunCondition) : decode.Reads c.toJson c := by
  refine .record ((Find.map RunCondition.mk ?mode).seq ?patterns)
  case mode => exact .withDefault (by simp) c.mode.reads_toJson
  case patterns => exact .withDefault (by simp) (.texts c.patterns)

end RunCondition

namespace Builder

@[simp] theorem exact_toJson (b : Builder) : b.toJson.Exact := by
  simp [toJson]

theorem reads_toJson (b : Builder) : decode.Reads b.toJson b := by
  refine .record (((Find.map Builder.mk ?name).seq ?artifactTypes).seq ?condition)
  case name => exact .required (by simp) (.text b.name)
  case artifactTypes => exact .withDefault (by simp) (.texts b.artifactTypes)
  case condition => exact .withDefault (by simp) b.condition.reads_toJson

end Builder

end Presubmit
