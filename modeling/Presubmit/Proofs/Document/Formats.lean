import Presubmit.Proofs.Document.Rules
import Presubmit.Program

/-! The document format as a whole: the kinds of document that are both written and read, the values
they stand for, and their text. Reading undoes writing, so an accepted text changes no further once
it was read and written again. -/
namespace Presubmit

namespace Decoder

variable {α : Type}

/-- The value of a text. A text that is no JSON is malformed, and so is one that is refused and
could not be read as a whole. -/
def ofText (d : Decoder α) (text : String) : Except DecodeError α :=
  match Json.parse? text with
  | none => .error .malformed
  | some j =>
    match d .text j with
    | .ok a => .ok a
    | .error e => .error (if j.readable maxDepth then e else .malformed)

/-- A document that is read as a whole before anything is taken from it. -/
def whenReadable (d : Decoder α) : Decoder α := fun o j =>
  if j.readable maxDepth then d o j else .error .malformed

theorem Reads.whenReadable {d : Decoder α} {j : Json} {a : α}
    (hj : j.readable maxDepth = true) (hd : d.Reads j a) : d.whenReadable.Reads j a := by
  intro o
  rw [Decoder.whenReadable, if_pos hj]
  exact hd o

theorem exists_document_of_ofText {d : Decoder α} {text : String} {a : α}
    (h : d.ofText text = .ok a) : ∃ j, Json.parse? text = some j ∧ d .text j = .ok a := by
  unfold ofText at h
  split at h
  next => cases h
  next j hj =>
    refine ⟨j, hj, ?_⟩
    split at h
    next b hb => rw [hb, h]
    next => cases h

theorem ofText_render {d : Decoder α} {j : Json} {a : α} (hj : j.Exact) (hd : d.Reads j a) :
    d.ofText j.render = .ok a := by
  rw [ofText, Json.parse?_render hj]
  simp only [hd .text]

end Decoder

theorem Invocation.ofText_eq (text : String) :
    Invocation.ofText text = Invocation.decode.ofText text := by
  unfold Invocation.ofText Decoder.ofText
  cases Json.parse? text with
  | none => rfl
  | some j => cases hj : Invocation.decode .text j <;> simp only [hj]

theorem Revision.readable_toJson (r : Revision) : r.toJson.readable maxDepth = true := by
  have hfiles : ∀ texts : List String,
      Json.readableItems (maxDepth - 2) (texts.map .str) = true := by
    intro texts
    induction texts with
    | nil => rfl
    | cons text texts ih => exact ih
  have hbranch : (Json.ofOption .str r.branch).readable (maxDepth - 1) = true := by
    cases r.branch <;> rfl
  simp only [maxDepth, Nat.reduceSub] at hfiles hbranch
  simp only [Revision.toJson, maxDepth, Json.strings, Json.ofList, Json.readable,
    Json.readableFields, hfiles, hbranch, Bool.and_self]

/-- A way of writing values as documents and of taking them from documents again. What is written
has an exact text, and the value is taken from it as it was. -/
structure Codec (α : Type) where
  toJson : α → Json
  decode : Decoder α
  exact_toJson : ∀ a, (toJson a).Exact
  reads_toJson : ∀ a, decode.Reads (toJson a) a

namespace Codec

variable {α : Type} (c : Codec α)

def write (a : α) : String :=
  (c.toJson a).render

def read (text : String) : Except DecodeError α :=
  c.decode.ofText text

/-- A text read and written again. -/
def rewrite (text : String) : Except DecodeError String :=
  (c.read text).map c.write

theorem read_write (a : α) : c.read (c.write a) = .ok a :=
  Decoder.ofText_render (c.exact_toJson a) (c.reads_toJson a)

theorem rewrite_write (a : α) : c.rewrite (c.write a) = .ok (c.write a) := by
  rw [rewrite, read_write, Except.map]

theorem rewrite_rewrite (text : String) : c.rewrite text >>= c.rewrite = c.rewrite text := by
  cases hread : c.read text with
  | error e =>
    rw [rewrite, hread]
    rfl
  | ok a =>
    have honce : c.rewrite text = .ok (c.write a) := by rw [rewrite, hread, Except.map]
    rw [honce]
    exact c.rewrite_write a

end Codec

inductive Format where
  | patchset
  | revision
  | placement
  | sourceRoots
  | buildStatus
  | artifacts
  | build
  | buildId
  | pointlessReason
  | verdict
  | irrelevanceRules
  | relevanceRules
  | dependencyGraph
  | package
  | restrictions
  | restriction
  | effect
  | requirements
  | requirement
  | criteria
  | suiteCommon
  | suiteKind
  | hwFramework
  | suite (kind : SuiteKind)
  | runMode
  | runCondition
  | builder
deriving DecidableEq, Repr

namespace Format

/-- What a document of the format stands for. -/
def Value : Format → Type
  | .patchset => Patchset
  | .revision => Revision
  | .placement => Placement
  | .sourceRoots => SourceRoots
  | .buildStatus => Build.Status
  | .artifacts => Artifacts
  | .build => Build
  | .buildId => Build.Id
  | .pointlessReason => PointlessReason
  | .verdict => Verdict
  | .irrelevanceRules => IrrelevanceRules
  | .relevanceRules => RelevanceRules
  | .dependencyGraph => List Package
  | .package => Package
  | .restrictions => List Restriction
  | .restriction => Restriction
  | .effect => Effect
  | .requirements => List Requirement
  | .requirement => Requirement
  | .criteria => Criteria
  | .suiteCommon => SuiteCommon
  | .suiteKind => SuiteKind
  | .hwFramework => HwFramework
  | .suite kind => Suite kind
  | .runMode => RunMode
  | .runCondition => RunCondition
  | .builder => Builder

/-- How the documents of the format are written and read. A revision is read as a whole first, since
the entries of its patchset stand among its own. -/
def codec : (f : Format) → Codec f.Value
  | .patchset => ⟨Patchset.toJson, Patchset.decode, Patchset.exact_toJson, Patchset.reads_toJson⟩
  | .revision =>
    ⟨Revision.toJson, Revision.decode.whenReadable, Revision.exact_toJson,
      fun r => .whenReadable r.readable_toJson r.reads_toJson⟩
  | .placement =>
    ⟨Placement.toJson, Placement.decode, Placement.exact_toJson, Placement.reads_toJson⟩
  | .sourceRoots =>
    ⟨SourceRoots.toJson, SourceRoots.decode, SourceRoots.exact_toJson, SourceRoots.reads_toJson⟩
  | .buildStatus =>
    ⟨Build.Status.toJson, Build.Status.decode, Build.Status.exact_toJson, Build.Status.reads_toJson⟩
  | .artifacts =>
    ⟨Artifacts.toJson, Artifacts.decode, Artifacts.exact_toJson, Artifacts.reads_toJson⟩
  | .build => ⟨Build.toJson, Build.decode, Build.exact_toJson, Build.reads_toJson⟩
  | .buildId => ⟨Build.Id.toJson, Build.Id.decode, Build.Id.exact_toJson, Build.Id.reads_toJson⟩
  | .pointlessReason =>
    ⟨PointlessReason.toJson, PointlessReason.decode, PointlessReason.exact_toJson,
      PointlessReason.reads_toJson⟩
  | .verdict => ⟨Verdict.toJson, Verdict.decode, Verdict.exact_toJson, Verdict.reads_toJson⟩
  | .irrelevanceRules =>
    ⟨IrrelevanceRules.toJson, IrrelevanceRules.decode, IrrelevanceRules.exact_toJson,
      IrrelevanceRules.reads_toJson⟩
  | .relevanceRules =>
    ⟨RelevanceRules.toJson, RelevanceRules.decode, RelevanceRules.exact_toJson,
      RelevanceRules.reads_toJson⟩
  | .dependencyGraph =>
    ⟨Package.graphToJson, Package.decodeGraph, Package.exact_graphToJson, Package.reads_graphToJson⟩
  | .package => ⟨Package.toJson, Package.decode, Package.exact_toJson, Package.reads_toJson⟩
  | .restrictions =>
    ⟨Restriction.listToJson, Restriction.decodeList, Restriction.exact_listToJson,
      Restriction.reads_listToJson⟩
  | .restriction =>
    ⟨Restriction.toJson, Restriction.decode, Restriction.exact_toJson, Restriction.reads_toJson⟩
  | .effect => ⟨Effect.toJson, Effect.decode, Effect.exact_toJson, Effect.reads_toJson⟩
  | .requirements =>
    ⟨Requirement.listToJson, Requirement.decodeList, Requirement.exact_listToJson,
      Requirement.reads_listToJson⟩
  | .requirement =>
    ⟨Requirement.toJson, Requirement.decode, Requirement.exact_toJson, Requirement.reads_toJson⟩
  | .criteria => ⟨Criteria.toJson, Criteria.decode, Criteria.exact_toJson, Criteria.reads_toJson⟩
  | .suiteCommon =>
    ⟨SuiteCommon.toJson, SuiteCommon.decode, SuiteCommon.exact_toJson, SuiteCommon.reads_toJson⟩
  | .suiteKind =>
    ⟨SuiteKind.toJson, SuiteKind.decode, SuiteKind.exact_toJson, SuiteKind.reads_toJson⟩
  | .hwFramework =>
    ⟨HwFramework.toJson, HwFramework.decode, HwFramework.exact_toJson, HwFramework.reads_toJson⟩
  | .suite kind => ⟨Suite.toJson, Suite.decode kind, Suite.exact_toJson, Suite.reads_toJson⟩
  | .runMode => ⟨RunMode.toJson, RunMode.decode, RunMode.exact_toJson, RunMode.reads_toJson⟩
  | .runCondition =>
    ⟨RunCondition.toJson, RunCondition.decode, RunCondition.exact_toJson, RunCondition.reads_toJson⟩
  | .builder => ⟨Builder.toJson, Builder.decode, Builder.exact_toJson, Builder.reads_toJson⟩

/-- What is written is read back as it was, and rewriting an accepted text twice is rewriting it
once. -/
theorem read_write_rewrite_twice (f : Format) :
    (∀ v : f.Value, f.codec.read (f.codec.write v) = .ok v) ∧
      ∀ text, f.codec.rewrite text >>= f.codec.rewrite = f.codec.rewrite text :=
  ⟨f.codec.read_write, f.codec.rewrite_rewrite⟩

end Format

end Presubmit
