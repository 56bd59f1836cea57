import Presubmit.Proofs.Document.Formats
import Presubmit.Proofs.Request.Envelope

/-! What the program prints for the bytes that it was given: one JSON document on a line of its own,
either the answer that was asked for or a report of the failure. Only bytes that are no text are met
with silence. -/
namespace Presubmit

open Fields (valuesAt)

namespace Json

theorem sortedItems_eq (items : List Json) : sortedItems items = items.map sorted := by
  induction items with
  | nil => rfl
  | cons j js ih => rw [sortedItems, ih, List.map_cons]

theorem sortedFields_eq (fields : List (String × Json)) :
    sortedFields fields = fields.map fun f => (f.1, f.2.sorted) := by
  induction fields with
  | nil => rfl
  | cons f fs ih => rw [sortedFields, ih, List.map_cons]

theorem Exact.sorted {j : Json} (h : j.Exact) : j.sorted.Exact := by
  induction h with
  | null => exact .null
  | bool b => exact .bool b
  | int i hlo hhi => exact .int i hlo hhi
  | str s => exact .str s
  | arr items _ ih =>
    rw [Json.sorted, sortedItems_eq]
    exact exact_arr_iff.2 (List.forall_mem_map.2 ih)
  | obj fields _ ih =>
    rw [Json.sorted, sortedFields_eq]
    refine exact_obj_iff.2 fun e he => ?_
    obtain ⟨f, hf, rfl⟩ := List.mem_map.1 (Dict.mem_of_mem_entries_ofList he)
    exact ih f hf

end Json

@[simp] theorem Skipping.exact_toJson (s : Skipping) : s.toJson.Exact := by
  simp [toJson]

@[simp] theorem UnitSource.exact_toJson (c : UnitSource) : c.toJson.Exact := by
  simp [toJson]

@[simp] theorem PlanUnit.exact_toJson {k : SuiteKind} (u : PlanUnit k) : u.toJson.Exact := by
  simp [toJson]

@[simp] theorem Plan.exact_toJson (p : Plan) : p.toJson.Exact := by
  simp [toJson]

@[simp] theorem ErrorReport.exact_toJson (e : ErrorReport) : e.toJson.Exact := by
  cases hfield : e.field <;> simp [toJson, Json.entry?, hfield]

theorem Request.exact_of_answer {settings : Settings} {r : Request} {answer : Json}
    (h : r.answer settings = .ok answer) : answer.Exact := by
  cases r with
  | verdict r =>
    obtain ⟨v, _, rfl⟩ := map_eq_ok_iff.1 h
    exact v.exact_toJson
  | plan r =>
    obtain ⟨p, _, rfl⟩ := map_eq_ok_iff.1 h
    exact p.exact_toJson
  | skipping r =>
    obtain ⟨s, _, rfl⟩ := map_eq_ok_iff.1 h
    exact s.exact_toJson

theorem Invocation.exists_within_of_ofText {text : String} {i : Invocation}
    (h : ofText text = .ok i) :
    ∃ j layout, Json.parse? text = some j ∧ j.layout? = some layout ∧ i.Within layout := by
  rw [ofText_eq] at h
  obtain ⟨j, hj, hdecode⟩ := Decoder.exists_document_of_ofText h
  obtain ⟨layout, hlayout, hwithin⟩ := exists_within_of_decode hdecode
  exact ⟨j, layout, hj, hlayout, hwithin⟩

namespace Response

/-- The output is one document and the end of its line. -/
def Prints (r : Response) (doc : Json) : Prop :=
  r.output = doc.render ++ "\n" ∧ Json.parse? r.output = some doc

theorem prints_of_line {r : Response} {doc : Json} (hline : r.output = line doc)
    (hdoc : doc.Exact) : r.Prints doc := by
  have hblank : ∀ c ∈ "\n".toList, Json.isBlank c = true := by simp [Json.isBlank]
  refine ⟨hline, ?_⟩
  rw [hline]
  exact Json.parse?_render_append hdoc hblank

/-- The answer of the request in the document that the bytes hold, under the settings beside it. -/
def Asked (bytes : ByteArray) (answer : Json) : Prop :=
  ∃ text j layout i, String.fromUTF8? bytes = some text ∧ Json.parse? text = some j ∧
    j.layout? = some layout ∧ Invocation.Within i layout ∧
    i.request.answer i.settings = .ok answer

/-- Why the bytes have no answer. -/
inductive Refused (bytes : ByteArray) : Option Failure → Prop where
  | unreadable : String.fromUTF8? bytes = none → Refused bytes none
  | undecodable {text : String} {e : DecodeError} : String.fromUTF8? bytes = some text →
      Invocation.ofText text = .error e → Refused bytes (some (.undecodable e))
  | unanswered {text : String} {i : Invocation} {f : Failure} :
      String.fromUTF8? bytes = some text → Invocation.ofText text = .ok i →
      i.request.answer i.settings = .error f → Refused bytes (some f)

/-- The entries of a report. It has a field exactly if the request was invalid. -/
structure Reports (f : Option Failure) (entries : List (String × Json)) : Prop where
  error : valuesAt "error" entries = [.bool true]
  message : ∃ text, valuesAt "message" entries = [.str text]
  field_iff : valuesAt "field" entries ≠ [] ↔ ∃ field reason, f = some (.invalid field reason)
  invalid : ∀ field reason, f = some (.invalid field reason) →
    valuesAt "field" entries = [.str field] ∧ valuesAt "message" entries = [.str reason]

/-- The response keeps to the protocol. -/
inductive Answers (r : Response) (bytes : ByteArray) : Prop where
  | result {answer : Json} : Asked bytes answer → r.exitCode = 0 → r.Prints answer.sorted →
      Answers r bytes
  | failure {f : Option Failure} {entries : List (String × Json)} : Refused bytes f →
      r.exitCode = 1 → r.Prints (.obj entries) → Reports f entries → Answers r bytes

theorem reports_ofFailure (f : Failure) :
    Reports (some f)
      ([("error", .bool true), ("message", .str (ErrorReport.ofFailure f).message)] ++
        Json.entry? "field" .str (ErrorReport.ofFailure f).field) := by
  constructor
  case error => simp
  case message => exact ⟨(ErrorReport.ofFailure f).message, by simp⟩
  case field_iff => cases f <;> simp [ErrorReport.ofFailure]
  case invalid =>
    intro field reason hf
    cases hf
    simp [ErrorReport.ofFailure]

theorem answers_of_failure {r : Response} {bytes : ByteArray} {f : Failure}
    (hrefused : Refused bytes (some f)) (hexit : r.exitCode = 1)
    (hline : r.output = line (ErrorReport.ofFailure f).toJson) : r.Answers bytes :=
  .failure hrefused hexit (prints_of_line hline (ErrorReport.exact_toJson _))
    (reports_ofFailure f)

theorem answers_of_text {threshold : Nat} {bytes : ByteArray} {text : String}
    (htext : String.fromUTF8? bytes = some text) : (ofText threshold text).Answers bytes := by
  unfold ofText
  cases hi : Invocation.ofText text with
  | error e => exact answers_of_failure (.undecodable htext hi) rfl rfl
  | ok i =>
    cases hanswer : i.request.answer i.settings with
    | error f =>
      simp only [hanswer]
      exact answers_of_failure (.unanswered htext hi hanswer) rfl rfl
    | ok answer =>
      obtain ⟨j, layout, hj, hlayout, hwithin⟩ := Invocation.exists_within_of_ofText hi
      simp only [hanswer]
      exact .result ⟨text, j, layout, i, htext, hj, hlayout, hwithin, hanswer⟩ rfl
        (prints_of_line rfl (Request.exact_of_answer hanswer).sorted)

/-- Nothing is printed where a document was due. -/
theorem not_answers_unreadable (bytes : ByteArray) : ¬ unreadable.Answers bytes := by
  have hsilent : ∀ doc, ¬ unreadable.Prints doc := by
    rintro doc ⟨hline, -⟩
    -- A line has at least the character that ends it.
    have hlength := congrArg String.length hline
    rw [String.length_append] at hlength
    have hempty : unreadable.output.length = 0 := rfl
    have hend : "\n".length = 1 := rfl
    omega
  rintro (⟨-, -, hprints⟩ | ⟨-, -, hprints, -⟩)
  · exact hsilent _ hprints
  · exact hsilent _ hprints

/-- Every text is answered in the protocol, be it an invocation or not; other bytes never are. -/
theorem ofBytes_answers_iff (threshold : Nat) (bytes : ByteArray) :
    (ofBytes threshold bytes).Answers bytes ↔ bytes.IsValidUTF8 := by
  unfold ofBytes
  by_cases hvalid : bytes.IsValidUTF8
  · have htext : String.fromUTF8? bytes = some (String.fromUTF8 bytes hvalid) := dif_pos hvalid
    rw [htext]
    exact iff_of_true (answers_of_text htext) hvalid
  · have htext : String.fromUTF8? bytes = none := dif_neg hvalid
    rw [htext]
    exact iff_of_false (not_answers_unreadable bytes) hvalid

theorem not_forall_ofBytes_answers :
    ¬ ∀ threshold bytes, (ofBytes threshold bytes).Answers bytes := by
  intro h
  have hinvalid : ¬ ByteArray.IsValidUTF8 ⟨#[255]⟩ := by decide
  have htext : String.fromUTF8? ⟨#[255]⟩ = none := dif_neg hinvalid
  have hanswers := h 0 ⟨#[255]⟩
  rw [ofBytes, htext] at hanswers
  exact not_answers_unreadable _ hanswers

end Response

end Presubmit
