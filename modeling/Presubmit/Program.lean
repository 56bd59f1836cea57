import Presubmit.Document.Answer
import Presubmit.Document.Request
import Presubmit.Journal.Request
import Presubmit.Json.Parser
import Presubmit.Json.Printer

/-! The program as a function: the bytes of one request in, one line of JSON and the journal out. -/
namespace Presubmit

namespace Request

def answer (settings : Settings) : Request → Except Failure Json
  | .verdict r => (r.answer settings).map Verdict.toJson
  | .plan r => (r.answer settings).map Plan.toJson
  | .skipping r => (r.answer settings).map Skipping.toJson

def events (settings : Settings) : Request → List Event
  | .verdict r => r.events settings
  | .plan r => r.events settings
  | .skipping r => r.events settings

end Request

namespace Invocation

/-- A text that is no document is malformed, and so is one that has no invocation and could not be
read as a whole. -/
def ofText (text : String) : Except DecodeError Invocation :=
  match Json.parse? text with
  | none => .error .malformed
  | some j =>
    match decode .text j with
    | .ok e => .ok e
    | .error e => .error (if j.readable maxDepth then e else .malformed)

end Invocation

structure Response where
  exitCode : UInt8
  output : String
  journal : List String
deriving DecidableEq, Repr

namespace Response

/-- One line of JSON. -/
def line (j : Json) : String :=
  j.render ++ "\n"

/-- The keys of an answer are sorted. -/
def ofAnswer (j : Json) : Response :=
  ⟨0, line j.sorted, []⟩

def ofFailure (f : Failure) : Response :=
  ⟨1, line (ErrorReport.ofFailure f).toJson, []⟩

def unreadable : Response :=
  ⟨1, "", ["testplan-engine: read error: stream did not contain valid UTF-8"]⟩

def ofText (threshold : Nat) (text : String) : Response :=
  match Invocation.ofText text with
  | .error e => ofFailure (.undecodable e)
  | .ok e =>
    let response :=
      match e.request.answer e.settings with
      | .ok j => ofAnswer j
      | .error f => ofFailure f
    { response with journal := Event.lines threshold (e.request.events e.settings) }

def ofBytes (threshold : Nat) (bytes : ByteArray) : Response :=
  match String.fromUTF8? bytes with
  | none => unreadable
  | some text => ofText threshold text

end Response

end Presubmit
