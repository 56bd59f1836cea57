import Presubmit.Json.Token

/-! JSON text to documents. The parser keeps the enclosing arrays and objects on a stack, innermost
first, and takes one token at a time. -/
namespace Presubmit.Json

/-- An entry whose key may be unreadable. -/
abbrev Entry := Option String × Json

/-- An array or object that is still open: what it holds so far, last first, and for an object the
key whose value is being read. -/
inductive Frame where
  | arr (done : List Json)
  | obj (done : List Entry) (key : Option String)

/-- What may come next. -/
inductive Stage where
  | value
  | item
  | key (done : List Entry)
  | colon (done : List Entry) (key : Option String)
  | after (value : Json)

structure Builder where
  stack : List Frame
  stage : Stage

/-- The object of some entries, last first. -/
def ofEntries (done : List Entry) : Json :=
  match done.reverse.mapM fun e => e.1.map fun k => (k, e.2) with
  | some fields => .obj fields
  | none => .unreadable

namespace Builder

def startValue (s : Builder) : Token → Option Builder
  | .null => some ⟨s.stack, .after .null⟩
  | .bool b => some ⟨s.stack, .after (.bool b)⟩
  | .int i => some ⟨s.stack, .after (.int i)⟩
  | .real negative (some x) => some ⟨s.stack, .after (.real negative x)⟩
  | .str (some t) => some ⟨s.stack, .after (.str t)⟩
  | .real _ none | .str none => some ⟨s.stack, .after .unreadable⟩
  | .openArr => some ⟨.arr [] :: s.stack, .item⟩
  | .openObj => some ⟨s.stack, .key []⟩
  | _ => none

/-- Only an object without entries may close where a key is due. -/
def step (s : Builder) (t : Token) : Option Builder :=
  match s.stage, t with
  | .value, t => s.startValue t
  | .item, .closeArr =>
    match s.stack with
    | .arr done :: stack => some ⟨stack, .after (.arr done.reverse)⟩
    | _ => none
  | .item, t => s.startValue t
  | .key done, .str k => some ⟨s.stack, .colon done k⟩
  | .key [], .closeObj => some ⟨s.stack, .after (.obj [])⟩
  | .key _, _ => none
  | .colon done k, .colon => some ⟨.obj done k :: s.stack, .value⟩
  | .colon _ _, _ => none
  | .after v, t =>
    match s.stack, t with
    | .arr done :: stack, .comma => some ⟨.arr (v :: done) :: stack, .value⟩
    | .arr done :: stack, .closeArr => some ⟨stack, .after (.arr (v :: done).reverse)⟩
    | .obj done k :: stack, .comma => some ⟨stack, .key ((k, v) :: done)⟩
    | .obj done k :: stack, .closeObj => some ⟨stack, .after (ofEntries ((k, v) :: done))⟩
    | _, _ => none

def finish (s : Builder) : Option Json :=
  match s.stack, s.stage with
  | [], .after v => some v
  | _, _ => none

end Builder

def ofTokens? (ts : List Token) : Option Json :=
  (ts.foldlM Builder.step ⟨[], .value⟩).bind Builder.finish

/-- The document that a text holds, with nothing but blanks around it. -/
def parse? (text : String) : Option Json :=
  (tokenize text.toList).bind ofTokens?

end Presubmit.Json
