import Presubmit.Json.Decoder

/-! Records: objects with known fields, or arrays with the fields in their declared order. Unknown
entries are ignored. Of several faults the first in reading order is reported: the entries as they
stand, then the missing fields as they are declared. -/
namespace Presubmit

structure Shape where
  name : String
  fields : List String

namespace Shape

def expected (s : Shape) : String :=
  "struct " ++ s.name

def expectedLength (s : Shape) : String :=
  if s.fields.length = 1 then
    s.expected ++ " with 1 element"
  else
    s.expected ++ " with " ++ toString s.fields.length ++ " elements"

end Shape

inductive Layout where
  | named (fields : List (String × Json))
  | positional (items : List Json)

structure Record where
  shape : Shape
  origin : Origin
  layout : Layout

structure Fault where
  position : Nat
  cause : DecodeError

/-- A reading of some fields of a record. -/
def Fields (α : Type) :=
  Record → Except Fault α

namespace Fields

variable {α β : Type}

def pure (a : α) : Fields α := fun _ => .ok a

/-- Both readings, or the fault that comes first. -/
def both (f : Fields (α → β)) (a : Fields α) : Fields β := fun r =>
  match f r, a r with
  | .ok f, .ok a => .ok (f a)
  | .error d, .ok _ => .error d
  | .ok _, .error e => .error e
  | .error d, .error e => .error (if e.position < d.position then e else d)

instance : Functor Fields where
  map f a := both (pure f) a

instance : Seq Fields where
  seq f a := both f (a ())

/-- The values at a key, with their positions. -/
def occurrences (name : String) (fields : List (String × Json)) : List (Json × Nat) :=
  (fields.zipIdx.filter fun e => e.1.1 = name).map fun e => (e.1.2, e.2)

def placed (position : Nat) (a : Except DecodeError α) : Except Fault α :=
  a.mapError fun e => ⟨position, e⟩

/-- A field, with its value where it is absent if it may be. -/
def field (name : String) (absent : Option α) (value : Decoder α) : Fields α := fun r =>
  let index := r.shape.fields.idxOf name
  match r.layout with
  | .named fields =>
    match occurrences name fields with
    | [] =>
      match absent with
      | some a => .ok a
      | none => .error ⟨fields.length + index, .missingField name⟩
    | (j, i) :: more => do
      let a ← placed i (value r.origin j)
      match more with
      | [] => .ok a
      | (_, k) :: _ => .error ⟨k, .repeatedField name⟩
  | .positional items =>
    match items[index]? with
    | some j => placed index (value r.origin j)
    | none =>
      match absent with
      | some a => .ok a
      | none => .error ⟨index, .wrongLength index r.shape.expectedLength⟩

def required (name : String) (value : Decoder α) : Fields α :=
  field name none value

def withDefault (name : String) (a : α) (value : Decoder α) : Fields α :=
  field name (some a) value

/-- A field that may be absent or null. -/
def optional (name : String) (value : Decoder α) : Fields (Option α) :=
  field name (some none) (Decoder.option value)

end Fields

namespace Decoder

variable {α β γ : Type}

/-- An array with more items than the record has fields. -/
def surplus (o : Origin) (items fields : Nat) : DecodeError :=
  match o with
  | .text => .trailing
  | .document => .wrongLength items "fewer elements in array"
  | .aside =>
    .wrongLength items
      (if fields = 1 then "1 element in sequence" else toString fields ++ " elements in sequence")

def record (shape : Shape) (fields : Fields α) : Decoder α
  | o, .obj entries => (fields ⟨shape, o, .named entries⟩).mapError Fault.cause
  | o, .arr items => do
    let a ← (fields ⟨shape, o, .positional items⟩).mapError Fault.cause
    if items.length ≤ shape.fields.length then
      .ok a
    else
      .error (surplus o items.length shape.fields.length)
  | _, j => .error (j.mismatch shape.expected)

/-- A record that holds the fields of another one among its own. It is read from objects only, its
own fields first; what belongs to the inner record is set aside meanwhile. -/
def spliced (shape inner : Shape) (own : Fields α) (spliced : Fields β) (build : α → β → γ) :
    Decoder γ
  | o, .obj entries => do
    let a ← (own ⟨shape, o, .named entries⟩).mapError Fault.cause
    let b ← (spliced ⟨inner, .aside, .named entries⟩).mapError Fault.cause
    .ok (build a b)
  | _, j => .error (j.mismatch shape.expected)

end Decoder

end Presubmit
