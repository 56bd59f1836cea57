import Presubmit.Decimal.Shortest
import Presubmit.Json.Value
import Presubmit.Text.Quoted

/-! Typed readings of JSON values. A reading that fails says what was found and what was expected.
-/
namespace Presubmit

/-- Where a value is met: in running text, in a document read before, or among the parts of an
object that were set aside until the rest of it was read. Few failures are worded by it. -/
inductive Origin where
  | text
  | document
  | aside
deriving DecidableEq, Repr

inductive Found where
  | null
  | bool (b : Bool)
  | int (i : Int)
  | real (negative : Bool) (magnitude : Decimal.Binary64)
  | str (s : String)
  | sequence
  | map
  | unitVariant
deriving DecidableEq, Repr

inductive DecodeError where
  | malformed
  | wrongType (found : Found) (expected : String)
  | wrongValue (found : Found) (expected : String)
  | wrongLength (length : Nat) (expected : String)
  | missingField (name : String)
  | repeatedField (name : String)
  | unknownVariant (name : String) (known : List String)
  | noAlternative (type : String)
  | noValue
  | trailing
deriving DecidableEq, Repr

abbrev Decoder (α : Type) :=
  Origin → Json → Except DecodeError α

namespace Found

def describe : Found → String
  | .null => "null"
  | .bool b => "boolean `" ++ toString b ++ "`"
  | .int i => "integer `" ++ toString i ++ "`"
  | .real negative x => "floating point `" ++ String.ofList (Decimal.text negative x) ++ "`"
  | .str s => "string " ++ Text.quote s
  | .sequence => "sequence"
  | .map => "map"
  | .unitVariant => "unit variant"

end Found

private def quoted (name : String) : String :=
  "`" ++ name ++ "`"

/-- Two alternatives are joined by a word, more are listed. -/
def oneOf : List String → String
  | [] => "nothing"
  | [a] => quoted a
  | [a, b] => quoted a ++ " or " ++ quoted b
  | names => "one of " ++ String.intercalate ", " (names.map quoted)

/-- What is reported. The word for a malformed document is a placeholder: the parser's own account
of it is left out, and so are the line and the column at which any of these faults lies. -/
def DecodeError.message : DecodeError → String
  | .malformed => "<syntax>"
  | .wrongType found expected => "invalid type: " ++ found.describe ++ ", expected " ++ expected
  | .wrongValue found expected => "invalid value: " ++ found.describe ++ ", expected " ++ expected
  | .wrongLength n expected => "invalid length " ++ toString n ++ ", expected " ++ expected
  | .missingField name => "missing field " ++ quoted name
  | .repeatedField name => "duplicate field " ++ quoted name
  | .unknownVariant name known => "unknown variant " ++ quoted name ++ ", expected " ++ oneOf known
  | .noAlternative type => "data did not match any variant of untagged enum " ++ type
  | .noValue => "expected value"
  | .trailing => "trailing characters"

namespace Json

def found? : Json → Option Found
  | .null => some .null
  | .bool b => some (.bool b)
  | .int i => some (.int i)
  | .real negative x => some (.real negative x)
  | .str s => some (.str s)
  | .arr _ => some .sequence
  | .obj _ => some .map
  | .unreadable => none

/-- The complaint about a value of another type than expected. -/
def mismatch (j : Json) (expected : String) : DecodeError :=
  match j.found? with
  | some found => .wrongType found expected
  | none => .malformed

end Json

namespace Decoder

def text : Decoder String
  | _, .str s => .ok s
  | _, j => .error (j.mismatch "a string")

def flag : Decoder Bool
  | _, .bool b => .ok b
  | _, j => .error (j.mismatch "a boolean")

/-- A whole number within bounds. -/
def whole (name : String) (least greatest : Int) : Decoder Int
  | _, .int i =>
    if least ≤ i ∧ i ≤ greatest then .ok i else .error (.wrongValue (.int i) name)
  | _, j => .error (j.mismatch name)

def uint64 : Decoder UInt64 := fun o j =>
  (whole "u64" 0 18446744073709551615 o j).map fun i => UInt64.ofNat i.toNat

def uint32 : Decoder UInt32 := fun o j =>
  (whole "u32" 0 4294967295 o j).map fun i => UInt32.ofNat i.toNat

def int32 : Decoder Int32 := fun o j =>
  (whole "i32" (-2147483648) 2147483647 o j).map Int32.ofInt

def list {α : Type} (item : Decoder α) : Decoder (List α)
  | o, .arr items => items.mapM (item o)
  | _, j => .error (j.mismatch "a sequence")

def dict {α : Type} (value : Decoder α) : Decoder (Dict α)
  | o, .obj fields =>
    (fields.mapM fun f => (value o f.2).map (Prod.mk f.1)).map Dict.ofList
  | _, j => .error (j.mismatch "a map")

def option {α : Type} (value : Decoder α) : Decoder (Option α)
  | _, .null => .ok none
  | o, j => (value o j).map some

/-- The payload of a variant that carries none. -/
def unit : Decoder Unit
  | _, .null => .ok ()
  | .aside, .obj [] => .ok ()
  | _, j => .error (j.mismatch "unit")

/-- The variant of the name. -/
def variant {α : Type} (known : List (String × α)) (name : String) : Except DecodeError α :=
  match Dict.find name known with
  | some a => .ok a
  | none => .error (.unknownVariant name (known.map Prod.fst))

/-- A variant without payload: its name, or an object with the name as its only key. -/
def enum {α : Type} (known : List (String × α)) : Decoder α
  | _, .str s => variant known s
  | o, .obj [(k, j)] => do
    let a ← variant known k
    unit o j
    .ok a
  | .text, .obj [] => .error .noValue
  | .text, .obj ((k, j) :: _) => do
    let _ ← variant known k
    unit .text j
    .error .noValue
  | _, .obj _ => .error (.wrongValue .map "map with a single key")
  | .text, _ => .error .noValue
  | _, j => .error (j.mismatch "string or map")

/-- A variant with payload: an object with the name as its only key. -/
def tagged {α : Type} (known : List (String × Decoder α)) : Decoder α
  | _, .str s => do
    let _ ← variant known s
    .error (.wrongType .unitVariant "newtype variant")
  | o, .obj [(k, j)] => do
    let d ← variant known k
    d o j
  | .text, .obj [] => .error .noValue
  | .text, .obj ((k, j) :: _) => do
    let d ← variant known k
    let _ ← d .text j
    .error .noValue
  | _, .obj _ => .error (.wrongValue .map "map with a single key")
  | .text, _ => .error .noValue
  | _, j => .error (j.mismatch "string or map")

end Decoder

end Presubmit
