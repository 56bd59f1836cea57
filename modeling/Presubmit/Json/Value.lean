import Presubmit.Decimal.Binary64
import Presubmit.Text.Dict

/-! JSON documents, and values as such. Objects keep their entries as written, repeated keys
included. A whole number that fits 64 bits is told apart from every other number. -/
namespace Presubmit

/-- A value is unreadable if it is well formed and yet stands for nothing: a number beyond the range
of the format, a text with half of a character, an object with such a key. It may be passed over. -/
inductive Json where
  | null
  | bool (b : Bool)
  | int (i : Int)
  | real (negative : Bool) (magnitude : Decimal.Binary64)
  | str (s : String)
  | arr (items : List Json)
  | obj (fields : List (String × Json))
  | unreadable
deriving Inhabited

namespace Json

mutual

/-- Whether everything in the document can be read and nests at most so deep. -/
def readable (depth : Nat) : Json → Bool
  | .unreadable => false
  | .arr items =>
    match depth with
    | 0 => false
    | d + 1 => readableItems d items
  | .obj fields =>
    match depth with
    | 0 => false
    | d + 1 => readableFields d fields
  | _ => true

def readableItems (depth : Nat) : List Json → Bool
  | [] => true
  | j :: js => readable depth j && readableItems depth js

def readableFields (depth : Nat) : List (String × Json) → Bool
  | [] => true
  | (_, j) :: fs => readable depth j && readableFields depth fs

end

mutual

/-- Every object as a map: keys in ascending order, the last of repeated keys kept. -/
def sorted : Json → Json
  | .arr items => .arr (sortedItems items)
  | .obj fields => .obj (Dict.ofList (sortedFields fields)).entries
  | j => j

def sortedItems : List Json → List Json
  | [] => []
  | j :: js => sorted j :: sortedItems js

def sortedFields : List (String × Json) → List (String × Json)
  | [] => []
  | (k, j) :: fs => (k, sorted j) :: sortedFields fs

end

def ofList {α : Type} (item : α → Json) (xs : List α) : Json :=
  .arr (xs.map item)

def strings (xs : List String) : Json :=
  ofList .str xs

def ofOption {α : Type} (value : α → Json) : Option α → Json
  | none => .null
  | some a => value a

def ofDict {α : Type} (value : α → Json) (d : Dict α) : Json :=
  .obj (d.entries.map fun e => (e.1, value e.2))

/-- An entry that is left out where there is no value. -/
def entry? {α : Type} (name : String) (value : α → Json) : Option α → List (String × Json)
  | none => []
  | some a => [(name, value a)]

/-- The name that a table gives to a value. -/
def nameIn {α : Type} [DecidableEq α] (table : List (String × α)) (a : α) : Json :=
  match table.find? fun e => e.2 = a with
  | some e => .str e.1
  | none => .null

end Json

end Presubmit
