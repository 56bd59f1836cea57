import Presubmit.Decimal.Shortest
import Presubmit.Json.Value

/-! Compact JSON text: no blanks, entries in the order of the document, and escapes only for quotes,
backslashes and controls. What is unreadable is written as null. -/
namespace Presubmit.Json

private def hexPad (n : Nat) : List Char :=
  let digits := Nat.toDigits 16 n
  List.replicate (4 - digits.length) '0' ++ digits

def escapeChar (c : Char) : List Char :=
  match c with
  | '"' => ['\\', '"']
  | '\\' => ['\\', '\\']
  | '\x08' => ['\\', 'b']
  | '\x0c' => ['\\', 'f']
  | '\n' => ['\\', 'n']
  | '\r' => ['\\', 'r']
  | '\t' => ['\\', 't']
  | c => if c.toNat < 0x20 then '\\' :: 'u' :: hexPad c.toNat else [c]

def escape (s : String) : List Char :=
  '"' :: s.toList.flatMap escapeChar ++ ['"']

def intText (i : Int) : List Char :=
  if i < 0 then '-' :: Nat.toDigits 10 i.natAbs else Nat.toDigits 10 i.natAbs

mutual

def chars : Json → List Char
  | .null | .unreadable => ['n', 'u', 'l', 'l']
  | .bool true => ['t', 'r', 'u', 'e']
  | .bool false => ['f', 'a', 'l', 's', 'e']
  | .int i => intText i
  | .real negative x => Decimal.text negative x
  | .str s => escape s
  | .arr [] => ['[', ']']
  | .arr (j :: js) => '[' :: chars j ++ itemChars js
  | .obj [] => ['\x7b', '\x7d']
  | .obj ((k, j) :: fs) => '\x7b' :: escape k ++ ':' :: chars j ++ fieldChars fs

/-- The items after the first, and the end of their array. -/
def itemChars : List Json → List Char
  | [] => [']']
  | j :: js => ',' :: chars j ++ itemChars js

/-- The entries after the first, and the end of their object. -/
def fieldChars : List (String × Json) → List Char
  | [] => ['\x7d']
  | (k, j) :: fs => ',' :: escape k ++ ':' :: chars j ++ fieldChars fs

end

def render (j : Json) : String :=
  String.ofList j.chars

end Presubmit.Json
