/-! Glob tokens and their reading. A question mark is any character, a star any run, two stars that
fill a component any run of components, and brackets enclose a class whose first member may be a
closing bracket. Everything else stands for itself. -/
namespace Presubmit.Glob

inductive ClassItem where
  | char (c : Char)
  | range (first last : Char)
deriving DecidableEq, Repr

inductive Token where
  | char (c : Char)
  | anyChar
  | star
  | deepStar
  | oneOf (items : List ClassItem)
  | noneOf (items : List ClassItem)
deriving DecidableEq, Repr

inductive SyntaxFault where
  | unclosedClass
  | starRun
  | partialDeepStar
deriving DecidableEq, Repr

structure SyntaxError where
  position : Nat
  fault : SyntaxFault
deriving DecidableEq, Repr

def SyntaxFault.message : SyntaxFault → String
  | .unclosedClass => "invalid range pattern"
  | .starRun => "wildcards are either regular `*` or recursive `**`"
  | .partialDeepStar => "recursive wildcards must form a single path component"

def SyntaxError.message (e : SyntaxError) : String :=
  "Pattern syntax error near position " ++ toString e.position ++ ": " ++ e.fault.message

theorem SyntaxError.message_unclosedClass (position : Nat) :
    SyntaxError.message ⟨position, .unclosedClass⟩ =
      "Pattern syntax error near position " ++ toString position ++ ": invalid range pattern" := by
  have hfault : ": invalid range pattern" = ": " ++ "invalid range pattern" := rfl
  rw [hfault, ← String.append_assoc]
  rfl

/-- A dash between two members makes a range. -/
def classItems : List Char → List ClassItem
  | a :: '-' :: b :: cs => .range a b :: classItems cs
  | a :: cs => .char a :: classItems cs
  | [] => []

def ClassItem.accepts (c : Char) : ClassItem → Bool
  | .char d => c == d
  | .range a b => a ≤ c && c ≤ b

/-- Whether a token that takes exactly one character takes this one. No class takes a slash. -/
def Token.accepts (c : Char) : Token → Bool
  | .char d => c == d
  | .anyChar => c != '/'
  | .oneOf items => c != '/' && items.any (·.accepts c)
  | .noneOf items => c != '/' && !items.any (·.accepts c)
  | .star | .deepStar => false

inductive ScanState where
  | plain
  | opened (start : Nat)
  | inside (start : Nat) (negated : Bool) (members : List Char)
deriving DecidableEq, Repr

/-- Reads on from a position. The character before it decides whether two stars fill a component;
class members are gathered last first. -/
def scan : ScanState → Nat → Option Char → List Char → Except SyntaxError (List Token)
  | .plain, _, _, [] => .ok []
  | .plain, i, before, '*' :: cs =>
    match cs with
    | '*' :: '*' :: _ => .error ⟨i + 2, .starRun⟩
    | '*' :: ds =>
      if before.any (· != '/') then
        .error ⟨i - 1, .partialDeepStar⟩
      else
        match ds with
        | [] => .ok [.deepStar]
        | '/' :: es => (scan .plain (i + 3) (some '/') es).map (.deepStar :: ·)
        | _ :: _ => .error ⟨i + 2, .partialDeepStar⟩
    | ds => (scan .plain (i + 1) (some '*') ds).map (.star :: ·)
  | .plain, i, _, c :: cs =>
    if c = '?' then
      (scan .plain (i + 1) (some c) cs).map (.anyChar :: ·)
    else if c = '[' then
      scan (.opened i) (i + 1) (some c) cs
    else
      (scan .plain (i + 1) (some c) cs).map (.char c :: ·)
  | .opened start, _, _, [] => .error ⟨start, .unclosedClass⟩
  | .opened start, i, _, c :: cs =>
    if c = '!' then
      scan (.inside start true []) (i + 1) (some c) cs
    else
      scan (.inside start false [c]) (i + 1) (some c) cs
  | .inside start _ _, _, _, [] => .error ⟨start, .unclosedClass⟩
  | .inside start negated members, i, _, c :: cs =>
    if c = ']' ∧ members ≠ [] then
      let items := classItems members.reverse
      (scan .plain (i + 1) (some c) cs).map
        ((if negated then .noneOf items else .oneOf items) :: ·)
    else
      scan (.inside start negated (c :: members)) (i + 1) (some c) cs

/-- Deep stars that follow one another count once. -/
def mergeDeepStars : List Token → List Token
  | [] => []
  | t :: ts =>
    if t = .deepStar ∧ ts.head? = some .deepStar then mergeDeepStars ts else t :: mergeDeepStars ts

/-- The tokens of a pattern. A second deep star stays next to a first that opens the pattern. -/
def tokenize (pattern : List Char) : Except SyntaxError (List Token) :=
  (scan .plain 0 none pattern).map fun
    | t :: ts => t :: mergeDeepStars ts
    | [] => []

end Presubmit.Glob
