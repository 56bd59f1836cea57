import Presubmit.Glob.Pattern
import Presubmit.Path.Components

/-! Compiled glob patterns and what they match. Two stars reach across directories only as a whole
component, and in every other component a run of stars is written as one star. A pattern is read in
this form, which is also how a match is reported. -/
namespace Presubmit.Glob

def collapseRuns : List Char → List Char
  | [] => []
  | c :: cs => if c = '*' ∧ cs.head? = some '*' then collapseRuns cs else c :: collapseRuns cs

def collapseComponent (d : List Char) : List Char :=
  if d = ['*', '*'] then d else collapseRuns d

def collapse (pattern : List Char) : List Char :=
  Path.join ((Path.components pattern).map collapseComponent)

/-- A search that runs out of path gives up as a whole: what is missing at the end cannot be found
by letting a star take more. -/
inductive Outcome where
  | matched
  | failed
  | exhausted
deriving DecidableEq, Repr

/-- Lets a star take more of the path until the rest of the pattern decides. A deep star stops only
after a slash, a plain star never takes one. -/
def sweep (deep : Bool) (rest : List Char → Outcome) : List Char → Outcome
  | [] => rest []
  | c :: cs =>
    if deep && c != '/' then
      sweep deep rest cs
    else if !deep && c == '/' then
      .failed
    else
      match rest cs with
      | .failed => sweep deep rest cs
      | o => o

def run : List Token → List Char → Outcome
  | [], cs => if cs.isEmpty then .matched else .failed
  | .star :: ts, cs =>
    match run ts cs with
    | .failed => sweep false (run ts) cs
    | o => o
  | .deepStar :: ts, cs =>
    match run ts cs with
    | .failed => sweep true (run ts) cs
    | o => o
  | _ :: _, [] => .exhausted
  | t :: ts, c :: cs => if t.accepts c then run ts cs else .failed

structure Pattern where
  text : String
  tokens : List Token
deriving DecidableEq, Repr

def compile (pattern : String) : Except SyntaxError Pattern :=
  let text := collapse pattern.toList
  (tokenize text).map (⟨String.ofList text, ·⟩)

def Pattern.isMatch (p : Pattern) (path : String) : Bool :=
  run p.tokens path.toList = .matched

end Presubmit.Glob
