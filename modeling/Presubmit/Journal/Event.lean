import Presubmit.Text.Names
import Presubmit.Text.Quoted

/-! Journal lines: what a decision reports about its way. They never decide anything. -/
namespace Presubmit

/-- The less a level says, the lower its rank. -/
inductive Level where
  | error
  | warn
  | info
  | debug
  | trace
deriving DecidableEq, Repr

namespace Level

def rank : Level → Nat
  | .error => 1
  | .warn => 2
  | .info => 3
  | .debug => 4
  | .trace => 5

def text : Level → String
  | .error => "ERROR"
  | .warn => "WARN"
  | .info => "INFO"
  | .debug => "DEBUG"
  | .trace => "TRACE"

/-- The greatest rank that is shown, for a fragment of the language of log filters: one level in
lower case, nothing, or no filter at all, with which warnings are shown. Every other text shows
nothing here. Filters that name a part of the program, list several directives or spell a level in
another way are beyond the fragment. -/
def threshold : Option String → Nat
  | none => warn.rank
  | some "" => error.rank
  | some "error" => error.rank
  | some "warn" => warn.rank
  | some "info" => info.rank
  | some "debug" => debug.rank
  | some "trace" => trace.rank
  | some _ => 0

end Level

/-- The part of the program that speaks. -/
inductive Speaker where
  | paths
  | irrelevance
  | relevance
  | pointless
  | skipper
  | pruner
  | plan
  | engine
deriving DecidableEq, Repr

def Speaker.text : Speaker → String
  | .paths => "testplan_engine::paths"
  | .irrelevance => "testplan_engine::irrelevance"
  | .relevance => "testplan_engine::relevance"
  | .pointless => "testplan_engine::pointless"
  | .skipper => "testplan_engine::skipper"
  | .pruner => "testplan_engine::pruner"
  | .plan => "testplan_engine::plan"
  | .engine => "testplan_engine::engine"

structure Event where
  level : Level
  speaker : Speaker
  message : String
  fields : List (String × String)
deriving DecidableEq, Repr

namespace Event

def text (e : Event) : String :=
  e.level.text ++ " " ++ e.speaker.text ++ ": " ++ e.message ++
    String.join (e.fields.map fun f => " " ++ f.1 ++ "=" ++ f.2)

def lines (threshold : Nat) (events : List Event) : List String :=
  (events.filter fun e => e.level.rank ≤ threshold).map text

def quotedItems (xs : List String) : String :=
  String.intercalate ", " (xs.map Text.quote)

def listText (xs : List String) : String :=
  "[" ++ quotedItems xs ++ "]"

def setText (s : Names) : String :=
  "\x7b" ++ quotedItems s.toList ++ "\x7d"

def optionText : Option String → String
  | none => "None"
  | some s => "Some(" ++ Text.quote s ++ ")"

end Event

end Presubmit
