/-! Directory containment of slash-separated paths. A directory is named with or without trailing
slashes, and the empty directory holds every path. -/
namespace Presubmit.Path

def dropTrailing (cs : List Char) : List Char :=
  (cs.reverse.dropWhile (· == '/')).reverse

def dropLeading (cs : List Char) : List Char :=
  cs.dropWhile (· == '/')

/-- The path without its trailing slashes. -/
def trimEnd (path : String) : String :=
  String.ofList (dropTrailing path.toList)

/-- The path without its leading slashes. -/
def trimStart (path : String) : String :=
  String.ofList (dropLeading path.toList)

/-- The path is the directory itself or goes on with a slash after it. -/
def isUnder (path dir : String) : Bool :=
  match dropTrailing dir.toList with
  | [] => true
  | d :: ds =>
    match (d :: ds).isPrefixOf? path.toList with
    | none => false
    | some [] => true
    | some (c :: _) => c == '/'

/-- The file below the directory, with one slash between them. -/
def child (dir file : String) : String :=
  trimEnd dir ++ "/" ++ trimStart file

end Presubmit.Path
