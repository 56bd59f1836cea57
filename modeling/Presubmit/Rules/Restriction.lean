import Presubmit.Path.Containment
import Presubmit.Rules.Irrelevance
import Presubmit.Text.Names

/-! Source-tree restrictions: what a run need not test when it touches certain files only. -/
namespace Presubmit

structure Effect where
  disableHw : Bool
  disableVm : Bool
  disableNonTast : Bool
  onlyTargets : List String
  oneofGroup : Option String
  onlyGroup : Option String
  alsoGroup : Option String
deriving DecidableEq, Repr

def Effect.none : Effect :=
  ⟨false, false, false, [], .none, .none, .none⟩

structure Restriction where
  path : Option String
  pattern : Option String
  effect : Effect
deriving DecidableEq, Repr

inductive Scope where
  | directory (path : String)
  | glob (pattern : Glob.Pattern)
deriving DecidableEq, Repr

def Scope.covers (path : String) : Scope → Bool
  | .directory dir => Path.isUnder path dir
  | .glob pattern => pattern.isMatch path

/-- A restriction that is ready to be asked about paths. -/
structure ScopedEffect where
  scope : Scope
  effect : Effect
deriving DecidableEq, Repr

/-- A restriction has a directory or a pattern, and not both. -/
def Restriction.compile (i : Nat) (r : Restriction) : Except Failure ScopedEffect :=
  match r.path, r.pattern with
  | some path, none => .ok ⟨.directory path, r.effect⟩
  | none, some pattern => (Glob.compileRule pattern).map fun p => ⟨.glob p, r.effect⟩
  | _, _ => .error (.ambiguousScope i)

structure Restrictions where
  effects : List ScopedEffect
deriving DecidableEq, Repr

inductive Category where
  | hw
  | vm
  | nonTast
deriving DecidableEq, Repr

namespace Category

def text : Category → String
  | .hw => "HW"
  | .vm => "VM"
  | .nonTast => "non-Tast"

def allowedBy : Category → Effect → Bool
  | .hw, e => e.disableHw
  | .vm, e => e.disableVm
  | .nonTast, e => e.disableNonTast

end Category

namespace Restrictions

def ofList (rs : List Restriction) : Except Failure Restrictions :=
  (rs.zipIdx.mapM fun (r, i) => Restriction.compile i r).map Restrictions.mk

/-- The effects whose scope covers the path, in order. -/
def effectsOn (r : Restrictions) (path : String) : List Effect :=
  (r.effects.filter fun e => e.scope.covers path).map ScopedEffect.effect

def permits (r : Restrictions) (c : Category) (path : String) : Bool :=
  (r.effectsOn path).any c.allowedBy

/-- Testing of a category is disabled only if every path allows it. -/
def permitsAll (r : Restrictions) (c : Category) (paths : List String) : Bool :=
  paths.all (r.permits c)

/-- What the effects on one path say about a name list. -/
def namesAt (r : Restrictions) (names : Effect → List String) (path : String) : List String :=
  (r.effectsOn path).flatMap names

/-- Adds the names of one path after the other, and gives all of them up at a path without any. -/
def gather (r : Restrictions) (names : Effect → List String) : Names → List String → Names
  | known, [] => known
  | known, path :: paths =>
    let found := r.namesAt names path
    if found.isEmpty then ∅ else gather r names (known.union (Names.ofList found)) paths

/-- The names of all paths, or none at all if some path has none. -/
def sharedNames (r : Restrictions) (names : Effect → List String) (paths : List String) : Names :=
  r.gather names ∅ paths

def allNames (r : Restrictions) (names : Effect → List String) (paths : List String) : Names :=
  Names.ofList (paths.flatMap (r.namesAt names))

end Restrictions

end Presubmit
