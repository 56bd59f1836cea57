import Presubmit.Failure
import Presubmit.Glob.Compile

/-! Files that no build depends on, such as documentation, told by glob patterns. -/
namespace Presubmit

structure IrrelevanceRules where
  patterns : List String
deriving DecidableEq, Repr

/-- Compiles a pattern, and reports a fault with the pattern as it was written. -/
def Glob.compileRule (pattern : String) : Except Failure Glob.Pattern :=
  (Glob.compile pattern).mapError (.invalidPattern pattern)

theorem Glob.compileRule_eq_ok_iff {pattern : String} {compiled : Glob.Pattern} :
    Glob.compileRule pattern = .ok compiled ↔ Glob.compile pattern = .ok compiled := by
  unfold Glob.compileRule
  cases Glob.compile pattern with
  | error _ => exact ⟨nofun, nofun⟩
  | ok _ =>
    constructor
    · intro h
      cases h
      rfl
    · intro h
      cases h
      rfl

theorem Glob.compileRule_eq_error_iff {pattern : String} {e : Failure} :
    Glob.compileRule pattern = .error e ↔
      ∃ error, Glob.compile pattern = .error error ∧ e = .invalidPattern pattern error := by
  unfold Glob.compileRule
  cases Glob.compile pattern with
  | error error =>
    constructor
    · intro h
      cases h
      exact ⟨error, rfl, rfl⟩
    · rintro ⟨_, h, rfl⟩
      cases h
      rfl
  | ok _ => exact ⟨nofun, nofun⟩

structure IrrelevantFiles where
  patterns : List Glob.Pattern
deriving DecidableEq, Repr

namespace IrrelevantFiles

def ofPatterns (patterns : List String) : Except Failure IrrelevantFiles :=
  (patterns.mapM Glob.compileRule).map IrrelevantFiles.mk

/-- The first pattern that matches the path. -/
def matching? (f : IrrelevantFiles) (path : String) : Option Glob.Pattern :=
  f.patterns.find? (·.isMatch path)

def rulesOut (f : IrrelevantFiles) (path : String) : Bool :=
  (f.matching? path).isSome

def retain (f : IrrelevantFiles) (paths : List String) : List String :=
  paths.filter fun p => !f.rulesOut p

end IrrelevantFiles

end Presubmit
