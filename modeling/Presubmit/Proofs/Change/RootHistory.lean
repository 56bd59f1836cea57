import Mathlib.Data.List.Induction
import Presubmit.Change.SourceRoots

/-! Source roots after any number of writes. A root for all branches hides every earlier write to
its project, and a branch root hides the root for all branches that was there before; a lookup sees
the writes of that window, and what was there initially if nothing has hidden it. -/
namespace Presubmit

namespace SourceRoots

/-- A root for all branches of a project, or for one of them. -/
inductive Write where
  | root (project root : String)
  | branchRoot (project branch root : String)
deriving DecidableEq, Repr

namespace Write

def project : Write → String
  | .root project _ => project
  | .branchRoot project _ _ => project

def forAllBranches : Write → Bool
  | .root .. => true
  | .branchRoot .. => false

/-- The root that the write gives to the one branch. -/
def rootOf? (branch : String) : Write → Option String
  | .root .. => none
  | .branchRoot _ b r => if b = branch then some r else none

@[simp] theorem forAllBranches_root (project root : String) :
    (Write.root project root).forAllBranches = true := rfl

@[simp] theorem forAllBranches_branchRoot (project branch root : String) :
    (Write.branchRoot project branch root).forAllBranches = false := rfl

theorem rootOf?_branchRoot (project b r branch : String) :
    (Write.branchRoot project b r).rootOf? branch = if b = branch then some r else none := rfl

end Write

def write (s : SourceRoots) : Write → SourceRoots
  | .root project root => s.setRoot project root
  | .branchRoot project branch root => s.setBranchRoot project branch root

/-- The roots once the writes are made, one after the other. -/
def replay (s : SourceRoots) (ws : List Write) : SourceRoots :=
  ws.foldl write s

/-- The root of the branch, if the project has its roots by branch. -/
def branchRoot? (s : SourceRoots) (project branch : String) : Option String :=
  match s.projects.get? project with
  | some (.byBranch roots) => roots.get? branch
  | _ => none

/-- The writes to the project, the latest first. -/
def writesTo (project : String) (ws : List Write) : List Write :=
  (ws.filter fun w => w.project = project).reverse

/-- The root of the branch among the branch roots written since the last root for all branches, the
latest of them if there are several. -/
def writtenSince? (project branch : String) (ws : List Write) : Option String :=
  ((writesTo project ws).takeWhile fun w => !w.forAllBranches).findSome? (Write.rootOf? branch)

/-- The initial root of the branch, unless a root for all branches was ever written. -/
def initial? (s : SourceRoots) (project branch : String) (ws : List Write) : Option String :=
  if (writesTo project ws).any Write.forAllBranches then none else s.branchRoot? project branch

/-- What the history says: the last write to the project decides whether one root serves all
branches or each branch has its own. -/
def fromHistory (s : SourceRoots) (ws : List Write) (project : String) (branch : Option String) :
    Option String :=
  match (writesTo project ws).head? with
  | none => s.lookup project branch
  | some (.root _ root) => some root
  | some (.branchRoot ..) =>
    branch.bind fun b => (writtenSince? project b ws).or (s.initial? project b ws)

variable {s : SourceRoots} {ws : List Write} {w : Write} {project branch root : String}

section Steps

theorem get?_write_of_ne (h : w.project ≠ project) :
    (s.write w).projects.get? project = s.projects.get? project := by
  cases w with
  | root p r => exact Dict.get?_insert_of_ne _ (Ne.symm h) _
  | branchRoot p b r => exact Dict.get?_insert_of_ne _ (Ne.symm h) _

/-- A write to one project leaves every other one as it is. -/
theorem lookup_write_of_ne (h : w.project ≠ project) (b : Option String) :
    (s.write w).lookup project b = s.lookup project b := by
  simp only [lookup, get?_write_of_ne h]

theorem branchRoot?_write_of_ne (h : w.project ≠ project) :
    (s.write w).branchRoot? project branch = s.branchRoot? project branch := by
  simp only [branchRoot?, get?_write_of_ne h]

theorem lookup_write_root (b : Option String) :
    (s.write (.root project root)).lookup project b = some root := by
  simp [write, setRoot, lookup]

theorem branchRoot?_write_root :
    (s.write (.root project root)).branchRoot? project branch = none := by
  simp [write, setRoot, branchRoot?]

/-- The branches that were there before stay visible, and a single root does not. -/
theorem branchRoot?_write_branchRoot (b : String) :
    (s.write (.branchRoot project branch root)).branchRoot? project b =
      if branch = b then some root else s.branchRoot? project b := by
  have hroots : ∀ roots : Dict String, (roots.insert branch root).get? b =
      if branch = b then some root else roots.get? b := by
    intro roots
    by_cases hb : branch = b
    · subst hb
      simp
    · rw [if_neg hb, Dict.get?_insert_of_ne _ (Ne.symm hb)]
  simp only [write, setBranchRoot, branchRoot?, Dict.get?_insert_self, hroots]
  cases s.projects.get? project with
  | none => rfl
  | some placement => cases placement <;> rfl

theorem lookup_write_branchRoot (b : Option String) :
    (s.write (.branchRoot project branch root)).lookup project b =
      b.bind ((s.write (.branchRoot project branch root)).branchRoot? project) := by
  cases b with
  | none => simp only [write, setBranchRoot, lookup, Dict.get?_insert_self, Option.bind_none]
  | some b =>
    simp only [write, setBranchRoot, lookup, branchRoot?, Dict.get?_insert_self, Option.bind_some]

end Steps

section Runs

theorem replay_concat : s.replay (ws ++ [w]) = (s.replay ws).write w := by
  simp [replay]

theorem writesTo_concat_of_eq (h : w.project = project) :
    writesTo project (ws ++ [w]) = w :: writesTo project ws := by
  simp [writesTo, List.filter_append, h]

theorem writesTo_concat_of_ne (h : w.project ≠ project) :
    writesTo project (ws ++ [w]) = writesTo project ws := by
  simp [writesTo, List.filter_append, h]

theorem fromHistory_concat_of_ne (h : w.project ≠ project) (b : Option String) :
    s.fromHistory (ws ++ [w]) project b = s.fromHistory ws project b := by
  simp only [fromHistory, writtenSince?, initial?, writesTo_concat_of_ne h]

/-- What is visible of a project with branch roots, whichever the last write to it was. -/
theorem branchRoot?_replay :
    (s.replay ws).branchRoot? project branch =
      (writtenSince? project branch ws).or (s.initial? project branch ws) := by
  induction ws using List.reverseRecOn with
  | nil => simp [replay, writtenSince?, initial?, writesTo]
  | append_singleton ws w ih =>
    rw [replay_concat]
    by_cases hproject : w.project = project
    · rw [writtenSince?, initial?, writesTo_concat_of_eq hproject]
      cases w with
      | root p r =>
        obtain rfl : p = project := hproject
        rw [branchRoot?_write_root]
        simp
      | branchRoot p b r =>
        obtain rfl : p = project := hproject
        rw [branchRoot?_write_branchRoot, ih]
        rw [List.takeWhile_cons_of_pos (by simp), List.findSome?_cons, Write.rootOf?_branchRoot,
          List.any_cons, Write.forAllBranches_branchRoot, Bool.false_or]
        by_cases hb : b = branch
        · simp [hb]
        · simp [hb, writtenSince?, initial?]
    · rw [branchRoot?_write_of_ne hproject, ih]
      simp only [writtenSince?, initial?, writesTo_concat_of_ne hproject]

theorem lookup_replay (b : Option String) :
    (s.replay ws).lookup project b = s.fromHistory ws project b := by
  induction ws using List.reverseRecOn with
  | nil => rfl
  | append_singleton ws w ih =>
    by_cases hproject : w.project = project
    · cases w with
      | root p r =>
        rw [fromHistory, writesTo_concat_of_eq hproject]
        obtain rfl : p = project := hproject
        rw [replay_concat, lookup_write_root]
        rfl
      | branchRoot p x r =>
        rw [fromHistory, writesTo_concat_of_eq hproject]
        obtain rfl : p = project := hproject
        rw [replay_concat, lookup_write_branchRoot, ← replay_concat]
        -- The lookup sees exactly the branch roots that are visible after the write.
        exact congrArg b.bind (funext fun y => branchRoot?_replay)
    · rw [replay_concat, lookup_write_of_ne hproject, ih, fromHistory_concat_of_ne hproject]

/-- The last write to a project and the window of writes that it leaves visible decide every later
lookup, and writes to other projects might as well not have been made. -/
theorem lookup_replay_eq_fromHistory (s : SourceRoots) (ws : List Write) (project : String)
    (branch : Option String) :
    (s.replay ws).lookup project branch = s.fromHistory ws project branch ∧
      (s.replay (ws.filter fun w => w.project = project)).lookup project branch =
        (s.replay ws).lookup project branch := by
  have hwrites :
      writesTo project (ws.filter fun w => w.project = project) = writesTo project ws := by
    simp [writesTo]
  refine ⟨lookup_replay branch, ?_⟩
  rw [lookup_replay, lookup_replay]
  simp only [fromHistory, writtenSince?, initial?, hwrites]

end Runs

end SourceRoots

end Presubmit
