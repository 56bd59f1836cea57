import Presubmit.Proofs.Glob.Matching
import Presubmit.Proofs.Path.Containment
import Presubmit.Proofs.Pruning.Coverage

/-! The two scopes of a restriction agree. A directory holds the paths that the pattern of its name
and the pattern of everything below it match together, and what is pruned depends on nothing but
the effects that each path gets. -/
namespace Presubmit

/-- A directory whose name can stand in a pattern: no slash ends it, and every character of it
stands for itself there. -/
structure Path.IsPlain (dir : String) : Prop where
  nonempty : dir ≠ ""
  trimmed : dir.toList.getLast? ≠ some '/'
  literal : Glob.IsLiteral dir.toList

theorem Path.IsPlain.isUnder_iff_matches {dir : String} (h : IsPlain dir) (path : String) :
    isUnder path dir = true ↔ Glob.Matches dir path ∨ Glob.Matches (dir ++ "/**") path := by
  have hne : dir.toList ≠ [] := fun hnil => h.nonempty (String.toList_eq_nil_iff.1 hnil)
  rw [isUnder_iff, dropTrailing_of_getLast? h.trimmed, or_iff_right hne, String.toList_inj,
    Glob.matches_literal_iff h.literal, Glob.matches_below_iff h.literal]

namespace Restriction

def onDirectory (dir : String) (effect : Effect) : Restriction :=
  ⟨some dir, none, effect⟩

def onPattern (pattern : String) (effect : Effect) : Restriction :=
  ⟨none, some pattern, effect⟩

variable {effect : Effect} {path : String}

theorem covers_onDirectory_iff {dir : String} :
    (onDirectory dir effect).Covers path ↔ Path.isUnder path dir = true := by
  constructor
  · intro h
    cases h with
    | directory dir' hdir _ hunder =>
      cases hdir
      exact hunder
    | glob _ _ hnone => cases hnone
  · intro hunder
    exact .directory dir rfl rfl hunder

theorem covers_onPattern_iff {pattern : String} :
    (onPattern pattern effect).Covers path ↔ Glob.Matches pattern path := by
  constructor
  · intro h
    cases h with
    | directory _ hsome => cases hsome
    | glob pattern' compiled _ hpattern hcompile hmatch =>
      cases hpattern
      exact ⟨compiled, hcompile, hmatch⟩
  · intro h
    obtain ⟨compiled, hcompile, hmatch⟩ := h
    exact .glob pattern compiled rfl rfl hcompile hmatch

/-- A pattern that matches some path compiles. -/
theorem exists_compile_onPattern {pattern : String} (h : Glob.Matches pattern path) (i : Nat) :
    ∃ e, (onPattern pattern effect).compile i = .ok e := by
  obtain ⟨compiled, hcompile, -⟩ := h
  exact ⟨_, compile_eq_ok_iff.2 (.inr ⟨pattern, compiled, rfl, rfl, hcompile, rfl⟩)⟩

end Restriction

namespace Restrictions

variable {r s : Restrictions} {paths : List String} {names : Effect → List String}

/-- Each of the paths gets the same effects, in whatever order and number. -/
def SameEffects (r s : Restrictions) (paths : List String) : Prop :=
  ∀ a ∈ paths, ∀ e, e ∈ r.effectsOn a ↔ e ∈ s.effectsOn a

theorem SameEffects.permitsAll_eq (h : r.SameEffects s paths) (c : Category) :
    r.permitsAll c paths = s.permitsAll c paths := by
  rw [Bool.eq_iff_iff]
  simp only [permitsAll, permits, List.all_eq_true, List.any_eq_true]
  exact forall₂_congr fun a ha => exists_congr fun e => and_congr_left' (h a ha e)

theorem SameEffects.mem_namesAt_iff (h : r.SameEffects s paths) {a : String} (ha : a ∈ paths)
    (g : String) : g ∈ r.namesAt names a ↔ g ∈ s.namesAt names a := by
  simp only [namesAt, List.mem_flatMap, h a ha]

theorem SameEffects.sharedNames_eq (h : r.SameEffects s paths) (names : Effect → List String) :
    r.sharedNames names paths = s.sharedNames names paths := by
  have hsome : (∀ a ∈ paths, r.namesAt names a ≠ []) ↔ ∀ a ∈ paths, s.namesAt names a ≠ [] := by
    refine forall₂_congr fun a ha => not_congr ?_
    simp only [List.eq_nil_iff_forall_not_mem, h.mem_namesAt_iff ha]
  have hmem : ∀ g, (∃ a ∈ paths, g ∈ r.namesAt names a) ↔ ∃ a ∈ paths, g ∈ s.namesAt names a :=
    fun g => exists_congr fun a => and_congr_right fun ha => h.mem_namesAt_iff ha g
  refine Names.ext fun g => ?_
  unfold sharedNames
  rw [mem_gather, mem_gather, hsome, hmem]

theorem SameEffects.allNames_eq (h : r.SameEffects s paths) (names : Effect → List String) :
    r.allNames names paths = s.allNames names paths := by
  refine Names.ext fun g => ?_
  simp only [allNames, Names.mem_ofList, List.mem_flatMap]
  exact exists_congr fun a => and_congr_right fun ha => h.mem_namesAt_iff ha g

/-- The effects on the paths are all that pruning looks at. -/
theorem SameEffects.ofRestrictions_eq (h : r.SameEffects s paths) :
    Pruning.ofRestrictions r paths = Pruning.ofRestrictions s paths := by
  unfold Pruning.ofRestrictions
  simp only [h.permitsAll_eq, h.sharedNames_eq, h.allNames_eq]

end Restrictions

section Replacement

variable {dir : String} {effect : Effect} {before after : List Restriction}

/-- The directory is always accepted, and so are both patterns. -/
theorem exists_ofList_patterns_iff (hdir : Path.IsPlain dir) (effect : Effect)
    (before after : List Restriction) :
    (∃ r, Restrictions.ofList (before ++ .onDirectory dir effect :: after) = .ok r) ↔
      ∃ r, Restrictions.ofList
        (before ++ .onPattern dir effect :: .onPattern (dir ++ "/**") effect :: after) = .ok r := by
  have hdirectory : ∃ e, (Restriction.onDirectory dir effect).compile 0 = .ok e := ⟨_, rfl⟩
  have hname : ∃ e, (Restriction.onPattern dir effect).compile 0 = .ok e :=
    Restriction.exists_compile_onPattern ((Glob.matches_literal_iff hdir.literal).2 rfl) 0
  have hbelow : ∃ e, (Restriction.onPattern (dir ++ "/**") effect).compile 0 = .ok e := by
    have hchars : (dir ++ "/").toList = dir.toList ++ '/' :: [] := by simp [String.toList_append]
    exact Restriction.exists_compile_onPattern
      ((Glob.matches_below_iff hdir.literal).2 ⟨[], hchars⟩) 0
  simp only [Restrictions.exists_ofList_iff, List.forall_mem_append, List.forall_mem_cons,
    hdirectory, hname, hbelow, true_and]

theorem sameEffects_patterns (hdir : Path.IsPlain dir) {r s : Restrictions}
    (hr : Restrictions.ofList (before ++ .onDirectory dir effect :: after) = .ok r)
    (hs : Restrictions.ofList
      (before ++ .onPattern dir effect :: .onPattern (dir ++ "/**") effect :: after) = .ok s)
    (paths : List String) : r.SameEffects s paths := by
  intro a _ e
  rw [Restrictions.mem_effectsOn hr, Restrictions.mem_effectsOn hs]
  -- the two patterns share the effect, so their coverage adds up to that of the directory
  simp only [List.mem_append, List.mem_cons, or_and_right, exists_or, exists_eq_left,
    Restriction.covers_onDirectory_iff, Restriction.covers_onPattern_iff,
    hdir.isUnder_iff_matches, or_assoc]
  exact .rfl

/-- A restriction on a directory can be written as two on patterns, the name of the directory and
everything below it. The restrictions are accepted as before and prune the same. -/
theorem Pruning.ofRules_directory_eq_patterns (hdir : Path.IsPlain dir) (effect : Effect)
    (before after : List Restriction) (affected : List String) :
    ((∃ r, Restrictions.ofList (before ++ .onDirectory dir effect :: after) = .ok r) ↔
      ∃ r, Restrictions.ofList
        (before ++ .onPattern dir effect :: .onPattern (dir ++ "/**") effect :: after) = .ok r) ∧
    ∀ r, Restrictions.ofList (before ++ .onDirectory dir effect :: after) = .ok r →
      ∃ p, Pruning.ofRules (before ++ .onDirectory dir effect :: after) affected = .ok p ∧
        Pruning.ofRules
          (before ++ .onPattern dir effect :: .onPattern (dir ++ "/**") effect :: after)
          affected = .ok p := by
  have haccepted := exists_ofList_patterns_iff hdir effect before after
  refine ⟨haccepted, fun r hr => ?_⟩
  obtain ⟨s, hs⟩ := haccepted.1 ⟨r, hr⟩
  have hsame : Pruning.ofRestrictions s affected = Pruning.ofRestrictions r affected :=
    (sameEffects_patterns hdir hr hs affected).ofRestrictions_eq.symm
  exact ⟨_, Pruning.ofRules_eq_ok_iff.2 ⟨r, hr, rfl⟩, Pruning.ofRules_eq_ok_iff.2 ⟨s, hs, hsame⟩⟩

end Replacement

namespace Sample

def vmOnly : Effect :=
  { Effect.none with disableHw := true, onlyTargets := ["eve"], alsoGroup := some "vm" }

end Sample

open Sample in
/-- Next to a directory whose name begins alike, and with the directory itself among the paths. -/
theorem ofRules_directory_eq_patterns_lib :
    Path.IsPlain "src/lib" ∧
    (∃ r, Restrictions.ofList [docs, .onDirectory "src/lib" vmOnly, markdown] = .ok r) ∧
    ∃ p, Pruning.ofRules [docs, .onDirectory "src/lib" vmOnly, markdown]
        ["src/lib", "src/lib/a.c", "src/library/b.md"] = .ok p ∧
      Pruning.ofRules [docs, .onPattern "src/lib" vmOnly, .onPattern "src/lib/**" vmOnly, markdown]
        ["src/lib", "src/lib/a.c", "src/library/b.md"] = .ok p := by
  have hdir : Path.IsPlain "src/lib" := ⟨by decide, by decide, by decide⟩
  have haccepted :
      ∃ r, Restrictions.ofList [docs, .onDirectory "src/lib" vmOnly, markdown] = .ok r :=
    ⟨_, rfl⟩
  obtain ⟨r, hr⟩ := haccepted
  exact ⟨hdir, ⟨r, hr⟩,
    (Pruning.ofRules_directory_eq_patterns hdir vmOnly [docs] [markdown] _).2 r hr⟩

open Sample in
example : Pruning.ofRules [.onPattern "src/lib" vmOnly, .onPattern "src/lib/**" vmOnly]
    ["src/lib/", "src/lib/a/b.c", "src/lib"] =
    .ok { Pruning.none with
      disableHw := true
      onlyTargets := Names.ofList ["eve"]
      alsoGroups := Names.ofList ["vm"] } := by
  decide

end Presubmit
