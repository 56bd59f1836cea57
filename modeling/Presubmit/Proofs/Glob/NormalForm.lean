import Presubmit.Proofs.Glob.Refusals

/-! Collapsed patterns as a normal form. A component of a collapsed pattern is two stars, or it has
a single star for every run of stars of the component it comes from. Reading finds no fault with the
stars that are left. -/
namespace Presubmit.Glob

section Components

variable {cs ds : List Char}

/-- The second text has a single star for every run of stars of the first, each run taken whole. -/
inductive SingleStars : List Char → List Char → Prop where
  | nil : SingleStars [] []
  | char {c : Char} {cs ds : List Char} : c ≠ '*' → SingleStars cs ds →
      SingleStars (c :: cs) (c :: ds)
  | run {n : Nat} {cs ds : List Char} : cs.head? ≠ some '*' → SingleStars cs ds →
      SingleStars (List.replicate (n + 1) '*' ++ cs) ('*' :: ds)

/-- A star before a run belongs to the run. -/
theorem SingleStars.star_cons (h : SingleStars cs ds) (hrun : cs.head? = some '*') :
    SingleStars ('*' :: cs) ds := by
  cases h with
  | nil => cases hrun
  | char hc _ => exact absurd (Option.some.inj hrun) hc
  | @run n _ _ hafter h => exact .run (n := n + 1) hafter h

theorem singleStars_collapseRuns (cs : List Char) : SingleStars cs (collapseRuns cs) := by
  induction cs with
  | nil => exact .nil
  | cons c cs ih =>
    by_cases hrun : c = '*' ∧ cs.head? = some '*'
    · rw [collapseRuns, if_pos hrun, hrun.1]
      exact ih.star_cons hrun.2
    · rw [collapseRuns, if_neg hrun]
      by_cases hc : c = '*'
      · subst hc
        exact .run (n := 0) (fun hhead => hrun ⟨rfl, hhead⟩) ih
      · exact .char hc ih

/-- The second component is the collapsed form of the first. -/
structure Collapses (d e : List Char) : Prop where
  deepStar_iff : e = ['*', '*'] ↔ d = ['*', '*']
  noRuns : e ≠ ['*', '*'] → NoRuns e
  singleStars : d ≠ ['*', '*'] → SingleStars d e

theorem not_noRuns_deepStar : ¬ NoRuns ['*', '*'] :=
  fun h => h.rel_head? rfl rfl rfl

theorem collapses_collapseComponent (d : List Char) : Collapses d (collapseComponent d) := by
  by_cases hdeep : d = ['*', '*']
  · rw [collapseComponent, if_pos hdeep]
    exact ⟨Iff.rfl, fun hd => absurd hdeep hd, fun hd => absurd hdeep hd⟩
  · rw [collapseComponent, if_neg hdeep]
    have hruns : NoRuns (collapseRuns d) := noRuns_collapseRuns d
    have hne : collapseRuns d ≠ ['*', '*'] := fun heq => not_noRuns_deepStar (heq ▸ hruns)
    exact ⟨iff_of_false hne hdeep, fun _ => hruns, fun _ => singleStars_collapseRuns d⟩

theorem forall₂_collapses (cs : List Char) :
    List.Forall₂ Collapses (Path.components cs) (Path.components (collapse cs)) := by
  rw [components_collapse, List.forall₂_map_right_iff, List.forall₂_same]
  exact fun d _ => collapses_collapseComponent d

end Components

section Writing

variable {cs : List Char}

/-- The component has two stars next to each other, but is more than these two. -/
def IsPartial (d : List Char) : Prop :=
  d ≠ ['*', '*'] ∧ ['*', '*'] <:+: d

instance (d : List Char) : Decidable (IsPartial d) :=
  inferInstanceAs (Decidable (_ ∧ _))

/-- Writes a character behind the others, unless it is a star behind a star. -/
def write (out : List Char) (c : Char) : List Char :=
  if c = '*' ∧ out.getLast? = some '*' then out else out ++ [c]

/-- The collapsed form as it is written from the left, component by component. A pattern without a
partial deep star is taken as it is. -/
def collapseFromLeft (cs : List Char) : List Char :=
  if ∃ d ∈ Path.components cs, IsPartial d then
    Path.join ((Path.components cs).map fun d => if d = ['*', '*'] then d else d.foldl write [])
  else
    cs

theorem noRuns_iff : NoRuns cs ↔ ¬ ['*', '*'] <:+: cs := by
  unfold NoRuns
  rw [List.isChain_iff_forall_rel_of_append_cons_cons]
  constructor
  · rintro h ⟨first, last, rfl⟩
    exact h (List.append_assoc _ _ _) rfl rfl
  · rintro h a b first last rfl rfl rfl
    exact h ⟨first, last, List.append_assoc _ _ _⟩

theorem isCollapsed_iff : IsCollapsed cs ↔ ¬ ∃ d ∈ Path.components cs, IsPartial d := by
  unfold IsCollapsed IsPartial
  simp only [noRuns_iff, or_iff_not_imp_left, not_exists, not_and]

/-- What is written from the left, once it ends with a star and once it does not. -/
theorem foldl_write (cs out : List Char) :
    (out.getLast? ≠ some '*' → cs.foldl write out = out ++ collapseRuns cs) ∧
      cs.foldl write (out ++ ['*']) = out ++ collapseRuns ('*' :: cs) := by
  induction cs generalizing out with
  | nil => exact ⟨fun _ => (List.append_nil out).symm, rfl⟩
  | cons c cs ih =>
    rw [List.foldl_cons, List.foldl_cons]
    by_cases hc : c = '*'
    · subst hc
      have hstar : collapseRuns ('*' :: '*' :: cs) = collapseRuns ('*' :: cs) := by
        rw [collapseRuns, if_pos ⟨rfl, rfl⟩]
      constructor
      · intro hout
        rw [write, if_neg fun hrun => hout hrun.2, (ih out).2]
      · rw [write, if_pos ⟨rfl, List.getLast?_concat⟩, (ih out).2, hstar]
    · have hwrite : ∀ out, write out c = out ++ [c] := fun out => if_neg fun hrun => hc hrun.1
      have hlast : ∀ out : List Char, (out ++ [c]).getLast? ≠ some '*' := by
        intro out heq
        rw [List.getLast?_concat, Option.some.injEq] at heq
        exact hc heq
      have hcons : collapseRuns (c :: cs) = c :: collapseRuns cs := by
        rw [collapseRuns, if_neg fun hrun => hc hrun.1]
      have hstar : collapseRuns ('*' :: c :: cs) = '*' :: c :: collapseRuns cs := by
        rw [collapseRuns, if_neg fun hrun => hc (Option.some.inj hrun.2), hcons]
      constructor
      · intro _
        rw [hwrite, (ih _).1 (hlast out), hcons, List.append_assoc, List.singleton_append]
      · rw [hwrite, (ih _).1 (hlast _), hstar, List.append_assoc, List.append_assoc]
        rfl

theorem collapseFromLeft_eq_collapse (cs : List Char) : collapseFromLeft cs = collapse cs := by
  unfold collapseFromLeft
  by_cases hpartial : ∃ d ∈ Path.components cs, IsPartial d
  · have hwrite : ∀ d : List Char, d.foldl write [] = collapseRuns d :=
      fun d => (foldl_write d []).1 nofun
    rw [if_pos hpartial]
    simp only [hwrite]
    rfl
  · rw [if_neg hpartial, collapse_of_isCollapsed (isCollapsed_iff.2 hpartial)]

example : collapseFromLeft "a***/**/".toList = "a*/**/".toList := by decide

end Writing

section Runs

variable {c : Char} {cs first last rest : List Char} {n : Nat}

/-- A run of stars, as long as it can be, with the text before it and after it. -/
structure StarRun (cs first : List Char) (n : Nat) (last : List Char) : Prop where
  text : cs = first ++ (List.replicate n '*' ++ last)
  pos : 0 < n
  before : first.getLast? ≠ some '*'
  after : last.head? ≠ some '*'

theorem not_drops_of_collapse_eq_self (h : collapse (first ++ c :: rest) = first ++ c :: rest) :
    ¬ Drops first.getLast? c rest := by
  rw [collapse_eq_collapseAfter] at h
  rcases List.eq_nil_or_concat first with rfl | ⟨init, b, rfl⟩
  · exact (collapseAfter_cons_eq_self_iff.1 h).1
  · rw [List.concat_eq_append, List.append_assoc, List.singleton_append] at h
    rw [List.concat_eq_append, List.getLast?_concat]
    exact (collapseAfter_cons_eq_self_iff.1 (collapseAfter_eq_self_of_append h)).1

theorem StarRun.length_of_collapse_eq_self (h : StarRun cs first n last)
    (hself : collapse cs = cs) :
    n = 1 ∨ n = 2 ∧ (∀ c ∈ first.getLast?, c = '/') ∧ ∀ c ∈ last.head?, c = '/' := by
  obtain ⟨rfl, hpos, -, -⟩ := h
  match n, hpos with
  | 1, _ => exact .inl rfl
  | n + 2, _ =>
    -- the first star stays before another one, so that the two are a whole component
    obtain ⟨hopens, hrest⟩ := component_of_not_drops (not_drops_of_collapse_eq_self hself)
    cases n with
    | zero =>
      refine .inr ⟨rfl, hopens, ?_⟩
      rcases hrest with rfl | ⟨ds, rfl⟩
      · exact nofun
      · exact fun c hc => (Option.some.inj hc).symm
    | succ n =>
      rcases hrest with hnil | ⟨ds, hslash⟩
      · cases hnil
      · exact absurd (List.cons.inj hslash).1 (by decide)

end Runs

/-- The collapsed form has as many components as the pattern, each of them the collapsed form of its
own. It is the same written from the left, to collapse it again changes nothing, and the patterns in
normal form are those that are not changed at all. Every run of stars in it is one star, or two that
fill a component, so that no pattern is refused for its stars. -/
theorem collapse_normalForm (pattern : String) :
    List.Forall₂ Collapses (Path.components pattern.toList)
        (Path.components (collapse pattern.toList)) ∧
      collapse pattern.toList = collapseFromLeft pattern.toList ∧
      collapse (collapse pattern.toList) = collapse pattern.toList ∧
      (collapse pattern.toList = pattern.toList ↔ IsCollapsed pattern.toList) ∧
      (∀ first n last, StarRun (collapse pattern.toList) first n last →
        n = 1 ∨ n = 2 ∧ (∀ c ∈ first.getLast?, c = '/') ∧ ∀ c ∈ last.head?, c = '/') ∧
      ∀ e, compile pattern = .error e → e.fault ≠ .starRun ∧ e.fault ≠ .partialDeepStar := by
  have htwice : collapse (collapse pattern.toList) = collapse pattern.toList :=
    collapse_collapse pattern.toList
  refine ⟨forall₂_collapses _, (collapseFromLeft_eq_collapse _).symm, htwice, collapse_eq_self_iff,
    fun _ _ _ hrun => hrun.length_of_collapse_eq_self htwice, fun e he => ?_⟩
  rw [fault_of_compile_eq_error he]
  exact ⟨nofun, nofun⟩

end Presubmit.Glob
