import Presubmit.Proofs.Glob.Reading

/-! The collapsed form of a pattern, character by character. A star goes if another follows it,
unless the two are a whole component. -/
namespace Presubmit.Glob

/-- The collapsed form of text of which the first component has begun before. -/
def collapseWithin (cs : List Char) : List Char :=
  match Path.components cs with
  | [] => []
  | d :: ds => Path.join (collapseRuns d :: ds.map collapseComponent)

/-- The collapsed form of what follows a character. -/
def collapseAfter (before : Option Char) (cs : List Char) : List Char :=
  if Opens before then collapse cs else collapseWithin cs

/-- The second text is the first without some of the stars that stand before a star. -/
inductive Thins : List Char → List Char → Prop where
  | nil : Thins [] []
  | keep {c : Char} {cs ds : List Char} : Thins cs ds → Thins (c :: cs) (c :: ds)
  | drop {cs ds : List Char} : Thins ('*' :: cs) ds → Thins ('*' :: '*' :: cs) ds

namespace Thins

variable {c : Char} {cs ds rest : List Char}

theorem head?_eq (h : Thins cs ds) : ds.head? = cs.head? := by
  induction h with
  | nil | keep _ _ => rfl
  | drop _ ih => exact ih

theorem sublist (h : Thins cs ds) : ds.Sublist cs := by
  induction h with
  | nil => exact .slnil
  | keep _ ih => exact ih.cons_cons _
  | drop _ ih => exact ih.cons _

theorem tail_sublist (h : Thins cs ds) : ds.tail.Sublist cs.tail := by
  induction h with
  | nil => exact .slnil
  | keep h _ => exact h.sublist
  | drop _ ih => exact ih.cons _

theorem ne_nil (h : Thins cs ds) (hne : cs ≠ []) : ds ≠ [] := by
  rintro rfl
  exact hne (List.head?_eq_none_iff.1 h.head?_eq.symm)

theorem mem_iff (hc : c ≠ '*') (h : Thins cs ds) : c ∈ ds ↔ c ∈ cs := by
  induction h with
  | nil => exact Iff.rfl
  | keep _ ih => rw [List.mem_cons, List.mem_cons, ih]
  | drop _ ih => simp only [ih, List.mem_cons, hc, false_or]

theorem mem_tail_iff (hc : c ≠ '*') (h : Thins cs ds) : c ∈ ds.tail ↔ c ∈ cs.tail := by
  induction h with
  | nil => exact Iff.rfl
  | keep h _ => exact h.mem_iff hc
  | drop _ ih => rw [ih, List.tail_cons, List.tail_cons, List.mem_cons, or_iff_right hc]

theorem of_cons (hc : c ≠ '*') (h : Thins (c :: cs) ds) : ∃ es, ds = c :: es ∧ Thins cs es := by
  cases h with
  | keep h => exact ⟨_, rfl, h⟩
  | drop _ => exact absurd rfl hc

/-- What is left of text with a character that is no star in it is what is left on either side. -/
theorem of_append (hc : c ≠ '*') (h : Thins (cs ++ c :: rest) ds) :
    ∃ first second, ds = first ++ c :: second ∧ Thins cs first ∧ Thins rest second := by
  induction cs generalizing ds with
  | nil =>
    obtain ⟨second, rfl, hrest⟩ := h.of_cons hc
    exact ⟨[], second, rfl, .nil, hrest⟩
  | cons b cs ih =>
    rw [List.cons_append] at h
    generalize htext : cs ++ c :: rest = text at h ih
    cases h with
    | keep h =>
      obtain ⟨first, second, rfl, hcs, hrest⟩ := ih h
      exact ⟨b :: first, second, rfl, .keep hcs, hrest⟩
    | drop h =>
      obtain ⟨first, second, rfl, hcs, hrest⟩ := ih h
      cases cs with
      | nil => exact absurd (List.cons.inj htext).1 hc
      | cons d cs =>
        obtain rfl : d = '*' := (List.cons.inj htext).1
        exact ⟨first, second, rfl, .drop hcs, hrest⟩

end Thins

theorem thins_collapseRuns (cs : List Char) : Thins cs (collapseRuns cs) := by
  induction cs with
  | nil => exact .nil
  | cons c cs ih =>
    by_cases hrun : c = '*' ∧ cs.head? = some '*'
    · rw [collapseRuns, if_pos hrun]
      obtain ⟨rfl, hhead⟩ := hrun
      obtain ⟨ds, rfl⟩ := List.head?_eq_some_iff.1 hhead
      exact .drop ih
    · rw [collapseRuns, if_neg hrun]
      exact .keep ih

section Characters

variable {before : Option Char} {c : Char} {cs ds : List Char}

theorem collapseWithin_slash (cs : List Char) :
    collapseWithin ('/' :: cs) = '/' :: collapse cs := by
  have hne : (Path.components cs).map collapseComponent ≠ [] := by
    rw [ne_eq, List.map_eq_nil_iff]
    exact Path.components_ne_nil cs
  unfold collapseWithin
  rw [Path.components, if_pos rfl]
  exact Path.join_append (List.cons_ne_nil [] []) hne

theorem components_cons {d : List Char} {es : List (List Char)} (hc : c ≠ '/')
    (h : Path.components cs = d :: es) : Path.components (c :: cs) = (c :: d) :: es := by
  rw [Path.components, if_neg hc, h]

theorem exists_components_cons (hc : c ≠ '/') (cs : List Char) :
    ∃ d es, Path.components cs = d :: es ∧ Path.components (c :: cs) = (c :: d) :: es ∧
      (d.head? = some '*' ↔ cs.head? = some '*') := by
  cases hcs : Path.components cs with
  | nil => exact absurd hcs (Path.components_ne_nil cs)
  | cons d es =>
    refine ⟨d, es, rfl, components_cons hc hcs, ?_⟩
    cases cs with
    | nil =>
      obtain ⟨rfl, -⟩ := List.cons.inj hcs
      exact Iff.rfl
    | cons e rest =>
      by_cases he : e = '/'
      · subst he
        rw [Path.components, if_pos rfl] at hcs
        obtain ⟨rfl, -⟩ := List.cons.inj hcs
        simp
      · cases hrest : Path.components rest with
        | nil => exact absurd hrest (Path.components_ne_nil rest)
        | cons f fs =>
          obtain ⟨rfl, -⟩ := List.cons.inj ((components_cons he hrest).symm.trans hcs)
          exact Iff.rfl

theorem join_cons_cons (c : Char) (d : List Char) (ds : List (List Char)) :
    Path.join ((c :: d) :: ds) = c :: Path.join (d :: ds) := by
  cases ds <;> simp [Path.join, List.intercalate]

theorem collapseWithin_cons (hc : c ≠ '/') (cs : List Char) :
    collapseWithin (c :: cs) =
      if c = '*' ∧ cs.head? = some '*' then collapseWithin cs else c :: collapseWithin cs := by
  obtain ⟨d, ds, hcs, hcons, hhead⟩ := exists_components_cons hc cs
  unfold collapseWithin
  rw [hcs, hcons]
  dsimp only
  by_cases hrun : c = '*' ∧ cs.head? = some '*'
  · rw [collapseRuns, if_pos ⟨hrun.1, hhead.2 hrun.2⟩, if_pos hrun]
  · rw [collapseRuns, if_neg fun hboth => hrun ⟨hboth.1, hhead.1 hboth.2⟩, if_neg hrun,
      join_cons_cons]

/-- Unless it begins with two stars as a component, text is collapsed as within one. -/
theorem collapse_eq_collapseWithin (h : (Path.components cs).head? ≠ some ['*', '*']) :
    collapse cs = collapseWithin cs := by
  unfold collapse collapseWithin
  cases hcs : Path.components cs with
  | nil => rfl
  | cons d ds =>
    have hd : d ≠ ['*', '*'] := by
      rintro rfl
      exact h (by rw [hcs]; rfl)
    rw [List.map_cons, collapseComponent, if_neg hd]

theorem collapse_deepSlash (cs : List Char) :
    collapse ('*' :: '*' :: '/' :: cs) = '*' :: '*' :: '/' :: collapse cs :=
  collapse_append ['*', '*'] cs

theorem collapseAfter_nil : collapseAfter before [] = [] := by
  unfold collapseAfter
  split <;> rfl

theorem not_opens_some (hc : c ≠ '/') : ¬ Opens (some c) :=
  fun h => hc (h c rfl)

/-- A star goes that stands before a star, unless the two are a whole component. -/
def Drops (before : Option Char) (c : Char) (cs : List Char) : Prop :=
  c = '*' ∧ ∃ rest, cs = '*' :: rest ∧ ¬ (Opens before ∧ (rest = [] ∨ ∃ ds, rest = '/' :: ds))

theorem not_drops_of_ne (h : c ≠ '*') : ¬ Drops before c cs :=
  fun hdrops => h hdrops.1

theorem not_drops_of_head? (h : cs.head? ≠ some '*') : ¬ Drops before c cs := by
  rintro ⟨-, rest, rfl, -⟩
  exact h rfl

theorem not_drops_of_component (hopens : Opens before) (h : cs = [] ∨ ∃ ds, cs = '/' :: ds) :
    ¬ Drops before c ('*' :: cs) := by
  rintro ⟨-, rest, hrest, hpart⟩
  obtain rfl : cs = rest := (List.cons.inj hrest).2
  exact hpart ⟨hopens, h⟩

/-- Two stars of which the first stays are a whole component. -/
theorem component_of_not_drops (h : ¬ Drops before '*' ('*' :: cs)) :
    Opens before ∧ (cs = [] ∨ ∃ ds, cs = '/' :: ds) :=
  not_not.1 fun hpart => h ⟨rfl, cs, rfl, hpart⟩

theorem collapseAfter_of_drops (h : Drops before c cs) :
    collapseAfter before (c :: cs) = collapseAfter (some c) cs := by
  obtain ⟨rfl, rest, rfl, hpart⟩ := h
  have hstar : ('*' : Char) ≠ '/' := by decide
  have hwithin : collapseWithin ('*' :: '*' :: rest) = collapseWithin ('*' :: rest) := by
    rw [collapseWithin_cons hstar, if_pos ⟨rfl, rfl⟩]
  unfold collapseAfter
  rw [if_neg (not_opens_some hstar)]
  by_cases hopens : Opens before
  · rw [if_pos hopens, collapse_eq_collapseWithin, hwithin]
    intro hcomponent
    apply hpart
    refine ⟨hopens, ?_⟩
    cases rest with
    | nil => exact .inl rfl
    | cons d ds =>
      by_cases hd : d = '/'
      · exact .inr ⟨ds, by rw [hd]⟩
      · obtain ⟨e, es, -, hcons, -⟩ := exists_components_cons hd ds
        rw [components_cons hstar (components_cons hstar hcons)] at hcomponent
        simp at hcomponent
  · rw [if_neg hopens, hwithin]

theorem collapseAfter_of_not_drops (h : ¬ Drops before c cs) :
    collapseAfter before (c :: cs) = c :: collapseAfter (some c) cs := by
  by_cases hc : c = '/'
  · have hopens : Opens (some '/') := by decide
    have hslash : collapse ('/' :: cs) = '/' :: collapse cs := collapse_append [] cs
    unfold collapseAfter
    rw [hc, if_pos hopens, hslash, collapseWithin_slash, ite_self]
  · by_cases hrun : c = '*' ∧ cs.head? = some '*'
    · -- the run is a component of its own, and it is kept as that
      obtain ⟨rfl, hhead⟩ := hrun
      obtain ⟨rest, rfl⟩ := List.head?_eq_some_iff.1 hhead
      obtain ⟨hopens, hrest⟩ := component_of_not_drops h
      unfold collapseAfter
      rw [if_pos hopens, if_neg (not_opens_some hc)]
      rcases hrest with rfl | ⟨ds, rfl⟩
      · decide
      · rw [collapse_deepSlash, collapseWithin_cons hc, collapseWithin_slash]
        simp
    · have hwithin : collapseWithin (c :: cs) = c :: collapseWithin cs := by
        rw [collapseWithin_cons hc, if_neg hrun]
      have hwhole : collapse (c :: cs) = c :: collapseWithin cs := by
        obtain ⟨d, ds, -, hcons, hhead⟩ := exists_components_cons hc cs
        rw [collapse_eq_collapseWithin, hwithin]
        rw [hcons, List.head?_cons, ne_eq, Option.some.injEq]
        intro heq
        obtain ⟨hstar, rfl⟩ := List.cons.inj heq
        exact hrun ⟨hstar, hhead.1 rfl⟩
      unfold collapseAfter
      rw [if_neg (not_opens_some hc), hwhole, hwithin, ite_self]

/-- Whether a star goes is settled by the text up to the next character that is none. -/
theorem drops_append_iff (hc : c ≠ '*') (b : Char) (rest : List Char) :
    Drops before b (cs ++ c :: rest) ↔ Drops before b (cs ++ [c]) := by
  unfold Drops
  cases cs with
  | nil => simp [hc]
  | cons d cs =>
    cases cs with
    | nil => simp
    | cons e cs => simp

/-- Text is collapsed up to a character that is no star whatever follows it. -/
theorem exists_collapseAfter_append (hc : c ≠ '*') (before : Option Char) (cs : List Char) :
    ∃ ds, Thins cs ds ∧ ∀ rest, collapseAfter before (cs ++ c :: rest) =
      ds ++ c :: collapseAfter (some c) rest := by
  induction cs generalizing before with
  | nil =>
    refine ⟨[], .nil, fun rest => ?_⟩
    rw [List.nil_append, collapseAfter_of_not_drops (not_drops_of_ne hc)]
    rfl
  | cons b cs ih =>
    obtain ⟨ds, hthins, hrest⟩ := ih (some b)
    by_cases hdrops : Drops before b (cs ++ [c])
    · refine ⟨ds, ?_, fun rest => ?_⟩
      · obtain ⟨rfl, more, hmore, -⟩ := hdrops
        cases cs with
        | nil => exact absurd (List.cons.inj hmore).1 hc
        | cons d cs =>
          obtain rfl : d = '*' := (List.cons.inj hmore).1
          exact .drop hthins
      · rw [List.cons_append, collapseAfter_of_drops ((drops_append_iff hc b rest).2 hdrops), hrest]
    · refine ⟨b :: ds, .keep hthins, fun rest => ?_⟩
      have hkeeps : ¬ Drops before b (cs ++ c :: rest) := by rwa [drops_append_iff hc]
      rw [List.cons_append, collapseAfter_of_not_drops hkeeps, hrest, List.cons_append]

/-- Collapsing takes away stars before stars, and nothing else. -/
theorem thins_collapseAfter (before : Option Char) (cs : List Char) :
    Thins cs (collapseAfter before cs) := by
  induction cs generalizing before with
  | nil =>
    rw [collapseAfter_nil]
    exact .nil
  | cons c cs ih =>
    by_cases hdrops : Drops before c cs
    · rw [collapseAfter_of_drops hdrops]
      obtain ⟨rfl, rest, rfl, -⟩ := hdrops
      exact .drop (ih _)
    · rw [collapseAfter_of_not_drops hdrops]
      exact .keep (ih _)

theorem collapse_eq_collapseAfter (cs : List Char) : collapse cs = collapseAfter none cs := by
  unfold collapseAfter
  rw [if_pos (by decide)]

theorem thins_collapse (cs : List Char) : Thins cs (collapse cs) := by
  rw [collapse_eq_collapseAfter]
  exact thins_collapseAfter none cs

end Characters

end Presubmit.Glob
