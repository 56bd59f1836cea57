import Presubmit.Proofs.Glob.Componentwise

/-! The collapsed form is a normal form. Its components are those of the pattern, each of them
collapsed, and there is nothing left in it to collapse. -/
namespace Presubmit.Glob

variable {before : Option Char} {c : Char} {cs d rest : List Char}

theorem collapseRuns_of_noRuns (h : NoRuns cs) : collapseRuns cs = cs := by
  induction cs with
  | nil => rfl
  | cons c cs ih =>
    have hruns : ¬ (c = '*' ∧ cs.head? = some '*') := by
      rintro ⟨hc, hhead⟩
      exact h.rel_head? hhead hc rfl
    rw [collapseRuns, if_neg hruns, ih h.tail]

theorem slash_not_mem_collapseComponent (h : '/' ∉ d) : '/' ∉ collapseComponent d := by
  unfold collapseComponent
  split
  · exact h
  · exact fun hmem => h ((thins_collapseRuns d).sublist.subset hmem)

theorem components_collapse (cs : List Char) :
    Path.components (collapse cs) = (Path.components cs).map collapseComponent := by
  apply Path.components_join
  · rw [ne_eq, List.map_eq_nil_iff]
    exact Path.components_ne_nil cs
  · intro d hd
    obtain ⟨e, he, rfl⟩ := List.mem_map.1 hd
    exact slash_not_mem_collapseComponent (Path.slash_not_mem_of_mem_components he)

/-- Every component is two stars or has no star after a star. -/
def IsCollapsed (cs : List Char) : Prop :=
  ∀ d ∈ Path.components cs, d = ['*', '*'] ∨ NoRuns d

theorem collapse_of_isCollapsed (h : IsCollapsed cs) : collapse cs = cs := by
  have hcomponents : (Path.components cs).map collapseComponent = Path.components cs := by
    refine (List.map_congr_left fun d hd => ?_).trans (List.map_id _)
    rcases h d hd with rfl | hruns
    · rfl
    · rw [collapseComponent, collapseRuns_of_noRuns hruns, ite_self, id]
  rw [collapse, hcomponents, Path.join_components]

theorem isCollapsed_collapse (cs : List Char) : IsCollapsed (collapse cs) := by
  intro e he
  rw [components_collapse] at he
  obtain ⟨d, -, rfl⟩ := List.mem_map.1 he
  by_cases hdeep : d = ['*', '*']
  · rw [collapseComponent, if_pos hdeep]
    exact .inl hdeep
  · rw [collapseComponent, if_neg hdeep]
    exact .inr (noRuns_collapseRuns d)

theorem collapse_eq_self_iff : collapse cs = cs ↔ IsCollapsed cs :=
  ⟨fun h => h ▸ isCollapsed_collapse cs, collapse_of_isCollapsed⟩

theorem collapse_collapse (cs : List Char) : collapse (collapse cs) = collapse cs :=
  collapse_of_isCollapsed (isCollapsed_collapse cs)

/-- In collapsed text no star goes. -/
theorem collapseAfter_cons_eq_self_iff :
    collapseAfter before (c :: cs) = c :: cs ↔
      ¬ Drops before c cs ∧ collapseAfter (some c) cs = cs := by
  constructor
  · intro h
    have hkeeps : ¬ Drops before c cs := by
      intro hdrops
      rw [collapseAfter_of_drops hdrops] at h
      have hlength := (thins_collapseAfter (some c) cs).sublist.length_le
      rw [h, List.length_cons] at hlength
      omega
    rw [collapseAfter_of_not_drops hkeeps] at h
    exact ⟨hkeeps, (List.cons.inj h).2⟩
  · rintro ⟨hkeeps, hrest⟩
    rw [collapseAfter_of_not_drops hkeeps, hrest]

theorem collapseAfter_eq_self_of_append
    (h : collapseAfter before (cs ++ c :: rest) = cs ++ c :: rest) :
    collapseAfter (some c) rest = rest := by
  induction cs generalizing before with
  | nil => exact (collapseAfter_cons_eq_self_iff.1 h).2
  | cons b cs ih => exact ih (collapseAfter_cons_eq_self_iff.1 h).2

end Presubmit.Glob
