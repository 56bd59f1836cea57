import Presubmit.Proofs.Glob.Brackets
import Presubmit.Proofs.Glob.Collapsed

/-! Which patterns are refused, and what is reported. In collapsed text reading can stop only at an
opening bracket that opens no class. Its position is reported with the pattern as it is written,
where the bracket stands later by the stars that were left out before it. -/
namespace Presubmit.Glob

section Scanning

variable {before : Option Char} {i start : Nat} {negated : Bool}
  {members cs closed rest : List Char} {e : SyntaxError}

theorem scan_inside_of_not_mem (h : ']' ∉ cs) :
    scan (.inside start negated members) i before cs = .error ⟨start, .unclosedClass⟩ := by
  induction cs generalizing i before members with
  | nil => rw [scan]
  | cons c cs ih =>
    rw [List.mem_cons, not_or] at h
    rw [scan, if_neg fun hclose => h.1 hclose.1.symm, ih h.2]

/-- Without a closing bracket the opening one is reported. -/
theorem scan_opened_of_not_classFollows (h : ¬ ClassFollows cs) :
    scan (.opened start) i before cs = .error ⟨start, .unclosedClass⟩ := by
  cases cs with
  | nil => rw [scan]
  | cons c cs =>
    rw [classFollows_cons_iff] at h
    by_cases hc : c = '!'
    · rw [if_pos hc] at h
      rw [scan, if_pos hc]
      cases cs with
      | nil => rw [scan]
      | cons d cs =>
        rw [scan, if_neg fun hclose => hclose.2 rfl]
        exact scan_inside_of_not_mem h
    · rw [if_neg hc] at h
      rw [scan, if_neg hc]
      exact scan_inside_of_not_mem h

/-- Collapsed text is read up to its end, or up to the opening bracket that no class closes. -/
theorem scan_append_eq_error_iff (h : Closed closed) (hrest : ∀ c ∈ rest.head?, c = '[')
    (hself : collapseAfter before (closed ++ rest) = closed ++ rest) :
    scan .plain i before (closed ++ rest) = .error e ↔
      scan .plain (i + closed.length) none rest = .error e := by
  induction h generalizing i before with
  | nil =>
    cases rest with
    | nil => exact Iff.rfl
    | cons c rest =>
      obtain rfl : c = '[' := hrest c rfl
      rw [List.nil_append, scan_bracket, scan_bracket]
      exact Iff.rfl
  | @char c cs hc _ ih =>
    rw [List.cons_append] at hself ⊢
    obtain ⟨hkeeps, hself⟩ := collapseAfter_cons_eq_self_iff.1 hself
    have hposition : i + (c :: cs).length = i + 1 + cs.length := by
      rw [List.length_cons]
      omega
    rw [hposition, ← ih hself]
    by_cases hstar : c = '*'
    · subst hstar
      by_cases hrun : (cs ++ rest).head? = some '*'
      · -- the two stars fill a component, so that the slash after them is read with them
        obtain ⟨more, hmore⟩ := List.head?_eq_some_iff.1 hrun
        rw [hmore] at hkeeps ⊢
        obtain ⟨hopens, rfl | ⟨ds, rfl⟩⟩ := component_of_not_drops hkeeps
        · rw [scan_deepEnd hopens, scan_star (by simp), map_eq_error_iff, scan]
          constructor
          · intro h
            cases h
          · intro h
            cases h
        · rw [scan_deepSlash hopens, map_eq_error_iff, scan_star (by simp), map_eq_error_iff,
            scan_cons_of_literal (by decide), map_eq_error_iff]
      · rw [scan_star hrun, map_eq_error_iff]
    · by_cases hany : c = '?'
      · rw [hany, scan_anyChar, map_eq_error_iff]
      · rw [scan_cons_of_literal ⟨hstar, hany, hc⟩, map_eq_error_iff]
  | @brackets negated members cs hclass _ ih =>
    rw [brackets_append] at hself ⊢
    have hposition : i + ('[' :: (classText negated members ++ ']' :: cs)).length =
        i + 1 + (classText negated members).length + 1 + cs.length := by
      rw [List.length_cons, List.length_append, List.length_cons]
      omega
    have hself : collapseAfter (some ']') (cs ++ rest) = cs ++ rest :=
      collapseAfter_eq_self_of_append (collapseAfter_cons_eq_self_iff.1 hself).2
    rw [hposition, ← ih hself, scan_bracket, scan_class hclass, map_eq_error_iff]

end Scanning

section Patterns

variable {pattern : String} {position : Nat} {e : SyntaxError}

theorem compile_eq_error_iff_scan :
    compile pattern = .error e ↔ scan .plain 0 none (collapse pattern.toList) = .error e := by
  unfold compile tokenize
  dsimp only
  rw [map_eq_error_iff, map_eq_error_iff]

theorem collapseAfter_collapse (cs : List Char) :
    collapseAfter none (collapse cs) = collapse cs := by
  rw [← collapse_eq_collapseAfter, collapse_collapse]

theorem exists_compile_of_closed (h : Closed pattern.toList) :
    ∃ compiled, compile pattern = .ok compiled := by
  refine exists_eq_ok_iff.2 fun e he => ?_
  have hclosed : Closed (collapse pattern.toList) := h.of_thins (thins_collapse _)
  have hself : collapseAfter none (collapse pattern.toList ++ []) =
      collapse pattern.toList ++ [] := by
    rw [List.append_nil, collapseAfter_collapse]
  rw [compile_eq_error_iff_scan, ← List.append_nil (collapse pattern.toList),
    scan_append_eq_error_iff hclosed (by simp) hself, scan] at he
  cases he

theorem compile_of_unclosed (h : Unclosed (collapse pattern.toList) position) :
    compile pattern = .error ⟨position, .unclosedClass⟩ := by
  obtain ⟨closed, rest, hcs, rfl, hclosed, hnone⟩ := h
  have hself : collapseAfter none (closed ++ '[' :: rest) = closed ++ '[' :: rest := by
    rw [← hcs, collapseAfter_collapse]
  rw [compile_eq_error_iff_scan, hcs, scan_append_eq_error_iff hclosed (by simp) hself,
    scan_bracket, scan_opened_of_not_classFollows hnone, Nat.zero_add]

theorem fault_of_compile_eq_error (h : compile pattern = .error e) : e.fault = .unclosedClass := by
  rcases closed_or_exists_unclosed pattern.toList with hclosed | ⟨start, hstart⟩
  · obtain ⟨compiled, hcompile⟩ := exists_compile_of_closed hclosed
    rw [hcompile] at h
    cases h
  · obtain ⟨position, hposition, -⟩ := hstart.exists_collapse
    rw [compile_of_unclosed hposition] at h
    cases h
    rfl

/-- A pattern compiles exactly if it has no opening bracket that opens no class. Otherwise that
bracket is unique, and the pattern is reported as it is written, for a reason that names the
position of the bracket in the collapsed form. This is its position in the pattern exactly if
nothing up to the bracket is collapsed. -/
theorem compileRule_reports_unclosed (pattern : String) :
    ((∃ compiled, compileRule pattern = .ok compiled) ↔ ∀ start, ¬ Unclosed pattern.toList start) ∧
      ∀ e, compileRule pattern = .error e → ∃ start position,
        (∀ i, Unclosed pattern.toList i ↔ i = start) ∧
        e = .invalidPattern pattern ⟨position, .unclosedClass⟩ ∧
        SyntaxError.message ⟨position, .unclosedClass⟩ =
          "Pattern syntax error near position " ++ toString position ++
            ": invalid range pattern" ∧
        position + 1 = (collapse (pattern.toList.take (start + 1))).length ∧
        (position = start ↔
          collapse (pattern.toList.take (start + 1)) = pattern.toList.take (start + 1)) := by
  rcases closed_or_exists_unclosed pattern.toList with hclosed | ⟨start, hstart⟩
  · obtain ⟨compiled, hcompile⟩ := exists_compile_of_closed hclosed
    have hrule : compileRule pattern = .ok compiled := compileRule_eq_ok_iff.2 hcompile
    refine ⟨iff_of_true ⟨compiled, hrule⟩ fun start hstart => ?_, fun e he => ?_⟩
    · obtain ⟨position, hposition, -⟩ := hstart.exists_collapse
      rw [compile_of_unclosed hposition] at hcompile
      cases hcompile
    · rw [hrule] at he
      cases he
  · obtain ⟨position, hposition, hlength, hsame⟩ := hstart.exists_collapse
    have hrule : compileRule pattern =
        .error (.invalidPattern pattern ⟨position, .unclosedClass⟩) :=
      compileRule_eq_error_iff.2 ⟨_, compile_of_unclosed hposition, rfl⟩
    refine ⟨iff_of_false ?_ fun hnone => hnone start hstart, fun e he => ?_⟩
    · rintro ⟨compiled, hcompile⟩
      rw [hrule] at hcompile
      cases hcompile
    · have hunique : ∀ i, Unclosed pattern.toList i ↔ i = start :=
        fun i => ⟨fun h => h.unique hstart, fun h => h ▸ hstart⟩
      obtain rfl := Except.error.inj (hrule.symm.trans he)
      exact ⟨start, position, hunique, rfl, SyntaxError.message_unclosedClass position, hlength,
        hsame⟩

/-- The bracket is the ninth character, and it is reported as the eighth, the dot before it. -/
theorem not_forall_compileRule_position :
    ¬ ∀ (pattern : String) (e : Failure), compileRule pattern = .error e →
      ∃ position, e = .invalidPattern pattern ⟨position, .unclosedClass⟩ ∧
        Unclosed pattern.toList position := by
  intro h
  have herror : compileRule "docs/**.[ch" =
      .error (.invalidPattern "docs/**.[ch" ⟨7, .unclosedClass⟩) := by decide
  obtain ⟨position, hreport, hunclosed⟩ := h _ _ herror
  obtain rfl : 7 = position := by
    injection hreport with _ hposition
    injection hposition
  exact absurd hunclosed.getElem?_eq (by decide)

end Patterns

end Presubmit.Glob
