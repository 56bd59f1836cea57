import Mathlib.Data.List.Basic
import Presubmit.Proofs.Sequence
import Presubmit.Rules.Irrelevance

/-! What a written pattern matches. Characters that have no meaning in patterns match themselves, so
that a plain name matches itself alone, and with a deep star below it all that lies below. -/
namespace Presubmit.Glob

/-- The pattern compiles and matches the path. -/
def Matches (pattern path : String) : Prop :=
  ∃ compiled, compile pattern = .ok compiled ∧ compiled.isMatch path = true

theorem matches_iff_of_compile {pattern path : String} {compiled : Pattern}
    (h : compile pattern = .ok compiled) :
    Matches pattern path ↔ compiled.isMatch path = true := by
  constructor
  · intro hmatches
    obtain ⟨compiled', h', hmatch⟩ := hmatches
    obtain rfl : compiled' = compiled := Except.ok.inj (h'.symm.trans h)
    exact hmatch
  · intro hmatch
    exact ⟨compiled, h, hmatch⟩

instance (pattern path : String) : Decidable (Matches pattern path) :=
  match h : compile pattern with
  | .ok compiled => decidable_of_iff (compiled.isMatch path = true) (matches_iff_of_compile h).symm
  | .error _ => .isFalse fun ⟨_, h', _⟩ => nomatch h.symm.trans h'

/-- Compiled together, the patterns match what the written ones do. -/
theorem exists_isMatch_iff {patterns : List String} {compiled : List Pattern} {path : String}
    (h : patterns.mapM compileRule = .ok compiled) :
    (∃ g ∈ compiled, g.isMatch path = true) ↔ ∃ pattern ∈ patterns, Matches pattern path := by
  constructor
  · intro hcompiled
    obtain ⟨g, hg, hmatch⟩ := hcompiled
    obtain ⟨pattern, hpattern, hcompile⟩ := (mem_of_mapM_eq_ok h).1 hg
    exact ⟨pattern, hpattern, g, compileRule_eq_ok_iff.1 hcompile, hmatch⟩
  · intro hwritten
    obtain ⟨pattern, hpattern, g, hcompile, hmatch⟩ := hwritten
    have hg : g ∈ compiled :=
      (mem_of_mapM_eq_ok h).2 ⟨pattern, hpattern, compileRule_eq_ok_iff.2 hcompile⟩
    exact ⟨g, hg, hmatch⟩

section Collapse

variable {cs ds : List Char}

theorem collapseRuns_of_not_mem (h : '*' ∉ cs) : collapseRuns cs = cs := by
  induction cs with
  | nil => rfl
  | cons c cs ih =>
    rw [List.mem_cons, not_or] at h
    rw [collapseRuns, if_neg fun hrun => h.1 hrun.1.symm, ih h.2]

theorem collapse_append (cs ds : List Char) :
    collapse (cs ++ '/' :: ds) = collapse cs ++ '/' :: collapse ds := by
  have hne : ∀ es : List Char, (Path.components es).map collapseComponent ≠ [] := by
    intro es hnil
    exact Path.components_ne_nil es (List.map_eq_nil_iff.1 hnil)
  unfold collapse
  rw [Path.components_append, List.map_append, Path.join_append (hne cs) (hne ds)]

theorem collapse_of_not_mem (h : '*' ∉ cs) : collapse cs = cs := by
  have hplain : ∀ d ∈ Path.components cs, collapseComponent d = id d := by
    intro d hd
    have hstar : '*' ∉ d := fun hmem => h (Path.mem_of_mem_components hd hmem)
    unfold collapseComponent
    rw [collapseRuns_of_not_mem hstar, ite_self, id]
  rw [collapse, List.map_congr_left hplain, List.map_id, Path.join_components]

end Collapse

/-- Every character stands for itself. -/
def IsLiteral (cs : List Char) : Prop :=
  ∀ c ∈ cs, c ≠ '*' ∧ c ≠ '?' ∧ c ≠ '['

instance (cs : List Char) : Decidable (IsLiteral cs) :=
  List.decidableBAll (fun c => c ≠ '*' ∧ c ≠ '?' ∧ c ≠ '[') cs

section Reading

variable {cs ds : List Char} {ts us : List Token} {before : Option Char}

theorem IsLiteral.star_not_mem (h : IsLiteral cs) : '*' ∉ cs :=
  fun hmem => (h '*' hmem).1 rfl

theorem scan_cons_of_literal {c : Char} (hc : c ≠ '*' ∧ c ≠ '?' ∧ c ≠ '[') (i : Nat) :
    scan .plain i before (c :: cs) = (scan .plain (i + 1) (some c) cs).map (.char c :: ·) := by
  obtain ⟨hstar, hany, hclass⟩ := hc
  rw [scan]
  · rw [if_neg hany, if_neg hclass]
  · exact hstar

/-- Literal text becomes its characters, and reading goes on after its last one. -/
theorem scan_append_of_literal (hcs : IsLiteral cs) (i : Nat) :
    scan .plain i before (cs ++ ds) =
      (scan .plain (i + cs.length) (cs.getLast?.or before) ds).map (cs.map Token.char ++ ·) := by
  induction cs generalizing i before with
  | nil => cases h : scan .plain i before ds <;> simp [h, Except.map]
  | cons c cs ih =>
    obtain ⟨hc, hcs⟩ := List.forall_mem_cons.1 hcs
    have hlast : (c :: cs).getLast?.or before = cs.getLast?.or (some c) := by
      rw [List.getLast?_cons]
      cases cs.getLast? <;> rfl
    have hposition : i + (c :: cs).length = i + 1 + cs.length := by
      rw [List.length_cons]
      omega
    rw [List.cons_append, scan_cons_of_literal hc, ih hcs, hlast, hposition]
    cases scan .plain (i + 1 + cs.length) (cs.getLast?.or (some c)) ds <;> rfl

theorem mergeDeepStars_append (h : .deepStar ∉ ts) (us : List Token) :
    mergeDeepStars (ts ++ us) = ts ++ mergeDeepStars us := by
  induction ts with
  | nil => rfl
  | cons t ts ih =>
    rw [List.mem_cons, not_or] at h
    rw [List.cons_append, mergeDeepStars, if_neg fun hrun => h.1 hrun.1.symm, ih h.2,
      List.cons_append]

theorem tokenize_append_of_literal (hcs : IsLiteral cs) (hne : cs ≠ [])
    (hds : scan .plain (0 + cs.length) (cs.getLast?.or none) ds = .ok us) :
    tokenize (cs ++ ds) = .ok (cs.map Token.char ++ mergeDeepStars us) := by
  have hchars : ∀ es : List Char, Token.deepStar ∉ es.map Token.char := by simp
  rw [tokenize, scan_append_of_literal hcs, hds]
  cases cs with
  | nil => exact absurd rfl hne
  | cons c cs =>
    show Except.ok (Token.char c :: mergeDeepStars (cs.map Token.char ++ us)) = _
    rw [mergeDeepStars_append (hchars cs)]
    rfl

end Reading

section Running

variable {cs path : List Char} {ts : List Token}

/-- Literal text is taken from the front of the path. -/
theorem run_append_eq_matched_iff :
    run (cs.map Token.char ++ ts) path = .matched ↔
      ∃ rest, path = cs ++ rest ∧ run ts rest = .matched := by
  induction cs generalizing path with
  | nil => simp
  | cons c cs ih =>
    cases path with
    | nil => simp [run]
    | cons d path =>
      by_cases h : d = c
      · simp [run, Token.accepts, h, ih]
      · simp [run, Token.accepts, h]

/-- A deep star at the end takes whatever is left. -/
theorem run_deepStar : run [.deepStar] path = .matched := by
  have hsweep : sweep true (run []) path = .matched := by
    induction path with
    | nil => rfl
    | cons c cs ih =>
      by_cases hslash : c = '/'
      · cases cs <;> simp_all [sweep, run]
      · simp [sweep, hslash, ih]
  cases path with
  | nil => rfl
  | cons c cs => simpa [run] using hsweep

end Running

section Literal

variable {name path : String}

theorem matches_iff_run {pattern : String} {ts : List Token}
    (h : tokenize (collapse pattern.toList) = .ok ts) :
    Matches pattern path ↔ run ts path.toList = .matched := by
  have hcompile : compile pattern = .ok ⟨String.ofList (collapse pattern.toList), ts⟩ := by
    rw [compile, h]
    rfl
  rw [matches_iff_of_compile hcompile, Pattern.isMatch, decide_eq_true_iff]

/-- A plain name is a pattern that matches nothing else. -/
theorem matches_literal_iff (hname : IsLiteral name.toList) : Matches name path ↔ path = name := by
  have htokens : tokenize name.toList = .ok (name.toList.map Token.char ++ []) := by
    by_cases hempty : name.toList = []
    · rw [hempty]
      rfl
    · have hscan : scan .plain (0 + name.toList.length) (name.toList.getLast?.or none) [] =
          .ok [] := by
        rw [scan]
      have happend := tokenize_append_of_literal hname hempty hscan
      rwa [List.append_nil] at happend
  have hend : ∀ rest : List Char, run [] rest = .matched ↔ rest = [] := by
    intro rest
    cases rest <;> simp [run]
  rw [← collapse_of_not_mem hname.star_not_mem] at htokens
  rw [matches_iff_run htokens, run_append_eq_matched_iff]
  simp only [hend, exists_eq_right, List.append_nil, collapse_of_not_mem hname.star_not_mem,
    String.toList_inj]

/-- A deep star below a plain name matches what follows the name and a slash. -/
theorem matches_below_iff (hname : IsLiteral name.toList) :
    Matches (name ++ "/**") path ↔ ∃ below, path.toList = name.toList ++ '/' :: below := by
  have hslash : IsLiteral ['/'] := by decide
  have hprefix : IsLiteral (name.toList ++ ['/']) := List.forall_mem_append.2 ⟨hname, hslash⟩
  have hcollapse : collapse (name ++ "/**").toList = name.toList ++ ['/'] ++ ['*', '*'] := by
    have hchars : (name ++ "/**").toList = name.toList ++ '/' :: ['*', '*'] := by
      simp [String.toList_append]
    rw [hchars, collapse_append, collapse_of_not_mem hname.star_not_mem]
    simp [collapse, Path.components, collapseComponent, Path.join, List.intercalate]
  have hdeep : scan .plain (0 + (name.toList ++ ['/']).length)
      ((name.toList ++ ['/']).getLast?.or none) ['*', '*'] = .ok [.deepStar] := by
    simp [scan]
  have htokens := tokenize_append_of_literal hprefix (by simp) hdeep
  rw [← hcollapse] at htokens
  rw [matches_iff_run htokens, run_append_eq_matched_iff]
  simp [mergeDeepStars, run_deepStar]

end Literal

end Presubmit.Glob
