import Mathlib.Data.List.Forall2
import Presubmit.Proofs.Glob.Collapsing

/-! Patterns without classes and without a component of two stars. They match component by
component, since no star and no question mark takes a slash. -/
namespace Presubmit.Glob

/-- The token of a character outside a class, where it stands alone. -/
def Token.ofChar (c : Char) : Token :=
  if c = '*' then .star else if c = '?' then .anyChar else .char c

/-- No star follows a star. -/
def NoRuns (cs : List Char) : Prop :=
  cs.IsChain fun a b => a = '*' → b ≠ '*'

section Reading

variable {before : Option Char} {cs : List Char} {c : Char}

theorem ofChar_of_ne (hstar : c ≠ '*') (hany : c ≠ '?') : Token.ofChar c = .char c := by
  rw [Token.ofChar, if_neg hstar, if_neg hany]

theorem ofChar_ne_deepStar (c : Char) : Token.ofChar c ≠ .deepStar := by
  unfold Token.ofChar
  split_ifs <;> exact nofun

theorem reads_map_ofChar (hclass : '[' ∉ cs) (hruns : NoRuns cs) :
    Reads before cs (cs.map Token.ofChar) := by
  induction cs generalizing before with
  | nil => exact .nil
  | cons c cs ih =>
    rw [List.mem_cons, not_or] at hclass
    have hrest : Reads (some c) cs (cs.map Token.ofChar) := ih hclass.2 hruns.tail
    rw [List.map_cons]
    by_cases hstar : c = '*'
    · subst hstar
      exact .star (fun hhead => hruns.rel_head? hhead rfl rfl) hrest
    · by_cases hany : c = '?'
      · subst hany
        exact .anyChar hrest
      · rw [ofChar_of_ne hstar hany]
        exact .literal ⟨hstar, hany, fun heq => hclass.1 heq.symm⟩ hrest

theorem noRuns_collapseRuns (cs : List Char) : NoRuns (collapseRuns cs) := by
  induction cs with
  | nil => exact .nil
  | cons c cs ih =>
    by_cases hrun : c = '*' ∧ cs.head? = some '*'
    · rwa [collapseRuns, if_pos hrun]
    · rw [collapseRuns, if_neg hrun]
      refine ih.cons fun b hb hc hstar => hrun ⟨hc, ?_⟩
      rw [← (thins_collapseRuns cs).head?_eq, ← hstar]
      exact hb

theorem noRuns_join {ds : List (List Char)} (h : ∀ d ∈ ds, NoRuns d) : NoRuns (Path.join ds) := by
  induction ds with
  | nil => exact .nil
  | cons d ds ih =>
    obtain ⟨hd, hds⟩ := List.forall_mem_cons.1 h
    by_cases hne : ds = []
    · rwa [hne, Path.join_singleton]
    · rw [Path.join_cons hne]
      have hslash : NoRuns ('/' :: Path.join ds) :=
        (ih hds).cons fun b _ heq => absurd heq (by decide)
      refine hd.append hslash fun a _ b hb _ => ?_
      rw [List.head?_cons, Option.mem_some_iff] at hb
      rw [← hb]
      decide

end Reading

section Texts

variable {ts us : List Token} {cs : List Char}

/-- Without deep stars, tokens stand for the texts that their parts stand for in turn. -/
theorem spells_append_iff (h : .deepStar ∉ ts) :
    Spells (ts ++ us) cs ↔ ∃ first second, cs = first ++ second ∧ Spells ts first ∧
      Spells us second := by
  induction ts generalizing cs with
  | nil =>
    constructor
    · intro hus
      exact ⟨[], cs, rfl, .nil, hus⟩
    · rintro ⟨first, second, rfl, hfirst, hus⟩
      rw [spells_nil_iff.1 hfirst]
      exact hus
  | cons t ts ih =>
    rw [List.mem_cons, not_or] at h
    rw [List.cons_append]
    by_cases hstar : t = .star
    · subst hstar
      simp only [spells_star_iff, ih h.2]
      constructor
      · rintro ⟨taken, _, rfl, htaken, first, second, rfl, hts, hus⟩
        exact ⟨taken ++ first, second, by rw [List.append_assoc], ⟨taken, first, rfl, htaken, hts⟩,
          hus⟩
      · rintro ⟨_, second, rfl, ⟨taken, first, rfl, htaken, hts⟩, hus⟩
        exact ⟨taken, first ++ second, by rw [List.append_assoc], htaken, first, second, rfl, hts,
          hus⟩
    · have ht : t.IsSingle := ⟨hstar, fun heq => h.1 heq.symm⟩
      simp only [spells_single_iff ht, ih h.2]
      constructor
      · rintro ⟨c, _, rfl, hc, first, second, rfl, hts, hus⟩
        exact ⟨c :: first, second, rfl, ⟨c, first, rfl, hc, hts⟩, hus⟩
      · rintro ⟨_, second, rfl, ⟨c, first, rfl, hc, hts⟩, hus⟩
        exact ⟨c, first ++ second, rfl, hc, first, second, rfl, hts, hus⟩

/-- Only a deep star and the slash itself take a slash. -/
theorem Spells.slash_not_mem (h : Spells ts cs) (hslash : .char '/' ∉ ts) (hdeep : .deepStar ∉ ts) :
    '/' ∉ cs := by
  induction h with
  | nil => exact List.not_mem_nil
  | @single t ts c cs haccepts _ ih =>
    rw [List.mem_cons, not_or] at hslash hdeep ⊢
    refine ⟨?_, ih hslash.2 hdeep.2⟩
    rintro rfl
    cases t with
    | char d =>
      have hd : '/' = d := by simpa [Token.accepts] using haccepts
      exact hslash.1 (by rw [hd])
    | anyChar | star | deepStar | oneOf _ | noneOf _ => simp [Token.accepts] at haccepts
  | star htaken _ ih =>
    rw [List.mem_cons, not_or] at hslash hdeep
    rw [List.mem_append, not_or]
    exact ⟨htaken, ih hslash.2 hdeep.2⟩
  | deepNone _ _ | deepBelow _ _ _ | deepAll _ _ => exact absurd List.mem_cons_self hdeep

theorem deepStar_not_mem_map_ofChar (cs : List Char) : .deepStar ∉ cs.map Token.ofChar := by
  intro h
  obtain ⟨c, -, hc⟩ := List.mem_map.1 h
  exact ofChar_ne_deepStar c hc

theorem slash_not_mem_of_spells {d : List Char} (hd : '/' ∉ d)
    (h : Spells (d.map Token.ofChar) cs) : '/' ∉ cs := by
  refine h.slash_not_mem ?_ (deepStar_not_mem_map_ofChar d)
  intro hmem
  obtain ⟨c, hc, hslash⟩ := List.mem_map.1 hmem
  unfold Token.ofChar at hslash
  split_ifs at hslash
  exact hd (Token.char.inj hslash ▸ hc)

/-- Joined components stand for the paths whose components they stand for. -/
theorem spells_join_iff {ds : List (List Char)} (hne : ds ≠ []) (hds : ∀ d ∈ ds, '/' ∉ d) :
    Spells ((Path.join ds).map Token.ofChar) cs ↔
      List.Forall₂ (fun d e => Spells (d.map Token.ofChar) e) ds (Path.components cs) := by
  induction ds generalizing cs with
  | nil => exact absurd rfl hne
  | cons d ds ih =>
    obtain ⟨hd, hrest⟩ := List.forall_mem_cons.1 hds
    by_cases hlast : ds = []
    · rw [hlast, Path.join_singleton]
      constructor
      · intro h
        rw [Path.components_of_not_mem (slash_not_mem_of_spells hd h)]
        exact .cons h .nil
      · intro h
        obtain ⟨e, es, he, hes, hcs⟩ := List.forall₂_cons_left_iff.1 h
        rw [List.forall₂_nil_left_iff.1 hes] at hcs
        have hpath : cs = e := by rw [← Path.join_components cs, hcs, Path.join_singleton]
        rwa [hpath]
    · have hslash : Token.ofChar '/' = .char '/' := by decide
      rw [Path.join_cons hlast, List.map_append, List.map_cons, hslash,
        spells_append_iff (deepStar_not_mem_map_ofChar d)]
      constructor
      · rintro ⟨first, second, rfl, hfirst, hsecond⟩
        obtain ⟨c, rest, rfl, hc, hspells⟩ := (spells_single_iff (by decide)).1 hsecond
        obtain rfl : c = '/' := by simpa [Token.accepts] using hc
        rw [Path.components_append,
          Path.components_of_not_mem (slash_not_mem_of_spells hd hfirst)]
        exact .cons hfirst ((ih hlast hrest).1 hspells)
      · intro h
        obtain ⟨e, es, he, hes, hcs⟩ := List.forall₂_cons_left_iff.1 h
        have hne : es ≠ [] := by
          rintro rfl
          exact hlast (List.forall₂_nil_right_iff.1 hes)
        have hplain : ∀ x ∈ es, '/' ∉ x := fun x hx =>
          Path.slash_not_mem_of_mem_components (hcs ▸ List.mem_cons_of_mem e hx)
        have hpath : cs = e ++ '/' :: Path.join es := by
          rw [← Path.join_components cs, hcs, Path.join_cons hne]
        have hspells : Spells ((Path.join ds).map Token.ofChar) (Path.join es) :=
          (ih hlast hrest).2 (by rwa [Path.components_join hne hplain])
        exact ⟨e, '/' :: Path.join es, hpath, he, .single rfl hspells⟩

end Texts

theorem forall₂_congr_of_mem {α β : Type} {R S : α → β → Prop} {as : List α} {bs : List β}
    (h : ∀ a ∈ as, ∀ b, R a b ↔ S a b) : List.Forall₂ R as bs ↔ List.Forall₂ S as bs := by
  have himp : ∀ {R S : α → β → Prop}, (∀ a ∈ as, ∀ b, R a b → S a b) →
      List.Forall₂ R as bs → List.Forall₂ S as bs := by
    intro R S hmem hR
    have hboth := (List.forall₂_and_left _ _).2 ⟨hmem, hR⟩
    exact hboth.imp fun a b hab => hab.1 b hab.2
  exact ⟨himp fun a ha b => (h a ha b).1, himp fun a ha b => (h a ha b).2⟩

section Patterns

variable {cs : List Char}

/-- Without classes and components of two stars, every character of the collapsed pattern is a token
of its own. -/
theorem reads_collapse (hclass : '[' ∉ cs) (hdeep : ∀ d ∈ Path.components cs, d ≠ ['*', '*']) :
    collapse cs = Path.join ((Path.components cs).map collapseRuns) ∧
      Reads none (collapse cs) ((collapse cs).map Token.ofChar) := by
  have hjoin : collapse cs = Path.join ((Path.components cs).map collapseRuns) := by
    unfold collapse
    congr 1
    apply List.map_congr_left
    intro d hd
    rw [collapseComponent, if_neg (hdeep d hd)]
  refine ⟨hjoin, reads_map_ofChar ?_ ?_⟩
  · exact fun hmem => hclass ((thins_collapse cs).sublist.subset hmem)
  · rw [hjoin]
    apply noRuns_join
    intro d hd
    obtain ⟨e, -, rfl⟩ := List.mem_map.1 hd
    exact noRuns_collapseRuns e

/-- A pattern without classes and without a component of two stars compiles, and so do its
components. It matches the paths that have as many components, each matched by the component of the
pattern in its place. -/
theorem compile_componentwise {pattern : String} (hclass : '[' ∉ pattern.toList)
    (hdeep : ∀ d ∈ Path.components pattern.toList, d ≠ ['*', '*']) :
    ∃ compiled, compile pattern = .ok compiled ∧
      (∀ d ∈ Path.components pattern.toList, ∃ part, compile (String.ofList d) = .ok part) ∧
      ∀ path : String, compiled.isMatch path = true ↔
        List.Forall₂ (fun d e => Matches (String.ofList d) (String.ofList e))
          (Path.components pattern.toList) (Path.components path.toList) := by
  obtain ⟨hjoin, hreads⟩ := reads_collapse hclass hdeep
  have hpart : ∀ d ∈ Path.components pattern.toList,
      Reads none (collapse (String.ofList d).toList) ((collapseRuns d).map Token.ofChar) := by
    intro d hd
    have hsingle : Path.components d = [d] :=
      Path.components_of_not_mem (Path.slash_not_mem_of_mem_components hd)
    have hbracket : '[' ∉ d := fun hmem => hclass (Path.mem_of_mem_components hd hmem)
    have halone : ∀ e ∈ Path.components d, e ≠ ['*', '*'] := by
      rw [hsingle, List.forall_mem_singleton]
      exact hdeep d hd
    obtain ⟨hruns, hd⟩ := reads_collapse hbracket halone
    rw [hsingle, List.map_singleton, Path.join_singleton] at hruns
    rw [String.toList_ofList]
    rwa [hruns] at hd ⊢
  have hplain : ∀ d ∈ (Path.components pattern.toList).map collapseRuns, '/' ∉ d := by
    intro d hd
    obtain ⟨e, he, rfl⟩ := List.mem_map.1 hd
    intro hslash
    exact Path.slash_not_mem_of_mem_components he ((thins_collapseRuns e).sublist.subset hslash)
  have hne : (Path.components pattern.toList).map collapseRuns ≠ [] := by
    rw [ne_eq, List.map_eq_nil_iff]
    exact Path.components_ne_nil pattern.toList
  refine ⟨_, compile_eq_ok_iff.2 ⟨_, hreads, rfl⟩,
    fun d hd => ⟨_, compile_eq_ok_iff.2 ⟨_, hpart d hd, rfl⟩⟩, fun path => ?_⟩
  rw [isMatch_iff_spells hreads, hjoin, spells_join_iff hne hplain, List.forall₂_map_left_iff]
  apply forall₂_congr_of_mem
  intro d hd e
  rw [matches_iff_spells (hpart d hd), String.toList_ofList]

end Patterns

theorem compile_componentwise_partial :
    '[' ∉ "x***y/**.md".toList ∧
    (∀ d ∈ Path.components "x***y/**.md".toList, d ≠ ['*', '*']) ∧
    ∃ compiled, compile "x***y/**.md" = .ok compiled ∧ compiled.isMatch "x-to-y/a.md" = true ∧
      ¬ compiled.isMatch "x-to-y/docs/a.md" = true := by
  have hclass : '[' ∉ "x***y/**.md".toList := by decide
  have hdeep : ∀ d ∈ Path.components "x***y/**.md".toList, d ≠ ['*', '*'] := by decide
  obtain ⟨compiled, hcompile, -, hmatch⟩ := compile_componentwise hclass hdeep
  have hparts : Matches "x***y" "x-to-y" ∧ Matches "**.md" "a.md" := by decide
  refine ⟨hclass, hdeep, compiled, hcompile, (hmatch _).2 ?_, fun h => ?_⟩
  · exact .cons hparts.1 (.cons hparts.2 .nil)
  · have hlength := ((hmatch _).1 h).length_eq
    revert hlength
    decide

end Presubmit.Glob
