import Presubmit.Proofs.Glob.Collapsing
import Presubmit.Proofs.Glob.SameTexts

/-! Patterns that can be read as they are written. To collapse such a pattern leaves everything
alone but the classes, where a star that goes may have been a member, or the place where the next
range begins. -/
namespace Presubmit.Glob

/-- Compiles a pattern without collapsing it. -/
def compileWritten (pattern : String) : Except SyntaxError Pattern :=
  (tokenize pattern.toList).map (⟨pattern, ·⟩)

/-- The second token is the first, or a class of which the members were collapsed. -/
inductive Token.Thins : Token → Token → Prop where
  | refl (t : Token) : Token.Thins t t
  | ofClass {negated : Bool} {members members' : List Char} : Glob.Thins members members' →
      Token.Thins (.ofClass negated members) (.ofClass negated members')

section Classes

variable {before : Option Char} {negated : Bool} {members members' cs rest : List Char}
  {t u : Token} {ts us : List Token} {pattern : String} {written : Pattern}

theorem isSingle_ofClass (negated : Bool) (members : List Char) :
    (Token.ofClass negated members).IsSingle := by
  cases negated <;> exact ⟨nofun, nofun⟩

theorem Token.Thins.sameShape (h : t.Thins u) : t.SameShape u := by
  cases h with
  | refl => exact .inl rfl
  | ofClass _ => exact .inr ⟨isSingle_ofClass _ _, isSingle_ofClass _ _⟩

theorem IsClass.of_thins (h : IsClass negated members) (hthins : Thins members members') :
    IsClass negated members' where
  ne_nil := hthins.ne_nil h.ne_nil
  closed := fun hmem => h.closed (hthins.tail_sublist.subset hmem)
  unmarked := fun hn => by
    rw [hthins.head?_eq]
    exact h.unmarked hn

theorem exists_members_of_thins {text : List Char} (h : Thins (classText negated members) text) :
    ∃ members', text = classText negated members' ∧ Thins members members' := by
  cases negated with
  | false => exact ⟨text, rfl, h⟩
  | true =>
    have hmark : Thins ('!' :: members) text := h
    obtain ⟨members', rfl, hmembers⟩ := hmark.of_cons (by decide)
    exact ⟨members', rfl, hmembers⟩

/-- The bracket that closes a class stays where it is, whatever stands before it. -/
theorem exists_collapseAfter_class (before : Option Char) (negated : Bool)
    (members rest : List Char) :
    ∃ members', Thins members members' ∧
      collapseAfter before ('[' :: (classText negated members ++ ']' :: rest)) =
        '[' :: (classText negated members' ++ ']' :: collapseAfter (some ']') rest) := by
  have hbracket : (']' : Char) ≠ '*' := by decide
  obtain ⟨text, htext, hrest⟩ :=
    exists_collapseAfter_append hbracket (some '[') (classText negated members)
  obtain ⟨members', rfl, hmembers⟩ := exists_members_of_thins htext
  refine ⟨members', hmembers, ?_⟩
  rw [collapseAfter_of_not_drops (not_drops_of_ne (by decide)), hrest]

/-- Text that can be read can be read collapsed, with the same tokens up to the members of
classes. -/
theorem Reads.exists_collapseAfter (h : Reads before cs ts) :
    ∃ us, Reads before (collapseAfter before cs) us ∧ List.Forall₂ Token.Thins ts us := by
  induction h with
  | nil =>
    rw [collapseAfter_nil]
    exact ⟨[], .nil, .nil⟩
  | literal hc _ ih =>
    obtain ⟨us, hus, hthins⟩ := ih
    rw [collapseAfter_of_not_drops (not_drops_of_ne hc.1)]
    exact ⟨_, .literal hc hus, .cons (.refl _) hthins⟩
  | anyChar _ ih =>
    obtain ⟨us, hus, hthins⟩ := ih
    rw [collapseAfter_of_not_drops (not_drops_of_ne (by decide))]
    exact ⟨_, .anyChar hus, .cons (.refl _) hthins⟩
  | @star _ cs _ hrun _ ih =>
    obtain ⟨us, hus, hthins⟩ := ih
    rw [collapseAfter_of_not_drops (not_drops_of_head? hrun)]
    have hrun' : (collapseAfter (some '*') cs).head? ≠ some '*' := by
      rwa [(thins_collapseAfter _ cs).head?_eq]
    exact ⟨_, .star hrun' hus, .cons (.refl _) hthins⟩
  | deepEnd hopens =>
    have hend : ([] : List Char).head? ≠ some '*' := by simp
    rw [collapseAfter_of_not_drops (not_drops_of_component hopens (.inl rfl)),
      collapseAfter_of_not_drops (not_drops_of_head? hend), collapseAfter_nil]
    exact ⟨_, .deepEnd hopens, .cons (.refl _) .nil⟩
  | @deepSlash _ cs _ hopens _ ih =>
    obtain ⟨us, hus, hthins⟩ := ih
    have hslash : ('/' :: cs).head? ≠ some '*' := by simp
    rw [collapseAfter_of_not_drops (not_drops_of_component hopens (.inr ⟨cs, rfl⟩)),
      collapseAfter_of_not_drops (not_drops_of_head? hslash),
      collapseAfter_of_not_drops (not_drops_of_ne (by decide))]
    exact ⟨_, .deepSlash hopens hus, .cons (.refl _) hthins⟩
  | @brackets before negated members cs _ hclass _ ih =>
    obtain ⟨us, hus, hthins⟩ := ih
    obtain ⟨members', hmembers, hcollapse⟩ := exists_collapseAfter_class before negated members cs
    rw [hcollapse]
    exact ⟨_, .brackets (hclass.of_thins hmembers) hus, .cons (.ofClass hmembers) hthins⟩

theorem Token.Thins.deepStar_iff (h : t.Thins u) : t = .deepStar ↔ u = .deepStar := by
  cases h with
  | refl => exact Iff.rfl
  | ofClass _ => exact iff_of_false (isSingle_ofClass _ _).2 (isSingle_ofClass _ _).2

theorem forall₂_thins_mergeDeepStars (h : List.Forall₂ Token.Thins ts us) :
    List.Forall₂ Token.Thins (mergeDeepStars ts) (mergeDeepStars us) := by
  induction h with
  | nil => exact .nil
  | @cons t u ts us htu hrest ih =>
    have hhead : ts.head? = some .deepStar ↔ us.head? = some .deepStar := by
      cases hrest with
      | nil => exact Iff.rfl
      | cons hnext _ => simp only [List.head?_cons, Option.some.injEq, hnext.deepStar_iff]
    by_cases hrun : t = .deepStar ∧ ts.head? = some .deepStar
    · rwa [mergeDeepStars, if_pos hrun, mergeDeepStars,
        if_pos ⟨htu.deepStar_iff.1 hrun.1, hhead.1 hrun.2⟩]
    · rw [mergeDeepStars, if_neg hrun, mergeDeepStars,
        if_neg fun hboth => hrun ⟨htu.deepStar_iff.2 hboth.1, hhead.2 hboth.2⟩]
      exact .cons htu ih

theorem forall₂_thins_mergeTail (h : List.Forall₂ Token.Thins ts us) :
    List.Forall₂ Token.Thins (mergeTail ts) (mergeTail us) := by
  cases h with
  | nil => exact .nil
  | cons htu hrest => exact .cons htu (forall₂_thins_mergeDeepStars hrest)

theorem compileWritten_eq_ok_iff :
    compileWritten pattern = .ok written ↔
      ∃ ts, Reads none pattern.toList ts ∧ written = ⟨pattern, mergeTail ts⟩ := by
  unfold compileWritten
  rw [map_eq_ok_iff]
  constructor
  · rintro ⟨_, hts, rfl⟩
    obtain ⟨ts, hreads, rfl⟩ := tokenize_eq_ok_iff.1 hts
    exact ⟨ts, hreads, rfl⟩
  · rintro ⟨ts, hreads, rfl⟩
    exact ⟨_, tokenize_eq_ok_iff.2 ⟨ts, hreads, rfl⟩, rfl⟩

/-- A pattern that compiles as it is written compiles collapsed, with fewer stars in its classes. It
matches the same paths exactly if every class takes the characters it took before, or if some class
takes none and took none before. -/
theorem compile_matches_as_written_iff (h : compileWritten pattern = .ok written) :
    ∃ compiled, compile pattern = .ok compiled ∧
      List.Forall₂ Token.Thins written.tokens compiled.tokens ∧
      ((∀ path, compiled.isMatch path = written.isMatch path) ↔
        List.Forall₂ Token.Alike written.tokens compiled.tokens ∨
          (∃ t ∈ written.tokens, t.IsVoid) ∧ ∃ t ∈ compiled.tokens, t.IsVoid) := by
  obtain ⟨ts, hts, rfl⟩ := compileWritten_eq_ok_iff.1 h
  obtain ⟨us, hus, hthins⟩ := hts.exists_collapseAfter
  rw [← collapse_eq_collapseAfter] at hus
  refine ⟨_, compile_eq_ok_iff.2 ⟨us, hus, rfl⟩, forall₂_thins_mergeTail hthins, ?_⟩
  have hshape : List.Forall₂ Token.SameShape (mergeTail ts) (mergeTail us) :=
    (forall₂_thins_mergeTail hthins).imp fun _ _ => Token.Thins.sameShape
  rw [← spells_congr_iff hshape]
  simp only [Bool.eq_iff_iff, isMatch_iff_spells hts, isMatch_iff_spells hus, spells_mergeTail_iff]
  constructor
  · intro hpaths cs
    have hpath := hpaths (String.ofList cs)
    rw [String.toList_ofList] at hpath
    exact hpath.symm
  · intro htexts path
    exact (htexts path.toList).symm

end Classes

/-- A star that is written twice as a member counts once. -/
theorem compile_matches_as_written_plus :
    ∃ written compiled, compileWritten "[+**]" = .ok written ∧ compile "[+**]" = .ok compiled ∧
      compiled.text = "[+*]" ∧ ∀ path, compiled.isMatch path = written.isMatch path := by
  have hwritten : compileWritten "[+**]" =
      .ok ⟨"[+**]", [.oneOf [.char '+', .char '*', .char '*']]⟩ := by decide
  have hcompiled : compile "[+**]" = .ok ⟨"[+*]", [.oneOf [.char '+', .char '*']]⟩ := by decide
  obtain ⟨compiled, hcompile, -, hmatch⟩ := compile_matches_as_written_iff hwritten
  obtain rfl := Except.ok.inj (hcompile.symm.trans hcompiled)
  have haccepts : ∀ c, (Token.oneOf [.char '+', .char '*', .char '*']).accepts c =
      (Token.oneOf [.char '+', .char '*']).accepts c := by
    intro c
    simp [Token.accepts, ClassItem.accepts]
  have halike : Token.Alike (.oneOf [.char '+', .char '*', .char '*'])
      (.oneOf [.char '+', .char '*']) := .inr ⟨by decide, by decide, haccepts⟩
  exact ⟨_, _, hwritten, hcompiled, rfl, hmatch.2 (.inl (.cons halike .nil))⟩

/-- The class is written as two ranges, up to the star and on from it. Only one of them is left when
the two stars become one. -/
theorem not_forall_compile_matches_as_written :
    ¬ ∀ (pattern : String) (written : Pattern), compileWritten pattern = .ok written →
      ∃ compiled, compile pattern = .ok compiled ∧
        ∀ path, compiled.isMatch path = written.isMatch path := by
  intro h
  have hwritten : compileWritten "[(-**-9]" =
      .ok ⟨"[(-**-9]", [.oneOf [.range '(' '*', .range '*' '9']]⟩ := by decide
  have hcompiled : compile "[(-**-9]" =
      .ok ⟨"[(-*-9]", [.oneOf [.range '(' '*', .char '-', .char '9']]⟩ := by decide
  obtain ⟨compiled, hcompile, hmatch⟩ := h _ _ hwritten
  obtain rfl := Except.ok.inj (hcompile.symm.trans hcompiled)
  have hpath := hmatch "7"
  revert hpath
  decide

end Presubmit.Glob
