import Mathlib.Data.List.Chain
import Mathlib.Data.List.Infix
import Presubmit.Glob.Compile

/-! The texts that tokens stand for, said without a search. The search finds a path among them also
where it gives up early, as long as every deep star begins a component. -/
namespace Presubmit.Glob

/-- What stands after one of the slashes of a text. -/
def Below (cs below : List Char) : Prop :=
  ∃ above, cs = above ++ '/' :: below

/-- The tokens stand for the text. A deep star takes nothing, or the text up to one of its slashes,
or all that is left. -/
inductive Spells : List Token → List Char → Prop where
  | nil : Spells [] []
  | single {t : Token} {ts : List Token} {c : Char} {cs : List Char} :
      t.accepts c = true → Spells ts cs → Spells (t :: ts) (c :: cs)
  | star {ts : List Token} {taken rest : List Char} :
      '/' ∉ taken → Spells ts rest → Spells (.star :: ts) (taken ++ rest)
  | deepNone {ts : List Token} {cs : List Char} : Spells ts cs → Spells (.deepStar :: ts) cs
  | deepBelow {ts : List Token} {cs below : List Char} :
      Below cs below → Spells ts below → Spells (.deepStar :: ts) cs
  | deepAll {ts : List Token} {cs : List Char} : Spells ts [] → Spells (.deepStar :: ts) cs

/-- The token takes exactly one character. -/
def Token.IsSingle (t : Token) : Prop :=
  t ≠ .star ∧ t ≠ .deepStar

instance (t : Token) : Decidable t.IsSingle :=
  inferInstanceAs (Decidable (_ ∧ _))

section Texts

variable {t : Token} {ts us : List Token} {c : Char} {cs ds below : List Char}

theorem below_cons_iff : Below (c :: cs) below ↔ c = '/' ∧ below = cs ∨ Below cs below := by
  constructor
  · intro h
    obtain ⟨above, habove⟩ := h
    cases above with
    | nil =>
      obtain ⟨hc, hcs⟩ := List.cons.inj habove
      exact .inl ⟨hc, hcs.symm⟩
    | cons a above =>
      obtain ⟨-, hcs⟩ := List.cons.inj habove
      exact .inr ⟨above, hcs⟩
  · intro h
    rcases h with ⟨rfl, rfl⟩ | ⟨above, rfl⟩
    · exact ⟨[], rfl⟩
    · exact ⟨c :: above, rfl⟩

theorem not_below_nil : ¬ Below [] below := by
  intro h
  obtain ⟨above, habove⟩ := h
  exact List.append_ne_nil_of_right_ne_nil above (List.cons_ne_nil _ _) habove.symm

theorem Below.of_suffix (h : Below ds below) (hsuffix : ds <:+ cs) : Below cs below := by
  obtain ⟨above, rfl⟩ := h
  obtain ⟨front, rfl⟩ := hsuffix
  exact ⟨front ++ above, by rw [List.append_assoc]⟩

theorem Below.suffix (h : Below cs below) : below <:+ cs := by
  obtain ⟨above, rfl⟩ := h
  exact (List.suffix_cons '/' below).trans (List.suffix_append above _)

/-- Some part of the text, the last component, has no slash of its own. -/
theorem exists_last_component (cs : List Char) :
    ∃ last, '/' ∉ last ∧ (last = cs ∨ Below cs last) := by
  induction cs with
  | nil => exact ⟨[], List.not_mem_nil, .inl rfl⟩
  | cons c cs ih =>
    obtain ⟨last, hlast, rfl | hbelow⟩ := ih
    · by_cases hc : c = '/'
      · exact ⟨last, hlast, .inr (below_cons_iff.2 (.inl ⟨hc, rfl⟩))⟩
      · have hmem : '/' ∉ c :: last := by
          rw [List.mem_cons, not_or]
          exact ⟨fun h => hc h.symm, hlast⟩
        exact ⟨c :: last, hmem, .inl rfl⟩
    · exact ⟨last, hlast, .inr (below_cons_iff.2 (.inr hbelow))⟩

theorem isSingle_of_accepts (h : t.accepts c = true) : t.IsSingle := by
  constructor
  · rintro rfl
    cases h
  · rintro rfl
    cases h

theorem eq_star_or_deepStar (h : ¬ t.IsSingle) : t = .star ∨ t = .deepStar := by
  rwa [Token.IsSingle, not_and_or, not_not, not_not] at h

theorem spells_nil_iff : Spells [] cs ↔ cs = [] := by
  constructor
  · intro h
    cases h
    rfl
  · rintro rfl
    exact .nil

theorem spells_single_iff (ht : t.IsSingle) :
    Spells (t :: ts) cs ↔ ∃ c ds, cs = c :: ds ∧ t.accepts c = true ∧ Spells ts ds := by
  constructor
  · intro h
    cases h with
    | single haccepts hts => exact ⟨_, _, rfl, haccepts, hts⟩
    | star _ _ => exact absurd rfl ht.1
    | deepNone _ | deepBelow _ _ | deepAll _ => exact absurd rfl ht.2
  · rintro ⟨c, ds, rfl, haccepts, hts⟩
    exact .single haccepts hts

theorem spells_star_iff :
    Spells (.star :: ts) cs ↔ ∃ taken rest, cs = taken ++ rest ∧ '/' ∉ taken ∧ Spells ts rest := by
  constructor
  · intro h
    cases h with
    | single haccepts _ => cases haccepts
    | star htaken hts => exact ⟨_, _, rfl, htaken, hts⟩
  · rintro ⟨taken, rest, rfl, htaken, hts⟩
    exact .star htaken hts

/-- A deep star that has begun to take takes up to a slash, or everything. -/
def SpellsLater (ts : List Token) (cs : List Char) : Prop :=
  (∃ below, Below cs below ∧ Spells ts below) ∨ Spells ts []

theorem spells_deepStar_iff :
    Spells (.deepStar :: ts) cs ↔ Spells ts cs ∨ SpellsLater ts cs := by
  constructor
  · intro h
    cases h with
    | single haccepts _ => cases haccepts
    | deepNone hts => exact .inl hts
    | deepBelow hbelow hts => exact .inr (.inl ⟨_, hbelow, hts⟩)
    | deepAll hts => exact .inr (.inr hts)
  · rintro (hts | ⟨below, hbelow, hts⟩ | hts)
    · exact .deepNone hts
    · exact .deepBelow hbelow hts
    · exact .deepAll hts

theorem spells_star_cons_iff :
    Spells (.star :: ts) (c :: cs) ↔
      Spells ts (c :: cs) ∨ c ≠ '/' ∧ Spells (.star :: ts) cs := by
  rw [spells_star_iff, spells_star_iff]
  constructor
  · rintro ⟨taken, rest, hcs, htaken, hts⟩
    cases taken with
    | nil => exact .inl (hcs ▸ hts)
    | cons d taken =>
      obtain ⟨rfl, rfl⟩ := List.cons.inj hcs
      rw [List.mem_cons, not_or] at htaken
      exact .inr ⟨fun h => htaken.1 h.symm, taken, rest, rfl, htaken.2, hts⟩
  · rintro (hts | ⟨hc, taken, rest, rfl, htaken, hts⟩)
    · exact ⟨[], c :: cs, rfl, List.not_mem_nil, hts⟩
    · have hmem : '/' ∉ c :: taken := by
        rw [List.mem_cons, not_or]
        exact ⟨fun h => hc h.symm, htaken⟩
      exact ⟨c :: taken, rest, rfl, hmem, hts⟩

/-- What stands for the empty text begins with a star, which takes any component. -/
theorem Spells.of_nil (h : Spells ts []) (hne : ts ≠ []) (hcs : '/' ∉ cs) : Spells ts cs := by
  cases ts with
  | nil => exact absurd rfl hne
  | cons t ts =>
    by_cases ht : t.IsSingle
    · obtain ⟨c, ds, hnil, -, -⟩ := (spells_single_iff ht).1 h
      cases hnil
    · rcases eq_star_or_deepStar ht with rfl | rfl
      · obtain ⟨taken, rest, hnil, -, hts⟩ := spells_star_iff.1 h
        rw [(List.append_eq_nil_iff.1 hnil.symm).2] at hts
        have hall := Spells.star hcs hts
        rwa [List.append_nil] at hall
      · rcases spells_deepStar_iff.1 h with hts | ⟨below, hbelow, -⟩ | hts
        · exact .deepAll hts
        · exact absurd hbelow not_below_nil
        · exact .deepAll hts

theorem Spells.imp_tail (h : ∀ cs, Spells ts cs → Spells us cs) (hts : Spells (t :: ts) cs) :
    Spells (t :: us) cs := by
  cases hts with
  | single haccepts hts => exact .single haccepts (h _ hts)
  | star htaken hts => exact .star htaken (h _ hts)
  | deepNone hts => exact .deepNone (h _ hts)
  | deepBelow hbelow hts => exact .deepBelow hbelow (h _ hts)
  | deepAll hts => exact .deepAll (h _ hts)

/-- A second deep star has nothing left to take. -/
theorem spells_deepStar_deepStar_iff :
    Spells (.deepStar :: .deepStar :: ts) cs ↔ Spells (.deepStar :: ts) cs := by
  constructor
  · intro h
    rcases spells_deepStar_iff.1 h with hts | ⟨below, hbelow, hts⟩ | hts
    · exact hts
    · rcases spells_deepStar_iff.1 hts with hts | ⟨lower, hlower, hts⟩ | hts
      · exact .deepBelow hbelow hts
      · exact .deepBelow (hlower.of_suffix hbelow.suffix) hts
      · exact .deepAll hts
    · rcases spells_deepStar_iff.1 hts with hts | ⟨below, hbelow, -⟩ | hts
      · exact .deepAll hts
      · exact absurd hbelow not_below_nil
      · exact .deepAll hts
  · exact .deepNone

theorem spells_mergeDeepStars_iff : Spells (mergeDeepStars ts) cs ↔ Spells ts cs := by
  induction ts generalizing cs with
  | nil => exact Iff.rfl
  | cons t ts ih =>
    by_cases hrun : t = .deepStar ∧ ts.head? = some .deepStar
    · obtain ⟨rfl, hhead⟩ := hrun
      obtain ⟨us, rfl⟩ := List.head?_eq_some_iff.1 hhead
      rw [mergeDeepStars, if_pos ⟨rfl, hhead⟩, ih, spells_deepStar_deepStar_iff]
    · rw [mergeDeepStars, if_neg hrun]
      exact ⟨Spells.imp_tail fun _ => ih.1, Spells.imp_tail fun _ => ih.2⟩

end Texts

/-- Every deep star begins a component. -/
def Aligned (ts : List Token) : Prop :=
  ts.IsChain fun t u => u = .deepStar → t = .char '/' ∨ t = .deepStar

theorem head?_mergeDeepStars (ts : List Token) : (mergeDeepStars ts).head? = ts.head? := by
  induction ts with
  | nil => rfl
  | cons t ts ih =>
    by_cases hrun : t = .deepStar ∧ ts.head? = some .deepStar
    · rw [mergeDeepStars, if_pos hrun, ih, hrun.2, List.head?_cons, hrun.1]
    · rw [mergeDeepStars, if_neg hrun, List.head?_cons, List.head?_cons]

theorem Aligned.mergeDeepStars {ts : List Token} (h : Aligned ts) :
    Aligned (mergeDeepStars ts) := by
  induction ts with
  | nil => exact h
  | cons t ts ih =>
    have htail := ih h.tail
    by_cases hrun : t = .deepStar ∧ ts.head? = some .deepStar
    · rwa [Glob.mergeDeepStars, if_pos hrun]
    · rw [Glob.mergeDeepStars, if_neg hrun]
      apply htail.cons
      intro u hu
      rw [head?_mergeDeepStars] at hu
      exact h.rel_head? hu

/-- Where the tokens may stand once they are tried on a text. Before a deep star, a search stops at
the beginning of a component or at the end. -/
structure Stop (ts : List Token) (cs stop : List Char) : Prop where
  suffix : stop <:+ cs
  deep : ts.head? = some .deepStar → stop = cs ∨ Below cs stop ∨ stop = []

/-- What an outcome says of the tokens and the text. Once a search gives up, no later stop could
help. -/
def Outcome.Justified (ts : List Token) (cs : List Char) : Outcome → Prop
  | .matched => Spells ts cs
  | .failed => ¬ Spells ts cs
  | .exhausted => ∀ stop, Stop ts cs stop → ¬ Spells ts stop

section Search

variable {t : Token} {ts : List Token} {cs : List Char} {o : Outcome}

theorem Stop.refl (ts : List Token) (cs : List Char) : Stop ts cs cs :=
  ⟨List.suffix_refl cs, fun _ => .inl rfl⟩

theorem Stop.nil (ts : List Token) (cs : List Char) : Stop ts cs [] :=
  ⟨List.nil_suffix, fun _ => .inr (.inr rfl)⟩

theorem Stop.below {below : List Char} (h : Below cs below) : Stop ts cs below :=
  ⟨h.suffix, fun _ => .inr (.inl h)⟩

theorem Outcome.Justified.eq_matched_iff (h : o.Justified ts cs) :
    o = .matched ↔ Spells ts cs := by
  cases o with
  | matched => exact iff_of_true rfl h
  | failed => exact iff_of_false nofun h
  | exhausted => exact iff_of_false nofun (h cs (.refl ts cs))

/-- Before a deep star stands a slash, so that a later stop of the rest begins a component too. -/
theorem Stop.tail {c d : Char} {stop : List Char} (h : Stop (t :: ts) (c :: cs) (d :: stop))
    (halign : Aligned (t :: ts)) (hd : t.accepts d = true) : Stop ts cs stop := by
  have hsuffix := List.suffix_cons_iff.1 h.suffix
  constructor
  case suffix =>
    rcases hsuffix with heq | hlater
    · exact (List.cons.inj heq).2 ▸ List.suffix_refl stop
    · exact (List.suffix_cons d stop).trans hlater
  case deep =>
    intro hdeep
    rcases hsuffix with heq | hlater
    · exact .inl (List.cons.inj heq).2
    · have hslash : t = .char '/' ∨ t = .deepStar := halign.rel_head? hdeep rfl
      rcases hslash with rfl | rfl
      · have hchar : d = '/' := by simpa [Token.accepts] using hd
        obtain ⟨above, habove⟩ := hlater
        exact .inr (.inl ⟨above, by rw [← habove, hchar]⟩)
      · cases hd

theorem run_single_nil (ht : t.IsSingle) : run (t :: ts) [] = .exhausted := by
  rw [run]
  · exact ht.1
  · exact ht.2

theorem run_single_cons (ht : t.IsSingle) (c : Char) :
    run (t :: ts) (c :: cs) = if t.accepts c then run ts cs else .failed := by
  rw [run]
  · exact ht.1
  · exact ht.2

theorem sweep_star_cons {c : Char} (hc : c ≠ '/') (rest : List Char → Outcome) :
    sweep false rest (c :: cs) =
      match rest cs with
      | .failed => sweep false rest cs
      | o => o := by
  cases h : rest cs <;> simp [sweep, hc, h]

theorem sweep_deepStar_cons {c : Char} (hc : c ≠ '/') (rest : List Char → Outcome) :
    sweep true rest (c :: cs) = sweep true rest cs := by
  simp [sweep, hc]

theorem sweep_deepStar_slash (rest : List Char → Outcome) :
    sweep true rest ('/' :: cs) =
      match rest cs with
      | .failed => sweep true rest cs
      | o => o := by
  cases h : rest cs <;> simp [sweep, h]

/-- A star may take one more character of its component. -/
theorem Outcome.Justified.star_cons {c : Char} (h : o.Justified (.star :: ts) cs) (hc : c ≠ '/')
    (hnot : ¬ Spells ts (c :: cs)) : o.Justified (.star :: ts) (c :: cs) := by
  have hcons : Spells (.star :: ts) (c :: cs) ↔ Spells (.star :: ts) cs := by
    rw [spells_star_cons_iff, or_iff_right hnot, and_iff_right hc]
  cases o with
  | matched => exact hcons.2 h
  | failed => exact fun hcs => h (hcons.1 hcs)
  | exhausted =>
    intro stop hstop
    rcases List.suffix_cons_iff.1 hstop.suffix with rfl | hlater
    · exact fun hcs => h cs (.refl _ cs) (hcons.1 hcs)
    · exact h stop ⟨hlater, nofun⟩

/-- A star goes on if nothing is found where it stands, and gives up with what follows it. -/
theorem justified_sweep_star (hts : ∀ cs, (run ts cs).Justified ts cs)
    (hdeep : ts.head? ≠ some .deepStar) (hnot : ¬ Spells ts cs) :
    (sweep false (run ts) cs).Justified (.star :: ts) cs := by
  induction cs with
  | nil =>
    have hnone : ∀ stop, stop <:+ [] → ¬ Spells (.star :: ts) stop := by
      intro stop hstop hspells
      rw [List.suffix_nil.1 hstop] at hspells
      obtain ⟨taken, rest, hnil, -, hrest⟩ := spells_star_iff.1 hspells
      rw [(List.append_eq_nil_iff.1 hnil.symm).2] at hrest
      exact hnot hrest
    show (run ts []).Justified (.star :: ts) []
    cases hrun : run ts [] with
    | matched => exact absurd ((hts []).eq_matched_iff.1 hrun) hnot
    | failed => exact hnone [] (List.suffix_refl [])
    | exhausted => exact fun stop hstop => hnone stop hstop.suffix
  | cons c cs ih =>
    by_cases hc : c = '/'
    · have hfailed : sweep false (run ts) (c :: cs) = .failed := by simp [sweep, hc]
      rw [hfailed]
      intro hspells
      rcases spells_star_cons_iff.1 hspells with hhere | ⟨hne, -⟩
      · exact hnot hhere
      · exact hne hc
    · rw [sweep_star_cons hc]
      have hrest := hts cs
      cases hrun : run ts cs with
      | matched =>
        rw [hrun] at hrest
        exact spells_star_cons_iff.2 (.inr ⟨hc, .star List.not_mem_nil hrest⟩)
      | failed =>
        rw [hrun] at hrest
        exact (ih hrest).star_cons hc hnot
      | exhausted =>
        rw [hrun] at hrest
        have hstar : Outcome.exhausted.Justified (.star :: ts) cs := by
          intro stop hstop hspells
          obtain ⟨taken, rest, rfl, -, hts⟩ := spells_star_iff.1 hspells
          have hsuffix : rest <:+ cs := (List.suffix_append taken rest).trans hstop.suffix
          exact hrest rest ⟨hsuffix, fun h => absurd h hdeep⟩ hts
        exact hstar.star_cons hc hnot

theorem spellsLater_slash_iff :
    SpellsLater ts ('/' :: cs) ↔ Spells ts cs ∨ SpellsLater ts cs := by
  simp only [SpellsLater, below_cons_iff, true_and, or_and_right, exists_or, exists_eq_left,
    or_assoc]

theorem spellsLater_cons_iff {c : Char} (hc : c ≠ '/') :
    SpellsLater ts (c :: cs) ↔ SpellsLater ts cs := by
  simp only [SpellsLater, below_cons_iff, hc, false_and, false_or]

theorem spellsLater_nil_iff : SpellsLater ts [] ↔ Spells ts [] := by
  simp only [SpellsLater, not_below_nil, false_and, exists_false, false_or]

/-- Where the rest of the pattern gives up, it stands for nothing that is tried later. -/
theorem not_spellsLater_of_exhausted (h : Outcome.exhausted.Justified ts cs) :
    ¬ SpellsLater ts cs := by
  rintro (⟨below, hbelow, hts⟩ | hts)
  · exact h below (.below hbelow) hts
  · exact h [] (.nil ts cs) hts

theorem sweep_deepStar_eq_matched_iff (hts : ∀ cs, (run ts cs).Justified ts cs) :
    sweep true (run ts) cs = .matched ↔ SpellsLater ts cs := by
  induction cs with
  | nil =>
    rw [spellsLater_nil_iff, ← (hts []).eq_matched_iff]
    rfl
  | cons c cs ih =>
    by_cases hc : c = '/'
    · subst hc
      rw [sweep_deepStar_slash, spellsLater_slash_iff]
      have hrest := hts cs
      cases hrun : run ts cs with
      | matched =>
        rw [hrun] at hrest
        exact iff_of_true rfl (.inl hrest)
      | failed =>
        rw [hrun] at hrest
        rw [or_iff_right hrest]
        exact ih
      | exhausted =>
        rw [hrun] at hrest
        have hnone : ¬ (Spells ts cs ∨ SpellsLater ts cs) :=
          not_or.2 ⟨hrest cs (.refl ts cs), not_spellsLater_of_exhausted hrest⟩
        exact iff_of_false nofun hnone
    · rw [sweep_deepStar_cons hc, spellsLater_cons_iff hc, ih]

/-- Every later stop of a deep star has been tried. -/
theorem justified_deepStar (ho : o ≠ .matched) (hhere : ¬ Spells ts cs)
    (hlater : ¬ SpellsLater ts cs) : o.Justified (.deepStar :: ts) cs := by
  have hnone : ∀ stop, Stop (.deepStar :: ts) cs stop → ¬ Spells (.deepStar :: ts) stop := by
    intro stop hstop hspells
    rcases spells_deepStar_iff.1 hspells with hts | ⟨below, hbelow, hts⟩ | hts
    · rcases hstop.deep rfl with rfl | hbelow | rfl
      · exact hhere hts
      · exact hlater (.inl ⟨stop, hbelow, hts⟩)
      · exact hlater (.inr hts)
    · exact hlater (.inl ⟨below, hbelow.of_suffix hstop.suffix, hts⟩)
    · exact hlater (.inr hts)
  cases o with
  | matched => exact absurd rfl ho
  | failed => exact hnone cs (.refl _ cs)
  | exhausted => exact hnone

theorem justified_run_single (ht : t.IsSingle) (halign : Aligned (t :: ts))
    (hts : ∀ cs, (run ts cs).Justified ts cs) (cs : List Char) :
    (run (t :: ts) cs).Justified (t :: ts) cs := by
  cases cs with
  | nil =>
    rw [run_single_nil ht]
    intro stop hstop hspells
    obtain ⟨c, ds, rfl, -, -⟩ := (spells_single_iff ht).1 hspells
    exact List.cons_ne_nil c ds (List.suffix_nil.1 hstop.suffix)
  | cons c cs =>
    have hcons : Spells (t :: ts) (c :: cs) ↔ t.accepts c = true ∧ Spells ts cs := by
      rw [spells_single_iff ht]
      constructor
      · rintro ⟨d, ds, heq, haccepts, hds⟩
        obtain ⟨rfl, rfl⟩ := List.cons.inj heq
        exact ⟨haccepts, hds⟩
      · rintro ⟨haccepts, hcs⟩
        exact ⟨c, cs, rfl, haccepts, hcs⟩
    rw [run_single_cons ht]
    by_cases hc : t.accepts c = true
    · rw [if_pos hc]
      have hrest := hts cs
      cases hrun : run ts cs with
      | matched =>
        rw [hrun] at hrest
        exact hcons.2 ⟨hc, hrest⟩
      | failed =>
        rw [hrun] at hrest
        exact fun h => hrest (hcons.1 h).2
      | exhausted =>
        rw [hrun] at hrest
        intro stop hstop hspells
        obtain ⟨d, ds, rfl, hd, hds⟩ := (spells_single_iff ht).1 hspells
        exact hrest ds (hstop.tail halign hd) hds
    · rw [if_neg hc]
      exact fun h => hc (hcons.1 h).1

theorem justified_run_star (halign : Aligned (.star :: ts))
    (hts : ∀ cs, (run ts cs).Justified ts cs) (cs : List Char) :
    (run (.star :: ts) cs).Justified (.star :: ts) cs := by
  have hdeep : ts.head? ≠ some .deepStar := by
    intro hhead
    rcases halign.rel_head? hhead rfl with h | h <;> cases h
  have hrest := hts cs
  rw [run]
  cases hrun : run ts cs with
  | matched =>
    rw [hrun] at hrest
    exact .star List.not_mem_nil hrest
  | failed =>
    rw [hrun] at hrest
    exact justified_sweep_star hts hdeep hrest
  | exhausted =>
    rw [hrun] at hrest
    intro stop hstop hspells
    obtain ⟨taken, rest, rfl, -, hspells⟩ := spells_star_iff.1 hspells
    have hsuffix : rest <:+ cs := (List.suffix_append taken rest).trans hstop.suffix
    exact hrest rest ⟨hsuffix, fun h => absurd h hdeep⟩ hspells

theorem justified_run_deepStar (hts : ∀ cs, (run ts cs).Justified ts cs) (cs : List Char) :
    (run (.deepStar :: ts) cs).Justified (.deepStar :: ts) cs := by
  have hrest := hts cs
  rw [run]
  cases hrun : run ts cs with
  | matched =>
    rw [hrun] at hrest
    exact .deepNone hrest
  | failed =>
    rw [hrun] at hrest
    by_cases hlater : sweep true (run ts) cs = .matched
    · show (sweep true (run ts) cs).Justified (.deepStar :: ts) cs
      rw [hlater]
      exact spells_deepStar_iff.2 (.inr ((sweep_deepStar_eq_matched_iff hts).1 hlater))
    · exact justified_deepStar hlater hrest (mt (sweep_deepStar_eq_matched_iff hts).2 hlater)
  | exhausted =>
    rw [hrun] at hrest
    exact justified_deepStar nofun (hrest cs (.refl ts cs)) (not_spellsLater_of_exhausted hrest)

/-- Whatever the search answers is borne out by the texts of the tokens. -/
theorem justified_run (h : Aligned ts) (cs : List Char) : (run ts cs).Justified ts cs := by
  induction ts generalizing cs with
  | nil =>
    cases cs with
    | nil => exact Spells.nil
    | cons c cs => exact fun hspells => nomatch spells_nil_iff.1 hspells
  | cons t ts ih =>
    have hts : ∀ cs, (run ts cs).Justified ts cs := fun cs => ih h.tail cs
    by_cases ht : t.IsSingle
    · exact justified_run_single ht h hts cs
    · rcases eq_star_or_deepStar ht with rfl | rfl
      · exact justified_run_star h hts cs
      · exact justified_run_deepStar hts cs

theorem run_eq_matched_iff (h : Aligned ts) : run ts cs = .matched ↔ Spells ts cs :=
  (justified_run h cs).eq_matched_iff

end Search

end Presubmit.Glob
