import Presubmit.Proofs.Glob.Collapsing

/-! Patterns below a leading deep star, which match at any depth. -/
namespace Presubmit.Glob

variable {before after : Option Char} {cs : List Char} {ts : List Token}

/-- Text is read alike at the beginning of a pattern and of any component. -/
theorem Reads.of_opens (h : Reads before cs ts) (hopens : Opens after) : Reads after cs ts := by
  cases h with
  | nil => exact .nil
  | literal hc hcs => exact .literal hc hcs
  | anyChar hcs => exact .anyChar hcs
  | star hrun hcs => exact .star hrun hcs
  | deepEnd _ => exact .deepEnd hopens
  | deepSlash _ hcs => exact .deepSlash hopens hcs
  | brackets hclass hcs => exact .brackets hclass hcs

theorem Reads.ne_nil (h : Reads before cs ts) (hne : cs ≠ []) : ts ≠ [] := by
  rintro rfl
  cases h
  exact hne rfl

/-- Where something is left to match, a deep star need not take the last component. -/
theorem spells_deepStar_iff_of_ne_nil (hne : ts ≠ []) :
    Spells (.deepStar :: ts) cs ↔ Spells ts cs ∨ ∃ below, Below cs below ∧ Spells ts below := by
  rw [spells_deepStar_iff, SpellsLater, ← or_assoc, or_iff_left_iff_imp]
  intro hts
  obtain ⟨last, hlast, rfl | hbelow⟩ := exists_last_component cs
  · exact .inl (hts.of_nil hne hlast)
  · exact .inr ⟨last, hbelow, hts.of_nil hne hlast⟩

/-- A pattern that is put below a leading deep star matches what it matched before, and every path
that ends with such a path after a slash. -/
theorem compile_anyDepth {pattern : String} {compiled : Pattern} (hne : pattern ≠ "")
    (h : compile pattern = .ok compiled) :
    ∃ deep, compile ("**/" ++ pattern) = .ok deep ∧ ∀ path : String,
      deep.isMatch path = true ↔ compiled.isMatch path = true ∨
        ∃ below : String, Below path.toList below.toList ∧ compiled.isMatch below = true := by
  obtain ⟨ts, hts, rfl⟩ := compile_eq_ok_iff.1 h
  have hcollapse : collapse ("**/" ++ pattern).toList =
      '*' :: '*' :: '/' :: collapse pattern.toList := by
    rw [String.toList_append]
    exact collapse_deepSlash pattern.toList
  have hdeep : Reads none (collapse ("**/" ++ pattern).toList) (.deepStar :: ts) := by
    rw [hcollapse]
    exact .deepSlash (by decide) (hts.of_opens (by decide))
  have htokens : ts ≠ [] := by
    apply hts.ne_nil
    apply (thins_collapse pattern.toList).ne_nil
    rwa [ne_eq, String.toList_eq_nil_iff]
  refine ⟨_, compile_eq_ok_iff.2 ⟨_, hdeep, rfl⟩, fun path => ?_⟩
  rw [isMatch_iff_spells hdeep, isMatch_iff_spells hts, spells_deepStar_iff_of_ne_nil htokens]
  apply or_congr_right
  constructor
  · intro hbelow
    obtain ⟨below, hbelow, hspells⟩ := hbelow
    refine ⟨String.ofList below, ?_, ?_⟩
    · rwa [String.toList_ofList]
    · rwa [isMatch_iff_spells hts, String.toList_ofList]
  · intro hbelow
    obtain ⟨below, hbelow, hmatch⟩ := hbelow
    exact ⟨below.toList, hbelow, (isMatch_iff_spells hts _ below).1 hmatch⟩

theorem compile_anyDepth_nested :
    "a*/**/b" ≠ "" ∧ ∃ compiled deep, compile "a*/**/b" = .ok compiled ∧
      compile ("**/" ++ "a*/**/b") = .ok deep ∧ compiled.isMatch "x/ab/b" = false ∧
      compiled.isMatch "ab/b" = true ∧ deep.isMatch "x/ab/b" = true := by
  have hcompiled : compile "a*/**/b" =
      .ok ⟨"a*/**/b", [.char 'a', .star, .char '/', .deepStar, .char 'b']⟩ := by decide
  obtain ⟨deep, hdeep, hmatch⟩ := compile_anyDepth (by decide) hcompiled
  have hbelow : Below "x/ab/b".toList "ab/b".toList := ⟨['x'], by decide⟩
  have hlower : Pattern.isMatch
      ⟨"a*/**/b", [.char 'a', .star, .char '/', .deepStar, .char 'b']⟩ "ab/b" = true := by decide
  exact ⟨by decide, _, deep, hcompiled, hdeep, by decide, hlower,
    (hmatch _).2 (.inr ⟨"ab/b", hbelow, hlower⟩)⟩

end Presubmit.Glob
