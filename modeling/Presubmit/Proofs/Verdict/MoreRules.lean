import Presubmit.Decision.Request
import Presubmit.Proofs.Glob.Matching
import Presubmit.Proofs.Sequence
import Presubmit.Proofs.Verdict.Files

/-! More irrelevant files and fewer relevant ones never make a pointless run necessary. Without
relevance rules every file is relevant, so that any rules then narrow what is. -/
namespace Presubmit

namespace IrrelevantFiles

variable {patterns patterns' : List String} {f f' : IrrelevantFiles} {path : String}

theorem rulesOut_iff_of_ofPatterns (h : ofPatterns patterns = .ok f) :
    f.rulesOut path = true ↔ ∃ pattern ∈ patterns, Glob.Matches pattern path := by
  obtain ⟨compiled, hcompiled, rfl⟩ := map_eq_ok_iff.1 h
  rw [rulesOut, matching?, List.find?_isSome, Glob.exists_isMatch_iff hcompiled]

/-- Some of the patterns compile if all of them do. -/
theorem exists_ofPatterns_of_subset (hsub : patterns ⊆ patterns')
    (hf' : ofPatterns patterns' = .ok f') : ∃ f, ofPatterns patterns = .ok f := by
  obtain ⟨compiled', hcompiled', -⟩ := map_eq_ok_iff.1 hf'
  have heach : ∀ pattern ∈ patterns, ∃ g, Glob.compileRule pattern = .ok g := by
    intro pattern hpattern
    obtain ⟨g, -, hg⟩ := exists_of_mapM_eq_ok hcompiled' (hsub hpattern)
    exact ⟨g, hg⟩
  obtain ⟨compiled, hcompiled⟩ := exists_mapM_eq_ok heach
  exact ⟨⟨compiled⟩, map_eq_ok_iff.2 ⟨compiled, hcompiled, rfl⟩⟩

theorem rulesOut_of_subset (hsub : patterns ⊆ patterns') (hf : ofPatterns patterns = .ok f)
    (hf' : ofPatterns patterns' = .ok f') (h : f.rulesOut path = true) :
    f'.rulesOut path = true := by
  obtain ⟨pattern, hpattern, hmatches⟩ := (rulesOut_iff_of_ofPatterns hf).1 h
  exact (rulesOut_iff_of_ofPatterns hf').2 ⟨pattern, hsub hpattern, hmatches⟩

end IrrelevantFiles

namespace RelevantTree

variable {t t' : RelevantTree} {path : String}

theorem covers_of_entries_subset (h : t'.entries.toList ⊆ t.entries.toList)
    (hcovers : t'.covers path = true) : t.covers path = true := by
  obtain ⟨entry, hentry, hrelated⟩ := covers_iff.1 hcovers
  exact covers_iff.2 ⟨entry, h hentry, hrelated⟩

end RelevantTree

/-- The second rules are the first, or there are no first ones, or the second declare no entry that
the first do not. -/
inductive RelevanceRules.Narrows (start : String) :
    Option RelevanceRules → Option RelevanceRules → Prop where
  | same (rules : Option RelevanceRules) : Narrows start rules rules
  | absent (rules : Option RelevanceRules) : Narrows start none rules
  | fewer {r r' : RelevanceRules} :
      (RelevantTree.ofRules start r').entries.toList ⊆
        (RelevantTree.ofRules start r).entries.toList →
      Narrows start (some r) (some r')

namespace Verdict

variable {f f' : IrrelevantFiles} {path : String}

/-- Narrower rules spare whatever the wider ones spare. -/
theorem Spares.of_narrows {start : String} {rules rules' : Option RelevanceRules}
    (hrules : RelevanceRules.Narrows start rules rules')
    (hrulesOut : f.rulesOut path = true → f'.rulesOut path = true)
    (h : Spares f ((rules.map (RelevantTree.ofRules start)).map RelevantTree.covers) path) :
    Spares f' ((rules'.map (RelevantTree.ofRules start)).map RelevantTree.covers) path := by
  rcases h with hirrelevant | ⟨r, hr, hfalse⟩
  · exact .inl (hrulesOut hirrelevant)
  · cases hrules with
    | same => exact .inr ⟨r, hr, hfalse⟩
    | absent => cases hr
    | fewer hentries =>
      cases hr
      refine .inr ⟨_, rfl, ?_⟩
      rw [← Bool.not_eq_true] at hfalse ⊢
      exact fun hcovers => hfalse (RelevantTree.covers_of_entries_subset hentries hcovers)

end Verdict

/-- Adding irrelevance patterns and taking relevant paths away, or bringing in relevance rules at
all, keeps a run pointless that is so. If its files are irrelevant to all builds, that stays the
reason. -/
theorem VerdictRequest.pointless_of_more_rules {settings : Settings} {r r' : VerdictRequest}
    {f' : IrrelevantFiles} (hpatterns : r.irrelevance.patterns ⊆ r'.irrelevance.patterns)
    (hrules : RelevanceRules.Narrows settings.dependencyPrefix r.relevance r'.relevance)
    (hf' : IrrelevantFiles.ofPatterns r'.irrelevance.patterns = .ok f') :
    ∃ f, IrrelevantFiles.ofPatterns r.irrelevance.patterns = .ok f ∧ ∀ affected,
      ((r.verdict settings f affected).pointless = true →
        (r'.verdict settings f' affected).pointless = true) ∧
      ((r.verdict settings f affected).reason = .knownNonBuild →
        (r'.verdict settings f' affected).reason = .knownNonBuild) := by
  obtain ⟨f, hf⟩ := IrrelevantFiles.exists_ofPatterns_of_subset hpatterns hf'
  have hrulesOut : ∀ a, f.rulesOut a = true → f'.rulesOut a = true :=
    fun a => IrrelevantFiles.rulesOut_of_subset hpatterns hf hf'
  refine ⟨f, hf, fun affected => ⟨fun h => ?_, fun h => ?_⟩⟩
  · obtain ⟨hne, hspares⟩ := Verdict.pointless_iff.1 h
    exact Verdict.pointless_iff.2 ⟨hne, fun a ha => (hspares a ha).of_narrows hrules (hrulesOut a)⟩
  · obtain ⟨hne, hirrelevant⟩ := Verdict.reason_eq_knownNonBuild_iff.1 h
    exact Verdict.reason_eq_knownNonBuild_iff.2 ⟨hne, fun a ha => hrulesOut a (hirrelevant a ha)⟩

namespace Sample

def asking (patterns : List String) (rules : RelevanceRules) : VerdictRequest :=
  ⟨"eve-cq", ⟨[], ∅, ∅⟩, ⟨patterns⟩, some rules⟩

/-- What a graph declares inside the build environment, and one more path. -/
def graph : RelevanceRules :=
  .dependencies [⟨"a", ["/mnt/host/source/src/lib/"]⟩, ⟨"b", ["src/app", "src/lib"]⟩]

end Sample

open Sample in
/-- The reason may change when a pattern is added, and does not where it is that of the patterns. -/
theorem pointless_of_more_rules_lib :
    ∃ f f', IrrelevantFiles.ofPatterns ["**/*.md"] = .ok f ∧
      IrrelevantFiles.ofPatterns ["docs/**", "**/*.md"] = .ok f' ∧
      (asking ["**/*.md"] graph).verdict Settings.standard f ["docs/x", "a.md"] =
        .because .dependencyGraph ∧
      ((asking ["docs/**", "**/*.md"] (.paths ["src/lib"])).verdict Settings.standard f'
        ["docs/x", "a.md"]).pointless = true ∧
      ((asking ["docs/**", "**/*.md"] (.paths ["src/lib"])).verdict Settings.standard f'
        ["a.md"]).reason = .knownNonBuild := by
  have hf' : ∃ f', IrrelevantFiles.ofPatterns ["docs/**", "**/*.md"] = .ok f' := ⟨_, rfl⟩
  obtain ⟨f', hf'⟩ := hf'
  have hrules : RelevanceRules.Narrows Settings.standard.dependencyPrefix (some graph)
      (some (.paths ["src/lib"])) :=
    .fewer (by decide)
  obtain ⟨f, hf, hverdict⟩ := @VerdictRequest.pointless_of_more_rules Settings.standard
    (asking ["**/*.md"] graph) (asking ["docs/**", "**/*.md"] (.paths ["src/lib"])) f'
    (by decide) hrules hf'
  have hgraph : (asking ["**/*.md"] graph).verdict Settings.standard f ["docs/x", "a.md"] =
      .because .dependencyGraph := by
    cases hf
    decide
  have hknown : ((asking ["**/*.md"] graph).verdict Settings.standard f ["a.md"]).reason =
      .knownNonBuild := by
    cases hf
    decide
  exact ⟨f, f', hf, hf', hgraph, (hverdict _).1 (by rw [hgraph]; rfl), (hverdict _).2 hknown⟩

end Presubmit
