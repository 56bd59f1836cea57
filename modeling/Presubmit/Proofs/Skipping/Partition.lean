import Presubmit.Proofs.Glob.Matching
import Presubmit.Proofs.Skipping.Outcomes

/-! Every builder gets one outcome. The rules are said of the builder and of the patterns as they
are written, and the lists of names part the builders between them, each in its order. -/
namespace Presubmit

/-- The pattern does not compile, and this is reported of it. -/
def Glob.Bad (pattern : String) (e : Failure) : Prop :=
  ∃ error, Glob.compile pattern = .error error ∧ e = .invalidPattern pattern error

namespace Builder

/-- All there is to build from is irrelevant, and the builder makes an image. -/
def Spared (affected : List String) (f : IrrelevantFiles) (b : Builder) : Prop :=
  affected ≠ [] ∧ (∀ a ∈ affected, ∃ g ∈ f.patterns, g.isMatch a = true) ∧
    "IMAGE_ZIP" ∈ b.artifactTypes

/-- The builder runs for matching files only, and none of the affected ones matches. -/
def Unmatched (affected : List String) (b : Builder) : Prop :=
  b.condition.mode = .onMatch ∧ affected ≠ [] ∧ b.condition.patterns ≠ [] ∧
    ∀ a ∈ affected, ∀ pattern ∈ b.condition.patterns, ¬ Glob.Matches pattern a

instance (affected : List String) (f : IrrelevantFiles) (b : Builder) :
    Decidable (b.Spared affected f) :=
  inferInstanceAs (Decidable (_ ∧ _ ∧ _))

instance (affected : List String) (b : Builder) : Decidable (b.Unmatched affected) :=
  inferInstanceAs (Decidable (_ ∧ _ ∧ _ ∧ _))

/-- What becomes of the builder. -/
def due (affected : List String) (f : IrrelevantFiles) (b : Builder) : BuilderOutcome :=
  if b.Spared affected f then .irrelevant
  else if b.Unmatched affected then .unmatched
  else .run

/-- The patterns of the builder are asked, and the first bad one is reported. -/
structure Fault (affected : List String) (f : IrrelevantFiles) (b : Builder) (e : Failure) :
    Prop where
  kept : ¬ b.Spared affected f
  mode : b.condition.mode = .onMatch
  affected : affected ≠ []
  pattern : FirstFault (fun _ => Glob.Bad) 0 b.condition.patterns e

variable {affected : List String} {f : IrrelevantFiles} {b : Builder} {e : Failure}

theorem spares_and_buildsImage_iff :
    (sparesImages affected f && b.buildsImage) = true ↔ b.Spared affected f := by
  have hrulesOut : ∀ a, f.rulesOut a = true ↔ ∃ g ∈ f.patterns, g.isMatch a = true := by
    intro a
    rw [IrrelevantFiles.rulesOut, IrrelevantFiles.matching?, List.find?_isSome]
  rw [Bool.and_eq_true, buildsImage_iff, sparesImages_iff_reason none,
    Verdict.reason_eq_knownNonBuild_iff, and_assoc, Spared]
  simp only [hrulesOut]

theorem awaitsMatch_iff :
    b.awaitsMatch affected = true ↔ b.condition.mode = .onMatch ∧ affected ≠ [] := by
  simp [awaitsMatch]

theorem skippedByPatterns_eq_error_iff :
    b.skippedByPatterns affected = .error e ↔
      FirstFault (fun _ => Glob.Bad) 0 b.condition.patterns e := by
  have hmapM : b.condition.patterns.mapM Glob.compileRule = .error e ↔
      FirstFault (fun _ => Glob.Bad) 0 b.condition.patterns e :=
    mapM_eq_error_iff fun _ _ => Glob.compileRule_eq_error_iff
  unfold skippedByPatterns
  by_cases hempty : b.condition.patterns = []
  · rw [← hmapM, hempty]
    simp [pure, Except.pure]
  · have hnonempty : b.condition.patterns.isEmpty = false := by simpa using hempty
    rw [hnonempty, if_neg Bool.false_ne_true, map_eq_error_iff, hmapM]

/-- Compiled patterns ask for a path if one of the written ones matches it. -/
theorem requiring?_eq_none_iff {patterns : List String} {compiled : List Glob.Pattern}
    (h : patterns.mapM Glob.compileRule = .ok compiled) :
    requiring? compiled affected = none ↔
      ∀ a ∈ affected, ∀ pattern ∈ patterns, ¬ Glob.Matches pattern a := by
  rw [requiring?, List.find?_eq_none]
  refine forall₂_congr fun a _ => ?_
  rw [List.any_eq_true, Glob.exists_isMatch_iff h]
  simp

theorem skippedByPatterns_eq_true_iff {skipped : Bool}
    (h : b.skippedByPatterns affected = .ok skipped) :
    skipped = true ↔ b.condition.patterns ≠ [] ∧
      ∀ a ∈ affected, ∀ pattern ∈ b.condition.patterns, ¬ Glob.Matches pattern a := by
  unfold skippedByPatterns at h
  by_cases hempty : b.condition.patterns = []
  · rw [hempty, List.isEmpty_nil, if_pos rfl] at h
    cases h
    simp [hempty]
  · have hnonempty : b.condition.patterns.isEmpty = false := by simpa using hempty
    rw [hnonempty, if_neg Bool.false_ne_true, map_eq_ok_iff] at h
    obtain ⟨compiled, hcompiled, rfl⟩ := h
    rw [Option.isNone_iff_eq_none, requiring?_eq_none_iff hcompiled, and_iff_right hempty]

/-- The patterns of a builder decide about it only where it is not spared. -/
theorem outcome_eq (affected : List String) (f : IrrelevantFiles) (b : Builder) :
    b.outcome (sparesImages affected f) affected =
      if b.Spared affected f then .ok .irrelevant
      else if b.condition.mode = .onMatch ∧ affected ≠ [] then
        (b.skippedByPatterns affected).map fun skipped => if skipped then .unmatched else .run
      else .ok .run := by
  unfold outcome
  simp only [spares_and_buildsImage_iff, awaitsMatch_iff]

/-- A spared builder has no fault, as its patterns are not even read. -/
theorem outcome_eq_error_iff :
    b.outcome (sparesImages affected f) affected = .error e ↔ b.Fault affected f e := by
  rw [outcome_eq]
  by_cases hspared : b.Spared affected f
  · rw [if_pos hspared]
    exact ⟨nofun, fun h => absurd hspared h.kept⟩
  · rw [if_neg hspared]
    by_cases hawaits : b.condition.mode = .onMatch ∧ affected ≠ []
    · rw [if_pos hawaits, map_eq_error_iff, skippedByPatterns_eq_error_iff]
      exact ⟨fun h => ⟨hspared, hawaits.1, hawaits.2, h⟩, fun h => h.pattern⟩
    · rw [if_neg hawaits]
      exact ⟨nofun, fun h => absurd ⟨h.mode, h.affected⟩ hawaits⟩

theorem outcome_eq_due {o : BuilderOutcome}
    (h : b.outcome (sparesImages affected f) affected = .ok o) : b.due affected f = o := by
  rw [outcome_eq] at h
  unfold due
  by_cases hspared : b.Spared affected f
  · rw [if_pos hspared] at h ⊢
    exact Except.ok.inj h
  · rw [if_neg hspared] at h ⊢
    by_cases hawaits : b.condition.mode = .onMatch ∧ affected ≠ []
    · rw [if_pos hawaits] at h
      obtain ⟨skipped, hskipped, rfl⟩ := map_eq_ok_iff.1 h
      have hunmatched : b.Unmatched affected ↔ skipped = true := by
        rw [skippedByPatterns_eq_true_iff hskipped, Unmatched, and_iff_right hawaits.1,
          and_iff_right hawaits.2]
      exact if_congr hunmatched rfl rfl
    · have hmatched : ¬ b.Unmatched affected := fun hun => hawaits ⟨hun.1, hun.2.1⟩
      rw [if_neg hawaits] at h
      rw [if_neg hmatched]
      exact Except.ok.inj h

theorem exists_fault_iff :
    (∃ e, b.Fault affected f e) ↔
      ¬ b.Spared affected f ∧ b.condition.mode = .onMatch ∧ affected ≠ [] ∧
        ∃ pattern ∈ b.condition.patterns, ∃ error, Glob.compile pattern = .error error := by
  have hbad : ∀ pattern, (∃ e, Glob.Bad pattern e) ↔
      ∃ error, Glob.compile pattern = .error error := by
    intro pattern
    simp only [Glob.Bad, exists_comm, exists_and_left, exists_eq, and_true]
  have hpattern : (∃ e, FirstFault (fun _ => Glob.Bad) 0 b.condition.patterns e) ↔
      ∃ pattern ∈ b.condition.patterns, ∃ error, Glob.compile pattern = .error error := by
    simp only [exists_firstFault_iff, hbad]
  constructor
  · intro h
    obtain ⟨e, hkept, hmode, haffected, hfirst⟩ := h
    exact ⟨hkept, hmode, haffected, hpattern.1 ⟨e, hfirst⟩⟩
  · intro h
    obtain ⟨hkept, hmode, haffected, hsome⟩ := h
    obtain ⟨e, hfirst⟩ := hpattern.2 hsome
    exact ⟨e, hkept, hmode, haffected, hfirst⟩

end Builder

namespace Skipping

/-- Each list names, in their order, the occurrences of builders that the outcome is due to, and
together they name every occurrence once. -/
structure Partitions (s : Skipping) (affected : List String) (f : IrrelevantFiles)
    (builders : List Builder) : Prop where
  irrelevant : s.irrelevant =
    (builders.filter fun b => b.due affected f = .irrelevant).map Builder.name
  unmatched : s.unmatched =
    (builders.filter fun b => b.due affected f = .unmatched).map Builder.name
  run : s.run = (builders.filter fun b => b.due affected f = .run).map Builder.name
  all : (s.irrelevant ++ s.unmatched ++ s.run).Perm (builders.map Builder.name)

instance : Append Skipping :=
  ⟨fun s t => ⟨s.run ++ t.run, s.irrelevant ++ t.irrelevant, s.unmatched ++ t.unmatched⟩⟩

variable {affected : List String} {f : IrrelevantFiles} {builders more : List Builder}
  {s : Skipping} {e : Failure}

theorem ofBuilders_eq_error_iff :
    ofBuilders builders affected f = .error e ↔
      FirstFault (fun _ b => b.Fault affected f) 0 builders e := by
  rw [ofBuilders, map_eq_error_iff]
  refine mapM_eq_error_iff fun b d => ?_
  rw [map_eq_error_iff, Builder.outcome_eq_error_iff]

/-- Every element has exactly one of the three outcomes. -/
theorem filter_outcomes_perm {α : Type} (g : α → BuilderOutcome) (xs : List α) :
    (xs.filter (fun x => g x = .irrelevant) ++ xs.filter (fun x => g x = .unmatched) ++
      xs.filter (fun x => g x = .run)).Perm xs := by
  induction xs with
  | nil => exact .nil
  | cons x xs ih =>
    have hcons := ih.cons x
    cases hx : g x with
    | irrelevant => simpa [hx] using hcons
    | unmatched =>
      rw [List.append_assoc] at hcons
      simpa [hx] using List.perm_middle.trans hcons
    | run => simpa [hx] using List.perm_middle.trans hcons

theorem exists_ofBuilders_iff :
    (∃ s, ofBuilders builders affected f = .ok s) ↔
      ∀ b ∈ builders, ∀ e, ¬ b.Fault affected f e := by
  have hfault : (∃ e, ofBuilders builders affected f = .error e) ↔
      ∃ b ∈ builders, ∃ e, b.Fault affected f e := by
    simp only [ofBuilders_eq_error_iff, exists_firstFault_iff]
  rw [exists_eq_ok_iff, ← not_exists, hfault]
  simp only [not_exists, not_and]

theorem partitions_of_ofBuilders (h : ofBuilders builders affected f = .ok s) :
    s.Partitions affected f builders := by
  obtain ⟨decided, hdecided, rfl⟩ := map_eq_ok_iff.1 h
  have hdue : ∀ b ∈ builders, ∀ o,
      b.outcome (sparesImages affected f) affected = .ok o ↔ b.due affected f = o := by
    intro b hb o
    obtain ⟨_, -, hd⟩ := exists_of_mapM_eq_ok hdecided hb
    obtain ⟨o', ho', -⟩ := map_eq_ok_iff.1 hd
    rw [ho', Builder.outcome_eq_due ho', Except.ok.injEq]
  have hnames : ∀ o, namesWith o decided =
      (builders.filter fun b => b.due affected f = o).map Builder.name := by
    intro o
    rw [namesWith_eq_filter hdecided o]
    exact congrArg _ (List.filter_congr fun b hb => decide_eq_decide.2 (hdue b hb o))
  have hall : (namesWith .irrelevant decided ++ namesWith .unmatched decided ++
      namesWith .run decided).Perm (builders.map Builder.name) := by
    rw [hnames, hnames, hnames, ← List.map_append, ← List.map_append]
    exact (filter_outcomes_perm _ builders).map Builder.name
  exact ⟨hnames _, hnames _, hnames _, hall⟩

theorem Partitions.unique {t : Skipping} (hs : s.Partitions affected f builders)
    (ht : t.Partitions affected f builders) : s = t := by
  have hrun := hs.run.trans ht.run.symm
  have hirrelevant := hs.irrelevant.trans ht.irrelevant.symm
  have hunmatched := hs.unmatched.trans ht.unmatched.symm
  cases s
  cases t
  simp_all

theorem ofOutcomes_append (xs ys : List (Builder × BuilderOutcome)) :
    ofOutcomes (xs ++ ys) = ofOutcomes xs ++ ofOutcomes ys := by
  have hnames : ∀ o, namesWith o (xs ++ ys) = namesWith o xs ++ namesWith o ys := by
    intro o
    simp [namesWith]
  unfold ofOutcomes
  rw [hnames, hnames, hnames]
  rfl

/-- Builders are decided one by one. -/
theorem ofBuilders_append_eq_ok_iff :
    ofBuilders (builders ++ more) affected f = .ok s ↔
      ∃ t u, ofBuilders builders affected f = .ok t ∧ ofBuilders more affected f = .ok u ∧
        s = t ++ u := by
  simp only [ofBuilders, map_eq_ok_iff, mapM_append_eq_ok_iff]
  constructor
  · intro h
    obtain ⟨_, ⟨xs, ys, hxs, hys, rfl⟩, rfl⟩ := h
    exact ⟨_, _, ⟨xs, hxs, rfl⟩, ⟨ys, hys, rfl⟩, ofOutcomes_append xs ys⟩
  · intro h
    obtain ⟨_, _, ⟨xs, hxs, rfl⟩, ⟨ys, hys, rfl⟩, rfl⟩ := h
    exact ⟨_, ⟨xs, ys, hxs, hys, rfl⟩, ofOutcomes_append xs ys⟩

/-- The builders fail together for the first bad pattern of the first builder whose patterns are
asked and do not all compile. Otherwise they are parted by what is due to each, and a longer list of
builders gets the lists of its parts one after the other. -/
theorem ofBuilders_partitions (builders : List Builder) (affected : List String)
    (f : IrrelevantFiles) :
    (∀ e, ofBuilders builders affected f = .error e ↔
      FirstFault (fun _ b => b.Fault affected f) 0 builders e) ∧
    ((∃ e, ofBuilders builders affected f = .error e) ↔
      ∃ b ∈ builders, ¬ b.Spared affected f ∧ b.condition.mode = .onMatch ∧ affected ≠ [] ∧
        ∃ pattern ∈ b.condition.patterns, ∃ error, Glob.compile pattern = .error error) ∧
    (∀ s, ofBuilders builders affected f = .ok s ↔
      (∀ b ∈ builders, ∀ e, ¬ b.Fault affected f e) ∧ s.Partitions affected f builders) ∧
    ∀ more s, ofBuilders (builders ++ more) affected f = .ok s ↔
      ∃ t u, ofBuilders builders affected f = .ok t ∧ ofBuilders more affected f = .ok u ∧
        s = t ++ u := by
  refine ⟨fun e => ofBuilders_eq_error_iff, ?_, fun s => ⟨fun h => ?_, fun h => ?_⟩,
    fun more s => ofBuilders_append_eq_ok_iff⟩
  · simp only [ofBuilders_eq_error_iff, exists_firstFault_iff, Builder.exists_fault_iff]
  · exact ⟨exists_ofBuilders_iff.1 ⟨s, h⟩, partitions_of_ofBuilders h⟩
  · obtain ⟨t, ht⟩ := exists_ofBuilders_iff.2 h.1
    rw [h.2.unique (partitions_of_ofBuilders ht), ht]

end Skipping

namespace Sample

def runner (name : String) (types : List String) (mode : RunMode) (patterns : List String) :
    Builder :=
  ⟨name, types, ⟨mode, patterns⟩⟩

/-- Two builders of one name, and two whose bad pattern is not asked. -/
def twins : List Builder :=
  [runner "x" ["IMAGE_ZIP"] .onMatch ["src/**", "[a"], runner "x" [] .onMatch ["src/**"],
    runner "z" [] .always ["[a"]]

end Sample

open Sample in
/-- With one more builder the bad pattern is asked, after one that compiles. -/
theorem ofBuilders_partitions_twins :
    ∃ f s, IrrelevantFiles.ofPatterns ["**/*.md"] = .ok f ∧
      Skipping.ofBuilders twins ["docs/a.md"] f = .ok s ∧
      s.Partitions ["docs/a.md"] f twins ∧
      s.irrelevant = ["x"] ∧ s.unmatched = ["x"] ∧ s.run = ["z"] ∧
      Skipping.ofBuilders (twins ++ [runner "y" [] .onMatch ["src/**", "[a"]]) ["docs/a.md"] f =
        .error (.invalidPattern "[a" ⟨0, .unclosedClass⟩) := by
  have hf : ∃ f, IrrelevantFiles.ofPatterns ["**/*.md"] = .ok f := ⟨_, rfl⟩
  obtain ⟨f, hf⟩ := hf
  have hs : Skipping.ofBuilders twins ["docs/a.md"] f = .ok ⟨["z"], ["x"], ["x"]⟩ := by
    cases hf
    decide
  obtain ⟨hsound, hpartitions⟩ := ((Skipping.ofBuilders_partitions twins _ f).2.2.1 _).1 hs
  have hkept : ¬ (runner "y" [] .onMatch ["src/**", "[a"]).Spared ["docs/a.md"] f :=
    fun hspared => absurd hspared.2.2 List.not_mem_nil
  have hgood : ∀ e, ¬ Glob.Bad "src/**" e := by
    intro e hbad
    obtain ⟨error, herror, -⟩ := hbad
    cases herror
  have hfault : (runner "y" [] .onMatch ["src/**", "[a"]).Fault ["docs/a.md"] f
      (.invalidPattern "[a" ⟨0, .unclosedClass⟩) :=
    ⟨hkept, rfl, by decide, .later hgood (.here ⟨_, rfl, rfl⟩)⟩
  have hfirst : FirstFault (fun _ b => b.Fault ["docs/a.md"] f) 0
      (twins ++ [runner "y" [] .onMatch ["src/**", "[a"]])
      (.invalidPattern "[a" ⟨0, .unclosedClass⟩) :=
    .later (hsound _ (by simp [twins])) <| .later (hsound _ (by simp [twins])) <|
      .later (hsound _ (by simp [twins])) (.here hfault)
  exact ⟨f, _, hf, hs, hpartitions, rfl, rfl, rfl,
    ((Skipping.ofBuilders_partitions _ _ f).1 _).2 hfirst⟩

end Presubmit
