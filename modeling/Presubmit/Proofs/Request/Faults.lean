import Presubmit.Proofs.Change.Paths
import Presubmit.Proofs.Plan.Contents
import Presubmit.Proofs.Pruning.Coverage
import Presubmit.Proofs.Request.Answers

/-! What is wrong with a plan request that is not answered. The changes are looked at first, then
the restrictions, then the requirements, and of each list the first faulty entry is reported. -/
namespace Presubmit

namespace Restriction

/-- The restriction has no scope or two, or its pattern does not compile. -/
inductive Fault (i : Nat) (x : Restriction) : Failure → Prop where
  | scope : (x.path = none ↔ x.pattern = none) → Fault i x
      (.invalid ("source_tree_test_restriction[" ++ toString i ++ "]")
        "exactly one of path or file_pattern must be set")
  | pattern (text : String) (error : Glob.SyntaxError) : x.path = none → x.pattern = some text →
      Glob.compile text = .error error → Fault i x (.invalidPattern text error)

variable {x : Restriction} {i : Nat} {e : Failure}

theorem compile_eq_error_iff : x.compile i = .error e ↔ x.Fault i e := by
  unfold compile
  constructor
  · intro h
    split at h
    next => cases h
    next text hpath hpattern =>
      rw [map_eq_error_iff, Glob.compileRule_eq_error_iff] at h
      obtain ⟨error, hcompile, rfl⟩ := h
      exact .pattern text error hpath hpattern hcompile
    next hdirectory hglob =>
      cases h
      rw [Failure.ambiguousScope_eq]
      refine .scope ⟨fun hpath => ?_, fun hpattern => ?_⟩
      · by_contra hne
        obtain ⟨text, htext⟩ := Option.ne_none_iff_exists'.1 hne
        exact hglob text hpath htext
      · by_contra hne
        obtain ⟨dir, hdir⟩ := Option.ne_none_iff_exists'.1 hne
        exact hdirectory dir hdir hpattern
  · intro h
    cases h with
    | scope hboth =>
      rw [← Failure.ambiguousScope_eq]
      cases hpath : x.path with
      | none => rw [hboth.1 hpath]
      | some dir =>
        cases hpattern : x.pattern with
        | none => cases hpath.symm.trans (hboth.2 hpattern)
        | some text => rfl
    | pattern text error hpath hpattern hcompile =>
      simp only [hpath, hpattern]
      rw [map_eq_error_iff, Glob.compileRule_eq_error_iff]
      exact ⟨error, hcompile, rfl⟩

end Restriction

/-- The requirement has no criteria, or they name no target. -/
inductive Requirement.Fault (i : Nat) (r : Requirement) : Failure → Prop where
  | criteria : r.criteria = none → Fault i r
      (.invalid ("per_target_test_requirements[" ++ toString i ++ "].target_criteria")
        "missing build target")
  | target (c : Criteria) : r.criteria = some c → c.target = "" → Fault i r
      (.invalid ("per_target_test_requirements[" ++ toString i ++ "].target_criteria")
        "missing build target")

section Stages

variable {settings : Settings} {builds : List Build} {p : Pruning} {e : Failure}

/-- Restrictions are checked whatever is affected. -/
theorem Pruning.ofRules_eq_error_iff {xs : List Restriction} {affected : List String} :
    Pruning.ofRules xs affected = .error e ↔ FirstFault Restriction.Fault 0 xs e := by
  rw [Pruning.ofRules, map_eq_error_iff, Restrictions.ofList, map_eq_error_iff,
    mapM_zipIdx_eq_error_iff fun _ _ _ => Restriction.compile_eq_error_iff]

theorem Requirement.target_eq_error_iff {i : Nat} {r : Requirement} {testable : List Build} :
    Requirement.target settings p testable i r = .error e ↔ r.Fault i e := by
  unfold Requirement.target
  constructor
  · intro h
    split at h <;> cases h
    next hnone =>
      rw [Failure.missingTarget_eq]
      cases hcriteria : r.criteria with
      | none => exact .criteria hcriteria
      | some c =>
        refine .target c hcriteria ?_
        by_contra hnamed
        cases hnone.symm.trans (Requirement.target?_eq_some_iff.2 ⟨hcriteria, hnamed⟩)
  · intro h
    have hnone : r.target? = none := by
      cases h with
      | criteria hcriteria => simp [Requirement.target?, hcriteria]
      | target c hcriteria hempty => simp [Requirement.target?, hcriteria, hempty]
    rw [hnone]
    cases h <;> rw [Failure.missingTarget_eq]

theorem Plan.targets_eq_error_iff {rs : List Requirement} :
    Plan.targets settings p builds rs = .error e ↔ FirstFault Requirement.Fault 0 rs e := by
  rw [Plan.targets, map_eq_error_iff,
    mapM_zipIdx_eq_error_iff fun _ _ _ => Requirement.target_eq_error_iff]

/-- Every target that was found has its artifacts. -/
theorem Plan.exists_payloads_of_targets {rs : List Requirement} {ts : List Target}
    (h : Plan.targets settings p builds rs = .ok ts) :
    ∃ payloads, ts.mapM Target.payload = .ok payloads := by
  obtain ⟨-, rfl⟩ := Plan.targets_eq_ok_iff.1 h
  exact Plan.exists_payloads settings builds p rs

/-- Neither a build nor what is pruned keeps a plan from being assembled. -/
theorem assemble_eq_error_iff {rs : List Requirement} :
    Plan.assemble settings rs builds p = .error e ↔ FirstFault Requirement.Fault 0 rs e := by
  rw [Plan.assemble, bind_eq_error_iff, Plan.targets_eq_error_iff, or_iff_left]
  rintro ⟨ts, hts, hunits⟩
  obtain ⟨payloads, hpayloads⟩ := Plan.exists_payloads_of_targets hts
  rw [hpayloads] at hunits
  cases hunits

end Stages

/-- What a plan request is refused for. The restrictions count only where every change resolves, and
the requirements only where the restrictions are sound as well. -/
inductive PlanFault (policy : UnmappedPolicy) (c : ChangeSet) (xs : List Restriction)
    (rs : List Requirement) (e : Failure) : Prop where
  | change : FirstFault (fun _ => c.Fault policy) 0 c.patchsets e → PlanFault policy c xs rs e
  | restriction : (∀ p ∈ c.patchsets, c.Resolves policy p) →
      FirstFault Restriction.Fault 0 xs e → PlanFault policy c xs rs e
  | requirement : (∀ p ∈ c.patchsets, c.Resolves policy p) →
      (∀ d, ¬ FirstFault Restriction.Fault 0 xs d) →
      FirstFault Requirement.Fault 0 rs e → PlanFault policy c xs rs e

namespace PlanRequest

variable {settings : Settings} {r : PlanRequest} {e : Failure}

theorem answer_eq_error_iff_fault :
    r.answer settings = .error e ↔
      PlanFault settings.unmapped r.changes r.restrictions r.requirements e := by
  rw [answer_eq_error_iff]
  constructor
  · rintro (hchange | ⟨affected, haffected, hrestriction | ⟨p, hp, hassemble⟩⟩)
    · exact .change (ChangeSet.affected_eq_error_iff.1 hchange)
    · exact .restriction (ChangeSet.exists_affected_iff.1 ⟨affected, haffected⟩)
        (Pruning.ofRules_eq_error_iff.1 hrestriction)
    · have hsound : ∀ d, ¬ FirstFault Restriction.Fault 0 r.restrictions d := by
        intro d hd
        cases hp.symm.trans (Pruning.ofRules_eq_error_iff.2 hd)
      exact .requirement (ChangeSet.exists_affected_iff.1 ⟨affected, haffected⟩) hsound
        (assemble_eq_error_iff.1 hassemble)
  · intro h
    cases h with
    | change hchange => exact .inl (ChangeSet.affected_eq_error_iff.2 hchange)
    | restriction hresolves hrestriction =>
      obtain ⟨affected, haffected⟩ := ChangeSet.exists_affected_iff.2 hresolves
      exact .inr ⟨affected, haffected, .inl (Pruning.ofRules_eq_error_iff.2 hrestriction)⟩
    | requirement hresolves hsound hrequirement =>
      obtain ⟨affected, haffected⟩ := ChangeSet.exists_affected_iff.2 hresolves
      have hpruning : ∃ p, Pruning.ofRules r.restrictions affected = .ok p :=
        exists_eq_ok_iff.2 fun d hd => hsound d (Pruning.ofRules_eq_error_iff.1 hd)
      obtain ⟨p, hp⟩ := hpruning
      exact .inr ⟨affected, haffected, .inr ⟨p, hp, assemble_eq_error_iff.2 hrequirement⟩⟩

end PlanRequest

/-- No fault is told in the words for a build without artifacts. -/
theorem not_planFault_missingArtifacts (policy : UnmappedPolicy) (c : ChangeSet)
    (xs : List Restriction) (rs : List Requirement) (builder : String) :
    ¬ PlanFault policy c xs rs (.invalid ("builds[" ++ builder ++ "].artifacts") "missing") := by
  intro h
  generalize hf : Failure.invalid ("builds[" ++ builder ++ "].artifacts") "missing" = f at h
  cases h with
  | change h =>
    obtain ⟨i, p, -, hp⟩ := h.exists_mem
    cases hp <;> cases hf
  | restriction _ h =>
    obtain ⟨i, x, -, hx⟩ := h.exists_mem
    cases hx with
    | scope => simp at hf
    | pattern => cases hf
  | requirement _ _ h =>
    obtain ⟨i, r, -, hr⟩ := h.exists_mem
    cases hr <;> simp at hf

/-- A plan request fails exactly for its fault, whatever the builds are. Once the changes and the
restrictions are through, only a requirement without a target can fail it, whatever is pruned: each
target that was found has its artifacts, and no answer says that a build lacks them. -/
theorem answer_fails_for_fault (settings : Settings) (changes : ChangeSet)
    (restrictions : List Restriction) (requirements : List Requirement) (builds : List Build) :
    (∀ e, PlanRequest.answer settings ⟨changes, restrictions, requirements, builds⟩ = .error e ↔
      PlanFault settings.unmapped changes restrictions requirements e) ∧
    (∀ p e, Plan.assemble settings requirements builds p = .error e ↔
      FirstFault Requirement.Fault 0 requirements e) ∧
    (∀ p ts, Plan.targets settings p builds requirements = .ok ts →
      ∃ payloads, ts.mapM Target.payload = .ok payloads) ∧
    ∀ builder, PlanRequest.answer settings ⟨changes, restrictions, requirements, builds⟩ ≠
      .error (.invalid ("builds[" ++ builder ++ "].artifacts") "missing") := by
  refine ⟨fun e => PlanRequest.answer_eq_error_iff_fault, fun p e => assemble_eq_error_iff,
    fun p ts hts => Plan.exists_payloads_of_targets hts, ?_⟩
  intro builder hanswer
  have hfault := PlanRequest.answer_eq_error_iff_fault.1 hanswer
  exact not_planFault_missingArtifacts _ _ _ _ builder hfault

namespace Sample

/-- A restriction that holds for a directory and for a pattern. -/
def twofold : Restriction :=
  { docs with pattern := some "**/*.md" }

theorem docs_sound (i : Nat) (e : Failure) : ¬ docs.Fault i e := by
  rw [← Restriction.compile_eq_error_iff]
  simp [docs, Restriction.compile]

end Sample

open Sample in
/-- Without any affected path the restrictions are refused before the requirements, and a failing
build next to a requirement without a target changes nothing. -/
theorem answer_fails_for_fault_twofold :
    PlanRequest.answer Settings.standard
          ⟨changes [], [docs, twofold], [requirement "" []], []⟩ =
        .error (.invalid "source_tree_test_restriction[1]"
          "exactly one of path or file_pattern must be set") ∧
      PlanRequest.answer Settings.standard
          ⟨changes [], [docs], [requirement "eve" [], requirement "" []],
            [{ build "eve" "eve-cq" with status := .failure }]⟩ =
        .error (.invalid "per_target_test_requirements[1].target_criteria"
          "missing build target") ∧
      ∃ ts payloads, Plan.targets Settings.standard .none [build "eve" "eve-cq"]
          [requirement "eve" []] = .ok ts ∧ ts.mapM Target.payload = .ok payloads := by
  have hresolves : ∀ p ∈ (changes []).patchsets, (changes []).Resolves .refuse p := by
    intro p hp
    rw [List.mem_singleton.1 hp]
    exact ⟨⟨patchset, "p", none, []⟩, rfl, .inr ⟨"src", by decide⟩⟩
  have htwofold : FirstFault Restriction.Fault 0 [docs, twofold]
      (.invalid "source_tree_test_restriction[1]"
        "exactly one of path or file_pattern must be set") :=
    .later (docs_sound 0) (.here (.scope (by decide)))
  have hdocs : ∀ e, ¬ FirstFault Restriction.Fault 0 [docs] e := by
    intro e he
    obtain ⟨i, x, hx, hfault⟩ := he.exists_mem
    rw [List.mem_singleton.1 hx] at hfault
    exact docs_sound i e hfault
  have heve : ∀ e, ¬ (requirement "eve" []).Fault 0 e := by
    rintro e (hnone | ⟨c, hc, hempty⟩)
    · cases hnone
    · cases hc
      exact absurd hempty (by decide)
  have hunnamed : FirstFault Requirement.Fault 0 [requirement "eve" [], requirement "" []]
      (.invalid "per_target_test_requirements[1].target_criteria" "missing build target") :=
    .later heve (.here (.target _ rfl rfl))
  have htargets : ∃ ts, Plan.targets Settings.standard .none [build "eve" "eve-cq"]
      [requirement "eve" []] = .ok ts := ⟨_, rfl⟩
  obtain ⟨ts, hts⟩ := htargets
  obtain ⟨payloads, hpayloads⟩ := (answer_fails_for_fault Settings.standard (changes []) []
    [requirement "eve" []] [build "eve" "eve-cq"]).2.2.1 .none ts hts
  exact ⟨((answer_fails_for_fault _ _ _ _ _).1 _).2 (.restriction hresolves htwofold),
    ((answer_fails_for_fault _ _ _ _ _).1 _).2 (.requirement hresolves hdocs hunnamed),
    ts, payloads, hts, hpayloads⟩

end Presubmit
