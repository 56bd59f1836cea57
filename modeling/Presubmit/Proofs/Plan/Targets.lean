import Presubmit.Decision.Plan
import Presubmit.Proofs.Sequence

/-! The build that stands for a requirement. A requirement without a target fails the plan, and no
other does: a build that is chosen always has artifacts. -/
namespace Presubmit

/-- The record is a successful build that can be tested and that the criteria ask for. -/
structure Criteria.Accepts (settings : Settings) (c : Criteria) (b : Build) : Prop where
  named : c.target ≠ ""
  target : b.target = some c.target
  needed : b.pointless = false
  artifact : ∃ a, b.artifacts = some a ∧
    ∃ t ∈ settings.testArtifacts, ∃ files, (t, files) ∈ a.files.entries
  success : b.status = .success
  builder : settings.matching = .byTargetAndBuilder →
    ∀ builder, c.builder = some builder → b.builder = builder

namespace Criteria

variable {settings : Settings} {c : Criteria} {b : Build}

theorem hasArtifact_iff {types : List String} :
    b.hasArtifact types = true ↔
      ∃ a, b.artifacts = some a ∧ ∃ t ∈ types, ∃ files, (t, files) ∈ a.files.entries := by
  cases h : b.artifacts <;> simp [Build.hasArtifact, h, Dict.contains_iff]

theorem admits_iff {matching : BuildMatching} :
    c.admits matching b = true ↔
      b.target = some c.target ∧ (matching = .byTargetAndBuilder →
        ∀ builder, c.builder = some builder → b.builder = builder) := by
  cases matching <;> cases h : c.builder <;> simp [admits, h]

theorem accepts_iff :
    c.Accepts settings b ↔
      b.testable settings.testArtifacts = true ∧ c.suits settings.matching b = true := by
  simp only [Build.testable, suits, Bool.and_eq_true, Bool.not_eq_true', hasArtifact_iff,
    admits_iff, beq_iff_eq]
  constructor
  · intro h
    have hnamed : b.hasTarget = true := by simp [Build.hasTarget, h.target, h.named]
    exact ⟨⟨⟨hnamed, h.needed⟩, h.artifact⟩, ⟨h.target, h.builder⟩, h.success⟩
  · rintro ⟨⟨⟨hnamed, hneeded⟩, hartifact⟩, ⟨htarget, hbuilder⟩, hsuccess⟩
    have hne : c.target ≠ "" := by simpa [Build.hasTarget, htarget] using hnamed
    exact ⟨hne, htarget, hneeded, hartifact, hsuccess, hbuilder⟩

instance (settings : Settings) (c : Criteria) (b : Build) : Decidable (c.Accepts settings b) :=
  decidable_of_iff _ accepts_iff.symm

/-- Unfit records never stand in the way of a later one. -/
theorem select?_filter_testable (settings : Settings) (c : Criteria) (builds : List Build) :
    c.select? settings.matching (builds.filter (Build.testable settings.testArtifacts)) =
      builds.find? fun b => c.Accepts settings b := by
  rw [select?, List.find?_filter]
  congr 1
  funext b
  simp only [accepts_iff]

end Criteria

namespace Requirement

def Valid (r : Requirement) : Prop :=
  ∃ c, r.criteria = some c ∧ c.target ≠ ""

/-- The criteria together with the first record that they accept, in the order of the list. -/
def chosen? (settings : Settings) (builds : List Build) (r : Requirement) :
    Option (Criteria × Build) :=
  r.criteria.bind fun c => (builds.find? fun b => c.Accepts settings b).map fun b => (c, b)

/-- The requirement on the build that was chosen for it, without the suites that are pruned. -/
def placed? (settings : Settings) (builds : List Build) (p : Pruning) (r : Requirement) :
    Option Target :=
  (r.chosen? settings builds).map fun (c, b) => r.on p c.target b

variable {settings : Settings} {builds : List Build} {p : Pruning} {r : Requirement} {c : Criteria}
  {b : Build}

theorem chosen?_eq_some_iff :
    r.chosen? settings builds = some (c, b) ↔
      r.criteria = some c ∧ builds.find? (fun b => c.Accepts settings b) = some b := by
  simp only [chosen?, Option.bind_eq_some_iff, Option.map_eq_some_iff, Prod.mk.injEq]
  constructor
  · rintro ⟨d, hd, e, he, rfl, rfl⟩
    exact ⟨hd, he⟩
  · rintro ⟨hc, hb⟩
    exact ⟨c, hc, b, hb, rfl, rfl⟩

theorem accepts_of_chosen? (h : r.chosen? settings builds = some (c, b)) :
    c.Accepts settings b := by
  simpa using List.find?_some (chosen?_eq_some_iff.1 h).2

theorem target?_eq_some_iff : r.target? = some c ↔ r.criteria = some c ∧ c.target ≠ "" := by
  simp [target?, Option.filter_eq_some_iff]

theorem valid_iff : r.Valid ↔ ∃ c, r.target? = some c := by
  simp only [Valid, target?_eq_some_iff]

instance (r : Requirement) : Decidable r.Valid :=
  decidable_of_iff (r.target?.isSome = true) (by rw [valid_iff, Option.isSome_iff_exists])

theorem target_eq_ok_iff {i : Nat} {t : Option Target} :
    Requirement.target settings p (builds.filter (Build.testable settings.testArtifacts)) i r
        = .ok t ↔ r.Valid ∧ t = r.placed? settings builds p := by
  unfold Requirement.target
  rw [valid_iff]
  cases h : r.target? with
  | none => simp
  | some c =>
    have hc := (target?_eq_some_iff.1 h).1
    simp only [Criteria.select?_filter_testable, placed?, chosen?, hc, Option.bind_some,
      Option.map_map, Except.ok.injEq, Option.some.injEq, exists_eq', true_and]
    exact eq_comm

end Requirement

namespace Plan

variable {settings : Settings} {builds : List Build} {p : Pruning} {rs : List Requirement}

theorem targets_eq_ok_iff {ts : List Target} :
    targets settings p builds rs = .ok ts ↔
      (∀ r ∈ rs, r.Valid) ∧ ts = rs.filterMap (Requirement.placed? settings builds p) := by
  have hid : (rs.map (Requirement.placed? settings builds p)).filterMap id =
      rs.filterMap (Requirement.placed? settings builds p) := List.filterMap_map
  simp only [targets, map_eq_ok_iff]
  constructor
  · rintro ⟨found, hfound, rfl⟩
    rw [mapM_zipIdx_eq_ok_iff fun _ _ _ => Requirement.target_eq_ok_iff] at hfound
    obtain ⟨hrs, rfl⟩ := hfound
    exact ⟨hrs, hid⟩
  · rintro ⟨hrs, rfl⟩
    refine ⟨_, ?_, hid⟩
    rw [mapM_zipIdx_eq_ok_iff fun _ _ _ => Requirement.target_eq_ok_iff]
    exact ⟨hrs, rfl⟩

theorem exists_artifacts_of_placed? {r : Requirement} {t : Target}
    (h : r.placed? settings builds p = some t) : ∃ a, t.build.artifacts = some a := by
  obtain ⟨⟨c, b⟩, hcb, rfl⟩ := Option.map_eq_some_iff.1 h
  obtain ⟨a, ha, -⟩ := (Requirement.accepts_of_chosen? hcb).artifact
  exact ⟨a, ha⟩

/-- No chosen build lacks artifacts. -/
theorem exists_payloads (settings : Settings) (builds : List Build) (p : Pruning)
    (rs : List Requirement) :
    ∃ ps, (rs.filterMap (Requirement.placed? settings builds p)).mapM Target.payload = .ok ps := by
  refine exists_mapM_eq_ok fun t ht => ?_
  obtain ⟨r, -, hr⟩ := List.mem_filterMap.1 ht
  obtain ⟨a, ha⟩ := exists_artifacts_of_placed? hr
  exact ⟨(t, a), by simp [Target.payload, ha]⟩

end Plan

end Presubmit
