import Mathlib.Data.List.Basic
import Mathlib.Data.List.Forall2
import Presubmit.Proofs.Plan.Contents
import Presubmit.Proofs.Pruning.Coverage

/-! More affected paths prune less. Without oneof- and only-groups, no suite is lost from the plan
when paths are added. -/
namespace Presubmit

namespace Pruning

/-- The second pruning leaves out no more than the first, and neither has group rules. -/
structure Relaxes (p q : Pruning) : Prop where
  disableHw : q.disableHw = true → p.disableHw = true
  disableVm : q.disableVm = true → p.disableVm = true
  disableNonTast : q.disableNonTast = true → p.disableNonTast = true
  onlyTargets : ∀ t, p.onlyTargets = ∅ ∨ t ∈ p.onlyTargets → q.onlyTargets = ∅ ∨ t ∈ q.onlyTargets
  alsoGroups : ∀ g ∈ p.alsoGroups, g ∈ q.alsoGroups
  noGroupRules : p.oneofGroups = ∅ ∧ p.onlyGroups = ∅
  noGroupRules' : q.oneofGroups = ∅ ∧ q.onlyGroups = ∅

end Pruning

namespace SharedNames

variable {rules : List Restriction} {names : Effect → List String} {A B : List String} {s t : Names}

/-- No names at all are declared. -/
theorem eq_empty (h : SharedNames rules names A s) (hne : A ≠ [])
    (hnone : ∀ x ∈ rules, names x.effect = []) : s = ∅ := by
  obtain ⟨a, ha⟩ := List.exists_mem_of_ne_nil A hne
  exact h.none ⟨a, ha, fun x hx _ => hnone x hx⟩

/-- With more paths the names grow or are discarded. -/
theorem grows (hs : SharedNames rules names A s) (ht : SharedNames rules names B t)
    (hne : A ≠ []) (hAB : A ⊆ B) (n : String) (h : s = ∅ ∨ n ∈ s) : t = ∅ ∨ n ∈ t := by
  by_cases hB : ∀ b ∈ B, ∃ x ∈ rules, x.Covers b ∧ names x.effect ≠ []
  · have hA : ∀ a ∈ A, ∃ x ∈ rules, x.Covers a ∧ names x.effect ≠ [] := fun a ha => hB a (hAB ha)
    rcases h with rfl | hn
    · -- a path of `A` has names, so these cannot have been discarded
      obtain ⟨a, ha⟩ := List.exists_mem_of_ne_nil A hne
      obtain ⟨x, hx, hcovers, hsome⟩ := hA a ha
      obtain ⟨m, hm⟩ := List.exists_mem_of_ne_nil _ hsome
      exact absurd ((hs.all hA m).2 ⟨a, ha, x, hx, hcovers, hm⟩) Names.mem_empty
    · obtain ⟨a, ha, hx⟩ := (hs.all hA n).1 hn
      exact .inr ((ht.all hB n).2 ⟨a, hAB ha, hx⟩)
  · push Not at hB
    exact .inl (ht.none hB)

end SharedNames

namespace Pruning

variable {rules : List Restriction} {A B : List String} {p q : Pruning}

theorem Follows.relaxes (hp : p.Follows rules A) (hq : q.Follows rules B) (hne : A ≠ [])
    (hAB : A ⊆ B)
    (hrules : ∀ x ∈ rules, x.effect.oneofGroup = Option.none ∧ x.effect.onlyGroup = Option.none) :
    p.Relaxes q := by
  have hne' : B ≠ [] := List.ne_nil_of_mem (hAB (List.head_mem hne))
  have honeof : ∀ x ∈ rules, x.effect.oneofGroup.toList = [] := fun x hx => by
    rw [(hrules x hx).1, Option.toList_none]
  have honly : ∀ x ∈ rules, x.effect.onlyGroup.toList = [] := fun x hx => by
    rw [(hrules x hx).2, Option.toList_none]
  exact
    { disableHw := fun h => hp.disableHw.2 fun a ha => hq.disableHw.1 h a (hAB ha)
      disableVm := fun h => hp.disableVm.2 fun a ha => hq.disableVm.1 h a (hAB ha)
      disableNonTast := fun h => hp.disableNonTast.2 fun a ha => hq.disableNonTast.1 h a (hAB ha)
      onlyTargets := hp.onlyTargets.grows hq.onlyTargets hne hAB
      alsoGroups := fun g hg => by
        obtain ⟨a, ha, hx⟩ := (hp.alsoGroups g).1 hg
        exact (hq.alsoGroups g).2 ⟨a, hAB ha, hx⟩
      noGroupRules := ⟨hp.oneofGroups.eq_empty hne honeof, hp.onlyGroups.eq_empty hne honly⟩
      noGroupRules' := ⟨hq.oneofGroups.eq_empty hne' honeof, hq.onlyGroups.eq_empty hne' honly⟩ }

namespace Relaxes

theorem survives (h : p.Relaxes q) {target : String} {k : SuiteKind} {s : Suite k}
    (hs : p.Survives target s) : q.Survives target s := by
  have hoff : ∀ x y : Bool, (y = true → x = true) → x = false → y = false := by decide
  cases k with
  | hw =>
    obtain ⟨henabled, htarget, hframework⟩ := hs
    exact ⟨hoff _ _ h.disableHw henabled, h.onlyTargets target htarget,
      fun hq => hframework (h.disableNonTast hq)⟩
  | vm => exact ⟨hoff _ _ h.disableVm hs.1, hoff _ _ h.disableNonTast hs.2⟩
  | tastVm => trivial
  | moblabVm => exact hoff _ _ h.disableNonTast hs

theorem keeps (h : p.Relaxes q) {settings : Settings} {cs ds : List Candidate} {i : SuiteId}
    {s : SuiteCommon} (hs : p.Keeps settings cs i s) : q.Keeps settings ds i s := by
  unfold Keeps at hs ⊢
  rw [if_pos h.noGroupRules] at hs
  rw [if_pos h.noGroupRules']
  rcases hs with ⟨g, hg, halso⟩ | henabled
  · exact .inl ⟨g, hg, h.alsoGroups g halso⟩
  · exact .inr henabled

end Relaxes

end Pruning

/-- The units stand for the same build, and the first keeps no suite that the second lacks. -/
structure PlanUnit.Within {k : SuiteKind} (u v : PlanUnit k) : Prop where
  source : u.source = v.source
  suites : u.suites.Sublist v.suites

section Plans

variable {settings : Settings} {builds : List Build} {rs : List Requirement} {p q : Pruning}

theorem kept_sublist (h : p.Relaxes q) (k : SuiteKind) (r : Requirement) (c : Criteria)
    (b : Build) :
    (r.kept settings builds p rs k c b).Sublist (r.kept settings builds q rs k c b) := by
  refine List.monotone_filter_right _ fun s hs => ?_
  rw [decide_eq_true_iff] at hs ⊢
  exact ⟨h.survives hs.1, h.keeps hs.2⟩

/-- Where every suite stays, so does every unit. -/
theorem exists_unit?_within_of_kept {k : SuiteKind} {r : Requirement}
    (hkept : ∀ c b,
      (r.kept settings builds p rs k c b).Sublist (r.kept settings builds q rs k c b))
    {u : PlanUnit k} (hu : r.unit? settings builds p rs k = some u) :
    ∃ v, r.unit? settings builds q rs k = some v ∧ u.Within v := by
  obtain ⟨c, b, payload, hchosen, hpayload, hsome, rfl⟩ := Requirement.unit?_eq_some_iff.1 hu
  have hstays := hkept c b
  have hsome' : r.kept settings builds q rs k c b ≠ [] := fun hnil => hsome <| by
    rwa [hnil, List.sublist_nil] at hstays
  exact ⟨_, Requirement.unit?_eq_some_iff.2 ⟨c, b, payload, hchosen, hpayload, hsome', rfl⟩, rfl,
    hstays.map _⟩

theorem exists_unit?_within (h : p.Relaxes q) {k : SuiteKind} {r : Requirement} {u : PlanUnit k}
    (hu : r.unit? settings builds p rs k = some u) :
    ∃ v, r.unit? settings builds q rs k = some v ∧ u.Within v :=
  exists_unit?_within_of_kept (kept_sublist h k r) hu

/-- What each element contributes to the first list stands below what it contributes to the
second. -/
theorem sublistForall₂_filterMap {α β γ : Type} {R : β → γ → Prop} {f : α → Option β}
    {g : α → Option γ} (h : ∀ x u, f x = some u → ∃ v, g x = some v ∧ R u v) (xs : List α) :
    List.SublistForall₂ R (xs.filterMap f) (xs.filterMap g) := by
  induction xs with
  | nil => exact .nil
  | cons x xs ih =>
    cases hf : f x with
    | none =>
      rw [List.filterMap_cons_none hf]
      cases hg : g x with
      | none => rwa [List.filterMap_cons_none hg]
      | some v =>
        rw [List.filterMap_cons_some hg]
        exact .cons_right ih
    | some u =>
      obtain ⟨v, hg, huv⟩ := h x u hf
      rw [List.filterMap_cons_some hf, List.filterMap_cons_some hg]
      exact .cons huv ih

/-- Adding affected paths loses no test. Each unit of the smaller plan comes from a requirement that
has a unit on the same build in the larger plan, with at least its suites. -/
theorem units_within_of_subset {rules : List Restriction} {A B : List String} {planA planB : Plan}
    (hrules : ∀ x ∈ rules, x.effect.oneofGroup = none ∧ x.effect.onlyGroup = none)
    (hne : A ≠ []) (hAB : A ⊆ B) (hp : Pruning.ofRules rules A = .ok p)
    (hq : Pruning.ofRules rules B = .ok q) (hA : Plan.assemble settings rs builds p = .ok planA)
    (hB : Plan.assemble settings rs builds q = .ok planB) (k : SuiteKind) :
    List.SublistForall₂ PlanUnit.Within (planA.units k) (planB.units k) ∧
      planA.units k = rs.filterMap (Requirement.unit? settings builds p rs k) ∧
      planB.units k = rs.filterMap (Requirement.unit? settings builds q rs k) ∧
      ∀ (r : Requirement) u, r.unit? settings builds p rs k = some u →
        ∃ v, r.unit? settings builds q rs k = some v ∧ u.Within v := by
  obtain ⟨_, hrA, rfl⟩ := Pruning.ofRules_eq_ok_iff.1 hp
  obtain ⟨_, hrB, rfl⟩ := Pruning.ofRules_eq_ok_iff.1 hq
  obtain ⟨-, rfl⟩ := assemble_eq_ok_iff.1 hA
  obtain ⟨-, rfl⟩ := assemble_eq_ok_iff.1 hB
  have hne' : B ≠ [] := List.ne_nil_of_mem (hAB (List.head_mem hne))
  have hrelaxes := (Pruning.follows_ofRestrictions hrA hne).relaxes
    (Pruning.follows_ofRestrictions hrB hne') hne hAB hrules
  rw [Plan.units_ofUnits, Plan.units_ofUnits]
  have hunits := fun (r : Requirement) u (hu : r.unit? settings builds _ rs k = some u) =>
    exists_unit?_within hrelaxes hu
  exact ⟨sublistForall₂_filterMap hunits rs, rfl, rfl, hunits⟩

end Plans

namespace Sample

def optional (name : String) (groups : List String) : Suite .hw :=
  ⟨⟨name, none, true, groups⟩, .hw "eve" name .tast⟩

def oneOptional : List Requirement :=
  [allKinds "eve" [optional "b" ["lint"], hw "a" []] [vm "v" []] [tastVm "t" []] [moblabVm "m" []]]

end Sample

open Sample in
/-- The second path matches an also-group, which schedules a suite that is off by default. -/
theorem units_within_src_docs :
    ∃ p q planA planB, Pruning.ofRules [docs, markdown] ["src/x"] = .ok p ∧
      Pruning.ofRules [docs, markdown] ["src/x", "docs/a.md"] = .ok q ∧
      Plan.assemble Settings.standard oneOptional [build "eve" "eve-cq"] p = .ok planA ∧
      Plan.assemble Settings.standard oneOptional [build "eve" "eve-cq"] q = .ok planB ∧
      planA.hw.map (·.suites.length) = [1] ∧ planB.hw.map (·.suites.length) = [2] ∧
      planA.vm.map (·.suites.length) = [1] ∧ planA.moblabVm.map (·.suites.length) = [1] ∧
      ∀ k, List.SublistForall₂ PlanUnit.Within (planA.units k) (planB.units k) := by
  have hp : Pruning.ofRules [docs, markdown] ["src/x"] = .ok Pruning.none := by decide
  have hq : Pruning.ofRules [docs, markdown] ["src/x", "docs/a.md"] =
      .ok { Pruning.none with alsoGroups := Names.ofList ["lint"] } := by decide
  have hplan : ∀ p, Plan.assemble Settings.standard oneOptional [build "eve" "eve-cq"] p = .ok _ :=
    fun p => assemble_eq_ok_iff.2 ⟨by decide, rfl⟩
  have hwithin := units_within_of_subset (by decide) (by decide) (by decide) hp hq (hplan _)
    (hplan _)
  exact ⟨_, _, _, _, hp, hq, hplan _, hplan _, by decide, by decide, by decide, by decide,
    fun k => (hwithin k).1⟩

end Presubmit
