import Mathlib.Tactic.Push
import Presubmit.Decision.Pruning
import Presubmit.Proofs.Sequence

/-! What restrictions prune, said of the restrictions as they are written. It depends on which paths
are affected and on which restrictions there are, and not on their order. -/
namespace Presubmit

namespace Restriction

/-- The directory of the restriction holds the path, or its pattern matches it. -/
inductive Covers (x : Restriction) (path : String) : Prop where
  | directory (dir : String) : x.path = some dir → x.pattern = none → Path.isUnder path dir = true →
      Covers x path
  | glob (pattern : String) (compiled : Glob.Pattern) : x.path = none → x.pattern = some pattern →
      Glob.compile pattern = .ok compiled → compiled.isMatch path = true → Covers x path

theorem compile_eq_ok_iff {x : Restriction} {i : Nat} {e : ScopedEffect} :
    x.compile i = .ok e ↔
      (∃ dir, x.path = some dir ∧ x.pattern = none ∧ e = ⟨.directory dir, x.effect⟩) ∨
      ∃ pattern compiled, x.path = none ∧ x.pattern = some pattern ∧
        Glob.compile pattern = .ok compiled ∧ e = ⟨.glob compiled, x.effect⟩ := by
  unfold compile
  cases hpath : x.path with
  | none =>
    cases hpattern : x.pattern with
    | none => simp
    | some pattern => simp [map_eq_ok_iff, Glob.compileRule_eq_ok_iff, @eq_comm _ e]
  | some dir =>
    cases hpattern : x.pattern with
    | none => simp [@eq_comm _ e]
    | some pattern => simp

theorem covers_iff_of_compile {x : Restriction} {i : Nat} {e : ScopedEffect} {path : String}
    (h : x.compile i = .ok e) : e.scope.covers path = true ↔ x.Covers path := by
  rcases compile_eq_ok_iff.1 h with
    ⟨dir, hpath, hpattern, rfl⟩ | ⟨pattern, g, hpath, hpattern, hg, rfl⟩
  · constructor
    · intro hdir
      exact .directory dir hpath hpattern hdir
    · rintro (⟨dir', hpath', _, hdir⟩ | ⟨_, _, hpath', _, _, _⟩)
      · cases hpath.symm.trans hpath'
        exact hdir
      · cases hpath.symm.trans hpath'
  · constructor
    · intro hmatch
      exact .glob pattern g hpath hpattern hg hmatch
    · rintro (⟨_, hpath', _, _⟩ | ⟨pattern', g', _, hpattern', hg', hmatch⟩)
      · cases hpath.symm.trans hpath'
      · cases hpattern.symm.trans hpattern'
        cases hg.symm.trans hg'
        exact hmatch

theorem effect_of_compile {x : Restriction} {i : Nat} {e : ScopedEffect}
    (h : x.compile i = .ok e) : e.effect = x.effect := by
  rcases compile_eq_ok_iff.1 h with ⟨_, _, _, rfl⟩ | ⟨_, _, _, _, _, rfl⟩ <;> rfl

end Restriction

namespace Restrictions

variable {rs : List Restriction} {r : Restrictions} {paths : List String} {path : String}
  {names : Effect → List String}

/-- The list is accepted exactly if each restriction compiles, at whatever place it stands. -/
theorem exists_ofList_iff :
    (∃ r, ofList rs = .ok r) ↔ ∀ x ∈ rs, ∃ e, x.compile 0 = .ok e := by
  have hplace : ∀ (x : Restriction) (i j : Nat) (e : ScopedEffect),
      x.compile i = .ok e → x.compile j = .ok e := fun x i j e h =>
    Restriction.compile_eq_ok_iff.2 (Restriction.compile_eq_ok_iff.1 h)
  simp only [ofList, map_eq_ok_iff]
  constructor
  · rintro ⟨_, es, hes, -⟩ x hx
    obtain ⟨i, hi⟩ := List.mem_iff_getElem?.1 hx
    have hxi : (x, i) ∈ rs.zipIdx := List.mk_mem_zipIdx_iff_getElem?.2 hi
    obtain ⟨e, -, he⟩ := exists_of_mapM_eq_ok hes hxi
    exact ⟨e, hplace x i 0 e he⟩
  · intro h
    have hzip : ∀ xi ∈ rs.zipIdx, ∃ e, xi.1.compile xi.2 = .ok e := fun ⟨x, i⟩ hxi => by
      obtain ⟨e, he⟩ := h x (List.fst_mem_of_mem_zipIdx hxi)
      exact ⟨e, hplace x 0 i e he⟩
    obtain ⟨es, hes⟩ := exists_mapM_eq_ok hzip
    exact ⟨⟨es⟩, es, hes, rfl⟩

theorem mem_effectsOn (h : ofList rs = .ok r) {e : Effect} :
    e ∈ r.effectsOn path ↔ ∃ x ∈ rs, x.Covers path ∧ x.effect = e := by
  obtain ⟨es, hes, rfl⟩ := map_eq_ok_iff.1 h
  simp only [effectsOn, List.mem_map, List.mem_filter]
  constructor
  · rintro ⟨s, ⟨hs, hcovers⟩, rfl⟩
    obtain ⟨⟨x, i⟩, hxi, hx⟩ := (mem_of_mapM_eq_ok hes).1 hs
    exact ⟨x, List.fst_mem_of_mem_zipIdx hxi, (Restriction.covers_iff_of_compile hx).1 hcovers,
      (Restriction.effect_of_compile hx).symm⟩
  · rintro ⟨x, hx, hcovers, rfl⟩
    obtain ⟨i, hi⟩ := List.mem_iff_getElem?.1 hx
    have hxi : (x, i) ∈ rs.zipIdx := List.mk_mem_zipIdx_iff_getElem?.2 hi
    obtain ⟨s, hs, hxs⟩ := exists_of_mapM_eq_ok hes hxi
    exact ⟨s, ⟨hs, (Restriction.covers_iff_of_compile hxs).2 hcovers⟩,
      Restriction.effect_of_compile hxs⟩

theorem permitsAll_iff (h : ofList rs = .ok r) {c : Category} :
    r.permitsAll c paths = true ↔
      ∀ a ∈ paths, ∃ x ∈ rs, x.Covers a ∧ c.allowedBy x.effect = true := by
  simp only [permitsAll, permits, List.all_eq_true, List.any_eq_true, mem_effectsOn h]
  refine forall₂_congr fun a _ => ?_
  constructor
  · rintro ⟨_, ⟨x, hx, hcovers, rfl⟩, hallowed⟩
    exact ⟨x, hx, hcovers, hallowed⟩
  · rintro ⟨x, hx, hcovers, hallowed⟩
    exact ⟨x.effect, ⟨x, hx, hcovers, rfl⟩, hallowed⟩

theorem mem_namesAt (h : ofList rs = .ok r) {g : String} :
    g ∈ r.namesAt names path ↔ ∃ x ∈ rs, x.Covers path ∧ g ∈ names x.effect := by
  simp only [namesAt, List.mem_flatMap, mem_effectsOn h]
  constructor
  · rintro ⟨_, ⟨x, hx, hcovers, rfl⟩, hg⟩
    exact ⟨x, hx, hcovers, hg⟩
  · rintro ⟨x, hx, hcovers, hg⟩
    exact ⟨x.effect, ⟨x, hx, hcovers, rfl⟩, hg⟩

theorem namesAt_eq_nil_iff (h : ofList rs = .ok r) :
    r.namesAt names path = [] ↔ ∀ x ∈ rs, x.Covers path → names x.effect = [] := by
  simp only [List.eq_nil_iff_forall_not_mem, mem_namesAt h, not_exists, not_and]
  exact ⟨fun hnone x hx hcovers g => hnone g x hx hcovers,
    fun hnone g x hx hcovers => hnone x hx hcovers g⟩

/-- What is gathered so far stays only if every path that is left has names. -/
theorem mem_gather {known : Names} {g : String} :
    g ∈ r.gather names known paths ↔
      (∀ a ∈ paths, r.namesAt names a ≠ []) ∧
        (g ∈ known ∨ ∃ a ∈ paths, g ∈ r.namesAt names a) := by
  induction paths generalizing known with
  | nil => simp [gather]
  | cons a paths ih =>
    rw [gather]
    by_cases hempty : r.namesAt names a = []
    · simp [hempty]
    · simp only [List.isEmpty_iff, hempty, if_false, ih, Names.mem_union, Names.mem_ofList,
        List.forall_mem_cons, List.exists_mem_cons_iff, ne_eq, not_false_eq_true, true_and,
        or_assoc]

end Restrictions

/-- The set holds the names of all paths if every path has some, and nothing if one has none. -/
structure SharedNames (rs : List Restriction) (names : Effect → List String)
    (paths : List String) (s : Names) : Prop where
  all : (∀ a ∈ paths, ∃ x ∈ rs, x.Covers a ∧ names x.effect ≠ []) →
    ∀ g, g ∈ s ↔ ∃ a ∈ paths, ∃ x ∈ rs, x.Covers a ∧ g ∈ names x.effect
  none : (∃ a ∈ paths, ∀ x ∈ rs, x.Covers a → names x.effect = []) → s = ∅

namespace SharedNames

variable {rs rs' : List Restriction} {names : Effect → List String} {paths paths' : List String}
  {s t : Names}

theorem of_gather {r : Restrictions} (h : Restrictions.ofList rs = .ok r) :
    SharedNames rs names paths (r.sharedNames names paths) where
  all hall g := by
    have hsome : ∀ a ∈ paths, r.namesAt names a ≠ [] := fun a ha => by
      obtain ⟨x, hx, hcovers, hne⟩ := hall a ha
      exact fun hnil => hne ((Restrictions.namesAt_eq_nil_iff h).1 hnil x hx hcovers)
    rw [Restrictions.sharedNames, Restrictions.mem_gather, and_iff_right hsome,
      or_iff_right Names.mem_empty]
    simp only [Restrictions.mem_namesAt h]
  none := by
    rintro ⟨a, ha, hnone⟩
    refine Names.eq_empty_iff.2 fun g hg => ?_
    exact (Restrictions.mem_gather.1 hg).1 a ha ((Restrictions.namesAt_eq_nil_iff h).2 hnone)

theorem unique (hs : SharedNames rs names paths s) (ht : SharedNames rs names paths t) : s = t := by
  by_cases hall : ∀ a ∈ paths, ∃ x ∈ rs, x.Covers a ∧ names x.effect ≠ []
  · exact Names.ext fun g => (hs.all hall g).trans (ht.all hall g).symm
  · push Not at hall
    rw [hs.none hall, ht.none hall]

theorem congr (hrs : ∀ x, x ∈ rs' ↔ x ∈ rs) (hpaths : ∀ a, a ∈ paths' ↔ a ∈ paths)
    (h : SharedNames rs names paths s) : SharedNames rs' names paths' s where
  all := by simpa only [hrs, hpaths] using h.all
  none := by simpa only [hrs, hpaths] using h.none

end SharedNames

namespace Pruning

/-- What the restrictions prune for a list of paths that is not empty. -/
structure Follows (p : Pruning) (rs : List Restriction) (paths : List String) : Prop where
  disableHw : p.disableHw = true ↔
    ∀ a ∈ paths, ∃ x ∈ rs, x.Covers a ∧ x.effect.disableHw = true
  disableVm : p.disableVm = true ↔
    ∀ a ∈ paths, ∃ x ∈ rs, x.Covers a ∧ x.effect.disableVm = true
  disableNonTast : p.disableNonTast = true ↔
    ∀ a ∈ paths, ∃ x ∈ rs, x.Covers a ∧ x.effect.disableNonTast = true
  onlyTargets : SharedNames rs (·.onlyTargets) paths p.onlyTargets
  oneofGroups : SharedNames rs (·.oneofGroup.toList) paths p.oneofGroups
  onlyGroups : SharedNames rs (·.onlyGroup.toList) paths p.onlyGroups
  alsoGroups : ∀ g, g ∈ p.alsoGroups ↔
    ∃ a ∈ paths, ∃ x ∈ rs, x.Covers a ∧ x.effect.alsoGroup = some g

variable {rs rs' : List Restriction} {paths paths' : List String} {p q : Pruning}

theorem follows_ofRestrictions {r : Restrictions} (h : Restrictions.ofList rs = .ok r)
    (hne : paths ≠ []) : (ofRestrictions r paths).Follows rs paths := by
  have hempty : paths.isEmpty = false := by simpa using hne
  simp only [ofRestrictions, hempty, Bool.false_eq_true, if_false]
  exact
    { disableHw := Restrictions.permitsAll_iff h
      disableVm := Restrictions.permitsAll_iff h
      disableNonTast := Restrictions.permitsAll_iff h
      onlyTargets := .of_gather h
      oneofGroups := .of_gather h
      onlyGroups := .of_gather h
      alsoGroups := fun g => by
        simp [Restrictions.allNames, Restrictions.mem_namesAt h] }

theorem Follows.unique (hp : p.Follows rs paths) (hq : q.Follows rs paths) : p = q := by
  have hhw : p.disableHw = q.disableHw := Bool.eq_iff_iff.2 (hp.disableHw.trans hq.disableHw.symm)
  have hvm : p.disableVm = q.disableVm := Bool.eq_iff_iff.2 (hp.disableVm.trans hq.disableVm.symm)
  have htast : p.disableNonTast = q.disableNonTast :=
    Bool.eq_iff_iff.2 (hp.disableNonTast.trans hq.disableNonTast.symm)
  have htargets := hp.onlyTargets.unique hq.onlyTargets
  have honeof := hp.oneofGroups.unique hq.oneofGroups
  have honly := hp.onlyGroups.unique hq.onlyGroups
  have halso : p.alsoGroups = q.alsoGroups :=
    Names.ext fun g => (hp.alsoGroups g).trans (hq.alsoGroups g).symm
  cases p
  cases q
  simp_all

theorem Follows.congr (hrs : ∀ x, x ∈ rs' ↔ x ∈ rs) (hpaths : ∀ a, a ∈ paths' ↔ a ∈ paths)
    (h : p.Follows rs paths) : p.Follows rs' paths' where
  disableHw := by simpa only [hrs, hpaths] using h.disableHw
  disableVm := by simpa only [hrs, hpaths] using h.disableVm
  disableNonTast := by simpa only [hrs, hpaths] using h.disableNonTast
  onlyTargets := h.onlyTargets.congr hrs hpaths
  oneofGroups := h.oneofGroups.congr hrs hpaths
  onlyGroups := h.onlyGroups.congr hrs hpaths
  alsoGroups := by simpa only [hrs, hpaths] using h.alsoGroups

theorem ofRules_eq_ok_iff :
    ofRules rs paths = .ok p ↔
      ∃ r, Restrictions.ofList rs = .ok r ∧ ofRestrictions r paths = p :=
  map_eq_ok_iff

/-- Only the set of paths counts, also where the restrictions are not accepted. -/
theorem ofRules_congr (hpaths : ∀ a, a ∈ paths ↔ a ∈ paths') :
    ofRules rs paths = ofRules rs paths' := by
  cases hr : Restrictions.ofList rs with
  | error e => simp [ofRules, hr, Except.map]
  | ok r =>
    have hp : ofRules rs paths = .ok (ofRestrictions r paths) := ofRules_eq_ok_iff.2 ⟨r, hr, rfl⟩
    have hp' : ofRules rs paths' = .ok (ofRestrictions r paths') := ofRules_eq_ok_iff.2 ⟨r, hr, rfl⟩
    have hnil : paths = [] ↔ paths' = [] := by
      simp only [List.eq_nil_iff_forall_not_mem, hpaths]
    rw [hp, hp']
    by_cases hne : paths' = []
    · rw [hnil.2 hne, hne]
    · have hfollows : (ofRestrictions r paths).Follows rs paths :=
        follows_ofRestrictions hr fun h => hne (hnil.1 h)
      have hfollows' : (ofRestrictions r paths').Follows rs paths' := follows_ofRestrictions hr hne
      rw [hfollows.unique (hfollows'.congr (fun _ => .rfl) hpaths)]

/-- Accepted restrictions prune nothing without paths, and otherwise what they say of the paths
together. Neither the order of the restrictions nor that of the paths or their repetition counts. -/
theorem ofRules_follows_coverage {r : Restrictions} (h : Restrictions.ofList rs = .ok r)
    (paths : List String) :
    ∃ p, ofRules rs paths = .ok p ∧
      (paths = [] → p = none) ∧
      (paths ≠ [] → p.Follows rs paths) ∧
      ∀ rs' paths', rs'.Perm rs → (∀ a, a ∈ paths' ↔ a ∈ paths) →
        ofRules rs' paths' = .ok p := by
  refine ⟨_, ofRules_eq_ok_iff.2 ⟨r, h, rfl⟩, ?_, follows_ofRestrictions h, ?_⟩
  · rintro rfl
    rfl
  · intro rs' paths' hperm hpaths
    obtain ⟨r', hr'⟩ := Restrictions.exists_ofList_iff.2 fun x hx =>
      Restrictions.exists_ofList_iff.1 ⟨r, h⟩ x (hperm.mem_iff.1 hx)
    refine ofRules_eq_ok_iff.2 ⟨r', hr', ?_⟩
    by_cases hne : paths = []
    · subst hne
      obtain rfl : paths' = [] := List.eq_nil_iff_forall_not_mem.2 fun a ha => by
        simpa using (hpaths a).1 ha
      rfl
    · have hne' : paths' ≠ [] := fun hnil => hne <| List.eq_nil_iff_forall_not_mem.2 fun a ha => by
        simpa [hnil] using (hpaths a).2 ha
      exact (follows_ofRestrictions hr' hne').unique
        ((follows_ofRestrictions h hne).congr (fun x => hperm.mem_iff) hpaths)

end Pruning

namespace Sample

def docs : Restriction :=
  ⟨some "docs/", none, { Effect.none with disableHw := true, onlyTargets := ["eve"] }⟩

def markdown : Restriction :=
  ⟨none, some "**/*.md", { Effect.none with disableVm := true, alsoGroup := some "lint" }⟩

end Sample

open Sample in
theorem ofRules_docs :
    (∃ r, Restrictions.ofList [docs, markdown] = .ok r) ∧
    ∃ p, Pruning.ofRules [docs, markdown] ["docs/a.md", "docs/b"] = .ok p ∧
      p.Follows [docs, markdown] ["docs/a.md", "docs/b"] ∧
      Pruning.ofRules [markdown, docs] ["docs/b", "docs/a.md", "docs/b"] = .ok p := by
  have haccepted : ∃ r, Restrictions.ofList [docs, markdown] = .ok r := ⟨_, rfl⟩
  obtain ⟨r, hr⟩ := haccepted
  obtain ⟨p, hp, -, hfollows, hcongr⟩ :=
    Pruning.ofRules_follows_coverage hr ["docs/a.md", "docs/b"]
  exact ⟨⟨r, hr⟩, p, hp, hfollows (by decide), hcongr _ _ (by decide) (by simp)⟩

example : Pruning.ofRules [Sample.docs, Sample.markdown] ["docs/a.md", "docs/b"] =
    .ok { Pruning.none with
      disableHw := true
      onlyTargets := Names.ofList ["eve"]
      alsoGroups := Names.ofList ["lint"] } := by
  decide

end Presubmit
