import Presubmit.Proofs.Change.Paths
import Presubmit.Proofs.Path.Containment

/-! The affected paths with their number and order. Every occurrence of a mapped patchset lists each
of its files once, under its root, and the paths are all that is listed, sorted. -/
namespace Presubmit

/-- Of the revisions of the patchset this one is listed last. -/
def Revisions.Latest (rs : Revisions) (p : Patchset) (r : Revision) : Prop :=
  ∃ earlier later, rs.entries = earlier ++ r :: later ∧ r.patchset = p ∧
    ∀ s ∈ later, s.patchset ≠ p

namespace Revisions

variable {rs : Revisions} {p : Patchset} {r : Revision}

theorem get?_eq_some_iff : rs.get? p = some r ↔ rs.Latest p r := by
  rw [get?, List.getLast?_filter, List.find?_eq_some_iff_append, decide_eq_true_iff]
  constructor
  · intro h
    obtain ⟨hp, later, earlier, hentries, hlater⟩ := h
    refine ⟨earlier.reverse, later.reverse, ?_, hp, fun s hs => ?_⟩
    · rw [← List.reverse_reverse rs.entries, hentries]
      simp
    · simpa using hlater s (List.mem_reverse.1 hs)
  · intro h
    obtain ⟨earlier, later, hentries, hp, hlater⟩ := h
    refine ⟨hp, later.reverse, earlier.reverse, ?_, fun s hs => ?_⟩
    · rw [hentries]
      simp
    · simpa using hlater s (List.mem_reverse.1 hs)

theorem get?_eq_none_iff : rs.get? p = none ↔ ∀ r ∈ rs.entries, r.patchset ≠ p := by
  simp [get?, List.getLast?_filter]

end Revisions

namespace ChangeSet

/-- The paths of some patchsets in their order, one for each file of each occurrence of a patchset.
A patchset without a root has none. -/
inductive Lists (c : ChangeSet) : List Patchset → List String → Prop where
  | nil : Lists c [] []
  | mapped {p : Patchset} {ps : List Patchset} {r : Revision} {root : String}
      {paths : List String} : c.revisions.Latest p r →
      c.roots.lookup r.project r.branch = some root → Lists c ps paths →
      Lists c (p :: ps)
        (r.files.map (fun file => Path.trimEnd root ++ "/" ++ Path.trimStart file) ++ paths)
  | unmapped {p : Patchset} {ps : List Patchset} {r : Revision} {paths : List String} :
      c.revisions.Latest p r → c.roots.lookup r.project r.branch = none → Lists c ps paths →
      Lists c (p :: ps) paths

/-- What the patchsets come to: the fault of the first that has one, or all their paths, sorted. -/
inductive Yields (c : ChangeSet) (policy : UnmappedPolicy) : Except Failure (List String) → Prop
    where
  | fault {e : Failure} : FirstFault (fun _ => c.Fault policy) 0 c.patchsets e →
      Yields c policy (.error e)
  | paths {listed paths : List String} : (∀ p ∈ c.patchsets, ∀ e, ¬ c.Fault policy p e) →
      c.Lists c.patchsets listed → paths.Perm listed → paths.Pairwise (· ≤ ·) →
      Yields c policy (.ok paths)

/-- The path is that of a file of a listed patchset whose project lies at the root. -/
def HasBelow (c : ChangeSet) (root path : String) : Prop :=
  ∃ p ∈ c.patchsets, ∃ r, c.revisions.Latest p r ∧ c.roots.lookup r.project r.branch = some root ∧
    ∃ file ∈ r.files, path = Path.trimEnd root ++ "/" ++ Path.trimStart file

variable {c : ChangeSet} {policy : UnmappedPolicy} {p : Patchset} {ps : List Patchset}
  {files paths listed : List String} {path root : String}

/-- One patchset put before others adds its files to the listing. -/
theorem Lists.cons_of_filesOf (hp : c.filesOf policy p = .ok files) (hps : c.Lists ps listed) :
    c.Lists (p :: ps) (files ++ listed) := by
  unfold filesOf at hp
  cases hrevision : c.revisions.get? p with
  | none => simp [hrevision] at hp
  | some r =>
    have hlatest := Revisions.get?_eq_some_iff.1 hrevision
    cases hroot : c.root? r with
    | some root =>
      simp only [hrevision, hroot, Except.ok.injEq] at hp
      subst hp
      exact .mapped hlatest hroot hps
    | none =>
      cases policy with
      | refuse => simp [hrevision, hroot] at hp
      | skip =>
        simp only [hrevision, hroot, Except.ok.injEq] at hp
        subst hp
        exact .unmapped hlatest hroot hps

/-- The files of all patchsets are their listing. -/
theorem lists_of_mapM {all : List (List String)} (h : ps.mapM (c.filesOf policy) = .ok all) :
    c.Lists ps all.flatten := by
  have hf := mapM_eq_ok_iff.1 h
  clear h
  induction hf with
  | nil => exact .nil
  | cons hp _ ih => exact ih.cons_of_filesOf hp

theorem Lists.unique {listed' : List String} (h : c.Lists ps listed) (h' : c.Lists ps listed') :
    listed = listed' := by
  have hsame : ∀ {p : Patchset} {r s : Revision}, c.revisions.Latest p r →
      c.revisions.Latest p s → r = s := by
    intro p r s hr hs
    rw [← Revisions.get?_eq_some_iff] at hr hs
    exact Option.some.inj (hr.symm.trans hs)
  induction h generalizing listed' with
  | nil =>
    cases h'
    rfl
  | mapped hr hroot _ ih =>
    cases h' with
    | mapped hr' hroot' hps' =>
      obtain rfl := hsame hr hr'
      cases hroot.symm.trans hroot'
      rw [ih hps']
    | unmapped hr' hroot' _ =>
      obtain rfl := hsame hr hr'
      cases hroot.symm.trans hroot'
  | unmapped hr hroot _ ih =>
    cases h' with
    | mapped hr' hroot' _ =>
      obtain rfl := hsame hr hr'
      cases hroot.symm.trans hroot'
    | unmapped _ _ hps' => exact ih hps'

theorem pairwise_sortPaths (paths : List String) : (sortPaths paths).Pairwise (· ≤ ·) := by
  have htrans : ∀ a b d : String, decide (a ≤ b) = true → decide (b ≤ d) = true →
      decide (a ≤ d) = true := by
    intro a b d hab hbd
    rw [decide_eq_true_iff] at hab hbd ⊢
    exact String.le_trans hab hbd
  have htotal : ∀ a b : String, (decide (a ≤ b) || decide (b ≤ a)) = true := by
    intro a b
    rw [Bool.or_eq_true, decide_eq_true_iff, decide_eq_true_iff]
    exact String.le_total a b
  exact (List.pairwise_mergeSort htrans htotal paths).imp fun hab => of_decide_eq_true hab

theorem affected_yields (c : ChangeSet) (policy : UnmappedPolicy) :
    c.Yields policy (c.affected policy) := by
  cases h : c.affected policy with
  | error e => exact .fault (affected_eq_error_iff.1 h)
  | ok paths =>
    obtain ⟨all, hall, rfl⟩ := map_eq_ok_iff.1 h
    have hresolves := exists_affected_iff.1 ⟨_, h⟩
    have hsound : ∀ p ∈ c.patchsets, ∀ e, ¬ c.Fault policy p e := by
      intro p hp e hfault
      obtain ⟨files, hfiles⟩ := exists_filesOf_iff.2 (hresolves p hp)
      cases hfiles.symm.trans (filesOf_eq_error_iff.2 hfault)
    exact .paths hsound (lists_of_mapM hall) (List.mergeSort_perm _ _) (pairwise_sortPaths _)

/-- Sorting leaves no choice, so that there is one result only. -/
theorem Yields.unique {x y : Except Failure (List String)} (hx : c.Yields policy x)
    (hy : c.Yields policy y) : x = y := by
  have hsound : ∀ {e : Failure}, FirstFault (fun _ => c.Fault policy) 0 c.patchsets e →
      ¬ ∀ p ∈ c.patchsets, ∀ e, ¬ c.Fault policy p e := by
    intro e hfirst hnone
    obtain ⟨p, hp, d, hd⟩ := exists_firstFault_iff.1 ⟨e, hfirst⟩
    exact hnone p hp d hd
  cases hx with
  | fault hfirst =>
    cases hy with
    | fault hfirst' =>
      exact (affected_eq_error_iff.2 hfirst).symm.trans (affected_eq_error_iff.2 hfirst')
    | paths hnone => exact absurd hnone (hsound hfirst)
  | paths hnone hlists hperm hsorted =>
    cases hy with
    | fault hfirst => exact absurd hnone (hsound hfirst)
    | paths _ hlists' hperm' hsorted' =>
      obtain rfl := hlists.unique hlists'
      rw [List.Perm.eq_of_pairwise (fun _ _ _ _ => String.le_antisymm) hsorted hsorted'
        (hperm.trans hperm'.symm)]

theorem exists_fault_iff :
    (∃ e, c.Fault policy p e) ↔
      (∀ r ∈ c.revisions.entries, r.patchset ≠ p) ∨
        policy = .refuse ∧ ∃ r, c.revisions.Latest p r ∧
          c.roots.lookup r.project r.branch = none := by
  rw [← Revisions.get?_eq_none_iff]
  constructor
  · intro h
    obtain ⟨e, hfault⟩ := h
    cases hfault with
    | unknown hrevision => exact .inl hrevision
    | unmapped r hrevision hroot hpolicy =>
      exact .inr ⟨hpolicy, r, Revisions.get?_eq_some_iff.1 hrevision, hroot⟩
  · intro h
    rcases h with hrevision | ⟨hpolicy, r, hlatest, hroot⟩
    · exact ⟨_, .unknown hrevision⟩
    · exact ⟨_, .unmapped r (Revisions.get?_eq_some_iff.2 hlatest) hroot hpolicy⟩

theorem exists_hasBelow_of_mem_affected (h : c.affected policy = .ok paths)
    (hpath : path ∈ paths) : ∃ root, c.HasBelow root path := by
  obtain ⟨p, hp, r, hr, root, hroot, file, hfile, rfl⟩ := (mem_affected_iff h).1 hpath
  exact ⟨root, p, hp, r, Revisions.get?_eq_some_iff.1 hr, hroot, file, hfile, rfl⟩

theorem HasBelow.isUnder (h : c.HasBelow root path) : Path.isUnder path root = true := by
  obtain ⟨_, _, _, _, _, file, _, rfl⟩ := h
  exact Path.isUnder_child root file

/-- Resolving fails for the first patchset without a revision or, where that is refused, without a
root. Otherwise the result is the listing of all patchsets, sorted and with its repetitions, and
each path lies under every root that it can come from. What counts is the last revision of a
patchset. -/
theorem affected_eq_iff_yields (c : ChangeSet) (policy : UnmappedPolicy) :
    (∀ result, c.affected policy = result ↔ c.Yields policy result) ∧
    ((∃ e, c.affected policy = .error e) ↔
      ∃ p ∈ c.patchsets, (∀ r ∈ c.revisions.entries, r.patchset ≠ p) ∨
        policy = .refuse ∧ ∃ r, c.revisions.Latest p r ∧
          c.roots.lookup r.project r.branch = none) ∧
    (∀ p r, c.revisions.get? p = some r ↔ c.revisions.Latest p r) ∧
    ∀ paths, c.affected policy = .ok paths → ∀ path ∈ paths,
      (∃ root, c.HasBelow root path) ∧
        ∀ root, c.HasBelow root path → Path.isUnder path root = true := by
  refine ⟨fun result => ⟨?_, fun hyields => ?_⟩, ?_, fun p r => Revisions.get?_eq_some_iff, ?_⟩
  · rintro rfl
    exact affected_yields c policy
  · exact (affected_yields c policy).unique hyields
  · simp only [affected_eq_error_iff, exists_firstFault_iff, exists_fault_iff]
  · intro paths hpaths path hpath
    exact ⟨exists_hasBelow_of_mem_affected hpaths hpath, fun root hbelow => hbelow.isUnder⟩

namespace Sample

/-- A patchset that is listed twice and has two revisions, around one whose project has no root. -/
def twice : ChangeSet where
  patchsets := [⟨"review", 1, 1⟩, ⟨"review", 2, 1⟩, ⟨"review", 1, 1⟩]
  revisions := ⟨[⟨⟨"review", 1, 1⟩, "p", none, ["old"]⟩, ⟨⟨"review", 2, 1⟩, "q", none, ["x"]⟩,
    ⟨⟨"review", 1, 1⟩, "p", none, ["b", "/a"]⟩]⟩
  roots := (∅ : SourceRoots).setRoot "p" "src/"

theorem latest_twice :
    twice.revisions.Latest ⟨"review", 1, 1⟩ ⟨⟨"review", 1, 1⟩, "p", none, ["b", "/a"]⟩ ∧
      twice.revisions.Latest ⟨"review", 2, 1⟩ ⟨⟨"review", 2, 1⟩, "q", none, ["x"]⟩ := by
  simp only [← Revisions.get?_eq_some_iff]
  decide

end Sample

open Sample in
theorem affected_eq_iff_yields_twice :
    twice.affected .skip = .ok ["src/a", "src/a", "src/b", "src/b"] ∧
      twice.affected .refuse = .error (.unmappedProject "q" none) ∧
      ∀ path ∈ ["src/a", "src/a", "src/b", "src/b"], ∀ root, twice.HasBelow root path →
        Path.isUnder path root = true := by
  obtain ⟨hp, hq⟩ := latest_twice
  have hroot : twice.roots.lookup "p" none = some "src/" := by decide
  have hnone : twice.roots.lookup "q" none = none := by decide
  have hlists := Lists.mapped hp hroot (.unmapped hq hnone (.mapped hp hroot .nil))
  have hrevised : ∀ p ∈ twice.patchsets, twice.revisions.get? p ≠ none := by decide
  have hsound : ∀ p ∈ twice.patchsets, ∀ e, ¬ twice.Fault .skip p e := by
    intro p hp e hfault
    cases hfault with
    | unknown hunknown => exact hrevised p hp hunknown
    | unmapped _ _ _ hpolicy => cases hpolicy
  have hskip : twice.affected .skip = .ok ["src/a", "src/a", "src/b", "src/b"] :=
    ((affected_eq_iff_yields twice .skip).1 _).2
      (.paths hsound hlists (by decide) (by decide))
  have hfirst : FirstFault (fun _ => twice.Fault .refuse) 0 twice.patchsets
      (.unmappedProject "q" none) := by
    have hfiles : twice.filesOf .refuse ⟨"review", 1, 1⟩ = .ok ["src/b", "src/a"] := by decide
    refine .later (fun e he => ?_) (.here (.unmapped _ (Revisions.get?_eq_some_iff.2 hq) hnone rfl))
    cases hfiles.symm.trans (filesOf_eq_error_iff.2 he)
  have hrefuse : twice.affected .refuse = .error (.unmappedProject "q" none) :=
    ((affected_eq_iff_yields twice .refuse).1 _).2 (.fault hfirst)
  exact ⟨hskip, hrefuse, fun path hpath =>
    ((affected_eq_iff_yields twice .skip).2.2.2 _ hskip path hpath).2⟩

end ChangeSet

end Presubmit
