import Mathlib.Logic.Relation
import Presubmit.Proofs.Change.Paths

/-! Edits of a change set that leave its paths alone: listing patchsets or files in another order or
number, and listing a file with another patchset of the same root. -/
namespace Presubmit

/-- Revisions of one project and branch that list the same files, in whatever order and number. -/
structure Revision.SameFiles (r s : Revision) : Prop where
  project : r.project = s.project
  branch : r.branch = s.branch
  files : ∀ file, file ∈ r.files ↔ file ∈ s.files

theorem Revision.SameFiles.symm {r s : Revision} (h : r.SameFiles s) : s.SameFiles r :=
  ⟨h.project.symm, h.branch.symm, fun file => (h.files file).symm⟩

namespace ChangeSet

/-- One occurrence of a file goes from a listed patchset to another one with the same root. What
counts of the revisions is the one that each patchset gets. -/
structure Move (c : ChangeSet) (revisions : Revisions) where
  giver : Patchset
  taker : Patchset
  giver_listed : giver ∈ c.patchsets
  taker_listed : taker ∈ c.patchsets
  giver_ne_taker : giver ≠ taker
  source : Revision
  target : Revision
  giver_had : c.revisions.get? giver = some source
  taker_had : c.revisions.get? taker = some target
  root_eq : c.root? source = c.root? target
  file : String
  (before after before' after' : List String)
  source_files : source.files = before ++ file :: after
  target_files : target.files = before' ++ after'
  giver_has : revisions.get? giver = some { source with files := before ++ after }
  taker_has : revisions.get? taker = some { target with files := before' ++ file :: after' }
  others : ∀ p, p ≠ giver → p ≠ taker → revisions.get? p = c.revisions.get? p

inductive Edit (c : ChangeSet) : ChangeSet → Prop where
  | patchsets (ps : List Patchset) : (∀ p, p ∈ c.patchsets ↔ p ∈ ps) →
      Edit c { c with patchsets := ps }
  | files (revisions : Revisions) :
      (∀ p, Option.Rel Revision.SameFiles (c.revisions.get? p) (revisions.get? p)) →
      Edit c { c with revisions := revisions }
  | move (revisions : Revisions) : c.Move revisions → Edit c { c with revisions := revisions }

/-- The file goes back. -/
def Move.reverse {c : ChangeSet} {revisions : Revisions} (m : c.Move revisions) :
    ({ c with revisions := revisions } : ChangeSet).Move c.revisions where
  giver := m.taker
  taker := m.giver
  giver_listed := m.taker_listed
  taker_listed := m.giver_listed
  giver_ne_taker := m.giver_ne_taker.symm
  source := { m.target with files := m.before' ++ m.file :: m.after' }
  target := { m.source with files := m.before ++ m.after }
  giver_had := m.taker_has
  taker_had := m.giver_has
  root_eq := m.root_eq.symm
  file := m.file
  before := m.before'
  after := m.after'
  before' := m.before
  after' := m.after
  source_files := rfl
  target_files := rfl
  giver_has := by rw [m.taker_had, ← m.target_files]
  taker_has := by rw [m.giver_had, ← m.source_files]
  others p hgiver htaker := (m.others p htaker hgiver).symm

namespace Edit

variable {c c' : ChangeSet} {policy : UnmappedPolicy} {p : Patchset} {path : String}
  {paths : List String}

/-- Every edit can be taken back. -/
theorem symm (h : c.Edit c') : c'.Edit c := by
  cases h with
  | patchsets ps hps => exact .patchsets c.patchsets fun p => (hps p).symm
  | files revisions hfiles =>
    have hsymm : ∀ o o', Option.Rel Revision.SameFiles o o' →
        Option.Rel Revision.SameFiles o' o := by
      intro o o' h
      cases h with
      | none => exact .none
      | some h => exact .some h.symm
    exact .files c.revisions fun p => hsymm _ _ (hfiles p)
  | move revisions m => exact .move c.revisions m.reverse

theorem mem_patchsets_iff (h : c.Edit c') : p ∈ c.patchsets ↔ p ∈ c'.patchsets := by
  cases h with
  | patchsets ps hps => exact hps p
  | files => rfl
  | move => rfl

/-- All that an edit does: each patchset keeps its root, and each of its files stays with it or goes
to another patchset of the same root. -/
theorem exists_revision (h : c.Edit c') {r : Revision} (hr : c.revisions.get? p = some r) :
    ∃ s, c'.revisions.get? p = some s ∧ c'.root? s = c.root? r ∧
      ∀ file ∈ r.files, file ∈ s.files ∨
        ∃ q ∈ c'.patchsets, ∃ t, c'.revisions.get? q = some t ∧ c'.root? t = c.root? r ∧
          file ∈ t.files := by
  cases h with
  | patchsets => exact ⟨r, hr, rfl, fun file hfile => .inl hfile⟩
  | files revisions hfiles =>
    have hrel := hfiles p
    rw [hr] at hrel
    generalize revisions.get? p = found at hrel ⊢
    cases hrel with
    | @some _ s hsame =>
      refine ⟨s, rfl, ?_, fun file hfile => .inl ((hsame.files file).1 hfile)⟩
      simp only [root?, hsame.project, hsame.branch]
  | move revisions m =>
    by_cases hgiver : p = m.giver
    · subst hgiver
      cases hr.symm.trans m.giver_had
      refine ⟨_, m.giver_has, rfl, fun file hfile => ?_⟩
      by_cases hmoved : file = m.file
      · subst hmoved
        exact .inr ⟨m.taker, m.taker_listed, _, m.taker_has, m.root_eq.symm, by simp⟩
      · have hstays : file ∈ m.before ++ m.after := by simpa [m.source_files, hmoved] using hfile
        exact .inl hstays
    · by_cases htaker : p = m.taker
      · subst htaker
        cases hr.symm.trans m.taker_had
        have hstays : ∀ file ∈ m.target.files, file ∈ m.before' ++ m.file :: m.after' := by
          intro file hfile
          rw [m.target_files, List.mem_append] at hfile
          rw [List.mem_append]
          exact hfile.imp_right (List.mem_cons_of_mem m.file)
        exact ⟨_, m.taker_has, rfl, fun file hfile => .inl (hstays file hfile)⟩
      · exact ⟨r, (m.others p hgiver htaker).trans hr, rfl, fun file hfile => .inl hfile⟩

theorem resolves (h : c.Edit c') (hp : c.Resolves policy p) : c'.Resolves policy p := by
  obtain ⟨r, hr, hroot⟩ := hp
  obtain ⟨s, hs, hsame, -⟩ := h.exists_revision hr
  exact ⟨s, hs, by rwa [hsame]⟩

theorem exists_touches (h : c.Edit c') (hp : p ∈ c.patchsets) (htouches : c.Touches p path) :
    ∃ q ∈ c'.patchsets, c'.Touches q path := by
  obtain ⟨r, hr, root, hroot, file, hfile, hpath⟩ := htouches
  obtain ⟨s, hs, hsame, hfiles⟩ := h.exists_revision hr
  rcases hfiles file hfile with hstays | ⟨q, hq, t, ht, hsame', hmoved⟩
  · exact ⟨p, h.mem_patchsets_iff.1 hp, s, hs, root, hsame.trans hroot, file, hstays, hpath⟩
  · exact ⟨q, hq, t, ht, root, hsame'.trans hroot, file, hmoved, hpath⟩

theorem exists_touches_iff (h : c.Edit c') :
    (∃ p ∈ c.patchsets, c.Touches p path) ↔ ∃ p ∈ c'.patchsets, c'.Touches p path := by
  constructor
  · rintro ⟨p, hp, htouches⟩
    exact h.exists_touches hp htouches
  · rintro ⟨p, hp, htouches⟩
    exact h.symm.exists_touches hp htouches

/-- After an edit the same paths are found. -/
theorem exists_affected (h : c.Edit c') (hpaths : c.affected policy = .ok paths) :
    ∃ paths', c'.affected policy = .ok paths' ∧ ∀ a, a ∈ paths ↔ a ∈ paths' := by
  have hresolve : ∀ p ∈ c'.patchsets, c'.Resolves policy p := by
    intro p hp
    exact h.resolves (exists_affected_iff.1 ⟨paths, hpaths⟩ p (h.mem_patchsets_iff.2 hp))
  obtain ⟨paths', hpaths'⟩ := exists_affected_iff.2 hresolve
  refine ⟨paths', hpaths', fun a => ?_⟩
  rw [mem_affected_iff hpaths, mem_affected_iff hpaths', h.exists_touches_iff]

end Edit

theorem exists_affected_of_edits {c c' : ChangeSet} {policy : UnmappedPolicy} {paths : List String}
    (h : Relation.ReflTransGen Edit c c') (hpaths : c.affected policy = .ok paths) :
    ∃ paths', c'.affected policy = .ok paths' ∧ ∀ a, a ∈ paths ↔ a ∈ paths' := by
  induction h with
  | refl => exact ⟨paths, hpaths, fun _ => .rfl⟩
  | tail _ hedit ih =>
    obtain ⟨between, hbetween, hsame⟩ := ih
    obtain ⟨paths', hpaths', hsame'⟩ := hedit.exists_affected hbetween
    exact ⟨paths', hpaths', fun a => (hsame a).trans (hsame' a)⟩

end ChangeSet

end Presubmit
