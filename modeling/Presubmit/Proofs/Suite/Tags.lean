import Mathlib.Data.List.Perm.Basic
import Presubmit.Proofs.Rearranged
import Presubmit.Proofs.Suite.Heads

/-! Suites whose tags are given in another order. They are preferred alike, and so the heads of
groups depend neither on the order of tags nor on that of suites. -/
namespace Presubmit

/-- The two say the same, but for the order of tags. -/
structure SuiteCommon.Retags (s t : SuiteCommon) : Prop where
  name : s.name = t.name
  critical : s.critical = t.critical
  disabledByDefault : s.disabledByDefault = t.disabledByDefault
  groups : s.groups.Perm t.groups

structure Suite.Retags {k : SuiteKind} (s t : Suite k) : Prop where
  common : s.common.Retags t.common
  detail : s.detail = t.detail

structure Candidate.Retags (c d : Candidate) : Prop where
  build : c.build = d.build
  buildCritical : c.buildCritical = d.buildCritical
  kind : c.kind = d.kind
  board : c.board = d.board
  common : c.common.Retags d.common

instance (s t : SuiteCommon) : Decidable (s.Retags t) :=
  decidable_of_iff
    (s.name = t.name ∧ s.critical = t.critical ∧ s.disabledByDefault = t.disabledByDefault ∧
      s.groups.Perm t.groups)
    ⟨fun ⟨hn, hc, hd, hg⟩ => ⟨hn, hc, hd, hg⟩,
      fun h => ⟨h.name, h.critical, h.disabledByDefault, h.groups⟩⟩

instance {k : SuiteKind} (s t : Suite k) : Decidable (s.Retags t) :=
  decidable_of_iff (s.common.Retags t.common ∧ s.detail = t.detail)
    ⟨fun ⟨hc, hd⟩ => ⟨hc, hd⟩, fun h => ⟨h.common, h.detail⟩⟩

theorem SuiteCommon.Retags.symm {s t : SuiteCommon} (h : s.Retags t) : t.Retags s :=
  ⟨h.name.symm, h.critical.symm, h.disabledByDefault.symm, h.groups.symm⟩

theorem SuiteCommon.Retags.exists_group_iff {s t : SuiteCommon} (h : s.Retags t)
    {q : String → Prop} : (∃ g ∈ s.groups, q g) ↔ ∃ g ∈ t.groups, q g :=
  exists_congr fun _ => and_congr_left fun _ => h.groups.mem_iff

namespace Suite

variable {k : SuiteKind} {s t : Suite k}

theorem Retags.withCritical (h : s.Retags t) (critical : Bool) :
    (s.withCritical critical).Retags (t.withCritical critical) :=
  ⟨⟨h.common.name, rfl, h.common.disabledByDefault, h.common.groups⟩, h.detail⟩

end Suite

namespace Candidate

variable {settings : Settings} {a b c d : Candidate}

theorem Retags.symm (h : c.Retags d) : d.Retags c :=
  ⟨h.build.symm, h.buildCritical.symm, h.kind.symm, h.board.symm, h.common.symm⟩

theorem Retags.id_eq (h : c.Retags d) : c.id = d.id := by
  rw [id, id, h.build, h.kind, h.common.name]

/-- Tags do not bear on which suite is preferred. -/
theorem Retags.compare_eq (hac : a.Retags c) (hbd : b.Retags d) :
    compare settings a b = compare settings c d := by
  simp only [compare, compareBoards, critical, hac.build, hac.buildCritical, hac.kind, hac.board,
    hac.common.name, hac.common.critical, hbd.build, hbd.buildCritical, hbd.kind, hbd.board,
    hbd.common.name, hbd.common.critical]

theorem Leads.of_retags {cs ds : List Candidate} {group : String}
    (h : Rearranged Retags cs ds) (hcd : c.Retags d) (hd : d ∈ ds)
    (hc : c.Leads settings cs group) : d.Leads settings ds group := by
  refine ⟨hd, hcd.common.groups.mem_iff.1 hc.tagged, fun e he hg => ?_⟩
  obtain ⟨b, hb, hbe⟩ := h.flip.exists_of_mem he
  rw [← hcd.compare_eq hbe]
  exact hc.least b hb (hbe.common.groups.mem_iff.2 hg)

end Candidate

section Heads

variable {settings : Settings} {cs ds : List Candidate} {group : String} {i : SuiteId}

theorem SuiteId.Heads.of_retags (h : Rearranged Candidate.Retags cs ds)
    (hi : i.Heads settings cs group) : i.Heads settings ds group := by
  obtain ⟨c, hc, rfl⟩ := hi
  obtain ⟨d, hd, hcd⟩ := h.exists_of_mem hc.mem
  exact ⟨d, hc.of_retags h hcd hd, hcd.id_eq.symm⟩

theorem SuiteId.heads_iff_of_retags (h : Rearranged Candidate.Retags cs ds) :
    i.Heads settings cs group ↔ i.Heads settings ds group :=
  ⟨.of_retags h, .of_retags (h.flip.mono fun _ _ => .symm)⟩

theorem groupHeads_eq_of_retags {ts us : List Target} {names : List String}
    (h : Rearranged Candidate.Retags (ts.flatMap Target.candidates)
      (us.flatMap Target.candidates)) :
    groupHeads settings ts names = groupHeads settings us names := by
  have hmem : ∀ i, i ∈ groupHeads settings ts names ↔ i ∈ groupHeads settings us names := by
    intro i
    simp only [mem_groupHeads, SuiteId.heads_iff_of_retags h]
  -- Both lists are strictly ascending, so their members determine them.
  have hperm := (List.perm_ext_iff_of_nodup (nodup_groupHeads settings ts names)
    (nodup_groupHeads settings us names)).2 hmem
  refine hperm.eq_of_pairwise (fun a b _ _ hab hba => ?_) (pairwise_groupHeads settings ts names)
    (pairwise_groupHeads settings us names)
  exact absurd hba (Std.OrientedCmp.not_lt_of_lt hab)

end Heads

end Presubmit
