import Presubmit.Proofs.Suite.Preference

/-! The heads of groups: for each named group with members, the identity of its most preferred
member, listed once and in ascending order. -/
namespace Presubmit

/-- The candidate is among the given ones, carries the tag, and is preferred to no less than any
other that carries it. -/
structure Candidate.Leads (settings : Settings) (cs : List Candidate) (group : String)
    (c : Candidate) : Prop where
  mem : c ∈ cs
  tagged : group ∈ c.common.groups
  least : ∀ d ∈ cs, group ∈ d.common.groups → (compare settings c d).isLE

instance (settings : Settings) (cs : List Candidate) (group : String) (c : Candidate) :
    Decidable (c.Leads settings cs group) :=
  decidable_of_iff
    (c ∈ cs ∧ group ∈ c.common.groups ∧
      ∀ d ∈ cs, group ∈ d.common.groups → (Candidate.compare settings c d).isLE)
    ⟨fun ⟨hm, ht, hl⟩ => ⟨hm, ht, hl⟩, fun h => ⟨h.mem, h.tagged, h.least⟩⟩

/-- The identity of a suite that leads the group. -/
def SuiteId.Heads (settings : Settings) (cs : List Candidate) (group : String) (i : SuiteId) :
    Prop :=
  ∃ c : Candidate, c.Leads settings cs group ∧ ⟨c.build, c.kind, c.common.name⟩ = i

instance (settings : Settings) (cs : List Candidate) (group : String) (i : SuiteId) :
    Decidable (i.Heads settings cs group) :=
  decidable_of_iff
    (∃ c ∈ cs, c.Leads settings cs group ∧ ⟨c.build, c.kind, c.common.name⟩ = i)
    ⟨fun ⟨c, _, hc⟩ => ⟨c, hc⟩, fun ⟨c, hc⟩ => ⟨c, hc.1.mem, hc⟩⟩

/-- All that lead one group are the same suite to a plan. -/
theorem Candidate.Leads.id_eq {settings : Settings} {cs : List Candidate} {group : String}
    {c d : Candidate} (hc : c.Leads settings cs group) (hd : d.Leads settings cs group) :
    c.id = d.id :=
  id_eq_of_compare_eq <|
    Std.OrientedCmp.isLE_antisymm (hc.least d hd.mem hd.tagged) (hd.least c hc.mem hc.tagged)

section Members

private theorem getD_foldl_insert (c : Candidate) (tags : List String)
    (members : Dict (List Candidate)) (group : String) :
    ((tags.foldl (fun ms g => ms.insert g ((ms.get? g).getD [] ++ [c])) members).get? group).getD []
      = (members.get? group).getD [] ++ List.replicate (tags.count group) c := by
  induction tags generalizing members with
  | nil => simp
  | cons tag tags ih =>
    rw [List.foldl_cons, ih]
    by_cases h : group = tag
    · subst h
      simp [List.replicate_succ]
    · rw [Dict.get?_insert_of_ne _ h, List.count_cons_of_ne (Ne.symm h)]

/-- Joining adds the candidate to a group as often as it carries the tag. -/
theorem Candidate.getD_join (c : Candidate) (members : Dict (List Candidate)) (group : String) :
    ((c.join members).get? group).getD [] =
      (members.get? group).getD [] ++ List.replicate (c.common.groups.count group) c :=
  getD_foldl_insert c _ members group

private theorem getD_foldl_join (cs : List Candidate) (members : Dict (List Candidate))
    (group : String) :
    ((cs.foldl (fun ms c => c.join ms) members).get? group).getD [] =
      (members.get? group).getD [] ++
        cs.flatMap fun c => List.replicate (c.common.groups.count group) c := by
  induction cs generalizing members with
  | nil => simp
  | cons c cs ih =>
    rw [List.foldl_cons, ih, Candidate.getD_join, List.flatMap_cons, List.append_assoc]

theorem membersOf_eq (targets : List Target) (group : String) :
    membersOf targets group = (targets.flatMap Target.candidates).flatMap fun c =>
      List.replicate (c.common.groups.count group) c := by
  simp [membersOf, collect, getD_foldl_join]

theorem mem_membersOf {targets : List Target} {group : String} {c : Candidate} :
    c ∈ membersOf targets group ↔
      c ∈ targets.flatMap Target.candidates ∧ group ∈ c.common.groups := by
  rw [membersOf_eq, List.mem_flatMap]
  constructor
  · rintro ⟨d, hd, hc⟩
    obtain ⟨hn, rfl⟩ := List.mem_replicate.1 hc
    exact ⟨hd, List.count_pos_iff.1 (Nat.pos_of_ne_zero hn)⟩
  · rintro ⟨hc, hg⟩
    exact ⟨c, hc, List.mem_replicate.2 ⟨Nat.ne_of_gt (List.count_pos_iff.2 hg), rfl⟩⟩

end Members

section Head

variable {settings : Settings} {targets : List Target} {group : String} {c : Candidate}

theorem mem_groupOf :
    c ∈ groupOf settings targets group ↔
      c ∈ targets.flatMap Target.candidates ∧ group ∈ c.common.groups := by
  rw [groupOf, List.mem_mergeSort, mem_membersOf]

theorem pairwise_groupOf (settings : Settings) (targets : List Target) (group : String) :
    (groupOf settings targets group).Pairwise fun a b => (Candidate.compare settings a b).isLE :=
  pairwise_mergeSort_cmp (Candidate.compare settings) (membersOf targets group)

theorem leads_of_head? (h : (groupOf settings targets group).head? = some c) :
    c.Leads settings (targets.flatMap Target.candidates) group := by
  obtain ⟨cs, hcs⟩ := List.head?_eq_some_iff.1 h
  have hsorted := pairwise_groupOf settings targets group
  rw [hcs, List.pairwise_cons] at hsorted
  have hc : c ∈ groupOf settings targets group := hcs ▸ List.mem_cons_self
  refine ⟨(mem_groupOf.1 hc).1, (mem_groupOf.1 hc).2, fun d hd hg => ?_⟩
  have hd : d ∈ c :: cs := hcs ▸ mem_groupOf.2 ⟨hd, hg⟩
  rcases List.mem_cons.1 hd with rfl | hd
  · simp [Candidate.compare_self]
  · exact hsorted.1 d hd

theorem exists_head? (hc : c ∈ targets.flatMap Target.candidates) (hg : group ∈ c.common.groups) :
    ∃ d, (groupOf settings targets group).head? = some d := by
  have hmem : c ∈ groupOf settings targets group := mem_groupOf.2 ⟨hc, hg⟩
  obtain ⟨d, ds, hds⟩ := List.exists_cons_of_ne_nil (List.ne_nil_of_mem hmem)
  exact ⟨d, by rw [hds, List.head?_cons]⟩

theorem exists_head?_of_leads
    (h : c.Leads settings (targets.flatMap Target.candidates) group) :
    ∃ d, (groupOf settings targets group).head? = some d ∧ d.id = c.id := by
  obtain ⟨d, hd⟩ := exists_head? h.mem h.tagged
  exact ⟨d, hd, (leads_of_head? hd).id_eq h⟩

/-- A group with members has a leader. -/
theorem exists_leads (hc : c ∈ targets.flatMap Target.candidates) (hg : group ∈ c.common.groups) :
    ∃ d : Candidate, d.Leads settings (targets.flatMap Target.candidates) group := by
  obtain ⟨d, hd⟩ := exists_head? hc hg
  exact ⟨d, leads_of_head? hd⟩

end Head

section Repeats

theorem mem_dropRepeats {ids : List SuiteId} {i : SuiteId} : i ∈ dropRepeats ids ↔ i ∈ ids := by
  induction ids with
  | nil => simp [dropRepeats]
  | cons k ks ih =>
    rw [dropRepeats]
    split
    next h =>
      obtain ⟨ls, rfl⟩ := List.head?_eq_some_iff.1 h
      simp [ih]
    next => simp [ih]

theorem length_dropRepeats_le (ids : List SuiteId) : (dropRepeats ids).length ≤ ids.length := by
  induction ids with
  | nil => simp [dropRepeats]
  | cons k ks ih =>
    rw [dropRepeats]
    split <;> simp only [List.length_cons] <;> omega

theorem pairwise_dropRepeats {ids : List SuiteId}
    (h : ids.Pairwise fun a b => (a.compare b).isLE) :
    (dropRepeats ids).Pairwise fun a b => a.compare b = .lt := by
  induction ids with
  | nil => simp [dropRepeats]
  | cons k ks ih =>
    obtain ⟨hk, hks⟩ := List.pairwise_cons.1 h
    rw [dropRepeats]
    split
    next => exact ih hks
    next hne =>
      refine List.pairwise_cons.2 ⟨fun i hi => ?_, ih hks⟩
      have hi : i ∈ ks := mem_dropRepeats.1 hi
      refine (Ordering.isLE_iff_eq_lt_or_eq_eq.1 (hk i hi)).resolve_right fun heq => hne ?_
      obtain rfl := SuiteId.compare_eq_iff.1 heq
      obtain ⟨l, ls, rfl⟩ := List.exists_cons_of_ne_nil (List.ne_nil_of_mem hi)
      rcases List.mem_cons.1 hi with rfl | hmem
      · rfl
      · have hl := (List.pairwise_cons.1 hks).1 k hmem
        have hkl := Std.OrientedCmp.isLE_antisymm (hk l List.mem_cons_self) hl
        rw [SuiteId.compare_eq_iff.1 hkl, List.head?_cons]

end Repeats

section Heads

variable {settings : Settings} {targets : List Target} {names : List String} {i : SuiteId}

theorem mem_groupHeads :
    i ∈ groupHeads settings targets names ↔
      ∃ g ∈ names, i.Heads settings (targets.flatMap Target.candidates) g := by
  simp only [groupHeads, mem_dropRepeats, List.mem_mergeSort, List.mem_map, List.mem_filterMap,
    SuiteId.Heads]
  constructor
  · rintro ⟨c, ⟨g, hg, hc⟩, rfl⟩
    exact ⟨g, hg, c, leads_of_head? hc, rfl⟩
  · rintro ⟨g, hg, c, hc, rfl⟩
    obtain ⟨d, hd, hid⟩ := exists_head?_of_leads hc
    exact ⟨d, ⟨g, hg, hd⟩, hid⟩

theorem pairwise_groupHeads (settings : Settings) (targets : List Target) (names : List String) :
    (groupHeads settings targets names).Pairwise fun a b => a.compare b = .lt :=
  pairwise_dropRepeats (pairwise_mergeSort_cmp SuiteId.compare _)

theorem nodup_groupHeads (settings : Settings) (targets : List Target) (names : List String) :
    (groupHeads settings targets names).Nodup := by
  refine (pairwise_groupHeads settings targets names).imp fun hab => ?_
  rintro rfl
  simp [Std.ReflCmp.compare_self] at hab

theorem length_groupHeads_le (settings : Settings) (targets : List Target) (names : List String) :
    (groupHeads settings targets names).length ≤ names.length := by
  have hfound := List.length_filterMap_le (fun g => (groupOf settings targets g).head?) names
  have hsorted : ∀ is : List SuiteId,
      (dropRepeats (is.mergeSort fun a b => a.compare b != .gt)).length ≤ is.length := fun is => by
    simpa using length_dropRepeats_le (is.mergeSort fun a b => a.compare b != .gt)
  exact Nat.le_trans (hsorted _) (by simpa using hfound)

end Heads

end Presubmit
