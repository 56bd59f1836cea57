import Presubmit.Suite.Group

/-! The laws of the preference order: a total preorder that never takes two suites of different
identity for equal. -/
namespace Presubmit

/-- Sorting by a comparison leaves nothing before what compares less. -/
theorem pairwise_mergeSort_cmp {α : Type} (cmp : α → α → Ordering) [Std.TransCmp cmp]
    (xs : List α) :
    (xs.mergeSort fun a b => cmp a b != .gt).Pairwise fun a b => (cmp a b).isLE := by
  have hle : ∀ a b, (cmp a b != .gt) = (cmp a b).isLE := fun a b => by
    cases cmp a b <;> rfl
  have htotal : ∀ a b, ((cmp a b).isLE || (cmp b a).isLE) = true := fun a b => by
    have hswap : cmp b a = (cmp a b).swap := Std.OrientedCmp.eq_swap
    rw [hswap]
    cases cmp a b <;> rfl
  simp only [hle]
  exact List.pairwise_mergeSort (fun a b c => Std.TransCmp.isLE_trans) htotal xs

/-- The laws of a comparison that ranks: no sort by it meets a contradiction, and what differs in
its identity is never taken for equal. -/
structure RankingLaws {α ι : Type} (cmp : α → α → Ordering) (identity : α → ι) : Prop where
  refl (a : α) : cmp a a = .eq
  swap (a b : α) : cmp b a = (cmp a b).swap
  trans (a b c : α) : cmp a b ≠ .gt → cmp b c ≠ .gt → cmp a c ≠ .gt
  strict (a b c : α) : cmp a b ≠ .gt → cmp b c ≠ .gt → cmp a b = .lt ∨ cmp b c = .lt → cmp a c = .lt
  faithful (a b : α) : cmp a b = .eq → identity a = identity b
  decides (a b : α) : identity a ≠ identity b → cmp a b = .lt ∨ cmp b a = .lt

theorem RankingLaws.of_transCmp {α ι : Type} {cmp : α → α → Ordering} [Std.TransCmp cmp]
    {identity : α → ι} (h : ∀ a b, cmp a b = .eq → identity a = identity b) :
    RankingLaws cmp identity where
  refl a := Std.ReflCmp.compare_self
  swap a b := Std.OrientedCmp.eq_swap
  trans a b c hab hbc := by
    have hle := Std.TransCmp.isLE_trans (Ordering.ne_gt_iff_isLE.1 hab)
      (Ordering.ne_gt_iff_isLE.1 hbc)
    exact Ordering.ne_gt_iff_isLE.2 hle
  strict a b c hab hbc hlt := by
    rcases hlt with hlt | hlt
    · exact Std.TransCmp.lt_of_lt_of_isLE hlt (Ordering.ne_gt_iff_isLE.1 hbc)
    · exact Std.TransCmp.lt_of_isLE_of_lt (Ordering.ne_gt_iff_isLE.1 hab) hlt
  faithful := h
  decides a b hne := by
    cases hab : cmp a b with
    | lt => exact .inl rfl
    | eq => exact absurd (h a b hab) hne
    | gt => exact .inr (Std.OrientedCmp.lt_of_gt hab)

theorem SuiteKind.rank_inj {k l : SuiteKind} : k.rank = l.rank ↔ k = l := by
  cases k <;> cases l <;> decide

theorem Build.Id.compare_eq_iff {a b : Build.Id} : a.compare b = .eq ↔ a = b := by
  cases a
  cases b
  simp [Build.Id.compare, Ordering.then_eq_eq]

namespace Candidate

variable {settings : Settings} {a b c : Candidate}

/-- Boards count between hardware suites only, so all other suites have one score. -/
def boardScore (settings : Settings) (c : Candidate) : Int :=
  if c.kind.isVirtual then 0 else (settings.priorityOf c.board).toInt

/-- The preference order as the comparison of one property after the other. -/
private def lexicographic (settings : Settings) : Candidate → Candidate → Ordering :=
  compareLex (compareOn fun c => !c.critical) <|
  compareLex (compareOn fun c => !c.buildCritical) <|
  compareLex (compareOn fun c => !c.kind.isVirtual) <|
  compareLex (compareOn (boardScore settings)) <|
  compareLex (compareOn fun c => c.common.name) <|
  compareLex (compareOn fun c => c.build.target) <|
  compareLex (compareOn fun c => c.build.builder) (compareOn fun c => c.kind.rank)

private theorem compare_not (x y : Bool) : Ord.compare (!x) (!y) = Ord.compare y x := by
  cases x <;> cases y <;> rfl

/-- Comparing boards alone is not transitive. It is so after the kinds have been compared. -/
private theorem compareBoards_after_kinds (settings : Settings) (a b : Candidate) (o : Ordering) :
    (Ord.compare b.kind.isVirtual a.kind.isVirtual).then ((compareBoards settings a b).then o) =
      (Ord.compare b.kind.isVirtual a.kind.isVirtual).then
        ((Ord.compare (boardScore settings a) (boardScore settings b)).then o) := by
  cases ha : a.kind.isVirtual <;> cases hb : b.kind.isVirtual <;>
    simp [compareBoards, boardScore, ha, hb] <;> rfl

private theorem compare_eq_lexicographic (settings : Settings) :
    compare settings = lexicographic settings := by
  funext a b
  simp only [compare, lexicographic, compareLex, compareOn, compare_not, Build.Id.compare,
    compareBoards_after_kinds, Ordering.then_assoc]

instance : Std.TransCmp (compare settings) := by
  rw [compare_eq_lexicographic]
  unfold lexicographic
  infer_instance

theorem compare_self : compare settings a a = .eq := Std.ReflCmp.compare_self

/-- Suites that compare equal cannot be told apart in a plan. -/
theorem id_eq_of_compare_eq (h : compare settings a b = .eq) : a.id = b.id := by
  simp only [compare, Ordering.then_eq_eq, Build.Id.compare_eq_iff, Std.compare_eq_iff_eq,
    SuiteKind.rank_inj] at h
  obtain ⟨-, -, -, -, hname, hbuild, hkind⟩ := h
  simp [id, hname, hbuild, hkind]

/-- Preference is a total preorder, whatever the priorities of boards, and ranks any two suites that
differ in build, kind or name. -/
theorem compare_rankingLaws (settings : Settings) : RankingLaws (compare settings) Candidate.id :=
  .of_transCmp fun _ _ => id_eq_of_compare_eq

end Candidate

namespace SuiteId

instance : Std.TransCmp compare := by
  have h : compare =
      compareLex (compareOn fun i : SuiteId => i.build.target) (
      compareLex (compareOn fun i => i.build.builder) (
      compareLex (compareOn fun i => i.kind.rank) (compareOn fun i => i.name))) := by
    funext a b
    simp only [compare, Build.Id.compare, compareLex, compareOn, Ordering.then_assoc]
  rw [h]
  infer_instance

theorem compare_eq_iff {a b : SuiteId} : a.compare b = .eq ↔ a = b := by
  cases a
  cases b
  simp [compare, Ordering.then_eq_eq, Build.Id.compare_eq_iff, SuiteKind.rank_inj]

end SuiteId

end Presubmit
