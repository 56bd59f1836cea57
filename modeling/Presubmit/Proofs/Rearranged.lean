import Mathlib.Data.List.Perm.Basic

/-! Lists that match up to their order. -/
namespace Presubmit

variable {α β γ δ : Type} {R : α → β → Prop} {S : γ → δ → Prop}

/-- Once the first list is put in another order, the elements are related one by one. -/
def Rearranged (R : α → β → Prop) (xs : List α) (ys : List β) : Prop :=
  ∃ zs, xs.Perm zs ∧ List.Forall₂ R zs ys

namespace Rearranged

variable {xs : List α} {ys : List β}

theorem of_forall₂ (h : List.Forall₂ R xs ys) : Rearranged R xs ys :=
  ⟨xs, .refl xs, h⟩

/-- The second list may be the reordered one as well. -/
theorem flip (h : Rearranged R xs ys) : Rearranged (Function.swap R) ys xs := by
  obtain ⟨zs, hperm, hrel⟩ := h
  obtain ⟨ws, hws, hperm⟩ := List.perm_comp_forall₂ hperm hrel
  exact ⟨ws, hperm.symm, hws.flip⟩

theorem mono {R' : α → β → Prop} (h : Rearranged R xs ys) (hR : ∀ x y, R x y → R' x y) :
    Rearranged R' xs ys := by
  obtain ⟨zs, hperm, hrel⟩ := h
  exact ⟨zs, hperm, hrel.imp hR⟩

theorem length_eq (h : Rearranged R xs ys) : xs.length = ys.length := by
  obtain ⟨zs, hperm, hrel⟩ := h
  exact hperm.length_eq.trans hrel.length_eq

theorem eq_nil_iff (h : Rearranged R xs ys) : xs = [] ↔ ys = [] := by
  rw [← List.length_eq_zero_iff, h.length_eq, List.length_eq_zero_iff]

theorem exists_of_mem (h : Rearranged R xs ys) {x : α} (hx : x ∈ xs) : ∃ y ∈ ys, R x y := by
  obtain ⟨zs, hperm, hrel⟩ := h
  have hx : x ∈ zs := hperm.mem_iff.1 hx
  clear hperm
  induction hrel with
  | nil => exact absurd hx List.not_mem_nil
  | @cons z y zs ys hzy _ ih =>
    rcases List.mem_cons.1 hx with rfl | hx
    · exact ⟨y, List.mem_cons_self, hzy⟩
    · obtain ⟨y', hy', hxy'⟩ := ih hx
      exact ⟨y', List.mem_cons_of_mem y hy', hxy'⟩

theorem map {f : α → γ} {g : β → δ} (h : Rearranged R xs ys)
    (hfg : ∀ ⦃x y⦄, R x y → S (f x) (g y)) :
    Rearranged S (xs.map f) (ys.map g) := by
  obtain ⟨zs, hperm, hrel⟩ := h
  exact ⟨zs.map f, hperm.map f, List.rel_map hfg hrel⟩

theorem filter {p : α → Bool} {q : β → Bool} (h : Rearranged R xs ys)
    (hpq : ∀ ⦃x y⦄, R x y → (p x = true ↔ q y = true)) :
    Rearranged R (xs.filter p) (ys.filter q) := by
  obtain ⟨zs, hperm, hrel⟩ := h
  exact ⟨zs.filter p, hperm.filter p, List.rel_filter hpq hrel⟩

theorem filterMap {f : α → Option γ} {g : β → Option δ} (h : Rearranged R xs ys)
    (hfg : ∀ ⦃x y⦄, R x y → Option.Rel S (f x) (g y)) :
    Rearranged S (xs.filterMap f) (ys.filterMap g) := by
  obtain ⟨zs, hperm, hrel⟩ := h
  exact ⟨zs.filterMap f, hperm.filterMap f, List.rel_filterMap hfg hrel⟩

theorem append {xs' : List α} {ys' : List β} (h : Rearranged R xs ys) (h' : Rearranged R xs' ys') :
    Rearranged R (xs ++ xs') (ys ++ ys') := by
  obtain ⟨zs, hperm, hrel⟩ := h
  obtain ⟨zs', hperm', hrel'⟩ := h'
  exact ⟨zs ++ zs', hperm.append hperm', List.rel_append hrel hrel'⟩

theorem flatMap {f : α → List γ} {g : β → List δ} (h : Rearranged R xs ys)
    (hfg : ∀ ⦃x y⦄, R x y → Rearranged S (f x) (g y)) :
    Rearranged S (xs.flatMap f) (ys.flatMap g) := by
  obtain ⟨zs, hperm, hrel⟩ := h
  suffices hzs : Rearranged S (zs.flatMap f) (ys.flatMap g) by
    obtain ⟨ws, hws, hwsrel⟩ := hzs
    exact ⟨ws, (hperm.flatMap_right f).trans hws, hwsrel⟩
  clear hperm
  induction hrel with
  | nil => exact of_forall₂ .nil
  | cons hxy _ ih => exact (hfg hxy).append ih

end Rearranged

end Presubmit
