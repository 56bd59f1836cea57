/-! Finite sets of strings. The members are listed in strictly ascending order of code points, so
two sets with the same members are equal. -/
namespace Presubmit

structure Names where
  toList : List String
  ascending : toList.Pairwise (· < ·)
deriving DecidableEq

namespace Names

instance : EmptyCollection Names := ⟨⟨[], .nil⟩⟩

instance : Inhabited Names := ⟨∅⟩

instance : Membership String Names := ⟨fun s x => x ∈ s.toList⟩

instance (x : String) (s : Names) : Decidable (x ∈ s) :=
  inferInstanceAs (Decidable (x ∈ s.toList))

instance (s : Names) (q : String → Prop) [DecidablePred q] : Decidable (∃ x ∈ s, q x) :=
  inferInstanceAs (Decidable (∃ x ∈ s.toList, q x))

private def place (x : String) : List String → List String
  | [] => [x]
  | y :: ys => if x < y then x :: y :: ys else if y < x then y :: place x ys else y :: ys

private theorem mem_place {x z : String} {ys : List String} :
    z ∈ place x ys ↔ z = x ∨ z ∈ ys := by
  induction ys with
  | nil => simp [place]
  | cons y ys ih =>
    by_cases hxy : x < y
    · simp [place, hxy]
    · by_cases hyx : y < x
      · simp only [place, hxy, hyx, if_true, if_false, List.mem_cons, ih]
        grind
      · obtain rfl : x = y := String.le_antisymm (String.not_lt.1 hyx) (String.not_lt.1 hxy)
        simp [place]

private theorem pairwise_place {x : String} {ys : List String} (h : ys.Pairwise (· < ·)) :
    (place x ys).Pairwise (· < ·) := by
  induction ys with
  | nil => simp [place]
  | cons y ys ih =>
    obtain ⟨hy, hys⟩ := List.pairwise_cons.1 h
    by_cases hxy : x < y
    · simp only [place, hxy, if_true]
      refine List.pairwise_cons.2 ⟨fun z hz => ?_, h⟩
      rcases List.mem_cons.1 hz with rfl | hz
      · exact hxy
      · exact String.lt_trans hxy (hy z hz)
    · by_cases hyx : y < x
      · simp only [place, hxy, hyx, if_true, if_false]
        refine List.pairwise_cons.2 ⟨fun z hz => ?_, ih hys⟩
        rcases mem_place.1 hz with rfl | hz
        · exact hyx
        · exact hy z hz
      · simpa only [place, hxy, hyx, if_false] using h

def insert (s : Names) (x : String) : Names :=
  ⟨place x s.toList, pairwise_place s.ascending⟩

def ofList (xs : List String) : Names :=
  xs.foldr (fun x s => s.insert x) ∅

def union (s t : Names) : Names :=
  t.toList.foldr (fun x u => u.insert x) s

def isEmpty (s : Names) : Bool :=
  s.toList.isEmpty

def size (s : Names) : Nat :=
  s.toList.length

@[simp] theorem mem_empty {x : String} : ¬ x ∈ (∅ : Names) :=
  List.not_mem_nil

@[simp] theorem mem_insert {s : Names} {x z : String} : z ∈ s.insert x ↔ z = x ∨ z ∈ s :=
  mem_place

@[simp] theorem mem_ofList {xs : List String} {z : String} : z ∈ ofList xs ↔ z ∈ xs := by
  induction xs with
  | nil => simp [ofList]
  | cons x xs ih => simpa [ofList] using or_congr_right ih

@[simp] theorem mem_toList {s : Names} {z : String} : z ∈ s.toList ↔ z ∈ s := Iff.rfl

@[simp] theorem mem_union {s t : Names} {z : String} : z ∈ s.union t ↔ z ∈ s ∨ z ∈ t := by
  have h : ∀ xs : List String,
      z ∈ xs.foldr (fun x u => u.insert x) s ↔ z ∈ s ∨ z ∈ xs := by
    intro xs
    induction xs with
    | nil => simp
    | cons x xs ih =>
      rw [List.foldr_cons, mem_insert, ih, List.mem_cons]
      grind
  exact h t.toList

theorem nodup_toList (s : Names) : s.toList.Nodup := by
  refine s.ascending.imp fun hxy => ?_
  rintro rfl
  exact String.lt_irrefl _ hxy

/-- Names with the same members are the same. -/
theorem ext {s t : Names} (h : ∀ x, x ∈ s ↔ x ∈ t) : s = t := by
  have hp : s.toList.Perm t.toList :=
    (List.perm_ext_iff_of_nodup s.nodup_toList t.nodup_toList).2 h
  have he : s.toList = t.toList := by
    refine List.Perm.eq_of_pairwise (fun x y _ _ hxy hyx => ?_) s.ascending t.ascending hp
    exact absurd (String.lt_trans hxy hyx) (String.lt_irrefl x)
  cases s
  cases t
  cases he
  rfl

theorem eq_empty_iff {s : Names} : s = ∅ ↔ ∀ x, ¬ x ∈ s := by
  constructor
  · rintro rfl x
    exact mem_empty
  · intro h
    exact ext fun x => by simp [h x]

theorem isEmpty_iff {s : Names} : s.isEmpty = true ↔ s = ∅ := by
  constructor
  · intro h
    refine eq_empty_iff.2 fun x hx => ?_
    have hs : s.toList = [] := List.isEmpty_iff.1 h
    exact List.not_mem_nil (hs ▸ mem_toList.2 hx)
  · rintro rfl
    rfl

end Names

end Presubmit
