import Mathlib.Data.List.Forall2

/-! A step that may fail, taken along a list. -/
namespace Presubmit

variable {ε α β : Type}

theorem bind_eq_ok_iff {a : Except ε α} {f : α → Except ε β} {y : β} :
    (a >>= f) = .ok y ↔ ∃ x, a = .ok x ∧ f x = .ok y := by
  cases a <;> simp [bind, Except.bind]

theorem bind_eq_error_iff {a : Except ε α} {f : α → Except ε β} {e : ε} :
    (a >>= f) = .error e ↔ a = .error e ∨ ∃ x, a = .ok x ∧ f x = .error e := by
  cases a <;> simp [bind, Except.bind]

theorem map_eq_ok_iff {a : Except ε α} {f : α → β} {y : β} :
    a.map f = .ok y ↔ ∃ x, a = .ok x ∧ f x = y := by
  cases a <;> simp [Except.map]

theorem map_eq_error_iff {a : Except ε α} {f : α → β} {e : ε} :
    a.map f = .error e ↔ a = .error e := by
  cases a <;> simp [Except.map]

theorem mapError_eq_ok_iff {δ : Type} {a : Except ε α} {f : ε → δ} {x : α} :
    a.mapError f = .ok x ↔ a = .ok x := by
  cases a with
  | error e => exact ⟨nofun, nofun⟩
  | ok y =>
    constructor
    · intro h
      cases h
      rfl
    · intro h
      cases h
      rfl

theorem exists_eq_ok_iff {a : Except ε α} : (∃ x, a = .ok x) ↔ ∀ e, a ≠ .error e := by
  cases a <;> simp

theorem mapM_eq_ok_iff {f : α → Except ε β} {xs : List α} {ys : List β} :
    xs.mapM f = .ok ys ↔ List.Forall₂ (fun x y => f x = .ok y) xs ys := by
  induction xs generalizing ys with
  | nil => simp [pure, Except.pure, eq_comm]
  | cons x xs ih =>
    simp only [List.mapM_cons, bind_eq_ok_iff, ih, List.forall₂_cons_left_iff, pure, Except.pure,
      Except.ok.injEq]
    constructor
    · rintro ⟨y, hy, zs, hzs, rfl⟩
      exact ⟨y, zs, hy, hzs, rfl⟩
    · rintro ⟨y, zs, hy, hzs, rfl⟩
      exact ⟨y, hy, zs, hzs, rfl⟩

/-- What comes out is what the step makes of something that went in. -/
theorem mem_of_mapM_eq_ok {f : α → Except ε β} {xs : List α} {ys : List β}
    (h : xs.mapM f = .ok ys) {y : β} : y ∈ ys ↔ ∃ x ∈ xs, f x = .ok y := by
  have hf := mapM_eq_ok_iff.1 h
  clear h
  induction hf with
  | nil => simp
  | cons hx _ ih =>
    rw [List.mem_cons, List.exists_mem_cons_iff, hx, Except.ok.injEq]
    exact or_congr eq_comm ih

theorem exists_of_mapM_eq_ok {f : α → Except ε β} {xs : List α} {ys : List β}
    (h : xs.mapM f = .ok ys) {x : α} (hx : x ∈ xs) : ∃ y ∈ ys, f x = .ok y := by
  have hf := mapM_eq_ok_iff.1 h
  clear h
  induction hf with
  | nil => exact absurd hx List.not_mem_nil
  | cons hy _ ih =>
    rcases List.mem_cons.1 hx with rfl | hx
    · exact ⟨_, List.mem_cons_self, hy⟩
    · obtain ⟨y, hmem, hxy⟩ := ih hx
      exact ⟨y, List.mem_cons_of_mem _ hmem, hxy⟩

/-- A step whose result does not depend on the position succeeds on the whole list exactly if it
does so on every element. -/
theorem mapM_zipIdx_eq_ok_iff {f : α × Nat → Except ε β} {p : α → Prop} {g : α → β}
    (h : ∀ x i y, f (x, i) = .ok y ↔ p x ∧ y = g x) {xs : List α} {n : Nat} {ys : List β} :
    (xs.zipIdx n).mapM f = .ok ys ↔ (∀ x ∈ xs, p x) ∧ ys = xs.map g := by
  induction xs generalizing n ys with
  | nil => simp [pure, Except.pure, eq_comm]
  | cons x xs ih =>
    simp only [List.zipIdx_cons, List.mapM_cons, bind_eq_ok_iff, h, ih, pure, Except.pure,
      Except.ok.injEq, List.forall_mem_cons, List.map_cons]
    constructor
    · rintro ⟨_, ⟨hx, rfl⟩, _, ⟨hxs, rfl⟩, rfl⟩
      exact ⟨⟨hx, hxs⟩, rfl⟩
    · rintro ⟨⟨hx, hxs⟩, rfl⟩
      exact ⟨_, ⟨hx, rfl⟩, _, ⟨hxs, rfl⟩, rfl⟩

theorem exists_mapM_eq_ok {f : α → Except ε β} {xs : List α} (h : ∀ x ∈ xs, ∃ y, f x = .ok y) :
    ∃ ys, xs.mapM f = .ok ys := by
  induction xs with
  | nil => exact ⟨[], rfl⟩
  | cons x xs ih =>
    obtain ⟨⟨y, hy⟩, hxs⟩ := List.forall_mem_cons.1 h
    obtain ⟨ys, hys⟩ := ih hxs
    rw [mapM_eq_ok_iff] at hys
    exact ⟨y :: ys, mapM_eq_ok_iff.2 (.cons hy hys)⟩

theorem mapM_append_eq_ok_iff {f : α → Except ε β} {xs ys : List α} {zs : List β} :
    (xs ++ ys).mapM f = .ok zs ↔
      ∃ us vs, xs.mapM f = .ok us ∧ ys.mapM f = .ok vs ∧ zs = us ++ vs := by
  simp only [List.mapM_append, bind_eq_ok_iff, pure, Except.pure, Except.ok.injEq]
  constructor
  · intro h
    obtain ⟨us, hus, vs, hvs, rfl⟩ := h
    exact ⟨us, vs, hus, hvs, rfl⟩
  · intro h
    obtain ⟨us, vs, hus, hvs, rfl⟩ := h
    exact ⟨us, hus, vs, hvs, rfl⟩

/-- The fault of the first element that has one. Elements are numbered from the given number on. -/
inductive FirstFault (fault : Nat → α → ε → Prop) : Nat → List α → ε → Prop where
  | here {i : Nat} {x : α} {xs : List α} {e : ε} : fault i x e → FirstFault fault i (x :: xs) e
  | later {i : Nat} {x : α} {xs : List α} {e : ε} : (∀ d, ¬ fault i x d) →
      FirstFault fault (i + 1) xs e → FirstFault fault i (x :: xs) e

theorem FirstFault.exists_mem {fault : Nat → α → ε → Prop} {n : Nat} {xs : List α} {e : ε}
    (h : FirstFault fault n xs e) : ∃ i, ∃ x ∈ xs, fault i x e := by
  induction h with
  | here hx => exact ⟨_, _, List.mem_cons_self, hx⟩
  | later _ _ ih =>
    obtain ⟨i, x, hx, hfault⟩ := ih
    exact ⟨i, x, List.mem_cons_of_mem _ hx, hfault⟩

theorem exists_firstFault_iff {fault : α → ε → Prop} {n : Nat} {xs : List α} :
    (∃ e, FirstFault (fun _ => fault) n xs e) ↔ ∃ x ∈ xs, ∃ e, fault x e := by
  constructor
  · intro h
    obtain ⟨e, he⟩ := h
    obtain ⟨_, x, hx, hfault⟩ := he.exists_mem
    exact ⟨x, hx, e, hfault⟩
  · intro h
    obtain ⟨x, hx, d, hd⟩ := h
    induction xs generalizing n with
    | nil => exact absurd hx List.not_mem_nil
    | cons y ys ih =>
      by_cases hy : ∃ e, fault y e
      · obtain ⟨e, he⟩ := hy
        exact ⟨e, .here he⟩
      · rcases List.mem_cons.1 hx with rfl | hx
        · exact absurd ⟨d, hd⟩ hy
        · obtain ⟨e, he⟩ := ih hx (n := n + 1)
          exact ⟨e, .later (fun e he => hy ⟨e, he⟩) he⟩

/-- The first step that fails decides, and no later one is taken. -/
theorem mapM_zipIdx_eq_error_iff {f : α × Nat → Except ε β} {fault : Nat → α → ε → Prop}
    (h : ∀ x i e, f (x, i) = .error e ↔ fault i x e) {xs : List α} {n : Nat} {e : ε} :
    (xs.zipIdx n).mapM f = .error e ↔ FirstFault fault n xs e := by
  induction xs generalizing n with
  | nil =>
    constructor
    · intro hnil
      cases hnil
    · intro hfault
      cases hfault
  | cons x xs ih =>
    rw [List.zipIdx_cons, List.mapM_cons, bind_eq_error_iff, h]
    constructor
    · rintro (hx | ⟨y, hy, hrest⟩)
      · exact .here hx
      · have hsound : ∀ d, ¬ fault n x d := by
          intro d hd
          rw [← h, hy] at hd
          cases hd
        rw [bind_eq_error_iff] at hrest
        rcases hrest with hrest | ⟨_, _, hpure⟩
        · exact .later hsound (ih.1 hrest)
        · cases hpure
    · intro hfault
      cases hfault with
      | here hx => exact .inl hx
      | later hsound hrest =>
        have hok : ∃ y, f (x, n) = .ok y := exists_eq_ok_iff.2 fun d hd => hsound d ((h x n d).1 hd)
        obtain ⟨y, hy⟩ := hok
        exact .inr ⟨y, hy, bind_eq_error_iff.2 (.inl (ih.2 hrest))⟩

theorem mapM_eq_error_iff {f : α → Except ε β} {fault : α → ε → Prop}
    (h : ∀ x e, f x = .error e ↔ fault x e) {xs : List α} {n : Nat} {e : ε} :
    xs.mapM f = .error e ↔ FirstFault (fun _ => fault) n xs e := by
  have hnumbered : xs.mapM f = (xs.zipIdx n).mapM (f ∘ Prod.fst) := by
    conv_lhs => rw [← List.zipIdx_map_fst n xs, List.mapM_map]
  rw [hnumbered, mapM_zipIdx_eq_error_iff fun x _ e => h x e]

/-- Elements that contribute nothing may be left out beforehand. -/
theorem flatten_mapM_filter {f g : α → Except ε (List β)} {keep : α → Bool}
    (hkeep : ∀ x, keep x = true → f x = g x) (hdrop : ∀ x, keep x = false → f x = .ok [])
    (xs : List α) :
    (xs.mapM f).map List.flatten = ((xs.filter keep).mapM g).map List.flatten := by
  have hcons : ∀ (ys : List β) (zs : Except ε (List (List β))),
      (zs >>= fun zs => pure (ys :: zs)).map List.flatten =
        (zs.map List.flatten).map (ys ++ ·) := by
    intro ys zs
    cases zs <;> rfl
  induction xs with
  | nil => rfl
  | cons x xs ih =>
    rw [List.mapM_cons]
    cases hx : keep x with
    | true =>
      rw [List.filter_cons_of_pos hx, List.mapM_cons, hkeep x hx]
      cases g x with
      | error e => rfl
      | ok ys =>
        show (xs.mapM f >>= fun zs => pure (ys :: zs)).map List.flatten =
          ((xs.filter keep).mapM g >>= fun zs => pure (ys :: zs)).map List.flatten
        rw [hcons, hcons, ih]
    | false =>
      have hfilter : (x :: xs).filter keep = xs.filter keep := by simp [hx]
      rw [hfilter, hdrop x hx, ← ih]
      show (xs.mapM f >>= fun zs => pure ([] :: zs)).map List.flatten = _
      rw [hcons]
      cases xs.mapM f <;> rfl

end Presubmit
