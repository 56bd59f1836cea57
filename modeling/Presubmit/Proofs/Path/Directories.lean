import Mathlib.Data.List.DropRight
import Presubmit.Path.Components
import Presubmit.Proofs.Path.Containment

/-! Containment said of components. A directory holds the paths whose first components are those of
its name without trailing slashes, so that directories are ordered by what they hold, and two that
hold each other differ in trailing slashes alone. -/
namespace Presubmit.Path

section Trimming

variable {cs ds : List Char}

theorem dropTrailing_eq_rdropWhile (cs : List Char) :
    dropTrailing cs = cs.rdropWhile (· == '/') := rfl

theorem getLast?_dropTrailing (cs : List Char) : (dropTrailing cs).getLast? ≠ some '/' := by
  intro h
  have hne : cs.rdropWhile (· == '/') ≠ [] := by
    intro hnil
    rw [dropTrailing_eq_rdropWhile, hnil] at h
    cases h
  rw [dropTrailing_eq_rdropWhile, List.getLast?_eq_some_getLast hne, Option.some.injEq] at h
  have hlast := List.rdropWhile_last_not (· == '/') cs hne
  rw [h] at hlast
  exact hlast rfl

theorem dropTrailing_dropTrailing (cs : List Char) :
    dropTrailing (dropTrailing cs) = dropTrailing cs :=
  dropTrailing_of_getLast? (getLast?_dropTrailing cs)

theorem dropTrailing_concat_slash (cs : List Char) :
    dropTrailing (cs ++ ['/']) = dropTrailing cs :=
  List.rdropWhile_concat_pos _ _ _ rfl

theorem isPrefix_of_append_slashes {slashes : Nat} (hlast : ds.getLast? ≠ some '/')
    (h : ds <+: cs ++ List.replicate slashes '/') : ds <+: cs := by
  induction slashes with
  | zero => rwa [List.replicate_zero, List.append_nil] at h
  | succ n ih =>
    rw [List.replicate_succ', ← List.append_assoc, List.prefix_concat_iff] at h
    rcases h with rfl | h
    · rw [List.getLast?_concat] at hlast
      exact absurd rfl hlast
    · exact ih h

end Trimming

section Components

variable {cs ds : List Char}

theorem components_isPrefix_iff :
    components ds <+: components cs ↔ cs = ds ∨ ∃ below, cs = ds ++ '/' :: below := by
  constructor
  · rintro ⟨more, hmore⟩
    by_cases hend : more = []
    · rw [hend, List.append_nil] at hmore
      exact .inl (by rw [← join_components cs, ← hmore, join_components])
    · refine .inr ⟨join more, ?_⟩
      rw [← join_components cs, ← hmore, join_append (components_ne_nil ds) hend, join_components]
  · rintro (rfl | ⟨below, rfl⟩)
    · exact List.prefix_refl _
    · rw [components_append]
      exact List.prefix_append _ _

theorem eq_nil_of_components_isPrefix (h : components ds <+: components []) : ds = [] := by
  rcases components_isPrefix_iff.1 h with hnil | ⟨below, hbelow⟩
  · exact hnil.symm
  · exact absurd hbelow (by simp)

theorem components_dropTrailing_isPrefix (cs : List Char) :
    components (dropTrailing cs) <+: components cs := by
  obtain ⟨slashes, hcs⟩ := exists_eq_dropTrailing_append cs
  refine components_isPrefix_iff.2 ?_
  cases slashes with
  | zero => exact .inl (hcs.trans (List.append_nil _))
  | succ n => exact .inr ⟨List.replicate n '/', hcs⟩

/-- What does not end with a slash begins text exactly if it begins the trimmed text. -/
theorem components_isPrefix_dropTrailing_iff (hlast : ds.getLast? ≠ some '/') :
    components ds <+: components (dropTrailing cs) ↔ components ds <+: components cs := by
  constructor
  · intro h
    exact h.trans (components_dropTrailing_isPrefix cs)
  · intro h
    rcases components_isPrefix_iff.1 h with rfl | ⟨below, hbelow⟩
    · rw [dropTrailing_of_getLast? hlast]
    · obtain ⟨slashes, hcs⟩ := exists_eq_dropTrailing_append cs
      have hbegins : ds <+: dropTrailing cs ++ List.replicate slashes '/' := by
        rw [← hcs, hbelow]
        exact List.prefix_append _ _
      obtain ⟨rest, hrest⟩ := isPrefix_of_append_slashes hlast hbegins
      refine components_isPrefix_iff.2 ?_
      cases rest with
      | nil => exact .inl (hrest.symm.trans (List.append_nil ds))
      | cons c rest =>
        have hsplit : ds ++ c :: (rest ++ List.replicate slashes '/') = ds ++ '/' :: below := by
          rw [← hbelow, hcs, ← hrest, List.append_assoc, List.cons_append]
        obtain ⟨hc, -⟩ := List.cons.inj (List.append_cancel_left hsplit)
        exact .inr ⟨rest, by rw [← hrest, hc]⟩

end Components

section Containment

variable {path dir outer : String}

theorem toList_trimEnd (path : String) : (trimEnd path).toList = dropTrailing path.toList :=
  String.toList_ofList

theorem isUnder_iff_components :
    isUnder path dir = true ↔ dropTrailing dir.toList = [] ∨
      components (dropTrailing dir.toList) <+: components path.toList := by
  rw [isUnder_iff, components_isPrefix_iff]

/-- Trailing slashes of the path do not count, although only those of the directory are dropped. -/
theorem isUnder_trimEnd (path dir : String) : isUnder (trimEnd path) dir = isUnder path dir := by
  rw [Bool.eq_iff_iff, isUnder_iff_components, isUnder_iff_components, toList_trimEnd,
    components_isPrefix_dropTrailing_iff (getLast?_dropTrailing _)]

theorem isUnder_dir_trimEnd (path dir : String) :
    isUnder path (trimEnd dir) = isUnder path dir := by
  unfold isUnder
  rw [toList_trimEnd, dropTrailing_dropTrailing]

theorem isUnder_self (path : String) : isUnder path path = true :=
  isUnder_iff_components.2 (.inr (components_dropTrailing_isPrefix path.toList))

theorem isUnder_trans (h : isUnder path dir = true) (hdir : isUnder dir outer = true) :
    isUnder path outer = true := by
  rw [← isUnder_trimEnd] at hdir
  rw [isUnder_iff_components] at h hdir ⊢
  rw [toList_trimEnd] at hdir
  rcases hdir with hroot | hdir
  · exact .inl hroot
  · rcases h with hroot | h
    · rw [hroot] at hdir
      exact .inl (eq_nil_of_components_isPrefix hdir)
    · exact .inr (hdir.trans h)

theorem trimEnd_eq_of_isUnder (h : isUnder path dir = true) (hdir : isUnder dir path = true) :
    trimEnd path = trimEnd dir := by
  rw [← isUnder_trimEnd, isUnder_iff_components, toList_trimEnd] at h hdir
  unfold trimEnd
  rw [String.ofList_inj]
  rcases h with hroot | h
  · rcases hdir with hroot' | hdir
    · rw [hroot, hroot']
    · rw [hroot] at hdir ⊢
      exact eq_nil_of_components_isPrefix hdir
  · rcases hdir with hroot | hdir
    · rw [hroot] at h ⊢
      exact (eq_nil_of_components_isPrefix h).symm
    · have hcomponents := hdir.eq_of_length (Nat.le_antisymm hdir.length_le h.length_le)
      rw [← join_components (dropTrailing path.toList), hcomponents, join_components]

/-- A path lies under a directory exactly if its components begin with those of the directory, the
tree root holding every path. Every path lies under itself, what lies under a directory lies under
whatever holds that, and paths lie under each other exactly if they differ in trailing slashes. -/
theorem isUnder_componentwise (path dir : String) :
    (isUnder path dir = true ↔ trimEnd dir = "" ∨
        components (trimEnd dir).toList <+: components path.toList) ∧
      isUnder path path = true ∧
      (∀ outer, isUnder path dir = true → isUnder dir outer = true → isUnder path outer = true) ∧
      (isUnder path dir = true ∧ isUnder dir path = true ↔ trimEnd path = trimEnd dir) := by
  have hroot : trimEnd dir = "" ↔ dropTrailing dir.toList = [] := String.ofList_eq_empty_iff
  refine ⟨?_, isUnder_self path, fun outer => isUnder_trans, ?_, fun h => ⟨?_, ?_⟩⟩
  · rw [isUnder_iff_components, hroot, toList_trimEnd]
  · intro h
    exact trimEnd_eq_of_isUnder h.1 h.2
  · rw [← isUnder_dir_trimEnd, ← h, isUnder_dir_trimEnd]
    exact isUnder_self path
  · rw [← isUnder_dir_trimEnd, h, isUnder_dir_trimEnd]
    exact isUnder_self dir

end Containment

end Presubmit.Path
