import Mathlib.Data.List.Infix
import Mathlib.Data.List.TakeWhile
import Mathlib.Tactic.Conv
import Presubmit.Path.Containment

/-! Containment said of characters. A path lies under a directory if it goes on with a slash after
the trimmed name of the directory, or is that name. -/
namespace Presubmit.Path

theorem exists_eq_dropTrailing_append (cs : List Char) :
    ∃ slashes, cs = dropTrailing cs ++ List.replicate slashes '/' := by
  let trailing := cs.reverse.takeWhile (· == '/')
  have hslashes : trailing = List.replicate trailing.length '/' :=
    List.eq_replicate_of_mem fun c hc => by simpa using List.mem_takeWhile_imp hc
  refine ⟨trailing.length, ?_⟩
  calc
    cs = (trailing ++ cs.reverse.dropWhile (· == '/')).reverse := by
      rw [List.takeWhile_append_dropWhile, List.reverse_reverse]
    _ = dropTrailing cs ++ trailing.reverse := List.reverse_append
    _ = dropTrailing cs ++ List.replicate trailing.length '/' := by
      conv_lhs => rw [hslashes, List.reverse_replicate]

/-- Text that does not end with a slash is not trimmed. -/
theorem dropTrailing_of_getLast? {cs : List Char} (h : cs.getLast? ≠ some '/') :
    dropTrailing cs = cs := by
  obtain ⟨n, hn⟩ := exists_eq_dropTrailing_append cs
  cases n with
  | zero =>
    rw [List.replicate_zero, List.append_nil] at hn
    exact hn.symm
  | succ n =>
    have hlast : cs.getLast? = some '/' := by
      rw [hn, List.replicate_succ', ← List.append_assoc, List.getLast?_concat]
    exact absurd hlast h

theorem isUnder_iff {path dir : String} :
    isUnder path dir = true ↔
      dropTrailing dir.toList = [] ∨ path.toList = dropTrailing dir.toList ∨
        ∃ below, path.toList = dropTrailing dir.toList ++ '/' :: below := by
  unfold isUnder
  cases htrimmed : dropTrailing dir.toList with
  | nil => simp
  | cons d ds =>
    rw [or_iff_right (List.cons_ne_nil d ds)]
    dsimp only
    cases hrest : (d :: ds).isPrefixOf? path.toList with
    | none =>
      have hno : ∀ rest, path.toList ≠ d :: ds ++ rest := by
        intro rest heq
        have hsome : (d :: ds).isPrefixOf? path.toList = some rest :=
          List.isPrefixOf?_eq_some_iff_append_eq.2 heq.symm
        exact absurd (hrest.symm.trans hsome) (by simp)
      have hnot : path.toList ≠ d :: ds := fun heq => hno [] (heq.trans (List.append_nil _).symm)
      simp only [Bool.false_eq_true, hnot, false_or, false_iff, not_exists]
      exact fun below => hno ('/' :: below)
    | some rest =>
      have hpath : path.toList = d :: ds ++ rest :=
        (List.isPrefixOf?_eq_some_iff_append_eq.1 hrest).symm
      rw [hpath]
      cases rest with
      | nil => simp
      | cons c below => simp

/-- Every file of a directory lies under it, however the two are written. -/
theorem isUnder_child (dir file : String) : isUnder (child dir file) dir = true := by
  refine isUnder_iff.2 (.inr (.inr ⟨(trimStart file).toList, ?_⟩))
  simp [child, trimEnd, String.toList_append]

end Presubmit.Path
