import Presubmit.Proofs.Glob.Matching
import Presubmit.Proofs.Glob.Texts

/-! How a pattern is written, token by token, and that it is read so. A pattern that can be read
stands for the texts of its tokens. -/
namespace Presubmit.Glob

/-- What may stand between the brackets of a class, after the mark of a negated one: a first member,
which may be a closing bracket, and members that are none. -/
structure IsClass (negated : Bool) (members : List Char) : Prop where
  ne_nil : members ≠ []
  closed : ']' ∉ members.tail
  unmarked : negated = false → members.head? ≠ some '!'

def classText (negated : Bool) (members : List Char) : List Char :=
  if negated then '!' :: members else members

def Token.ofClass (negated : Bool) (members : List Char) : Token :=
  if negated then .noneOf (classItems members) else .oneOf (classItems members)

/-- At the beginning of a component. -/
def Opens (before : Option Char) : Prop :=
  ∀ c ∈ before, c = '/'

theorem opens_iff {before : Option Char} : Opens before ↔ before.any (· != '/') = false := by
  cases before <;> simp [Opens]

instance (before : Option Char) : Decidable (Opens before) :=
  decidable_of_iff _ opens_iff.symm

/-- The tokens that text is written for, after the given character. -/
inductive Reads : Option Char → List Char → List Token → Prop where
  | nil {before : Option Char} : Reads before [] []
  | literal {before : Option Char} {c : Char} {cs : List Char} {ts : List Token} :
      c ≠ '*' ∧ c ≠ '?' ∧ c ≠ '[' → Reads (some c) cs ts → Reads before (c :: cs) (.char c :: ts)
  | anyChar {before : Option Char} {cs : List Char} {ts : List Token} :
      Reads (some '?') cs ts → Reads before ('?' :: cs) (.anyChar :: ts)
  | star {before : Option Char} {cs : List Char} {ts : List Token} :
      cs.head? ≠ some '*' → Reads (some '*') cs ts → Reads before ('*' :: cs) (.star :: ts)
  | deepEnd {before : Option Char} : Opens before → Reads before ['*', '*'] [.deepStar]
  | deepSlash {before : Option Char} {cs : List Char} {ts : List Token} :
      Opens before → Reads (some '/') cs ts →
        Reads before ('*' :: '*' :: '/' :: cs) (.deepStar :: ts)
  | brackets {before : Option Char} {negated : Bool} {members cs : List Char} {ts : List Token} :
      IsClass negated members → Reads (some ']') cs ts →
        Reads before ('[' :: (classText negated members ++ ']' :: cs))
          (.ofClass negated members :: ts)

section Scanning

variable {before : Option Char} {cs : List Char} {ts : List Token} {i start : Nat}
  {negated : Bool} {members : List Char}

theorem scan_star (h : cs.head? ≠ some '*') :
    scan .plain i before ('*' :: cs) = (scan .plain (i + 1) (some '*') cs).map (.star :: ·) := by
  cases cs with
  | nil => rfl
  | cons c cs =>
    have hc : c ≠ '*' := fun heq => h (by rw [heq]; rfl)
    rw [scan]
    · intro ds heq
      exact hc (List.cons.inj heq).1
    · intro ds heq
      exact hc (List.cons.inj heq).1

theorem scan_deepEnd (h : Opens before) :
    scan .plain i before ['*', '*'] = .ok [.deepStar] := by
  rw [scan, if_neg]
  simp [opens_iff.1 h]

theorem scan_deepSlash (h : Opens before) (cs : List Char) :
    scan .plain i before ('*' :: '*' :: '/' :: cs) =
      (scan .plain (i + 3) (some '/') cs).map (.deepStar :: ·) := by
  rw [scan, if_neg]
  simp [opens_iff.1 h]

theorem scan_bracket (cs : List Char) :
    scan .plain i before ('[' :: cs) = scan (.opened i) (i + 1) (some '[') cs := by
  rw [scan]
  · rw [if_neg (by decide), if_pos rfl]
  · decide

theorem scan_anyChar (cs : List Char) :
    scan .plain i before ('?' :: cs) = (scan .plain (i + 1) (some '?') cs).map (.anyChar :: ·) := by
  rw [scan]
  · rw [if_pos rfl]
  · decide

theorem isClass_cons_iff {c : Char} {later : List Char} :
    IsClass negated (c :: later) ↔ ']' ∉ later ∧ (negated = false → c ≠ '!') := by
  constructor
  · intro h
    exact ⟨h.closed, fun hn heq => h.unmarked hn (by rw [heq]; rfl)⟩
  · intro h
    exact ⟨List.cons_ne_nil c later, h.1, fun hn heq => h.2 hn (Option.some.inj heq)⟩

/-- Once a class has a member, the next closing bracket ends it. -/
theorem exists_closed_of_scan (hne : members ≠ [])
    (h : scan (.inside start negated members) i before cs = .ok ts) :
    ∃ later rest us j, cs = later ++ ']' :: rest ∧ ']' ∉ later ∧
      scan .plain j (some ']') rest = .ok us ∧
      ts = .ofClass negated (members.reverse ++ later) :: us := by
  induction cs generalizing i before members with
  | nil => cases h
  | cons c cs ih =>
    rw [scan] at h
    by_cases hc : c = ']'
    · subst hc
      rw [if_pos ⟨rfl, hne⟩] at h
      obtain ⟨us, hus, rfl⟩ := map_eq_ok_iff.1 h
      refine ⟨[], cs, us, i + 1, rfl, List.not_mem_nil, hus, ?_⟩
      rw [List.append_nil]
      rfl
    · rw [if_neg fun hclose => hc hclose.1] at h
      obtain ⟨later, rest, us, j, rfl, hlater, hus, rfl⟩ := ih (List.cons_ne_nil c members) h
      have hmem : ']' ∉ c :: later := by
        rw [List.mem_cons, not_or]
        exact ⟨fun heq => hc heq.symm, hlater⟩
      refine ⟨c :: later, rest, us, j, rfl, hmem, hus, ?_⟩
      rw [List.reverse_cons, List.append_assoc, List.singleton_append]

theorem scan_closed {later : List Char} (hne : members ≠ []) (hlater : ']' ∉ later)
    (rest : List Char) :
    scan (.inside start negated members) i before (later ++ ']' :: rest) =
      (scan .plain (i + later.length + 1) (some ']') rest).map
        (.ofClass negated (members.reverse ++ later) :: ·) := by
  induction later generalizing i before members with
  | nil =>
    rw [List.nil_append, List.append_nil, scan, if_pos ⟨rfl, hne⟩]
    rfl
  | cons c later ih =>
    rw [List.mem_cons, not_or] at hlater
    have hposition : i + (c :: later).length + 1 = i + 1 + later.length + 1 := by
      rw [List.length_cons]
      omega
    rw [List.cons_append, scan, if_neg fun hclose => hlater.1 hclose.1.symm,
      ih (List.cons_ne_nil c members) hlater.2, hposition, List.reverse_cons, List.append_assoc,
      List.singleton_append]

/-- After the opening bracket stand a class and its closing bracket. -/
theorem exists_class_of_scan (h : scan (.opened start) i before cs = .ok ts) :
    ∃ negated members rest us j, IsClass negated members ∧
      cs = classText negated members ++ ']' :: rest ∧
      scan .plain j (some ']') rest = .ok us ∧ ts = .ofClass negated members :: us := by
  cases cs with
  | nil => cases h
  | cons c cs =>
    rw [scan] at h
    by_cases hc : c = '!'
    · rw [if_pos hc] at h
      cases cs with
      | nil => cases h
      | cons d cs =>
        rw [scan, if_neg fun hclose => hclose.2 rfl] at h
        obtain ⟨later, rest, us, j, rfl, hlater, hus, rfl⟩ :=
          exists_closed_of_scan (List.cons_ne_nil d []) h
        have hclass : IsClass true (d :: later) :=
          isClass_cons_iff.2 ⟨hlater, fun h => absurd h (by decide)⟩
        exact ⟨true, d :: later, rest, us, j, hclass, by rw [hc]; rfl, hus, rfl⟩
    · rw [if_neg hc] at h
      obtain ⟨later, rest, us, j, rfl, hlater, hus, rfl⟩ :=
        exists_closed_of_scan (List.cons_ne_nil c []) h
      have hclass : IsClass false (c :: later) := isClass_cons_iff.2 ⟨hlater, fun _ => hc⟩
      exact ⟨false, c :: later, rest, us, j, hclass, rfl, hus, rfl⟩

theorem scan_class (hclass : IsClass negated members) (rest : List Char) :
    scan (.opened start) i before (classText negated members ++ ']' :: rest) =
      (scan .plain (i + (classText negated members).length + 1) (some ']') rest).map
        (.ofClass negated members :: ·) := by
  cases members with
  | nil => exact absurd rfl hclass.ne_nil
  | cons d later =>
    obtain ⟨hlater, hmark⟩ := isClass_cons_iff.1 hclass
    cases negated with
    | false =>
      have hposition : i + (classText false (d :: later)).length + 1 =
          i + 1 + later.length + 1 := by
        simp only [classText, Bool.false_eq_true, if_false, List.length_cons]
        omega
      show scan (.opened start) i before (d :: (later ++ ']' :: rest)) = _
      rw [scan, if_neg (hmark rfl), scan_closed (List.cons_ne_nil d []) hlater, hposition]
      rfl
    | true =>
      have hposition : i + (classText true (d :: later)).length + 1 =
          i + 1 + 1 + later.length + 1 := by
        simp only [classText, if_true, List.length_cons]
        omega
      show scan (.opened start) i before ('!' :: d :: (later ++ ']' :: rest)) = _
      rw [scan, if_pos rfl, scan, if_neg fun hclose => hclose.2 rfl,
        scan_closed (List.cons_ne_nil d []) hlater, hposition]
      rfl

theorem scan_starRun (cs : List Char) :
    scan .plain i before ('*' :: '*' :: '*' :: cs) = .error ⟨i + 2, .starRun⟩ := by
  rw [scan]

theorem scan_deepStar_late (h : ¬ Opens before) (hcs : cs.head? ≠ some '*') :
    scan .plain i before ('*' :: '*' :: cs) = .error ⟨i - 1, .partialDeepStar⟩ := by
  rw [opens_iff, Bool.not_eq_false] at h
  cases cs with
  | nil => rw [scan, if_pos h]
  | cons c cs =>
    have hstar : c ≠ '*' := fun heq => hcs (by rw [heq]; rfl)
    by_cases hslash : c = '/'
    · rw [hslash, scan, if_pos h]
    · rw [scan, if_pos h]
      · exact hslash
      · exact fun _ heq => hstar (List.cons.inj heq).1

theorem scan_deepStar_partial (h : Opens before) {c : Char} (hstar : c ≠ '*') (hslash : c ≠ '/') :
    scan .plain i before ('*' :: '*' :: c :: cs) = .error ⟨i + 2, .partialDeepStar⟩ := by
  rw [scan, if_neg]
  · rw [opens_iff.1 h]
    decide
  · exact hslash
  · exact fun _ heq => hstar (List.cons.inj heq).1

/-- Two stars are read only as a whole component. -/
theorem exists_component_of_scan (h : scan .plain i before ('*' :: '*' :: cs) = .ok ts) :
    Opens before ∧ (cs = [] ∧ ts = [.deepStar] ∨
      ∃ rest us j, cs = '/' :: rest ∧ scan .plain j (some '/') rest = .ok us ∧
        ts = .deepStar :: us) := by
  have hrun : cs.head? ≠ some '*' := by
    intro hhead
    obtain ⟨rest, rfl⟩ := List.head?_eq_some_iff.1 hhead
    rw [scan_starRun] at h
    cases h
  by_cases hopens : Opens before
  · refine ⟨hopens, ?_⟩
    cases cs with
    | nil =>
      rw [scan_deepEnd hopens] at h
      exact .inl ⟨rfl, (Except.ok.inj h).symm⟩
    | cons c cs =>
      by_cases hslash : c = '/'
      · subst hslash
        rw [scan_deepSlash hopens] at h
        obtain ⟨us, hus, rfl⟩ := map_eq_ok_iff.1 h
        exact .inr ⟨cs, us, i + 3, rfl, hus, rfl⟩
      · have hstar : c ≠ '*' := fun heq => hrun (by rw [heq]; rfl)
        rw [scan_deepStar_partial hopens hstar hslash] at h
        cases h
  · rw [scan_deepStar_late hopens hrun] at h
    cases h

theorem reads_of_scan (h : scan .plain i before cs = .ok ts) : Reads before cs ts := by
  -- a class takes many characters at once, so the induction is on the length
  induction hn : cs.length using Nat.strong_induction_on generalizing i before cs ts with
  | _ n ih =>
    subst hn
    cases cs with
    | nil =>
      cases h
      exact .nil
    | cons c cs =>
      have hnext : ∀ {j : Nat} {a : Char} {rest : List Char} {us : List Token},
          rest.length ≤ cs.length → scan .plain j (some a) rest = .ok us →
            Reads (some a) rest us := by
        intro j a rest us hle hscan
        exact ih rest.length (Nat.lt_succ_of_le hle) hscan rfl
      by_cases hstar : c = '*'
      · subst hstar
        by_cases hrun : cs.head? = some '*'
        · obtain ⟨rest, rfl⟩ : ∃ rest, cs = '*' :: rest := List.head?_eq_some_iff.1 hrun
          obtain ⟨hopens, ⟨rfl, rfl⟩ | ⟨rest, us, j, rfl, hus, rfl⟩⟩ := exists_component_of_scan h
          · exact .deepEnd hopens
          · have hle : rest.length ≤ ('*' :: '/' :: rest).length := by
              simp only [List.length_cons]
              omega
            exact .deepSlash hopens (hnext hle hus)
        · rw [scan_star hrun] at h
          obtain ⟨us, hus, rfl⟩ := map_eq_ok_iff.1 h
          exact .star hrun (hnext (Nat.le_refl _) hus)
      · rw [scan] at h
        · by_cases hany : c = '?'
          · rw [if_pos hany] at h
            obtain ⟨us, hus, rfl⟩ := map_eq_ok_iff.1 h
            subst hany
            exact .anyChar (hnext (Nat.le_refl _) hus)
          · rw [if_neg hany] at h
            by_cases hclass : c = '['
            · rw [if_pos hclass] at h
              obtain ⟨negated, members, rest, us, j, hmembers, rfl, hus, rfl⟩ :=
                exists_class_of_scan h
              subst hclass
              have hle : rest.length ≤ (classText negated members ++ ']' :: rest).length := by
                simp only [List.length_append, List.length_cons]
                omega
              exact .brackets hmembers (hnext hle hus)
            · rw [if_neg hclass] at h
              obtain ⟨us, hus, rfl⟩ := map_eq_ok_iff.1 h
              exact .literal ⟨hstar, hany, hclass⟩ (hnext (Nat.le_refl _) hus)
        · exact hstar

theorem scan_of_reads (h : Reads before cs ts) (i : Nat) : scan .plain i before cs = .ok ts := by
  induction h generalizing i with
  | nil => rfl
  | literal hc _ ih =>
    rw [scan_cons_of_literal hc, ih]
    rfl
  | anyChar _ ih =>
    rw [scan_anyChar, ih]
    rfl
  | star hrun _ ih =>
    rw [scan_star hrun, ih]
    rfl
  | deepEnd hopens => exact scan_deepEnd hopens
  | deepSlash hopens _ ih =>
    rw [scan_deepSlash hopens, ih]
    rfl
  | brackets hclass _ ih =>
    rw [scan_bracket, scan_class hclass, ih]
    rfl

theorem scan_eq_ok_iff : scan .plain i before cs = .ok ts ↔ Reads before cs ts :=
  ⟨reads_of_scan, fun h => scan_of_reads h i⟩

theorem Reads.opens (h : Reads before cs ts) (hdeep : ts.head? = some .deepStar) :
    Opens before := by
  cases h with
  | nil | literal _ _ | anyChar _ | star _ _ => cases hdeep
  | deepEnd hopens | deepSlash hopens _ => exact hopens
  | @brackets _ negated =>
    cases negated <;> cases hdeep

theorem Reads.aligned (h : Reads before cs ts) : Aligned ts := by
  have hcons : ∀ {c : Char} {rest : List Char} {us : List Token} {t : Token},
      Reads (some c) rest us → Aligned us → (c = '/' → t = .char '/' ∨ t = .deepStar) →
        Aligned (t :: us) := by
    intro c rest us t hreads halign hslash
    refine halign.cons fun u hu hdeep => hslash ?_
    exact hreads.opens (hdeep ▸ hu) c rfl
  induction h with
  | nil => exact .nil
  | literal _ hreads ih => exact hcons hreads ih fun heq => .inl (by rw [heq])
  | anyChar hreads ih => exact hcons hreads ih fun heq => absurd heq (by decide)
  | star _ hreads ih => exact hcons hreads ih fun heq => absurd heq (by decide)
  | deepEnd _ => exact .singleton _
  | deepSlash _ hreads ih => exact hcons hreads ih fun _ => .inr rfl
  | brackets _ hreads ih => exact hcons hreads ih fun heq => absurd heq (by decide)

end Scanning

/-- A pattern keeps its first token and one deep star of every run after it. -/
def mergeTail : List Token → List Token
  | [] => []
  | t :: ts => t :: mergeDeepStars ts

section Patterns

variable {cs : List Char} {ts us : List Token} {pattern : String} {compiled : Pattern}

theorem tokenize_eq_ok_iff : tokenize cs = .ok ts ↔ ∃ us, Reads none cs us ∧ ts = mergeTail us := by
  unfold tokenize
  rw [map_eq_ok_iff]
  refine exists_congr fun us => and_congr scan_eq_ok_iff ?_
  cases us with
  | nil => exact eq_comm
  | cons t us => exact eq_comm

theorem compile_eq_ok_iff :
    compile pattern = .ok compiled ↔ ∃ us, Reads none (collapse pattern.toList) us ∧
      compiled = ⟨String.ofList (collapse pattern.toList), mergeTail us⟩ := by
  unfold compile
  dsimp only
  rw [map_eq_ok_iff]
  constructor
  · intro h
    obtain ⟨ts, hts, rfl⟩ := h
    obtain ⟨us, hus, rfl⟩ := tokenize_eq_ok_iff.1 hts
    exact ⟨us, hus, rfl⟩
  · intro h
    obtain ⟨us, hus, rfl⟩ := h
    exact ⟨_, tokenize_eq_ok_iff.2 ⟨us, hus, rfl⟩, rfl⟩

theorem Aligned.mergeTail (h : Aligned us) : Aligned (mergeTail us) := by
  cases us with
  | nil => exact h
  | cons t us =>
    have htail : Aligned us := h.tail
    apply htail.mergeDeepStars.cons
    intro u hu
    rw [head?_mergeDeepStars] at hu
    exact h.rel_head? hu

theorem spells_mergeTail_iff : Spells (mergeTail us) cs ↔ Spells us cs := by
  cases us with
  | nil => exact Iff.rfl
  | cons t us =>
    have hmerge : ∀ cs, Spells (mergeDeepStars us) cs ↔ Spells us cs :=
      fun _ => spells_mergeDeepStars_iff
    exact ⟨Spells.imp_tail fun cs => (hmerge cs).1, Spells.imp_tail fun cs => (hmerge cs).2⟩

/-- A compiled pattern matches the texts of the tokens it was written for. -/
theorem isMatch_iff_spells (h : Reads none cs us) (text path : String) :
    Pattern.isMatch ⟨text, mergeTail us⟩ path = true ↔ Spells us path.toList := by
  unfold Pattern.isMatch
  rw [decide_eq_true_iff, run_eq_matched_iff h.aligned.mergeTail, spells_mergeTail_iff]

theorem matches_iff_spells (h : Reads none (collapse pattern.toList) us) (path : String) :
    Matches pattern path ↔ Spells us path.toList := by
  rw [matches_iff_of_compile (compile_eq_ok_iff.2 ⟨us, h, rfl⟩), isMatch_iff_spells h]

end Patterns

end Presubmit.Glob
