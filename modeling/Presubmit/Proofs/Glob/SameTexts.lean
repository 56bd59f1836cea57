import Mathlib.Data.List.Forall2
import Presubmit.Proofs.Glob.Texts

/-! When lists of tokens of one shape stand for the same texts. The shortest texts, where no star
takes anything, show what every other token accepts. -/
namespace Presubmit.Glob

namespace Token

/-- The tokens are the same, or each takes one character. -/
def SameShape (t u : Token) : Prop :=
  t = u ∨ t.IsSingle ∧ u.IsSingle

/-- The tokens take the same characters in the same way. -/
def Alike (t u : Token) : Prop :=
  t = u ∨ t.IsSingle ∧ u.IsSingle ∧ ∀ c, t.accepts c = u.accepts c

/-- The token asks for a character and takes none. -/
def IsVoid (t : Token) : Prop :=
  t.IsSingle ∧ ∀ c, t.accepts c = false

variable {t u : Token}

theorem Alike.symm (h : t.Alike u) : u.Alike t := by
  rcases h with rfl | ⟨ht, hu, haccepts⟩
  · exact .inl rfl
  · exact .inr ⟨hu, ht, fun c => (haccepts c).symm⟩

theorem not_isVoid_iff (ht : t.IsSingle) : ¬ t.IsVoid ↔ ∃ c, t.accepts c = true := by
  rw [IsVoid, not_and, forall_prop_of_true ht, not_forall]
  simp only [Bool.not_eq_false]

end Token

/-- The text is one of the shortest that the tokens stand for, a character for each token other than
a star. -/
inductive Shortest : List Token → List Char → Prop where
  | nil : Shortest [] []
  | single {t : Token} {ts : List Token} {c : Char} {cs : List Char} :
      t.accepts c = true → Shortest ts cs → Shortest (t :: ts) (c :: cs)
  | star {ts : List Token} {cs : List Char} : Shortest ts cs → Shortest (.star :: ts) cs
  | deepStar {ts : List Token} {cs : List Char} : Shortest ts cs → Shortest (.deepStar :: ts) cs

section Shortest

variable {t u : Token} {ts us : List Token} {c : Char} {cs : List Char}

theorem shortest_cons_iff (ht : t.IsSingle) :
    Shortest (t :: ts) (c :: cs) ↔ t.accepts c = true ∧ Shortest ts cs := by
  constructor
  · intro h
    cases h with
    | single haccepts hts => exact ⟨haccepts, hts⟩
    | star _ => exact absurd rfl ht.1
    | deepStar _ => exact absurd rfl ht.2
  · rintro ⟨haccepts, hts⟩
    exact .single haccepts hts

theorem shortest_star_iff : Shortest (.star :: ts) cs ↔ Shortest ts cs := by
  constructor
  · intro h
    cases h with
    | single haccepts _ => cases haccepts
    | star hts => exact hts
  · exact .star

theorem shortest_deepStar_iff : Shortest (.deepStar :: ts) cs ↔ Shortest ts cs := by
  constructor
  · intro h
    cases h with
    | single haccepts _ => cases haccepts
    | deepStar hts => exact hts
  · exact .deepStar

/-- The number of tokens that take exactly one character. -/
def singles (ts : List Token) : Nat :=
  ts.countP fun t => t.IsSingle

theorem singles_cons_of_single (ht : t.IsSingle) (ts : List Token) :
    singles (t :: ts) = singles ts + 1 :=
  List.countP_cons_of_pos (by simpa using ht)

theorem singles_cons_of_not_single (ht : ¬ t.IsSingle) (ts : List Token) :
    singles (t :: ts) = singles ts :=
  List.countP_cons_of_neg (by simpa using ht)

theorem Shortest.spells (h : Shortest ts cs) : Spells ts cs := by
  induction h with
  | nil => exact .nil
  | single haccepts _ ih => exact .single haccepts ih
  | star _ ih => exact .star List.not_mem_nil ih
  | deepStar _ ih => exact .deepNone ih

theorem Shortest.length_eq (h : Shortest ts cs) : cs.length = singles ts := by
  induction h with
  | nil => rfl
  | single haccepts _ ih =>
    rw [singles_cons_of_single (isSingle_of_accepts haccepts), List.length_cons, ih]
  | star _ ih => rwa [singles_cons_of_not_single (by decide)]
  | deepStar _ ih => rwa [singles_cons_of_not_single (by decide)]

/-- No text is shorter than the tokens ask for, and those of that length are the shortest. -/
theorem Spells.singles_le (h : Spells ts cs) :
    singles ts ≤ cs.length ∧ (cs.length = singles ts → Shortest ts cs) := by
  induction h with
  | nil => exact ⟨Nat.le_refl 0, fun _ => .nil⟩
  | single haccepts _ ih =>
    rw [singles_cons_of_single (isSingle_of_accepts haccepts), List.length_cons]
    refine ⟨Nat.succ_le_succ ih.1, fun hlength => ?_⟩
    exact .single haccepts (ih.2 (Nat.succ.inj hlength))
  | @star ts taken rest _ _ ih =>
    rw [singles_cons_of_not_single (by decide), List.length_append]
    refine ⟨by omega, fun hlength => ?_⟩
    obtain rfl : taken = [] := List.eq_nil_of_length_eq_zero (by omega)
    exact .star (ih.2 (by omega))
  | deepNone _ ih =>
    rw [singles_cons_of_not_single (by decide)]
    exact ⟨ih.1, fun hlength => .deepStar (ih.2 hlength)⟩
  | @deepBelow ts cs below hbelow _ ih =>
    rw [singles_cons_of_not_single (by decide)]
    have hlonger : below.length < cs.length := by
      obtain ⟨above, rfl⟩ := hbelow
      rw [List.length_append, List.length_cons]
      omega
    exact ⟨by omega, fun hlength => by omega⟩
  | @deepAll ts cs _ ih =>
    rw [singles_cons_of_not_single (by decide)]
    rw [List.length_nil] at ih
    refine ⟨by omega, fun hlength => ?_⟩
    obtain rfl : cs = [] := List.eq_nil_of_length_eq_zero (by omega)
    exact .deepStar (ih.2 (by omega))

theorem exists_shortest_iff : (∃ cs, Shortest ts cs) ↔ ∀ t ∈ ts, ¬ t.IsVoid := by
  induction ts with
  | nil => exact iff_of_true ⟨[], .nil⟩ (List.forall_mem_nil _)
  | cons t ts ih =>
    rw [List.forall_mem_cons, ← ih]
    by_cases ht : t.IsSingle
    · rw [Token.not_isVoid_iff ht]
      constructor
      · rintro ⟨cs, hcs⟩
        cases cs with
        | nil =>
          cases hcs with
          | star _ => exact absurd rfl ht.1
          | deepStar _ => exact absurd rfl ht.2
        | cons c cs =>
          obtain ⟨haccepts, hts⟩ := (shortest_cons_iff ht).1 hcs
          exact ⟨⟨c, haccepts⟩, cs, hts⟩
      · rintro ⟨⟨c, haccepts⟩, cs, hts⟩
        exact ⟨c :: cs, .single haccepts hts⟩
    · have hvoid : ¬ t.IsVoid := fun hvoid => ht hvoid.1
      rw [and_iff_right hvoid]
      rcases eq_star_or_deepStar ht with rfl | rfl
      · simp only [shortest_star_iff]
      · simp only [shortest_deepStar_iff]

theorem singles_eq_of_sameShape (h : List.Forall₂ Token.SameShape ts us) :
    singles ts = singles us := by
  induction h with
  | nil => rfl
  | @cons t u ts us htu _ ih =>
    rcases htu with rfl | ⟨ht, hu⟩
    · by_cases ht : t.IsSingle
      · rw [singles_cons_of_single ht, singles_cons_of_single ht, ih]
      · rw [singles_cons_of_not_single ht, singles_cons_of_not_single ht, ih]
    · rw [singles_cons_of_single ht, singles_cons_of_single hu, ih]

/-- Where there are shortest texts, they show at every place what the token there takes. -/
theorem forall₂_alike_of_shortest (h : List.Forall₂ Token.SameShape ts us)
    (hsome : ∃ cs, Shortest ts cs) (hsame : ∀ cs, Shortest ts cs ↔ Shortest us cs) :
    List.Forall₂ Token.Alike ts us := by
  induction h with
  | nil => exact .nil
  | @cons t u ts us htu _ ih =>
    by_cases hsingle : t.IsSingle ∧ u.IsSingle
    · obtain ⟨ht, hu⟩ := hsingle
      have hvoid := exists_shortest_iff.1 hsome
      rw [List.forall_mem_cons, Token.not_isVoid_iff ht, ← exists_shortest_iff] at hvoid
      obtain ⟨⟨d, hd⟩, ds, hds⟩ := hvoid
      have hcons : ∀ c cs, t.accepts c = true ∧ Shortest ts cs ↔
          u.accepts c = true ∧ Shortest us cs := by
        intro c cs
        rw [← shortest_cons_iff ht, hsame, shortest_cons_iff hu]
      have hud : u.accepts d = true := ((hcons d ds).1 ⟨hd, hds⟩).1
      have hus : Shortest us ds := ((hcons d ds).1 ⟨hd, hds⟩).2
      refine .cons (.inr ⟨ht, hu, fun c => ?_⟩) (ih ⟨ds, hds⟩ fun cs => ?_)
      · rw [Bool.eq_iff_iff]
        constructor
        · exact fun hc => ((hcons c ds).1 ⟨hc, hds⟩).1
        · exact fun hc => ((hcons c ds).2 ⟨hc, hus⟩).1
      · constructor
        · exact fun hcs => ((hcons d cs).1 ⟨hd, hcs⟩).2
        · exact fun hcs => ((hcons d cs).2 ⟨hud, hcs⟩).2
    · rcases htu with rfl | hboth
      · have ht : ¬ t.IsSingle := fun ht => hsingle ⟨ht, ht⟩
        rcases eq_star_or_deepStar ht with rfl | rfl
        · simp only [shortest_star_iff] at hsome hsame
          exact .cons (.inl rfl) (ih hsome hsame)
        · simp only [shortest_deepStar_iff] at hsome hsame
          exact .cons (.inl rfl) (ih hsome hsame)
      · exact absurd hboth hsingle

theorem Spells.of_alike (h : List.Forall₂ Token.Alike ts us) (hts : Spells ts cs) :
    Spells us cs := by
  induction h generalizing cs with
  | nil => exact hts
  | @cons t u ts us htu _ ih =>
    have htail : Spells (t :: us) cs := hts.imp_tail fun _ => ih
    rcases htu with rfl | ⟨ht, -, haccepts⟩
    · exact htail
    · obtain ⟨c, ds, rfl, hc, hds⟩ := (spells_single_iff ht).1 htail
      exact .single (by rwa [← haccepts]) hds

theorem not_spells_of_isVoid (h : ∃ t ∈ ts, t.IsVoid) (cs : List Char) : ¬ Spells ts cs := by
  intro hts
  obtain ⟨t, ht, hvoid⟩ := h
  induction hts with
  | nil => exact List.not_mem_nil ht
  | single haccepts _ ih =>
    rcases List.mem_cons.1 ht with rfl | ht
    · exact absurd haccepts (by rw [hvoid.2]; decide)
    · exact ih ht
  | star _ _ ih =>
    rcases List.mem_cons.1 ht with rfl | ht
    · exact hvoid.1.1 rfl
    · exact ih ht
  | deepNone _ ih | deepBelow _ _ ih | deepAll _ ih =>
    rcases List.mem_cons.1 ht with rfl | ht
    · exact hvoid.1.2 rfl
    · exact ih ht

/-- Tokens of one shape stand for the same texts exactly if they take the same characters in every
place, or stand for no text at all. -/
theorem spells_congr_iff (h : List.Forall₂ Token.SameShape ts us) :
    (∀ cs, Spells ts cs ↔ Spells us cs) ↔
      List.Forall₂ Token.Alike ts us ∨ (∃ t ∈ ts, t.IsVoid) ∧ ∃ u ∈ us, u.IsVoid := by
  have hshortest : ∀ {vs : List Token}, ¬ (∃ cs, Shortest vs cs) → ∃ v ∈ vs, v.IsVoid := by
    intro vs hnone
    rw [exists_shortest_iff] at hnone
    simpa using hnone
  constructor
  · intro hsame
    have hlength := singles_eq_of_sameShape h
    have heq : ∀ cs, Shortest ts cs ↔ Shortest us cs := by
      intro cs
      constructor
      · intro hcs
        exact ((hsame cs).1 hcs.spells).singles_le.2 (hcs.length_eq.trans hlength)
      · intro hcs
        exact ((hsame cs).2 hcs.spells).singles_le.2 (hcs.length_eq.trans hlength.symm)
    by_cases hsome : ∃ cs, Shortest ts cs
    · exact .inl (forall₂_alike_of_shortest h hsome heq)
    · refine .inr ⟨hshortest hsome, hshortest ?_⟩
      rintro ⟨cs, hcs⟩
      exact hsome ⟨cs, (heq cs).2 hcs⟩
  · rintro (halike | ⟨hts, hus⟩) cs
    · have hflip : List.Forall₂ Token.Alike us ts :=
        (halike.imp fun _ _ => Token.Alike.symm).flip
      exact ⟨Spells.of_alike halike, Spells.of_alike hflip⟩
    · exact iff_of_false (not_spells_of_isVoid hts cs) (not_spells_of_isVoid hus cs)

end Shortest

end Presubmit.Glob
