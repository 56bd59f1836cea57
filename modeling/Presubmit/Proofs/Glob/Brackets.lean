import Presubmit.Proofs.Glob.Classes

/-! Opening brackets that open no class. There is at most one that reading comes to, and collapsing
neither closes a class nor opens one, so that the bracket stays, fewer stars before it. -/
namespace Presubmit.Glob

/-- After an opening bracket, a closing one stands behind the first member. -/
def ClassFollows (cs : List Char) : Prop :=
  ']' ∈ (if cs.head? = some '!' then cs.tail else cs).tail

/-- Every opening bracket that is not a member opens a class. -/
inductive Closed : List Char → Prop where
  | nil : Closed []
  | char {c : Char} {cs : List Char} : c ≠ '[' → Closed cs → Closed (c :: cs)
  | brackets {negated : Bool} {members cs : List Char} : IsClass negated members → Closed cs →
      Closed ('[' :: (classText negated members ++ ']' :: cs))

/-- The opening bracket at the index opens no class, and it is the first that does not. -/
def Unclosed (cs : List Char) (start : Nat) : Prop :=
  ∃ closed rest, cs = closed ++ '[' :: rest ∧ closed.length = start ∧ Closed closed ∧
    ¬ ClassFollows rest

section Brackets

variable {negated : Bool} {members cs closed rest : List Char} {c : Char} {start other : Nat}

theorem classFollows_cons_iff :
    ClassFollows (c :: cs) ↔ if c = '!' then ']' ∈ cs.tail else ']' ∈ cs := by
  by_cases hc : c = '!' <;> simp [ClassFollows, hc]

theorem classFollows_iff :
    ClassFollows cs ↔ ∃ negated members rest, IsClass negated members ∧
      cs = classText negated members ++ ']' :: rest := by
  constructor
  · intro h
    cases cs with
    | nil => cases h
    | cons c cs =>
      rw [classFollows_cons_iff] at h
      by_cases hc : c = '!'
      · rw [if_pos hc] at h
        cases cs with
        | nil => cases h
        | cons d cs =>
          obtain ⟨later, rest, rfl, hlater⟩ := List.eq_append_cons_of_mem h
          have hclass : IsClass true (d :: later) :=
            isClass_cons_iff.2 ⟨hlater, fun hn => absurd hn (by decide)⟩
          exact ⟨true, d :: later, rest, hclass, by rw [hc]; rfl⟩
      · rw [if_neg hc] at h
        obtain ⟨later, rest, rfl, hlater⟩ := List.eq_append_cons_of_mem h
        exact ⟨false, c :: later, rest, isClass_cons_iff.2 ⟨hlater, fun _ => hc⟩, rfl⟩
  · rintro ⟨negated, members, rest, hclass, rfl⟩
    cases members with
    | nil => exact absurd rfl hclass.ne_nil
    | cons d later =>
      have hmem : ']' ∈ later ++ ']' :: rest := List.mem_append_right _ List.mem_cons_self
      cases negated with
      | false =>
        show ClassFollows (d :: (later ++ ']' :: rest))
        rwa [classFollows_cons_iff, if_neg ((isClass_cons_iff.1 hclass).2 rfl)]
      | true =>
        show ClassFollows ('!' :: d :: (later ++ ']' :: rest))
        rwa [classFollows_cons_iff, if_pos rfl]

theorem brackets_append (negated : Bool) (members cs ds : List Char) :
    '[' :: (classText negated members ++ ']' :: cs) ++ ds =
      '[' :: (classText negated members ++ ']' :: (cs ++ ds)) := by
  rw [List.cons_append, List.append_assoc, List.cons_append]

theorem classFollows_append (h : IsClass negated members) (rest : List Char) :
    ClassFollows (classText negated members ++ ']' :: rest) :=
  classFollows_iff.2 ⟨negated, members, rest, h, rfl⟩

/-- The class after a bracket is read in one way only. -/
theorem classText_append_inj {negated' : Bool} {members' rest' : List Char}
    (h : IsClass negated members) (h' : IsClass negated' members')
    (heq : classText negated members ++ ']' :: rest = classText negated' members' ++ ']' :: rest') :
    classText negated members = classText negated' members' ∧ rest = rest' := by
  cases members with
  | nil => exact absurd rfl h.ne_nil
  | cons d later =>
    cases members' with
    | nil => exact absurd rfl h'.ne_nil
    | cons d' later' =>
      obtain ⟨hlater, hmark⟩ := isClass_cons_iff.1 h
      obtain ⟨hlater', hmark'⟩ := isClass_cons_iff.1 h'
      have hclosing : later ++ ']' :: rest = later' ++ ']' :: rest' →
          later = later' ∧ rest = rest' := by
        intro hcs
        have hindex := congrArg (List.idxOf ']') hcs
        rw [List.idxOf_append_of_notMem hlater, List.idxOf_append_of_notMem hlater',
          List.idxOf_cons_self, List.idxOf_cons_self] at hindex
        obtain ⟨hfirst, hlast⟩ := List.append_inj hcs hindex
        exact ⟨hfirst, (List.cons.inj hlast).2⟩
      cases negated with
      | false =>
        cases negated' with
        | false =>
          obtain ⟨hd, hcs⟩ := List.cons.inj heq
          obtain ⟨hfirst, hrest⟩ := hclosing hcs
          exact ⟨by rw [hd, hfirst], hrest⟩
        | true => exact absurd (List.cons.inj heq).1 (hmark rfl)
      | true =>
        cases negated' with
        | false => exact absurd (List.cons.inj heq).1.symm (hmark' rfl)
        | true =>
          obtain ⟨hd, hcs⟩ := List.cons.inj (List.cons.inj heq).2
          obtain ⟨hfirst, hrest⟩ := hclosing hcs
          exact ⟨by rw [hd, hfirst], hrest⟩

theorem closed_or_exists_unclosed (cs : List Char) : Closed cs ∨ ∃ start, Unclosed cs start := by
  -- a class takes many characters at once, so the induction is on the length
  induction hn : cs.length using Nat.strong_induction_on generalizing cs with
  | _ n ih =>
    subst hn
    cases cs with
    | nil => exact .inl .nil
    | cons c cs =>
      by_cases hc : c = '['
      · subst hc
        by_cases hfollows : ClassFollows cs
        · obtain ⟨negated, members, rest, hclass, rfl⟩ := classFollows_iff.1 hfollows
          have hlt : rest.length < ('[' :: (classText negated members ++ ']' :: rest)).length := by
            simp only [List.length_cons, List.length_append]
            omega
          rcases ih rest.length hlt rest rfl with hrest | ⟨_, closed, after, rfl, -, hclosed, hnone⟩
          · exact .inl (.brackets hclass hrest)
          · exact .inr ⟨_, '[' :: (classText negated members ++ ']' :: closed), after,
              (brackets_append _ _ _ _).symm, rfl, .brackets hclass hclosed, hnone⟩
        · exact .inr ⟨0, [], cs, rfl, rfl, .nil, hfollows⟩
      · rcases ih cs.length (Nat.lt_succ_self _) cs rfl with
          hcs | ⟨_, closed, rest, rfl, -, hclosed, hnone⟩
        · exact .inl (.char hc hcs)
        · exact .inr ⟨_, c :: closed, rest, rfl, rfl, .char hc hclosed, hnone⟩

theorem Closed.eq_of_append {closed' rest' : List Char} (h : Closed closed) (h' : Closed closed')
    (hnone : ¬ ClassFollows rest) (hnone' : ¬ ClassFollows rest')
    (heq : closed ++ '[' :: rest = closed' ++ '[' :: rest') : closed = closed' := by
  induction h generalizing closed' with
  | nil =>
    cases h' with
    | nil => rfl
    | char hc _ => exact absurd (List.cons.inj heq).1.symm hc
    | brackets hclass _ =>
      rw [List.nil_append, brackets_append, List.cons.injEq] at heq
      exact absurd (heq.2 ▸ classFollows_append hclass _) hnone
  | char hc _ ih =>
    cases h' with
    | nil => exact absurd (List.cons.inj heq).1 hc
    | char _ h' =>
      obtain ⟨rfl, hcs⟩ := List.cons.inj heq
      rw [ih h' hcs]
    | brackets _ _ => exact absurd (List.cons.inj heq).1 hc
  | brackets hclass _ ih =>
    cases h' with
    | nil =>
      rw [List.nil_append, brackets_append, List.cons.injEq] at heq
      exact absurd (heq.2 ▸ classFollows_append hclass _) hnone'
    | char hc _ => exact absurd (List.cons.inj heq).1.symm hc
    | brackets hclass' h' =>
      rw [brackets_append, brackets_append, List.cons.injEq] at heq
      obtain ⟨htext, hrest⟩ := classText_append_inj hclass hclass' heq.2
      rw [htext, ih h' hrest]

namespace Unclosed

theorem unique (h : Unclosed cs start) (h' : Unclosed cs other) : start = other := by
  obtain ⟨closed, rest, rfl, rfl, hclosed, hnone⟩ := h
  obtain ⟨closed', rest', heq, rfl, hclosed', hnone'⟩ := h'
  rw [hclosed.eq_of_append hclosed' hnone hnone' heq]

theorem getElem?_eq (h : Unclosed cs start) : cs[start]? = some '[' := by
  obtain ⟨closed, rest, rfl, rfl, -, -⟩ := h
  simp

end Unclosed

end Brackets

section Thinning

variable {cs ds : List Char} {start : Nat}

namespace Thins

theorem classFollows_iff (h : Thins cs ds) : ClassFollows ds ↔ ClassFollows cs := by
  have hbracket : (']' : Char) ≠ '*' := by decide
  unfold ClassFollows
  rw [h.head?_eq]
  by_cases hmark : cs.head? = some '!'
  · obtain ⟨more, rfl⟩ := List.head?_eq_some_iff.1 hmark
    obtain ⟨more', rfl, hmore⟩ := h.of_cons (by decide)
    rw [if_pos hmark, if_pos hmark]
    exact hmore.mem_tail_iff hbracket
  · rw [if_neg hmark, if_neg hmark]
    exact h.mem_tail_iff hbracket

end Thins

theorem Closed.of_thins (h : Closed cs) (hthins : Thins cs ds) : Closed ds := by
  induction h generalizing ds with
  | nil =>
    cases hthins
    exact .nil
  | char hc _ ih =>
    cases hthins with
    | keep hthins => exact .char hc (ih hthins)
    | drop hthins => exact ih hthins
  | @brackets negated members cs hclass _ ih =>
    obtain ⟨es, rfl, hes⟩ := hthins.of_cons (by decide)
    obtain ⟨text, rest, rfl, htext, hrest⟩ := hes.of_append (by decide)
    obtain ⟨members', rfl, hmembers⟩ := exists_members_of_thins htext
    exact .brackets (hclass.of_thins hmembers) (ih hrest)

/-- The bracket that opens no class is found again in the collapsed text, at the end of what the
text up to it collapses to. -/
theorem Unclosed.exists_collapse (h : Unclosed cs start) :
    ∃ position, Unclosed (collapse cs) position ∧
      position + 1 = (collapse (cs.take (start + 1))).length ∧
      (position = start ↔ collapse (cs.take (start + 1)) = cs.take (start + 1)) := by
  obtain ⟨closed, rest, rfl, rfl, hclosed, hnone⟩ := h
  have hbracket : ('[' : Char) ≠ '*' := by decide
  obtain ⟨closed', hthins, hcollapse⟩ := exists_collapseAfter_append hbracket none closed
  have htake : (closed ++ '[' :: rest).take (closed.length + 1) = closed ++ ['['] := by
    rw [List.take_length_add_append]
    rfl
  have hfirst : collapse (closed ++ ['[']) = closed' ++ ['['] := by
    rw [collapse_eq_collapseAfter, hcollapse, collapseAfter_nil]
  have hwhole : collapse (closed ++ '[' :: rest) =
      closed' ++ '[' :: collapseAfter (some '[') rest := by
    rw [collapse_eq_collapseAfter, hcollapse]
  have hlast : ¬ ClassFollows (collapseAfter (some '[') rest) := by
    rwa [(thins_collapseAfter _ rest).classFollows_iff]
  rw [htake, hfirst, hwhole]
  refine ⟨closed'.length, ⟨closed', _, rfl, rfl, hclosed.of_thins hthins, hlast⟩, ?_, ?_⟩
  · rw [List.length_append, List.length_singleton]
  · rw [List.append_left_inj]
    constructor
    · exact hthins.sublist.eq_of_length
    · exact fun heq => by rw [heq]

end Thinning

end Presubmit.Glob
