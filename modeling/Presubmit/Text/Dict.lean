/-! Finite maps with string keys. The entries are listed in strictly ascending order of their
keys, and a later write to a key replaces the earlier one. -/
namespace Presubmit

structure Dict (α : Type) where
  entries : List (String × α)
  ascending : entries.Pairwise (·.1 < ·.1)

namespace Dict

variable {α : Type}

instance : EmptyCollection (Dict α) := ⟨⟨[], .nil⟩⟩

instance : Inhabited (Dict α) := ⟨∅⟩

instance [DecidableEq α] : DecidableEq (Dict α) := fun d e =>
  if h : d.entries = e.entries then
    .isTrue (by cases d; cases e; cases h; rfl)
  else
    .isFalse (fun hde => h (congrArg entries hde))

theorem ext {d e : Dict α} (h : d.entries = e.entries) : d = e := by
  cases d
  cases e
  cases h
  rfl

/-- The value at the first entry with the key. -/
def find (k : String) : List (String × α) → Option α
  | [] => none
  | (l, a) :: es => if l = k then some a else find k es

theorem mem_of_find_eq_some {k : String} {a : α} {es : List (String × α)}
    (h : find k es = some a) : (k, a) ∈ es := by
  induction es with
  | nil => cases h
  | cons e es ih =>
    obtain ⟨l, b⟩ := e
    by_cases hlk : l = k
    · rw [find, if_pos hlk] at h
      cases h
      rw [hlk]
      exact List.mem_cons_self
    · rw [find, if_neg hlk] at h
      exact List.mem_cons_of_mem _ (ih h)

theorem find_eq_some_of_mem {k : String} {a : α} {es : List (String × α)}
    (hes : es.Pairwise (·.1 < ·.1)) (h : (k, a) ∈ es) : find k es = some a := by
  induction es with
  | nil => exact absurd h List.not_mem_nil
  | cons e es ih =>
    obtain ⟨l, b⟩ := e
    obtain ⟨hl, hes⟩ := List.pairwise_cons.1 hes
    rcases List.mem_cons.1 h with heq | hmem
    · cases heq
      rw [find, if_pos rfl]
    · have hne : l ≠ k := fun hlk => String.lt_irrefl k (hlk ▸ hl (k, a) hmem)
      rw [find, if_neg hne]
      exact ih hes hmem

def get? (d : Dict α) (k : String) : Option α :=
  find k d.entries

theorem mem_entries_iff {d : Dict α} {k : String} {a : α} :
    (k, a) ∈ d.entries ↔ d.get? k = some a :=
  ⟨find_eq_some_of_mem d.ascending, mem_of_find_eq_some⟩

def contains (d : Dict α) (k : String) : Bool :=
  (d.get? k).isSome

theorem contains_iff {d : Dict α} {k : String} : d.contains k = true ↔ ∃ a, (k, a) ∈ d.entries := by
  simp only [contains, Option.isSome_iff_exists, mem_entries_iff]

private def write (k : String) (a : α) : List (String × α) → List (String × α)
  | [] => [(k, a)]
  | (l, b) :: es =>
    if k < l then (k, a) :: (l, b) :: es
    else if l < k then (l, b) :: write k a es
    else (k, a) :: es

private theorem mem_write {k : String} {a : α} {es : List (String × α)} {e : String × α}
    (he : e ∈ write k a es) : e = (k, a) ∨ e ∈ es := by
  induction es with
  | nil => simp_all [write]
  | cons f es ih =>
    obtain ⟨l, b⟩ := f
    by_cases hkl : k < l
    · simpa only [write, hkl, if_true, List.mem_cons] using he
    · by_cases hlk : l < k
      · simp only [write, hkl, hlk, if_true, if_false, List.mem_cons] at he
        rcases he with rfl | he
        · exact .inr (by simp)
        · exact (ih he).imp_right (List.mem_cons_of_mem _)
      · simp only [write, hkl, hlk, if_false, List.mem_cons] at he
        exact he.imp_right (List.mem_cons_of_mem _)

private theorem pairwise_write {k : String} {a : α} {es : List (String × α)}
    (h : es.Pairwise (·.1 < ·.1)) : (write k a es).Pairwise (·.1 < ·.1) := by
  induction es with
  | nil => simp [write]
  | cons f es ih =>
    obtain ⟨l, b⟩ := f
    obtain ⟨hl, hes⟩ := List.pairwise_cons.1 h
    by_cases hkl : k < l
    · simp only [write, hkl, if_true]
      refine List.pairwise_cons.2 ⟨fun e he => ?_, h⟩
      rcases List.mem_cons.1 he with rfl | he
      · exact hkl
      · exact String.lt_trans hkl (hl e he)
    · by_cases hlk : l < k
      · simp only [write, hkl, hlk, if_true, if_false]
        refine List.pairwise_cons.2 ⟨fun e he => ?_, ih hes⟩
        rcases mem_write he with rfl | he
        · exact hlk
        · exact hl e he
      · obtain rfl : k = l := String.le_antisymm (String.not_lt.1 hlk) (String.not_lt.1 hkl)
        simp only [write, hkl, if_false]
        exact List.pairwise_cons.2 ⟨hl, hes⟩

def insert (d : Dict α) (k : String) (a : α) : Dict α :=
  ⟨write k a d.entries, pairwise_write d.ascending⟩

/-- Of several entries with one key the last counts. -/
def ofList (es : List (String × α)) : Dict α :=
  es.foldl (fun d e => d.insert e.1 e.2) ∅

private theorem find_write_self (k : String) (a : α) (es : List (String × α)) :
    find k (write k a es) = some a := by
  induction es with
  | nil => simp [write, find]
  | cons f es ih =>
    obtain ⟨l, b⟩ := f
    by_cases hkl : k < l
    · simp [write, find, hkl]
    · by_cases hlk : l < k
      · have hne : l ≠ k := fun h => String.lt_irrefl k (h ▸ hlk)
        simp [write, find, hkl, hlk, hne, ih]
      · simp [write, find, hkl, hlk]

private theorem find_write_of_ne {k l : String} (h : l ≠ k) (a : α) (es : List (String × α)) :
    find l (write k a es) = find l es := by
  induction es with
  | nil => simp [write, find, h.symm]
  | cons f es ih =>
    obtain ⟨m, b⟩ := f
    by_cases hkm : k < m
    · simp [write, find, hkm, h.symm]
    · by_cases hmk : m < k
      · simp [write, find, hkm, hmk, ih]
      · obtain rfl : k = m := String.le_antisymm (String.not_lt.1 hmk) (String.not_lt.1 hkm)
        simp [write, find, h.symm]

private theorem write_append {k : String} {a : α} {es : List (String × α)}
    (h : ∀ e ∈ es, e.1 < k) : write k a es = es ++ [(k, a)] := by
  induction es with
  | nil => rfl
  | cons f es ih =>
    obtain ⟨hf, hes⟩ := List.forall_mem_cons.1 h
    have hkf : ¬ k < f.1 := fun hkf => String.lt_irrefl k (String.lt_trans hkf hf)
    simp [write, hkf, hf, ih hes]

private theorem entries_foldl_insert {es : List (String × α)} {d : Dict α}
    (h : (d.entries ++ es).Pairwise (·.1 < ·.1)) :
    (es.foldl (fun d e => d.insert e.1 e.2) d).entries = d.entries ++ es := by
  induction es generalizing d with
  | nil => simp
  | cons e es ih =>
    have hlast : (d.insert e.1 e.2).entries = d.entries ++ [e] :=
      write_append fun f hf => (List.pairwise_append.1 h).2.2 f hf e List.mem_cons_self
    have hsplit : d.entries ++ e :: es = (d.insert e.1 e.2).entries ++ es := by
      rw [hlast, List.append_assoc, List.singleton_append]
    rw [List.foldl_cons, ih (hsplit ▸ h), hsplit]

/-- A map is made of its own entries. -/
@[simp] theorem ofList_entries (d : Dict α) : ofList d.entries = d := by
  have he : (ofList d.entries).entries = d.entries := entries_foldl_insert (d := ∅) d.ascending
  exact ext he

theorem mem_of_mem_entries_ofList {es : List (String × α)} {e : String × α}
    (h : e ∈ (ofList es).entries) : e ∈ es := by
  have hfold : ∀ d : Dict α, e ∈ (es.foldl (fun d e => d.insert e.1 e.2) d).entries →
      e ∈ d.entries ∨ e ∈ es := by
    clear h
    induction es with
    | nil => exact fun d he => .inl he
    | cons f es ih =>
      intro d he
      rcases ih (d.insert f.1 f.2) he with he | he
      · exact (mem_write he).symm.imp_right fun hf => List.mem_cons.2 (.inl hf)
      · exact .inr (List.mem_cons_of_mem _ he)
  exact (hfold ∅ h).resolve_left List.not_mem_nil

@[simp] theorem get?_empty (k : String) : (∅ : Dict α).get? k = none := rfl

@[simp] theorem get?_insert_self (d : Dict α) (k : String) (a : α) :
    (d.insert k a).get? k = some a :=
  find_write_self k a d.entries

theorem get?_insert_of_ne (d : Dict α) {k l : String} (h : l ≠ k) (a : α) :
    (d.insert k a).get? l = d.get? l :=
  find_write_of_ne h a d.entries

end Dict

end Presubmit
