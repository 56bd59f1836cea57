/-! Slash-separated text as a list of components. Every slash separates, so the empty text has one
empty component and a trailing slash adds another. -/
namespace Presubmit.Path

def components : List Char → List (List Char)
  | [] => [[]]
  | c :: cs =>
    if c = '/' then
      [] :: components cs
    else
      match components cs with
      | [] => [[c]]
      | d :: ds => (c :: d) :: ds

def join (ds : List (List Char)) : List Char :=
  List.intercalate ['/'] ds

theorem components_ne_nil (cs : List Char) : components cs ≠ [] := by
  cases cs with
  | nil => simp [components]
  | cons c cs =>
    by_cases h : c = '/'
    · simp [components, h]
    · cases hd : components cs <;> simp [components, h, hd]

theorem join_components (cs : List Char) : join (components cs) = cs := by
  induction cs with
  | nil => rfl
  | cons c cs ih =>
    by_cases h : c = '/'
    · cases hd : components cs with
      | nil => exact absurd hd (components_ne_nil cs)
      | cons d ds => simp_all [components, join, List.intercalate]
    · cases hd : components cs with
      | nil => exact absurd hd (components_ne_nil cs)
      | cons d ds =>
        cases ds <;> simp_all [components, join, List.intercalate]

theorem components_append (cs ds : List Char) :
    components (cs ++ '/' :: ds) = components cs ++ components ds := by
  induction cs with
  | nil => simp [components]
  | cons c cs ih =>
    by_cases h : c = '/'
    · simp [components, h, ih]
    · cases hd : components cs with
      | nil => exact absurd hd (components_ne_nil cs)
      | cons d ds => simp [components, h, ih, hd]

theorem join_append {cs ds : List (List Char)} (hcs : cs ≠ []) (hds : ds ≠ []) :
    join (cs ++ ds) = join cs ++ '/' :: join ds := by
  induction cs with
  | nil => exact absurd rfl hcs
  | cons c cs ih =>
    cases cs with
    | nil =>
      cases ds with
      | nil => exact absurd rfl hds
      | cons d ds => simp [join, List.intercalate]
    | cons b cs =>
      have hrest := ih (List.cons_ne_nil b cs)
      simp only [join, List.intercalate, List.cons_append, List.intersperse] at hrest ⊢
      simp [hrest]

theorem join_singleton (d : List Char) : join [d] = d := by
  simp [join, List.intercalate]

theorem join_cons {ds : List (List Char)} (hne : ds ≠ []) (d : List Char) :
    join (d :: ds) = d ++ '/' :: join ds := by
  have happend := join_append (List.cons_ne_nil d []) hne
  rwa [join_singleton] at happend

theorem components_of_not_mem {cs : List Char} (h : '/' ∉ cs) : components cs = [cs] := by
  induction cs with
  | nil => rfl
  | cons c cs ih =>
    rw [List.mem_cons, not_or] at h
    rw [components, if_neg fun hc => h.1 hc.symm, ih h.2]

theorem slash_not_mem_of_mem_components {cs d : List Char} (h : d ∈ components cs) : '/' ∉ d := by
  induction cs generalizing d with
  | nil =>
    rw [components, List.mem_singleton] at h
    rw [h]
    exact List.not_mem_nil
  | cons c cs ih =>
    by_cases hc : c = '/'
    · rw [components, if_pos hc, List.mem_cons] at h
      rcases h with rfl | h
      · exact List.not_mem_nil
      · exact ih h
    · cases hcs : components cs with
      | nil => exact absurd hcs (components_ne_nil cs)
      | cons e es =>
        rw [components, if_neg hc, hcs, List.mem_cons] at h
        rw [hcs] at ih
        rcases h with rfl | h
        · rw [List.mem_cons, not_or]
          exact ⟨fun heq => hc heq.symm, ih List.mem_cons_self⟩
        · exact ih (List.mem_cons_of_mem e h)

theorem components_join {ds : List (List Char)} (hne : ds ≠ []) (h : ∀ d ∈ ds, '/' ∉ d) :
    components (join ds) = ds := by
  induction ds with
  | nil => exact absurd rfl hne
  | cons d ds ih =>
    have hd : components d = [d] := components_of_not_mem (h d List.mem_cons_self)
    by_cases hlast : ds = []
    · rw [hlast, join_singleton, hd]
    · rw [join_cons hlast, components_append, hd,
        ih hlast fun e he => h e (List.mem_cons_of_mem d he)]
      rfl

theorem mem_of_mem_components {cs d : List Char} {c : Char} (hd : d ∈ components cs)
    (hc : c ∈ d) : c ∈ cs := by
  induction cs generalizing d with
  | nil =>
    simp only [components, List.mem_singleton] at hd
    exact hd ▸ hc
  | cons b cs ih =>
    by_cases h : b = '/'
    · rw [components, if_pos h, List.mem_cons] at hd
      rcases hd with rfl | hd
      · exact absurd hc List.not_mem_nil
      · exact List.mem_cons_of_mem b (ih hd hc)
    · cases hcs : components cs with
      | nil => exact absurd hcs (components_ne_nil cs)
      | cons e es =>
        rw [components, if_neg h, hcs, List.mem_cons] at hd
        rw [hcs] at ih
        rcases hd with rfl | hd
        · rcases List.mem_cons.1 hc with rfl | hc
          · exact List.mem_cons_self
          · exact List.mem_cons_of_mem b (ih List.mem_cons_self hc)
        · exact List.mem_cons_of_mem b (ih (List.mem_cons_of_mem e hd) hc)

end Presubmit.Path
