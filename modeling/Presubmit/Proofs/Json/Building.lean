import Presubmit.Json.Parser
import Presubmit.Proofs.Json.Scanning

/-! The tokens of a document build the document again, within whatever arrays and objects are open
around it. With the reading of its text this settles printing: a printed document is parsed as
itself and as nothing else. -/
namespace Presubmit.Json

/-- Where a value is due, the tokens lead to the finished document. -/
def Build (ts : List Token) (j : Json) : Prop :=
  ∀ (stack : List Frame) (stage : Stage), stage = .value ∨ stage = .item →
    ts.foldlM Builder.step ⟨stack, stage⟩ = some ⟨stack, .after j⟩

/-- Entries as they are kept while their object is open, last first. -/
def openEntries (fields : List (String × Json)) : List Entry :=
  (fields.map fun f => (some f.1, f.2)).reverse

theorem openEntries_concat (fields : List (String × Json)) (k : String) (v : Json) :
    openEntries (fields ++ [(k, v)]) = (some k, v) :: openEntries fields := by
  simp [openEntries]

theorem ofEntries_openEntries (fields : List (String × Json)) :
    ofEntries (openEntries fields) = .obj fields := by
  have hfields : (fields.map fun f => (some f.1, f.2)).mapM
      (fun e : Entry => e.1.map fun k => (k, e.2)) = some fields := by
    induction fields with
    | nil => rfl
    | cons f fs ih => simp [ih]
  rw [ofEntries, openEntries, List.reverse_reverse, hfields]

/-- Only the end of an array means something else where an item is due. -/
theorem step_of_due {stack : List Frame} {stage : Stage} {t : Token}
    (hstage : stage = .value ∨ stage = .item) (ht : t ≠ .closeArr) :
    Builder.step ⟨stack, stage⟩ t = Builder.startValue ⟨stack, .value⟩ t := by
  rcases hstage with rfl | rfl
  · rfl
  · cases t <;> first | rfl | exact absurd rfl ht

theorem build_singleton {t : Token} {j : Json} (ht : t ≠ .closeArr)
    (hstart : ∀ stack, Builder.startValue ⟨stack, .value⟩ t = some ⟨stack, .after j⟩) :
    Build [t] j := by
  intro stack stage hstage
  rw [List.foldlM_cons, step_of_due hstage ht, hstart]
  rfl

theorem foldlM_itemTokens {js : List Json} (h : ∀ j ∈ js, Build (tokens j) j) (stack : List Frame)
    (done : List Json) (v : Json) :
    (itemTokens js).foldlM Builder.step ⟨.arr done :: stack, .after v⟩ =
      some ⟨stack, .after (.arr ((v :: done).reverse ++ js))⟩ := by
  induction js generalizing done v with
  | nil =>
    rw [List.append_nil]
    rfl
  | cons j js ih =>
    obtain ⟨hj, hjs⟩ := List.forall_mem_cons.1 h
    have hcomma : Builder.step ⟨.arr done :: stack, .after v⟩ .comma =
        some ⟨.arr (v :: done) :: stack, .value⟩ := rfl
    simp only [itemTokens, List.cons_append, List.foldlM_cons, hcomma, Option.bind_eq_bind,
      Option.bind_some, List.foldlM_append, hj _ _ (.inl rfl), ih hjs]
    rw [List.reverse_cons (a := j), List.append_assoc, List.singleton_append]

/-- A key and its value, from where the key is due. -/
theorem foldlM_entry {j : Json} (h : Build (tokens j) j) (stack : List Frame) (done : List Entry)
    (k : String) :
    (Token.str (some k) :: .colon :: tokens j).foldlM Builder.step ⟨stack, .key done⟩ =
      some ⟨.obj done (some k) :: stack, .after j⟩ := by
  have hkey : Builder.step ⟨stack, .key done⟩ (.str (some k)) =
      some ⟨stack, .colon done (some k)⟩ := by
    cases done <;> rfl
  have hcolon : Builder.step ⟨stack, .colon done (some k)⟩ .colon =
      some ⟨.obj done (some k) :: stack, .value⟩ := rfl
  simp only [List.foldlM_cons, hkey, hcolon, Option.bind_eq_bind, Option.bind_some,
    h _ _ (.inl rfl)]

theorem foldlM_fieldTokens {fs : List (String × Json)} (h : ∀ f ∈ fs, Build (tokens f.2) f.2)
    (stack : List Frame) (done : List (String × Json)) (k : String) (v : Json) :
    (fieldTokens fs).foldlM Builder.step ⟨.obj (openEntries done) (some k) :: stack, .after v⟩ =
      some ⟨stack, .after (.obj (done ++ (k, v) :: fs))⟩ := by
  induction fs generalizing done k v with
  | nil =>
    have hclose : Builder.step ⟨.obj (openEntries done) (some k) :: stack, .after v⟩ .closeObj =
        some ⟨stack, .after (ofEntries ((some k, v) :: openEntries done))⟩ := rfl
    rw [fieldTokens, List.foldlM_cons, hclose, ← openEntries_concat, ofEntries_openEntries]
    rfl
  | cons f fs ih =>
    obtain ⟨hf, hfs⟩ := List.forall_mem_cons.1 h
    have hcomma : Builder.step ⟨.obj (openEntries done) (some k) :: stack, .after v⟩ .comma =
        some ⟨stack, .key (openEntries (done ++ [(k, v)]))⟩ := by
      rw [openEntries_concat]
      rfl
    simp only [fieldTokens, List.cons_append, List.foldlM_cons (a := Token.comma), hcomma,
      Option.bind_eq_bind, Option.bind_some]
    rw [← List.cons_append, ← List.cons_append, List.foldlM_append, foldlM_entry hf]
    simp only [Option.bind_eq_bind, Option.bind_some, ih hfs, List.append_assoc,
      List.singleton_append]

theorem build_tokens {j : Json} (h : Exact j) : Build (tokens j) j := by
  induction h with
  | null => exact build_singleton (by simp) fun _ => rfl
  | bool b => exact build_singleton (by simp) fun _ => rfl
  | int i => exact build_singleton (by simp) fun _ => rfl
  | str s => exact build_singleton (by simp) fun _ => rfl
  | arr items _ ih =>
    intro stack stage hstage
    have hopen : Builder.step ⟨stack, stage⟩ .openArr = some ⟨.arr [] :: stack, .item⟩ := by
      rw [step_of_due hstage (by simp)]
      rfl
    cases items with
    | nil =>
      rw [tokens, List.foldlM_cons, hopen]
      rfl
    | cons j js =>
      obtain ⟨hj, hjs⟩ := List.forall_mem_cons.1 ih
      simp only [tokens, List.cons_append, List.foldlM_cons, hopen, Option.bind_eq_bind,
        Option.bind_some, List.foldlM_append, hj _ _ (.inr rfl), foldlM_itemTokens hjs]
      rfl
  | obj fields _ ih =>
    intro stack stage hstage
    have hopen : Builder.step ⟨stack, stage⟩ .openObj = some ⟨stack, .key []⟩ := by
      rw [step_of_due hstage (by simp)]
      rfl
    cases fields with
    | nil =>
      rw [tokens, List.foldlM_cons, hopen]
      rfl
    | cons f fs =>
      obtain ⟨hf, hfs⟩ := List.forall_mem_cons.1 ih
      simp only [tokens, List.cons_append, List.foldlM_cons (a := Token.openObj), hopen,
        Option.bind_eq_bind, Option.bind_some]
      rw [← List.cons_append, ← List.cons_append, List.foldlM_append, foldlM_entry hf]
      exact foldlM_fieldTokens hfs stack [] f.1 f.2

/-- A document with nothing but blanks after it is parsed as what was printed. -/
theorem parse?_render_append {j : Json} (h : Exact j) {blanks : String}
    (hblanks : ∀ c ∈ blanks.toList, isBlank c = true) :
    parse? (j.render ++ blanks) = some j := by
  have htext : (j.render ++ blanks).toList = chars j ++ blanks.toList := by
    simp [render]
  rw [parse?, htext, tokenize_chars_append h hblanks, Option.bind_some, ofTokens?,
    build_tokens h [] .value (.inl rfl)]
  rfl

theorem parse?_render {j : Json} (h : Exact j) : parse? j.render = some j := by
  have hnone : ∀ c ∈ "".toList, isBlank c = true := by simp
  simpa using parse?_render_append h hnone

end Presubmit.Json
