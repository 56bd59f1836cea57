import Mathlib.Data.List.Basic
import Mathlib.Data.List.TakeWhile
import Mathlib.Tactic.IntervalCases
import Presubmit.Json.Printer
import Presubmit.Json.Token

/-! The text of a document is read as the tokens of the document. Numbers and words end only with
the character after them, so what is said of a text holds before any rest that ends them. -/
namespace Presubmit.Json

/-- A document that its text determines: its numbers are whole ones of 64 bits, and all of it can be
read. -/
inductive Exact : Json → Prop where
  | null : Exact .null
  | bool (b : Bool) : Exact (.bool b)
  | int (i : Int) : -9223372036854775808 ≤ i → i ≤ 18446744073709551615 → Exact (.int i)
  | str (s : String) : Exact (.str s)
  | arr (items : List Json) : (∀ j ∈ items, Exact j) → Exact (.arr items)
  | obj (fields : List (String × Json)) : (∀ f ∈ fields, Exact f.2) → Exact (.obj fields)

mutual

/-- The tokens of a document, in the order of its text. -/
def tokens : Json → List Token
  | .null | .unreadable => [.null]
  | .bool b => [.bool b]
  | .int i => [.int i]
  | .real negative x => [.real negative (some x)]
  | .str s => [.str (some s)]
  | .arr [] => [.openArr, .closeArr]
  | .arr (j :: js) => .openArr :: tokens j ++ itemTokens js
  | .obj [] => [.openObj, .closeObj]
  | .obj ((k, j) :: fs) => .openObj :: .str (some k) :: .colon :: tokens j ++ fieldTokens fs

/-- The tokens of the items after the first, and of the end of their array. -/
def itemTokens : List Json → List Token
  | [] => [.closeArr]
  | j :: js => .comma :: tokens j ++ itemTokens js

/-- The tokens of the entries after the first, and of the end of their object. -/
def fieldTokens : List (String × Json) → List Token
  | [] => [.closeObj]
  | (k, j) :: fs => .comma :: .str (some k) :: .colon :: tokens j ++ fieldTokens fs

end

namespace Scanner

/-- What the scanner makes of the rest of a text. -/
def run (s : Scanner) (cs : List Char) : Option (List Token) :=
  (cs.foldlM step s).bind finish

@[simp] theorem run_nil (s : Scanner) : s.run [] = s.finish := rfl

theorem run_cons_of_step {s t : Scanner} {c : Char} (h : s.step c = some t) (cs : List Char) :
    s.run (c :: cs) = t.run cs := by
  simp [run, h]

theorem run_append_of_foldlM {s t : Scanner} {cs : List Char} (h : cs.foldlM step s = some t)
    (rest : List Char) : s.run (cs ++ rest) = t.run rest := by
  simp [run, h]

end Scanner

/-- No number and no word goes on into the text. -/
def Ends (rest : List Char) : Prop :=
  ∀ c ∈ rest.head?, isNumeric c = false ∧ c.isLower = false

theorem ends_cons {c : Char} (h : isNumeric c = false ∧ c.isLower = false) (cs : List Char) :
    Ends (c :: cs) := by
  intro d hd
  obtain rfl : c = d := by simpa using hd
  exact h

/-- The characters are read as the tokens wherever the text ends them. -/
def ReadAs (cs : List Char) (ts : List Token) : Prop :=
  ∀ (done : List Token) (rest : List Char), Ends rest →
    Scanner.run ⟨done, .between⟩ (cs ++ rest) = Scanner.run ⟨ts.reverse ++ done, .between⟩ rest

namespace ReadAs

variable {cs ds : List Char} {ts us : List Token}

/-- Before characters that end what precedes them, one part can be read after the other. -/
theorem append (hcs : ReadAs cs ts) (hds : ReadAs ds us) (hends : ∀ rest, Ends (ds ++ rest)) :
    ReadAs (cs ++ ds) (ts ++ us) := by
  intro done rest hrest
  rw [List.append_assoc, hcs done _ (hends rest), hds _ rest hrest, List.reverse_append,
    List.append_assoc]

/-- A character that is a token by itself. -/
theorem cons_of_step {c : Char} {t : Token}
    (hstep : ∀ done, Scanner.step ⟨done, .between⟩ c = some ⟨t :: done, .between⟩)
    (hcs : ReadAs cs ts) : ReadAs (c :: cs) (t :: ts) := by
  intro done rest hrest
  rw [List.cons_append, Scanner.run_cons_of_step (hstep done), hcs _ rest hrest,
    List.reverse_cons, List.append_assoc, List.singleton_append]

theorem nil : ReadAs [] [] := fun _ _ _ => rfl

end ReadAs

section Words

/-- The end of a word is found at the next character or at the end of the text. -/
theorem run_word {done : List Token} {word rest : List Char} {t : Token} (hrest : Ends rest)
    (ht : wordToken? word.reverse = some t) :
    Scanner.run ⟨done, .word word⟩ rest = Scanner.run ⟨t :: done, .between⟩ rest := by
  cases rest with
  | nil => simp [Scanner.finish, ht]
  | cons c cs =>
    have hlower := (hrest c rfl).2
    simp [Scanner.run, Scanner.step, Scanner.emit, hlower, ht]

theorem readAs_null : ReadAs ['n', 'u', 'l', 'l'] [.null] := fun _ _ hrest =>
  run_word hrest rfl

theorem readAs_true : ReadAs ['t', 'r', 'u', 'e'] [.bool true] := fun _ _ hrest =>
  run_word hrest rfl

theorem readAs_false : ReadAs ['f', 'a', 'l', 's', 'e'] [.bool false] := fun _ _ hrest =>
  run_word hrest rfl

end Words

section Numbers

theorem run_number {done : List Token} {number rest : List Char} {t : Token} (hrest : Ends rest)
    (ht : numberToken? number.reverse = some t) :
    Scanner.run ⟨done, .number number⟩ rest = Scanner.run ⟨t :: done, .between⟩ rest := by
  cases rest with
  | nil => simp [Scanner.finish, ht]
  | cons c cs =>
    have hnumeric := (hrest c rfl).1
    simp [Scanner.run, Scanner.step, Scanner.emit, hnumeric, ht]

theorem run_number_append {done : List Token} {number digits rest : List Char}
    (h : ∀ c ∈ digits, c.isDigit = true) :
    Scanner.run ⟨done, .number number⟩ (digits ++ rest) =
      Scanner.run ⟨done, .number (digits.reverse ++ number)⟩ rest := by
  induction digits generalizing number with
  | nil => rfl
  | cons c digits ih =>
    obtain ⟨hc, hdigits⟩ := List.forall_mem_cons.1 h
    have hstep : Scanner.step ⟨done, .number number⟩ c = some ⟨done, .number (c :: number)⟩ := by
      simp [Scanner.step, isNumeric, hc]
    rw [List.cons_append, Scanner.run_cons_of_step hstep, ih hdigits, List.reverse_cons,
      List.append_assoc, List.singleton_append]

theorem natValue_toDigits (n : Nat) : natValue (Nat.toDigits 10 n) = n := by
  have hfold : natValue (Nat.toDigits 10 n) = Nat.ofDigitChars 10 (Nat.toDigits 10 n) 0 := by
    simp [natValue, digitValue, Nat.ofDigitChars_eq_foldl, Nat.mul_comm]
  rw [hfold, Nat.ofDigitChars_ten_toDigits]

/-- Zero is the only number whose digits begin with a zero. -/
theorem eq_zero_of_head?_toDigits {n : Nat} (h : (Nat.toDigits 10 n).head? = some '0') : n = 0 := by
  induction n using Nat.strongRecOn with
  | ind n ih =>
    by_cases hsmall : n < 10
    · rw [Nat.toDigits_of_lt_base hsmall] at h
      interval_cases n <;> simp_all
    · have hmore : (Nat.toDigits 10 n).head? = (Nat.toDigits 10 (n / 10)).head? := by
        rw [Nat.toDigits_of_base_le (by decide) (by omega),
          List.head?_append_of_ne_nil _ Nat.toDigits_ne_nil]
      have hzero : n / 10 = 0 := ih (n / 10) (by omega) (hmore ▸ h)
      omega

theorem unsignedToken?_toDigits (negative : Bool) (n : Nat) :
    unsignedToken? negative (Nat.toDigits 10 n) =
      some (wholeToken negative (Nat.toDigits 10 n)) := by
  have hdigits : ∀ c ∈ Nat.toDigits 10 n, c.isDigit = true := fun c hc =>
    Nat.isDigit_of_mem_toDigits (by decide) (by decide) hc
  have hwhole : (Nat.toDigits 10 n).takeWhile Char.isDigit = Nat.toDigits 10 n :=
    List.takeWhile_eq_self_iff.2 hdigits
  have hrest : (Nat.toDigits 10 n).dropWhile Char.isDigit = [] :=
    List.dropWhile_eq_nil_iff.2 hdigits
  have hvalid : ((Nat.toDigits 10 n).isEmpty || ((Nat.toDigits 10 n).head? == some '0' &&
      (Nat.toDigits 10 n).length != 1)) = false := by
    by_cases hzero : (Nat.toDigits 10 n).head? = some '0'
    · rw [eq_zero_of_head?_toDigits hzero]
      rfl
    · have hne : Nat.toDigits 10 n ≠ [] := Nat.toDigits_ne_nil
      simp [hzero, hne]
  simp only [unsignedToken?, hwhole, hrest, hvalid, Bool.false_eq_true, if_false]

theorem numberToken?_toDigits {n : Nat} (h : n ≤ 18446744073709551615) :
    numberToken? (Nat.toDigits 10 n) = some (.int n) := by
  have hunsigned : numberToken? (Nat.toDigits 10 n) = unsignedToken? false (Nat.toDigits 10 n) := by
    unfold numberToken?
    split
    next cs hminus =>
      have hdigit : '-'.isDigit = true := Nat.isDigit_of_mem_toDigits (b := 10) (n := n)
        (by decide) (by decide) (hminus ▸ List.mem_cons_self)
      exact absurd hdigit (by decide)
    next => rfl
  have hfits : n < Decimal.pow2 64 := Nat.lt_of_le_of_lt h (by decide)
  rw [hunsigned, unsignedToken?_toDigits, wholeToken, natValue_toDigits]
  simp [hfits]

theorem numberToken?_minus_toDigits {n : Nat} (hzero : n ≠ 0) (h : n ≤ 9223372036854775808) :
    numberToken? ('-' :: Nat.toDigits 10 n) = some (.int (-n)) := by
  have hfits : n ≤ Decimal.pow2 63 := h
  rw [numberToken?, unsignedToken?_toDigits, wholeToken, natValue_toDigits]
  simp [hzero, hfits]

theorem readAs_int {i : Int} (hlo : -9223372036854775808 ≤ i) (hhi : i ≤ 18446744073709551615) :
    ReadAs (intText i) [.int i] := by
  intro done rest hrest
  have hdigits : ∀ c ∈ Nat.toDigits 10 i.natAbs, c.isDigit = true := fun c hc =>
    Nat.isDigit_of_mem_toDigits (by decide) (by decide) hc
  by_cases hneg : i < 0
  · have hi : i = -(i.natAbs : Int) := by omega
    have htext : intText i = '-' :: Nat.toDigits 10 i.natAbs := by simp [intText, hneg]
    have hstart : Scanner.step ⟨done, .between⟩ '-' = some ⟨done, .number ['-']⟩ := rfl
    rw [htext, List.cons_append, Scanner.run_cons_of_step hstart, run_number_append hdigits]
    refine run_number hrest ?_
    rw [List.reverse_append, List.reverse_reverse, List.reverse_singleton, List.singleton_append,
      numberToken?_minus_toDigits (by omega) (by omega), ← hi]
  · have hi : i = (i.natAbs : Int) := by omega
    have htext : intText i = Nat.toDigits 10 i.natAbs := by simp [intText, hneg]
    have hne : Nat.toDigits 10 i.natAbs ≠ [] := Nat.toDigits_ne_nil
    obtain ⟨c, cs, hcons⟩ := List.exists_cons_of_ne_nil hne
    rw [hcons] at hdigits
    obtain ⟨hc, hcs⟩ := List.forall_mem_cons.1 hdigits
    have hblank : isBlank c = false := by
      refine Bool.eq_false_iff.2 fun hblank => ?_
      simp only [isBlank, Bool.or_eq_true, beq_iff_eq] at hblank
      rcases hblank with ((rfl | rfl) | rfl) | rfl <;> exact absurd hc (by decide)
    have hstart : Scanner.step ⟨done, .between⟩ c = some ⟨done, .number [c]⟩ := by
      simp [Scanner.step, Scanner.start, hblank, hc]
    rw [htext, hcons, List.cons_append, Scanner.run_cons_of_step hstart, run_number_append hcs]
    refine run_number hrest ?_
    rw [List.reverse_append, List.reverse_reverse, List.reverse_singleton, List.singleton_append,
      ← hcons, numberToken?_toDigits (by omega), ← hi]

end Numbers

section Texts

/-- A character is written in one way or another and always read as its own number. -/
theorem foldlM_escapeChar (done : List Token) (codes : List Nat) (c : Char) :
    (escapeChar c).foldlM Scanner.step ⟨done, .text codes⟩ =
      some ⟨done, .text (c.toNat :: codes)⟩ := by
  by_cases hcontrol : c.toNat < 0x20
  · obtain ⟨n, hn⟩ : ∃ n, n = c.toNat := ⟨_, rfl⟩
    rw [← hn] at hcontrol
    rw [← Char.ofNat_toNat c, ← hn]
    interval_cases n <;> rfl
  · by_cases hquote : c = '"'
    · subst hquote
      rfl
    · by_cases hslash : c = '\\'
      · subst hslash
        rfl
      · have hplain : escapeChar c = [c] := by
          unfold escapeChar
          split <;> simp_all
        rw [hplain]
        simp [Scanner.step, hquote, hslash, hcontrol]

theorem run_text (done : List Token) (codes : List Nat) (cs rest : List Char) :
    Scanner.run ⟨done, .text codes⟩ (cs.flatMap escapeChar ++ '"' :: rest) =
      Scanner.run
        ⟨.str ((joinHalves (codes.reverse ++ cs.map Char.toNat)).map String.ofList) :: done,
          .between⟩ rest := by
  induction cs generalizing codes with
  | nil =>
    rw [List.flatMap_nil, List.nil_append, List.map_nil, List.append_nil]
    exact Scanner.run_cons_of_step rfl rest
  | cons c cs ih =>
    rw [List.flatMap_cons, List.append_assoc,
      Scanner.run_append_of_foldlM (foldlM_escapeChar done codes c), ih, List.reverse_cons,
      List.append_assoc, List.singleton_append, List.map_cons]

/-- No character is half of another one. -/
theorem joinHalves_map_toNat (cs : List Char) : joinHalves (cs.map Char.toNat) = some cs := by
  induction cs with
  | nil => rfl
  | cons c cs ih =>
    have hvalid : c.toNat < 0xD800 ∨ 0xDFFF < c.toNat := by
      rcases c.valid with h | h
      · exact .inl h
      · exact .inr h.1
    have hfirst : isFirstHalf c.toNat = false := by simp [isFirstHalf]; omega
    have hsecond : isSecondHalf c.toNat = false := by simp [isSecondHalf]; omega
    rw [List.map_cons, joinHalves.eq_def]
    simp [hfirst, hsecond, ih]

theorem readAs_escape (s : String) : ReadAs (escape s) [.str (some s)] := by
  intro done rest _
  have hstart : Scanner.step ⟨done, .between⟩ '"' = some ⟨done, .text []⟩ := rfl
  have hcodes : (joinHalves (s.toList.map Char.toNat)).map String.ofList = some s := by
    rw [joinHalves_map_toNat, Option.map_some, String.ofList_toList]
  show Scanner.run _ ('"' :: (s.toList.flatMap escapeChar ++ ['"'] ++ rest)) = _
  rw [List.append_assoc, Scanner.run_cons_of_step hstart, List.singleton_append, run_text,
    List.reverse_nil, List.nil_append, hcodes]
  rfl

end Texts

section Documents

theorem ends_itemChars (js : List Json) (rest : List Char) : Ends (itemChars js ++ rest) := by
  cases js <;> exact ends_cons (by decide) _

theorem ends_fieldChars (fs : List (String × Json)) (rest : List Char) :
    Ends (fieldChars fs ++ rest) := by
  cases fs <;> exact ends_cons (by decide) _

theorem readAs_itemChars {js : List Json} (h : ∀ j ∈ js, ReadAs (chars j) (tokens j)) :
    ReadAs (itemChars js) (itemTokens js) := by
  induction js with
  | nil => exact .cons_of_step (fun _ => rfl) .nil
  | cons j js ih =>
    obtain ⟨hj, hjs⟩ := List.forall_mem_cons.1 h
    exact .append (.cons_of_step (fun _ => rfl) hj) (ih hjs) (ends_itemChars js)

/-- A key and its value, together with the character before them. -/
theorem readAs_entry {c : Char} {t : Token} {k : String} {j : Json}
    (hstep : ∀ done, Scanner.step ⟨done, .between⟩ c = some ⟨t :: done, .between⟩)
    (hj : ReadAs (chars j) (tokens j)) :
    ReadAs (c :: escape k ++ ':' :: chars j) (t :: .str (some k) :: .colon :: tokens j) :=
  .append (.cons_of_step hstep (readAs_escape k)) (.cons_of_step (fun _ => rfl) hj)
    fun _ => ends_cons (by decide) _

theorem readAs_fieldChars {fs : List (String × Json)}
    (h : ∀ f ∈ fs, ReadAs (chars f.2) (tokens f.2)) :
    ReadAs (fieldChars fs) (fieldTokens fs) := by
  induction fs with
  | nil => exact .cons_of_step (fun _ => rfl) .nil
  | cons f fs ih =>
    obtain ⟨hf, hfs⟩ := List.forall_mem_cons.1 h
    exact .append (readAs_entry (fun _ => rfl) hf) (ih hfs) (ends_fieldChars fs)

theorem readAs_chars {j : Json} (h : Exact j) : ReadAs (chars j) (tokens j) := by
  induction h with
  | null => exact readAs_null
  | bool b =>
    cases b with
    | true => exact readAs_true
    | false => exact readAs_false
  | int i hlo hhi => exact readAs_int hlo hhi
  | str s => exact readAs_escape s
  | arr items _ ih =>
    cases items with
    | nil => exact .cons_of_step (fun _ => rfl) (.cons_of_step (fun _ => rfl) .nil)
    | cons j js =>
      obtain ⟨hj, hjs⟩ := List.forall_mem_cons.1 ih
      exact .append (.cons_of_step (fun _ => rfl) hj) (readAs_itemChars hjs) (ends_itemChars js)
  | obj fields _ ih =>
    cases fields with
    | nil => exact .cons_of_step (fun _ => rfl) (.cons_of_step (fun _ => rfl) .nil)
    | cons f fs =>
      obtain ⟨hf, hfs⟩ := List.forall_mem_cons.1 ih
      exact .append (readAs_entry (fun _ => rfl) hf) (readAs_fieldChars hfs) (ends_fieldChars fs)

/-- Blanks after a document do not change its tokens. -/
theorem tokenize_chars_append {j : Json} (h : Exact j) {blanks : List Char}
    (hblanks : ∀ c ∈ blanks, isBlank c = true) :
    tokenize (chars j ++ blanks) = some (tokens j) := by
  have hskip : ∀ done, Scanner.run ⟨done, .between⟩ blanks = some done.reverse := by
    intro done
    induction blanks with
    | nil => rfl
    | cons c cs ih =>
      obtain ⟨hc, hcs⟩ := List.forall_mem_cons.1 hblanks
      have hstep : Scanner.step ⟨done, .between⟩ c = some ⟨done, .between⟩ := by
        simp [Scanner.step, Scanner.start, hc]
      rw [Scanner.run_cons_of_step hstep, ih hcs]
  have hends : Ends blanks := by
    intro c hc
    have hblank := hblanks c (List.mem_of_mem_head? hc)
    simp only [isBlank, Bool.or_eq_true, beq_iff_eq] at hblank
    rcases hblank with ((rfl | rfl) | rfl) | rfl <;> decide
  show Scanner.run ⟨[], .between⟩ (chars j ++ blanks) = _
  rw [readAs_chars h [] blanks hends, hskip, List.append_nil, List.reverse_reverse]

end Documents

end Presubmit.Json
