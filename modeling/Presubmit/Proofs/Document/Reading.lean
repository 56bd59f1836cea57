import Presubmit.Json.Record
import Presubmit.Proofs.Json.Building
import Presubmit.Proofs.Sequence

/-! Reading back what was written: for each way of writing a value, the decoder that takes the value
from the document again, and that the text of the document is exact. A record is read back if each
of its fields is found among the entries that were written. -/
namespace Presubmit

namespace Decoder

variable {α β γ : Type}

/-- The decoder takes the value from the document, wherever it is met. -/
def Reads (d : Decoder α) (j : Json) (a : α) : Prop :=
  ∀ o : Origin, d o j = .ok a

end Decoder

namespace Decoder.Reads

variable {α β γ : Type}

theorem text (s : String) : Decoder.text.Reads (.str s) s := fun _ => rfl

theorem flag (b : Bool) : Decoder.flag.Reads (.bool b) b := fun _ => rfl

theorem whole {name : String} {least greatest i : Int} (hlo : least ≤ i) (hhi : i ≤ greatest) :
    (Decoder.whole name least greatest).Reads (.int i) i := by
  intro o
  simp only [Decoder.whole, hlo, hhi, and_self, if_true]

theorem uint64 (n : UInt64) : Decoder.uint64.Reads (.int n.toNat) n := by
  intro o
  have hlt := n.toNat_lt
  rw [Decoder.uint64, whole (by omega) (by omega) o]
  simp [Except.map]

theorem uint32 (n : UInt32) : Decoder.uint32.Reads (.int n.toNat) n := by
  intro o
  have hlt := n.toNat_lt
  rw [Decoder.uint32, whole (by omega) (by omega) o]
  simp [Except.map]

theorem map {d : Decoder α} {j : Json} {a : α} (g : α → β) (h : d.Reads j a) :
    Decoder.Reads (fun o j => (d o j).map g) j (g a) := by
  intro o
  simp only [h o, Except.map]

theorem list {item : Decoder α} {toJson : α → Json} (h : ∀ a, item.Reads (toJson a) a)
    (xs : List α) : (Decoder.list item).Reads (Json.ofList toJson xs) xs := by
  intro o
  show (xs.map toJson).mapM (item o) = .ok xs
  induction xs with
  | nil => rfl
  | cons x xs ih => simp [h x o, ih, bind, Except.bind, pure, Except.pure]

theorem texts (xs : List String) : (Decoder.list Decoder.text).Reads (Json.strings xs) xs :=
  list text xs

theorem dict {value : Decoder α} {toJson : α → Json} (h : ∀ a, value.Reads (toJson a) a)
    (d : Dict α) : (Decoder.dict value).Reads (Json.ofDict toJson d) d := by
  intro o
  have hentries : ∀ es : List (String × α),
      (es.map fun e => (e.1, toJson e.2)).mapM
        (fun f => (value o f.2).map (Prod.mk f.1)) = .ok es := by
    intro es
    induction es with
    | nil => rfl
    | cons e es ih =>
      rw [List.map_cons, List.mapM_cons, ih]
      simp only [h e.2 o]
      rfl
  show (_ : Except DecodeError _).map Dict.ofList = _
  rw [hentries, Except.map, Dict.ofList_entries]

/-- Null stands for nothing, so no value may be written as null. -/
theorem option {value : Decoder α} {toJson : α → Json} (h : ∀ a, value.Reads (toJson a) a)
    (hnull : ∀ a, toJson a ≠ .null) (x : Option α) :
    (Decoder.option value).Reads (Json.ofOption toJson x) x := by
  intro o
  cases x with
  | none => rfl
  | some a =>
    show Decoder.option value o (toJson a) = _
    have hread := h a o
    have hwritten := hnull a
    cases hj : toJson a with
    | null => exact absurd hj hwritten
    | _ => rw [hj] at hread; simp only [Decoder.option, hread, Except.map]

theorem optionalText (x : Option String) :
    (Decoder.option Decoder.text).Reads (Json.ofOption .str x) x :=
  option text (fun _ => nofun) x

/-- A table serves both ways if it names every value and no name twice. -/
theorem enum [DecidableEq α] {names : List (String × α)} (hnames : (names.map Prod.fst).Nodup)
    {a : α} (ha : a ∈ names.map Prod.snd) : (Decoder.enum names).Reads (Json.nameIn names a) a := by
  intro o
  have hfound : ∃ name, names.find? (fun e => e.2 = a) = some (name, a) ∧
      Dict.find name names = some a := by
    induction names with
    | nil => cases ha
    | cons e es ih =>
      obtain ⟨name, b⟩ := e
      obtain ⟨hfresh, hes⟩ := List.nodup_cons.1 hnames
      by_cases hb : b = a
      · subst hb
        exact ⟨name, by simp, by simp [Dict.find]⟩
      · obtain ⟨found, hfind, hdict⟩ := ih hes (by simpa [Ne.symm hb] using ha)
        -- The name found later is another one, so the lookup passes this entry too.
        have hne : name ≠ found := by
          rintro rfl
          exact hfresh (List.mem_map.2 ⟨_, List.mem_of_find?_eq_some hfind, rfl⟩)
        exact ⟨found, by simpa [hb] using hfind, by simpa [Dict.find, hne] using hdict⟩
  obtain ⟨name, hfind, hdict⟩ := hfound
  simp only [Json.nameIn, hfind, Decoder.enum, variant, hdict]

theorem tagged {known : List (String × Decoder α)} {name : String} {value : Decoder α} {j : Json}
    {a : α} (hknown : Dict.find name known = some value) (h : value.Reads j a) :
    (Decoder.tagged known).Reads (.obj [(name, j)]) a := by
  intro o
  simp only [Decoder.tagged, variant, hknown]
  exact h o

end Decoder.Reads

namespace Fields

variable {α β : Type}

/-- What an object holds at a key. -/
def valuesAt (name : String) (entries : List (String × Json)) : List Json :=
  (occurrences name entries).map Prod.fst

theorem valuesAt_eq (name : String) (entries : List (String × Json)) :
    valuesAt name entries = (entries.filter fun e => e.1 = name).map Prod.snd := by
  unfold valuesAt occurrences
  rw [List.map_map]
  generalize 0 = first
  induction entries generalizing first with
  | nil => rfl
  | cons e es ih => by_cases h : e.1 = name <;> simp [List.zipIdx_cons, h, ih]

@[simp] theorem valuesAt_nil (name : String) : valuesAt name [] = [] := rfl

@[simp] theorem valuesAt_cons (name : String) (e : String × Json)
    (entries : List (String × Json)) :
    valuesAt name (e :: entries) =
      if e.1 = name then e.2 :: valuesAt name entries else valuesAt name entries := by
  by_cases h : e.1 = name <;> simp [valuesAt_eq, h]

@[simp] theorem valuesAt_append (name : String) (entries more : List (String × Json)) :
    valuesAt name (entries ++ more) = valuesAt name entries ++ valuesAt name more := by
  simp [valuesAt_eq]

@[simp] theorem valuesAt_entry (name key : String) (toJson : α → Json) (x : Option α) :
    valuesAt name (Json.entry? key toJson x) =
      if key = name then (x.map toJson).toList else [] := by
  cases x <;> simp [Json.entry?]

end Fields

/-- What a record holds at a field, by its name or by its place. -/
def Layout.valuesAt (shape : Shape) (name : String) : Layout → List Json
  | .named entries => Fields.valuesAt name entries
  | .positional items => items[shape.fields.idxOf name]?.toList

namespace Fields

variable {α β : Type}

@[simp] theorem placed_eq_ok_iff {position : Nat} {x : Except DecodeError α} {a : α} :
    placed position x = .ok a ↔ x = .ok a :=
  mapError_eq_ok_iff

/-- A field is read from the only value it has, or it is absent and may be. -/
theorem field_eq_ok_iff {shape : Shape} {o : Origin} {layout : Layout} {name : String}
    {absent : Option α} {value : Decoder α} {a : α} :
    field name absent value ⟨shape, o, layout⟩ = .ok a ↔
      (layout.valuesAt shape name = [] ∧ absent = some a) ∨
      ∃ j, layout.valuesAt shape name = [j] ∧ value o j = .ok a := by
  cases layout with
  | named entries =>
    simp only [field, Layout.valuesAt, valuesAt]
    rcases occurrences name entries with _ | ⟨⟨j, i⟩, _ | ⟨⟨k, l⟩, more⟩⟩
    · cases absent <;> simp
    · simp [bind_eq_ok_iff]
    · simp [bind_eq_ok_iff]
  | positional items =>
    simp only [field, Layout.valuesAt]
    cases items[shape.fields.idxOf name]? with
    | none => cases absent <;> simp
    | some j => simp

theorem seq_eq_ok_iff {f : Fields (α → β)} {x : Fields α} {r : Record} {b : β} :
    (f <*> x) r = .ok b ↔ ∃ g a, f r = .ok g ∧ x r = .ok a ∧ g a = b := by
  show both f x r = .ok b ↔ _
  cases hf : f r <;> cases hx : x r <;> simp [both, hf, hx]

theorem functor_map_eq_ok_iff {g : α → β} {x : Fields α} {r : Record} {b : β} :
    (g <$> x) r = .ok b ↔ ∃ a, x r = .ok a ∧ g a = b := by
  show both (pure g) x r = .ok b ↔ _
  cases hx : x r <;> simp [both, pure, hx]

/-- The reading finds the value among the entries of an object. -/
def Find (f : Fields α) (entries : List (String × Json)) (a : α) : Prop :=
  ∀ (shape : Shape) (o : Origin), f ⟨shape, o, .named entries⟩ = .ok a

namespace Find

variable {entries : List (String × Json)} {name : String} {j : Json} {a : α}

theorem map {f : Fields α} (g : α → β) (h : f.Find entries a) : (g <$> f).Find entries (g a) :=
  fun shape o => functor_map_eq_ok_iff.2 ⟨a, h shape o, rfl⟩

theorem seq {f : Fields (α → β)} {x : Fields α} {g : α → β} (hf : f.Find entries g)
    (hx : x.Find entries a) : (f <*> x).Find entries (g a) :=
  fun shape o => seq_eq_ok_iff.2 ⟨g, a, hf shape o, hx shape o, rfl⟩

theorem field {absent : Option α} {value : Decoder α} (hentry : valuesAt name entries = [j])
    (hvalue : value.Reads j a) : (field name absent value).Find entries a :=
  fun _ o => field_eq_ok_iff.2 (.inr ⟨j, hentry, hvalue o⟩)

theorem required {value : Decoder α} (hentry : valuesAt name entries = [j])
    (hvalue : value.Reads j a) : (Fields.required name value).Find entries a :=
  field hentry hvalue

theorem withDefault {default : α} {value : Decoder α} (hentry : valuesAt name entries = [j])
    (hvalue : value.Reads j a) : (Fields.withDefault name default value).Find entries a :=
  field hentry hvalue

theorem optional {x : Option α} {value : Decoder α} (hentry : valuesAt name entries = [j])
    (hvalue : (Decoder.option value).Reads j x) : (Fields.optional name value).Find entries x :=
  field hentry hvalue

/-- A field without value may be left out. -/
theorem optional_entry {x : Option α} {value : Decoder α} {toJson : α → Json}
    (hentry : valuesAt name entries = (x.map toJson).toList)
    (hvalue : ∀ a, value.Reads (toJson a) a) (hnull : ∀ a, toJson a ≠ .null) :
    (Fields.optional name value).Find entries x := by
  cases x with
  | none => exact fun _ _ => field_eq_ok_iff.2 (.inl ⟨hentry, rfl⟩)
  | some a => exact optional hentry (.option hvalue hnull (some a))

end Find

end Fields

namespace Decoder.Reads

variable {α β γ : Type}

theorem record {shape : Shape} {fields : Fields α} {entries : List (String × Json)} {a : α}
    (h : fields.Find entries a) : (Decoder.record shape fields).Reads (.obj entries) a :=
  fun o => mapError_eq_ok_iff.2 (h shape o)

theorem spliced {shape inner : Shape} {own : Fields α} {rest : Fields β} {build : α → β → γ}
    {entries : List (String × Json)} {a : α} {b : β} (hown : own.Find entries a)
    (hrest : rest.Find entries b) :
    (Decoder.spliced shape inner own rest build).Reads (.obj entries) (build a b) := by
  intro o
  refine bind_eq_ok_iff.2 ⟨a, mapError_eq_ok_iff.2 (hown shape o), ?_⟩
  exact bind_eq_ok_iff.2 ⟨b, mapError_eq_ok_iff.2 (hrest inner .aside), rfl⟩

end Decoder.Reads

namespace Json

variable {α : Type}

@[simp] theorem exact_null : Exact .null := .null

@[simp] theorem exact_bool (b : Bool) : Exact (.bool b) := .bool b

@[simp] theorem exact_str (s : String) : Exact (.str s) := .str s

@[simp] theorem exact_uint64 (n : UInt64) : Exact (.int n.toNat) := by
  have hlt := n.toNat_lt
  exact .int _ (by omega) (by omega)

@[simp] theorem exact_uint32 (n : UInt32) : Exact (.int n.toNat) := by
  have hlt := n.toNat_lt
  exact .int _ (by omega) (by omega)

@[simp] theorem exact_obj_iff {fields : List (String × Json)} :
    Exact (.obj fields) ↔ ∀ f ∈ fields, Exact f.2 := by
  constructor
  · intro h
    cases h with
    | obj _ hfields => exact hfields
  · exact .obj fields

@[simp] theorem exact_arr_iff {items : List Json} : Exact (.arr items) ↔ ∀ j ∈ items, Exact j := by
  constructor
  · intro h
    cases h with
    | arr _ hitems => exact hitems
  · exact .arr items

@[simp] theorem exact_ofList {item : α → Json} {xs : List α} :
    Exact (ofList item xs) ↔ ∀ a ∈ xs, Exact (item a) := by
  simp [ofList]

@[simp] theorem exact_strings (xs : List String) : Exact (strings xs) := by
  simp [strings]

@[simp] theorem exact_ofOption {value : α → Json} {x : Option α} :
    Exact (ofOption value x) ↔ ∀ a ∈ x, Exact (value a) := by
  cases x <;> simp [ofOption]

@[simp] theorem exact_ofDict {value : α → Json} {d : Dict α} :
    Exact (ofDict value d) ↔ ∀ e ∈ d.entries, Exact (value e.2) := by
  rw [ofDict, exact_obj_iff, List.forall_mem_map]

@[simp] theorem exact_nameIn [DecidableEq α] (table : List (String × α)) (a : α) :
    Exact (nameIn table a) := by
  unfold nameIn
  split <;> simp

end Json

end Presubmit
