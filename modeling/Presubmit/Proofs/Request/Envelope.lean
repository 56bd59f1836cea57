import Presubmit.Document.Request
import Presubmit.Proofs.Document.Reading

/-! What an invocation takes from its document: the settings from one field, the request from
another, and within the request the command that it names. -/
namespace Presubmit

/-- A record is an object, or an array of its fields. -/
def Json.layout? : Json → Option Layout
  | .obj entries => some (.named entries)
  | .arr items => some (.positional items)
  | _ => none

theorem Decoder.exists_layout_of_record {α : Type} {shape : Shape} {fields : Fields α} {o : Origin}
    {j : Json} {a : α} (h : Decoder.record shape fields o j = .ok a) :
    ∃ layout, j.layout? = some layout ∧ fields ⟨shape, o, layout⟩ = .ok a := by
  cases j with
  | obj entries => exact ⟨_, rfl, mapError_eq_ok_iff.1 h⟩
  | arr items =>
    obtain ⟨b, hb, hlength⟩ := bind_eq_ok_iff.1 h
    split_ifs at hlength
    cases hlength
    exact ⟨_, rfl, mapError_eq_ok_iff.1 hb⟩
  | _ => cases h

namespace Command

/-- What a request calls the command. -/
inductive Called : String → Command → Prop where
  | verdict : Called "check_build" .verdict
  | plan : Called "generate_test_plan" .plan
  | skipping : Called "check_builders" .skipping

theorem mem_names_iff {name : String} {c : Command} : (name, c) ∈ names ↔ Called name c := by
  constructor
  · intro h
    simp only [names, List.mem_cons, Prod.mk.injEq, List.not_mem_nil, or_false] at h
    obtain ⟨rfl, rfl⟩ | ⟨rfl, rfl⟩ | ⟨rfl, rfl⟩ := h
    · exact .verdict
    · exact .plan
    · exact .skipping
  · intro h
    cases h <;> decide

/-- A command is given by its name. -/
theorem exists_name_of_decode {o : Origin} {j : Json} {c : Command} (h : decode o j = .ok c) :
    ∃ name, j = .str name ∧ Called name c := by
  cases j with
  | str name =>
    refine ⟨name, rfl, mem_names_iff.1 (Dict.mem_of_find_eq_some ?_)⟩
    simp only [decode, Decoder.variant] at h
    split at h
    next found hfind => cases h; exact hfind
    next => cases h
  | _ => cases h

end Command

namespace Request

def command : Request → Command
  | .verdict _ => .verdict
  | .plan _ => .plan
  | .skipping _ => .skipping

/-- The document of a request names the command. -/
def Names (j : Json) (c : Command) : Prop :=
  ∃ layout name, j.layout? = some layout ∧ layout.valuesAt shape "command" = [.str name] ∧
    Command.Called name c

theorem command_of_decodeAs {j : Json} {c : Command} {r : Request} (h : decodeAs j c = .ok r) :
    r.command = c := by
  cases c with
  | verdict =>
    obtain ⟨v, _, rfl⟩ := map_eq_ok_iff.1 h
    rfl
  | plan =>
    obtain ⟨p, _, rfl⟩ := map_eq_ok_iff.1 h
    rfl
  | skipping =>
    obtain ⟨s, _, rfl⟩ := map_eq_ok_iff.1 h
    rfl

theorem names_of_decode {o : Origin} {j : Json} {r : Request} (h : decode o j = .ok r) :
    Names j r.command := by
  unfold decode at h
  split_ifs at h
  cases j with
  | obj entries =>
    obtain ⟨c, hc, hr⟩ := bind_eq_ok_iff.1 h
    rw [command_of_decodeAs hr]
    obtain ⟨layout, hlayout, hfield⟩ := Decoder.exists_layout_of_record hc
    obtain ⟨_, habsent⟩ | ⟨value, hvalue, hdecode⟩ := Fields.field_eq_ok_iff.1 hfield
    · cases habsent
    · obtain ⟨name, rfl, hname⟩ := Command.exists_name_of_decode hdecode
      exact ⟨layout, name, hlayout, hvalue, hname⟩
  | arr items =>
    cases items with
    | nil => cases h
    | cons first rest =>
      obtain ⟨c, hc, hr⟩ := bind_eq_ok_iff.1 h
      rw [command_of_decodeAs hr]
      obtain ⟨name, rfl, hname⟩ := Command.exists_name_of_decode hc
      exact ⟨_, name, rfl, rfl, hname⟩
  | _ => cases h

end Request

namespace Invocation

/-- The settings and the request of an invocation are those that its document holds. Settings that
are absent are the standard ones. -/
structure Within (i : Invocation) (layout : Layout) : Prop where
  settings : (layout.valuesAt shape "config" = [] ∧ i.settings = .standard) ∨
    ∃ j, layout.valuesAt shape "config" = [j] ∧ Settings.decode .text j = .ok i.settings
  request : ∃ j, layout.valuesAt shape "request" = [j] ∧ Request.decode .text j = .ok i.request ∧
    Request.Names j i.request.command

theorem exists_within_of_decode {j : Json} {i : Invocation} (h : decode .text j = .ok i) :
    ∃ layout, j.layout? = some layout ∧ i.Within layout := by
  obtain ⟨layout, hlayout, hfields⟩ := Decoder.exists_layout_of_record h
  obtain ⟨build, request, hbuild, hrequest, rfl⟩ := Fields.seq_eq_ok_iff.1 hfields
  obtain ⟨settings, hsettings, rfl⟩ := Fields.functor_map_eq_ok_iff.1 hbuild
  refine ⟨layout, hlayout, ?_, ?_⟩
  · obtain ⟨habsent, hstandard⟩ | hgiven := Fields.field_eq_ok_iff.1 hsettings
    · exact .inl ⟨habsent, (Option.some.inj hstandard).symm⟩
    · exact .inr hgiven
  · obtain ⟨_, habsent⟩ | ⟨value, hvalue, hdecode⟩ := Fields.field_eq_ok_iff.1 hrequest
    · cases habsent
    · exact ⟨value, hvalue, hdecode, Request.names_of_decode hdecode⟩

end Invocation

end Presubmit
