import Pushdown.Failure.Basic
import Pushdown.Proofs.Failure.Code
import Pushdown.Proofs.Json.Value

/-!
# `Proofs.Failure` — a refusal and its text

A refusal is exchanged as JSON text. What may be absent in it is written in two ways: the context and the hint are left
out, while the value of a property inside a context is written as `null`. The code is written by its text and its
number read from there. All of it comes back: every part is taken by its reader from the form in which it
is written, the smallest parts first.

## Contents

* `takes_code` — a code.
* `Context.members`, `takes_context` — what a refusal is about.
* `takes_failure`, `Failure.survives_text` — the whole.
-/

namespace Pushdown

open Json (Takes)

/-! ## Codes -/

theorem takes_code (c : Code) : Takes Code.reader 0 (.string c.text) c := by
  refine ⟨(Json.takes_text c.text).begins, fun hd hrest => ?_⟩
  refine ((Json.takes_text c.text).reads hd hrest).bind ?_
  rw [Code.parse_text]
  exact Json.Reader.reads_pure

/-! ## Contexts -/

namespace Context

/-- The tag of a context. -/
def tag : Context → String
  | .property .. => "property"
  | .table .. => "table"
  | .generation .. => "generation"
  | .configFile .. => "config_file"

/-- The parts of a context, by name. -/
def members : Context → List (String × Json)
  | .property p value allowed =>
    [("property", .string p), ("value", .ofOption value), ("allowed_values", .ofTexts allowed)]
  | .table t mapping => [("table", .string t), ("identifier_mapping", .string mapping)]
  | .generation dialect node reason =>
    [("dialect", .string dialect), ("node", .string node), ("reason", .string reason)]
  | .configFile path => [("file_path", .string path)]

theorem toJson_eq (c : Context) : c.toJson = .object ((Json.Reader.tagName, .string c.tag) :: c.members) := by
  cases c <;> rfl

end Context

/-- A list of texts is an array of single values. -/
theorem takes_texts (ss : List String) : Takes Json.Reader.value 1 (.ofTexts ss) (.ofTexts ss) := by
  apply Json.takes_value_array
  intro v hv
  obtain ⟨s, -, rfl⟩ := List.mem_map.mp hv
  exact trivial

theorem decode_texts (ss : List String) : Json.Decode.list Json.Decode.text (.ofTexts ss) = .ok ss := by
  show (ss.map Json.string).mapM Json.Decode.text = .ok ss
  induction ss with
  | nil => rfl
  | cons s ss ih =>
    rw [List.map_cons, List.mapM_cons, ih]
    rfl

/-- A text or `null` is decoded as what it was. -/
theorem decode_ofOption (value : Option String) :
    Json.Decode.optional Json.Decode.text (.ofOption value) = .ok value := by
  cases value <;> rfl

/-- No part of a context is called like its tag, and all are buffered as they were written. -/
theorem takes_members (c : Context) :
    ∀ m ∈ c.members, m.1 ≠ Json.Reader.tagName ∧ Takes Json.Reader.value 1 m.2 m.2 := by
  have hscalar : ∀ {v : Json}, v.isScalar → Takes Json.Reader.value 1 v v := fun h =>
    (Json.takes_value h).mono (Nat.zero_le 1)
  have htext : ∀ s, Takes Json.Reader.value 1 (.string s) (.string s) := fun s => hscalar trivial
  cases c with
  | property p value allowed =>
    have hvalue : Takes Json.Reader.value 1 (.ofOption value) (.ofOption value) := by
      cases value with
      | none => exact hscalar trivial
      | some s => exact htext s
    simp [Context.members, Json.Reader.tagName, htext, hvalue, takes_texts]
  | _ => simp [Context.members, Json.Reader.tagName, htext]

/-- What a refusal is about is read back: by its tag, and by the members that its tag asks for. -/
theorem takes_context (c : Context) : Takes Context.reader 2 c.toJson c := by
  have hmembers := takes_members c
  rw [Context.toJson_eq]
  cases c with
  | property p value allowed =>
    have hvalue : (do return Context.property p (← Json.Decode.optional Json.Decode.text (.ofOption value)) []) =
        Except.ok (Context.property p value []) := by
      rw [decode_ofOption]
      rfl
    have hallowed : (do return Context.property p value (← Json.Decode.list Json.Decode.text (.ofTexts allowed))) =
        Except.ok (Context.property p value allowed) := by
      rw [decode_texts]
      rfl
    exact Json.takes_tagged rfl hmembers (Json.Shape.decode_object
      (Json.Shape.storeMembers_cons rfl rfl rfl <| Json.Shape.storeMembers_cons rfl rfl hvalue <|
        Json.Shape.storeMembers_cons rfl rfl hallowed rfl) rfl)
  | table t mapping => exact Json.takes_tagged rfl hmembers rfl
  | generation dialect node reason => exact Json.takes_tagged rfl hmembers rfl
  | configFile path => exact Json.takes_tagged rfl hmembers rfl

/-- An object is not `null`. -/
theorem takes_optional_context (c : Context) : Takes (Json.Reader.optional Context.reader) 2 c.toJson (some c) := by
  apply Json.takes_optional (takes_context c)
  rw [Context.toJson_eq, Json.chars]
  exact nofun

/-! ## Refusals -/

/-- A refusal is read back, with the hint and the context left out if there are none. -/
theorem takes_failure (f : Failure) : Takes Failure.reader 3 f.toJson f := by
  obtain ⟨code, message, context, hint⟩ := f
  have hcode := (takes_code code).mono (Nat.zero_le 2)
  have hmessage := (Json.takes_text message).mono (Nat.zero_le 2)
  have hhint : ∀ s, Takes (Json.Reader.optional Json.Reader.text) 2 (.string s) (some s) := fun s =>
    (Json.takes_optional_text s).mono (Nat.zero_le 2)
  -- what is absent is not written, so each of the four forms has its own list of members
  cases context with
  | none =>
    cases hint with
    | none => exact Json.takes_record (.cons rfl rfl hcode.map <| .cons rfl rfl hmessage.map .nil) rfl
    | some hint =>
      exact Json.takes_record (.cons rfl rfl hcode.map <| .cons rfl rfl hmessage.map <|
        .cons rfl rfl (hhint hint).map .nil) rfl
  | some context =>
    have hcontext := takes_optional_context context
    cases hint with
    | none =>
      exact Json.takes_record (.cons rfl rfl hcode.map <| .cons rfl rfl hmessage.map <|
        .cons rfl rfl hcontext.map .nil) rfl
    | some hint =>
      exact Json.takes_record (.cons rfl rfl hcode.map <| .cons rfl rfl hmessage.map <|
        .cons rfl rfl hcontext.map <| .cons rfl rfl (hhint hint).map .nil) rfl

/-- **Refusals survive their text.** Every refusal is read back from its text as it was, and so with the same category.
In particular a hint or a context that is absent comes back absent, and so does the value of a property in a
context. -/
theorem Failure.survives_text (f : Failure) :
    ∃ again, Failure.reader.run f.toJson.render = .ok again ∧ again = f ∧ again.category = f.category ∧
      (f.hint = none → again.hint = none) ∧ (f.context = none → again.context = none) ∧
      ∀ p allowed, f.context = some (.property p none allowed) → again.context = some (.property p none allowed) := by
  have hread : Failure.reader.run f.toJson.render = .ok f := Json.run_render (takes_failure f) (by decide)
  exact ⟨f, hread, rfl, rfl, id, id, fun _ _ => id⟩

end Pushdown
