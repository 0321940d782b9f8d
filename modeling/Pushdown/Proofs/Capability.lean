import Mathlib
import Pushdown.Capability.Builder
import Pushdown.Proofs.Enumeration
import Pushdown.Proofs.Json.Spelling

/-!
# `Proofs.Capability` — one exchanged form for each set of capabilities

Capabilities are given call by call, and they are exchanged as an object with one array of names for each family. Both
are lists, but neither their order nor their repetitions mean anything. What a builder was given and what a text lists
are therefore described in the same way, as a row of additions: calls are performed one after the other, members are
read one after the other, and the two lead to the same capabilities. The exchanged form is the one row among all those
that lead to the same capabilities in which every name stands once and in its declared place.

## Contents

* `Capabilities.supports_build`, `Capabilities.ext_supports` — capabilities are the set of the names given.
* `Capabilities.listed` — the row of additions that the exchanged form writes.
* `Capabilities.stores_additions` — members are stored as calls are performed.
* `Capabilities.one_form_for_each_set` — order and repetition leave no trace.
-/

namespace Pushdown

open Json (Reader Takes Follows Stores)

namespace Addition

/-- The field that the names of the family are written in. -/
def field : Addition → String
  | .main _ => "main"
  | .predicates _ => "predicates"
  | .literals _ => "literals"
  | .aggregates _ => "aggregate_functions"
  | .scalars _ => "scalar_functions"

/-- The names as texts, in the order given. -/
def texts : Addition → List String
  | .main names => names.map Enumeration.name
  | .predicates names => names.map Enumeration.name
  | .literals names => names.map Enumeration.name
  | .aggregates names => names.map Enumeration.name
  | .scalars names => names.map Enumeration.name

/-- The member of an object that lists the names as they were given. -/
def member (a : Addition) : String × Json := (a.field, .ofTexts a.texts)

/-- Every name is declared behind the one in front of it, so that none stands twice. -/
def InDeclaredOrder : Addition → Prop
  | .main names => names.Pairwise (Enumeration.position · < Enumeration.position ·)
  | .predicates names => names.Pairwise (Enumeration.position · < Enumeration.position ·)
  | .literals names => names.Pairwise (Enumeration.position · < Enumeration.position ·)
  | .aggregates names => names.Pairwise (Enumeration.position · < Enumeration.position ·)
  | .scalars names => names.Pairwise (Enumeration.position · < Enumeration.position ·)

end Addition

namespace Capabilities

/-- The fields of the exchanged form, in their order. -/
def families : List String := ["main", "predicates", "literals", "aggregate_functions", "scalar_functions"]

/-! ## The set of names -/

/-- A call adds the names that it gives, to their family and to no other. -/
theorem supports_add (c : Capabilities) (a : Addition) (n : Capability) :
    (c.add a).supports n = true ↔ c.supports n = true ∨ n ∈ a.names := by
  cases a <;> cases n <;> simp [add, supports, NameSet.insertMany, Addition.names]

theorem supports_foldl (calls : List Addition) (n : Capability) : ∀ c : Capabilities,
    (calls.foldl add c).supports n = true ↔ c.supports n = true ∨ n ∈ calls.flatMap Addition.names := by
  induction calls with
  | nil => simp
  | cons a calls ih =>
    intro c
    rw [List.foldl_cons, ih, supports_add, List.flatMap_cons, List.mem_append, or_assoc]

/-- What is supported after a row of calls is what they gave. -/
theorem supports_build (calls : List Addition) (n : Capability) :
    (build calls).supports n = true ↔ n ∈ calls.flatMap Addition.names := by
  have hnone : ({} : Capabilities).supports n = false := by cases n <;> rfl
  rw [build, supports_foldl, hnone]
  simp

/-- Capabilities are known by what they support. -/
theorem ext_supports {c c' : Capabilities} (h : ∀ n, c.supports n = true ↔ c'.supports n = true) : c = c' := by
  have hset : ∀ {α : Type} {s s' : NameSet α}, (∀ a, s.contains a = true ↔ s'.contains a = true) → s = s' := by
    rintro α ⟨p⟩ ⟨p'⟩ h
    exact congrArg NameSet.mk (funext fun a => Bool.eq_iff_iff.mpr (h a))
  obtain ⟨main, predicates, literals, aggregates, scalars⟩ := c
  obtain ⟨main', predicates', literals', aggregates', scalars'⟩ := c'
  obtain rfl : main = main' := hset fun m => h (.main m)
  obtain rfl : predicates = predicates' := hset fun p => h (.predicate p)
  obtain rfl : literals = literals' := hset fun l => h (.literal l)
  obtain rfl : aggregates = aggregates' := hset fun a => h (.aggregate a)
  obtain rfl : scalars = scalars' := hset fun f => h (.scalar f)
  rfl

/-- Two ways of building give the same set exactly if they add the same names, in whatever order and however often. -/
theorem build_eq_build_iff {calls calls' : List Addition} :
    build calls = build calls' ↔
      ∀ n, n ∈ calls.flatMap Addition.names ↔ n ∈ calls'.flatMap Addition.names := by
  constructor
  · intro h n
    rw [← supports_build, ← supports_build, h]
  · intro h
    apply ext_supports
    intro n
    rw [supports_build, supports_build, h]

/-! ## The exchanged form -/

/-- The row of additions that the exchanged form writes. -/
def listed (c : Capabilities) : List Addition :=
  [.main c.main.toList, .predicates c.predicates.toList, .literals c.literals.toList,
    .aggregates c.aggregates.toList, .scalars c.scalars.toList]

theorem toJson_eq (c : Capabilities) : c.toJson = .object (c.listed.map Addition.member) := rfl

theorem field_listed (c : Capabilities) : c.listed.map Addition.field = families := rfl

theorem inDeclaredOrder_listed (c : Capabilities) : ∀ a ∈ c.listed, a.InDeclaredOrder := by
  simp only [listed, List.forall_mem_cons]
  exact ⟨Enumeration.pairwise_position_filter _, Enumeration.pairwise_position_filter _,
    Enumeration.pairwise_position_filter _, Enumeration.pairwise_position_filter _,
    Enumeration.pairwise_position_filter _, List.forall_mem_nil _⟩

theorem mem_listed (c : Capabilities) (n : Capability) :
    n ∈ c.listed.flatMap Addition.names ↔ c.supports n = true := by
  cases n <;> simp [listed, Addition.names, supports, NameSet.toList, Enumeration.mem_all]

/-- What is written leads back to the capabilities it was written from. -/
theorem build_listed (c : Capabilities) : build c.listed = c := by
  apply ext_supports
  intro n
  rw [supports_build, mem_listed]

/-! ## Reading members -/

/-- Nothing was given yet to the family of the call. -/
def lacks (c : Capabilities) : Addition → Prop
  | .main _ => c.main = .empty
  | .predicates _ => c.predicates = .empty
  | .literals _ => c.literals = .empty
  | .aggregates _ => c.aggregates = .empty
  | .scalars _ => c.scalars = .empty

theorem lacks_add {c : Capabilities} {a b : Addition} (h : c.lacks a) (hother : a.field ≠ b.field) :
    (c.add b).lacks a := by
  cases a <;> cases b <;> first | exact h | exact absurd rfl hother

section

-- a way of accepting values in which arrays of names are accepted, whatever is done to the set of them afterwards
variable (accepts : (β : Type) → Reader β → Json → β → Prop)
  (hset : ∀ {α : Type} [BEq α] [Enumeration α] [LawfulEnumeration α] (names : List α),
    accepts (NameSet α) NameSet.reader (.ofTexts (names.map Enumeration.name)) (.ofList names))
  (hmap : ∀ {β γ : Type} {r : Reader β} {v : Json} {b : β} (g : β → γ),
    accepts β r v b → accepts γ (r >>= fun b => pure (g b)) v (g b))

include hset hmap

/-- The field of a family stores its names as a call would add them, if it is the first to do so. -/
theorem accepts_store {c : Capabilities} {a : Addition} (h : c.lacks a) :
    ∃ f, fields.find? (·.name == a.field) = some f ∧ accepts Capabilities (f.store c) (.ofTexts a.texts) (c.add a) := by
  obtain ⟨main, predicates, literals, aggregates, scalars⟩ := c
  cases a <;> cases h <;> exact ⟨_, rfl, hmap _ (hset _)⟩

/-- Members are stored as calls are performed, as long as no family comes twice. -/
theorem stores_additions (calls : List Addition) (hnodup : (calls.map Addition.field).Nodup) :
    ∀ {c : Capabilities} {seen : List String}, (∀ a ∈ calls, c.lacks a ∧ a.field ∉ seen) →
      ∃ seen', Stores (accepts Capabilities) fields (calls.map Addition.member) seen c seen' (calls.foldl add c) ∧
        ∀ key, key ∈ seen ∨ key ∈ calls.map Addition.field → key ∈ seen' := by
  induction calls with
  | nil =>
    intro c seen _
    refine ⟨seen, .nil, ?_⟩
    simp
  | cons a calls ih =>
    intro c seen h
    rw [List.map_cons, List.nodup_cons] at hnodup
    obtain ⟨hlacks, hseen⟩ := h a List.mem_cons_self
    obtain ⟨f, hfield, hstore⟩ := accepts_store accepts hset hmap hlacks
    -- no family comes twice, so those that follow have not been seen and are still empty
    have hrest : ∀ b ∈ calls, (c.add a).lacks b ∧ b.field ∉ a.field :: seen := by
      intro b hb
      obtain ⟨hlacks', hseen'⟩ := h b (List.mem_cons_of_mem a hb)
      have hother : b.field ≠ a.field := fun heq => hnodup.1 (heq ▸ List.mem_map_of_mem hb)
      exact ⟨lacks_add hlacks' hother, List.not_mem_cons_of_ne_of_not_mem hother hseen'⟩
    obtain ⟨seen', hstores, hall⟩ := ih hnodup.2 hrest
    refine ⟨seen', .cons hfield ?_ hstore hstores, ?_⟩
    · rwa [List.contains_eq_mem, decide_eq_false_iff_not]
    · intro key hkey
      rw [List.map_cons, List.mem_cons] at hkey
      rcases hkey with hkey | rfl | hkey
      · exact hall key (.inl (List.mem_cons_of_mem _ hkey))
      · exact hall _ (.inl List.mem_cons_self)
      · exact hall key (.inr hkey)

/-- An object with every family once is stored whole. -/
theorem stores_build {calls : List Addition} (hfields : (calls.map Addition.field).Perm families) :
    ∃ seen, Stores (accepts Capabilities) fields (calls.map Addition.member) [] {} seen (build calls) ∧
      Reader.firstMissing fields seen = none := by
  have hfirst : ∀ a ∈ calls, ({} : Capabilities).lacks a ∧ a.field ∉ [] := by
    intro a _
    refine ⟨?_, List.not_mem_nil⟩
    cases a <;> rfl
  have hnodup : families.Nodup := by decide
  obtain ⟨seen, hstores, hall⟩ := stores_additions accepts hset hmap calls (hfields.nodup_iff.mpr hnodup) hfirst
  refine ⟨seen, hstores, ?_⟩
  -- every family is among the keys, so no field is missing
  have hpresent : ∀ key ∈ families, key ∈ seen := fun key hkey => hall key (.inr (hfields.mem_iff.mpr hkey))
  have hnames : fields.map (·.name) = families := rfl
  rw [Reader.firstMissing, Option.map_eq_none_iff, List.find?_eq_none]
  intro f hf
  have hname := hpresent f.name (hnames ▸ List.mem_map_of_mem hf)
  simp [hname]

end

variable {α : Type} [BEq α] [Enumeration α] [LawfulEnumeration α]

theorem takes_nameSet (names : List α) :
    Takes NameSet.reader 1 (.ofTexts (names.map Enumeration.name)) (NameSet.ofList names) := by
  have hlist : Takes (Reader.list (Reader.variant (Enumeration.variants α))) 1
      (.array (names.map fun a => .string (Enumeration.name a))) names :=
    Json.takes_list fun a _ => Json.takes_variant (Enumeration.lookup_variants a)
  rw [Json.ofTexts, List.map_map]
  exact hlist.map

theorem follows_nameSet (names : List α) :
    Follows NameSet.reader (.ofTexts (names.map Enumeration.name)) (NameSet.ofList names) := by
  refine (Json.follows_list ?_).map
  rw [List.map_map, List.forall₂_map_left_iff, List.forall₂_same]
  exact fun a _ => Json.follows_variant (Enumeration.lookup_variants a)

/-- The exchanged form is read as what it was written from. -/
theorem run_render_toJson (c : Capabilities) : reader.run c.toJson.render = .ok c := by
  obtain ⟨seen, hstores, hmissing⟩ := stores_build (fun _ r v a => Takes r 1 v a) takes_nameSet (fun _ h => h.map)
    (.of_eq c.field_listed)
  rw [build_listed] at hstores
  exact Json.run_render (Json.takes_record hstores hmissing) (by decide)

/-- A text that lists names, each family once, is read as what calls with these names would build. -/
theorem run_of_lists {text : String} {row : List Addition}
    (hparse : Json.parse text = .ok (.object (row.map Addition.member)))
    (hfields : (row.map Addition.field).Perm families) : reader.run text = .ok (build row) := by
  obtain ⟨seen, hstores, hmissing⟩ := stores_build @Follows follows_nameSet (fun _ h => h.map) hfields
  exact Json.run_of_parse hparse (Json.follows_record hstores hmissing)

/-- **Order and repetition leave no trace.** What a row of calls builds supports the names that were given and depends
on nothing else. Its exchanged form lists every family, each in declared order and no name twice, and is read as an
equal value. A text that lists the same names in any order, any number of times, in any order of the families and with
any blanks and escapes, is written again as that one form. -/
theorem one_form_for_each_set :
    (∀ calls n, (build calls).supports n = true ↔ n ∈ calls.flatMap Addition.names) ∧
    (∀ calls calls', build calls = build calls' ↔
      ∀ n, n ∈ calls.flatMap Addition.names ↔ n ∈ calls'.flatMap Addition.names) ∧
    (∀ calls, ∃ row : List Addition, (build calls).toJson = .object (row.map Addition.member) ∧
      row.map Addition.field = families ∧ (∀ a ∈ row, a.InDeclaredOrder) ∧
      ∀ n, n ∈ row.flatMap Addition.names ↔ n ∈ calls.flatMap Addition.names) ∧
    (∀ calls, reader.run (build calls).toJson.render = .ok (build calls)) ∧
    (∀ (calls row : List Addition) (text : String), Json.parse text = .ok (.object (row.map Addition.member)) →
      (row.map Addition.field).Perm families →
      (∀ n, n ∈ row.flatMap Addition.names ↔ n ∈ calls.flatMap Addition.names) →
      ∃ again, reader.run text = .ok again ∧ again.toJson.render = (build calls).toJson.render) := by
  refine ⟨supports_build, fun _ _ => build_eq_build_iff, fun calls => ?_, fun calls => run_render_toJson _, ?_⟩
  · refine ⟨(build calls).listed, toJson_eq _, field_listed _, inDeclaredOrder_listed _, fun n => ?_⟩
    rw [mem_listed, supports_build]
  · intro calls row text hparse hfields hnames
    refine ⟨build row, run_of_lists hparse hfields, ?_⟩
    rw [build_eq_build_iff.mpr hnames]

/-- A text with its families out of order, a name out of its place and one that is repeated, the second time escaped. -/
def rearrangedText : String :=
  "\x7b\"literals\":[],\"main\": [\"JOIN\", \"LIMIT\", \"\\u004aOIN\"],\"scalar_functions\":[]," ++
    "\"predicates\":[],\"aggregate_functions\":[]\x7d"

/-- The additions that the text lists. -/
def rearrangedRow : List Addition :=
  [.literals [], .main [.join, .limit, .join], .scalars [], .predicates [], .aggregates []]

/-- Read and written again, the text has its families and names in order, each once. -/
theorem rearranged_text_written_in_order :
    Json.parse rearrangedText = .ok (.object (rearrangedRow.map Addition.member)) ∧
    ∃ again, reader.run rearrangedText = .ok again ∧
      again.toJson.render = (build [.main [.limit], .main [.join]]).toJson.render := by
  have hparse : Json.parse rearrangedText = .ok (.object (rearrangedRow.map Addition.member)) := by cbv
  refine ⟨hparse, one_form_for_each_set.2.2.2.2 _ _ _ hparse (by decide) fun n => ?_⟩
  show n ∈ [Capability.main .join, .main .limit, .main .join] ↔ n ∈ [Capability.main .limit, .main .join]
  grind

end Capabilities

end Pushdown
