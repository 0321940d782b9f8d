import Pushdown.Proofs.Json.Number

/-!
# `Proofs.Json.Value` — readers of a shape take the values that are written in it

A reader takes a value if, wherever the written value stands and whatever delimits it, the reader yields its result
and stops right behind it, as long as enough levels of nesting are left. Arrays and objects are read in loops; both
loops follow the list of what was written, one item or one member at a time.

## Contents

* `Takes` — a reader takes a written value.
* `takes_text`, `takes_boolean`, `takes_optional`, `takes_variant`, `takes_value` — single values.
* `takes_list`, `takes_value_array` — arrays.
* `Stores`, `takes_record` — records, member by member.
* `takes_tagged` — values whose fields depend on a tag.
* `run_render` — the text of a value that a reader takes.
-/

namespace Pushdown.Json

open Reader (Reads)

-- every lemma below looks at written values, so the equations of the printer are made here, once
attribute [local simp] chars itemsChars membersChars

variable {α β : Type} {r : Reader α} {k d : Nat} {v : Json} {a : α} {rest : List Char}

/-- The reader takes the written value `v`, `k` levels deep, as `a`. -/
structure Takes (r : Reader α) (k : Nat) (v : Json) (a : α) : Prop where
  begins : ∃ c cs, v.chars = c :: cs ∧ isJsonBlank c = false ∧ c ≠ ']'
  reads : ∀ {d rest}, k < d → Delimited rest → Reads r d (v.chars ++ rest) a rest

namespace Takes

theorem mono {k' : Nat} (h : Takes r k v a) (hk : k ≤ k') : Takes r k' v a :=
  ⟨h.begins, fun hd hrest => h.reads (Nat.lt_of_le_of_lt hk hd) hrest⟩

/-- What is done to the value afterwards does not touch the text. -/
theorem map {g : α → β} (h : Takes r k v a) : Takes (r >>= fun a => pure (g a)) k v (g a) :=
  ⟨h.begins, fun hd hrest => (h.reads hd hrest).map⟩

end Takes

/-! ## Single values -/

/-- A value whose text says by its first character what it is. -/
theorem takes_of_reads (c : Char) (cs : List Char) (hchars : v.chars = c :: cs) (hblank : isJsonBlank c = false)
    (hend : c ≠ ']') (hreads : ∀ {d rest}, Reads r d (c :: cs ++ rest) a rest) : Takes r 0 v a :=
  ⟨⟨c, cs, hchars, hblank, hend⟩, fun _ _ => hchars ▸ hreads⟩

theorem takes_text (s : String) : Takes Reader.text 0 (.string s) s :=
  takes_of_reads '"' _ (by rw [chars, stringChars]; rfl) rfl (by decide) (Reader.reads_textAs _ s)

theorem takes_boolean (b : Bool) : Takes Reader.boolean 0 (.bool b) b := by
  cases b with
  | true =>
    exact takes_of_reads 't' "rue".toList (by rw [chars]; rfl) rfl (by decide)
      ((Reader.reads_startValue rfl).bind Reader.reads_letters)
  | false =>
    exact takes_of_reads 'f' "alse".toList (by rw [chars]; rfl) rfl (by decide)
      ((Reader.reads_startValue rfl).bind Reader.reads_letters)

/-- A number begins with a sign or a digit, which neither is blank nor closes an array. -/
theorem begins_int (i : Int) : ∃ c cs, (Json.int i).chars = c :: cs ∧ isJsonBlank c = false ∧ c ≠ ']' := by
  rw [chars, intChars]
  split
  · exact ⟨'-', _, rfl, rfl, by decide⟩
  · have hdigit := all_isDigit_toDigits i.natAbs
    cases hcs : Nat.toDigits 10 i.natAbs with
    | nil => exact absurd hcs Nat.toDigits_ne_nil
    | cons c cs =>
      have hc : isDigit c = true := hdigit c (hcs ▸ List.mem_cons_self)
      exact ⟨c, cs, rfl, isJsonBlank_of_isDigit hc, ne_of_isDigit hc rfl⟩

theorem takes_integer {w : Reader.Width} {i : Int} (hi : Fits i) (hw : w.check (.integer i) = .ok i) :
    Takes (Reader.integer w) 0 (.int i) i := by
  refine ⟨begins_int i, fun _ hrest => ?_⟩
  rw [chars]
  exact Reader.reads_integer hi hw hrest

/-- A value whose text does not begin like `null` is not taken for it. -/
theorem takes_optional (h : Takes r k v a) (hnull : v.chars.head? ≠ some 'n') :
    Takes (Reader.optional r) k v (some a) := by
  refine ⟨h.begins, fun hd hrest => ?_⟩
  have hread := (h.reads hd hrest).map (g := some)
  obtain ⟨c, cs, hcs, hblank, -⟩ := h.begins
  rw [hcs, List.head?_cons] at hnull
  rw [hcs, List.cons_append] at hread ⊢
  refine (Reader.reads_peekToken hblank).bind ?_
  split
  next heq => exact absurd heq hnull
  next => exact hread

theorem takes_optional_text (s : String) : Takes (Reader.optional Reader.text) 0 (.string s) (some s) := by
  apply takes_optional (takes_text s)
  rw [chars, stringChars]
  show some '"' ≠ some 'n'
  decide

theorem Reader.reads_variantName {known : List (String × α)} {s : String} (h : known.lookup s = some a) :
    Reads (variantName known) d (stringChars s ++ rest) a rest := by
  refine ((reads_textAs _ s).bind ?_).placed
  rw [lookupVariant, h]
  exact reads_pure

theorem takes_variant {known : List (String × α)} {s : String} (h : known.lookup s = some a) :
    Takes (Reader.variant known) 0 (.string s) a := by
  refine ⟨(takes_text s).begins, fun {d rest} _ _ => ?_⟩
  have hread : Reads (Reader.variantName known) d (stringChars s ++ rest) a rest := Reader.reads_variantName h
  rw [Reader.stringChars_append] at hread
  rw [chars, Reader.stringChars_append]
  exact (Reader.reads_peekToken rfl).bind hread

/-- Neither an array nor an object, and no number that would be read as a double. -/
def isScalar : Json → Prop
  | .null | .bool _ | .string _ => True
  | .int i => Fits i
  | .float _ | .array _ | .object _ => False

/-- A single value is buffered as it was written, in one step. -/
theorem takes_valueFrom (h : v.isScalar) (fuel : Nat) : Takes (Reader.valueFrom (fuel + 1)) 0 v v := by
  cases v with
  | null =>
    exact takes_of_reads 'n' "ull".toList (by rw [chars]; rfl) rfl (by decide)
      ((Reader.reads_peekToken rfl).bind Reader.reads_letters)
  | bool b =>
    cases b with
    | true =>
      exact takes_of_reads 't' "rue".toList (by rw [chars]; rfl) rfl (by decide)
        ((Reader.reads_peekToken rfl).bind Reader.reads_letters)
    | false =>
      exact takes_of_reads 'f' "alse".toList (by rw [chars]; rfl) rfl (by decide)
        ((Reader.reads_peekToken rfl).bind Reader.reads_letters)
  | int i =>
    refine ⟨begins_int i, fun _ hrest => ?_⟩
    rw [chars]
    obtain ⟨cs, hcs, hread⟩ | ⟨c, cs, hcs, hdigit, hread⟩ := intChars_cases h hrest
    · rw [hcs]
      exact (Reader.reads_peekToken rfl).bind (Reader.reads_eat.bind hread.map)
    · rw [hcs]
      -- a digit is none of the letters and the sign that are asked for before it
      refine (Reader.reads_peekToken (isJsonBlank_of_isDigit hdigit)).bind ?_
      dsimp only
      rw [if_neg (ne_of_isDigit hdigit rfl), if_neg (ne_of_isDigit hdigit rfl), if_neg (ne_of_isDigit hdigit rfl),
        if_neg (ne_of_isDigit hdigit rfl), if_pos hdigit]
      exact hread.map
  | string s =>
    refine ⟨(takes_text s).begins, fun _ _ => ?_⟩
    rw [chars, Reader.stringChars_append]
    exact (Reader.reads_peekToken rfl).bind (Reader.reads_eat.bind (Reader.reads_stringBody s).map)
  | float x => exact h.elim
  | array items => exact h.elim
  | object members => exact h.elim

theorem takes_value (h : v.isScalar) : Takes Reader.value 0 v v :=
  ⟨(takes_valueFrom h 0).begins, fun hd hrest =>
    Reader.reads_remaining.bind ((takes_valueFrom h _).reads hd hrest)⟩

/-! ## Arrays -/

/-- The comma in front of an item or a member, unless it is the first. -/
def comma (first : Bool) : List Char := if first then [] else [',']

/-- The items of an array, from the first one or from a later one on. -/
def moreItems (first : Bool) : List Json → List Char
  | [] => []
  | v :: vs => comma first ++ (v.chars ++ moreItems false vs)

/-- The written items of an array, as the reader meets them: with a comma in front of each but the first. -/
theorem itemsChars_eq (vs : List Json) : itemsChars vs = moreItems true vs := by
  induction vs with
  | nil => rw [itemsChars, moreItems]
  | cons v vs ih =>
    cases vs with
    | nil => simp [moreItems, comma]
    | cons w vs =>
      rw [itemsChars, ih]
      simp [moreItems, comma]

theorem chars_array_append (vs : List Json) (rest : List Char) :
    (Json.array vs).chars ++ rest = '[' :: (moreItems true vs ++ ']' :: rest) := by
  simp [itemsChars_eq]

theorem delimited_moreItems (vs : List Json) (rest : List Char) : Delimited (moreItems false vs ++ ']' :: rest) := by
  cases vs with
  | nil => exact .inr (.inl rfl)
  | cons v vs => exact .inl rfl

theorem length_le_length_moreItems (vs : List Json) : vs.length ≤ (moreItems false vs).length := by
  induction vs with
  | nil => exact Nat.le_refl 0
  | cons v vs ih =>
    have hcomma : (comma false).length = 1 := rfl
    simp only [moreItems, List.length_append, List.length_cons, hcomma]
    omega

/-- Every item behind the first brings its comma. -/
theorem length_le_length_moreItems_succ (vs : List Json) : vs.length ≤ (moreItems true vs).length + 1 := by
  cases vs with
  | nil => exact Nat.zero_le _
  | cons v vs =>
    have hmore := length_le_length_moreItems vs
    simp only [moreItems, List.length_cons, List.length_append]
    omega

namespace Reader

theorem reads_nextItem_end {first : Bool} : Reads (nextItem first) d (']' :: rest) false (']' :: rest) :=
  (reads_peekToken rfl).bind reads_pure

/-- In front of an item the reader finds a comma, if it is not the first, and goes on. -/
theorem reads_nextItem {first : Bool} {c : Char} {cs : List Char} (hblank : isJsonBlank c = false)
    (hend : c ≠ ']') : Reads (nextItem first) d (comma first ++ c :: cs) true (c :: cs) := by
  cases first with
  | true =>
    refine (reads_peekToken hblank).bind ?_
    dsimp only
    rw [if_neg hend]
    exact reads_pure
  | false =>
    refine (reads_peekToken rfl).bind (reads_eat.bind ((reads_peekToken hblank).bind ?_))
    dsimp only
    rw [if_neg hend]
    exact reads_pure

/-- One item is one step of the loop, and the delimiter behind it is where the next step starts. -/
theorem reads_listFrom {toJson : α → Json} {xs : List α} (h : ∀ x ∈ xs, Takes r k (toJson x) x) (hd : k < d) :
    ∀ fuel first passed, xs.length < fuel →
      Reads (listFrom r fuel first passed) d (moreItems first (xs.map toJson) ++ ']' :: rest)
        (passed.reverse ++ xs) (']' :: rest) := by
  induction xs with
  | nil =>
    intro fuel first passed hfuel
    obtain ⟨fuel, rfl⟩ := Nat.exists_eq_add_one.2 hfuel
    rw [List.append_nil]
    exact reads_nextItem_end.bind reads_pure
  | cons x xs ih =>
    intro fuel first passed hfuel
    obtain ⟨fuel, rfl⟩ : ∃ n, fuel = n + 1 := Nat.exists_eq_add_one.2 (by omega)
    have hx := h x List.mem_cons_self
    have hread := hx.reads hd (delimited_moreItems (xs.map toJson) rest)
    have hmore := ih (fun y hy => h y (List.mem_cons_of_mem x hy)) fuel false (x :: passed)
      (Nat.lt_of_succ_lt_succ hfuel)
    rw [List.reverse_cons, List.append_assoc] at hmore
    obtain ⟨c, cs, hcs, hblank, hend⟩ := hx.begins
    rw [List.map_cons, moreItems, List.append_assoc, List.append_assoc]
    rw [hcs] at hread ⊢
    exact (reads_nextItem hblank hend).bind (hread.bind hmore)

end Reader

/-- An array whose items are taken is taken, one level deeper. -/
theorem takes_list {toJson : α → Json} {xs : List α} (h : ∀ x ∈ xs, Takes r k (toJson x) x) :
    Takes (Reader.list r) (k + 1) (.array (xs.map toJson)) xs := by
  refine ⟨⟨'[', _, by rw [chars]; rfl, rfl, by decide⟩, fun {d rest} hd hrest => ?_⟩
  obtain ⟨d, rfl⟩ : ∃ n, d = n + 1 := Nat.exists_eq_add_one.2 (by omega)
  have hlength := length_le_length_moreItems_succ (xs.map toJson)
  rw [chars_array_append]
  refine (Reader.reads_startValue rfl).bind ?_
  rw [if_pos rfl]
  refine Reader.reads_remaining.bind ?_
  refine Reader.reads_enclosed (by omega) (Reader.reads_listFrom h (by omega) _ true [] ?_) Reader.reads_endList
  simp only [List.length_map, List.length_cons, List.length_append] at hlength ⊢
  omega

/-- The items of an array are buffered one after the other, each in one step of the loop. -/
theorem Reader.reads_itemsFrom {vs : List Json} (h : ∀ v ∈ vs, v.isScalar) (hd : 0 < d) :
    ∀ fuel first passed, vs.length + 1 < fuel →
      Reads (itemsFrom fuel first passed) d (moreItems first vs ++ ']' :: rest) (passed.reverse ++ vs)
        (']' :: rest) := by
  induction vs with
  | nil =>
    intro fuel first passed hfuel
    obtain ⟨fuel, rfl⟩ : ∃ n, fuel = n + 1 := Nat.exists_eq_add_one.2 (by omega)
    rw [List.append_nil]
    exact reads_nextItem_end.bind reads_pure
  | cons v vs ih =>
    intro fuel first passed hfuel
    obtain ⟨fuel, rfl⟩ : ∃ n, fuel = n + 1 + 1 := ⟨fuel - 2, by omega⟩
    have hv := takes_valueFrom (h v List.mem_cons_self) fuel
    have hread := hv.reads hd (delimited_moreItems vs rest)
    have hmore := ih (fun w hw => h w (List.mem_cons_of_mem v hw)) (fuel + 1) false (v :: passed)
      (Nat.lt_of_succ_lt_succ hfuel)
    rw [List.reverse_cons, List.append_assoc] at hmore
    obtain ⟨c, cs, hcs, hblank, hend⟩ := hv.begins
    rw [moreItems, List.append_assoc, List.append_assoc]
    rw [hcs] at hread ⊢
    exact (reads_nextItem hblank hend).bind (hread.bind hmore)

/-- An array of single values is buffered as it was written. -/
theorem takes_value_array {vs : List Json} (h : ∀ v ∈ vs, v.isScalar) :
    Takes Reader.value 1 (.array vs) (.array vs) := by
  refine ⟨⟨'[', _, by rw [chars]; rfl, rfl, by decide⟩, fun {d rest} hd hrest => ?_⟩
  obtain ⟨d, rfl⟩ : ∃ n, d = n + 1 := Nat.exists_eq_add_one.2 (by omega)
  have hlength := length_le_length_moreItems_succ vs
  rw [chars_array_append]
  refine Reader.reads_remaining.bind ((Reader.reads_peekToken rfl).bind ?_)
  refine (Reader.reads_enclosed (by omega) (Reader.reads_itemsFrom h (by omega) _ true [] ?_)
    Reader.reads_endList).map
  simp only [List.length_cons, List.length_append]
  omega

/-! ## Objects -/

/-- The members of an object, from the first one or from a later one on. -/
def moreMembers (first : Bool) : List (String × Json) → List Char
  | [] => []
  | (key, v) :: ms => comma first ++ (stringChars key ++ (':' :: (v.chars ++ moreMembers false ms)))

/-- The written members of an object, as the reader meets them. -/
theorem membersChars_eq (ms : List (String × Json)) : membersChars ms = moreMembers true ms := by
  induction ms with
  | nil => rw [membersChars, moreMembers]
  | cons m ms ih =>
    obtain ⟨key, v⟩ := m
    cases ms with
    | nil => simp [moreMembers, comma]
    | cons m ms =>
      rw [membersChars, ih]
      obtain ⟨key', v'⟩ := m
      simp [moreMembers, comma]

theorem chars_object_append (ms : List (String × Json)) (rest : List Char) :
    (Json.object ms).chars ++ rest = '\x7b' :: (moreMembers true ms ++ '\x7d' :: rest) := by
  simp [membersChars_eq]

theorem moreMembers_cons_append (first : Bool) (key : String) (v : Json) (ms : List (String × Json))
    (rest : List Char) :
    moreMembers first ((key, v) :: ms) ++ rest =
      comma first ++ (stringChars key ++ ':' :: (v.chars ++ (moreMembers false ms ++ rest))) := by
  simp [moreMembers]

theorem delimited_moreMembers (ms : List (String × Json)) (rest : List Char) :
    Delimited (moreMembers false ms ++ '\x7d' :: rest) := by
  cases ms with
  | nil => exact .inr (.inr rfl)
  | cons m ms => exact .inl rfl

/-- Every member takes at least one character, so that the text has enough fuel for its members. -/
theorem length_le_length_moreMembers (ms : List (String × Json)) :
    ∀ first, ms.length ≤ (moreMembers first ms).length := by
  induction ms with
  | nil => exact fun _ => Nat.le_refl 0
  | cons m ms ih =>
    intro first
    have := ih false
    simp only [moreMembers, List.length_append, List.length_cons]
    omega

namespace Reader

theorem reads_nextKey_end {first : Bool} : Reads (nextKey first) d ('\x7d' :: rest) false ('\x7d' :: rest) :=
  (reads_peekToken rfl).bind reads_pure

/-- The opening quote of a key, with the comma in front of it. -/
theorem reads_nextKey {first : Bool} {key : String} :
    Reads (nextKey first) d (comma first ++ (stringChars key ++ rest)) true
      (key.toList.flatMap escapeChar ++ '"' :: rest) := by
  have hquote : ∀ cs, Reads (do eat; pure true) d ('"' :: cs) true cs := fun _ => reads_eat.bind reads_pure
  rw [stringChars_append]
  cases first with
  | true => exact (reads_peekToken rfl).bind (hquote _)
  | false => exact (reads_peekToken rfl).bind (reads_eat.bind ((reads_peekToken rfl).bind (hquote _)))

end Reader

/-- Storing the members one after the other leads from one record to another, each value being accepted by the reader of
its field. `seen` names the fields that were stored before, and those that are stored at the end. -/
inductive Stores (accepts : Reader α → Json → α → Prop) (fields : List (Field α)) :
    List (String × Json) → List String → α → List String → α → Prop
  | nil {seen : List String} {a : α} : Stores accepts fields [] seen a seen a
  | cons {key : String} {v : Json} {ms : List (String × Json)} {f : Field α} {seen seen' : List String} {a a' b : α}
      (hfield : fields.find? (·.name == key) = some f) (hnew : seen.contains key = false)
      (hstore : accepts (f.store a) v a') (hrest : Stores accepts fields ms (key :: seen) a' seen' b) :
      Stores accepts fields ((key, v) :: ms) seen a seen' b

/-- The loop over the members of an object stores what they lead to. -/
theorem Reader.reads_objectFields {fields : List (Field α)} {ms : List (String × Json)} {seen seen' : List String}
    {a b : α} (h : Stores (Takes · k) fields ms seen a seen' b) (hd : k < d) :
    ∀ fuel first, ms.length < fuel →
      Reads (objectFields fields fuel first seen a) d (moreMembers first ms ++ '\x7d' :: rest) (seen', b)
        ('\x7d' :: rest) := by
  -- along the members that are stored: the loop takes one of them with each step of its fuel
  induction h with
  | nil =>
    intro fuel first hfuel
    obtain ⟨fuel, rfl⟩ := Nat.exists_eq_add_one.2 hfuel
    exact reads_nextKey_end.bind reads_pure
  | @cons key v ms f seen seen' a a' b hfield hnew hstore hrest ih =>
    intro fuel first hfuel
    obtain ⟨fuel, rfl⟩ : ∃ n, fuel = n + 1 := Nat.exists_eq_add_one.2 (by omega)
    have hread := hstore.reads hd (delimited_moreMembers ms rest)
    have hmore := ih fuel false (Nat.lt_of_succ_lt_succ hfuel)
    rw [moreMembers_cons_append]
    refine reads_nextKey.bind ((reads_stringBody key).bind ?_)
    rw [hfield]
    dsimp only
    rw [if_neg (by rw [hnew]; exact Bool.false_ne_true)]
    exact reads_colon.bind (hread.bind hmore)

/-- An object whose members store one field after the other is taken as the record they lead to, one level deeper,
if no field is missing then. -/
theorem takes_record {name : String} {fields : List (Field α)} {ms : List (String × Json)} {seen : List String}
    {init a : α} (h : Stores (Takes · k) fields ms [] init seen a) (hmissing : Reader.firstMissing fields seen = none) :
    Takes (Reader.record name fields init) (k + 1) (.object ms) a := by
  refine ⟨⟨'\x7b', _, by rw [chars]; rfl, rfl, by decide⟩, fun {d rest} hd hrest => ?_⟩
  obtain ⟨d, rfl⟩ : ∃ n, d = n + 1 := Nat.exists_eq_add_one.2 (by omega)
  have hlength := length_le_length_moreMembers ms true
  rw [chars_object_append]
  refine (Reader.reads_startValue rfl).bind ?_
  rw [if_neg (by decide), if_pos rfl]
  refine Reader.reads_remaining.bind (Reader.reads_enclosed (by omega) ?_ Reader.reads_endObject)
  refine (Reader.reads_objectFields h (by omega) _ true ?_).bind ?_
  · simp only [List.length_cons, List.length_append]
    omega
  · dsimp only
    rw [hmissing]
    exact Reader.reads_pure

/-! ## Tagged values -/

namespace Shape

variable {shape : Shape α} {ms : List (String × Json)} {seen : List String}

/-- A member that is known and new is stored, and the rest follows. -/
theorem storeMembers_cons {f : TaggedField α} {key : String} {a' : α} {stored : Except Cause (List String × α)}
    (hfield : shape.fields.find? (·.name == key) = some f) (hnew : seen.contains key = false)
    (hstore : f.store a v = .ok a') (hrest : shape.storeMembers ms (key :: seen) a' = stored) :
    shape.storeMembers ((key, v) :: ms) seen a = stored := by
  rw [storeMembers, hfield]
  dsimp only
  rw [hnew, hstore]
  exact hrest

theorem decode_object (hstore : shape.storeMembers ms [] shape.init = .ok (seen, a))
    (hmissing : shape.fields.find? (fun f => !f.optional && !seen.contains f.name) = none) :
    shape.decode (.object ms) = .ok a := by
  rw [decode, hstore]
  dsimp only [bind, Except.bind]
  rw [hmissing]

end Shape

/-- Behind the tag, the members are buffered as they were written. -/
theorem Reader.reads_taggedMembers {known : List (String × Shape α)} {shape : Shape α} {ms : List (String × Json)}
    (h : ∀ m ∈ ms, m.1 ≠ tagName ∧ Takes value k m.2 m.2) (hd : k < d) :
    ∀ fuel passed, ms.length < fuel →
      Reads (taggedMembers known fuel false (some shape) passed) d (moreMembers false ms ++ '\x7d' :: rest)
        (some shape, passed.reverse ++ ms) ('\x7d' :: rest) := by
  induction ms with
  | nil =>
    intro fuel passed hfuel
    obtain ⟨fuel, rfl⟩ := Nat.exists_eq_add_one.2 hfuel
    rw [List.append_nil]
    exact reads_nextKey_end.bind reads_pure
  | cons m ms ih =>
    intro fuel passed hfuel
    obtain ⟨fuel, rfl⟩ : ∃ n, fuel = n + 1 := Nat.exists_eq_add_one.2 (by omega)
    obtain ⟨key, v⟩ := m
    obtain ⟨hkey, htakes⟩ := h (key, v) List.mem_cons_self
    have hread := htakes.reads hd (delimited_moreMembers ms rest)
    have hmore := ih (fun m hm => h m (List.mem_cons_of_mem _ hm)) fuel ((key, v) :: passed)
      (Nat.lt_of_succ_lt_succ hfuel)
    rw [List.reverse_cons, List.append_assoc] at hmore
    rw [moreMembers_cons_append]
    refine reads_nextKey.bind ((reads_stringBody key).bind ?_)
    rw [if_neg hkey]
    exact reads_colon.bind (hread.bind hmore)

/-- With the tag in front, the shape is known before any other member is read. -/
theorem Reader.reads_taggedMembers_first {known : List (String × Shape α)} {tag : String} {shape : Shape α}
    {ms : List (String × Json)} (hshape : known.lookup tag = some shape)
    (hms : ∀ m ∈ ms, m.1 ≠ tagName ∧ Takes value k m.2 m.2) (hd : k < d) {fuel : Nat} (hfuel : ms.length < fuel) :
    Reads (taggedMembers known (fuel + 1) true none []) d
      (moreMembers true ((tagName, .string tag) :: ms) ++ '\x7d' :: rest) (some shape, ms) ('\x7d' :: rest) := by
  rw [moreMembers_cons_append, chars]
  refine reads_nextKey.bind ((reads_stringBody tagName).bind ?_)
  rw [if_pos rfl]
  exact reads_colon.bind ((reads_variantName hshape).bind (reads_taggedMembers hms hd fuel [] hfuel))

/-- An object with its tag in front is taken as what the shape of the tag makes of the other members. -/
theorem takes_tagged {name tag : String} {shapes : List (Shape α)} {shape : Shape α} {ms : List (String × Json)}
    (hshape : (shapes.map fun s => (s.tag, s)).lookup tag = some shape)
    (hms : ∀ m ∈ ms, m.1 ≠ Reader.tagName ∧ Takes Reader.value k m.2 m.2)
    (hdecode : shape.decode (.object ms) = .ok a) :
    Takes (Reader.tagged name shapes) (k + 1) (.object ((Reader.tagName, .string tag) :: ms)) a := by
  refine ⟨⟨'\x7b', _, by rw [chars]; rfl, rfl, by decide⟩, fun {d rest} hd hrest => ?_⟩
  obtain ⟨d, rfl⟩ : ∃ n, d = n + 1 := Nat.exists_eq_add_one.2 (by omega)
  have hfuel : ms.length <
      ('\x7b' :: (moreMembers true ((Reader.tagName, .string tag) :: ms) ++ '\x7d' :: rest)).length := by
    have := length_le_length_moreMembers ((Reader.tagName, .string tag) :: ms) true
    simp only [List.length_cons, List.length_append] at this ⊢
    omega
  have hdeep : k < d := by omega
  rw [chars_object_append]
  refine (Reader.reads_startValue rfl).bind ?_
  rw [if_neg (by decide), if_pos rfl]
  refine Reader.reads_remaining.bind ((Reader.reads_enclosed (a := (shape, ms)) (by omega)
    ((Reader.reads_taggedMembers_first hshape hms hdeep hfuel).bind Reader.reads_pure) Reader.reads_endObject).bind ?_)
  dsimp only
  rw [hdecode]
  exact Reader.reads_pure

/-! ## Whole texts -/

/-- The text of a value that a reader takes is read as what it takes it for. -/
theorem run_render (h : Takes r k v a) (hk : k < 128) : r.run v.render = .ok a := by
  obtain ⟨p, hp⟩ := h.reads hk delimited_nil ⟨1, 0⟩
  rw [List.append_nil] at hp
  -- nothing is left behind the value
  have hend : Reader.peekToken ⟨[], p, 128⟩ = (.ok none, ⟨[], p, 128⟩) := rfl
  rw [Reader.run, Cursor.start, render, String.toList_ofList, Reader.bind_of_ok hp, Reader.bind_of_ok hend]
  rfl

end Pushdown.Json
