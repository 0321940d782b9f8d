import Pushdown.Json.Buffer
import Pushdown.Json.Skip

/-!
# `Json.Decode` — reading values of a known shape

A record is written as an object or, field by field, as an array. Names that it does not have are passed
over; a name that comes twice is refused. A name out of a fixed list is written as a string, or as an object
with that one key and `null`. A tagged value is buffered whole before its fields are looked at, because its
tag may come last.

## Contents

* `text`, `boolean`, `integer`, `optional`, `list`, `variant` — readers of single values.
* `Field`, `record` — records.
* `TaggedField`, `tagged` — values whose fields depend on a tag.
-/

namespace Pushdown.Json

namespace Reader

/-- The start of the next value. -/
def startValue : Reader Char := do
  match ← peekToken with
  | none => failPeek .endInValue
  | some c => pure c

/-- A string, with the words of the message that refuses anything else. -/
def textAs (expected : String) : Reader String := do
  let c ← startValue
  if c = '"' then
    eat
    stringBody
  else mismatch expected

/-- A string. -/
def text : Reader String := textAs "a string"

/-- A truth value. -/
def boolean : Reader Bool := do
  let c ← startValue
  if c = 't' then
    eat
    word "rue".toList
    pure true
  else if c = 'f' then
    eat
    word "alse".toList
    pure false
  else mismatch "a boolean"

/-- The integers of a fixed width, and what messages call them. -/
structure Width where
  least : Int
  greatest : Int
  name : String

/-- Signed integers of 32 bits. -/
def signed32 : Width := ⟨-2147483648, 2147483647, "i32"⟩

/-- Unsigned integers of 32 bits. -/
def unsigned32 : Width := ⟨0, 4294967295, "u32"⟩

/-- The integer of a numeral, if it fits. -/
def Width.check (w : Width) : Numeral → Except Cause Int
  | .integer i =>
    if w.least ≤ i && i ≤ w.greatest then .ok i else .error (.invalidValue (.integer i) w.name)
  | .float x => .error (.invalidType (.float x) w.name)

/-- An integer of a fixed width. -/
def integer (w : Width) : Reader Int := do
  let c ← startValue
  if c = '-' then
    eat
    let n ← number true
    placed (ofExcept (w.check n))
  else if isDigit c then
    let n ← number false
    placed (ofExcept (w.check n))
  else mismatch w.name

/-- A value or `null`. -/
def optional {α : Type} (r : Reader α) : Reader (Option α) := do
  match ← peekToken with
  | some 'n' =>
    eat
    word "ull".toList
    pure none
  | _ =>
    let a ← r
    pure (some a)

/-- The items of an array, `passed` being those already read, the last first. -/
def listFrom {α : Type} (r : Reader α) : Nat → Bool → List α → Reader (List α)
  | 0, _, _ => fail .expectedValue
  | fuel + 1, first, passed => do
    if ← nextItem first then
      let a ← r
      listFrom r fuel false (a :: passed)
    else pure passed.reverse

/-- An array of values. -/
def list {α : Type} (r : Reader α) : Reader (List α) := do
  let c ← startValue
  if c = '[' then
    let n ← remaining
    enclosed (listFrom r (n + 1) true []) endList
  else mismatch "a sequence"

/-- The entries of an object, `passed` being those already read, the last first. -/
def entriesFrom {α : Type} (r : Reader α) : Nat → Bool → List (String × α) → Reader (List (String × α))
  | 0, _, _ => fail .expectedValue
  | fuel + 1, first, passed => do
    if ← nextKey first then
      let key ← stringBody
      colon
      let a ← r
      entriesFrom r fuel false ((key, a) :: passed)
    else pure passed.reverse

/-- An object whose keys are free, in the order of the text. -/
def entries {α : Type} (r : Reader α) : Reader (List (String × α)) := do
  let c ← startValue
  if c = '\x7b' then
    let n ← remaining
    enclosed (entriesFrom r (n + 1) true []) endObject
  else mismatch "a map"

/-! ## Names out of a list -/

/-- The value that a name stands for. -/
def lookupVariant {α : Type} (known : List (String × α)) (name : String) : Except Cause α :=
  match known.lookup name with
  | some a => .ok a
  | none => .error (.unknownVariant name (known.map Prod.fst))

/-- The name of a variant. -/
def variantName {α : Type} (known : List (String × α)) : Reader α := placed do
  let name ← textAs "variant identifier"
  ofExcept (lookupVariant known name)

/-- The name of a variant as the key of an object, whose opening bracket is consumed. -/
def variantKey {α : Type} (known : List (String × α)) : Reader α := do
  match ← peekToken with
  | none => failPeek .endInObject
  | some c =>
    if c = '"' then variantName known
    else if c = '\x7d' then failPeek .expectedValue
    else failPeek .keyNotString

/-- The `null` that may stand for a variant without fields. -/
def unit : Reader Unit := do
  let c ← startValue
  if c = 'n' then
    eat
    word "ull".toList
  else mismatch "unit"

/-- One name out of a list. -/
def variant {α : Type} (known : List (String × α)) : Reader α := do
  match ← peekToken with
  | none => failPeek .endInValue
  | some c =>
    if c = '\x7b' then
      descend
      let a ← variantKey known
      colon
      unit
      ascend
      match ← peekToken with
      | none => fail .endInObject
      | some d =>
        if d = '\x7d' then
          eat
          pure a
        else fail .expectedValue
    else if c = '"' then variantName known
    else failPeek .expectedValue

end Reader

/-! ## Records -/

/-- A field of a record of type `α`: its name, how its value is stored, and whether it may be left out. -/
structure Field (α : Type) where
  name : String
  store : α → Reader α
  /-- An object may lack it. -/
  optional : Bool := false
  /-- An array may end before it. -/
  trailing : Bool := false

/-- How many elements a message asks for. -/
def elementCount (n : Nat) : String :=
  intText n ++ (if n = 1 then " element" else " elements")

namespace Reader

/-- The fields of an array, in order; `index` counts those already read. -/
def arrayFields {α : Type} (expected : String) : List (Field α) → Nat → α → Reader α
  | [], _, a => pure a
  | f :: fs, index, a => do
    if ← nextItem (index == 0) then
      let a' ← f.store a
      arrayFields expected fs (index + 1) a'
    else if f.trailing then arrayFields expected fs (index + 1) a
    else raise (.invalidLength index expected)

/-- The fields of an object, in the order of the text; `seen` names those already read. -/
def objectFields {α : Type} (fields : List (Field α)) : Nat → Bool → List String → α → Reader (List String × α)
  | 0, _, _, _ => fail .expectedValue
  | fuel + 1, first, seen, a => do
    if ← nextKey first then
      let key ← stringBody
      match fields.find? (·.name == key) with
      | some f =>
        if seen.contains key then raise (.duplicateField key)
        else
          colon
          let a' ← f.store a
          objectFields fields fuel false (key :: seen) a'
      | none =>
        colon
        skipValue
        objectFields fields fuel false seen a
    else pure (seen, a)

/-- The first field that an object must not lack and lacks. -/
def firstMissing {α : Type} (fields : List (Field α)) (seen : List String) : Option String :=
  (fields.find? fun f => !f.optional && !seen.contains f.name).map (·.name)

/-- A record that starts as `init`. -/
def record {α : Type} (name : String) (fields : List (Field α)) (init : α) : Reader α := do
  let c ← startValue
  if c = '[' then
    enclosed (arrayFields ("struct " ++ name ++ " with " ++ elementCount fields.length) fields 0 init)
      endList
  else if c = '\x7b' then
    let n ← remaining
    enclosed (do
      let (seen, a) ← objectFields fields (n + 1) true [] init
      match firstMissing fields seen with
      | some missing => raise (.missingField missing)
      | none => pure a) endObject
  else mismatch ("struct " ++ name)

end Reader

/-! ## Tagged values -/

namespace Decode

/-- A buffered string. -/
def text : Json → Except Cause String
  | .string s => .ok s
  | j => .error (.invalidType (Found.ofJson j) "a string")

/-- A buffered truth value. -/
def boolean : Json → Except Cause Bool
  | .bool b => .ok b
  | j => .error (.invalidType (Found.ofJson j) "a boolean")

/-- A buffered integer of a fixed width. -/
def integer (w : Reader.Width) : Json → Except Cause Int
  | .int i => w.check (.integer i)
  | j => .error (.invalidType (Found.ofJson j) w.name)

/-- A buffered value or `null`. -/
def optional {α : Type} (d : Json → Except Cause α) : Json → Except Cause (Option α)
  | .null => .ok none
  | j => (d j).map some

/-- A buffered array. -/
def list {α : Type} (d : Json → Except Cause α) : Json → Except Cause (List α)
  | .array items => items.mapM d
  | j => .error (.invalidType (Found.ofJson j) "a sequence")

/-- A buffered name out of a list. -/
def variant {α : Type} (known : List (String × α)) : Json → Except Cause α
  | .string s => Reader.lookupVariant known s
  | .object [(name, v)] => do
    let a ← Reader.lookupVariant known name
    match v with
    | .null => .ok a
    | .object [] => .ok a
    | j => .error (.invalidType (Found.ofJson j) "unit")
  | .object _ => .error (.invalidValue .map "map with a single key")
  | j => .error (.invalidType (Found.ofJson j) "string or map")

end Decode

/-- A field of a tagged value: its name and how its buffered value is stored. -/
structure TaggedField (α : Type) where
  name : String
  store : α → Json → Except Cause α
  /-- An object may lack it. -/
  optional : Bool := false

/-- One shape of a tagged value: its tag, its full name, its fields, and the value that starts it. -/
structure Shape (α : Type) where
  tag : String
  name : String
  fields : List (TaggedField α)
  init : α

namespace Shape

/-- The fields of a buffered object, in the order of the text. -/
def storeMembers {α : Type} (shape : Shape α) :
    List (String × Json) → List String → α → Except Cause (List String × α)
  | [], seen, a => .ok (seen, a)
  | (key, v) :: rest, seen, a =>
    match shape.fields.find? (·.name == key) with
    | none => shape.storeMembers rest seen a
    | some f =>
      if seen.contains key then .error (.duplicateField key)
      else do
        let a' ← f.store a v
        shape.storeMembers rest (key :: seen) a'

/-- The fields of a buffered array, in order; `index` counts those already stored. -/
def storeItems {α : Type} (shape : Shape α) :
    List (TaggedField α) → List Json → Nat → α → Except Cause α
  | [], rest, index, a =>
    if rest.isEmpty then .ok a
    else .error (.invalidLength (index + rest.length) (elementCount index ++ " in sequence"))
  | _ :: _, [], index, _ =>
    .error (.invalidLength index
      ("struct variant " ++ shape.name ++ " with " ++ elementCount shape.fields.length))
  | f :: fs, v :: rest, index, a => do
    let a' ← f.store a v
    shape.storeItems fs rest (index + 1) a'

/-- The value of this shape with the buffered fields. -/
def decode {α : Type} (shape : Shape α) : Json → Except Cause α
  | .object members => do
    let (seen, a) ← shape.storeMembers members [] shape.init
    match shape.fields.find? fun f => !f.optional && !seen.contains f.name with
    | some f => .error (.missingField f.name)
    | none => .ok a
  | .array items => shape.storeItems shape.fields items 0 shape.init
  | j => .error (.invalidType (Found.ofJson j) ("struct variant " ++ shape.name))

end Shape

namespace Reader

/-- The name of the member that holds the tag. -/
def tagName : String := "type"

/-- The members of a tagged object: its shape, once its tag was read, and the other members. -/
def taggedMembers {α : Type} (shapes : List (String × Shape α)) :
    Nat → Bool → Option (Shape α) → List (String × Json) → Reader (Option (Shape α) × List (String × Json))
  | 0, _, _, _ => fail .expectedValue
  | fuel + 1, first, tag, passed => do
    if ← nextKey first then
      let key ← stringBody
      if key = tagName then
        if tag.isSome then raise (.duplicateField tagName)
        else
          colon
          let shape ← variantName shapes
          taggedMembers shapes fuel false (some shape) passed
      else
        colon
        let v ← value
        taggedMembers shapes fuel false tag ((key, v) :: passed)
    else pure (tag, passed.reverse)

/-- A value whose shape is named by its tag. -/
def tagged {α : Type} (name : String) (shapes : List (Shape α)) : Reader α := do
  let known := shapes.map fun s => (s.tag, s)
  let c ← startValue
  if c = '[' then
    let (shape, items) ← enclosed (do
      if ← nextItem true then
        let shape ← variantName known
        let n ← remaining
        let items ← itemsFrom (fuelFor n) false []
        pure (shape, items)
      else raise (.missingField tagName)) endList
    ofExcept (shape.decode (.array items))
  else if c = '\x7b' then
    let n ← remaining
    let (shape, members) ← enclosed (do
      match ← taggedMembers known (n + 1) true none [] with
      | (some shape, members) => pure (shape, members)
      | (none, _) => raise (.missingField tagName)) endObject
    ofExcept (shape.decode (.object members))
  else mismatch ("internally tagged enum " ++ name)

end Reader

end Pushdown.Json
