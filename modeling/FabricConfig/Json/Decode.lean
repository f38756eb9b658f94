import FabricConfig.Json.Parser
/-!
# Typed values from JSON

A record is written as an object, or as the array of its fields in order. In an object a field of
the record stands at most once and other fields are ignored; an array has no more items than the
record has fields. Where keys are free, as in a map, the last of equal keys counts.
-/

namespace FabricConfig.Json

/-! ### Scalars -/

/-- A string. -/
def asText? : Json → Option String
  | .text value => some value
  | _ => none

/-- A truth value. -/
def asBool? : Json → Option Bool
  | .bool value => some value
  | _ => none

/-- An integer literal. -/
def asInteger? : Json → Option Int
  | .integer value => some value
  | _ => none

/-- An integer literal of 16 bits without a sign. -/
def asUInt16? (json : Json) : Option UInt16 :=
  json.asInteger?.bind fun value =>
    if 0 ≤ value ∧ value < UInt16.size then some (UInt16.ofNat value.toNat) else none

/-- An integer literal of 32 bits without a sign. -/
def asUInt32? (json : Json) : Option UInt32 :=
  json.asInteger?.bind fun value =>
    if 0 ≤ value ∧ value < UInt32.size then some (UInt32.ofNat value.toNat) else none

/-- An integer literal of 32 bits with a sign. -/
def asInt32? (json : Json) : Option Int32 :=
  json.asInteger?.bind fun value =>
    if Int32.minValue.toInt ≤ value ∧ value ≤ Int32.maxValue.toInt then some (Int32.ofInt value)
    else none

/-- An integer literal of 64 bits with a sign. -/
def asInt64? (json : Json) : Option Int64 :=
  json.asInteger?.bind fun value =>
    if Int64.minValue.toInt ≤ value ∧ value ≤ Int64.maxValue.toInt then some (Int64.ofInt value)
    else none

/-! ### Collections -/

/-- An array whose items all decode. -/
def asList? {α : Type} (decode : Json → Option α) : Json → Option (List α)
  | .array items => items.mapM decode
  | _ => none

/-- The keys and decoded values of an object, in order. -/
def asPairs? {α : Type} (decode : Json → Option α) : Json → Option (List (String × α))
  | .object fields => fields.mapM fun (key, value) => (decode value).map (key, ·)
  | _ => none

/-- `null` or a value that decodes. -/
def asOption? {α : Type} (decode : Json → Option α) : Json → Option (Option α)
  | .null => some none
  | json => (decode json).map some

/-! ### Records -/

/-- The fields that a record was given. -/
abbrev Record := List (String × Json)

/-- The fields of an object that belong to a record, if none of them stands twice. -/
def recordOfFields? (names : List String) (fields : List (String × Json)) : Option Record :=
  let known := fields.filter (names.contains ·.1)
  if (known.map (·.1)).Nodup then some known else none

/-- The record with the given fields that a value stands for. -/
def asRecord? (names : List String) : Json → Option Record
  | .object fields => recordOfFields? names fields
  | .array items => if items.length ≤ names.length then some (names.zip items) else none
  | _ => none

namespace Record

/-- A field that must be given. -/
def required? {α : Type} (given : Record) (name : String) (decode : Json → Option α) :
    Option α :=
  (given.lookup name).bind decode

/-- A field that takes the value `otherwise` when it is not given. -/
def optional? {α : Type} (given : Record) (name : String) (decode : Json → Option α)
    (otherwise : α) : Option α :=
  match given.lookup name with
  | none => some otherwise
  | some json => decode json

end Record

/-! ### Named choices -/

/-- The name of a choice without content: a string, or an object with that one key and `null`. -/
def asName? : Json → Option String
  | .text name => some name
  | .object [(name, .null)] => some name
  | _ => none

end FabricConfig.Json
