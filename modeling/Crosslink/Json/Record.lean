import Crosslink.Json.Basic

/-!
# Reading records

A record is written as an object with a member for each field, in any order and possibly with members
that are no fields, or as an array of its fields in order. A field that comes twice makes the text no
record.

* `Json.fields?` finds the values of the fields, `none` standing for a field that is not there.
* `Json.tagged?` finds the name and the value of an alternative.
* `asText?`, `asOptionalText?`, `asNatural?`, `asBool?`, `asList?` read the values.
-/

namespace Crosslink.Json

/-- The names of the members of an object; `none` if one of them is no text. -/
def names? (members : List (Option String × Json)) : Option (List String) :=
  members.mapM (·.1)

/-- The values of the fields of a record. An array must give all fields, or may leave out the last ones
if `mayEndEarly`. -/
def fields? (mayEndEarly : Bool) (fields : List String) : Json → Option (List (Option Json))
  | .array items =>
    if items.length = fields.length ∨ (mayEndEarly ∧ items.length < fields.length) then
      some (items.map some ++ List.replicate (fields.length - items.length) none)
    else none
  | .object members =>
    match names? members with
    | none => none
    | some names =>
      if fields.all (names.count · ≤ 1) then
        some (fields.map fun field => members.lookup (some field))
      else none
  | _ => none

/-- The name and the value of an alternative: an object with this one member, or a name alone. -/
def tagged? : Json → Option (String × Option Json)
  | .object [(some name, value)] => some (name, some value)
  | .string (some name) => some (name, none)
  | _ => none

/-- A value as text. -/
def asText? : Json → Option String
  | .string s => s
  | _ => none

/-- A value as text that may be missing. -/
def asOptionalText? : Json → Option (Option String)
  | .null => some none
  | json => (asText? json).map some

/-- A value as a natural number of 64 bits. -/
def asNatural? : Json → Option Nat
  | .number (.natural n) => if n < Nat.pow 2 64 then some n else none
  | _ => none

/-- A value as a truth value. -/
def asBool? : Json → Option Bool
  | .bool b => some b
  | _ => none

/-- A value as a list of items. -/
def asList? {α : Type} (item? : Json → Option α) : Json → Option (List α)
  | .array items => items.mapM item?
  | _ => none

end Crosslink.Json
