/-!
# JSON values

A JSON text as a tree. The members of an object are kept in order and none is dropped; what a name that
comes twice means is left to the reader of the object.

* `Json` is the type of values, `Json.Number` that of numbers.
* `Json.ofText` and `Json.record` build the values that a program writes.
-/

namespace Crosslink

/-- A number as it was written: plain digits are their value, anything else is kept as it is. -/
inductive Json.Number where
  /-- a number written with digits only -/
  | natural (n : Nat)
  /-- a number with a sign, a fraction or an exponent -/
  | written (literal : List Char)
  deriving DecidableEq, Repr

/-- A JSON value. A string whose escapes hold one half of a surrogate pair can be read over but is no
text; it stands as `none`. -/
inductive Json where
  | null
  | bool (b : Bool)
  | number (n : Json.Number)
  | string (s : Option String)
  | array (items : List Json)
  | object (members : List (Option String × Json))
  deriving Repr, Inhabited

namespace Json

/-- A text as a value. -/
def ofText (s : String) : Json := .string (some s)

/-- A natural number as a value. -/
def natural (n : Nat) : Json := .number (.natural n)

/-- An object with the given members. -/
def record (members : List (String × Json)) : Json :=
  .object (members.map fun (name, value) => (some name, value))

/-- A text that may be missing as a value. -/
def optionalText : Option String → Json
  | none => .null
  | some s => ofText s

end Json

end Crosslink
