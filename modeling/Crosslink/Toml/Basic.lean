/-!
# TOML values and tables

A TOML text names values by keys and gathers them in tables. A table can be written in several places, and
how it came about decides what may still be put into it.

* `Toml.Value` is the type of values, `Toml.Members` the content of a table.
* `Members.define?` puts a value under a key, as a line `key = value` of a table does.
* `Members.open?` and `Members.append?` make the table that a header names.
-/

namespace Crosslink.Toml

/-- The key of a value or a table: its own name, and the names of the tables on the way to it. -/
structure Key where
  /-- the tables to go through -/
  parents : List String
  /-- the name in the last of them -/
  name : String
  deriving DecidableEq, Repr

/-- How a table came about. -/
inductive Origin where
  /-- by a header of its own -/
  | header
  /-- by the header of a table inside it -/
  | passage
  /-- by a key with several parts -/
  | dotted
  /-- as a value in braces -/
  | braces
  deriving DecidableEq, Repr

/-- A value. Numbers and moments are kept as they were written. -/
inductive Value where
  | string (text : String)
  | boolean (b : Bool)
  /-- a whole number or a fraction -/
  | number (literal : String)
  /-- a date, a time, or both -/
  | moment (literal : String)
  | array (items : List Value)
  | table (origin : Origin) (members : List (String × Value))
  /-- tables with one header each, the last of them in front -/
  | tables (items : List (List (String × Value)))
  deriving Repr

/-- The content of a table: what its names stand for. -/
abbrev Members := List (String × Value)

/-- The two ways of going into the tables of a key. -/
inductive Way where
  /-- as a header does -/
  | byHeader
  /-- as a key in front of a value does -/
  | byKey
  deriving DecidableEq, Repr

/-- How a table comes about that is made on the way. -/
def Way.origin : Way → Origin
  | byHeader => .passage
  | byKey => .dotted

/-- Whether a table may be gone into. A table in braces is complete, and a key in front of a value does not
reach into a table that has a header. -/
def Way.enters : Way → Origin → Bool
  | _, .braces => false
  | byHeader, _ => true
  | byKey, origin => origin ≠ .header

namespace Members

/-- `members` with another value for `name`, which is put at the end if it is new. -/
def set (name : String) (value : Value) : Members → Members
  | [] => [(name, value)]
  | (n, v) :: members =>
    if n = name then (name, value) :: members else (n, v) :: set name value members

/-- Changes the table that is reached through `path` from a table with `members`. Tables that are not there
are made; of the tables that share a header, the last one is meant. -/
def within? (way : Way) (change : Origin → Members → Option Members) :
    List String → Origin → Members → Option Members
  | [], origin, members => change origin members
  | name :: path, _, members =>
    match members.lookup name with
    | none =>
      (within? way change path way.origin []).map fun inner =>
        members.set name (.table way.origin inner)
    | some (.table origin inner) =>
      if way.enters origin then
        (within? way change path origin inner).map fun inner =>
          members.set name (.table origin inner)
      else none
    | some (.tables (last :: front)) =>
      (within? way change path .header last).map fun last =>
        members.set name (.tables (last :: front))
    | some _ => none

/-- Puts a value under a name that is not taken. -/
def add? (name : String) (value : Value) (members : Members) : Option Members :=
  match members.lookup name with
  | none => some (members.set name value)
  | some _ => none

/-- Puts a value under a key. A key with several parts ends in a table that such keys have made, a key with
one part in a table that they have not. -/
def define? (key : Key) (value : Value) (origin : Origin) (members : Members) : Option Members :=
  members.within? .byKey
    (fun origin inner =>
      if origin = .dotted ↔ key.parents ≠ [] then inner.add? key.name value else none)
    key.parents origin

/-- Makes the table that a header names. It may be there already if only the headers of tables inside it
have come so far. -/
def open? (key : Key) (members : Members) : Option Members :=
  members.within? .byHeader
    (fun _ inner =>
      match inner.lookup key.name with
      | none => some (inner.set key.name (.table .header []))
      | some (.table .passage content) => some (inner.set key.name (.table .header content))
      | some _ => none)
    key.parents .header

/-- Makes one more of the tables that share a header. -/
def append? (key : Key) (members : Members) : Option Members :=
  members.within? .byHeader
    (fun _ inner =>
      match inner.lookup key.name with
      | none => some (inner.set key.name (.tables [[]]))
      | some (.tables items) => some (inner.set key.name (.tables ([] :: items)))
      | some _ => none)
    key.parents .header

/-- The content of a table that is written with these keys and values. -/
def ofPairs? (origin : Origin) (pairs : List (Key × Value)) : Option Members :=
  pairs.foldlM (fun members (key, value) => define? key value origin members) []

end Members

end Crosslink.Toml
