import Crosslink.Json.Basic

/-!
# Writing JSON

A JSON value as text, on one line or with one item on a line and two spaces for each level.

* `Json.compact` and `Json.pretty` are the two layouts.
* In a string only quotes, backslashes and control characters are escaped: `escape`.
-/

namespace Crosslink.Json

/-- A digit in base sixteen. -/
def hexDigit (n : Nat) : Char :=
  if n < 10 then .ofNat (48 + n) else .ofNat (87 + n)

/-- How a character is written in a string. -/
def escape (c : Char) : List Char :=
  if c = '"' then ['\\', '"']
  else if c = '\\' then ['\\', '\\']
  else if c = '\x08' then ['\\', 'b']
  else if c = '\t' then ['\\', 't']
  else if c = '\n' then ['\\', 'n']
  else if c = '\x0c' then ['\\', 'f']
  else if c = '\r' then ['\\', 'r']
  else if c.toNat < 0x20 then
    ['\\', 'u', '0', '0', hexDigit (c.toNat / 16), hexDigit (c.toNat % 16)]
  else [c]

/-- A text in quotes. -/
def quote (s : String) : List Char :=
  '"' :: (s.toList.flatMap escape ++ ['"'])

/-- A string in quotes; one that is no text is written as the empty text. -/
def quoteString (s : Option String) : List Char :=
  quote (s.getD "")

/-- A number as it was written. -/
def writeNumber : Number → List Char
  | .natural n => (toString n).toList
  | .written literal => literal

/-- The beginning of a line at a level; nothing where all is written on one line. -/
def newline : Option Nat → List Char
  | none => []
  | some level => '\n' :: List.replicate (2 * level) ' '

/-- What stands between a name and its value. -/
def colon : Option Nat → List Char
  | none => [':']
  | some _ => [':', ' ']

mutual

/-- A value as text, from a level on if it may take several lines. -/
def write (level : Option Nat) : Json → List Char
  | .null => "null".toList
  | .bool b => (if b then "true" else "false").toList
  | .number n => writeNumber n
  | .string s => quoteString s
  | .array [] => ['[', ']']
  | .array (item :: items) =>
    let inner := level.map (· + 1)
    '[' :: (newline inner ++ write inner item ++ writeItems inner items ++ newline level ++ [']'])
  | .object [] => ['\x7b', '\x7d']
  | .object ((name, value) :: members) =>
    let inner := level.map (· + 1)
    '\x7b' :: (newline inner ++ quoteString name ++ colon level ++ write inner value
      ++ writeMembers inner members ++ newline level ++ ['\x7d'])

/-- The items of an array behind the first. -/
def writeItems (level : Option Nat) : List Json → List Char
  | [] => []
  | item :: items => ',' :: (newline level ++ write level item ++ writeItems level items)

/-- The members of an object behind the first. -/
def writeMembers (level : Option Nat) : List (Option String × Json) → List Char
  | [] => []
  | (name, value) :: members =>
    ',' :: (newline level ++ quoteString name ++ colon level ++ write level value
      ++ writeMembers level members)

end

/-- A value as text on one line. -/
def compact (json : Json) : String := .ofList (write none json)

/-- A value as text with one item on a line. -/
def pretty (json : Json) : String := .ofList (write (some 0) json)

end Crosslink.Json
