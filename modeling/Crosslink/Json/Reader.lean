import Crosslink.Json.Basic
import Crosslink.Text.Digits

/-!
# Reading JSON

The value that a JSON text writes. Nothing is accepted beyond the grammar: no comments, no commas at the
end of a list, no zeros in front of a number, no control characters in a string, nothing but white space
around the value.

* `Json.parse?` reads a text.
* The readers of the parts hand back what follows the part; `fuel` bounds how often they call each other,
  and the length of the text is always enough.
-/

namespace Crosslink.Json

/-- The white space of JSON. -/
def isSpace (c : Char) : Bool :=
  c = ' ' || c = '\n' || c = '\t' || c = '\r'

/-- A text without the white space in front. -/
def skipSpace (cs : List Char) : List Char := cs.dropWhile isSpace

/-- The code of a unit escape behind its `u`, and what follows it. -/
def unit? : List Char → Option (Nat × List Char)
  | a :: b :: c :: d :: rest => (Text.readDigits? 16 [a, b, c, d]).map (·, rest)
  | _ => none

/-- Puts a character in front of a string that is text. -/
def prepend (c : Char) (s : Option (List Char) × List Char) : Option (List Char) × List Char :=
  (s.1.map (c :: ·), s.2)

/-- The character of an escape of one letter. -/
def escaped? (c : Char) : Option Char :=
  match c with
  | '"' => some '"'
  | '\\' => some '\\'
  | '/' => some '/'
  | 'b' => some '\x08'
  | 'f' => some '\x0c'
  | 'n' => some '\n'
  | 'r' => some '\r'
  | 't' => some '\t'
  | _ => none

/-- The rest of a string behind its opening quote: its characters, unless one half of a surrogate pair
stands alone in it, and what follows the closing quote. -/
def stringRest? : Nat → List Char → Option (Option (List Char) × List Char)
  | 0, _ => none
  | _ + 1, [] => none
  | _ + 1, '"' :: rest => some (some [], rest)
  | fuel + 1, '\\' :: 'u' :: rest =>
    match unit? rest with
    | none => none
    | some (unit, rest) =>
      if 0xD800 ≤ unit ∧ unit < 0xDC00 then
        match rest with
        | '\\' :: 'u' :: more =>
          match unit? more with
          | none => none
          | some (low, after) =>
            if 0xDC00 ≤ low ∧ low < 0xE000 then
              (stringRest? fuel after).map
                (prepend (.ofNat (0x10000 + (unit - 0xD800) * 0x400 + (low - 0xDC00))))
            else (stringRest? fuel rest).map fun s => (none, s.2)
        | _ => (stringRest? fuel rest).map fun s => (none, s.2)
      else if 0xDC00 ≤ unit ∧ unit < 0xE000 then (stringRest? fuel rest).map fun s => (none, s.2)
      else (stringRest? fuel rest).map (prepend (.ofNat unit))
  | fuel + 1, '\\' :: c :: rest =>
    match escaped? c with
    | none => none
    | some c => (stringRest? fuel rest).map (prepend c)
  | fuel + 1, c :: rest =>
    if c = '\\' ∨ c.toNat < 0x20 then none else (stringRest? fuel rest).map (prepend c)

/-- A string and what follows it. -/
def string? : List Char → Option (Option String × List Char)
  | '"' :: rest => (stringRest? (rest.length + 1) rest).map fun s => (s.1.map .ofList, s.2)
  | _ => none

/-- At least one digit, and what follows. -/
def digits? (cs : List Char) : Option (List Char × List Char) :=
  let digits := cs.takeWhile Char.isDigit
  if digits = [] then none else some (digits, cs.drop digits.length)

/-- The digits in front of a fraction: a zero alone, or digits that do not begin with one. -/
def wholePart? (cs : List Char) : Option (List Char × List Char) :=
  match digits? cs with
  | none => none
  | some (digits, rest) =>
    if digits.length > 1 ∧ digits.head? = some '0' then none else some (digits, rest)

/-- A fraction, if there is one. -/
def fraction? : List Char → Option (List Char × List Char)
  | '.' :: rest => (digits? rest).map fun (digits, rest) => ('.' :: digits, rest)
  | rest => some ([], rest)

/-- An exponent, if there is one. -/
def exponent? : List Char → Option (List Char × List Char)
  | e :: rest =>
    if e = 'e' ∨ e = 'E' then
      match rest with
      | sign :: more =>
        if sign = '+' ∨ sign = '-' then
          (digits? more).map fun (digits, rest) => (e :: sign :: digits, rest)
        else (digits? rest).map fun (digits, rest) => (e :: digits, rest)
      | [] => none
    else some ([], e :: rest)
  | [] => some ([], [])

/-- A number and what follows it. -/
def number? (cs : List Char) : Option (Number × List Char) :=
  let (sign, unsigned) := match cs with
    | '-' :: rest => (['-'], rest)
    | _ => ([], cs)
  match wholePart? unsigned with
  | none => none
  | some (whole, rest) =>
    match fraction? rest with
    | none => none
    | some (fraction, rest) =>
      match exponent? rest with
      | none => none
      | some (exponent, rest) =>
        if sign = [] ∧ fraction = [] ∧ exponent = [] then
          (Text.readDigits? 10 whole).map fun n => (.natural n, rest)
        else some (.written (sign ++ whole ++ fraction ++ exponent), rest)

mutual

/-- A value and what follows it; there is no white space in front. -/
def value? : Nat → List Char → Option (Json × List Char)
  | 0, _ => none
  | _ + 1, [] => none
  | fuel + 1, c :: rest =>
    match c with
    | 'n' => ("ull".toList.isPrefixOf? rest).map (Json.null, ·)
    | 't' => ("rue".toList.isPrefixOf? rest).map (Json.bool true, ·)
    | 'f' => ("alse".toList.isPrefixOf? rest).map (Json.bool false, ·)
    | '"' => (string? (c :: rest)).map fun (s, rest) => (Json.string s, rest)
    | '[' =>
      match skipSpace rest with
      | ']' :: rest => some (.array [], rest)
      | rest => (items? fuel rest).map fun (items, rest) => (Json.array items, rest)
    | '\x7b' =>
      match skipSpace rest with
      | '\x7d' :: rest => some (.object [], rest)
      | rest => (members? fuel rest).map fun (members, rest) => (Json.object members, rest)
    | _ => (number? (c :: rest)).map fun (n, rest) => (Json.number n, rest)

/-- The items of an array up to its closing bracket, and what follows that. -/
def items? : Nat → List Char → Option (List Json × List Char)
  | 0, _ => none
  | fuel + 1, cs =>
    match value? fuel cs with
    | none => none
    | some (item, rest) =>
      match skipSpace rest with
      | ']' :: rest => some ([item], rest)
      | ',' :: rest =>
        (items? fuel (skipSpace rest)).map fun (items, rest) => (item :: items, rest)
      | _ => none

/-- The members of an object up to its closing brace, and what follows that. -/
def members? : Nat → List Char → Option (List (Option String × Json) × List Char)
  | 0, _ => none
  | fuel + 1, cs =>
    match string? cs with
    | none => none
    | some (name, rest) =>
      match skipSpace rest with
      | ':' :: rest =>
        match value? fuel (skipSpace rest) with
        | none => none
        | some (value, rest) =>
          match skipSpace rest with
          | '\x7d' :: rest => some ([(name, value)], rest)
          | ',' :: rest =>
            (members? fuel (skipSpace rest)).map fun (members, rest) =>
              ((name, value) :: members, rest)
          | _ => none
      | _ => none

end

/-- The value that a text writes; `none` if it writes none. -/
def parse? (text : String) : Option Json :=
  let cs := skipSpace text.toList
  match value? (cs.length + 1) cs with
  | some (json, rest) => if skipSpace rest = [] then some json else none
  | none => none

end Crosslink.Json
