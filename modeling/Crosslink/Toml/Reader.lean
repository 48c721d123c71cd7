import Crosslink.Toml.Basic
import Crosslink.Toml.Moment
import Crosslink.Toml.Numeral
import Crosslink.Toml.Quoted

/-!
# Reading TOML

A text is a row of statements, one on a line: a value under a key, or the header of a table that the values
below it belong to. The tables come from running the statements one after the other.

* `statements?` reads the statements of a text, `Statement.run?` puts one into effect.
* `parse?` gives the content of the whole text.
* Brackets are not nested eighty deep, and no key has eighty parts; `fuel` bounds how often the readers call
  each other, and the length of the text is always enough.
-/

namespace Crosslink.Toml

/-- What a line of a text says. -/
inductive Statement where
  /-- `[key]`: what follows belongs to the table of this key -/
  | table (key : Key)
  /-- `[[key]]`: what follows belongs to one more of the tables of this key -/
  | oneMore (key : Key)
  /-- `key = value` -/
  | pair (key : Key) (value : Value)
  deriving Repr

/-- The bound on nested brackets and on the parts of a key. -/
def limit : Nat := 80

/-- A text without the white space in front. -/
def skipGap (cs : List Char) : List Char := cs.dropWhile isGap

/-- A text without the white space, line breaks and comments in front. -/
def skipLines : (inComment : Bool) → List Char → List Char
  | _, [] => []
  | true, c :: rest => skipLines (c ≠ '\n') rest
  | false, c :: rest =>
    if c = '#' then skipLines true rest
    else if isGap c ∨ c = '\n' then skipLines false rest
    else c :: rest

/-- What follows the end of a line, where only a comment may be left. -/
def lineEnd? (cs : List Char) : Option (List Char) :=
  match skipGap cs with
  | [] => some []
  | '\n' :: rest => some rest
  | '#' :: rest => some ((rest.dropWhile (· ≠ '\n')).drop 1)
  | _ => none

/-! ## Keys

A key is a row of names with dots in between, each of them bare or in quotes. How many there may be is
bounded, since each opens a table inside the one before. -/

/-- The characters of which a name consists that is not in quotes. -/
def isBare (c : Char) : Bool := c.isAlphanum || c = '-' || c = '_'

/-- A name and what follows it. -/
def name? (cs : List Char) : Option (String × List Char) :=
  match quoted? cs with
  | some read => some read
  | none =>
    match cs.takeWhile isBare with
    | [] => none
    | name => some (.ofList name, cs.drop name.length)

/-- At most `count` names with dots between them, and what follows. -/
def names? : (count : Nat) → List Char → Option (List String × List Char)
  | 0, _ => none
  | count + 1, cs =>
    match name? (skipGap cs) with
    | none => none
    | some (name, rest) =>
      match skipGap rest with
      | '.' :: rest => (names? count rest).map fun (names, rest) => (name :: names, rest)
      | rest => some ([name], rest)

/-- A key, with the white space around it, and what follows. -/
def key? (cs : List Char) : Option (Key × List Char) :=
  match names? (limit - 1) cs with
  | some (names, rest) => names.getLast?.map fun name => (⟨names.dropLast, name⟩, rest)
  | none => none

/-! ## Values

Values without brackets are told apart by how they begin; those with brackets contain others, up to a
bound on how deep. -/

/-- A value as it is written, given what follows it. -/
def literal (cs rest : List Char) : String := .ofList (cs.take (cs.length - rest.length))

/-- A value without brackets, and what follows it. -/
def plain? (cs : List Char) : Option (Value × List Char) :=
  ((quotedLines? cs).map fun (text, rest) => (.string text, rest))
    <|> (("true".toList.isPrefixOf? cs).map fun rest => (.boolean true, rest))
    <|> (("false".toList.isPrefixOf? cs).map fun rest => (.boolean false, rest))
    <|> ((moment? cs).map fun rest => (.moment (literal cs rest), rest))
    <|> ((fraction? cs <|> whole? cs).map fun rest => (.number (literal cs rest), rest))

mutual

/-- A value with less than `depth` brackets inside each other, and what follows it. -/
def value? : (fuel depth : Nat) → List Char → Option (Value × List Char)
  | 0, _, _ => none
  | fuel + 1, depth, cs =>
    match cs with
    | '[' :: rest =>
      if depth ≤ 1 then none
      else (items? fuel (depth - 1) rest).map fun (items, rest) => (.array items, rest)
    | '\x7b' :: rest =>
      if depth ≤ 1 then none
      else
        match pairs? fuel (depth - 1) rest with
        | none => none
        | some (pairs, rest) =>
          (Members.ofPairs? .braces pairs).map fun members => (.table .braces members, rest)
    | _ => plain? cs

/-- The items of an array up to its closing bracket, and what follows that. -/
def items? : (fuel depth : Nat) → List Char → Option (List Value × List Char)
  | 0, _, _ => none
  | fuel + 1, depth, cs =>
    match skipLines false cs with
    | ']' :: rest => some ([], rest)
    | cs =>
      match value? fuel depth cs with
      | none => none
      | some (item, rest) =>
        match skipLines false rest with
        | ']' :: rest => some ([item], rest)
        | ',' :: rest =>
          (items? fuel depth rest).map fun (items, rest) => (item :: items, rest)
        | _ => none

/-- The pairs of a table in braces up to the closing one, and what follows that. -/
def pairs? : (fuel depth : Nat) → List Char → Option (List (Key × Value) × List Char)
  | 0, _, _ => none
  | fuel + 1, depth, cs =>
    match skipGap cs with
    | '\x7d' :: rest => some ([], rest)
    | cs => morePairs? fuel depth cs

/-- At least one pair of a table in braces, and what follows the closing brace. -/
def morePairs? : (fuel depth : Nat) → List Char → Option (List (Key × Value) × List Char)
  | 0, _, _ => none
  | fuel + 1, depth, cs =>
    match key? cs with
    | some (key, '=' :: rest) =>
      match value? fuel depth (skipGap rest) with
      | none => none
      | some (value, rest) =>
        match skipGap rest with
        | '\x7d' :: rest => some ([(key, value)], rest)
        | ',' :: rest =>
          (morePairs? fuel depth rest).map fun (pairs, rest) => ((key, value) :: pairs, rest)
        | _ => none
    | _ => none

end

/-! ## Texts

A text is read statement by statement, and then the statements are put into effect from the first to the
last. One that can neither be read nor be put into effect makes the whole text be refused. -/

/-- A statement and what follows its brackets or its value. -/
def statement? (cs : List Char) : Option (Statement × List Char) :=
  match cs with
  | '[' :: '[' :: rest =>
    match key? rest with
    | some (key, ']' :: ']' :: rest) => some (.oneMore key, rest)
    | _ => none
  | '[' :: rest =>
    match key? rest with
    | some (key, ']' :: rest) => some (.table key, rest)
    | _ => none
  | _ =>
    match key? cs with
    | some (key, '=' :: rest) =>
      (value? (3 * rest.length + 3) limit (skipGap rest)).map fun (value, rest) =>
        (.pair key value, rest)
    | _ => none

/-- The statements of a text. -/
def statements? : (fuel : Nat) → List Char → Option (List Statement)
  | 0, _ => none
  | fuel + 1, cs =>
    match skipLines false cs with
    | [] => some []
    | cs =>
      match statement? cs with
      | none => none
      | some (statement, rest) =>
        match lineEnd? rest with
        | none => none
        | some rest => (statements? fuel rest).map (statement :: ·)

/-- A text with a line feed for every line break; `none` if another control character than a tab is in it. -/
def unifyBreaks? : List Char → Option (List Char)
  | [] => some []
  | '\r' :: '\n' :: rest => (unifyBreaks? rest).map ('\n' :: ·)
  | c :: rest =>
    if c = '\n' ∨ c = '\t' ∨ (0x20 ≤ c.toNat ∧ c.toNat ≠ 0x7F) then
      (unifyBreaks? rest).map (c :: ·)
    else none

/-- A text without the mark of its byte order. -/
def dropMark : List Char → List Char
  | '\uFEFF' :: rest => rest
  | cs => cs

/-- What has been read of a text so far. -/
structure Progress where
  /-- the path of the table that values go into -/
  current : List String := []
  /-- the content of the text -/
  members : Members := []

/-- Puts a statement into effect. -/
def Statement.run? (progress : Progress) : Statement → Option Progress
  | table key =>
    (progress.members.open? key).map fun members => ⟨key.parents ++ [key.name], members⟩
  | oneMore key =>
    (progress.members.append? key).map fun members => ⟨key.parents ++ [key.name], members⟩
  | pair key value =>
    (progress.members.within? .byHeader (Members.define? key value) progress.current .header).map
      fun members => { progress with members }

/-- The content of a text; `none` if it is no TOML. -/
def parse? (text : String) : Option Members :=
  match unifyBreaks? (dropMark text.toList) with
  | none => none
  | some cs =>
    match statements? (cs.length + 1) cs with
    | none => none
    | some statements => (statements.foldlM Statement.run? {}).map Progress.members

end Crosslink.Toml
