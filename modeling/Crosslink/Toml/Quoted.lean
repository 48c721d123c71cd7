import Crosslink.Text.Digits

/-!
# Reading quoted text

Text stands between double quotes, where a backslash begins an escape, or between single quotes, where every
character stands for itself. Between three quotes it may run over several lines; a line break right behind
the opening quotes is not part of it, and one or two quotes may stand in it anywhere.

The readers take what follows the opening quotes and hand back the text and what follows the closing ones.
Line breaks are line feeds here, and no other control characters than tabs are left.

* `basicRest?` and `literalRest?` read the two kinds of text.
* `quoted?` reads either kind on one line, `quotedLines?` also over several.
-/

namespace Crosslink.Toml

/-- White space on a line. -/
def isGap (c : Char) : Bool := c = ' ' || c = '\t'

/-- The character whose code is written in base sixteen. -/
def coded? (digits : List Char) : Option Char :=
  match Text.readDigits? 16 digits with
  | some code => if code.isValidChar then some (.ofNat code) else none
  | none => none

/-- The character that an escape of one letter stands for. -/
def escaped? (letter : Char) : Option Char :=
  match letter with
  | 'b' => some '\x08'
  | 't' => some '\t'
  | 'n' => some '\n'
  | 'f' => some '\x0c'
  | 'r' => some '\r'
  | '"' => some '"'
  | '\\' => some '\\'
  | _ => none

/-- Puts a character in front of a text that has been read. -/
def prepend (c : Char) (read : List Char × List Char) : List Char × List Char :=
  (c :: read.1, read.2)

/-- The end of a text over several lines, behind three quotes: up to two more quotes belong to the text. -/
def closing (quote : Char) (rest : List Char) : List Char × List Char :=
  let inside := (rest.take 2).takeWhile (· = quote)
  (inside, rest.drop inside.length)

/-- Whether a line ends here, up to white space. -/
def endsLine (cs : List Char) : Bool := (cs.dropWhile isGap).head? = some '\n'

/-- Text between double quotes. A backslash at the end of a line is passed over with all white space and
line breaks behind it; `passing` tells that this goes on. -/
def basicRest? (manyLines : Bool) : (passing : Bool) → List Char → Option (List Char × List Char)
  | _, [] => none
  | passing, c :: rest =>
    if passing ∧ (isGap c ∨ c = '\n') then basicRest? manyLines true rest
    else if c = '"' then
      if manyLines then
        match rest with
        | '"' :: '"' :: rest => some (closing '"' rest)
        | _ => (basicRest? manyLines false rest).map (prepend c)
      else some ([], rest)
    else if c = '\\' then
      if manyLines ∧ endsLine rest then basicRest? manyLines true rest
      else
        match rest with
        | 'u' :: a :: b :: c :: d :: rest =>
          match coded? [a, b, c, d] with
          | some c => (basicRest? manyLines false rest).map (prepend c)
          | none => none
        | 'U' :: a :: b :: c :: d :: e :: f :: g :: h :: rest =>
          match coded? [a, b, c, d, e, f, g, h] with
          | some c => (basicRest? manyLines false rest).map (prepend c)
          | none => none
        | letter :: rest =>
          match escaped? letter with
          | some c => (basicRest? manyLines false rest).map (prepend c)
          | none => none
        | [] => none
    else if c = '\n' ∧ ¬ manyLines then none
    else (basicRest? manyLines false rest).map (prepend c)

/-- Text between single quotes. -/
def literalRest? (manyLines : Bool) : List Char → Option (List Char × List Char)
  | [] => none
  | c :: rest =>
    if c = '\'' then
      if manyLines then
        match rest with
        | '\'' :: '\'' :: rest => some (closing '\'' rest)
        | _ => (literalRest? manyLines rest).map (prepend c)
      else some ([], rest)
    else if c = '\n' ∧ ¬ manyLines then none
    else (literalRest? manyLines rest).map (prepend c)

/-- A text without the line break that it begins with, if it begins with one. -/
def dropBreak : List Char → List Char
  | '\n' :: rest => rest
  | cs => cs

/-- Text in quotes on one line. -/
def quoted? : List Char → Option (String × List Char)
  | '"' :: rest => (basicRest? false false rest).map fun (text, rest) => (.ofList text, rest)
  | '\'' :: rest => (literalRest? false rest).map fun (text, rest) => (.ofList text, rest)
  | _ => none

/-- Text in quotes, three of them if it runs over several lines. -/
def quotedLines? : List Char → Option (String × List Char)
  | '"' :: '"' :: '"' :: rest =>
    (basicRest? true false (dropBreak rest)).map fun (text, rest) => (.ofList text, rest)
  | '\'' :: '\'' :: '\'' :: rest =>
    (literalRest? true (dropBreak rest)).map fun (text, rest) => (.ofList text, rest)
  | cs => quoted? cs

end Crosslink.Toml
