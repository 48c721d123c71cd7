import Crosslink.Text.LetterCase

/-!
# Lower case

A text in lower case, letter by letter. Two letters need more than a table: the capital I with a dot
becomes an i and a combining dot, and the capital sigma has two forms, one of them for the end of a
word.

* `lowerAt` is the lower case form of a letter between what stands before and after it.
* `lowercase` puts a text into lower case.
-/

namespace Crosslink.Text

/-- Whether the nearest character that counts is a letter with case. -/
def nextIsCased (cs : List Char) : Bool :=
  match cs.dropWhile isCaseIgnorable with
  | [] => false
  | c :: _ => isCased c

/-- The lower case form of `c` between `before`, nearest first, and `after`. A capital sigma that ends
a word takes its final form. -/
def lowerAt (before : List Char) (c : Char) (after : List Char) : List Char :=
  if c = 'Σ' then
    if nextIsCased before && !nextIsCased after then ['ς'] else ['σ']
  else if c = 'İ' then ['i', '\u0307']
  else match lowerCode? c.toNat with
    | some n => [.ofNat n]
    | none => [c]

/-- The lower case form of the text that follows `before`, nearest first. -/
def lowercaseFrom (before : List Char) : List Char → List Char
  | [] => []
  | c :: after => lowerAt before c after ++ lowercaseFrom (c :: before) after

/-- `s` in lower case. -/
def lowercase (s : String) : String :=
  .ofList (lowercaseFrom [] s.toList)

end Crosslink.Text
