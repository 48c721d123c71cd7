import Crosslink.Text.AsciiForms
import Crosslink.Text.Blank
import Crosslink.Text.Word

/-!
# Slugs

A slug is the identifier made of a title or a label: words of small ASCII letters and digits with single
hyphens in between. Letters with accents, wide letters and the like are written in ASCII; what has no
ASCII in it is left out.

* `Slug.ofText` makes the slug of a text: what stands between words becomes a hyphen, the rest is
  written in ASCII, and hyphens that are not between two words are dropped.
-/

namespace Crosslink.Slug

open Crosslink.Text

/-- Puts one hyphen in the place of every run of characters that are not in words. -/
def hyphenate : List Char → List Char
  | [] => []
  | c :: rest =>
    if isWord c then c :: hyphenate rest
    else '-' :: hyphenate (rest.dropWhile (!isWord ·))
termination_by cs => cs.length
decreasing_by
  · simp
  · exact Nat.lt_succ_of_le (List.dropWhile_suffix _).length_le

/-- The characters that an identifier may hold on the way to a slug. -/
def isIdentifierChar (c : Char) : Bool :=
  c.isAlphanum || c = '-' || c = '_'

/-- Leaves one hyphen of every run of hyphens. -/
def squeeze : List Char → List Char
  | [] => []
  | c :: rest => if c = '-' ∧ rest.head? = some '-' then squeeze rest else c :: squeeze rest

/-- The slug of a row of characters: its words in ASCII, small, with single hyphens in between. -/
def ofChars (text : List Char) : List Char :=
  let ascii := ((hyphenate text).flatMap asciiForm).filter isIdentifierChar
  (squeeze (strip (· = '-') ascii)).map Char.toLower

/-- The slug of a text; empty if the text has no ASCII in its words. -/
def ofText (text : String) : String :=
  .ofList (ofChars text.toList)

end Crosslink.Slug
