import Crosslink.Url.Direction
import Crosslink.Url.HostChar
import Crosslink.Url.Punycode

/-!
# Domain names

A domain name is a row of labels with dots in between. Its characters are replaced by their images
first; a label that is then ASCII stands for itself or, behind the mark `xn--`, for the label it
encodes, and any other label is checked as it is.

* `Domain.normalize?` is the name with the images put in and its labels checked; `none` if the name is
  no domain name.
-/

namespace Crosslink.Url.Domain

open Crosslink.Text

/-- The mark in front of an encoded label. -/
def encodedMark : List Char := ['x', 'n', '-', '-']

/-- Whether a letter of the Arabic script joins the letter after it. -/
def joinsNext (c : Char) : Bool :=
  let n := c.toNat
  ((0x620 ≤ n && n ≤ 0x64A) || (0x66E ≤ n && n ≤ 0x6D3) || (0x6FA ≤ n && n ≤ 0x6FF)
      || (0x750 ≤ n && n ≤ 0x77F))
    && !((0x621 ≤ n && n ≤ 0x625) || n = 0x627 || n = 0x629 || (0x62F ≤ n && n ≤ 0x632) || n = 0x648
      || (0x671 ≤ n && n ≤ 0x677) || (0x688 ≤ n && n ≤ 0x699) || n = 0x6C0
      || (0x6C3 ≤ n && n ≤ 0x6CB) || n = 0x6CD || n = 0x6CF || n = 0x6D2 || n = 0x6D3
      || (0x759 ≤ n && n ≤ 0x75B) || n = 0x76B || n = 0x76C || n = 0x771 || n = 0x773 || n = 0x774
      || n = 0x778 || n = 0x779)

/-- Whether a letter of the Arabic script joins the letter before it. -/
def joinsPrevious (c : Char) : Bool :=
  let n := c.toNat
  joinsNext c || ((0x622 ≤ n && n ≤ 0x6D5 && n ≠ 0x674) && isWord c && !(0x660 ≤ n && n ≤ 0x66D))
    || (0x750 ≤ n && n ≤ 0x77F)

/-- Whether every invisible joiner has a place: behind a mark that takes the vowel from a letter, or,
for the one that keeps letters apart, between letters that would join. -/
def joinersPlaced (before : List Char) : List Char → Bool
  | [] => true
  | c :: after =>
    let behindVirama := match before with
      | [] => false
      | p :: _ => isVirama p
    let between := match before.dropWhile isMark, after.dropWhile isMark with
      | p :: _, n :: _ => joinsNext p && joinsPrevious n
      | _, _ => false
    (if c = '\u200d' then behindVirama
      else if c = '\u200c' then behindVirama || between
      else true)
      && joinersPlaced (c :: before) after

/-- Whether a label with characters outside ASCII may stand in a name. -/
def isForeignLabel (label : List Char) : Bool :=
  !encodedMark.isPrefixOf label && !label.head?.any isMark && joinersPlaced [] label

/-- Whether an encoded label, without its mark, stands for a label outside ASCII that is its own
image. -/
def isEncodedLabel (code : List Char) : Bool :=
  match Punycode.decode? code with
  | none => false
  | some label =>
    label.any (·.toNat ≥ 0x80) && label.all (fun c => c.toNat < 0x80 || isStable c)
      && isForeignLabel label

/-- The label that a label of a name stands for; `none` if it may not stand there. -/
def label? (label : List Char) : Option (List Char) :=
  if label.all (·.toNat < 0x80) then
    if encodedMark.isPrefixOf label then
      let code := label.drop encodedMark.length
      if isEncodedLabel code then Punycode.decode? code else none
    else some label
  else if isForeignLabel label then some label
  else none

/-- The name with the images of its characters put in; `none` if it is no domain name. -/
def normalize? (name : List Char) : Option (List Char) :=
  match (name.mapM image?).map List.flatten with
  | none => none
  | some images =>
    match (images.splitOn '.').mapM label? with
    | none => none
    | some labels => if keepsDirections labels then some images else none

end Crosslink.Url.Domain
