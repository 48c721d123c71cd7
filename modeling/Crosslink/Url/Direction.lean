import Crosslink.Text.Mark
import Crosslink.Text.Word

/-!
# Writing direction of labels

A host name may mix scripts written from the left with scripts written from the right. Where it holds
any of the latter, each label has to keep one direction, so that what is displayed cannot be read in two
ways.

* `Direction.of` sorts characters.
* `isDirected` is the rule for one label, `keepsDirections` the rule for a whole name.
-/

namespace Crosslink.Url

open Crosslink.Text

/-- What a character does to the direction of the text it stands in. -/
inductive Direction where
  /-- letters written from the left -/
  | fromLeft
  /-- letters written from the right -/
  | fromRight
  /-- decimal digits -/
  | digit
  /-- the digits that are set in text from the right only -/
  | rightDigit
  /-- marks, which go with the character before them -/
  | mark
  /-- punctuation and signs -/
  | neutral
  deriving DecidableEq, Repr

/-- Whether a code point belongs to a script written from the right. -/
def isRightScript (n : Nat) : Bool :=
  (0x590 ≤ n && n ≤ 0x8FF) || n = 0x200F || (0xFB1D ≤ n && n ≤ 0xFDFF)
    || (0xFE70 ≤ n && n ≤ 0xFEFE) || (0x10800 ≤ n && n ≤ 0x10FFF) || (0x1E800 ≤ n && n ≤ 0x1EFFF)

/-- The direction of a character. -/
def Direction.of (c : Char) : Direction :=
  let n := c.toNat
  if isMark c then .mark
  else if (0x30 ≤ n ∧ n ≤ 0x39) ∨ (0x6F0 ≤ n ∧ n ≤ 0x6F9) then .digit
  else if (0x660 ≤ n ∧ n ≤ 0x669) ∨ n = 0x66B ∨ n = 0x66C ∨ (0x10D30 ≤ n ∧ n ≤ 0x10D39)
      ∨ (0x10D40 ≤ n ∧ n ≤ 0x10D49) ∨ (0x10E60 ≤ n ∧ n ≤ 0x10E7E) then .rightDigit
  else if !isWord c then .neutral
  else if isRightScript n then .fromRight
  else .fromLeft

/-- Whether the last character of a label, marks aside, is in one of the given classes. -/
def endsIn (classes : List Direction) (label : List Direction) : Bool :=
  match label.reverse.dropWhile (· = .mark) with
  | [] => false
  | d :: _ => classes.contains d

/-- Whether a label keeps one direction. Its first letter sets it; a label from the right holds no
letters from the left and only one kind of digits, and either ends in a letter or a digit of its
direction. -/
def isDirected (label : List Direction) : Bool :=
  match label with
  | [] => true
  | .fromRight :: _ =>
    !label.contains .fromLeft && !(label.contains .digit && label.contains .rightDigit)
      && endsIn [.fromRight, .digit, .rightDigit] label
  | .fromLeft :: _ =>
    !label.contains .fromRight && !label.contains .rightDigit && endsIn [.fromLeft, .digit] label
  | _ => false

/-- Whether the labels of a name keep their directions, which matters only where one of them holds
characters of a script from the right. -/
def keepsDirections (labels : List (List Char)) : Bool :=
  let directions := labels.map (·.map Direction.of)
  !directions.any (fun label => label.contains .fromRight || label.contains .rightDigit)
    || directions.all isDirected

end Crosslink.Url
