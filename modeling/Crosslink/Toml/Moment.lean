import Crosslink.Text.Digits

/-!
# Dates and times in TOML

A moment is a date, a time of day, or a date with a time and perhaps its distance from universal time. Every
number in it has a fixed width.

* `moment?` reads a moment and hands back what follows.
* `daysIn` is the length of a month.
-/

namespace Crosslink.Toml

/-- A number of `width` digits that is at least `low` and at most `high`, and what follows it. -/
def fixed? (width low high : Nat) (cs : List Char) : Option (Nat × List Char) :=
  let digits := cs.take width
  if digits.length = width then
    match Text.readDigits? 10 digits with
    | some n => if low ≤ n ∧ n ≤ high then some (n, cs.drop width) else none
    | none => none
  else none

/-- The number of days of a month. -/
def daysIn (year month : Nat) : Nat :=
  if month = 2 then
    if year % 4 = 0 ∧ (year % 100 ≠ 0 ∨ year % 400 = 0) then 29 else 28
  else if month = 4 ∨ month = 6 ∨ month = 9 ∨ month = 11 then 30
  else 31

/-- What follows a date. -/
def date? (cs : List Char) : Option (List Char) :=
  match fixed? 4 0 9999 cs with
  | some (year, '-' :: rest) =>
    match fixed? 2 1 12 rest with
    | some (month, '-' :: rest) => (fixed? 2 1 (daysIn year month) rest).map (·.2)
    | _ => none
  | _ => none

/-- What follows hours and minutes. -/
def hoursAndMinutes? (cs : List Char) : Option (List Char) :=
  match fixed? 2 0 23 cs with
  | some (_, ':' :: rest) => (fixed? 2 0 59 rest).map (·.2)
  | _ => none

/-- What follows the parts of a second, if there are any. -/
def parts (cs : List Char) : List Char :=
  match cs with
  | '.' :: c :: rest => if c.isDigit then rest.dropWhile Char.isDigit else cs
  | _ => cs

/-- What follows a time of day. A minute may end with a leap second. -/
def time? (cs : List Char) : Option (List Char) :=
  match hoursAndMinutes? cs with
  | some (':' :: rest) => (fixed? 2 0 60 rest).map fun (_, rest) => parts rest
  | _ => none

/-- What follows a distance from universal time, if there is one. -/
def offset (cs : List Char) : List Char :=
  match cs with
  | c :: rest =>
    if c = 'Z' ∨ c = 'z' then rest
    else if c = '+' ∨ c = '-' then (hoursAndMinutes? rest).getD cs
    else cs
  | [] => cs

/-- What follows the time of a date, if there is one. -/
def timeOfDate (cs : List Char) : List Char :=
  match cs with
  | c :: rest =>
    if c = 'T' ∨ c = 't' ∨ c = ' ' then ((time? rest).map offset).getD cs else cs
  | [] => cs

/-- What follows a moment. -/
def moment? (cs : List Char) : Option (List Char) :=
  (date? cs).map timeOfDate <|> time? cs

end Crosslink.Toml
