import Crosslink.Text.Digits

/-!
# Numbers in TOML

A whole number has a sign or none and does not begin with zeros, or is written in base sixteen, eight or two;
it fits into 64 bits with a sign. A fraction has decimal places, an exponent, or both, or is one of the names
`inf` and `nan`. A single underscore may stand between two digits.

* `whole?` and `fraction?` read the two kinds and hand back what follows.
* `isTooLarge` tells which decimals are beyond the range of the fractions.
-/

namespace Crosslink.Toml

/-- What is left of a row of digits behind its first one: the digits, and what follows. -/
def moreDigits? (isDigit : Char → Bool) : List Char → Option (List Char × List Char)
  | [] => some ([], [])
  | c :: rest =>
    if c = '_' then
      match rest with
      | d :: rest =>
        if isDigit d then
          (moreDigits? isDigit rest).map fun (digits, rest) => (d :: digits, rest)
        else none
      | [] => none
    else if isDigit c then
      (moreDigits? isDigit rest).map fun (digits, rest) => (c :: digits, rest)
    else some ([], c :: rest)

/-- A row of digits and what follows it. -/
def digits? (isDigit : Char → Bool) : List Char → Option (List Char × List Char)
  | c :: rest =>
    if isDigit c then (moreDigits? isDigit rest).map fun (digits, rest) => (c :: digits, rest)
    else none
  | [] => none

/-- A row of decimal digits that is a zero alone or does not begin with one, and what follows. -/
def plainDigits? : List Char → Option (List Char × List Char)
  | '0' :: rest => some (['0'], rest)
  | cs => digits? Char.isDigit cs

/-- Whether there is a minus in front, and what follows the sign. -/
def sign : List Char → Bool × List Char
  | '+' :: rest => (false, rest)
  | '-' :: rest => (true, rest)
  | cs => (false, cs)

/-- What follows a whole number in a base of its own. -/
def based? (base : Nat) (cs : List Char) : Option (List Char) :=
  match digits? (fun c => (Text.digit? base c).isSome) cs with
  | none => none
  | some (digits, rest) =>
    match Text.readDigits? base digits with
    | some n => if n < Nat.pow 2 63 then some rest else none
    | none => none

/-- What follows a whole number. -/
def whole? (cs : List Char) : Option (List Char) :=
  match cs with
  | '0' :: 'x' :: rest => based? 16 rest
  | '0' :: 'o' :: rest => based? 8 rest
  | '0' :: 'b' :: rest => based? 2 rest
  | _ =>
    let (isNegative, unsigned) := sign cs
    match plainDigits? unsigned with
    | none => none
    | some (digits, rest) =>
      match Text.readDigits? 10 digits with
      | some n => if n < Nat.pow 2 63 ∨ (isNegative ∧ n = Nat.pow 2 63) then some rest else none
      | none => none

/-- Whether `digits · 10 ^ exponent` rounds to no finite fraction: the largest of them is
`2 ^ 1024 - 2 ^ 971`, and what is half a unit above it or more is rounded up. A number of more than 400
places is too large at once, one of less than 300 never. -/
def isTooLarge (digits : Nat) (exponent : Int) : Bool :=
  let places : Int := (toString digits).length + exponent
  if digits = 0 ∨ places < 300 then false
  else if places > 400 then true
  else digits * Nat.pow 10 exponent.toNat ≥ (Nat.pow 2 1024 - Nat.pow 2 970) * Nat.pow 10 (-exponent).toNat

/-- The decimal places, if there are any. -/
def places? : List Char → Option (List Char × List Char)
  | '.' :: rest => digits? Char.isDigit rest
  | cs => some ([], cs)

/-- The exponent, if there is one. -/
def exponent? : List Char → Option (Option Int × List Char)
  | c :: rest =>
    if c = 'e' ∨ c = 'E' then
      let (isNegative, unsigned) := sign rest
      match digits? Char.isDigit unsigned with
      | none => none
      | some (digits, rest) =>
        (Text.readDigits? 10 digits).map fun n =>
          (some (if isNegative then -(n : Int) else n), rest)
    else some (none, c :: rest)
  | [] => some (none, [])

/-- What follows a fraction with decimal places or an exponent. Below the range there is no bound. -/
def decimal? (cs : List Char) : Option (List Char) :=
  let (isNegative, unsigned) := sign cs
  match plainDigits? unsigned with
  | none => none
  | some (digits, rest) =>
    match places? rest with
    | none => none
    | some (places, rest) =>
      match exponent? rest with
      | none => none
      | some (exponent, rest) =>
        match Text.readDigits? 10 (digits ++ places) with
        | none => none
        | some n =>
          if places = [] ∧ exponent = none then none
          else if ¬ isNegative ∧ isTooLarge n (exponent.getD 0 - places.length) then none
          else some rest

/-- What follows a fraction. -/
def fraction? (cs : List Char) : Option (List Char) :=
  let (_, unsigned) := sign cs
  decimal? cs <|> "inf".toList.isPrefixOf? unsigned <|> "nan".toList.isPrefixOf? unsigned

end Crosslink.Toml
