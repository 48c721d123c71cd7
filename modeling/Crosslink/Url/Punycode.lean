/-!
# Encoded labels

A label of a host name that holds characters outside ASCII travels as ASCII: first its ASCII
characters, then, behind a hyphen, digits that say which other characters go in where. The digits are
numbers of variable length: each digit's weight depends on a threshold that adapts to the numbers read
so far.

* `readNumber` reads one number and hands back the digits behind it, which are fewer:
  `length_readNumber`.
* `decode?` puts the label back together.
-/

namespace Crosslink.Url.Punycode

/-- The value of a digit: the letters, then the decimal digits. -/
def digit? (c : Char) : Option Nat :=
  let n := c.toNat
  if 97 ≤ n ∧ n ≤ 122 then some (n - 97)
  else if 65 ≤ n ∧ n ≤ 90 then some (n - 65)
  else if 48 ≤ n ∧ n ≤ 57 then some (n - 22)
  else none

/-- The least value, at the digit of weight exponent `k / 36`, with which a number goes on. -/
def threshold (k bias : Nat) : Nat :=
  if k ≤ bias then 1 else if bias + 26 ≤ k then 26 else k - bias

/-- Reads a number off its digits, the lowest first: `value` is what the digits so far come to, `weight`
what the next one counts. -/
def readNumber (bias : Nat) (k weight value : Nat) : List Char → Option (Nat × List Char)
  | [] => none
  | c :: rest =>
    match digit? c with
    | none => none
    | some d =>
      if d < threshold k bias then some (value + d * weight, rest)
      else readNumber bias (k + 36) (weight * (36 - threshold k bias)) (value + d * weight) rest

/-- A number takes up at least one letter, so that reading one after the other comes to an end. -/
theorem length_readNumber {bias k weight value number : Nat} {cs rest : List Char}
    (h : readNumber bias k weight value cs = some (number, rest)) : rest.length < cs.length := by
  induction cs generalizing k weight value with
  | nil => simp [readNumber] at h
  | cons c cs ih =>
    rw [readNumber] at h
    split at h
    · cases h
    · split at h
      · simp only [Option.some.injEq, Prod.mk.injEq] at h
        simp [h.2]
      · exact Nat.lt_succ_of_lt (ih h)

/-- Scales a difference down until it fits the range of digits; `fuel` bounds the steps. -/
def scale : Nat → Nat → Nat → Nat
  | 0, k, delta => k + 36 * delta / (delta + 38)
  | fuel + 1, k, delta =>
    if delta > 455 then scale fuel (k + 36) (delta / 35) else k + 36 * delta / (delta + 38)

/-- The threshold's bias behind a number `delta`, the first one or a later one, when `size` characters
have been placed. -/
def adapt (delta size : Nat) (first : Bool) : Nat :=
  let d := if first then delta / 700 else delta / 2
  let d := d + d / size
  scale d 0 d

/-- The code points that are characters. -/
def toChar? (n : Nat) : Option Char :=
  if n.isValidChar then some (.ofNat n) else none

/-- Places characters as the digits say: `code` and `index` are the last code point and the place behind
it. -/
def place (code index bias : Nat) (first : Bool) (placed : List Char) (digits : List Char) :
    Option (List Char) :=
  if digits = [] then some placed
  else
    match _h : readNumber bias 36 1 0 digits with
    | none => none
    | some (delta, rest) =>
      let size := placed.length + 1
      let total := index + delta
      let code := code + total / size
      match toChar? code with
      | none => none
      | some c =>
        place code (total % size + 1) (adapt delta size first) false
          (placed.insertIdx (total % size) c) rest
termination_by digits.length
decreasing_by exact length_readNumber ‹_›

/-- The label that an encoded label, without its mark in front, stands for. -/
def decode? (cs : List Char) : Option (List Char) :=
  let tail := (cs.reverse.takeWhile (· != '-')).reverse
  let basic := cs.take (cs.length - tail.length - 1)
  if basic = [] ∧ tail.length < cs.length then none
  else place 128 0 72 true basic tail

end Crosslink.Url.Punycode
