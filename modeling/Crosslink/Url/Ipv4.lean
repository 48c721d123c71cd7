import Crosslink.Text.Digits

/-!
# IPv4 addresses

A host whose last label is a number must be an IPv4 address. Its parts may be written in base ten, in
base eight after a `0`, or in base sixteen after a `0x`; the last part fills all the bytes that the
parts before it leave over.

* `part?` reads one part.
* `endsInNumber` and `isAddress` are the two questions a host is asked.
-/

namespace Crosslink.Url.Ipv4

/-- The number that one part of an address writes. -/
def part? : List Char → Option Nat
  | [] => none
  | '0' :: 'x' :: digits | '0' :: 'X' :: digits => Text.readDigits? 16 digits
  | '0' :: c :: digits => Text.readDigits? 8 (c :: digits)
  | digits => Text.readDigits? 10 digits

/-- The labels of a host, without the empty label behind a dot at the end. -/
def labels (host : List Char) : List (List Char) :=
  let all := host.splitOn '.'
  if all.length > 1 ∧ all.getLast? = some [] then all.dropLast else all

/-- Whether the last label of a host is a number: decimal digits of any value or a part. -/
def endsInNumber (host : List Char) : Bool :=
  match (labels host).getLast? with
  | none => false
  | some label => (label ≠ [] && label.all Char.isDigit) || (part? label).isSome

/-- Whether numbers fit the four bytes of an address: one byte each, the rest for the last. -/
def fits : List Nat → Bool
  | [] => false
  | numbers@(_ :: _) =>
    numbers.dropLast.all (· ≤ 255)
      && (numbers.getLast?.getD 0) < Nat.pow 256 (5 - numbers.length)

/-- Whether a host is an IPv4 address. -/
def isAddress (host : List Char) : Bool :=
  let parts := labels host
  parts.length ≤ 4 && ((parts.mapM part?).map fits).getD false

end Crosslink.Url.Ipv4
