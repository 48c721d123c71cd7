import Crosslink.Text.Digits

/-!
# IPv6 addresses

Eight groups of up to four hexadecimal digits with colons in between. The last two groups may be
written as four decimal bytes, and one `::` may stand for one or more groups of zeros.

* `groups?` counts the groups of a row without `::`.
* `isAddress` puts the two sides of a `::` together.
-/

namespace Crosslink.Url.Ipv6

/-- Whether a text is a byte in base ten, without needless zeros in front. -/
def isByte (cs : List Char) : Bool :=
  match Text.readDigits? 10 cs with
  | none => false
  | some n => cs ≠ [] && n ≤ 255 && (cs.length = 1 || cs.head? ≠ some '0')

/-- Whether a text is four decimal bytes with dots in between. -/
def isDotted (cs : List Char) : Bool :=
  let bytes := cs.splitOn '.'
  bytes.length = 4 && bytes.all isByte

/-- Whether a text is one group: one to four hexadecimal digits. -/
def isGroup (cs : List Char) : Bool :=
  cs ≠ [] && cs.length ≤ 4 && (Text.readDigits? 16 cs).isSome

/-- The number of groups that the pieces of a row stand for; four dotted bytes, allowed at the end of
an address only, stand for two. -/
def countGroups? (dotted : Bool) : List (List Char) → Option Nat
  | [] => some 0
  | [last] =>
    if isGroup last then some 1
    else if dotted && isDotted last then some 2
    else none
  | piece :: rest => if isGroup piece then (countGroups? dotted rest).map (· + 1) else none

/-- The number of groups in a row without `::`. -/
def groups? (dotted : Bool) (cs : List Char) : Option Nat :=
  if cs = [] then some 0 else countGroups? dotted (cs.splitOn ':')

/-- What stands before and after the first `::`. -/
def splitDouble? : List Char → Option (List Char × List Char)
  | [] => none
  | ':' :: ':' :: rest => some ([], rest)
  | c :: rest => (splitDouble? rest).map fun (before, after) => (c :: before, after)

/-- Whether a text is an IPv6 address. -/
def isAddress (cs : List Char) : Bool :=
  match splitDouble? cs with
  | none => groups? true cs = some 8
  | some (before, after) =>
    match groups? false before, groups? true after with
    | some n, some m => n + m ≤ 7
    | _, _ => false

end Crosslink.Url.Ipv6
