/-!
# Digits

Reading numbers off their digits, in any base up to sixteen.

* `digit?` is the value of one digit, `readDigits?` the value of a row of them. No digits at all read as zero,
  so a caller that wants one digit asks for it.
-/

namespace Crosslink.Text

/-- The value of a digit of `base`, either case of its letters. -/
def digit? (base : Nat) (c : Char) : Option Nat :=
  let n := c.toNat
  let value :=
    if 48 ≤ n ∧ n ≤ 57 then n - 48
    else if 97 ≤ n ∧ n ≤ 102 then n - 87
    else if 65 ≤ n ∧ n ≤ 70 then n - 55
    else base
  if value < base then some value else none

/-- The number that a row of digits of `base` writes, the leading digit first. -/
def readDigits? (base : Nat) (cs : List Char) : Option Nat :=
  cs.foldlM (fun acc c => (digit? base c).map (acc * base + ·)) 0

end Crosslink.Text
