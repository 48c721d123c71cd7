/-!
# Writing text in TOML

A text can stand between double or single quotes, on one line or over several. The plainest form that needs
no escapes is taken, and only if there is none the double quotes with escapes.

* `Form.ofText` chooses the form, `quote` writes the text in it.
* Between single quotes nothing is escaped; `Form.fits` tells which texts may stand in a form as they are.
-/

namespace Crosslink.Toml

/-- A way of quoting a text. -/
structure Form where
  /-- the quote -/
  mark : Char
  /-- whether there are three quotes on either side, so that the text may run over several lines -/
  manyLines : Bool
  deriving DecidableEq, Repr

namespace Form

/-- Double quotes on one line. -/
def basic : Form := ⟨'"', false⟩

/-- Single quotes on one line. -/
def literal : Form := ⟨'\'', false⟩

/-- Double quotes over several lines. -/
def basicLines : Form := ⟨'"', true⟩

/-- Single quotes over several lines. -/
def literalLines : Form := ⟨'\'', true⟩

/-- How many quotes of its own kind a form can hold side by side. -/
def quotesHeld (form : Form) : Nat := if form.manyLines then 2 else 0

end Form

/-- A control character that is neither a tab nor a line feed. -/
def isControl (c : Char) : Bool := (c.toNat < 0x20 && c ≠ '\t' && c ≠ '\n') || c.toNat = 0x7F

/-- The length of the longest run of a character, given how many of it stand in front. -/
def longestRun (x : Char) : (inFront : Nat) → List Char → Nat
  | inFront, [] => inFront
  | inFront, c :: cs =>
    if c = x then longestRun x (inFront + 1) cs else max inFront (longestRun x 0 cs)

/-- Whether a text may stand in a form as it is. -/
def Form.fits (form : Form) (cs : List Char) : Bool :=
  !cs.any isControl
    && longestRun form.mark 0 cs ≤ form.quotesHeld
    && (form.manyLines || !cs.contains '\n')
    && (form.mark = '\'' || !cs.contains '\\')

/-- The form in which a text is written. -/
def Form.ofText (cs : List Char) : Form :=
  match [basic, literal, basicLines, literalLines].find? (·.fits cs) with
  | some form => form
  | none => if cs.contains '\n' then basicLines else basic

/-- The last digits of a number in base sixteen, the leading one first. -/
def hexDigits : (width n : Nat) → List Char
  | 0, _ => []
  | width + 1, n =>
    hexDigits width (n / 16) ++ [.ofNat (if n % 16 < 10 then 48 + n % 16 else 55 + n % 16)]

/-- How a character other than a quote is written between double quotes. -/
def escape (manyLines : Bool) (c : Char) : List Char :=
  if c = '\x08' then ['\\', 'b']
  else if c = '\t' then ['\\', 't']
  else if c = '\n' then if manyLines then ['\n'] else ['\\', 'n']
  else if c = '\x0c' then ['\\', 'f']
  else if c = '\r' then ['\\', 'r']
  else if c = '\\' then ['\\', '\\']
  else if isControl c then '\\' :: 'u' :: hexDigits 4 c.toNat
  else [c]

/-- A text as it stands between double quotes; a quote is escaped if the form cannot hold it beside the
`inFront` ones in front of it. -/
def escapeAll (form : Form) : (inFront : Nat) → List Char → List Char
  | _, [] => []
  | inFront, c :: cs =>
    if c = '"' then
      if inFront < form.quotesHeld then c :: escapeAll form (inFront + 1) cs
      else '\\' :: c :: escapeAll form 0 cs
    else escape form.manyLines c ++ escapeAll form 0 cs

/-- A text in quotes. A text over several lines begins on a line of its own. -/
def quote (text : String) : String :=
  let cs := text.toList
  let form := Form.ofText cs
  let marks := List.replicate (if form.manyLines then 3 else 1) form.mark
  let lineBreak := if form.manyLines ∧ cs.contains '\n' then ['\n'] else []
  let body := if form.mark = '"' then escapeAll form 0 cs else cs
  .ofList (marks ++ lineBreak ++ body ++ marks)

end Crosslink.Toml
