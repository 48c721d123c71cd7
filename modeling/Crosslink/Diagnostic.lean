/-!
# Diagnostics

What a build has to say about the content of its documents. Nothing here stops a build.

* `BrokenLink` is a reference that leads nowhere, `Diagnostic` anything that is reported.
* `BrokenLink.display` and `Diagnostic.display` word them.
-/

namespace Crosslink

/-- A reference that leads nowhere. -/
structure BrokenLink where
  /-- the target, as written -/
  target : String
  /-- the kind of reference -/
  role : String
  deriving DecidableEq, Repr

/-- A broken reference as text, in the form in which references are written. -/
def BrokenLink.display (link : BrokenLink) : String :=
  s!":{link.role}:`{link.target}`"

/-- Something that is reported. -/
inductive Diagnostic where
  /-- a reference in a document leads nowhere -/
  | brokenLink (file : String) (link : BrokenLink)
  /-- a document mentions a kind of reference that has no resolver -/
  | unknownRole (file : String) (role : String)
  /-- something that may be a mistake -/
  | warning (text : String)
  /-- something to know -/
  | info (text : String)
  deriving DecidableEq, Repr

namespace Diagnostic

/-- Whether a broken reference is reported. -/
def isBrokenLink : Diagnostic → Bool
  | brokenLink .. => true
  | _ => false

/-- The wording of a diagnostic. -/
def display : Diagnostic → String
  | brokenLink file link => s!"Invalid link in {file}: {link.display}"
  | unknownRole file role => s!"Unknown reference section '{role}' in {file}"
  | warning text => s!"Warning: {text}"
  | info text => s!"Info: {text}"

end Diagnostic

end Crosslink
