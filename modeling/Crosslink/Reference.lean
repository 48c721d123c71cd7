/-!
# References

Where a reference leads, once it is resolved.

* `Reference.href` is the link that is written into the page.
-/

namespace Crosslink

/-- Where a reference leads. -/
structure Reference where
  /-- the name of the document it leads to; empty outside the corpus -/
  file : String := ""
  /-- the url of that document, as seen from the page that the reference stands on -/
  url : String := ""
  /-- the place inside the document -/
  anchor : Option String := none
  /-- the text to show -/
  title : Option String := none
  deriving DecidableEq, Repr, Inhabited

/-- The link that is written into the page. -/
def Reference.href (reference : Reference) : String :=
  match reference.anchor with
  | none => reference.url
  | some anchor => if anchor = "" then reference.url else reference.url ++ "#" ++ anchor

end Crosslink
