import Crosslink.Dependency

/-!
# Entries

What a document makes known of itself to the other documents of the corpus: where it is written, its
titles, the labels it defines and what it depends on.

* `Entry.anchorTitle?` is the text that an anchor is shown with.
* `Entry.dropDependency` and `Entry.promoteDependency` change the published list of dependencies, and answer
  whether there was anything to change.
-/

namespace Crosslink

/-- A numbered title. -/
structure Heading where
  /-- its depth -/
  level : Nat
  /-- its text -/
  text : String
  /-- the slug of its text -/
  anchor : String
  /-- its number, as text -/
  number : String
  deriving DecidableEq, Repr

/-- The text of an anchor among titles and labels: a title's text, or a label itself. -/
def anchorTitle? (titles : List Heading) (labels : List String) (anchor : String) : Option String :=
  match titles.find? (·.anchor = anchor) with
  | some heading => some heading.text
  | none => if anchor ∈ labels then some anchor else none

/-- What a document makes known of itself. -/
structure Entry where
  /-- the name of the document -/
  file : String
  /-- the url of its page, from the root of the output tree -/
  url : String
  /-- the text of its first title -/
  title : Option String := none
  /-- its titles, in order -/
  titles : List Heading := []
  /-- the labels it defines -/
  anchors : List String := []
  /-- what it depends on -/
  dependencies : List Dependency := []
  deriving DecidableEq, Repr

/-- The text that an anchor of the document is shown with; `none` if the document does not define it. -/
def Entry.anchorTitle? (entry : Entry) (anchor : String) : Option String :=
  Crosslink.anchorTitle? entry.titles entry.anchors anchor

/-- Takes a dependency out of the entry, and answers whether it was there. -/
def Entry.dropDependency (entry : Entry) (d : Dependency) : Bool × Entry :=
  let left := entry.dependencies.filter (· ≠ d)
  (entry.dependencies.length ≠ left.length, { entry with dependencies := left })

/-- Makes the pending dependency on `key` a resolved one on `file`, in its place, and answers whether there
was one. Where the entry has the resolved one already, the pending one is taken out instead. -/
def Entry.promoteDependency (entry : Entry) (key file : String) : Bool × Entry :=
  match entry.dependencies.idxOf? (.pending key) with
  | none => (false, entry)
  | some i =>
    if .resolved file ∈ entry.dependencies then
      (true, { entry with dependencies := entry.dependencies.eraseIdx i })
    else (true, { entry with dependencies := entry.dependencies.set i (.resolved file) })

end Crosslink
