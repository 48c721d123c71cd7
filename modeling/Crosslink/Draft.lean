import Crosslink.Config
import Crosslink.Diagnostic
import Crosslink.Json.Basic
import Crosslink.LinkTable
import Crosslink.Location
import Crosslink.Numbering
import Crosslink.Slug
import Crosslink.Store

/-!
# Drafts

A document while it is compiled. Titles, labels, link targets and dependencies are fed to it in the order
in which they stand in the document, and what it has gathered can be published as its entry.

* `Draft.start` starts a document.
* `recordTitle`, `addAnchor`, `addDependency` and the like feed it.
* `Draft.entry` is what the document makes known of itself.
-/

namespace Crosslink

/-- A document while it is compiled. -/
structure Draft where
  /-- the name of the document -/
  file : String
  /-- the output settings -/
  config : Config := {}
  /-- the directory of the sources, on disk -/
  sourceDirectory : String := ""
  /-- the url of the page, where it is not the name of the document -/
  override : Option String := none
  /-- the counters of its titles and items -/
  numbering : Numbering := {}
  /-- its link targets -/
  links : LinkTable := {}
  /-- its titles, in order -/
  titles : List Heading := []
  /-- the labels it defines, in order -/
  anchors : List String := []
  /-- its dependencies, in order -/
  dependencies : List Dependency := []
  /-- its references that lead nowhere, in order -/
  brokenLinks : List BrokenLink := []
  /-- values that the compilation keeps for itself -/
  values : Table Json := ∅

namespace Draft

/-- Starts a document; refused if its name has no canonical form. -/
def start (file : String) (config : Config) (sourceDirectory : String := "") :
    Except Fault Draft :=
  match (Path.normalize file).filter (· ≠ "") with
  | some name => .ok { file := name, config, sourceDirectory }
  | none => .error (.noCanonicalUrl file)

/-- A document that is started has the normal form of its path as a name, and nothing else yet. -/
theorem start_eq_ok {file sourceDirectory : String} {config : Config} {d : Draft}
    (h : start file config sourceDirectory = .ok d) :
    ∃ name, (Path.normalize file).filter (· ≠ "") = some name ∧
      d = { file := name, config, sourceDirectory } := by
  unfold start at h
  split at h
  · rename_i name hname
    exact ⟨name, hname, (Except.ok.inj h).symm⟩
  · cases h

/-! ## Urls

A page is written where its url says, and that is the name of the document unless another one is chosen.
Links are read from the name, references are written from the url. -/

/-- Where the document stands. -/
def location (d : Draft) : Location := ⟨d.file, d.config.targetDirectory, d.override⟩

/-- Chooses the url of the page. -/
def setUrl (d : Draft) (url : String) : Draft :=
  { d with override := some (.ofList ((Text.trim url).toList.dropWhile (· = '/'))) }

/-- A path below a directory on disk. -/
def below (directory segment : String) : String :=
  if directory = "" ∨ directory.toList.getLast? = some '/' then directory ++ segment
  else directory ++ "/" ++ segment

/-- The file on disk that a link leads to. -/
def sourcePath? (d : Draft) (link : String) : Option String :=
  (d.location.canonical? link).map fun name =>
    (Path.segments name).foldl below d.sourceDirectory

/-- How the url of a published page is written in this document. -/
def referenceUrl (d : Draft) (url : String) : String :=
  let rooted := "/" ++ String.ofList (url.toList.dropWhile (· = '/'))
  if d.config.useRelativeUrls then d.location.relative rooted else rooted

/-! ## Titles and labels

Both can be referred to from other documents. A title is found by the slug of its text, a label by its own
slug, and a label without a slug is not kept. -/

/-- A call on the counters of a document. -/
def onNumbering {α : Type} (call : Call Numbering α) : Call Draft α :=
  Call.on (·.numbering) (fun d numbering => { d with numbering }) call

/-- Numbers a new title. -/
def createTitle (level : Nat) : Call Draft TitleNumber := onNumbering (Numbering.createTitle level)

/-- Counts an item. -/
def getNumber (level : Nat) : Call Draft Nat := onNumbering (Numbering.getNumber level)

/-- The depth of an underline. -/
def getLevel (letter : Char) : Call Draft Nat := onNumbering (Numbering.getLevel letter)

/-- Numbers a new title and adds it to the titles of the document. -/
def recordTitle (level : Nat) (text : String) : Call Draft Heading := do
  let number ← createTitle level
  let heading : Heading := ⟨level, Text.trim text, Slug.ofText text, number.numbering⟩
  modify fun d => { d with titles := d.titles ++ [heading] }
  return heading

/-- A title of an allowed depth is numbered and added to the titles; any other is refused and leaves no
trace. -/
theorem run_recordTitle (d : Draft) (level : Nat) (text : String) :
    Call.run (recordTitle level text) d =
      if h : level < titleDepths then
        let numbering := d.numbering.enterTitle ⟨level, h⟩
        let heading : Heading := ⟨level, Text.trim text, Slug.ofText text,
          (numbering.titleNumber ⟨level, h⟩).numbering⟩
        (.ok heading, { d with numbering, titles := d.titles ++ [heading] })
      else (.error (Numbering.depthFault level), d) := by
  rw [recordTitle, Call.run_bind, createTitle, onNumbering, Call.run_on, Numbering.run_createTitle]
  by_cases h : level < titleDepths
  · rw [dif_pos h, dif_pos h]
    rfl
  · rw [dif_neg h, dif_neg h]

/-- Starts the counters over. -/
def resetNumbering (d : Draft) : Draft := { d with numbering := {} }

/-- The anchor of a label; `none` if its slug is empty. -/
def anchor? (label : String) : Option String :=
  let slug := Slug.ofText label
  if slug = "" then none else some slug

/-- Defines a label. -/
def addAnchor (d : Draft) (label : String) : Draft :=
  match anchor? label with
  | none => d
  | some anchor =>
    if anchor ∈ d.anchors then d else { d with anchors := d.anchors ++ [anchor] }

/-- The text that an anchor of the document is shown with; `none` if the document does not define it. -/
def anchorTitle? (d : Draft) (anchor : String) : Option String :=
  Crosslink.anchorTitle? d.titles d.anchors anchor

/-! ## Links

The named targets of the document, kept by its link table. A url is written down as it was given; how it
is written in the page is decided at each look-up. -/

/-- The url of a link target, as seen from the page if `relative`. -/
def link? (d : Draft) (name : String) (relative : Bool) : Option String :=
  (d.links.get? name).map fun url => if relative then d.location.relative url else url

/-- Lets the name of an anonymous reference wait for its target. -/
def enqueueAnonymous (d : Draft) (name : String) : Draft :=
  { d with links := d.links.enqueue name }

/-- Lets no anonymous reference wait any longer. -/
def resetAnonymous (d : Draft) : Draft := { d with links := d.links.resetQueue }

/-! ## Variables

Whatever the compilation wants to remember about the document. It is neither published nor looked at here. -/

/-- Keeps a value under a name. -/
def setVariable (d : Draft) (name : String) (value : Json) : Draft :=
  { d with values := d.values.insert name value }

/-- The value kept under a name. -/
def valueOf? (d : Draft) (name : String) : Option Json := d.values.get? name

/-- The value kept under a name, or another one if there is none. -/
def variableOr (d : Draft) (name : String) (default : Json) : Json :=
  (d.valueOf? name).getD default

/-! ## Dependencies

A draft keeps its dependencies in the order in which they turn up. It takes one out by leaving out
whatever equals it, and promotes one by looking for its place. -/

/-- Adds a dependency on the document that a path leads to; refused if it leads to none. -/
def addDependency (path : String) (isPending : Bool) : Call Draft Unit := do
  match (← get).location.canonical? path with
  | none => throw (.noCanonicalUrl path)
  | some name =>
    modify fun d =>
      { d with dependencies := Dependency.add (Dependency.ofPath name isPending) d.dependencies }

/-- A dependency is added under the name that its path leads to; a path that leads nowhere is refused and
leaves no trace. -/
theorem run_addDependency (d : Draft) (path : String) (isPending : Bool) :
    Call.run (addDependency path isPending) d =
      match d.location.canonical? path with
      | none => (.error (.noCanonicalUrl path), d)
      | some name =>
        (.ok (), { d with
          dependencies := Dependency.add (Dependency.ofPath name isPending) d.dependencies }) := by
  rw [addDependency, Call.run_bind, Call.run_get]
  simp only
  cases d.location.canonical? path <;> rfl

/-- Takes a dependency out of the draft. -/
def dropDependency (d : Draft) (dependency : Dependency) : Draft :=
  { d with dependencies := d.dependencies.filter (· ≠ dependency) }

/-- Makes the pending dependency on `key` a resolved one on `file`, in its place; where the draft has that
one already, the pending one is taken out instead. -/
def promoteDependency (d : Draft) (key file : String) : Draft :=
  match d.dependencies.idxOf? (.pending key) with
  | none => d
  | some i =>
    if .resolved file ∈ d.dependencies then { d with dependencies := d.dependencies.eraseIdx i }
    else { d with dependencies := d.dependencies.set i (.resolved file) }

/-- What the document makes known of itself. -/
def entry (d : Draft) : Entry where
  file := d.file
  url := d.config.documentUrl d.location.url
  title := d.titles.head?.map (·.text)
  titles := d.titles
  anchors := d.anchors
  dependencies := d.dependencies

end Draft

end Crosslink
