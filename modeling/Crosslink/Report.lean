import Crosslink.Pass

/-!
# Build reports

What is broken at the end of a build, grouped by document.

* `Report.record` takes in the broken references of a document, `Report.recordReconciliation` the
  dependencies that were never promoted.
* `Report.display` is the report as text.
-/

namespace Crosslink

/-- What is broken at the end of a build. -/
structure Report where
  /-- the references that lead nowhere, by document -/
  brokenLinks : Table (List BrokenLink) := ∅
  /-- the names that are no documents, by the document that depends on them -/
  unresolved : Table (List String) := ∅
  deriving DecidableEq, Repr

namespace Report

/-- Adds items to those filed under a key. -/
def extend {α : Type} (t : Table (List α)) (key : String) (items : List α) : Table (List α) :=
  t.insert key ((t.get? key).getD [] ++ items)

/-- Takes in the broken references of a document. -/
def record (report : Report) (draft : Draft) : Report :=
  if draft.brokenLinks = [] then report
  else { report with brokenLinks := extend report.brokenLinks draft.file draft.brokenLinks }

/-- Takes in pairs of a document and a name that it still waits for. -/
def recordPending (report : Report) (stillPending : List (String × String)) : Report :=
  { report with
    unresolved := stillPending.foldl (fun t (file, key) => extend t file [key]) report.unresolved }

/-- Takes in what a reconciliation left over. -/
def recordReconciliation (report : Report) (r : Store.Reconciliation) : Report :=
  report.recordPending r.stillPending

/-- The number of broken references. -/
def totalBrokenLinks (report : Report) : Nat :=
  report.brokenLinks.values.flatten.length

/-- Whether nothing is broken. -/
def isClean (report : Report) : Bool :=
  report.brokenLinks.isEmpty && report.unresolved.isEmpty

/-- A row of the report for the broken references of a document. -/
def displayLinks (file : String) (links : List BrokenLink) : String :=
  String.join (s!"  {file}\n" :: links.map fun link => s!"    {link.display}\n")

/-- The report as text, one line for each thing that is broken. -/
def display (report : Report) : String :=
  if report.isClean then "All references resolved.\n"
  else
    let broken :=
      if report.brokenLinks.isEmpty then ""
      else
        let total := report.totalBrokenLinks
        let documents := report.brokenLinks.size
        s!"{total} invalid link(s) in {documents} document(s):\n"
          ++ String.join (report.brokenLinks.rows.map fun (file, links) => displayLinks file links)
    let waiting :=
      if report.unresolved.isEmpty then ""
      else
        "Unresolved dependencies:\n"
          ++ String.join (report.unresolved.rows.map fun (file, keys) =>
            let names := ", ".intercalate keys
            s!"  {file} -> {names}\n")
    broken ++ waiting

end Report

end Crosslink
