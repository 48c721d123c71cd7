import Crosslink.Entry
import Crosslink.Table

/-!
# Dependency graphs

Which documents have to be built again when one changes. The graph has an edge from a document to each
known document it depends on; pending dependencies name no document and have none.

* `Graph.ofEntries` reads the graph off the entries of a corpus.
* `Graph.directDependents` steps back along one edge, `Graph.dependents` along any number of edges.
-/

namespace Crosslink

/-- The distinct texts of a list, ascending. -/
def sortDistinct (texts : List String) : List String :=
  (Table.ofList (texts.map (·, ()))).keys

/-- A graph of documents. -/
structure Graph where
  /-- each document with those it depends on, ascending -/
  links : Table (List String) := ∅
  deriving DecidableEq, Repr

namespace Graph

/-- The documents of the graph, ascending. -/
def nodes (g : Graph) : List String := g.links.keys

/-- The edges of the graph, ascending. -/
def edges (g : Graph) : List (String × String) :=
  g.links.rows.flatMap fun (source, targets) => targets.map (source, ·)

/-- Whether a document is in the graph. -/
def contains (g : Graph) (path : String) : Bool := g.links.contains path

/-- Adds documents that one document depends on. -/
def link (g : Graph) (source : String) (targets : List String) : Graph :=
  let known := (g.links.get? source).getD []
  let links := g.links.insert source (sortDistinct (known ++ targets))
  ⟨targets.foldl (fun t target => if t.contains target then t else t.insert target []) links⟩

/-- The graph of the resolved dependencies of a list of entries. -/
def ofEntries (entries : List Entry) : Graph :=
  entries.foldl
    (fun g entry => g.link entry.file (Dependency.resolvedPaths entry.dependencies)) {}

/-- The sources of the edges into a document. -/
def sourcesInto (edges : List (String × String)) (path : String) : List String :=
  (edges.filter (·.2 = path)).map (·.1)

/-- The edges that do not lead into a document. -/
def edgesBesides (edges : List (String × String)) (path : String) : List (String × String) :=
  edges.filter (·.2 ≠ path)

/-- Every edge leads into a document or past it, so following one into it leaves fewer edges to follow. -/
theorem length_sourcesInto_add_length_edgesBesides (edges : List (String × String)) (path : String) :
    (sourcesInto edges path).length + (edgesBesides edges path).length = edges.length := by
  induction edges with
  | nil => rfl
  | cons edge edges ih =>
    simp only [sourcesInto, edgesBesides, List.length_map, ne_eq, decide_not] at ih ⊢
    by_cases h : edge.2 = path <;> simp [h] <;> omega

/-- The documents that depend on `path` directly, ascending. -/
def directDependents (g : Graph) (path : String) : List String :=
  sourcesInto g.edges path

/-- The sources of the chains of edges that end in one of the documents `todo`. Every edge is followed
once, so each step leaves fewer edges or fewer documents to go back from. -/
def sourcesOf (edges : List (String × String)) : List String → List String
  | [] => []
  | path :: todo =>
    sourcesInto edges path
      ++ sourcesOf (edgesBesides edges path) (sourcesInto edges path ++ todo)
termination_by todo => edges.length + todo.length
decreasing_by
  have := length_sourcesInto_add_length_edgesBesides edges path
  simp only [List.length_append, List.length_cons]
  omega

/-- The documents that depend on `path` directly or through others, ascending and without `path`. -/
def dependents (g : Graph) (path : String) : List String :=
  (sortDistinct (sourcesOf g.edges [path])).filter (· ≠ path)

end Graph

end Crosslink
