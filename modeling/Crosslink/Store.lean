import Crosslink.Graph

/-!
# The store

The entries of all documents of a corpus, each filed under the name of its document. It is all that
documents know of each other.

* `publish` files an entry; `update` changes one that is there, and `dropDependency` and `promoteDependency`
  change its dependencies.
* `findAnchor?` looks an anchor up in the whole corpus.
* `reconcile` promotes what can be promoted once every document has been published.
-/

namespace Crosslink

/-- The entries of a corpus, by name of the document. -/
abbrev Store := Table Entry

namespace Store

/-- Files an entry under its own name, in place of an earlier one. -/
def publish (store : Store) (entry : Entry) : Store :=
  store.insert entry.file entry

/-- The dependencies in the entry of a document. -/
def dependencies? (store : Store) (path : String) : Option (List Dependency) :=
  (store.get? path).map (·.dependencies)

/-- Changes the entry of a document and answers what the change answers; `none` where there is no entry. -/
def update {α : Type} (store : Store) (path : String) (change : Entry → α × Entry) : Option α × Store :=
  ((store.get? path).map fun entry => (change entry).1,
    store.modify path fun entry => (change entry).2)

/-- Takes a dependency out of the entry of a document, and answers whether it was there. -/
def dropDependency (store : Store) (path : String) (d : Dependency) : Bool × Store :=
  let (answer, store) := store.update path (·.dropDependency d)
  (answer.getD false, store)

/-- Promotes a pending dependency in the entry of a document, and answers whether there was one. -/
def promoteDependency (store : Store) (path key file : String) : Bool × Store :=
  let (answer, store) := store.update path (·.promoteDependency key file)
  (answer.getD false, store)

/-- The first entry, in the order of names, whose document defines an anchor, and the text that the
anchor is shown with. -/
def findAnchor? (store : Store) (anchor : String) : Option (Entry × String) :=
  store.values.findSome? fun entry => (entry.anchorTitle? anchor).map (entry, ·)

/-- The graph of the resolved dependencies of the corpus. -/
def graph (store : Store) : Graph := Graph.ofEntries store.values

/-- The documents to build again when one changes. -/
def dependents (store : Store) (path : String) : List String := store.graph.dependents path

/-! ## Reconciliation

When all documents have been published, some of the names that entries wait for are documents. These are
promoted, entry by entry and name by name, and what was found is reported in the order of the store. -/

/-- What a reconciliation found: pairs of a document and a name that it was waiting for. -/
structure Reconciliation where
  /-- the names that are documents now -/
  promoted : List (String × String)
  /-- the names that are still no documents -/
  stillPending : List (String × String)
  deriving DecidableEq, Repr

/-- Whether nothing is pending any more. -/
def Reconciliation.isComplete (r : Reconciliation) : Bool := r.stillPending.isEmpty

/-- Each document with each name that it waits for, in the order of the store and of the entries. -/
def waiting (store : Store) : List (String × String) :=
  store.rows.flatMap fun (file, entry) =>
    (Dependency.pendingPaths entry.dependencies).map (file, ·)

/-- Promotes each of the given names that is a document, one after the other. -/
def promoteEach (isKnown : String → Bool) (keys : List String) (entry : Entry) : Entry :=
  keys.foldl (fun entry key => if isKnown key then (entry.promoteDependency key key).2 else entry) entry

/-- Promotes every pending dependency on a name that is a document now. -/
def reconcile (store : Store) : Reconciliation × Store :=
  let (promoted, stillPending) := store.waiting.partition fun (_, key) => store.contains key
  (⟨promoted, stillPending⟩,
    store.mapWithKey fun _ entry =>
      promoteEach store.contains (Dependency.pendingPaths entry.dependencies) entry)

end Store

end Crosslink
