import Crosslink.Draft

/-!
# Passes

A pass compiles one document. It works on the draft of the document, on the store that all documents
share, and on the diagnostics reported so far.

* `setLink` files a link target and warns of an anonymous one that belongs to no reference.
* `dropDependency` and `promoteDependency` change the dependencies of the document where they stand: in the
  draft, and in the entry that has been published of it.
* `breakLink` and `settle` are the two outcomes of a reference.
* `publish` files what the draft makes known of itself.
-/

namespace Crosslink

/-- What a pass works on. -/
structure Pass where
  /-- the document -/
  draft : Draft
  /-- the entries of the corpus -/
  store : Store := ∅
  /-- what has been reported, in order -/
  diagnostics : List Diagnostic := []

namespace Pass

/-- A call on the draft of a pass. -/
def onDraft {α : Type} (call : Call Draft α) : Call Pass α :=
  Call.on (·.draft) (fun p draft => { p with draft }) call

/-- Reports a diagnostic. -/
def report (p : Pass) (diagnostic : Diagnostic) : Pass :=
  { p with diagnostics := p.diagnostics ++ [diagnostic] }

/-- The warning of an anonymous target that belongs to no reference. -/
def orphanWarning (file url : String) : Diagnostic :=
  .warning s!"{file}: anonymous link target '{Text.trim url}' has no anonymous reference to bind to"

/-- Files a link target. -/
def setLink (p : Pass) (name url : String) : Pass :=
  let p :=
    if LinkName.isAnonymous name ∧ p.draft.links.waiting = [] then
      p.report (orphanWarning p.draft.file url)
    else p
  { p with draft := { p.draft with links := p.draft.links.bind name url } }

/-- Takes a dependency out of the draft, and out of the entry of the document. -/
def dropDependency (p : Pass) (d : Dependency) : Pass :=
  { p with
    draft := p.draft.dropDependency d
    store := (p.store.dropDependency p.draft.file d).2 }

/-- Promotes the pending dependency on `key` to one on `file` in the draft, and in the entry of the document;
out of the corpus there is nothing to depend on, and it is taken out. -/
def promoteDependency (p : Pass) (key file : String) : Pass :=
  if file = "" then p.dropDependency (.pending key)
  else
    { p with
      draft := p.draft.promoteDependency key file
      store := (p.store.promoteDependency p.draft.file key file).2 }

/-- Records a reference that leads nowhere. If it names a document, nothing depends on that document
any more. -/
def breakLink (p : Pass) (role target : String) : Pass :=
  let link : BrokenLink := ⟨target, role⟩
  let p := p.report (.brokenLink p.draft.file link)
  let p := { p with draft := { p.draft with brokenLinks := p.draft.brokenLinks ++ [link] } }
  match p.draft.location.canonical? target with
  | none => p
  | some key => (p.dropDependency (.pending key)).dropDependency (.resolved key)

/-- Promotes the pending dependency that a reference was waiting with, now that it leads to `file`. -/
def settle (p : Pass) (target file : String) : Pass :=
  match p.draft.location.canonical? target with
  | none => p
  | some key => p.promoteDependency key file

/-- Files what the draft makes known of itself. -/
def publish (p : Pass) : Pass :=
  { p with store := p.store.publish p.draft.entry }

end Pass

end Crosslink
