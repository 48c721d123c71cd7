import Crosslink.Pass
import Crosslink.Reference

/-!
# Resolvers

References are of different kinds, and each kind has a resolver that knows where its targets lead.

* `Resolver.doc` finds documents, `Resolver.ref` finds titles and labels; `Resolver.ofTable` answers from
  a fixed table.
* `Registry` holds the resolvers by kind of reference.
* `Pass.resolve` resolves a reference, `Pass.found` takes note of one without resolving it.
-/

namespace Crosslink

/-- How references of one kind are resolved. -/
structure Resolver where
  /-- where a target leads, from the document that is compiled -/
  resolve : Draft → Store → String → Option Reference
  /-- what to do where a target is only mentioned -/
  found : String → Call Pass Unit := fun _ => pure ()

namespace Resolver

/-- References to documents: the target is a link to a document, with the text of an anchor behind a
`#`. -/
def resolveDoc (draft : Draft) (store : Store) (target : String) : Option Reference :=
  match draft.location.canonical? target with
  | none => none
  | some name =>
    (store.get? name).map fun entry =>
      { file := entry.file
        url := draft.referenceUrl entry.url
        anchor := (Fragment.fragment? target).bind Draft.anchor?
        title := entry.title }

/-- Makes the mentioned document a dependency, pending until it is published. -/
def foundDoc (target : String) : Call Pass Unit := do
  let p ← get
  let isPublished := (p.draft.location.canonical? target).any p.store.contains
  Pass.onDraft (Draft.addDependency target !isPublished)

/-- The resolver of references to documents. -/
def doc : Resolver := ⟨resolveDoc, foundDoc⟩

/-- References to titles and labels, wherever in the corpus they are defined: in the document itself
first, then in the first document by name. -/
def resolveRef (draft : Draft) (store : Store) (target : String) : Option Reference :=
  match Draft.anchor? target with
  | none => none
  | some anchor =>
    match draft.anchorTitle? anchor with
    | some title => some { file := draft.file, anchor := some anchor, title := some title }
    | none =>
      (store.findAnchor? anchor).map fun (entry, title) =>
        { file := entry.file
          url := draft.referenceUrl entry.url
          anchor := some anchor
          title := some title }

/-- The resolver of references to titles and labels. -/
def ref : Resolver := { resolve := resolveRef }

/-- The resolver that answers from a table of targets, or else with a fixed reference. What it is told of
becomes a dependency in the given state, if one is given. -/
def ofTable (targets : Table Reference) (default : Option Reference) (pending : Option Bool) :
    Resolver where
  resolve _ _ target := targets.get? target <|> default
  found target :=
    match pending with
    | none => pure ()
    | some isPending => Pass.onDraft (Draft.addDependency target isPending)

end Resolver

/-- The resolvers by kind of reference. -/
abbrev Registry := Table Resolver

/-- The kinds of reference that are always there: documents, and titles and labels. -/
def Registry.standard : Registry :=
  (Table.empty.insert "doc" Resolver.doc).insert "ref" Resolver.ref

namespace Pass

/-- Resolves a reference. A kind without resolver is refused; a target that leads nowhere is recorded and
answered with `none`. -/
def resolve (registry : Registry) (role target : String) : Call Pass (Option Reference) := do
  match registry.get? role with
  | none => throw (.unknownRole role)
  | some resolver =>
    let target := Text.trim target
    let p ← get
    match resolver.resolve p.draft p.store target with
    | none =>
      set (p.breakLink role target)
      return none
    | some reference =>
      set (p.settle target reference.file)
      return some reference

/-- Takes note of a reference without resolving it. A kind without resolver is only reported. -/
def found (registry : Registry) (role target : String) : Call Pass Unit := do
  match registry.get? role with
  | none => modify fun p => p.report (.unknownRole p.draft.file role)
  | some resolver => resolver.found (Text.trim target)

end Pass

end Crosslink
