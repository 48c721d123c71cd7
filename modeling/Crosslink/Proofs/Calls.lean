import Crosslink.Proofs.Reconciliation
import Crosslink.Resolver

/-!
# The calls of a pass

What taking note of a reference and resolving one do to the two lists that a document has, the one of its
draft and the published one. Every law about a run of a pass goes back to the equations here, so that
`Pass.found` and `Pass.resolve` are opened once only.

* `run_found_doc` : a mentioned document becomes a dependency, pending unless it is published.
* `run_resolve` : a resolution takes down a reference that leads nowhere and makes one change to both
  lists, `Pass.change`, which goes by the name that the target spells and by the answer alone.
* `Store.Filed` : every entry is filed under the name of its document. All calls keep it so.
-/

namespace Crosslink

open Dependency

/-! ## Stores filed by name

What is true of a store that is filled by publications alone: an entry is found under the name that it
gives itself. Everything that goes by the one name and is then looked up by the other needs this. -/

/-- Every entry is filed under the name of its document. -/
def Store.Filed (store : Store) : Prop :=
  ∀ file entry, store.get? file = some entry → entry.file = file

/-- The entry of a document holds a dependency. -/
def Store.Holds (store : Store) (file : String) (d : Dependency) : Prop :=
  ∃ entry, store.get? file = some entry ∧ d ∈ entry.dependencies

namespace Store

variable {store : Store}

/-- For a document with an entry it is enough to look into that entry. -/
theorem holds_iff {file : String} {entry : Entry} (h : store.get? file = some entry) {d : Dependency} :
    store.Holds file d ↔ d ∈ entry.dependencies := by
  simp [Holds, h]

instance (store : Store) (file : String) (d : Dependency) : Decidable (store.Holds file d) :=
  match h : store.get? file with
  | none => .isFalse fun ⟨_, hentry, _⟩ => nomatch h.symm.trans hentry
  | some _ => decidable_of_iff _ (holds_iff h).symm

theorem get?_publish (store : Store) (entry : Entry) (file : String) :
    (store.publish entry).get? file = if file = entry.file then some entry else store.get? file :=
  Table.get?_insert ..

theorem contains_publish (store : Store) (entry : Entry) (file : String) :
    (store.publish entry).contains file = true ↔ file = entry.file ∨ store.contains file = true := by
  rw [Table.contains_eq_true_iff, Table.contains_eq_true_iff]
  exact Table.mem_keys_insert

theorem Filed.publish (h : store.Filed) (entry : Entry) : (store.publish entry).Filed := by
  intro file published hget
  rw [get?_publish] at hget
  split at hget
  · rename_i hfile
    rw [← Option.some.inj hget, hfile]
  · exact h file published hget

theorem Filed.modify (h : store.Filed) (path : String) (f : List Dependency → List Dependency) :
    Filed (store.modify path (·.mapDependencies f)) := by
  intro file entry hget
  rw [Table.get?_modify] at hget
  split at hget
  · obtain ⟨old, hold, rfl⟩ := Option.map_eq_some_iff.mp hget
    exact h file old hold
  · exact h file entry hget

theorem Filed.reconcile (h : store.Filed) : store.reconcile.2.Filed := by
  intro file entry hget
  rw [get?_reconcile] at hget
  obtain ⟨old, hold, rfl⟩ := Option.map_eq_some_iff.mp hget
  exact h file old hold

end Store

/-! ## Registered resolvers

The standard kinds of reference are found under their names, and no other kind is registered with them. A
target may be trimmed before it is read, since reading it trims it anyway. -/

namespace Registry

@[simp]
theorem standard_doc : standard.get? "doc" = some Resolver.doc := by
  rw [standard, Table.get?_insert, if_neg (by decide), Table.get?_insert, if_pos rfl]

@[simp]
theorem standard_ref : standard.get? "ref" = some Resolver.ref := by
  rw [standard, Table.get?_insert, if_pos rfl]

theorem standard_of_ne {role : String} (hdoc : role ≠ "doc") (href : role ≠ "ref") :
    standard.get? role = none := by
  rw [standard, Table.get?_insert, if_neg href, Table.get?_insert, if_neg hdoc, Table.get?_empty]

end Registry

@[simp]
theorem Location.canonical?_trim (loc : Location) (link : String) :
    loc.canonical? (Text.trim link) = loc.canonical? link := by
  simp only [canonical?, Text.trim_trim]

/-- The name of a document is not empty. -/
theorem Location.canonical?_ne_empty {loc : Location} {link key : String}
    (h : loc.canonical? link = some key) : key ≠ "" := by
  simp only [canonical?] at h
  split at h
  · cases h
  · simpa using (Option.filter_eq_some_iff.mp h).2

namespace Resolver

@[simp]
theorem resolve_doc : doc.resolve = resolveDoc := by rw [doc]

@[simp]
theorem resolve_ref : ref.resolve = resolveRef := by rw [ref]

/-- A reference to a document leads to the file whose name it spells. -/
theorem file_of_resolveDoc {draft : Draft} {store : Store} (hfiled : store.Filed) {target : String}
    {reference : Reference} (h : resolveDoc draft store target = some reference) :
    draft.location.canonical? target = some reference.file := by
  unfold resolveDoc at h
  split at h
  · cases h
  · rename_i name hname
    obtain ⟨entry, hentry, rfl⟩ := Option.map_eq_some_iff.mp h
    rw [hname, hfiled name entry hentry]

end Resolver

namespace Pass

variable {registry : Registry} {role target : String} {p : Pass}

/-! ## Taking note of a reference

Only references to documents are noted. A note is one more dependency in the draft; the entry of the
document does not change until it is published again. -/

theorem run_found_of_none (h : registry.get? role = none) :
    Call.run (found registry role target) p =
      (.ok (), p.report (.unknownRole p.draft.file role)) := by
  rw [found, h]
  rfl

theorem run_found_ref :
    Call.run (found .standard "ref" target) p = (.ok (), p) := by
  rw [found, Registry.standard_ref]
  rfl

/-- The pass after a document has been mentioned. -/
def mention (p : Pass) (target : String) : Pass :=
  match p.draft.location.canonical? target with
  | none => p
  | some key =>
    { p with draft := { p.draft with
        dependencies := add (ofPath key !(p.store.contains key)) p.draft.dependencies } }

/-- A mentioned document becomes a dependency, pending unless it is published; a target that spells no
document is refused and leaves no trace. -/
theorem run_found_doc :
    Call.run (found .standard "doc" target) p =
      (match p.draft.location.canonical? target with
        | none => .error (.noCanonicalUrl (Text.trim target))
        | some _ => .ok (), p.mention target) := by
  have hkey := p.draft.location.canonical?_trim target
  rw [found, Registry.standard_doc]
  simp only [Resolver.doc, Resolver.foundDoc, Call.run_bind, Call.run_get, onDraft, Call.run_on,
    Draft.run_addDependency, hkey, mention]
  cases p.draft.location.canonical? target <;> rfl

/-! ## Resolving a reference

A resolution works on two lists by two means. Here it is shown that what it does to each is one and the
same change, `Pass.change`, so that everything later can be said of `Pass.mapDependencies`. -/

theorem run_resolve_of_none (h : registry.get? role = none) :
    Call.run (resolve registry role target) p = (.error (.unknownRole role), p) := by
  rw [resolve, h]
  rfl

/-- What the answer to a reference makes of a list of dependencies, given the name that the target of the
reference spells. -/
def answered (key : String) : Option Reference → List Dependency → List Dependency
  | none, deps => drop (.resolved key) (drop (.pending key) deps)
  | some reference, deps =>
    if reference.file = "" then drop (.pending key) deps else promote key reference.file deps

/-- What the answer to a reference on `target` makes of the lists of dependencies of the document. -/
def change (p : Pass) (target : String) (answer : Option Reference) :
    List Dependency → List Dependency :=
  match p.draft.location.canonical? target with
  | none => id
  | some key => answered key answer

/-- Takes down that a reference leads nowhere, if it does. -/
def takeDown (p : Pass) (link : BrokenLink) : Option Reference → Pass
  | some _ => p
  | none =>
    { p.report (.brokenLink p.draft.file link) with
      draft := { p.draft with brokenLinks := p.draft.brokenLinks ++ [link] } }

/-- The pass with one change made to the dependencies of the draft and to those of the entry of the
document. -/
def mapDependencies (p : Pass) (f : List Dependency → List Dependency) : Pass :=
  { p with
    draft := { p.draft with dependencies := f p.draft.dependencies }
    store := p.store.modify p.draft.file (·.mapDependencies f) }

/-- To take a dependency out of both lists is one change made to each. -/
theorem dropDependency_eq (d : Dependency) : p.dropDependency d = p.mapDependencies (drop d) := by
  rw [dropDependency, Draft.dropDependency_eq, Store.dropDependency_eq, mapDependencies]

/-- A promotion makes of both lists what is said of one. -/
theorem promoteDependency_eq (key file : String) :
    p.promoteDependency key file =
      p.mapDependencies fun deps => if file = "" then drop (.pending key) deps else promote key file deps := by
  rw [promoteDependency]
  split
  · exact dropDependency_eq _
  · rw [Draft.promoteDependency_eq, Store.promoteDependency_eq, mapDependencies]

/-- A change that changes nothing leaves the pass as it is. -/
theorem mapDependencies_id (p : Pass) : p.mapDependencies id = p := by
  have hstore : p.store.modify p.draft.file (·.mapDependencies id) = p.store := by
    refine Table.ext_get? fun file => ?_
    have hentry : (fun entry : Entry => entry.mapDependencies id) = id := rfl
    rw [Table.get?_modify, hentry, Option.map_id_fun, id, ite_self]
  rw [mapDependencies, hstore]
  rfl

theorem mapDependencies_mapDependencies (p : Pass) (f g : List Dependency → List Dependency) :
    (p.mapDependencies f).mapDependencies g = p.mapDependencies (g ∘ f) := by
  have hstore : (p.store.modify p.draft.file (·.mapDependencies f)).modify p.draft.file
      (·.mapDependencies g) = p.store.modify p.draft.file (·.mapDependencies (g ∘ f)) := by
    refine Table.ext_get? fun file => ?_
    simp only [Table.get?_modify]
    split
    · rw [Option.map_map]
      rfl
    · rfl
  rw [mapDependencies, mapDependencies, mapDependencies, ← hstore]
  rfl

/-- A broken reference is taken down, and both of its dependencies go. -/
theorem breakLink_eq :
    p.breakLink role target =
      (p.takeDown ⟨target, role⟩ none).mapDependencies (p.change target none) := by
  -- what is taken down does not move the document, so its links are read as before
  simp only [breakLink, change]
  split
  · rename_i h
    have hkey : p.draft.location.canonical? target = none := h
    rw [hkey, mapDependencies_id]
    rfl
  · rename_i key h
    have hkey : p.draft.location.canonical? target = some key := h
    rw [hkey, dropDependency_eq, dropDependency_eq, mapDependencies_mapDependencies]
    rfl

/-- A reference that leads somewhere ends the wait for its name. -/
theorem settle_eq (reference : Reference) :
    p.settle target reference.file = p.mapDependencies (p.change target (some reference)) := by
  rw [settle, change]
  cases p.draft.location.canonical? target with
  | none => exact (mapDependencies_id p).symm
  | some key => exact promoteDependency_eq key reference.file

/-- A resolution answers what the resolver says, takes down a broken reference, and makes the same change
to the dependencies of the draft and of the published entry. -/
theorem run_resolve {resolver : Resolver} (h : registry.get? role = some resolver) :
    Call.run (resolve registry role target) p =
      let answer := resolver.resolve p.draft p.store (Text.trim target)
      (.ok answer,
        (p.takeDown ⟨Text.trim target, role⟩ answer).mapDependencies (p.change target answer)) := by
  have hchange : p.change (Text.trim target) = p.change target := by
    funext answer
    rw [change, change, Location.canonical?_trim]
  rw [resolve, h]
  simp only [Call.run_bind, Call.run_get]
  cases resolver.resolve p.draft p.store (Text.trim target) with
  | none =>
    rw [← hchange, ← breakLink_eq]
    rfl
  | some reference =>
    rw [← hchange]
    exact congrArg (Prod.mk _) (settle_eq reference)

/-! ## What a resolution changes

The parts of a pass that are read later, after each of the steps that a call is made of. -/

variable {link : BrokenLink} {answer : Option Reference} {f : List Dependency → List Dependency}

@[simp]
theorem file_takeDown : (p.takeDown link answer).draft.file = p.draft.file := by
  cases answer <;> rfl

@[simp]
theorem dependencies_takeDown :
    (p.takeDown link answer).draft.dependencies = p.draft.dependencies := by
  cases answer <;> rfl

@[simp]
theorem store_takeDown : (p.takeDown link answer).store = p.store := by
  cases answer <;> rfl

@[simp]
theorem file_mapDependencies : (p.mapDependencies f).draft.file = p.draft.file := rfl

@[simp]
theorem dependencies_mapDependencies :
    (p.mapDependencies f).draft.dependencies = f p.draft.dependencies := rfl

@[simp]
theorem store_mapDependencies :
    (p.mapDependencies f).store = p.store.modify p.draft.file (·.mapDependencies f) := rfl

@[simp]
theorem location_mention : (p.mention target).draft.location = p.draft.location := by
  unfold mention
  split <;> rfl

@[simp]
theorem file_mention : (p.mention target).draft.file = p.draft.file := by
  unfold mention
  split <;> rfl

@[simp]
theorem diagnostics_mention : (p.mention target).diagnostics = p.diagnostics := by
  unfold mention
  split <;> rfl

@[simp]
theorem store_mention : (p.mention target).store = p.store := by
  unfold mention
  split <;> rfl

end Pass

end Crosslink
