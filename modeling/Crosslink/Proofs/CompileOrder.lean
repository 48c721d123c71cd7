import Crosslink.Proofs.Calls
import Crosslink.Proofs.Reachability

/-!
# The order of compilation

The documents of a corpus are compiled side by side, over one store, and their steps may come in any
order. A document is pending or resolved in the list of another one depending on whether it was published
by the time it was mentioned, and it can be both; but what is left after a reconciliation depends only on
what was mentioned and on what was published in the end.

* `Build` is the state of such a compilation, `Build.run` takes steps of it in a given order.
* `Tracks` ties a list of dependencies to the names mentioned so far, `Build.Inv` all lists to all the
  steps taken so far; `Build.inv_run` proves it of every order.
* `compile_order_irrelevant` : after a reconciliation the order cannot be told any more.
-/

namespace Crosslink

open Dependency

/-! ## Steps and orders

A document mentions its targets one after the other and is published in the end. An order of a corpus is
an interleaving of these runs: which document goes on next is free, the steps of one document are not. -/

/-- A step in the compilation of a document. -/
inductive Step where
  /-- a reference to a document is noted -/
  | mention (target : String)
  /-- what the document makes known of itself is filed -/
  | publish
  deriving DecidableEq, Repr

/-- Takes a step. -/
def Step.take : Step → Pass → Pass
  | mention target, p => (Call.run (Pass.found .standard "doc" target) p).2
  | publish, p => p.publish

/-- The name of the document that a step mentions, read from where the mentioning document stands. -/
def Step.key? (loc : Location) : Step → Option String
  | mention target => loc.canonical? target
  | publish => none

/-- A document at the beginning of its compilation, and the documents it is going to mention. -/
structure Document where
  /-- the draft at the beginning -/
  draft : Draft
  /-- it depends on nothing yet -/
  fresh : draft.dependencies = []
  /-- the documents it mentions, as written, in order -/
  targets : List String

namespace Document

/-- The name of the document. -/
def file (d : Document) : String := d.draft.file

/-- The names of the documents that it mentions in some steps. -/
def keysOf (d : Document) (steps : List Step) : List String :=
  steps.filterMap (·.key? d.draft.location)

/-- The names of all documents that it mentions. -/
def keys (d : Document) : List String := d.targets.filterMap d.draft.location.canonical?

/-- The steps of its compilation: it mentions its targets, and then it is published. -/
def steps (d : Document) : List Step := d.targets.map .mention ++ [.publish]

end Document

/-- Documents with different names. -/
structure Corpus where
  /-- the documents -/
  documents : List Document
  /-- no two have one name -/
  distinct : (documents.map (·.file)).Nodup

/-- The steps of one document in an order of steps of several. -/
def stepsOf (order : List (String × Step)) (file : String) : List Step :=
  (order.filter (·.1 = file)).map (·.2)

/-- Documents of a corpus with one name are one document. -/
theorem Corpus.eq_of_file (corpus : Corpus) {d d' : Document} (hd : d ∈ corpus.documents)
    (hd' : d' ∈ corpus.documents) (h : d.file = d'.file) : d = d' :=
  List.inj_on_of_nodup_map corpus.distinct hd hd' h

/-- An order of all the steps of a corpus, in which each document takes its own steps as they come. -/
def Corpus.IsOrder (corpus : Corpus) (order : List (String × Step)) : Prop :=
  (∀ step ∈ order, ∃ d ∈ corpus.documents, d.file = step.1) ∧
    ∀ d ∈ corpus.documents, stepsOf order d.file = d.steps

instance (corpus : Corpus) (order : List (String × Step)) : Decidable (corpus.IsOrder order) :=
  inferInstanceAs (Decidable (_ ∧ _))

/-! ## Builds

A build has one draft for each document and one store for all of them. A step is taken in the draft of its
document and in the store; the other drafts do not move. -/

/-- Documents that are compiled side by side, over one store. -/
structure Build where
  /-- their drafts, by name -/
  drafts : Table Draft
  /-- the entries of the corpus -/
  store : Store
  /-- what has been reported, in order -/
  diagnostics : List Diagnostic := []

namespace Build

/-- A build before its first step. -/
def start (corpus : Corpus) (store : Store) : Build where
  drafts := Table.ofList (corpus.documents.map fun d => (d.file, d.draft))
  store

/-- Lets the pass of one document go on by a step. -/
def advance (b : Build) (file : String) (step : Step) : Build :=
  match b.drafts.get? file with
  | none => b
  | some draft =>
    let p := step.take { draft, store := b.store, diagnostics := b.diagnostics }
    { drafts := b.drafts.insert file p.draft, store := p.store, diagnostics := p.diagnostics }

/-- Takes steps in a given order. -/
def run (b : Build) (order : List (String × Step)) : Build :=
  order.foldl (fun b step => b.advance step.1 step.2) b

end Build

/-! ## Mentioned names and dependencies

A list of dependencies is not determined by the names that have been mentioned: a name is resolved if its
document was published by then, else pending, and after a second mention it may be both. What can be said
is that the list holds exactly these names and resolves none too early. A reconciliation makes more of
that: every name that is a document is resolved then, and every other one is pending. -/

/-- A list of dependencies holds exactly the names mentioned so far, resolved only if they are
documents. A name may be there in both forms. -/
structure Tracks (store : Store) (keys : List String) (deps : List Dependency) : Prop where
  nodup : deps.Nodup
  pending : ∀ key, .pending key ∈ deps → key ∈ keys
  resolved : ∀ key, .resolved key ∈ deps → key ∈ keys ∧ store.contains key = true
  complete : ∀ key ∈ keys, .pending key ∈ deps ∨ .resolved key ∈ deps

namespace Tracks

variable {store store' : Store} {keys : List String} {deps : List Dependency} {key : String}

theorem nil : Tracks store [] [] := ⟨.nil, nofun, nofun, nofun⟩

/-- A list goes on holding what it holds while more documents are published. -/
theorem mono (h : Tracks store keys deps)
    (hgrow : ∀ key, store.contains key = true → store'.contains key = true) :
    Tracks store' keys deps :=
  ⟨h.nodup, h.pending, fun key hmem => (h.resolved key hmem).imp_right (hgrow key), h.complete⟩

/-- A name is added in the form that the store asks for. -/
theorem mention (h : Tracks store keys deps) :
    Tracks store (keys ++ [key]) (add (ofPath key !(store.contains key)) deps) := by
  have hnew : ∀ d, d = ofPath key !(store.contains key) → d.path ∈ keys ++ [key] := by
    rintro d rfl
    rw [path_ofPath]
    exact List.mem_append_right _ List.mem_cons_self
  -- every dependency of the new list was there before, or is the one that is added
  refine ⟨nodup_add h.nodup, fun path hmem => ?_, fun path hmem => ?_, fun path hmem => ?_⟩
  · rw [mem_add] at hmem
    rcases hmem with hmem | hmem
    · exact hnew _ hmem
    · exact List.mem_append_left _ (h.pending path hmem)
  · rw [mem_add] at hmem
    rcases hmem with hmem | hmem
    · cases hknown : store.contains key with
      | false =>
        rw [hknown] at hmem
        cases hmem
      | true =>
        refine ⟨hnew _ hmem, ?_⟩
        rw [hknown] at hmem
        cases hmem
        exact hknown
    · exact (h.resolved path hmem).imp_left (List.mem_append_left _)
  · simp only [mem_add]
    rcases List.mem_append.mp hmem with hmem | hmem
    · exact (h.complete path hmem).imp .inr .inr
    · rw [List.mem_singleton.mp hmem]
      cases store.contains key with
      | false => exact .inl (.inl rfl)
      | true => exact .inr (.inl rfl)

/-- A pass that mentions a target goes on to track what is mentioned, with nothing added where the target
spells no document. -/
theorem pass_mention {p : Pass} (h : Tracks p.store keys p.draft.dependencies) (target : String) :
    Tracks p.store (keys ++ (p.draft.location.canonical? target).toList)
      (p.mention target).draft.dependencies := by
  unfold Pass.mention
  cases p.draft.location.canonical? target with
  | none => simpa using h
  | some key => exact h.mention

/-- After a reconciliation the names that are documents are resolved. -/
theorem resolved_mem_promoteAll (h : Tracks store keys deps) :
    .resolved key ∈ Store.promoteAll store.contains deps ↔
      key ∈ keys ∧ store.contains key = true := by
  rw [Store.resolved_mem_promoteAll]
  constructor
  · rintro (hmem | ⟨hknown, hmem⟩)
    · exact h.resolved key hmem
    · exact ⟨h.pending key hmem, hknown⟩
  · rintro ⟨hkey, hknown⟩
    exact (h.complete key hkey).symm.imp_right fun hmem => ⟨hknown, hmem⟩

/-- After a reconciliation all other names are pending. -/
theorem pending_mem_promoteAll (h : Tracks store keys deps) :
    .pending key ∈ Store.promoteAll store.contains deps ↔
      key ∈ keys ∧ store.contains key = false := by
  rw [Store.pending_mem_promoteAll]
  refine and_congr_left fun hunknown => ⟨h.pending key, fun hkey => ?_⟩
  -- a resolved name is a document, so an unknown one can only be pending
  refine (h.complete key hkey).resolve_right fun hmem => ?_
  have hknown := (h.resolved key hmem).2
  rw [hunknown] at hknown
  cases hknown

end Tracks

/-! ## One step

The steps taken so far are split by document, and the names that each has mentioned are read off its own
share. A mention makes one share longer by a name; a publication makes none longer, and files one entry. -/

namespace Document

variable {d : Document}

/-- The names mentioned in a run, and in what follows it. -/
theorem keysOf_append (steps others : List Step) :
    d.keysOf (steps ++ others) = d.keysOf steps ++ d.keysOf others :=
  List.filterMap_append

theorem keysOf_singleton (step : Step) :
    d.keysOf [step] = (step.key? d.draft.location).toList := by
  rw [keysOf, List.filterMap_cons]
  cases step.key? d.draft.location <;> rfl

/-- A mention adds the name that its target spells, if there is one. -/
theorem keysOf_append_mention (steps : List Step) (target : String) :
    d.keysOf (steps ++ [.mention target]) =
      d.keysOf steps ++ (d.draft.location.canonical? target).toList := by
  rw [keysOf_append, keysOf_singleton, Step.key?]

theorem keysOf_append_publish (steps : List Step) :
    d.keysOf (steps ++ [.publish]) = d.keysOf steps := by
  rw [keysOf_append, keysOf_singleton, Step.key?, Option.toList_none, List.append_nil]

/-- When all mentions have been made, all names have been mentioned. -/
theorem keysOf_mentions : d.keysOf (d.targets.map .mention) = d.keys := by
  rw [keysOf, keys, List.filterMap_map]
  refine List.filterMap_congr fun target _ => ?_
  rw [Function.comp_apply, Step.key?]

end Document

theorem stepsOf_append_self (order : List (String × Step)) (file : String) (step : Step) :
    stepsOf (order ++ [(file, step)]) file = stepsOf order file ++ [step] := by
  simp [stepsOf]

theorem stepsOf_append_of_ne {file other : String} (h : other ≠ file) (order : List (String × Step))
    (step : Step) : stepsOf (order ++ [(other, step)]) file = stepsOf order file := by
  simp [stepsOf, h]

namespace Build

variable {corpus : Corpus} {store : Store} {order : List (String × Step)} {b : Build}

/-- What holds of a build after the steps `order`, from the store `store`. -/
structure Inv (corpus : Corpus) (store : Store) (order : List (String × Step)) (b : Build) :
    Prop where
  filed : b.store.Filed
  /-- the documents are those of the beginning and those that have been published -/
  known : ∀ key, b.store.contains key = true ↔ store.contains key = true ∨
    ∃ d ∈ corpus.documents, d.file = key ∧ Step.publish ∈ stepsOf order key
  /-- a draft stands where it did, and its list holds what its document has mentioned -/
  draft : ∀ d ∈ corpus.documents, ∃ draft, b.drafts.get? d.file = some draft ∧
    draft.location = d.draft.location ∧
    Tracks b.store (d.keysOf (stepsOf order d.file)) draft.dependencies
  /-- a document whose last step was its publication has an entry, with what it had mentioned -/
  entry : ∀ d ∈ corpus.documents, ∀ mentions, stepsOf order d.file = mentions ++ [.publish] →
    ∃ entry, b.store.get? d.file = some entry ∧
      Tracks b.store (d.keysOf mentions) entry.dependencies
  /-- the entries of all other documents are those of the beginning -/
  rest : ∀ file, (∀ d ∈ corpus.documents, d.file ≠ file) → b.store.get? file = store.get? file

/-- Nothing has been mentioned at the beginning, and the store is the one that the build begins with. -/
theorem inv_start (h : store.Filed) : Inv corpus store [] (start corpus store) where
  filed := h
  known key := by simp [start, stepsOf]
  draft d hd := by
    have hkeys : ((corpus.documents.map fun d => (d.file, d.draft)).map (·.1)).Nodup := by
      rw [List.map_map]
      exact corpus.distinct
    refine ⟨d.draft, Table.get?_ofList hkeys (List.mem_map_of_mem hd), rfl, ?_⟩
    rw [d.fresh]
    exact Tracks.nil
  entry d _ mentions h := by simp [stepsOf] at h
  rest _ _ := rfl

/-- A mention adds the mentioned name to the list of the draft, and to nothing else. -/
theorem advance_mention {file : String} {draft : Draft} (h : b.drafts.get? file = some draft)
    (target : String) :
    b.advance file (.mention target) =
      let p : Pass := { draft, store := b.store, diagnostics := b.diagnostics }
      { b with drafts := b.drafts.insert file (p.mention target).draft } := by
  rw [advance, h]
  simp only [Step.take, Pass.run_found_doc, Pass.store_mention, Pass.diagnostics_mention]

/-- A publication files the entry of the draft. -/
theorem advance_publish {file : String} {draft : Draft} (h : b.drafts.get? file = some draft) :
    b.advance file .publish =
      { b with drafts := b.drafts.insert file draft, store := b.store.publish draft.entry } := by
  rw [advance, h]
  rfl

/-- A mention keeps the invariant: the list of its draft tracks one name more, the other drafts and all
entries are what they were. -/
theorem Inv.mention (h : Inv corpus store order b) {d : Document} (hd : d ∈ corpus.documents)
    (target : String) :
    Inv corpus store (order ++ [(d.file, .mention target)]) (b.advance d.file (.mention target)) := by
  obtain ⟨draft, hdraft, hlocation, htracks⟩ := h.draft d hd
  rw [advance_mention hdraft]
  have hpublish : ∀ file, Step.publish ∈ stepsOf (order ++ [(d.file, .mention target)]) file ↔
      Step.publish ∈ stepsOf order file := by
    intro file
    by_cases hfile : d.file = file
    · simp [hfile, stepsOf_append_self]
    · rw [stepsOf_append_of_ne hfile]
  -- the store stays as it is, and of the drafts only that of `d` changes
  refine ⟨h.filed, fun key => ?_, fun d' hd' => ?_, fun d' hd' mentions hlast => ?_, h.rest⟩
  · simp only [hpublish]
    exact h.known key
  · by_cases hfile : d.file = d'.file
    · obtain rfl := corpus.eq_of_file hd hd' hfile
      refine ⟨_, by rw [Table.get?_insert, if_pos rfl], ?_, ?_⟩
      · rw [Pass.location_mention]
        exact hlocation
      · rw [stepsOf_append_self, Document.keysOf_append_mention, ← hlocation]
        exact Tracks.pass_mention
          (p := { draft, store := b.store, diagnostics := b.diagnostics }) htracks target
    · obtain ⟨draft', hdraft', hrest⟩ := h.draft d' hd'
      refine ⟨draft', by rw [Table.get?_insert, if_neg (Ne.symm hfile), hdraft'], ?_⟩
      rw [stepsOf_append_of_ne hfile]
      exact hrest
  · by_cases hfile : d.file = d'.file
    · -- the last step of this document was no publication
      rw [hfile, stepsOf_append_self] at hlast
      cases (List.append_inj' hlast rfl).2
    · rw [stepsOf_append_of_ne hfile] at hlast
      exact h.entry d' hd' mentions hlast

/-- A publication makes its document known, and no other. -/
theorem Inv.known_publish (h : Inv corpus store order b) {d : Document} (hd : d ∈ corpus.documents)
    {entry : Entry} (hentry : entry.file = d.file) (key : String) :
    (b.store.publish entry).contains key = true ↔ store.contains key = true ∨
      ∃ d' ∈ corpus.documents, d'.file = key ∧
        Step.publish ∈ stepsOf (order ++ [(d.file, .publish)]) key := by
  rw [Store.contains_publish, hentry, h.known]
  by_cases hfile : d.file = key
  · subst hfile
    rw [stepsOf_append_self]
    constructor
    · intro _
      exact .inr ⟨d, hd, rfl, List.mem_append_right _ List.mem_cons_self⟩
    · intro _
      exact .inl rfl
  · rw [stepsOf_append_of_ne hfile]
    exact or_iff_right (Ne.symm hfile)

/-- A publication keeps the invariant: the entry of its document is that of the draft, and the lists of
all drafts hold what they held, over a store with one document more. -/
theorem Inv.publish (h : Inv corpus store order b) {d : Document} (hd : d ∈ corpus.documents) :
    Inv corpus store (order ++ [(d.file, .publish)]) (b.advance d.file .publish) := by
  obtain ⟨draft, hdraft, hlocation, htracks⟩ := h.draft d hd
  rw [advance_publish hdraft]
  have hname : draft.entry.file = d.file := congrArg Location.file hlocation
  -- all lists are read against a store that has grown, also those that do not change themselves
  have hgrow : ∀ key, b.store.contains key = true →
      (b.store.publish draft.entry).contains key = true := by
    intro key hkey
    rw [Store.contains_publish]
    exact .inr hkey
  refine ⟨h.filed.publish _, fun key => ?_, fun d' hd' => ?_, fun d' hd' mentions hlast => ?_,
    fun file hfile => ?_⟩
  · exact h.known_publish hd hname key
  · by_cases hfile : d.file = d'.file
    · obtain rfl := corpus.eq_of_file hd hd' hfile
      refine ⟨draft, by rw [Table.get?_insert, if_pos rfl], hlocation, ?_⟩
      rw [stepsOf_append_self, Document.keysOf_append_publish]
      exact htracks.mono hgrow
    · obtain ⟨draft', hdraft', hlocation', htracks'⟩ := h.draft d' hd'
      refine ⟨draft', by rw [Table.get?_insert, if_neg (Ne.symm hfile), hdraft'], hlocation', ?_⟩
      rw [stepsOf_append_of_ne hfile]
      exact htracks'.mono hgrow
  · by_cases hfile : d.file = d'.file
    · obtain rfl := corpus.eq_of_file hd hd' hfile
      rw [stepsOf_append_self] at hlast
      obtain ⟨rfl, -⟩ := List.append_inj' hlast rfl
      refine ⟨draft.entry, by rw [Store.get?_publish, if_pos hname.symm], ?_⟩
      exact htracks.mono hgrow
    · rw [stepsOf_append_of_ne hfile] at hlast
      obtain ⟨entry, hentry, htracks'⟩ := h.entry d' hd' mentions hlast
      refine ⟨entry, ?_, htracks'.mono hgrow⟩
      rw [Store.get?_publish, if_neg (hname ▸ Ne.symm hfile), hentry]
  · rw [Store.get?_publish, if_neg fun e => hfile d hd (hname.symm.trans e.symm), h.rest file hfile]

/-- The invariant holds of every order of steps of the documents. -/
theorem inv_run (hfiled : store.Filed)
    (hsteps : ∀ step ∈ order, ∃ d ∈ corpus.documents, d.file = step.1) :
    Inv corpus store order ((start corpus store).run order) := by
  -- from the end of the order, because the invariant is about the steps taken so far
  induction order using List.reverseRecOn with
  | nil => exact inv_start hfiled
  | append_singleton order step ih =>
    obtain ⟨file, step⟩ := step
    obtain ⟨d, hd, hfile⟩ := hsteps (file, step) (by simp)
    have hrest := ih fun step hstep => hsteps step (List.mem_append_left _ hstep)
    rw [run, List.foldl_append, ← run]
    cases hfile
    cases step with
    | mention target => exact hrest.mention hd target
    | publish => exact hrest.publish hd

/-- After all steps the store has the documents that were there before and those that were compiled. -/
theorem Inv.contains (h : Inv corpus store order b) (horder : corpus.IsOrder order) (key : String) :
    b.store.contains key = true ↔
      store.contains key = true ∨ ∃ d ∈ corpus.documents, d.file = key := by
  rw [h.known]
  refine or_congr_right (exists_congr fun d => and_congr_right fun hd => ?_)
  refine and_iff_left_of_imp fun hkey => ?_
  rw [← hkey, horder.2 d hd, Document.steps]
  exact List.mem_append_right _ List.mem_cons_self

/-- When all documents have been compiled, every one has an entry with all that it mentions. -/
theorem Inv.compiled (h : Inv corpus store order b) (horder : corpus.IsOrder order) {d : Document}
    (hd : d ∈ corpus.documents) :
    ∃ entry, b.store.get? d.file = some entry ∧ Tracks b.store d.keys entry.dependencies := by
  obtain ⟨entry, hentry, htracks⟩ := h.entry d hd _ (horder.2 d hd)
  rw [Document.keysOf_mentions] at htracks
  exact ⟨entry, hentry, htracks⟩

end Build

/-! ## What is left after a reconciliation

Which form a dependency has depends on the order; which names there are and which documents there are does
not. A reconciliation is told only of these, so its outcome is fixed for each list up to the order of its
members, and with it the graph. -/

/-- The edges of the graph of a store are the resolved dependencies in its entries. -/
theorem Store.Filed.mem_edges_graph {store : Store} (h : store.Filed) {source target : String} :
    (source, target) ∈ store.graph.edges ↔ store.Holds source (.resolved target) := by
  rw [graph, Graph.mem_edges_ofEntries]
  constructor
  · rintro ⟨entry, hentry, rfl, hmem⟩
    obtain ⟨⟨file, entry⟩, hrow, rfl⟩ := List.mem_map.mp hentry
    have hget := Table.get?_eq_some_iff.mpr hrow
    rw [h file entry hget]
    exact ⟨entry, hget, hmem⟩
  · rintro ⟨entry, hget, hmem⟩
    exact ⟨entry, List.mem_map_of_mem (Table.get?_eq_some_iff.mp hget), h source entry hget, hmem⟩

/-- The store when all documents have been compiled, in a given order, and reconciled. -/
def Corpus.compile (corpus : Corpus) (store : Store) (order : List (String × Step)) : Store :=
  ((Build.start corpus store).run order).store.reconcile.2

namespace Corpus

variable {corpus : Corpus} {store : Store} {order : List (String × Step)}

theorem contains_compile (hfiled : store.Filed) (horder : corpus.IsOrder order) (key : String) :
    (corpus.compile store order).contains key = true ↔
      store.contains key = true ∨ ∃ d ∈ corpus.documents, d.file = key := by
  rw [compile, Store.contains_reconcile]
  exact (Build.inv_run hfiled horder.1).contains horder key

/-- The list of a document of the corpus holds all that the document mentions, once. -/
theorem get?_compile (hfiled : store.Filed) (horder : corpus.IsOrder order) {d : Document}
    (hd : d ∈ corpus.documents) :
    ∃ entry, (corpus.compile store order).get? d.file = some entry ∧ entry.dependencies.Nodup ∧
      ∀ key,
        (.resolved key ∈ entry.dependencies ↔
          key ∈ d.keys ∧ (corpus.compile store order).contains key = true) ∧
        (.pending key ∈ entry.dependencies ↔
          key ∈ d.keys ∧ (corpus.compile store order).contains key = false) := by
  obtain ⟨entry, hentry, htracks⟩ := (Build.inv_run hfiled horder.1).compiled horder hd
  refine ⟨_, by rw [compile, Store.get?_reconcile, hentry, Option.map_some], ?_, fun key => ?_⟩
  · exact Store.nodup_promoteKnown htracks.nodup
  · rw [compile, Store.contains_reconcile]
    exact ⟨htracks.resolved_mem_promoteAll, htracks.pending_mem_promoteAll⟩

/-- A document that is not compiled keeps its entry, up to the reconciliation. -/
theorem get?_compile_of_ne (hfiled : store.Filed) (horder : corpus.IsOrder order) {file : String}
    (hfile : ∀ d ∈ corpus.documents, d.file ≠ file) :
    (corpus.compile store order).get? file = (store.get? file).map
      (·.mapDependencies (Store.promoteAll (corpus.compile store order).contains)) := by
  have hrest := (Build.inv_run hfiled horder.1).rest file hfile
  rw [compile, Store.contains_reconcile, Store.get?_reconcile, hrest]

/-- The order of the steps does not show in which document depends on what. -/
theorem holds_compile {other : List (String × Step)} (hfiled : store.Filed)
    (horder : corpus.IsOrder order) (hother : corpus.IsOrder other) (file : String) (d : Dependency) :
    (corpus.compile store order).Holds file d ↔ (corpus.compile store other).Holds file d := by
  have hcontains : (corpus.compile store order).contains = (corpus.compile store other).contains := by
    funext key
    rw [Bool.eq_iff_iff, contains_compile hfiled horder, contains_compile hfiled hother]
  by_cases hfile : ∃ doc ∈ corpus.documents, doc.file = file
  · obtain ⟨doc, hdoc, rfl⟩ := hfile
    obtain ⟨entry, hentry, -, hmem⟩ := get?_compile hfiled horder hdoc
    obtain ⟨entry', hentry', -, hmem'⟩ := get?_compile hfiled hother hdoc
    rw [Store.holds_iff hentry, Store.holds_iff hentry']
    cases d with
    | resolved key => rw [(hmem key).1, (hmem' key).1, hcontains]
    | pending key => rw [(hmem key).2, (hmem' key).2, hcontains]
  · have hrest : ∀ doc ∈ corpus.documents, doc.file ≠ file := fun doc hdoc e => hfile ⟨doc, hdoc, e⟩
    rw [Store.Holds, Store.Holds, get?_compile_of_ne hfiled horder hrest,
      get?_compile_of_ne hfiled hother hrest, hcontains]

/-- **The order of compilation does not matter.** Let the documents of a corpus be compiled side by side
over one store, and the store be reconciled. In every order of their steps, the documents are those of
the beginning and those of the corpus; the list of each document of the corpus has no duplicates and
holds the names that the document mentions, resolved where they are documents and pending where they are
not; and the graph has an edge for each of the former. Any other order leaves every document of the store
with the same dependencies. -/
theorem compile_order_irrelevant (corpus : Corpus) (store : Store) (hfiled : store.Filed)
    (order : List (String × Step)) (horder : corpus.IsOrder order) :
    let final := corpus.compile store order
    (∀ key, final.contains key = true ↔
      store.contains key = true ∨ ∃ d ∈ corpus.documents, d.file = key) ∧
    (∀ d ∈ corpus.documents,
      (∃ entry, final.get? d.file = some entry ∧ entry.dependencies.Nodup ∧
        ∀ key,
          (.resolved key ∈ entry.dependencies ↔ key ∈ d.keys ∧ final.contains key = true) ∧
          (.pending key ∈ entry.dependencies ↔ key ∈ d.keys ∧ final.contains key = false)) ∧
      ∀ key, (d.file, key) ∈ final.graph.edges ↔ key ∈ d.keys ∧ final.contains key = true) ∧
    ∀ other, corpus.IsOrder other → ∀ file d,
      (corpus.compile store other).Holds file d ↔ final.Holds file d := by
  intro final
  refine ⟨contains_compile hfiled horder, fun d hd => ⟨get?_compile hfiled horder hd, fun key => ?_⟩,
    fun other hother file d => holds_compile hfiled hother horder file d⟩
  obtain ⟨entry, hentry, -, hmem⟩ := get?_compile hfiled horder hd
  have hfinal : final.Filed := (Build.inv_run hfiled horder.1).filed.reconcile
  rw [hfinal.mem_edges_graph, Store.holds_iff hentry, (hmem key).1]

/-- Two documents that mention each other; one of them also mentions what is no document. -/
def pair : Corpus where
  documents :=
    [{ draft := { file := "index" }, fresh := rfl, targets := ["guide/setup"] },
      { draft := { file := "guide/setup" }, fresh := rfl, targets := ["/index", "missing"] }]
  distinct := by decide

/-- In `pair`, either document may be compiled first, or both side by side. -/
theorem compile_order_irrelevant_pair :
    let first := [("index", Step.mention "guide/setup"), ("index", .publish),
      ("guide/setup", .mention "/index"), ("guide/setup", .mention "missing"),
      ("guide/setup", .publish)]
    let second := [("guide/setup", Step.mention "/index"), ("index", .mention "guide/setup"),
      ("guide/setup", .mention "missing"), ("guide/setup", .publish), ("index", .publish)]
    Store.Filed ∅ ∧ pair.IsOrder first ∧ pair.IsOrder second ∧
    (∀ file d, (pair.compile ∅ second).Holds file d ↔ (pair.compile ∅ first).Holds file d) ∧
    ("guide/setup", "index") ∈ (pair.compile ∅ first).graph.edges := by
  intro first second
  have hfiled : Store.Filed ∅ := fun _ _ h => nomatch h
  have hfirst : pair.IsOrder first := by decide
  have hsecond : pair.IsOrder second := by decide
  obtain ⟨hcontains, hdocuments, hother⟩ := compile_order_irrelevant pair ∅ hfiled first hfirst
  refine ⟨hfiled, hfirst, hsecond, hother second hsecond, ?_⟩
  obtain ⟨-, hedges⟩ := hdocuments _ (List.mem_cons_of_mem _ List.mem_cons_self)
  refine (hedges "index").mpr ⟨?_, (hcontains "index").mpr (.inr ⟨_, List.mem_cons_self, rfl⟩)⟩
  decide +kernel

end Corpus

end Crosslink
