import Crosslink.Proofs.BrokenReferences
import Crosslink.Proofs.DependencyOrder
import Crosslink.Proofs.SoundEntries

/-!
# What a pass comes to

While a document is compiled, its references to other documents are noted and resolved one by one: each
note adds a dependency, each resolution promotes one or takes it out again, in the draft and in an entry
that is there from an earlier pass. If no document comes or goes meanwhile, all of this comes to the same
as two selections from the list of targets: those that lead to a document are depended on, the others are
broken.

* `Item` is what a pass meets, `Pass.read` a run over it.
* `Pass.destination?` is where a target leads, told from the store that the pass begins with.
* `Pass.Reached` is the closed form. `Reached.step` keeps it over one item, `reached_read` over a run.
* `Pass.reading_closed_form` puts it together, with what each reference is answered.
-/

namespace Crosslink

open Dependency

/-! ## Lists of dependencies on known documents

Between two references nothing is pending in the list, since every wait is ended by the resolution that
follows it at once. So a reference is a step on lists of resolved dependencies: it adds one, or it adds
one and takes it out again. -/

namespace Dependency

variable {key : String} {keys : List String} {d : Dependency} {deps : List Dependency}

/-- Naming a document again adds no dependency. -/
theorem add_eraseDups (key : String) (keys : List String) :
    add (resolved key) (keys.eraseDups.map resolved) = (keys ++ [key]).eraseDups.map resolved := by
  have hmem : resolved key ∈ keys.eraseDups.map resolved ↔ key ∈ keys := by simp
  rw [add, eraseDups_concat]
  simp only [hmem]
  split
  · rfl
  · rw [List.map_append, List.map_singleton]

theorem drop_of_not_mem (h : d ∉ deps) : drop d deps = deps :=
  List.filter_eq_self.mpr fun _ he => decide_eq_true (ne_of_mem_of_not_mem he h)

/-- A dependency that is taken out again has left no trace. -/
theorem drop_add (h : d ∉ deps) : drop d (add d deps) = deps := by
  rw [add, if_neg h, drop, List.filter_append]
  change drop d deps ++ _ = deps
  rw [drop_of_not_mem h]
  simp

/-- A known dependency outlives the answer that leads to it. -/
theorem answered_add_resolved {reference : Reference} (h : pending reference.file ∉ deps)
    (hfile : reference.file ≠ "") :
    Pass.answered reference.file (some reference) (add (resolved reference.file) deps) =
      add (resolved reference.file) deps := by
  have hpending : pending reference.file ∉ add (resolved reference.file) deps := by simp [h]
  rw [Pass.answered, if_neg hfile, promote_of_not_mem hpending]

/-- A dependency on a name does not outlive the answer that the name leads nowhere. -/
theorem answered_add_pending (hpending : pending key ∉ deps) (hresolved : resolved key ∉ deps) :
    Pass.answered key none (add (pending key) deps) = deps := by
  rw [Pass.answered, drop_add hpending, drop_of_not_mem hresolved]

end Dependency

/-! ## Calls that are not about references

Titles, labels, link targets and the like come in between. They write to other parts of the draft, and
none of these is read when a reference to a document is resolved. -/

namespace Draft

theorem exists_recordTitle (d : Draft) (level : Nat) (text : String) :
    ∃ numbering titles, (Call.run (recordTitle level text) d).2 = { d with numbering, titles } := by
  rw [run_recordTitle]
  split
  · exact ⟨_, _, rfl⟩
  · exact ⟨d.numbering, d.titles, rfl⟩

theorem exists_addAnchor (d : Draft) (label : String) :
    ∃ anchors, d.addAnchor label = { d with anchors } := by
  rw [addAnchor]
  split
  · exact ⟨d.anchors, rfl⟩
  · split
    · exact ⟨d.anchors, rfl⟩
    · exact ⟨_, rfl⟩

end Draft

theorem Pass.exists_setLink (p : Pass) (name url : String) :
    ∃ links diagnostics, p.setLink name url =
      { p with draft := { p.draft with links }, diagnostics } := by
  rw [setLink]
  split
  · exact ⟨_, _, rfl⟩
  · exact ⟨_, p.diagnostics, rfl⟩

/-- Whether a call is about neither references nor dependencies, and publishes nothing. -/
def Operation.IsNeutral : Operation → Prop
  | addDependency .. | found .. | resolve .. | publish => False
  | _ => True

/-- What a call is not about it leaves alone. -/
theorem Operation.take_neutral (p : Pass) {operation : Operation} (h : operation.IsNeutral) :
    (operation.take p).draft.file = p.draft.file ∧
      (operation.take p).draft.dependencies = p.draft.dependencies ∧
      (operation.take p).draft.brokenLinks = p.draft.brokenLinks ∧
      (operation.take p).store = p.store := by
  cases operation with
  | recordTitle level text =>
    obtain ⟨numbering, titles, hdraft⟩ := p.draft.exists_recordTitle level text
    rw [take, Pass.onDraft, Call.run_on, hdraft]
    exact ⟨rfl, rfl, rfl, rfl⟩
  | addAnchor label =>
    obtain ⟨anchors, hdraft⟩ := p.draft.exists_addAnchor label
    rw [take, hdraft]
    exact ⟨rfl, rfl, rfl, rfl⟩
  | setLink name url =>
    obtain ⟨links, diagnostics, hpass⟩ := p.exists_setLink name url
    rw [take, hpass]
    exact ⟨rfl, rfl, rfl, rfl⟩
  | addDependency | found | resolve | publish => exact h.elim
  | _ => exact ⟨rfl, rfl, rfl, rfl⟩

/-! ## What a pass meets

A reference is met twice in a row, by a note and by its resolution, and both are answered from a store
that has the same documents all along. So where a target leads is known from the beginning. -/

/-- What a pass meets. -/
inductive Item where
  /-- a reference to a document -/
  | reference (target : String)
  /-- anything else that is fed to the document -/
  | feed (operation : Operation) (isNeutral : operation.IsNeutral)
  /-- what others have made of the store meanwhile -/
  | meanwhile (store : Store)

/-- The targets of the references, in order. -/
def Item.targets (items : List Item) : List String :=
  items.filterMap fun
    | .reference target => some target
    | _ => none

/-- The targets of the first item and those of the others. -/
theorem Item.targets_cons (item : Item) (items : List Item) :
    targets (item :: items) = targets [item] ++ targets items :=
  List.filterMap_append (l := [item])

namespace Pass

variable {p q : Pass} {target key : String} {targets : List String}

/-- The pass after an item. A reference is noted and then resolved. -/
def meetItem (p : Pass) : Item → Pass
  | .reference target => p.meet ⟨.doc, target⟩
  | .feed operation _ => operation.take p
  | .meanwhile store => { p with store }

/-- The pass after some items. -/
def read (p : Pass) (items : List Item) : Pass := items.foldl meetItem p

theorem read_cons (p : Pass) (item : Item) (items : List Item) :
    p.read (item :: items) = (p.meetItem item).read items := rfl

/-- The document that a target leads to: the one that it spells, if that is in the store. -/
def destination? (p : Pass) (target : String) : Option String :=
  (p.draft.location.canonical? target).filter p.store.contains

/-- A reference to a document leads to the destination of its target. -/
theorem file_leadsTo_doc (h : p.store.Filed) (target : String) :
    (p.leadsTo ⟨.doc, target⟩).map (·.file) = p.destination? target := by
  rw [leadsTo, Kind.resolver, Resolver.resolve_doc, Resolver.resolveDoc, Location.canonical?_trim,
    destination?]
  cases p.draft.location.canonical? target with
  | none => rfl
  | some key =>
    rw [Option.filter_some, Table.contains]
    cases hentry : p.store.get? key with
    | none => simp [hentry]
    | some entry => simp [hentry, h key entry hentry]

/-- A reference is broken exactly if its target has no destination. -/
theorem isNone_leadsTo_doc (h : p.store.Filed) (target : String) :
    (p.leadsTo ⟨.doc, target⟩).isNone = (p.destination? target).isNone := by
  rw [← file_leadsTo_doc h, Option.isNone_map]

/-- A target that spells no document makes no dependency. -/
theorem dependencies_meet_of_none (h : p.draft.location.canonical? target = none) :
    (p.meet ⟨.doc, target⟩).draft.dependencies = p.draft.dependencies := by
  rw [meet_eq, note_doc, dependencies_mapDependencies, dependencies_takeDown, change, location_mention,
    h, mention, h]
  rfl

/-- Any other makes one, which is then subject to the answer. -/
theorem dependencies_meet_of_key (h : p.draft.location.canonical? target = some key) :
    (p.meet ⟨.doc, target⟩).draft.dependencies =
      answered key (p.leadsTo ⟨.doc, target⟩)
        (add (ofPath key !p.store.contains key) p.draft.dependencies) := by
  rw [meet_eq, note_doc, dependencies_mapDependencies, dependencies_takeDown, change, location_mention,
    h, mention, h]

/-- Where nothing is pending, a reference adds its destination to the dependencies, and nothing if it has
none. -/
theorem dependencies_meet_doc (hfiled : p.store.Filed) {known : List String}
    (hdeps : p.draft.dependencies = known.map resolved)
    (hknown : ∀ key ∈ known, p.store.contains key = true) (target : String) :
    (p.meet ⟨.doc, target⟩).draft.dependencies =
      match p.destination? target with
      | none => p.draft.dependencies
      | some key => add (resolved key) p.draft.dependencies := by
  have hpending : ∀ key, pending key ∉ p.draft.dependencies := by simp [hdeps]
  have hfile := file_leadsTo_doc hfiled target
  rw [destination?] at hfile ⊢
  cases hkey : p.draft.location.canonical? target with
  | none =>
    rw [Option.filter_none]
    exact dependencies_meet_of_none hkey
  | some key =>
    rw [hkey, Option.filter_some] at hfile
    rw [dependencies_meet_of_key hkey, Option.filter_some]
    -- a document is added as resolved and stays; anything else is added as pending and goes again
    cases hcontains : p.store.contains key with
    | true =>
      rw [hcontains, if_pos rfl, Option.map_eq_some_iff] at hfile
      obtain ⟨reference, hleads, rfl⟩ := hfile
      rw [hleads, if_pos rfl]
      exact answered_add_resolved (hpending _) (Location.canonical?_ne_empty hkey)
    | false =>
      rw [hcontains, if_neg Bool.false_ne_true, Option.map_eq_none_iff] at hfile
      have hresolved : resolved key ∉ p.draft.dependencies := by
        rw [hdeps, List.mem_map_of_injective (fun _ _ => resolved.inj)]
        intro hmem
        exact absurd (hknown key hmem) (by simp [hcontains])
      rw [hfile, if_neg Bool.false_ne_true]
      exact answered_add_pending (hpending key) hresolved

/-! ## What a pass has come to

The closed form says of a pass what its list, its broken references and the documents of its store are,
given the targets so far. Each kind of item keeps it, and others may change entries meanwhile as long as
no document comes or goes. -/

/-- A document is in the store or not, whatever the dependencies and the broken references. -/
theorem contains_of_view (h : p.view = q.view) (key : String) :
    p.store.contains key = q.store.contains key := by
  have hcontains : ∀ r : Pass, r.store.contains key = r.view.2.contains key := fun r => by
    rw [view, Table.contains, Table.contains, Table.get?_mapWithKey, Option.isSome_map]
  rw [hcontains, hcontains, h]

/-- What others make of the store has the same documents in it, each filed under its name. -/
def KeepsDocuments (p : Pass) (items : List Item) : Prop :=
  ∀ store, .meanwhile store ∈ items →
    store.Filed ∧ ∀ key, store.contains key = p.store.contains key

theorem KeepsDocuments.subset {items others : List Item} (h : p.KeepsDocuments items)
    (hsubset : others ⊆ items) : p.KeepsDocuments others :=
  fun store hmem => h store (hsubset hmem)

/-- `q` is the pass `p` after the references of its document to `targets`. -/
structure Reached (p : Pass) (targets : List String) (q : Pass) : Prop where
  /-- the document is the same -/
  file : q.draft.file = p.draft.file
  /-- the store is in order -/
  filed : q.store.Filed
  /-- no document has come or gone -/
  contains : ∀ key, q.store.contains key = p.store.contains key
  /-- the document depends on the destinations, in the order in which they were first met -/
  dependencies : q.draft.dependencies =
    (targets.filterMap p.destination?).eraseDups.map resolved
  /-- the other references are broken, each as often as it was met -/
  broken : q.draft.brokenLinks =
    (targets.filter fun target => (p.destination? target).isNone).map (⟨Text.trim ·, "doc"⟩)

namespace Reached

/-- A target spells the same document all along. -/
theorem canonical?_eq (h : Reached p targets q) (target : String) :
    q.draft.location.canonical? target = p.draft.location.canonical? target :=
  Location.canonical?_of_file h.file target

/-- Where a target leads can be told from the first store. -/
theorem destination?_eq (h : Reached p targets q) : q.destination? = p.destination? := by
  funext target
  rw [destination?, destination?, h.canonical?_eq, funext h.contains]

/-- A pass over a new document has reached nothing. -/
theorem start (hfiled : p.store.Filed) (hdependencies : p.draft.dependencies = [])
    (hbroken : p.draft.brokenLinks = []) : Reached p [] p :=
  ⟨rfl, hfiled, fun _ => rfl, hdependencies, hbroken⟩

/-- A reference adds its target to those that have been met. -/
theorem reference (h : Reached p targets q) (target : String) :
    Reached p (targets ++ [target]) (q.meet ⟨.doc, target⟩) := by
  have hdestination := h.destination?_eq
  obtain ⟨hbroken, -⟩ := q.recorded_meet ⟨.doc, target⟩
  -- what has been reached is a document, so no answer takes it out of the list again
  have hknown : ∀ key ∈ (targets.filterMap p.destination?).eraseDups,
      q.store.contains key = true := by
    intro key hkey
    obtain ⟨_, -, hkey⟩ := List.mem_filterMap.mp (List.mem_eraseDups.mp hkey)
    rw [h.contains]
    exact (Option.filter_eq_some_iff.mp hkey).2
  have hdependencies := dependencies_meet_doc h.filed h.dependencies hknown target
  refine {
    file := ?file
    filed := filed_step (filed_step h.filed _) _
    contains := fun key => ?contains
    dependencies := ?dependencies
    broken := ?broken }
  case file => rw [meet, file_step, file_note, h.file]
  case contains => rw [contains_of_view (q.view_meet _), h.contains]
  case dependencies =>
    rw [hdependencies, hdestination, h.dependencies, List.filterMap_append]
    cases hkey : p.destination? target with
    | none => simp [hkey]
    | some key =>
      simp only [List.filterMap_cons, List.filterMap_nil, hkey]
      exact add_eraseDups key _
  case broken =>
    rw [hbroken, h.broken, List.filter_append, List.map_append, Pass.broken, List.filter_cons,
      isNone_leadsTo_doc h.filed, hdestination, List.filter_cons]
    cases p.destination? target with
    | none => rfl
    | some key => rfl

theorem feed (h : Reached p targets q) {operation : Operation} (hneutral : operation.IsNeutral) :
    Reached p targets (operation.take q) := by
  obtain ⟨hfile, hdependencies, hbroken, hstore⟩ := operation.take_neutral q hneutral
  refine ⟨hfile.trans h.file, ?_, fun key => ?_, hdependencies.trans h.dependencies,
    hbroken.trans h.broken⟩
  · rw [hstore]
    exact h.filed
  · rw [hstore, h.contains]

/-- What others do to the entries does not show, if the documents stay. -/
theorem meanwhile (h : Reached p targets q) {store : Store} (hfiled : store.Filed)
    (hcontains : ∀ key, store.contains key = p.store.contains key) :
    Reached p targets { q with store } :=
  ⟨h.file, hfiled, hcontains, h.dependencies, h.broken⟩

/-- Whatever is met next, the closed form goes on with it. -/
theorem step (h : Reached p targets q) {item : Item} (hkeeps : p.KeepsDocuments [item]) :
    Reached p (targets ++ Item.targets [item]) (q.meetItem item) := by
  cases item with
  | reference target => exact h.reference target
  | feed operation hneutral =>
    rw [Item.targets, List.filterMap_cons, List.filterMap_nil, List.append_nil]
    exact h.feed hneutral
  | meanwhile store =>
    obtain ⟨hfiled, hcontains⟩ := hkeeps store List.mem_cons_self
    rw [Item.targets, List.filterMap_cons, List.filterMap_nil, List.append_nil]
    exact h.meanwhile hfiled hcontains

/-- On the items, for every pass that they can meet. -/
theorem read (h : Reached p targets q) {items : List Item} (hkeeps : p.KeepsDocuments items) :
    Reached p (targets ++ Item.targets items) (q.read items) := by
  induction items generalizing targets q with
  | nil =>
    rw [Item.targets, List.filterMap_nil, List.append_nil]
    exact h
  | cons item items ih =>
    have hitem : p.KeepsDocuments [item] := hkeeps.subset (by simp)
    have hrest : p.KeepsDocuments items := hkeeps.subset (List.subset_cons_self _ _)
    rw [read_cons, Item.targets_cons, ← List.append_assoc]
    exact ih (h.step hitem) hrest

end Reached

/-- **What a pass comes to.** Let a new document be compiled over a store in which every entry is filed
under its name, and let no document come or go meanwhile, though others may change their entries. Then it
depends in the end on the documents that its references lead to, each once, in the order in which they were
first met, and nothing is pending. The references that lead to no document are broken, in order and as often
as they were met. And each reference, when its turn comes, is answered with the document that its target
leads to in the store that the pass began with, or with none; its note is refused only if the target spells
no document at all. -/
theorem reading_closed_form {file directory : String} {config : Config} {d : Draft}
    (hstart : Draft.start file config directory = .ok d) {store : Store} (hfiled : store.Filed)
    (diagnostics : List Diagnostic) (items : List Item) :
    let p : Pass := { draft := d, store, diagnostics }
    p.KeepsDocuments items →
      (p.read items).draft.dependencies =
        ((Item.targets items).filterMap p.destination?).eraseDups.map resolved ∧
      (p.read items).draft.brokenLinks =
        ((Item.targets items).filter fun target => (p.destination? target).isNone).map
          (⟨Text.trim ·, "doc"⟩) ∧
      ∀ before target after, items = before ++ .reference target :: after →
        let q := p.read before
        let o : Occurrence := ⟨.doc, target⟩
        (∃ answer, (q.note o).answer "doc" target = .ok answer ∧
          answer.map (·.file) = p.destination? target) ∧
        ((p.draft.location.canonical? target).isSome = true → q.noted o = .ok ()) := by
  intro p hkeeps
  have hnew : Reached p [] p := by
    obtain ⟨name, -, rfl⟩ := Draft.start_eq_ok hstart
    exact .start hfiled rfl rfl
  have hread := hnew.read hkeeps
  rw [List.nil_append] at hread
  refine ⟨hread.dependencies, hread.broken, fun before target after hitems => ?_⟩
  intro q o
  -- the closed form holds of the items before the reference as well
  have hbefore : Reached p (Item.targets before) q := by
    have hkept : p.KeepsDocuments before :=
      hkeeps.subset (by rw [hitems]; exact List.subset_append_left _ _)
    have hread := hnew.read hkept
    rwa [List.nil_append] at hread
  constructor
  · refine ⟨_, answer_eq (q.note o) o, ?_⟩
    rw [leadsTo_of_view (q.view_note o), file_leadsTo_doc hbefore.filed, hbefore.destination?_eq]
  · intro hspelled
    cases hnoted : q.noted o with
    | ok u => rfl
    | error fault =>
      obtain ⟨-, hkey, -⟩ := noted_eq_error_iff.mp hnoted
      rw [← hbefore.canonical?_eq, hkey] at hspelled
      cases hspelled

/-- A pass over a document that has an old entry: two spellings of one document, a document that is not
there, referred to twice, and another one that is published anew between the references. -/
theorem reading_closed_form_intro :
    let store : Store := ((Store.publish ∅ { file := "index", url := "index.html" }).publish
      { file := "guide/setup", url := "guide/setup.html" }).publish
      { file := "guide/intro", url := "guide/intro.html", dependencies := [.pending "guide/faq"] }
    let d : Draft := { file := "guide/intro" }
    let p : Pass := { draft := d, store }
    let before : List Item := [.feed (.recordTitle 1 "Intro") trivial, .reference "faq",
      .reference "setup", .feed (.addAnchor "top") trivial,
      .meanwhile (store.publish { file := "index", url := "index.html", title := some "Start" })]
    let after : List Item := [.feed (.setLink "site" "https://example.com") trivial, .reference " faq ",
      .reference "./../guide/setup#usage"]
    let items := before ++ .reference "/index" :: after
    Draft.start "guide/./intro" {} = .ok d ∧ store.Filed ∧ p.KeepsDocuments items ∧
    (p.read items).draft.dependencies = [.resolved "guide/setup", .resolved "index"] ∧
    (p.read items).draft.brokenLinks = [⟨"faq", "doc"⟩, ⟨"faq", "doc"⟩] ∧
    (∃ answer, ((p.read before).note ⟨.doc, "/index"⟩).answer "doc" "/index" = .ok answer ∧
      answer.map (·.file) = some "index") := by
  intro store d p before after items
  have hname : (Path.normalize "guide/./intro").filter (· ≠ "") = some "guide/intro" := by
    decide +kernel
  have hstart : Draft.start "guide/./intro" {} = .ok d := by rw [Draft.start, hname]
  have hempty : Store.Filed ∅ := fun _ _ h => nomatch h
  have hfiled : store.Filed := ((hempty.publish _).publish _).publish _
  have hkeeps : p.KeepsDocuments items := by
    intro other hother
    obtain rfl : other = store.publish { file := "index", url := "index.html", title := some "Start" } := by
      simpa [items, before, after] using hother
    refine ⟨hfiled.publish _, fun key => ?_⟩
    rw [Bool.eq_iff_iff, Store.contains_publish]
    refine or_iff_right_of_imp ?_
    rintro rfl
    decide +kernel
  obtain ⟨hdependencies, hbroken, hanswer⟩ := reading_closed_form hstart hfiled [] items hkeeps
  obtain ⟨hanswer, -⟩ := hanswer before "/index" after rfl
  have hindex : p.destination? "/index" = some "index" := by decide +kernel
  rw [hindex] at hanswer
  refine ⟨hstart, hfiled, hkeeps, ?_, ?_, hanswer⟩
  · rw [hdependencies]
    decide +kernel
  · rw [hbroken]
    decide +kernel

end Pass

end Crosslink
