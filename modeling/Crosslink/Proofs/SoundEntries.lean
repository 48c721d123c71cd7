import Crosslink.Proofs.CompileOrder
import Crosslink.Proofs.PathNormal
import Crosslink.Proofs.Retention
import Crosslink.Proofs.SlugWords

/-!
# Sound entries

Entries are read by other documents, which rely on their form: names are in normal form, no dependency is
listed twice, and anchors are slugs. Many calls touch an entry, some of them while the document is
compiled and some after it has been published. All of them keep this form.

* `Entry.Sound` is the form of an entry, `Dependency.Sound` that of a list of dependencies.
* `Build.Sound` is the invariant: what is published is sound and filed under its own name, and what the
  drafts would publish is sound.
* `Operation.take` are the calls of a pass, `Action` what can happen to a build. `Pass.Sound.take` and
  `Build.Sound.act` keep the invariant for one of them.
* `Build.entries_sound` : it holds after all that can happen.
-/

namespace Crosslink

open Dependency

/-! ## The form of an entry

What other documents rely on, put together from its parts, and then carried from the entry to the store,
the draft and the pass that it comes from. -/

/-- A list of dependencies in which each is on a name, and none is there twice. -/
structure Dependency.Sound (deps : List Dependency) : Prop where
  nodup : deps.Nodup
  names : ∀ d ∈ deps, Path.IsName d.path

/-- A title of an allowed depth, with the slug of its text. -/
structure Heading.Sound (heading : Heading) : Prop where
  level : heading.level ≤ 15
  trimmed : Text.trim heading.text = heading.text
  anchor : heading.anchor = Slug.ofText heading.text

/-- Labels that are slugs, each there once. -/
structure LabelsSound (labels : List String) : Prop where
  nodup : labels.Nodup
  slugs : ∀ label ∈ labels, label ≠ "" ∧ Slug.ofText label = label

/-- An entry of the form that other documents rely on. -/
structure Entry.Sound (entry : Entry) : Prop where
  file : Path.IsName entry.file
  dependencies : Dependency.Sound entry.dependencies
  titles : ∀ heading ∈ entry.titles, heading.Sound
  title : entry.title = entry.titles.head?.map (·.text)
  anchors : LabelsSound entry.anchors

/-- Every entry is sound, and filed under the name of its document. -/
def Store.Sound (store : Store) : Prop :=
  ∀ file entry, store.get? file = some entry → entry.file = file ∧ entry.Sound

/-- A draft that can be published. -/
def Draft.Sound (d : Draft) : Prop := d.entry.Sound

/-- A pass over a sound store that can publish its draft. -/
structure Pass.Sound (p : Pass) : Prop where
  draft : p.draft.Sound
  store : p.store.Sound

/-! ## Lists of dependencies

Each change that is ever made to a list of dependencies keeps it sound: it makes no duplicates, and all
that it brings in is on a name. -/

namespace Dependency

variable {key file : String} {d : Dependency} {deps : List Dependency}

/-- A promotion brings in the file that it leads to and nothing else. -/
theorem mem_of_mem_promote (h : d ∈ promote key file deps) : d ∈ deps ∨ d = resolved file := by
  cases d with
  | resolved path => exact (resolved_mem_promote.mp h).imp_right fun hfile => congrArg _ hfile.1
  | pending path =>
    rw [← mem_pendingPaths, pendingPaths_promote] at h
    exact .inl (mem_pendingPaths.mp (List.mem_of_mem_erase h))

namespace Sound

theorem nil : Sound [] := ⟨.nil, nofun⟩

theorem add (h : Sound deps) (hd : Path.IsName d.path) : Sound (add d deps) := by
  refine ⟨nodup_add h.nodup, fun e he => ?_⟩
  rcases mem_add.mp he with rfl | he
  · exact hd
  · exact h.names e he

theorem drop (h : Sound deps) : Sound (drop d deps) :=
  ⟨nodup_drop h.nodup, fun e he => h.names e (mem_drop.mp he).1⟩

theorem promote (h : Sound deps) (hfile : Path.IsName file) : Sound (promote key file deps) := by
  refine ⟨nodup_promote h.nodup, fun e he => ?_⟩
  rcases mem_of_mem_promote he with he | rfl
  · exact h.names e he
  · exact hfile

/-- A resolution that leads to a name, out of the corpus or nowhere keeps a list sound. -/
theorem answered {answer : Option Reference} (h : Sound deps)
    (hfile : ∀ reference ∈ answer, reference.file ≠ "" → Path.IsName reference.file) :
    Sound (Pass.answered key answer deps) := by
  cases answer with
  | none => exact h.drop.drop
  | some reference =>
    rw [Pass.answered]
    split
    · exact h.drop
    · rename_i hne
      exact h.promote (hfile reference rfl hne)

theorem promoteKnown {isKnown : String → Bool} {keys : List String} (h : Sound deps)
    (hkeys : ∀ key ∈ keys, Path.IsName key) : Sound (Store.promoteKnown isKnown keys deps) := by
  induction keys generalizing deps with
  | nil => exact h
  | cons key keys ih =>
    rw [Store.promoteKnown_cons]
    refine ih ?_ fun k hk => hkeys k (List.mem_cons_of_mem _ hk)
    split
    · exact h.promote (hkeys key List.mem_cons_self)
    · exact h

/-- A reconciliation promotes names to themselves. -/
theorem promoteAll (h : Sound deps) (isKnown : String → Bool) :
    Sound (Store.promoteAll isKnown deps) :=
  h.promoteKnown fun key hkey => h.names (pending key) (mem_pendingPaths.mp hkey)

end Sound

end Dependency

/-- The slug of a title is made of its text before that is trimmed, but it is the slug of the trimmed
text. -/
theorem Heading.sound_of_lt {level : Nat} (h : level < titleDepths) (text number : String) :
    Heading.Sound ⟨level, Text.trim text, Slug.ofText text, number⟩ where
  level := Nat.le_of_lt_succ h
  trimmed := Text.trim_trim text
  anchor := (Slug.ofText_trim text).symm

/-! ## Stores

Every way in which a store is changed files a sound entry, changes the dependencies of one, or takes one
out. -/

theorem Entry.Sound.mapDependencies {entry : Entry} {f : List Dependency → List Dependency}
    (h : entry.Sound) (hf : ∀ deps, Dependency.Sound deps → Dependency.Sound (f deps)) :
    (entry.mapDependencies f).Sound :=
  { h with dependencies := hf _ h.dependencies }

namespace Store.Sound

variable {store : Store}

theorem filed (h : store.Sound) : store.Filed := fun file entry hget => (h file entry hget).1

theorem empty : Store.Sound ∅ := fun _ _ hget => nomatch hget

theorem publish (h : store.Sound) {entry : Entry} (hentry : entry.Sound) :
    (store.publish entry).Sound := by
  intro file published hget
  rw [get?_publish] at hget
  split at hget
  · rename_i hfile
    obtain rfl := Option.some.inj hget
    exact ⟨hfile.symm, hentry⟩
  · exact h file published hget

theorem modify (h : store.Sound) (path : String) {f : List Dependency → List Dependency}
    (hf : ∀ deps, Dependency.Sound deps → Dependency.Sound (f deps)) :
    Store.Sound (store.modify path (·.mapDependencies f)) := by
  intro file entry hget
  rw [Table.get?_modify] at hget
  split at hget
  · obtain ⟨old, hold, rfl⟩ := Option.map_eq_some_iff.mp hget
    exact (h file old hold).imp_right (·.mapDependencies hf)
  · exact h file entry hget

theorem reconcile (h : store.Sound) : store.reconcile.2.Sound := by
  intro file entry hget
  rw [get?_reconcile] at hget
  obtain ⟨old, hold, rfl⟩ := Option.map_eq_some_iff.mp hget
  exact (h file old hold).imp_right (·.mapDependencies fun _ hdeps => hdeps.promoteAll _)

theorem erase (h : store.Sound) (path : String) : Store.Sound (store.erase path) := by
  intro file entry hget
  rw [Table.get?_erase] at hget
  split at hget
  · cases hget
  · exact h file entry hget

/-- Whatever entry an anchor is found in, it is one of the store. -/
theorem of_findAnchor? (h : store.Sound) {anchor title : String} {entry : Entry}
    (hfound : store.findAnchor? anchor = some (entry, title)) : entry.Sound := by
  obtain ⟨value, hmem, hvalue⟩ := List.exists_of_findSome?_eq_some hfound
  obtain ⟨_, -, heq⟩ := Option.map_eq_some_iff.mp hvalue
  obtain rfl : value = entry := congrArg Prod.fst heq
  obtain ⟨⟨file, entry⟩, hrow, rfl⟩ := List.mem_map.mp hmem
  exact (h file entry (Table.get?_eq_some_iff.mpr hrow)).2

end Store.Sound

/-! ## Drafts

Of a draft only what it would publish matters: titles, labels and dependencies. Titles and labels are
checked when they come in, and a call that is refused brings in nothing. -/

namespace Draft

variable {d d' : Draft}

/-- A draft begins with nothing but its name. -/
theorem sound_start {file directory : String} {config : Config}
    (h : start file config directory = .ok d) : d.Sound := by
  obtain ⟨name, hname, rfl⟩ := start_eq_ok h
  exact ⟨Path.isName_of_filter hname, .nil, nofun, rfl, .nil, nofun⟩

namespace Sound

/-- Only what is published matters. -/
theorem congr (h : d.Sound) (hfile : d'.file = d.file) (htitles : d'.titles = d.titles)
    (hanchors : d'.anchors = d.anchors) (hdependencies : d'.dependencies = d.dependencies) :
    d'.Sound := by
  have hentry : d'.entry = { d.entry with url := d'.entry.url } := by
    simp only [entry, hfile, htitles, hanchors, hdependencies]
  rw [Draft.Sound, hentry]
  exact ⟨h.file, h.dependencies, h.titles, h.title, h.anchors⟩

/-- The counters of a draft do not show in its entry. -/
theorem onNumbering {α : Type} (h : d.Sound) (call : Call Numbering α) :
    (Call.run (Draft.onNumbering call) d).2.Sound :=
  h.congr rfl rfl rfl rfl

theorem addTitle (h : d.Sound) {heading : Heading} (hheading : heading.Sound) :
    Draft.Sound { d with titles := d.titles ++ [heading] } := by
  refine ⟨h.file, h.dependencies, fun title htitle => ?_, rfl, h.anchors⟩
  rcases List.mem_append.mp htitle with htitle | htitle
  · exact h.titles title htitle
  · exact List.mem_singleton.mp htitle ▸ hheading

/-- A recorded title is refused at a depth that is out of range, and then nothing is added. -/
theorem recordTitle (h : d.Sound) (level : Nat) (text : String) :
    (Call.run (Draft.recordTitle level text) d).2.Sound := by
  rw [run_recordTitle]
  split
  · rename_i hlevel
    have hcounted : Draft.Sound { d with numbering := d.numbering.enterTitle ⟨level, hlevel⟩ } :=
      h.congr rfl rfl rfl rfl
    exact hcounted.addTitle (Heading.sound_of_lt hlevel text _)
  · exact h

/-- A label is added as its slug, and only if it is new. -/
theorem addAnchor (h : d.Sound) (label : String) : (d.addAnchor label).Sound := by
  rw [Draft.addAnchor]
  cases hanchor : anchor? label with
  | none => exact h
  | some anchor =>
    simp only
    split
    · exact h
    · rename_i hnew
      have hslug : Slug.ofText label ≠ "" ∧ Slug.ofText label = anchor := by
        simpa [anchor?] using hanchor
      refine ⟨h.file, h.dependencies, h.titles, h.title, ?_, fun label' hlabel => ?_⟩
      · rw [entry, List.nodup_append_comm]
        exact List.nodup_cons.mpr ⟨hnew, h.anchors.nodup⟩
      · rcases List.mem_append.mp hlabel with hlabel | hlabel
        · exact h.anchors.slugs label' hlabel
        · rw [List.mem_singleton.mp hlabel, ← hslug.2]
          exact ⟨hslug.1, Slug.ofText_ofText label⟩

/-- A change that keeps the list sound keeps the draft sound. -/
theorem mapDependencies (h : d.Sound) {f : List Dependency → List Dependency}
    (hf : Dependency.Sound d.dependencies → Dependency.Sound (f d.dependencies)) :
    Draft.Sound { d with dependencies := f d.dependencies } :=
  ⟨h.file, hf h.dependencies, h.titles, h.title, h.anchors⟩

/-- A declared dependency is on the name that its path leads to. -/
theorem addDependency (h : d.Sound) (path : String) (isPending : Bool) :
    (Call.run (Draft.addDependency path isPending) d).2.Sound := by
  rw [run_addDependency]
  cases hname : d.location.canonical? path with
  | none => exact h
  | some name =>
    refine h.mapDependencies fun hdeps => hdeps.add ?_
    rw [path_ofPath]
    exact Location.isName_of_canonical? hname

end Sound

end Draft

/-! ## Passes

The calls of a pass in one table. Each works on the draft, on the store or on both, and each is sound
because its parts are. What a reference leads to is the file of an entry or the document itself, and both
are names. -/

/-- A call of a pass. -/
inductive Operation where
  /-- a diagnostic is reported -/
  | report (diagnostic : Diagnostic)
  /-- a title is numbered -/
  | createTitle (level : Nat)
  /-- an item is counted -/
  | getNumber (level : Nat)
  /-- an underline is met -/
  | getLevel (letter : Char)
  /-- a title is numbered and added to the titles of the document -/
  | recordTitle (level : Nat) (text : String)
  /-- the counters start over -/
  | resetNumbering
  /-- a label is defined -/
  | addAnchor (label : String)
  /-- a link target is filed -/
  | setLink (name url : String)
  /-- an anonymous reference waits for its target -/
  | enqueueAnonymous (name : String)
  /-- no anonymous reference waits any longer -/
  | resetAnonymous
  /-- the url of the page is chosen -/
  | setUrl (url : String)
  /-- a value is kept -/
  | setVariable (name : String) (value : Json)
  /-- a dependency is added -/
  | addDependency (path : String) (isPending : Bool)
  /-- a reference is noted -/
  | found (role target : String)
  /-- a reference is resolved -/
  | resolve (role target : String)
  /-- what the document makes known of itself is filed -/
  | publish

/-- Makes a call, with the standard kinds of reference. A refused call leaves its state as any other. -/
def Operation.take (p : Pass) : Operation → Pass
  | report diagnostic => p.report diagnostic
  | createTitle level => (Call.run (Pass.onDraft (Draft.createTitle level)) p).2
  | getNumber level => (Call.run (Pass.onDraft (Draft.getNumber level)) p).2
  | getLevel letter => (Call.run (Pass.onDraft (Draft.getLevel letter)) p).2
  | recordTitle level text => (Call.run (Pass.onDraft (Draft.recordTitle level text)) p).2
  | resetNumbering => { p with draft := p.draft.resetNumbering }
  | addAnchor label => { p with draft := p.draft.addAnchor label }
  | setLink name url => p.setLink name url
  | enqueueAnonymous name => { p with draft := p.draft.enqueueAnonymous name }
  | resetAnonymous => { p with draft := p.draft.resetAnonymous }
  | setUrl url => { p with draft := p.draft.setUrl url }
  | setVariable name value => { p with draft := p.draft.setVariable name value }
  | addDependency path isPending =>
    (Call.run (Pass.onDraft (Draft.addDependency path isPending)) p).2
  | found role target => (Call.run (Pass.found .standard role target) p).2
  | resolve role target => (Call.run (Pass.resolve .standard role target) p).2
  | publish => p.publish

namespace Pass

variable {p : Pass} {role target : String}

namespace Sound

/-- A call that keeps the draft sound keeps the pass sound. -/
theorem onDraft {α : Type} {call : Call Draft α} (h : p.Sound)
    (hcall : (Call.run call p.draft).2.Sound) : (Call.run (Pass.onDraft call) p).2.Sound :=
  ⟨hcall, h.store⟩

/-- A change that keeps lists sound can be made to both copies. -/
theorem mapDependencies (h : p.Sound) {f : List Dependency → List Dependency}
    (hf : ∀ deps, Dependency.Sound deps → Dependency.Sound (f deps)) : (p.mapDependencies f).Sound :=
  ⟨h.draft.mapDependencies (hf _), h.store.modify _ hf⟩

theorem takeDown (h : p.Sound) (link : BrokenLink) (answer : Option Reference) :
    (p.takeDown link answer).Sound := by
  cases answer with
  | none => exact ⟨h.draft.congr rfl rfl rfl rfl, h.store⟩
  | some _ => exact h

theorem mention (h : p.Sound) (target : String) : (p.mention target).Sound := by
  rw [Pass.mention]
  cases hname : p.draft.location.canonical? target with
  | none => exact h
  | some name =>
    refine ⟨h.draft.mapDependencies fun hdeps => hdeps.add ?_, h.store⟩
    rw [path_ofPath]
    exact Location.isName_of_canonical? hname

/-- A reference leads into a document that has a name: the files that are answered are those of entries
and of the draft. -/
theorem isName_of_answer (h : p.Sound) {reference : Reference}
    (hanswer : p.answer role target = .ok (some reference)) : Path.IsName reference.file := by
  rcases role_of_answer hanswer with rfl | rfl
  · -- a document is answered under the name that it was looked up by
    exact Location.isName_of_canonical? (file_of_answer_doc h.store.filed hanswer)
  · rw [answer_of_resolver Registry.standard_ref, Resolver.resolve_ref, Except.ok.injEq,
      Resolver.resolveRef] at hanswer
    split at hanswer
    · cases hanswer
    · split at hanswer
      · obtain rfl := Option.some.inj hanswer
        exact h.draft.file
      · obtain ⟨⟨entry, title⟩, hfound, rfl⟩ := Option.map_eq_some_iff.mp hanswer
        exact (h.store.of_findAnchor? hfound).file

/-- The answer to a reference keeps lists sound, wherever it leads. -/
theorem change (h : p.Sound) {answer : Option Reference} (hanswer : p.answer role target = .ok answer)
    (deps : List Dependency) (hdeps : Dependency.Sound deps) :
    Dependency.Sound (p.change target answer deps) := by
  rw [Pass.change]
  cases p.draft.location.canonical? target with
  | none => exact hdeps
  | some key =>
    refine hdeps.answered fun reference hreference _ => ?_
    rw [Option.mem_def.mp hreference] at hanswer
    exact h.isName_of_answer hanswer

/-- To take note of a reference keeps the pass sound, refused or not. -/
theorem found (h : p.Sound) (role target : String) :
    (Call.run (Pass.found .standard role target) p).2.Sound := by
  obtain ⟨_, hfound⟩ | hfound | ⟨-, hfound⟩ := p.run_found_cases role target
  all_goals rw [hfound]
  · exact ⟨h.draft, h.store⟩
  · exact h
  · exact h.mention target

theorem resolve (h : p.Sound) (role target : String) :
    (Call.run (Pass.resolve .standard role target) p).2.Sound := by
  obtain ⟨_, -, hresolve⟩ | ⟨answer, hanswer, hresolve⟩ := p.run_resolve_cases role target
  all_goals rw [hresolve]
  · exact h
  · exact (h.takeDown _ _).mapDependencies (h.change hanswer)

/-- Every call of a pass keeps it sound. -/
theorem take (h : p.Sound) (operation : Operation) : (operation.take p).Sound := by
  cases operation with
  | report diagnostic => exact ⟨h.draft, h.store⟩
  | createTitle level => exact h.onDraft (h.draft.onNumbering _)
  | getNumber level => exact h.onDraft (h.draft.onNumbering _)
  | getLevel letter => exact h.onDraft (h.draft.onNumbering _)
  | recordTitle level text => exact h.onDraft (h.draft.recordTitle level text)
  | resetNumbering => exact ⟨h.draft.congr rfl rfl rfl rfl, h.store⟩
  | addAnchor label => exact ⟨h.draft.addAnchor label, h.store⟩
  -- soundness does not look at links, urls and variables
  | setLink name url =>
    rw [Operation.take, setLink]
    split
    · exact ⟨h.draft.congr rfl rfl rfl rfl, h.store⟩
    · exact ⟨h.draft.congr rfl rfl rfl rfl, h.store⟩
  | enqueueAnonymous name => exact ⟨h.draft.congr rfl rfl rfl rfl, h.store⟩
  | resetAnonymous => exact ⟨h.draft.congr rfl rfl rfl rfl, h.store⟩
  | setUrl url => exact ⟨h.draft.congr rfl rfl rfl rfl, h.store⟩
  | setVariable name value => exact ⟨h.draft.congr rfl rfl rfl rfl, h.store⟩
  | addDependency path isPending => exact h.onDraft (h.draft.addDependency path isPending)
  | found role target => exact h.found role target
  | resolve role target => exact h.resolve role target
  | publish => exact ⟨h.draft, h.store.publish h.draft⟩

end Sound

end Pass

/-! ## Builds

Several passes over one store, and what others do to the store in between. The invariant is on all drafts
and all entries, so that an action needs to be looked at only where it takes place. -/

/-- What can happen to a build. Passes have names of their own, so that one document may be compiled by
several of them. -/
inductive Action where
  /-- a pass begins, in place of an earlier one of its name -/
  | start (pass file : String) (config : Config) (sourceDirectory : String)
  /-- a pass makes a call -/
  | take (pass : String) (operation : Operation)
  /-- a pass ends -/
  | close (pass : String)
  /-- the store is reconciled -/
  | reconcile
  /-- the entry of a document is taken out -/
  | remove (file : String)

namespace Build

/-- A build in which nothing has happened. -/
def empty : Build where
  drafts := ∅
  store := ∅

/-- The build after an action. What is asked of a pass that is not there is not done. -/
def act (b : Build) : Action → Build
  | .start pass file config sourceDirectory =>
    match Draft.start file config sourceDirectory with
    | .ok draft => { b with drafts := b.drafts.insert pass draft }
    | .error _ => b
  | .take pass operation =>
    match b.drafts.get? pass with
    | none => b
    | some draft =>
      let p := operation.take { draft, store := b.store, diagnostics := b.diagnostics }
      { drafts := b.drafts.insert pass p.draft, store := p.store, diagnostics := p.diagnostics }
  | .close pass => { b with drafts := b.drafts.erase pass }
  | .reconcile => { b with store := b.store.reconcile.2 }
  | .remove file => { b with store := b.store.erase file }

/-- The build after some actions, one after the other. -/
def after (actions : List Action) : Build := actions.foldl act empty

/-- Every entry is sound and filed under its own name, and so is what every draft would publish. -/
structure Sound (b : Build) : Prop where
  store : b.store.Sound
  drafts : ∀ pass draft, b.drafts.get? pass = some draft → draft.entry.Sound

variable {b : Build}

theorem Sound.insert (h : b.Sound) {draft : Draft} (hdraft : draft.Sound) (pass : String) :
    ∀ other draft', (b.drafts.insert pass draft).get? other = some draft' → draft'.entry.Sound := by
  intro other draft' hget
  rw [Table.get?_insert] at hget
  split at hget
  · obtain rfl := Option.some.inj hget
    exact hdraft
  · exact h.drafts other draft' hget

/-- Whatever happens to a sound build leaves it sound. -/
theorem Sound.act (h : b.Sound) (action : Action) : (b.act action).Sound := by
  cases action with
  | start pass file config sourceDirectory =>
    rw [Build.act]
    split
    · rename_i draft hstart
      exact ⟨h.store, h.insert (Draft.sound_start hstart) pass⟩
    · exact h
  | take pass operation =>
    rw [Build.act]
    split
    · exact h
    · rename_i draft hget
      -- what the call leaves of the store is the store of all other passes too
      have hpass : Pass.Sound { draft, store := b.store, diagnostics := b.diagnostics } :=
        ⟨h.drafts pass draft hget, h.store⟩
      exact ⟨(hpass.take operation).store, h.insert (hpass.take operation).draft pass⟩
  | close pass =>
    refine ⟨h.store, fun other draft hget => ?_⟩
    rw [Build.act, Table.get?_erase] at hget
    split at hget
    · cases hget
    · exact h.drafts other draft hget
  | reconcile => exact ⟨h.store.reconcile, h.drafts⟩
  | remove file => exact ⟨h.store.erase file, h.drafts⟩

/-- **Entries are sound.** Whatever happens to a build that begins with an empty store, every entry of the
store is filed under its own name, and every entry of the store and every entry that a draft would publish
has a name in normal form, dependencies on such names, none of them twice, titles with the slugs of their
texts, the text of its first title, and labels that are slugs, none of them twice. -/
theorem entries_sound (actions : List Action) : (after actions).Sound := by
  -- from the end, because an action meets the build that the actions before it have left
  induction actions using List.reverseRecOn with
  | nil => exact ⟨Store.Sound.empty, fun _ _ hget => nomatch hget⟩
  | append_singleton actions action ih =>
    rw [after, List.foldl_append]
    exact ih.act action

/-- A document with a name of many spellings, that mentions another one twice before that is published, and
resolves one of the references to it after. -/
theorem entries_sound_index :
    let b := after [.start "a" "./docs//../index" {} "", .take "a" (.found "doc" "guide/../setup#install"),
      .take "a" (.found "doc" "/setup"), .take "a" (.addDependency "missing" true), .take "a" .publish,
      .start "b" "setup" {} "", .take "b" .publish, .take "a" (.resolve "doc" "setup"), .reconcile]
    b.Sound ∧ b.store.get? "index" = some {
      file := "index", url := "index.html", dependencies := [.resolved "setup", .pending "missing"] } := by
  intro b
  exact ⟨entries_sound _, by decide +kernel⟩

end Build

end Crosslink
