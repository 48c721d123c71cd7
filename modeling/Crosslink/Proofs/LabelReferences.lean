import Crosslink.Proofs.WholePass

/-!
# References to titles and labels

A reference to a title or a label gives a text, and leads to the document that defines the slug of it. The
document that the reference stands in is asked first, from its draft, and then the entries of the corpus;
each of them looks among its titles before it looks among its labels.

* `DefinesAnchor` and `ShownAs` say what titles and labels make of an anchor, `anchorTitle?_eq_some_iff`
  that this is what is looked up.
* `Store.FirstDefining` is the entry that the corpus answers with.
* `Pass.LabelReference` is what a reference to an anchor must be; `labelReference_of_resolveRef` and
  `isSome_resolveRef_iff` are soundness and completeness of the resolver.
* `Draft.Extends` : titles and labels are only ever added to a draft. `Operation.take_extends` proves it of
  one call, `extends_takeAll` of a run, so what a pass has introduced it publishes.
* `label_references` puts it together.
-/

namespace Crosslink

variable {titles : List Heading} {labels : List String} {anchor text : String}

/-! ## Titles and labels

An anchor is defined by a title whose slug it is, or by a label that it is itself. If there are several
titles the first gives the text, and a label gives the text only where no title does. -/

/-- Whether titles and labels define an anchor. -/
def DefinesAnchor (titles : List Heading) (labels : List String) (anchor : String) : Prop :=
  (∃ heading ∈ titles, heading.anchor = anchor) ∨ anchor ∈ labels

/-- The text that titles and labels show an anchor with. -/
inductive ShownAs (titles : List Heading) (labels : List String) (anchor : String) : String → Prop
  /-- the first title with the anchor gives its text -/
  | title (before : List Heading) (heading : Heading) (after : List Heading)
      (htitles : titles = before ++ heading :: after) (hanchor : heading.anchor = anchor)
      (hfirst : ∀ earlier ∈ before, earlier.anchor ≠ anchor) : ShownAs titles labels anchor heading.text
  /-- a label that is the anchor of no title gives itself -/
  | label (hmem : anchor ∈ labels) (htitles : ∀ heading ∈ titles, heading.anchor ≠ anchor) :
      ShownAs titles labels anchor anchor

/-- What is looked up is the text that titles and labels show the anchor with, in this order. -/
theorem anchorTitle?_eq_some_iff :
    anchorTitle? titles labels anchor = some text ↔ ShownAs titles labels anchor text := by
  rw [anchorTitle?]
  constructor
  · intro h
    -- titles come first, and a label counts only if no title has the anchor
    split at h
    · rename_i heading hfind
      obtain rfl := Option.some.inj h
      obtain ⟨hanchor, before, after, htitles, hfirst⟩ := List.find?_eq_some_iff_append.mp hfind
      exact .title before heading after htitles (of_decide_eq_true hanchor) (by simpa using hfirst)
    · rename_i hfind
      split at h
      · rename_i hmem
        obtain rfl := Option.some.inj h
        exact .label hmem (by simpa using hfind)
      · cases h
  · intro h
    cases h with
    | title before heading after htitles hanchor hfirst =>
      have hfind : titles.find? (·.anchor = anchor) = some heading :=
        List.find?_eq_some_iff_append.mpr
          ⟨decide_eq_true hanchor, before, after, htitles, by simpa using hfirst⟩
      rw [hfind]
    | label hmem htitles =>
      have hfind : titles.find? (·.anchor = anchor) = none := by simpa using htitles
      rw [hfind]
      exact if_pos hmem

/-- A text is found exactly for the anchors that are defined. -/
theorem isSome_anchorTitle? :
    (anchorTitle? titles labels anchor).isSome = true ↔ DefinesAnchor titles labels anchor := by
  rw [anchorTitle?, DefinesAnchor]
  split
  · rename_i heading hfind
    have hmem : heading ∈ titles := List.mem_of_find?_eq_some hfind
    have hanchor : heading.anchor = anchor := by simpa using List.find?_some hfind
    exact iff_of_true rfl (.inl ⟨heading, hmem, hanchor⟩)
  · rename_i hfind
    have hnone : ¬∃ heading ∈ titles, heading.anchor = anchor := by simpa using hfind
    simp [hnone]

namespace Entry

/-- Whether the document of an entry defines an anchor. -/
def Defines (entry : Entry) (anchor : String) : Prop := DefinesAnchor entry.titles entry.anchors anchor

/-- The text that the document of an entry shows an anchor with. -/
def Shows (entry : Entry) (anchor text : String) : Prop :=
  ShownAs entry.titles entry.anchors anchor text

/-- Whether a text is that of a title, or a label. -/
def Has (entry : Entry) (text : String) : Prop :=
  (∃ heading ∈ entry.titles, heading.text = text) ∨ text ∈ entry.anchors

/-- A sound entry defines the slug of every text that it has. -/
theorem Sound.defines {entry : Entry} (h : entry.Sound) (htext : entry.Has text) :
    entry.Defines (Slug.ofText text) := by
  rcases htext with ⟨heading, hmem, rfl⟩ | hmem
  · exact .inl ⟨heading, hmem, (h.titles heading hmem).anchor⟩
  · rw [(h.anchors.slugs text hmem).2]
    exact .inr hmem

end Entry

/-! ## The corpus

The entries are asked in the order of names, and the first that defines the anchor answers. As names are
filed in ascending order, that is the one with the least name of all that define it. -/

namespace Store

variable {store : Store} {entry : Entry}

/-- The entry with the least name of all those whose documents define an anchor. -/
structure FirstDefining (store : Store) (anchor file : String) (entry : Entry) : Prop where
  /-- it is in the store -/
  filed : store.get? file = some entry
  /-- its document defines the anchor -/
  defines : entry.Defines anchor
  /-- every other document that does has a greater name -/
  least : ∀ other entry', store.get? other = some entry' → entry'.Defines anchor → file ≤ other

/-- The look-up, over the rows. -/
theorem findAnchor?_eq (store : Store) (anchor : String) :
    store.findAnchor? anchor =
      store.rows.findSome? fun row => (row.2.anchorTitle? anchor).map (row.2, ·) := by
  rw [findAnchor?, Table.values, List.findSome?_map]
  rfl

theorem isSome_findAnchor?_iff :
    (store.findAnchor? anchor).isSome = true ↔
      ∃ file entry, store.get? file = some entry ∧ entry.Defines anchor := by
  rw [findAnchor?_eq, List.isSome_findSome?]
  simp only [List.any_eq_true, Option.isSome_map, Entry.anchorTitle?, isSome_anchorTitle?,
    Prod.exists, ← Table.get?_eq_some_iff, Entry.Defines]

/-- The rows ascend, so the first that is met has the least name. -/
theorem firstDefining_of_findAnchor? (h : store.findAnchor? anchor = some (entry, text)) :
    entry.Shows anchor text ∧ ∃ file, store.FirstDefining anchor file entry := by
  rw [findAnchor?_eq, List.findSome?_eq_some_iff] at h
  obtain ⟨before, ⟨file, entry'⟩, after, hrows, hfound, hbefore⟩ := h
  obtain ⟨text', htext, heq⟩ := Option.map_eq_some_iff.mp hfound
  obtain ⟨rfl, rfl⟩ := Prod.mk.inj heq
  have hascending := store.ascending
  rw [hrows, List.pairwise_append] at hascending
  refine ⟨anchorTitle?_eq_some_iff.mp htext, file, ?filed, ?defines, fun other entry hget hdefines => ?least⟩
  case filed => simp [Table.get?_eq_some_iff, hrows]
  case defines => exact isSome_anchorTitle?.mp (Option.isSome_of_eq_some htext)
  case least =>
    rw [Table.get?_eq_some_iff, hrows, List.mem_append, List.mem_cons] at hget
    rcases hget with hmem | heq | hmem
    · -- an earlier row would have been the answer
      have hnone : entry.anchorTitle? anchor = none := by simpa using hbefore _ hmem
      rw [Entry.Defines, ← isSome_anchorTitle?, ← Entry.anchorTitle?, hnone] at hdefines
      cases hdefines
    · obtain rfl : other = file := congrArg Prod.fst heq
      exact String.le_refl other
    · exact String.not_lt.mp (String.lt_asymm ((List.pairwise_cons.mp hascending.2.1).1 _ hmem))

end Store

/-! ## The resolver

A reference goes by the slug of its target. The document itself is asked first, so a title of its own
hides one of the same slug elsewhere, and a reference to it leads to no page but to a place on the same
one. -/

namespace Draft

variable {d d' : Draft}

/-- Whether the document defines an anchor. -/
def Defines (d : Draft) (anchor : String) : Prop := DefinesAnchor d.titles d.anchors anchor

/-- The text that the document shows an anchor with. -/
def Shows (d : Draft) (anchor text : String) : Prop := ShownAs d.titles d.anchors anchor text

/-- A target is read as its slug, if that is not empty. -/
theorem anchor?_eq (target : String) (h : Slug.ofText target ≠ "") :
    anchor? target = some (Slug.ofText target) := by
  simp only [anchor?, if_neg h]

end Draft

namespace Pass

variable {p : Pass} {reference : Reference} {target : String}

/-- What a reference to an anchor must be, from the document of a pass. -/
structure LabelReference (p : Pass) (anchor : String) (reference : Reference) : Prop where
  /-- it is a reference to the anchor -/
  place : reference.anchor = some anchor
  /-- it stays in the document if that defines the anchor -/
  own : p.draft.Defines anchor →
    reference.file = p.draft.file ∧ reference.href = "#" ++ anchor ∧
      ∃ text, p.draft.Shows anchor text ∧ reference.title = some text
  /-- else it leads to the first document that does -/
  other : ¬p.draft.Defines anchor →
    ∃ file entry text, p.store.FirstDefining anchor file entry ∧ entry.Shows anchor text ∧
      reference.file = entry.file ∧ reference.url = p.draft.referenceUrl entry.url ∧
      reference.title = some text

/-- What the resolver answers is what a reference to the anchor must be. -/
theorem labelReference_of_resolveRef
    (h : Resolver.resolveRef p.draft p.store target = some reference) :
    p.LabelReference (Slug.ofText target) reference := by
  have hanchor : Slug.ofText target ≠ "" := by
    intro hempty
    rw [Resolver.resolveRef, Draft.anchor?, if_pos hempty] at h
    cases h
  rw [Resolver.resolveRef, Draft.anchor?_eq target hanchor] at h
  simp only at h
  -- the page comes first, and the store is asked only if the page does not define the anchor
  split at h
  · rename_i text htext
    obtain rfl := Option.some.inj h
    have hdefines : p.draft.Defines (Slug.ofText target) :=
      isSome_anchorTitle?.mp (Option.isSome_of_eq_some htext)
    refine ⟨rfl, fun _ => ⟨rfl, ?_, text, anchorTitle?_eq_some_iff.mp htext, rfl⟩, absurd hdefines⟩
    simp only [Reference.href, if_neg hanchor]
    rw [String.empty_append]
  · rename_i hnone
    have hdefines : ¬p.draft.Defines (Slug.ofText target) := by
      rw [Draft.Defines, ← isSome_anchorTitle?, ← Draft.anchorTitle?, hnone]
      exact Bool.false_ne_true
    obtain ⟨⟨entry, text⟩, hfound, rfl⟩ := Option.map_eq_some_iff.mp h
    obtain ⟨hshows, file, hfirst⟩ := Store.firstDefining_of_findAnchor? hfound
    exact ⟨rfl, (absurd · hdefines), fun _ => ⟨file, entry, text, hfirst, hshows, rfl, rfl, rfl⟩⟩

/-- A reference leads somewhere if the slug of its target is defined anywhere. -/
theorem isSome_resolveRef_iff :
    (Resolver.resolveRef p.draft p.store target).isSome = true ↔
      Slug.ofText target ≠ "" ∧ (p.draft.Defines (Slug.ofText target) ∨
        ∃ file entry, p.store.get? file = some entry ∧ entry.Defines (Slug.ofText target)) := by
  by_cases hanchor : Slug.ofText target = ""
  · simp [Resolver.resolveRef, Draft.anchor?, hanchor]
  · rw [Resolver.resolveRef, Draft.anchor?_eq target hanchor, Draft.Defines, ← isSome_anchorTitle?,
      ← Draft.anchorTitle?, ← Store.isSome_findAnchor?_iff]
    simp only
    cases p.draft.anchorTitle? (Slug.ofText target) with
    | some text => simp [hanchor]
    | none => simp [hanchor]

/-- Whether a reference to a title or a label is answered, and rightly. -/
def FindsLabel (p : Pass) (target : String) : Prop :=
  ∃ reference, p.answer "ref" target = .ok (some reference) ∧
    p.LabelReference (Slug.ofText target) reference

/-- The blanks around a target do not matter. -/
theorem answer_ref (p : Pass) (target : String) :
    p.answer "ref" target = .ok (Resolver.resolveRef p.draft p.store target) := by
  rw [answer_of_resolver Registry.standard_ref, Resolver.resolve_ref, Resolver.resolveRef,
    Resolver.resolveRef, Draft.anchor?, Draft.anchor?, Slug.ofText_trim]

end Pass

/-! ## What a pass introduces

Titles and labels are only ever added, by two of the calls, and the other calls leave them alone. So the
draft in the end defines all that has been introduced on the way, and its entry does too when it is
published. -/

/-- Whether a call gives a document a title or a label with a text. -/
inductive Operation.Introduces : Operation → String → Prop
  /-- a title of a depth that is not refused -/
  | title (level : Nat) (text : String) (hlevel : level < titleDepths) :
      Introduces (.recordTitle level text) text
  /-- a label -/
  | label (text : String) : Introduces (.addAnchor text) text

namespace Draft

variable {d d' d'' : Draft} {level : Nat}

/-- Whether a draft has the titles and labels of another one, and perhaps more after them. -/
structure Extends (d d' : Draft) : Prop where
  titles : d.titles <+: d'.titles
  anchors : d.anchors <+: d'.anchors

namespace Extends

/-- A draft with the same titles and labels has them all. -/
theorem of_eq (htitles : d'.titles = d.titles) (hanchors : d'.anchors = d.anchors) : d.Extends d' :=
  ⟨htitles ▸ List.prefix_rfl, hanchors ▸ List.prefix_rfl⟩

theorem refl (d : Draft) : d.Extends d := of_eq rfl rfl

/-- What is added to a draft to which something has been added is added after that. -/
theorem trans (h : d.Extends d') (h' : d'.Extends d'') : d.Extends d'' :=
  ⟨h.titles.trans h'.titles, h.anchors.trans h'.anchors⟩

theorem defines (h : d.Extends d') (hdefines : d.Defines anchor) : d'.Defines anchor := by
  rcases hdefines with ⟨heading, hmem, hanchor⟩ | hmem
  · exact .inl ⟨heading, h.titles.subset hmem, hanchor⟩
  · exact .inr (h.anchors.subset hmem)

/-- A label is put behind the others, unless it is there or has no slug. -/
theorem addAnchor (d : Draft) (label : String) : d.Extends (d.addAnchor label) := by
  rw [Draft.addAnchor]
  split
  · exact .refl d
  · split
    · exact .refl d
    · exact ⟨List.prefix_rfl, List.prefix_append _ _⟩

/-- A title is put behind the others, unless it is refused. -/
theorem recordTitle (d : Draft) (level : Nat) (text : String) :
    d.Extends (Call.run (Draft.recordTitle level text) d).2 := by
  rw [run_recordTitle]
  split
  · exact ⟨List.prefix_append _ _, List.prefix_rfl⟩
  · exact .refl d

end Extends

/-- A label that has been added is defined, be it new or not. -/
theorem defines_addAnchor (d : Draft) (h : Slug.ofText text ≠ "") :
    (d.addAnchor text).Defines (Slug.ofText text) := by
  rw [addAnchor, anchor?_eq text h]
  simp only
  split
  · rename_i hmem
    exact .inr hmem
  · exact .inr (List.mem_append_right _ List.mem_cons_self)

/-- A title that has been recorded is defined by its slug. -/
theorem defines_recordTitle (d : Draft) (h : level < titleDepths) (text : String) :
    (Call.run (recordTitle level text) d).2.Defines (Slug.ofText text) := by
  rw [run_recordTitle, dif_pos h]
  exact .inl ⟨_, List.mem_append_right _ List.mem_cons_self, rfl⟩

end Draft

theorem Pass.extends_takeDown (p : Pass) (link : BrokenLink) (answer : Option Reference) :
    p.draft.Extends (p.takeDown link answer).draft := by
  cases answer with
  | none => exact .of_eq rfl rfl
  | some reference => exact .refl p.draft

theorem Pass.extends_mapDependencies (p : Pass) (f : List Dependency → List Dependency) :
    p.draft.Extends (p.mapDependencies f).draft :=
  .of_eq rfl rfl

/-- No call takes a title or a label away. -/
theorem Operation.take_extends (p : Pass) (operation : Operation) :
    p.draft.Extends (operation.take p).draft := by
  cases operation with
  | recordTitle level text => exact .recordTitle p.draft level text
  | addAnchor label =>
    simp only [take]
    exact .addAnchor p.draft label
  | setLink name url =>
    obtain ⟨links, diagnostics, hpass⟩ := p.exists_setLink name url
    rw [take, hpass]
    exact .of_eq rfl rfl
  | addDependency path isPending =>
    rw [take, Pass.onDraft, Call.run_on, Draft.run_addDependency]
    split
    · exact .refl p.draft
    · exact .of_eq rfl rfl
  -- a mention touches the dependencies, a resolution also the broken links
  | found role target =>
    obtain ⟨_, hfound⟩ | hfound | ⟨-, hfound⟩ := p.run_found_cases role target
    all_goals rw [take, hfound]
    · exact .refl p.draft
    · exact .refl p.draft
    · rw [Pass.mention]
      split
      · exact .refl p.draft
      · exact .of_eq rfl rfl
  | resolve role target =>
    obtain ⟨_, -, hresolve⟩ | ⟨answer, -, hresolve⟩ := p.run_resolve_cases role target
    all_goals rw [take, hresolve]
    · exact .refl p.draft
    · exact (Pass.extends_takeDown p _ answer).trans (Pass.extends_mapDependencies _ _)
  | _ => exact .of_eq rfl rfl

/-- What a call introduces is defined after it. -/
theorem Operation.Introduces.defines {operation : Operation} (h : operation.Introduces text)
    (htext : Slug.ofText text ≠ "") (p : Pass) :
    (operation.take p).draft.Defines (Slug.ofText text) := by
  cases h with
  | title level text hlevel => exact p.draft.defines_recordTitle hlevel text
  | label text =>
    simp only [take]
    exact p.draft.defines_addAnchor htext

namespace Pass

variable {p : Pass} {operation : Operation} {operations : List Operation} {target : String}

/-- The pass after some calls. -/
def takeAll (p : Pass) (operations : List Operation) : Pass :=
  operations.foldl (fun p operation => operation.take p) p

theorem takeAll_append (p : Pass) (operations others : List Operation) :
    p.takeAll (operations ++ others) = (p.takeAll operations).takeAll others :=
  List.foldl_append

theorem extends_takeAll (p : Pass) (operations : List Operation) :
    p.draft.Extends (p.takeAll operations).draft := by
  induction operations generalizing p with
  | nil => exact .refl p.draft
  | cons operation operations ih => exact (operation.take_extends p).trans (ih (operation.take p))

/-- Whatever has been introduced along a run is defined at its end. -/
theorem defines_takeAll (p : Pass) (hmem : operation ∈ operations) (h : operation.Introduces text)
    (htext : Slug.ofText text ≠ "") : (p.takeAll operations).draft.Defines (Slug.ofText text) := by
  obtain ⟨before, after, rfl⟩ := List.append_of_mem hmem
  rw [takeAll_append]
  exact (extends_takeAll _ after).defines (h.defines htext (p.takeAll before))

/-- What is filed of a document is its entry. -/
theorem get?_publish_own (p : Pass) : p.publish.store.get? p.draft.file = some p.draft.entry := by
  rw [publish, Store.get?_publish]
  exact if_pos rfl

/-- A reference to an anchor that an entry defines is answered. -/
theorem findsLabel_of_defines {file : String} {entry : Entry} (hget : p.store.get? file = some entry)
    (hdefines : entry.Defines anchor) (hanchor : anchor ≠ "") (htarget : Slug.ofText target = anchor) :
    p.FindsLabel target := by
  subst htarget
  obtain ⟨reference, hfound⟩ := Option.isSome_iff_exists.mp
    (isSome_resolveRef_iff.mpr ⟨hanchor, .inr ⟨file, entry, hget, hdefines⟩⟩)
  exact ⟨reference, (answer_ref p target).trans (congrArg _ hfound), labelReference_of_resolveRef hfound⟩

end Pass

/-- Whatever happens to a sound build, it stays sound. -/
theorem Build.Sound.foldl {b : Build} (h : b.Sound) (actions : List Action) :
    Build.Sound (actions.foldl Build.act b) := by
  induction actions generalizing b with
  | nil => exact h
  | cons action actions ih => exact ih (h.act action)

theorem Build.sound_empty : empty.Sound :=
  ⟨Store.Sound.empty, fun _ _ hget => nomatch hget⟩

/-- **References to titles and labels.** A reference is answered, with a document or with none, and it is
answered with a document exactly if the slug of its target is not empty and is defined by the document that
it stands in or by an entry of the corpus. It leads to that document if that defines the slug, and else to
the first one by name that does, and shows the text that it has there: that of the first title with the
slug, or else the label. What a document publishes shows every anchor as the document itself does, and
defines whatever titles and labels it was given on the way. So each title and label in the store of a build
is found from every document of the build, by any text with the same slug. -/
theorem label_references :
    (∀ (p : Pass) (target : String),
      let anchor := Slug.ofText target
      let found := Resolver.ref.resolve p.draft p.store target
      p.answer "ref" target = .ok found ∧
      (found.isSome = true ↔ anchor ≠ "" ∧ (p.draft.Defines anchor ∨
        ∃ file entry, p.store.get? file = some entry ∧ entry.Defines anchor)) ∧
      ∀ reference ∈ found, p.LabelReference anchor reference) ∧
    (∀ (p : Pass) (anchor : String),
      (p.publish.store.get? p.draft.file).bind (·.anchorTitle? anchor) = p.draft.anchorTitle? anchor) ∧
    (∀ (p : Pass) (operations : List Operation) (operation : Operation) (text : String),
      operation ∈ operations → operation.Introduces text → Slug.ofText text ≠ "" →
      let q := p.takeAll operations
      q.publish.store.get? q.draft.file = some q.draft.entry ∧
      ∀ (reader : Pass) (entry : Entry), reader.store.get? q.draft.file = some entry →
        entry.titles = q.draft.titles → entry.anchors = q.draft.anchors →
        ∀ target, Slug.ofText target = Slug.ofText text → reader.FindsLabel target) ∧
    ∀ (actions : List Action) (file : String) (entry : Entry) (text : String),
      let b := Build.after actions
      b.store.get? file = some entry → entry.Has text → Slug.ofText text ≠ "" →
      ∀ (draft : Draft) (target : String), Slug.ofText target = Slug.ofText text →
        Pass.FindsLabel { draft, store := b.store, diagnostics := b.diagnostics } target := by
  refine ⟨fun p target => ?answered, fun p anchor => ?published, ?introduced, ?build⟩
  case answered =>
    rw [Resolver.resolve_ref]
    exact ⟨p.answer_ref target, Pass.isSome_resolveRef_iff, fun reference hreference =>
      Pass.labelReference_of_resolveRef hreference⟩
  case published =>
    rw [p.get?_publish_own, Option.bind_some]
    rfl
  case introduced =>
    intro p operations operation text hmem hintroduces htext q
    refine ⟨q.get?_publish_own, fun reader entry hget htitles hanchors target htarget => ?_⟩
    have hdefines : entry.Defines (Slug.ofText text) := by
      rw [Entry.Defines, htitles, hanchors]
      exact p.defines_takeAll hmem hintroduces htext
    exact Pass.findsLabel_of_defines hget hdefines htext htarget
  case build =>
    intro actions file entry text b hget hhas htext draft target htarget
    have hsound : b.Sound := Build.sound_empty.foldl actions
    have hdefines : entry.Defines (Slug.ofText text) := (hsound.store file entry hget).2.defines hhas
    exact Pass.findsLabel_of_defines hget hdefines htext htarget

/-- A title that is looked for in another spelling, from another document of the build, and a label that is
looked for before anything else has happened to the store. -/
theorem label_references_guide :
    let calls : List Operation := [.recordTitle 1 " Getting Started! ", .addAnchor "Set Up"]
    let b := Build.after ([.start "a" "guide/intro" {} ""] ++ calls.map (.take "a") ++
      [.take "a" .publish, .start "b" "api" {} ""])
    let entry : Entry := {
      file := "guide/intro", url := "guide/intro.html", title := some "Getting Started!"
      titles := [⟨1, "Getting Started!", "getting-started", "1"⟩], anchors := ["set-up"] }
    let p : Pass := { draft := { file := "guide/intro" } }
    let draft : Draft := { file := "api" }
    let reader : Pass := { draft, store := (p.takeAll calls).publish.store }
    b.store.get? "guide/intro" = some entry ∧ entry.Has "Getting Started!" ∧
    Slug.ofText "Getting Started!" = "getting-started" ∧
    (b.drafts.get? "b").map (·.file) = some draft.file ∧
    Pass.FindsLabel { draft, store := b.store, diagnostics := b.diagnostics } "getting -- STARTED?" ∧
    Operation.Introduces (.addAnchor "Set Up") "Set Up" ∧ reader.FindsLabel "(set up)" := by
  intro calls b entry p draft reader
  obtain ⟨-, -, hintroduced, hbuild⟩ := label_references
  have hget : b.store.get? "guide/intro" = some entry := by decide +kernel
  have hhas : entry.Has "Getting Started!" := .inl ⟨_, List.mem_cons_self, rfl⟩
  have hslug : Slug.ofText "Getting Started!" = "getting-started" := by decide +kernel
  have hlabel : Operation.Introduces (.addAnchor "Set Up") "Set Up" := .label "Set Up"
  refine ⟨hget, hhas, hslug, by decide +kernel, ?_, hlabel, ?_⟩
  · exact hbuild _ "guide/intro" entry "Getting Started!" hget hhas (by decide +kernel) draft _
      (by decide +kernel)
  · obtain ⟨hown, hfinds⟩ := hintroduced p calls (.addAnchor "Set Up") "Set Up"
      (by simp [calls]) hlabel (by decide +kernel)
    exact hfinds reader _ hown rfl rfl _ (by decide +kernel)

end Crosslink
