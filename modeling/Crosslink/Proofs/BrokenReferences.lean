import Crosslink.Proofs.Retention

/-!
# Broken references

A reference that leads nowhere is a fault of the document, not of the build: it is taken down, and the pass
goes on. Every reference that is met is first noted and then resolved, and the two calls do not judge it
alike. Resolving answers in any case. Noting is refused where the target of a reference to a document spells
no document at all: an empty one, an address on the web, a way out of the corpus.

* `Pass.answers` and `Pass.meetAll` are a run over the references of a document: what the calls answer, and
  the pass in the end.
* `Pass.view` is what resolvers see of a pass. References do not change it, so that each is answered as if
  it were the first: `answers_eq`.
* `noted_eq_error_iff` : which notes are refused.
* `recorded_meetAll` : what is taken down and reported.
* `broken_references_recorded` puts it together; `refused_reference` is a note that is refused.
-/

namespace Crosslink

/-! ## References that are met

The run that is looked at is the one of a pass over a document: for each reference in turn, a note of it
and then its resolution, whatever the note was answered. -/

/-- The kinds of reference that are always there. -/
inductive Kind where
  /-- a document -/
  | doc
  /-- a title or a label -/
  | ref
  deriving DecidableEq, Repr

/-- The name of a kind. -/
def Kind.role : Kind → String
  | doc => "doc"
  | ref => "ref"

/-- How references of a kind are resolved. -/
def Kind.resolver : Kind → Resolver
  | doc => Resolver.doc
  | ref => Resolver.ref

theorem Registry.standard_role (kind : Kind) : standard.get? kind.role = some kind.resolver := by
  cases kind with
  | doc => exact standard_doc
  | ref => exact standard_ref

/-- A reference in a document. -/
structure Occurrence where
  /-- its kind -/
  kind : Kind
  /-- its target, as written -/
  target : String
  deriving DecidableEq, Repr

/-- What is taken down if the reference leads nowhere. -/
def Occurrence.link (o : Occurrence) : BrokenLink := ⟨Text.trim o.target, o.kind.role⟩

namespace Pass

variable {p : Pass} {o : Occurrence} {os : List Occurrence} {fault : Fault}

/-- What a note of a reference answers. -/
def noted (p : Pass) (o : Occurrence) : Except Fault Unit :=
  (Call.run (found .standard o.kind.role o.target) p).1

/-- The pass after a reference has been noted. -/
def note (p : Pass) (o : Occurrence) : Pass := p.step (.mention o.kind.role o.target)

/-- The pass after a reference has been noted and resolved, even if the note was refused. -/
def meet (p : Pass) (o : Occurrence) : Pass := (p.note o).step (.follow o.kind.role o.target)

/-- The pass after some references. -/
def meetAll (p : Pass) (os : List Occurrence) : Pass := os.foldl meet p

/-- What the calls answer, for each reference the note and the resolution. -/
def answers (p : Pass) : List Occurrence → List (Except Fault Unit × Except Fault (Option Reference))
  | [] => []
  | o :: os => (p.noted o, (p.note o).answer o.kind.role o.target) :: (p.meet o).answers os

/-- Where a reference leads. -/
def leadsTo (p : Pass) (o : Occurrence) : Option Reference :=
  o.kind.resolver.resolve p.draft p.store (Text.trim o.target)

/-! ## What resolvers see

A resolver reads titles, labels, urls and entries. It never reads what documents depend on, nor what has
been found to be broken, and these are all that references change. So a pass is reduced to the part that
resolvers read, and that part is the same before every reference. -/

/-- What resolvers see of a pass: the draft and the store, but for dependencies and broken references. -/
def view (p : Pass) : Draft × Store :=
  ({ p.draft with dependencies := [], brokenLinks := [] },
    p.store.mapWithKey fun _ entry => entry.mapDependencies fun _ => [])

/-- A reference to a document is answered from the entry that is filed under its name, dependencies aside.
-/
theorem resolveDoc_view (p : Pass) (target : String) :
    Resolver.resolveDoc p.view.1 p.view.2 target = Resolver.resolveDoc p.draft p.store target := by
  have hkey : p.view.1.location.canonical? target = p.draft.location.canonical? target := rfl
  rw [Resolver.resolveDoc, Resolver.resolveDoc, hkey]
  cases p.draft.location.canonical? target with
  | none => rfl
  | some name =>
    simp only [view, Table.get?_mapWithKey, Option.map_map]
    rfl

/-- A reference to a label is answered from titles and labels, first those of the draft and then those of
the entries, dependencies aside. -/
theorem resolveRef_view (p : Pass) (target : String) :
    Resolver.resolveRef p.view.1 p.view.2 target = Resolver.resolveRef p.draft p.store target := by
  rw [Resolver.resolveRef, Resolver.resolveRef]
  cases Draft.anchor? target with
  | none => rfl
  | some anchor =>
    have htitle : p.view.1.anchorTitle? anchor = p.draft.anchorTitle? anchor := rfl
    simp only [htitle]
    cases p.draft.anchorTitle? anchor with
    | some title => rfl
    | none =>
      simp only [Store.findAnchor?, view, Table.values, Table.mapWithKey, List.map_map,
        List.findSome?_map, List.map_findSome?]
      -- row by row, for an entry and what is left of it
      congr 1
      funext row
      simp only [Function.comp_apply, Option.map_map]
      rfl

/-- Where a reference leads can be told from the view. -/
theorem leadsTo_of_view {q : Pass} (h : p.view = q.view) (o : Occurrence) : p.leadsTo o = q.leadsTo o := by
  rw [leadsTo, leadsTo]
  cases o.kind with
  | doc => rw [Kind.resolver, Resolver.resolve_doc, ← resolveDoc_view, h, resolveDoc_view]
  | ref => rw [Kind.resolver, Resolver.resolve_ref, ← resolveRef_view, h, resolveRef_view]

theorem view_takeDown (p : Pass) (link : BrokenLink) (answer : Option Reference) :
    (p.takeDown link answer).view = p.view := by
  cases answer <;> rfl

theorem view_mapDependencies (p : Pass) (f : List Dependency → List Dependency) :
    (p.mapDependencies f).view = p.view := by
  refine Prod.ext rfl (Table.ext_get? fun file => ?_)
  simp only [view, store_mapDependencies, Table.get?_mapWithKey, Table.get?_modify]
  split
  · rw [Option.map_map]
    rfl
  · rfl

/-- A mention adds a dependency to the draft, so it is not seen either. -/
theorem view_mention (p : Pass) (target : String) : (p.mention target).view = p.view := by
  unfold mention
  split <;> rfl

/-! ## One reference

What a note and a resolution do, of either kind. The note of a label does nothing. The note of a document
is refused if its target spells none, and then the resolution finds nothing as well. -/

/-- The note of a reference to a document is a mention of that document. -/
theorem note_doc (target : String) : p.note ⟨.doc, target⟩ = p.mention target := step_mention_doc

/-- Nothing is noted of a reference to a title or label. -/
theorem note_ref (target : String) : p.note ⟨.ref, target⟩ = p := by
  rw [note, step, Kind.role, run_found_ref]

theorem view_note (p : Pass) (o : Occurrence) : (p.note o).view = p.view := by
  obtain ⟨kind, target⟩ := o
  cases kind with
  | doc => rw [note_doc, view_mention]
  | ref => rw [note_ref]

/-- A resolution answers in any case. -/
theorem answer_eq (p : Pass) (o : Occurrence) : p.answer o.kind.role o.target = .ok (p.leadsTo o) :=
  answer_of_resolver (Registry.standard_role o.kind)

/-- The pass after a reference has been met: it is noted, then taken down if it leads nowhere, and the
lists of dependencies are changed by its answer. -/
theorem meet_eq (p : Pass) (o : Occurrence) :
    p.meet o = ((p.note o).takeDown o.link (p.leadsTo o)).mapDependencies
      ((p.note o).change o.target (p.leadsTo o)) := by
  rw [meet, step, run_resolve (Registry.standard_role o.kind), ← leadsTo_of_view (p.view_note o)]
  rfl

/-- A reference that is met does not show to the next one. -/
theorem view_meet (p : Pass) (o : Occurrence) : (p.meet o).view = p.view := by
  rw [meet_eq, view_mapDependencies, view_takeDown, view_note]

/-- A note is refused exactly where a reference to a document spells none. -/
theorem noted_eq_error_iff :
    p.noted o = .error fault ↔ o.kind = .doc ∧ p.draft.location.canonical? o.target = none ∧
      fault = .noCanonicalUrl (Text.trim o.target) := by
  obtain ⟨kind, target⟩ := o
  cases kind with
  | doc =>
    rw [noted, Kind.role, run_found_doc]
    cases p.draft.location.canonical? target with
    | none => simp [eq_comm]
    | some key => simp
  | ref =>
    rw [noted, Kind.role, run_found_ref]
    simp

/-- What a note answers can be told from the view as well. -/
theorem noted_of_view {q : Pass} (h : p.view = q.view) (o : Occurrence) : p.noted o = q.noted o := by
  have hlocation : p.draft.location = q.draft.location := congrArg (fun view => view.1.location) h
  obtain ⟨kind, target⟩ := o
  cases kind with
  | doc => rw [noted, noted, Kind.role, run_found_doc, run_found_doc, hlocation]
  | ref => rw [noted, noted, Kind.role, run_found_ref, run_found_ref]

/-- A note that is refused leaves no trace. -/
theorem note_of_refused (h : p.noted o = .error fault) : p.note o = p := by
  obtain ⟨kind, target⟩ := o
  obtain ⟨hkind, hkey, -⟩ := noted_eq_error_iff.mp h
  obtain rfl : kind = .doc := hkind
  rw [note_doc, mention, hkey]

/-- What spells no document leads nowhere. -/
theorem leadsTo_of_refused (h : p.noted o = .error fault) : p.leadsTo o = none := by
  obtain ⟨kind, target⟩ := o
  obtain ⟨hkind, hkey, -⟩ := noted_eq_error_iff.mp h
  obtain rfl : kind = .doc := hkind
  have htrim := p.draft.location.canonical?_trim target
  rw [leadsTo, Kind.resolver, Resolver.resolve_doc, Resolver.resolveDoc, htrim, hkey]

/-- A note takes nothing down. -/
theorem recorded_note (p : Pass) (o : Occurrence) :
    (p.note o).draft.brokenLinks = p.draft.brokenLinks ∧ (p.note o).diagnostics = p.diagnostics := by
  obtain ⟨kind, target⟩ := o
  cases kind with
  | doc =>
    rw [note_doc, mention]
    split <;> exact ⟨rfl, rfl⟩
  | ref =>
    rw [note_ref]
    exact ⟨rfl, rfl⟩

theorem file_note (p : Pass) (o : Occurrence) : (p.note o).draft.file = p.draft.file := file_step p _

/-- The references of a list that lead nowhere. -/
def broken (p : Pass) (os : List Occurrence) : List Occurrence := os.filter fun o => (p.leadsTo o).isNone

theorem broken_of_view {q : Pass} (h : p.view = q.view) (os : List Occurrence) :
    p.broken os = q.broken os :=
  List.filter_congr fun o _ => by rw [leadsTo_of_view h]

/-- Whether a reference is broken does not depend on the others. -/
theorem broken_cons (p : Pass) (o : Occurrence) (os : List Occurrence) :
    p.broken (o :: os) = p.broken [o] ++ p.broken os :=
  List.filter_append [o] os

/-- A reference that leads nowhere is taken down and reported, once each; nothing else is. -/
theorem recorded_meet (p : Pass) (o : Occurrence) :
    (p.meet o).draft.brokenLinks = p.draft.brokenLinks ++ (p.broken [o]).map Occurrence.link ∧
      (p.meet o).diagnostics =
        p.diagnostics ++ (p.broken [o]).map fun o => .brokenLink p.draft.file o.link := by
  obtain ⟨hlinks, hdiagnostics⟩ := p.recorded_note o
  rw [meet_eq, mapDependencies, broken, List.filter_cons, List.filter_nil, ← file_note p o, ← hlinks,
    ← hdiagnostics]
  cases p.leadsTo o with
  | none => exact ⟨rfl, rfl⟩
  | some reference => exact ⟨(List.append_nil _).symm, (List.append_nil _).symm⟩

/-! ## All references

By induction on the references, the view being the same throughout. The answers are then those of single
references, and what is recorded is put together from what each of them records. -/

/-- Each reference is noted and resolved as if it were the first. -/
theorem answers_eq (p : Pass) (os : List Occurrence) :
    p.answers os = os.map fun o => (p.noted o, .ok (p.leadsTo o)) := by
  induction os generalizing p with
  | nil => rfl
  | cons o os ih =>
    rw [answers, answer_eq, leadsTo_of_view (p.view_note o), ih, List.map_cons]
    congr 1
    refine List.map_congr_left fun o' _ => ?_
    rw [noted_of_view (p.view_meet o), leadsTo_of_view (p.view_meet o)]

/-- What is taken down and reported over all references: those that lead nowhere, in order. -/
theorem recorded_meetAll (p : Pass) (os : List Occurrence) :
    (p.meetAll os).draft.brokenLinks = p.draft.brokenLinks ++ (p.broken os).map Occurrence.link ∧
      (p.meetAll os).diagnostics =
        p.diagnostics ++ (p.broken os).map fun o => .brokenLink p.draft.file o.link := by
  induction os generalizing p with
  | nil => exact ⟨(List.append_nil _).symm, (List.append_nil _).symm⟩
  | cons o os ih =>
    have hrun : p.meetAll (o :: os) = (p.meet o).meetAll os := rfl
    have hfile : (p.meet o).draft.file = p.draft.file := (file_step _ _).trans (file_note p o)
    obtain ⟨hlinks, hdiagnostics⟩ := p.recorded_meet o
    obtain ⟨hrestLinks, hrestDiagnostics⟩ := ih (p.meet o)
    rw [broken_of_view (p.view_meet o), hfile] at hrestDiagnostics
    rw [broken_of_view (p.view_meet o)] at hrestLinks
    rw [hrun, hrestLinks, hrestDiagnostics, hlinks, hdiagnostics, p.broken_cons o os]
    simp only [List.map_append, List.append_assoc, and_self]

/-- **Broken references are taken down, each once, and the pass goes on, but for the notes of what spells
no document.** Whatever references a document holds, each of them is noted and resolved as if it were the
first. Every resolution is answered. A note is refused exactly where a reference to a document has a target
that spells none; it then leaves no trace, and the resolution says that the reference leads nowhere. So if
every target of a reference to a document spells one, every call is answered. -/
theorem broken_references_recorded (p : Pass) (os : List Occurrence) :
    p.answers os = os.map (fun o => (p.noted o, .ok (p.leadsTo o))) ∧
      (p.meetAll os).draft.brokenLinks =
        p.draft.brokenLinks ++ (os.filter fun o => (p.leadsTo o).isNone).map Occurrence.link ∧
      (p.meetAll os).diagnostics = p.diagnostics ++
        (os.filter fun o => (p.leadsTo o).isNone).map (fun o => .brokenLink p.draft.file o.link) ∧
      (∀ o fault, p.noted o = .error fault ↔ o.kind = .doc ∧
        p.draft.location.canonical? o.target = none ∧ fault = .noCanonicalUrl (Text.trim o.target)) ∧
      (∀ o fault, p.noted o = .error fault → p.note o = p ∧ p.leadsTo o = none) ∧
      ((∀ o ∈ os, o.kind = .doc → (p.draft.location.canonical? o.target).isSome = true) →
        ∀ answer ∈ p.answers os, ∃ reference, answer = (.ok (), .ok reference)) := by
  obtain ⟨hlinks, hdiagnostics⟩ := p.recorded_meetAll os
  refine ⟨answers_eq p os, hlinks, hdiagnostics,
    fun o fault => noted_eq_error_iff, fun o fault h => ⟨note_of_refused h, leadsTo_of_refused h⟩,
    fun hspelled answer hanswer => ?_⟩
  rw [answers_eq] at hanswer
  obtain ⟨o, ho, rfl⟩ := List.mem_map.mp hanswer
  refine ⟨p.leadsTo o, Prod.ext ?_ rfl⟩
  -- a note is refused only where the target spells no document, which is ruled out here
  cases hnoted : p.noted o with
  | ok u => rfl
  | error fault =>
    obtain ⟨hkind, hkey, -⟩ := noted_eq_error_iff.mp hnoted
    have hsome := hspelled o ho hkind
    rw [hkey] at hsome
    cases hsome

/-- A document that is there, one that is not, and a label that nothing defines: two references are
broken, and every call is answered. -/
theorem broken_references_recorded_intro :
    let p : Pass := {
      draft := { file := "guide/intro" }
      store := Table.ofList [("guide/setup", { file := "guide/setup", url := "guide/setup.html" })] }
    let os : List Occurrence := [⟨.doc, "setup"⟩, ⟨.doc, "missing"⟩, ⟨.ref, "usage"⟩]
    (∀ o ∈ os, o.kind = .doc → (p.draft.location.canonical? o.target).isSome = true) ∧
      (∀ answer ∈ p.answers os, ∃ reference, answer = (.ok (), .ok reference)) ∧
      (p.meetAll os).draft.brokenLinks = [⟨"missing", "doc"⟩, ⟨"usage", "ref"⟩] ∧
      p.noted ⟨.doc, " ../.. "⟩ = .error (.noCanonicalUrl "../..") ∧
      p.leadsTo ⟨.doc, " ../.. "⟩ = none := by
  intro p os
  obtain ⟨-, hlinks, -, hrefused, hnone, hanswered⟩ := p.broken_references_recorded os
  have hspelled : ∀ o ∈ os, o.kind = .doc → (p.draft.location.canonical? o.target).isSome = true := by
    decide +kernel
  have hbroken : (os.filter fun o => (p.leadsTo o).isNone) = os.tail := by decide +kernel
  have hnoted : p.noted ⟨.doc, " ../.. "⟩ = .error (.noCanonicalUrl "../..") :=
    (hrefused _ _).mpr ⟨rfl, by decide +kernel, by decide +kernel⟩
  refine ⟨hspelled, hanswered hspelled, ?_, hnoted, (hnone _ _ hnoted).2⟩
  rw [hlinks, hbroken]
  decide +kernel

/-- A reference to what lies above the corpus interrupts the pass that notes it: the note is refused,
although the resolution only says that the reference leads nowhere. -/
theorem refused_reference :
    let p : Pass := { draft := { file := "guide/intro" } }
    let o : Occurrence := ⟨.doc, "../../outside"⟩
    (Draft.start "guide/intro" {}).toOption.map (·.file) = some p.draft.file ∧
      p.answers [o] = [(.error (.noCanonicalUrl "../../outside"), .ok none)] ∧
      (p.meetAll [o]).draft.brokenLinks = [⟨"../../outside", "doc"⟩] := by
  intro p o
  have hkey : p.draft.location.canonical? o.target = none := by decide +kernel
  have htrim : Text.trim o.target = "../../outside" := by decide +kernel
  have hnoted : p.noted o = .error (.noCanonicalUrl "../../outside") :=
    noted_eq_error_iff.mpr ⟨rfl, hkey, by rw [htrim]⟩
  have hbroken : p.leadsTo o = none := leadsTo_of_refused hnoted
  refine ⟨by decide +kernel, ?_, ?_⟩
  · rw [answers_eq, List.map_singleton, hnoted, hbroken]
  · have hlink : o.link = ⟨"../../outside", "doc"⟩ := by rw [Occurrence.link, htrim]; rfl
    rw [(recorded_meetAll p [o]).1, broken, List.filter_cons, hbroken, ← hlink]
    rfl

end Pass

end Crosslink
