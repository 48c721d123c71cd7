import Crosslink.Proofs.GroupedReports
import Crosslink.Proofs.Refusals

/-!
# Three records of a broken reference

A reference that leads nowhere is entered three times: it is taken down in the draft of its document, it is
reported, and at the end of the build it stands in the report, under the name of the document. Documents are
compiled side by side and report to one sink, which may be drained at any time; the report is made of the
drafts afterwards, in any order. Nothing of this makes a reference vanish or count twice.

* `Pass.Calls` is what can be made of a pass by calls alone, which is all that the code of a resolver has.
* `Pass.Entered` : what has come to be broken is entered in the draft and reported. `entered_take` proves it
  of a call.
* `Session` are the documents of a build with their sink. `Session.Balanced` is the invariant, `Balanced.act`
  keeps it over one happening and `balanced_after` over a run.
* `broken_references_accounted` puts it together with what a report lists.
-/

namespace Crosslink

/-! ## Broken references with their documents

A sink receives warnings and questions of unknown kinds as well. Only what it says of broken references is
counted, each with the document that reported it. -/

/-- The broken reference that is reported, if one is, with its document. -/
def Diagnostic.broken? : Diagnostic → Option (String × BrokenLink)
  | brokenLink file link => some (file, link)
  | unknownRole .. | warning _ | info _ => none

/-- The broken references among what has been reported, with their documents. -/
def Diagnostic.broken (diagnostics : List Diagnostic) : List (String × BrokenLink) :=
  diagnostics.filterMap broken?

namespace Diagnostic

variable {diagnostic : Diagnostic}

/-- What says nothing of a broken reference is left out of the count. -/
theorem broken?_eq_none_iff : diagnostic.broken? = none ↔ diagnostic.isBrokenLink = false := by
  cases diagnostic <;> simp [broken?, isBrokenLink]

theorem broken_append (diagnostics others : List Diagnostic) :
    broken (diagnostics ++ others) = broken diagnostics ++ broken others :=
  List.filterMap_append

theorem broken_append_of_other (diagnostics : List Diagnostic) (h : diagnostic.isBrokenLink = false) :
    broken (diagnostics ++ [diagnostic]) = broken diagnostics := by
  have hnone : broken [diagnostic] = [] := by simp [broken, broken?_eq_none_iff.mpr h]
  rw [broken_append, hnone, List.append_nil]

end Diagnostic

/-! ## What is entered by a call

The calls of a pass are gone through once, here. All but a resolution leave the draft's list of broken
references alone and report none; a resolution that leads nowhere puts one into each. The code of a
resolver is not known, but it has only these calls, so that whatever it makes of a pass is a run of them. -/

/-- A call of a pass, with given kinds of reference. A refused call leaves its state as any other. -/
def Operation.takeWith (registry : Registry) (p : Pass) (operation : Operation) : Pass :=
  (Call.run (operation.call registry) p).2

/-- A call that does not report a broken reference by itself, past the draft. -/
def Operation.IsOwn : Operation → Prop
  | report diagnostic => diagnostic.isBrokenLink = false
  | _ => True

/-- Whether a call hands the pass on to the code of a resolver. -/
def Operation.isFound : Operation → Bool
  | found .. => true
  | _ => false

/-- `q` can be made of `p` by calls, while others make of the store what they like. -/
inductive Pass.Calls (p : Pass) : Pass → Prop where
  /-- there may be no call -/
  | none : Calls p p
  /-- a call, which does not hand the pass on -/
  | take {q : Pass} (h : Calls p q) (registry : Registry) {operation : Operation}
      (isOwn : operation.IsOwn) (isDirect : operation.isFound = false) :
      Calls p (operation.takeWith registry q)
  /-- others work on the store -/
  | meanwhile {q : Pass} (h : Calls p q) (store : Store) : Calls p { q with store }

/-- A resolver works on a pass by calls alone. -/
def Resolver.UsesCalls (resolver : Resolver) : Prop :=
  ∀ (target : String) (p : Pass), p.Calls (Call.run (resolver.found target) p).2

/-- All kinds of reference have resolvers that work on a pass by calls alone. -/
def Registry.UsesCalls (registry : Registry) : Prop :=
  ∀ role resolver, registry.get? role = some resolver → resolver.UsesCalls

/-- From `p` to `q` references have come to be broken, and each is entered in the draft and reported. -/
structure Pass.Entered (p q : Pass) (links : List BrokenLink) : Prop where
  file : q.draft.file = p.draft.file
  draft : q.draft.brokenLinks = p.draft.brokenLinks ++ links
  reported : Diagnostic.broken q.diagnostics =
    Diagnostic.broken p.diagnostics ++ links.map (p.draft.file, ·)

namespace Pass

variable {p q r : Pass} {links links' : List BrokenLink} {registry : Registry} {operation : Operation}

namespace Entered

/-- Where neither copy changes nothing is entered. -/
theorem nothing (hfile : q.draft.file = p.draft.file) (hdraft : q.draft.brokenLinks = p.draft.brokenLinks)
    (hreported : Diagnostic.broken q.diagnostics = Diagnostic.broken p.diagnostics) : p.Entered q [] :=
  ⟨hfile, by rw [hdraft, List.append_nil], by rw [hreported, List.map_nil, List.append_nil]⟩

/-- What is entered by one call after another is what the one enters, and then the other. -/
theorem trans (h : p.Entered q links) (h' : q.Entered r links') : p.Entered r (links ++ links') where
  file := h'.file.trans h.file
  draft := by rw [h'.draft, h.draft, List.append_assoc]
  reported := by rw [h'.reported, h.reported, h.file, List.map_append, List.append_assoc]

/-- All that is broken in the draft in the end. -/
theorem broken (h : p.Entered q links) :
    q.draft.broken = p.draft.broken ++ links.map (p.draft.file, ·) := by
  rw [Draft.broken, h.file, h.draft, List.map_append, Draft.broken]

end Entered

/-- A link target may be warned of, but that is no broken reference. -/
theorem entered_setLink (p : Pass) (name url : String) : p.Entered (p.setLink name url) [] := by
  rw [setLink]
  split
  · exact .nothing rfl rfl (Diagnostic.broken_append_of_other _ rfl)
  · exact .nothing rfl rfl rfl

theorem entered_addDependency (p : Pass) (path : String) (isPending : Bool) :
    p.Entered (Call.run (onDraft (Draft.addDependency path isPending)) p).2 [] := by
  rw [onDraft, Call.run_on, Draft.run_addDependency]
  split <;> exact .nothing rfl rfl rfl

/-- What is taken down is taken down in both places, and nothing is where the reference leads somewhere.
-/
theorem entered_takeDown (p : Pass) (link : BrokenLink) (answer : Option Reference) :
    p.Entered (p.takeDown link answer) (if answer.isNone then [link] else []) := by
  cases answer with
  | none => exact ⟨rfl, rfl, Diagnostic.broken_append _ _⟩
  | some reference => exact .nothing rfl rfl rfl

theorem Entered.mapDependencies (h : p.Entered q links) (f : List Dependency → List Dependency) :
    p.Entered (q.mapDependencies f) links :=
  ⟨h.file, h.draft, h.reported⟩

/-- A resolution that leads nowhere is the one call that enters a reference. -/
theorem entered_resolve (p : Pass) (registry : Registry) (role target : String) :
    ∃ links, p.Entered (Call.run (resolve registry role target) p).2 links := by
  cases hresolver : registry.get? role with
  | none =>
    rw [run_resolve_of_none hresolver]
    exact ⟨[], .nothing rfl rfl rfl⟩
  | some resolver =>
    rw [run_resolve hresolver]
    exact ⟨_, (p.entered_takeDown _ _).mapDependencies _⟩

/-- Whatever a call does that does not hand the pass on, what it breaks it enters. -/
theorem entered_takeWith (registry : Registry) (p : Pass) (isOwn : operation.IsOwn)
    (isDirect : operation.isFound = false) : ∃ links, p.Entered (operation.takeWith registry p) links := by
  cases operation with
  | report diagnostic => exact ⟨[], .nothing rfl rfl (Diagnostic.broken_append_of_other _ isOwn)⟩
  | recordTitle level text =>
    obtain ⟨numbering, titles, hdraft⟩ := p.draft.exists_recordTitle level text
    rw [Operation.takeWith, Operation.call, Call.run_discard, onDraft, Call.run_on, hdraft]
    exact ⟨[], .nothing rfl rfl rfl⟩
  | addAnchor label =>
    obtain ⟨anchors, hdraft⟩ := p.draft.exists_addAnchor label
    rw [Operation.takeWith, Operation.call, Call.run_modify, hdraft]
    exact ⟨[], .nothing rfl rfl rfl⟩
  | setLink name url => exact ⟨[], p.entered_setLink name url⟩
  | addDependency path isPending => exact ⟨[], p.entered_addDependency path isPending⟩
  | found role target => cases isDirect
  | resolve role target =>
    rw [Operation.takeWith, Operation.call, Call.run_discard]
    exact p.entered_resolve registry role target
  | createTitle | getNumber | getLevel =>
    rw [Operation.takeWith, Operation.call, Call.run_discard]
    exact ⟨[], .nothing rfl rfl rfl⟩
  | resetNumbering | enqueueAnonymous | resetAnonymous | setUrl | setVariable | publish =>
    exact ⟨[], .nothing rfl rfl rfl⟩

/-- Whatever a resolver makes of a pass by calls, there are references that it has come to break. -/
theorem Calls.entered (h : p.Calls q) : ∃ links, p.Entered q links := by
  induction h with
  | none => exact ⟨[], .nothing rfl rfl rfl⟩
  | @take q _ registry operation isOwn isDirect ih =>
    obtain ⟨links, hlinks⟩ := ih
    obtain ⟨links', hlinks'⟩ := entered_takeWith registry q isOwn isDirect
    exact ⟨links ++ links', hlinks.trans hlinks'⟩
  | meanwhile _ store ih =>
    obtain ⟨links, hlinks⟩ := ih
    exact ⟨links, hlinks.file, hlinks.draft, hlinks.reported⟩

/-- What a call breaks it enters. -/
theorem entered_take (h : registry.UsesCalls) (p : Pass) (isOwn : operation.IsOwn) :
    ∃ links, p.Entered (operation.takeWith registry p) links := by
  cases hfound : operation.isFound with
  | false => exact entered_takeWith registry p isOwn hfound
  | true =>
    cases operation with
    | found role target =>
      rw [Operation.takeWith, Operation.call]
      cases hresolver : registry.get? role with
      | none =>
        rw [run_found_of_none hresolver]
        exact ⟨[], .nothing rfl rfl (Diagnostic.broken_append_of_other _ rfl)⟩
      | some resolver =>
        rw [found, hresolver]
        exact (h role resolver hresolver (Text.trim target) p).entered
    | _ => cases hfound

end Pass

/-! ## Resolvers

That a resolver works by calls alone is shown of each one that there is. What is left open is the code
that a build registers itself, and of that nothing else is asked. -/

namespace Resolver

/-- A resolver that only adds a dependency when it is told of a target works by calls. -/
theorem usesCalls_of_addDependency {resolver : Resolver}
    (h : ∀ target p, ∃ path isPending, (Call.run (resolver.found target) p).2 =
      (Call.run (Pass.onDraft (Draft.addDependency path isPending)) p).2) : resolver.UsesCalls := by
  intro target p
  obtain ⟨path, isPending, hfound⟩ := h target p
  have isOwn : (Operation.addDependency path isPending).IsOwn := trivial
  have htake : p.Calls (Operation.takeWith .standard p (.addDependency path isPending)) :=
    Pass.Calls.none.take .standard isOwn rfl
  rw [hfound]
  exact htake

theorem usesCalls_doc : doc.UsesCalls := by
  refine usesCalls_of_addDependency fun target p =>
    ⟨target, !(p.draft.location.canonical? target).any p.store.contains, ?_⟩
  simp only [doc, foundDoc, Call.run_bind, Call.run_get]

theorem usesCalls_ref : ref.UsesCalls := fun _ _ => .none

theorem usesCalls_ofTable (targets : Table Reference) (default : Option Reference)
    (pending : Option Bool) : (ofTable targets default pending).UsesCalls := by
  cases pending with
  | none => exact fun _ _ => .none
  | some isPending => exact usesCalls_of_addDependency fun target p => ⟨target, isPending, rfl⟩

end Resolver

namespace Registry

theorem UsesCalls.empty : UsesCalls ∅ := fun _ _ hget => nomatch hget

/-- Resolvers may be added one by one. -/
theorem UsesCalls.insert {registry : Registry} {resolver : Resolver} (h : registry.UsesCalls)
    (hresolver : resolver.UsesCalls) (role : String) : UsesCalls (Table.insert registry role resolver) := by
  intro other resolver' hget
  rw [Table.get?_insert] at hget
  split at hget
  · obtain rfl := Option.some.inj hget
    exact hresolver
  · exact h other resolver' hget

/-- So the two standard kinds of reference can be built upon. -/
theorem usesCalls_standard : standard.UsesCalls :=
  (UsesCalls.empty.insert Resolver.usesCalls_doc "doc").insert Resolver.usesCalls_ref "ref"

end Registry

/-! ## Sessions

Several drafts share one sink and one store, and any of them may take the next call. What the sink has
been relieved of is kept aside, so that both sides of the balance only ever grow. -/

/-- Documents that are compiled side by side and report to one sink. -/
structure Session where
  /-- their drafts, in the order in which they were started -/
  drafts : List Draft := []
  /-- what has been reported and is still in the sink, in order -/
  sink : List Diagnostic := []
  /-- what has been taken out of the sink, in order -/
  drained : List Diagnostic := []

/-- What can happen in a session. -/
inductive Happening where
  /-- a document is started -/
  | start (file : String) (config : Config) (sourceDirectory : String)
  /-- a call is made for a document, with the kinds of reference that there are then and over what others
  have made of the store -/
  | take (index : Nat) (registry : Registry) (usesCalls : registry.UsesCalls) (store : Store)
      (operation : Operation) (isOwn : operation.IsOwn)
  /-- the sink is drained -/
  | drain

namespace Session

variable {s : Session}

/-- The session after a happening. What is asked of a document that is not there is not done. -/
def act (s : Session) : Happening → Session
  | .start file config sourceDirectory =>
    match Draft.start file config sourceDirectory with
    | .ok draft => { s with drafts := s.drafts ++ [draft] }
    | .error _ => s
  | .take index registry _ store operation _ =>
    match s.drafts[index]? with
    | none => s
    | some draft =>
      let p := operation.takeWith registry { draft, store, diagnostics := s.sink }
      { s with drafts := s.drafts.set index p.draft, sink := p.diagnostics }
  | .drain => { s with sink := [], drained := s.drained ++ s.sink }

/-- The session after some happenings, one after the other. -/
def after (happenings : List Happening) : Session := happenings.foldl act {}

/-- The broken references that have been reported, with their documents. -/
def received (s : Session) : List (String × BrokenLink) := Diagnostic.broken (s.drained ++ s.sink)

/-- The broken references that the drafts hold, with their documents. -/
def held (s : Session) : List (String × BrokenLink) := s.drafts.flatMap Draft.broken

/-- What has been reported is what the drafts hold, each as often. -/
def Balanced (s : Session) : Prop := s.received.Perm s.held

/-- What has been received is what was drained and what is still in the sink. -/
theorem received_eq (s : Session) :
    s.received = Diagnostic.broken s.drained ++ Diagnostic.broken s.sink :=
  Diagnostic.broken_append _ _

/-- A draft that comes to hold more adds just this to what all of them hold. -/
theorem flatMap_set_perm {drafts : List Draft} {index : Nat} {d d' : Draft}
    {more : List (String × BrokenLink)} (hget : drafts[index]? = some d)
    (hbroken : d'.broken = d.broken ++ more) :
    ((drafts.set index d').flatMap Draft.broken).Perm (drafts.flatMap Draft.broken ++ more) := by
  induction drafts generalizing index with
  | nil => cases hget
  | cons draft drafts ih =>
    cases index with
    | zero =>
      obtain rfl : draft = d := Option.some.inj hget
      rw [List.set_cons_zero, List.flatMap_cons, List.flatMap_cons, hbroken, List.append_assoc,
        List.append_assoc]
      exact List.perm_append_comm.append_left draft.broken
    | succ index =>
      rw [List.set_cons_succ, List.flatMap_cons, List.flatMap_cons, List.append_assoc]
      exact (ih hget).append_left draft.broken

/-- Both sides of the balance grow by the same. -/
theorem Balanced.of_more {s' : Session} {more : List (String × BrokenLink)} (h : s.Balanced)
    (hreceived : s'.received = s.received ++ more) (hheld : s'.held.Perm (s.held ++ more)) :
    s'.Balanced := by
  rw [Balanced, hreceived]
  exact (h.append_right more).trans hheld.symm

/-- Whatever happens to a balanced session leaves it balanced. -/
theorem Balanced.act (h : s.Balanced) (happening : Happening) : (s.act happening).Balanced := by
  cases happening with
  | start file config sourceDirectory =>
    rw [Session.act]
    split
    · rename_i draft hstart
      -- a document that is started holds nothing yet
      obtain ⟨_, -, rfl⟩ := Draft.start_eq_ok hstart
      refine h.of_more (List.append_nil _).symm ?_
      rw [held, List.flatMap_append]
      exact .refl _
    · exact h
  | take index registry usesCalls store operation isOwn =>
    rw [Session.act]
    split
    · exact h
    · rename_i draft hget
      obtain ⟨links, hlinks⟩ :=
        Pass.entered_take usesCalls { draft, store, diagnostics := s.sink } isOwn
      refine h.of_more ?_ (flatMap_set_perm hget hlinks.broken)
      rw [received_eq, received_eq, hlinks.reported, List.append_assoc]
  | drain =>
    have hreceived : (s.act .drain).received = s.received := by
      rw [received, Session.act, List.append_nil, ← received]
    rw [Balanced, hreceived]
    exact h

/-- What has been reported along a run, drained or not, is what the drafts hold at its end. -/
theorem balanced_after (happenings : List Happening) : (after happenings).Balanced := by
  -- from the end, because a happening meets the session that those before it have left
  induction happenings using List.reverseRecOn with
  | nil => exact .nil
  | append_singleton happenings happening ih =>
    rw [after, List.foldl_append]
    exact ih.act happening

end Session

/-! ## Sessions and reports

The balance is read off at the end of a session, and compared with a report that is made of the drafts. -/

/-- **No broken reference is lost.** Let documents be compiled side by side, with any kinds of reference, over
any store, and with one sink that is drained at any time, and let nobody report a broken reference but the
calls themselves. Then let the drafts be taken into a report, each once and in any order, and with them what
any reconciliations left over.

* What has been reported, drained or not, is what the drafts hold, each as often: the broken references with
  their documents.
* The report lists a document with the broken references of all its drafts, one draft after the other in the
  order in which they were taken in, and it does not list a document without any.
* The number that it tells is that of the broken references that were reported.
* It is clean exactly if there is none and no reconciliation left a pair over. -/
theorem broken_references_accounted (happenings : List Happening) (intakes : List Intake)
    (hrecorded : (Intake.documents intakes).Perm (Session.after happenings).drafts) :
    let s := Session.after happenings
    let received := Diagnostic.broken (s.drained ++ s.sink)
    let report := Report.ofIntakes intakes
    received.Perm (s.drafts.flatMap Draft.broken) ∧
    (∀ file links, report.brokenLinks.get? file = some links ↔
      links ≠ [] ∧
        links = ((Intake.documents intakes).filter (·.file = file)).flatMap (·.brokenLinks)) ∧
    report.totalBrokenLinks = received.length ∧
    (report.isClean = true ↔
      received = [] ∧ ∀ r, .reconciliation r ∈ intakes → r.stillPending = []) := by
  intro s received report
  have hbalanced : received.Perm (s.drafts.flatMap Draft.broken) := Session.balanced_after happenings
  have hlinks := Report.groups_brokenLinks intakes
  have hunresolved := Report.groups_unresolved intakes
  have hheld : received.Perm ((Intake.documents intakes).flatMap Draft.broken) :=
    hbalanced.trans (hrecorded.flatMap_right Draft.broken).symm
  refine ⟨hbalanced, fun file links => ?_, ?_, ?_⟩
  · rw [← Table.filedUnder_flatMap_broken]
    exact hlinks.get?_eq_some_iff file links
  · rw [Report.totalBrokenLinks, hlinks.length_flatten, hheld.length_eq]
  · have hnil : received = [] ↔ (Intake.documents intakes).flatMap Draft.broken = [] := by
      rw [← List.perm_nil, ← List.perm_nil]
      exact ⟨hheld.symm.trans, hheld.trans⟩
    rw [Report.isClean, Bool.and_eq_true, hlinks.isEmpty_iff, hunresolved.isEmpty_iff, hnil,
      Intake.pending_eq_nil_iff]

/-- Three drafts, two of them of one document and one that holds nothing, and a third kind of reference. The
sink is drained in between, and the drafts are taken into the report in the order opposite to that in which
they were started. -/
theorem broken_references_accounted_intro :
    let terms := Resolver.ofTable ∅ none (some true)
    let registry := Registry.standard.insert "term" terms
    let usesCalls := Registry.usesCalls_standard.insert (Resolver.usesCalls_ofTable ∅ none (some true)) "term"
    let take (index : Nat) (operation : Operation) (isOwn : operation.IsOwn) : Happening :=
      .take index registry usesCalls ∅ operation isOwn
    let happenings : List Happening := [.start "guide/intro" {} "", .start "index" {} "",
      take 0 (.resolve "doc" "missing") trivial, .drain, .start "guide/intro" {} "",
      take 2 (.found "term" "tick") trivial, take 2 (.resolve "ref" "Nowhere") trivial,
      take 1 (.found "glossary" "tick") trivial, take 0 (.resolve "term" "tick") trivial]
    let s := Session.after happenings
    let intakes := .reconciliation ⟨[], [("index", "drafts/todo")]⟩ :: s.drafts.reverse.map .document
    let report := Report.ofIntakes intakes
    (Intake.documents intakes).Perm s.drafts ∧
      Diagnostic.broken s.drained = [("guide/intro", ⟨"missing", "doc"⟩)] ∧
      (Diagnostic.broken (s.drained ++ s.sink)).Perm (s.drafts.flatMap Draft.broken) ∧
      report.brokenLinks.get? "guide/intro" =
        some [⟨"Nowhere", "ref"⟩, ⟨"missing", "doc"⟩, ⟨"tick", "term"⟩] ∧
      report.totalBrokenLinks = 3 ∧ report.isClean ≠ true := by
  intro terms registry usesCalls take happenings s intakes report
  have hrecorded : (Intake.documents intakes).Perm s.drafts := by
    have hdocuments : Intake.documents intakes = s.drafts.reverse := by
      simp [intakes, Intake.documents, List.filterMap_map]
    rw [hdocuments]
    exact List.reverse_perm s.drafts
  obtain ⟨hbalanced, hlinks, htotal, hclean⟩ := broken_references_accounted happenings intakes hrecorded
  refine ⟨hrecorded, by decide +kernel, hbalanced, (hlinks _ _).mpr ⟨nofun, by decide +kernel⟩,
    htotal.trans (by decide +kernel), fun h => ?_⟩
  have hnothing : Diagnostic.broken (s.drained ++ s.sink) = [] := (hclean.mp h).1
  have hlength : (Diagnostic.broken (s.drained ++ s.sink)).length = 3 := by decide +kernel
  rw [hnothing] at hlength
  cases hlength

end Crosslink
