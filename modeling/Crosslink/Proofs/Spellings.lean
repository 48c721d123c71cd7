import Crosslink.Proofs.FragmentKeys
import Mathlib.Data.List.Forall2

/-!
# Spellings

A document can be named in many ways: from the root or from where one stands, with dots on the way, with a
fragment behind it and with white space around it. Whoever is given such a name reads it for himself: to
declare a dependency, to note a reference, to resolve it, to promote what waited for it, to drop what is
broken. All of them read it alike, so two passes that are asked for the same things in different spellings
differ in nothing but in how they wrote down what is broken.

* `Request` is what a pass can be asked about other documents, `Request.Respells` says that two requests
  are one in two spellings.
* `Pass.SameButSpelling` says that two passes differ in the writing of broken references at most. Each
  change that a request makes keeps it so: `SameButSpelling.addTo`, `takeDown`, `mapDependencies`,
  `publish`; hence every request does, `SameButSpelling.ask`, and every run, `SameButSpelling.askAll`.
* `Pass.spellings_interchangeable` puts it together.
-/

namespace Crosslink

open Dependency

/-! ## Requests

All that a pass can be asked about another document, and which two requests ask for the same. Whether two
spellings are of one document depends on where the asking document stands, so the relation is one for each
location. -/

/-- What a pass can be asked about other documents. -/
inductive Request where
  /-- to depend on a document -/
  | depend (path : String) (isPending : Bool)
  /-- to note a reference to a document -/
  | note (target : String)
  /-- to resolve a reference to a document -/
  | resolve (target : String)
  /-- to file what the document makes known of itself -/
  | publish
  deriving DecidableEq, Repr

namespace Request

/-- The call that is made. Only a resolution answers with a reference. -/
def call : Request → Call Pass (Option Reference)
  | depend path isPending => do
    Pass.onDraft (Draft.addDependency path isPending)
    return none
  | note target => do
    Pass.found .standard "doc" target
    return none
  | resolve target => Pass.resolve .standard "doc" target
  | publish => do
    modify Pass.publish
    return none

/-- Two requests that ask for the same, in spellings that are read as one document. -/
inductive Respells (loc : Location) : Request → Request → Prop where
  /-- a dependency in another spelling -/
  | depend {path other : String} (h : loc.canonical? path = loc.canonical? other) (isPending : Bool) :
    Respells loc (.depend path isPending) (.depend other isPending)
  /-- a reference in another spelling -/
  | note {target other : String} (h : loc.canonical? target = loc.canonical? other) :
    Respells loc (.note target) (.note other)
  /-- a reference in another spelling -/
  | resolve {target other : String} (h : loc.canonical? target = loc.canonical? other) :
    Respells loc (.resolve target) (.resolve other)
  /-- nothing to spell -/
  | publish : Respells loc .publish .publish

end Request

namespace Pass

/-- What a request is answered. -/
def reply (p : Pass) (request : Request) : Except Fault (Option Reference) :=
  (Call.run request.call p).1

/-- The pass after a request. -/
def ask (p : Pass) (request : Request) : Pass := (Call.run request.call p).2

/-- What some requests are answered, each when its turn comes. -/
def replies (p : Pass) : List Request → List (Except Fault (Option Reference))
  | [] => []
  | request :: requests => p.reply request :: (p.ask request).replies requests

/-- The pass after some requests, refused ones among them. -/
def askAll (p : Pass) (requests : List Request) : Pass := requests.foldl ask p

/-- What matters of a reply: whether it is a refusal, whether there is a reference in it, and where that
leads, the place in the document aside. -/
def outcome (reply : Except Fault (Option Reference)) : Option (Option Reference) :=
  reply.toOption.map (·.map ({ · with anchor := none }))

/-! ## What one request does

Each request is brought down to an equation in which the target stands only where its name is read, and
where a broken reference is taken down as it was written. This is the one place where requests are opened. -/

variable {p q : Pass} {target other : String} {a b : Option Reference}

/-- The pass with one dependency more in its draft, if one is given. -/
def addTo (p : Pass) (d : Option Dependency) : Pass :=
  { p with draft := { p.draft with
      dependencies := d.elim p.draft.dependencies (add · p.draft.dependencies) } }

/-- The answer to a call for a dependency: a refusal exactly if its path spells no document. -/
def accept (p : Pass) (path refused : String) : Except Fault (Option Reference) :=
  match p.draft.location.canonical? path with
  | none => .error (.noCanonicalUrl refused)
  | some _ => .ok none

@[simp]
theorem location_addTo (p : Pass) (d : Option Dependency) :
    (p.addTo d).draft.location = p.draft.location := by
  simp only [addTo, Draft.location]

/-- A declared dependency is added under the name that its path spells, or refused if it spells none. -/
theorem run_depend (p : Pass) (path : String) (isPending : Bool) :
    Call.run (Request.depend path isPending).call p =
      (p.accept path path, p.addTo ((p.draft.location.canonical? path).map (ofPath · isPending))) := by
  rw [Request.call, Call.run_bind, onDraft, Call.run_on, Draft.run_addDependency, accept]
  cases p.draft.location.canonical? path <;> rfl

/-- A noted document is added in the form that the store asks for, or refused if the target spells none.
-/
theorem run_note (p : Pass) (target : String) :
    Call.run (Request.note target).call p =
      (p.accept target (Text.trim target),
        p.addTo ((p.draft.location.canonical? target).map fun key =>
          ofPath key !(p.store.contains key))) := by
  rw [Request.call, Call.run_bind, run_found_doc, accept, mention]
  cases p.draft.location.canonical? target <;> rfl

/-- What a reference to a document is answered. -/
def docAnswer (p : Pass) (target : String) : Option Reference :=
  Resolver.resolveDoc p.draft p.store (Text.trim target)

/-- The pass after a reference to a document has been answered. -/
def answerDoc (p : Pass) (target : String) (answer : Option Reference) : Pass :=
  (p.takeDown ⟨Text.trim target, "doc"⟩ answer).mapDependencies (p.change target answer)

@[simp]
theorem location_answerDoc (p : Pass) (target : String) (answer : Option Reference) :
    (p.answerDoc target answer).draft.location = p.draft.location := by
  cases answer <;> simp only [answerDoc, mapDependencies, takeDown, report, Draft.location]

/-- A reference to a document is answered from the entry under its name, and never refused. -/
theorem run_resolve_doc (p : Pass) (target : String) :
    Call.run (Request.resolve target).call p =
      (.ok (p.docAnswer target), p.answerDoc target (p.docAnswer target)) := by
  rw [Request.call, run_resolve Registry.standard_doc, Resolver.resolve_doc]
  rfl

/-- A request does not move the document. -/
theorem location_ask (p : Pass) (request : Request) :
    (p.ask request).draft.location = p.draft.location := by
  cases request with
  | depend path isPending => simp only [ask, run_depend, location_addTo]
  | note target => simp only [ask, run_note, location_addTo]
  | resolve target => simp only [ask, run_resolve_doc, location_answerDoc]
  | publish => rfl

/-! ## Passes that differ in spelling

A simulation: two passes that are alike but for the writing of broken references are asked the same in two
spellings, and are alike afterwards. The broken references themselves correspond one by one, each pair
spelling one document. For an answer only the place inside the document may differ, since the fragment
belongs to the spelling. -/

/-- Two answers lead to the same, the place in the document aside. -/
def LeadAlike (a b : Option Reference) : Prop :=
  a.map ({ · with anchor := none }) = b.map ({ · with anchor := none })

theorem LeadAlike.outcome (h : LeadAlike a b) : outcome (.ok a) = outcome (.ok b) := congrArg some h

/-- In one pass, two spellings of a document are answered alike. -/
theorem docAnswer_alike (p : Pass)
    (h : p.draft.location.canonical? target = p.draft.location.canonical? other) :
    LeadAlike (p.docAnswer target) (p.docAnswer other) := by
  have hplaceless : ∀ link,
      p.placeless link = .ok ((p.docAnswer link).map ({ · with anchor := none })) := by
    intro link
    rw [placeless, answer_of_resolver Registry.standard_doc, Resolver.resolve_doc]
    rfl
  have hsame := placeless_congr h
  rw [hplaceless, hplaceless] at hsame
  exact Except.ok.inj hsame

theorem LeadAlike.isNone (h : LeadAlike a b) : a.isNone = b.isNone := by
  have hmap := congrArg Option.isNone h
  rwa [Option.isNone_map, Option.isNone_map] at hmap

/-- What an answer makes of a list of dependencies does not depend on the place. -/
theorem LeadAlike.answered (h : LeadAlike a b) (key : String) : answered key a = answered key b := by
  cases a with
  | none =>
    cases b with
    | none => rfl
    | some reference => cases h.isNone
  | some reference =>
    cases b with
    | none => cases h.isNone
    | some reference' =>
      have hfile : reference.file = reference'.file := by
        simp only [LeadAlike, Option.map_some, Option.some.injEq, Reference.mk.injEq] at h
        exact h.1
      funext deps
      rw [Pass.answered, Pass.answered, hfile]

/-- `q` is `p` but for how broken references are written. -/
structure SameButSpelling (p q : Pass) : Prop where
  /-- the drafts differ in their broken references at most -/
  draft : q.draft = { p.draft with brokenLinks := q.draft.brokenLinks }
  /-- the stores are one -/
  store : q.store = p.store
  /-- broken references are of the same kinds and spell the same documents, one by one -/
  broken : q.draft.brokenLinks.map (fun link => (link.role, p.draft.location.canonical? link.target)) =
    p.draft.brokenLinks.map (fun link => (link.role, p.draft.location.canonical? link.target))
  /-- as much is reported -/
  reported : q.diagnostics.length = p.diagnostics.length

namespace SameButSpelling

variable {request respelled : Request} {requests others : List Request}

theorem refl (p : Pass) : SameButSpelling p p := ⟨rfl, rfl, rfl, rfl⟩

/-- The documents stand in the same place, so they read links alike. -/
theorem location (h : SameButSpelling p q) : q.draft.location = p.draft.location := by
  rw [h.draft]
  rfl

theorem dependencies (h : SameButSpelling p q) : q.draft.dependencies = p.draft.dependencies := by
  rw [h.draft]

theorem entry (h : SameButSpelling p q) : q.draft.entry = p.draft.entry := by
  rw [h.draft]
  rfl

theorem addTo (h : SameButSpelling p q) (d : Option Dependency) :
    SameButSpelling (p.addTo d) (q.addTo d) where
  draft := by
    rw [Pass.addTo, Pass.addTo, h.dependencies]
    exact congrArg (fun draft : Draft => { draft with
      dependencies := d.elim p.draft.dependencies (add · p.draft.dependencies) }) h.draft
  store := h.store
  broken := h.broken
  reported := h.reported

theorem mapDependencies (h : SameButSpelling p q) (f : List Dependency → List Dependency) :
    SameButSpelling (p.mapDependencies f) (q.mapDependencies f) where
  draft := by
    rw [Pass.mapDependencies, Pass.mapDependencies, h.dependencies]
    exact congrArg (fun draft : Draft => { draft with dependencies := f p.draft.dependencies }) h.draft
  store := by
    have hfile : q.draft.file = p.draft.file := congrArg Location.file h.location
    rw [store_mapDependencies, store_mapDependencies, hfile, h.store]
  broken := h.broken
  reported := h.reported

theorem publish (h : SameButSpelling p q) : SameButSpelling p.publish q.publish where
  draft := h.draft
  store := by rw [Pass.publish, Pass.publish, h.entry, h.store]
  broken := h.broken
  reported := h.reported

/-- A broken reference is taken down in its own spelling. -/
theorem takeDown (h : SameButSpelling p q) (hlead : LeadAlike a b) (role : String)
    (htarget : p.draft.location.canonical? target = p.draft.location.canonical? other) :
    SameButSpelling (p.takeDown ⟨target, role⟩ a) (q.takeDown ⟨other, role⟩ b) := by
  cases a with
  | some reference =>
    cases b with
    | some reference' => exact h
    | none => cases hlead.isNone
  | none =>
    cases b with
    | some reference => cases hlead.isNone
    | none =>
      -- the drafts come to differ in the link that is written down, and in nothing else
      refine ⟨?draft, h.store, ?broken, ?reported⟩
      case draft =>
        exact congrArg (fun draft : Draft => { draft with
          brokenLinks := q.draft.brokenLinks ++ [(⟨other, role⟩ : BrokenLink)] }) h.draft
      case broken =>
        change List.map _ (q.draft.brokenLinks ++ [_]) = List.map _ (p.draft.brokenLinks ++ [_])
        rw [List.map_append, List.map_append]
        exact congrArg₂ (· ++ ·) h.broken (congrArg (fun key => [(role, key)]) htarget.symm)
      case reported =>
        simp only [Pass.takeDown, report, List.length_append, h.reported, List.length_singleton]

/-- A reference to a document leads to the same in another spelling. -/
theorem docAnswer (h : SameButSpelling p q)
    (htarget : p.draft.location.canonical? target = p.draft.location.canonical? other) :
    LeadAlike (p.docAnswer target) (q.docAnswer other) := by
  have hurl : q.draft.referenceUrl = p.draft.referenceUrl := by
    rw [h.draft]
    rfl
  have hanswer : q.docAnswer other = p.docAnswer other := by
    rw [Pass.docAnswer, Pass.docAnswer, Resolver.resolveDoc, Resolver.resolveDoc, h.location, h.store,
      hurl]
  rw [hanswer]
  exact p.docAnswer_alike htarget

theorem accept (h : SameButSpelling p q)
    (htarget : p.draft.location.canonical? target = p.draft.location.canonical? other)
    (refused refused' : String) :
    outcome (p.accept target refused) = outcome (q.accept other refused') := by
  rw [Pass.accept, Pass.accept, h.location, htarget]
  cases p.draft.location.canonical? other <;> rfl

/-- One answer to two spellings has the same effect, but for what is written down. -/
theorem answerDoc (h : SameButSpelling p q)
    (htarget : p.draft.location.canonical? target = p.draft.location.canonical? other)
    (hlead : LeadAlike a b) : SameButSpelling (p.answerDoc target a) (q.answerDoc other b) := by
  have hchange : p.change target a = q.change other b := by
    rw [change, change, h.location, htarget]
    cases p.draft.location.canonical? other with
    | none => rfl
    | some key => exact hlead.answered key
  have htrim : p.draft.location.canonical? (Text.trim target) =
      p.draft.location.canonical? (Text.trim other) := by
    rw [Location.canonical?_trim, Location.canonical?_trim, htarget]
  rw [Pass.answerDoc, Pass.answerDoc, hchange]
  exact (h.takeDown hlead "doc" htrim).mapDependencies _

/-- A request has the same outcome in another spelling. -/
theorem outcome_reply (h : SameButSpelling p q)
    (hrequest : request.Respells p.draft.location respelled) :
    outcome (p.reply request) = outcome (q.reply respelled) := by
  cases hrequest with
  | depend hpath isPending =>
    simp only [reply, run_depend]
    exact h.accept hpath _ _
  | note htarget =>
    simp only [reply, run_note]
    exact h.accept htarget _ _
  | resolve htarget =>
    simp only [reply, run_resolve_doc]
    exact (h.docAnswer htarget).outcome
  | publish => rfl

/-- And it has the same effect. -/
theorem ask (h : SameButSpelling p q) (hrequest : request.Respells p.draft.location respelled) :
    SameButSpelling (p.ask request) (q.ask respelled) := by
  cases hrequest with
  | depend hpath isPending =>
    simp only [Pass.ask, run_depend, h.location, hpath]
    exact h.addTo _
  | note htarget =>
    simp only [Pass.ask, run_note, h.location, h.store, htarget]
    exact h.addTo _
  | resolve htarget =>
    simp only [Pass.ask, run_resolve_doc]
    exact h.answerDoc htarget (h.docAnswer htarget)
  | publish => exact h.publish

/-- All requests of a run have the same outcomes and effects in other spellings: on the requests, for every
two passes that differ in spelling. -/
theorem askAll (h : SameButSpelling p q)
    (hrequests : List.Forall₂ (Request.Respells p.draft.location) requests others) :
    (p.replies requests).map outcome = (q.replies others).map outcome ∧
      SameButSpelling (p.askAll requests) (q.askAll others) := by
  induction requests generalizing p q others with
  | nil =>
    cases hrequests
    exact ⟨rfl, h⟩
  | cons request requests ih =>
    cases hrequests with
    | cons hrequest hrest =>
      rw [← location_ask p request] at hrest
      obtain ⟨hreplies, hsame⟩ := ih (h.ask hrequest) hrest
      rw [replies, replies, List.map_cons, List.map_cons, h.outcome_reply hrequest, hreplies]
      exact ⟨rfl, hsame⟩

end SameButSpelling

/-- **Spellings are interchangeable.** Let a pass be asked the same things twice over, from the same state,
in spellings that are read as the same documents. Then the same requests are refused, the same ones lead to
a reference, and that leads to the same document, url and title. In the end the drafts depend on the same,
in the same order, the stores are equal, and as many references are broken, of the same kinds and on the
same documents. -/
theorem spellings_interchangeable (p : Pass) (requests others : List Request)
    (h : List.Forall₂ (Request.Respells p.draft.location) requests others) :
    (p.replies requests).map outcome = (p.replies others).map outcome ∧
      (p.askAll requests).draft.dependencies = (p.askAll others).draft.dependencies ∧
      (p.askAll requests).store = (p.askAll others).store ∧
      (p.askAll requests).draft.brokenLinks.length = (p.askAll others).draft.brokenLinks.length ∧
      SameButSpelling (p.askAll requests) (p.askAll others) := by
  obtain ⟨hreplies, hsame⟩ := (SameButSpelling.refl p).askAll h
  have hbroken := congrArg List.length hsame.broken
  rw [List.length_map, List.length_map] at hbroken
  exact ⟨hreplies, hsame.dependencies.symm, hsame.store.symm, hbroken.symm, hsame⟩

/-- A document that is waited for, one that is there and one that is broken, and a path out of the corpus:
all in two spellings, with a publication in between. -/
theorem spellings_interchangeable_setup :
    let p : Pass := {
      draft := { file := "guide/intro" }
      store := Store.publish ∅
        { file := "guide/setup", url := "guide/setup.html", title := some "Setup" } }
    let requests : List Request := [.depend "later" true, .note "missing", .publish,
      .resolve "./setup#usage", .resolve "missing", .depend "../.." false]
    let others : List Request := [.depend "/guide/later#end" true, .note " ../guide/missing ", .publish,
      .resolve " /guide//setup", .resolve "/guide/./missing#part", .depend "../../.." false]
    List.Forall₂ (Request.Respells p.draft.location) requests others ∧
    (p.replies others).map outcome = [some none, some none, some none,
      some (some { file := "guide/setup", url := "setup.html", title := some "Setup" }), some none,
      none] ∧
    (p.askAll others).draft.dependencies = [.pending "guide/later"] ∧
    (p.askAll others).store.dependencies? "guide/intro" = some [.pending "guide/later"] ∧
    (p.askAll others).draft.brokenLinks.length = 1 := by
  intro p requests others
  have hspelled : List.Forall₂ (Request.Respells p.draft.location) requests others :=
    .cons (.depend (by decide +kernel) true) <| .cons (.note (by decide +kernel)) <| .cons .publish <|
      .cons (.resolve (by decide +kernel)) <| .cons (.resolve (by decide +kernel)) <|
      .cons (.depend (by decide +kernel) false) .nil
  obtain ⟨hreplies, hdependencies, hstore, hbroken, -⟩ :=
    spellings_interchangeable p requests others hspelled
  refine ⟨hspelled, ?_, ?_, ?_, ?_⟩
  · rw [← hreplies]
    decide +kernel
  · rw [← hdependencies]
    decide +kernel
  · rw [← hstore]
    decide +kernel
  · rw [← hbroken]
    decide +kernel

end Pass

end Crosslink
