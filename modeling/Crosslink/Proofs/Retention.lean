import Crosslink.Proofs.Calls

/-!
# What keeps an edge

A mentioned document has to be there in the published list of the mentioning one, or nothing is built
again when it changes. Between the mention and the publication, references of both standard kinds are
resolved, and all of them change the list by the name that their target spells, be it meant as the name
of a document or as a label. So a label that reads like the name of a document can take the document out
of the list, or put another one in its place.

* `Event` is all that can happen while a document is compiled, `Pass.run` a sequence of it.
* `Event.Spares` is the condition under which an event leaves a document in the list. It is exact.
* `mention_kept` : if all events after a mention spare the mentioned document, the entry of the
  mentioning one depends on it in the end; `mention_lost` shows that they do not always do so.
-/

namespace Crosslink

open Dependency

/-! ## Names in a list

A list is asked only whether it names a document, in either form: a reconciliation makes the one form of
the other as soon as it can, so it does not matter which it is. The one way to lose a document is the
answer to a reference that spells its name, and for that the cases are gone through here, on the list
alone. -/

namespace Dependency

variable {key other : String} {d : Dependency} {deps : List Dependency} {reference : Reference}
  {answer : Option Reference}

/-- A list of dependencies names a document, pending or resolved. -/
def Names (deps : List Dependency) (key : String) : Prop := .pending key ∈ deps ∨ .resolved key ∈ deps

theorem Names.add (h : Names deps key) (d : Dependency) : Names (Dependency.add d deps) key := by
  rcases h with hpending | hresolved
  · exact .inl (mem_add.mpr (.inr hpending))
  · exact .inr (mem_add.mpr (.inr hresolved))

/-- A dependency that is added is named, in the form that it has. -/
theorem names_add_ofPath (key : String) (isPending : Bool) (deps : List Dependency) :
    Names (Dependency.add (ofPath key isPending) deps) key := by
  cases isPending with
  | false => exact .inr (mem_add.mpr (.inl rfl))
  | true => exact .inl (mem_add.mpr (.inl rfl))

/-- What becomes of a document in a list says nothing about the others that the list names. -/
theorem Names.answered_of_ne (h : Names deps key) (hne : key ≠ other) :
    Names (Pass.answered other answer deps) key := by
  cases answer with
  | none =>
    simp only [Pass.answered, Names, mem_drop, ne_eq, pending.injEq, resolved.injEq, reduceCtorEq,
      hne, not_false_eq_true, and_true]
    exact h
  | some reference =>
    rw [Pass.answered]
    split
    · simp only [Names, mem_drop, ne_eq, pending.injEq, reduceCtorEq, hne, not_false_eq_true,
        and_true]
      exact h
    · rw [Names, pending_mem_promote_of_ne hne, resolved_mem_promote]
      exact h.imp_right .inl

/-- A reference that leads into the named document, or anywhere if the document is known already, leaves
it in the list. -/
theorem Names.answered_some (h : Names deps key) (hkey : key ≠ "")
    (hspared : reference.file = key ∨ .resolved key ∈ deps) :
    Names (Pass.answered key (some reference) deps) key := by
  rw [Pass.answered]
  split
  · rename_i hfile
    -- a reference out of the corpus leads into no document
    have hmem := hspared.resolve_left fun e => hkey (e.symm.trans hfile)
    exact .inr (mem_drop.mpr ⟨hmem, nofun⟩)
  · refine .inr (resolved_mem_promote.mpr ?_)
    rcases h with hpending | hresolved
    · rcases hspared with hfile | hresolved
      · exact .inr ⟨hfile.symm, hpending⟩
      · exact .inl hresolved
    · exact .inl hresolved

/-- A reference that leads nowhere takes the document that it spells out of the list, in both forms. -/
theorem not_names_answered_none : ¬Names (Pass.answered key none deps) key := by
  simp [Names, Pass.answered]

/-- A reference that leads elsewhere takes a document out of the list that is not known yet. -/
theorem not_names_answered_some (h : deps.Nodup) (hfile : reference.file ≠ key)
    (hresolved : .resolved key ∉ deps) : ¬Names (Pass.answered key (some reference) deps) key := by
  rw [Pass.answered]
  split
  · simp [Names, hresolved]
  · rintro (hmem | hmem)
    · exact pending_not_mem_promote h hmem
    · rcases resolved_mem_promote.mp hmem with hmem | ⟨e, -⟩
      · exact hresolved hmem
      · exact hfile e.symm

/-- A reconciliation takes no document out of a list. -/
theorem Names.promoteAll (h : Names deps key) (isKnown : String → Bool) :
    Names (Store.promoteAll isKnown deps) key := by
  rcases h with hpending | hresolved
  · cases hknown : isKnown key with
    | true => exact .inr (Store.resolved_mem_promoteAll.mpr (.inr ⟨hknown, hpending⟩))
    | false => exact .inl (Store.pending_mem_promoteAll.mpr ⟨hpending, hknown⟩)
  · exact .inr (Store.resolved_mem_promoteAll.mpr (.inl hresolved))

/-- No answer to a reference makes a list hold anything twice. -/
theorem nodup_answered (h : deps.Nodup) : (Pass.answered key answer deps).Nodup := by
  cases answer with
  | none => exact nodup_drop (nodup_drop h)
  | some reference =>
    rw [Pass.answered]
    split
    · exact nodup_drop h
    · exact nodup_promote h

/-- An empty list has nothing to change, so a document without an entry can be taken for one with an empty
list. -/
theorem answered_nil : Pass.answered key answer [] = [] := by
  cases answer with
  | none => rfl
  | some reference =>
    rw [Pass.answered]
    split
    · rfl
    · rfl

/-- Whether the answer to a reference of some kind, with a target that spells `key`, leaves `key` in a
list of dependencies: the reference has to lead somewhere, and a reference to a title or label has to lead
into the document `key` itself unless that one is known already. -/
def Spared (key role : String) (deps : List Dependency) : Except Fault (Option Reference) → Prop
  | .error _ => True
  | .ok none => False
  | .ok (some reference) => role = "ref" → reference.file = key ∨ .resolved key ∈ deps

instance (key role : String) (deps : List Dependency) :
    ∀ answer, Decidable (Spared key role deps answer)
  | .error _ => .isTrue trivial
  | .ok none => .isFalse id
  | .ok (some reference) =>
    inferInstanceAs (Decidable (role = "ref" → reference.file = key ∨ .resolved key ∈ deps))

end Dependency

/-! ## Runs

Everything that can happen to a document from its first mention on is one of a few events, and a run is a
sequence of them. Whether an event spares a document depends on the pass that it meets: on where the
reference leads then, and on what is in the list by then. So the condition on a run is one on each event
with its pass. -/

/-- What can happen while a document is compiled. -/
inductive Event where
  /-- a reference is noted -/
  | mention (role target : String)
  /-- a reference is resolved -/
  | follow (role target : String)
  /-- the document is published -/
  | publish
  /-- something else is fed to the document, that is neither its name nor a dependency -/
  | feed (edit : Draft → Draft)
    (keeps : ∀ d, (edit d).file = d.file ∧ (edit d).dependencies = d.dependencies)
  /-- another document is published -/
  | other (entry : Entry)
  /-- the store is reconciled -/
  | reconcile

/-- The two copies of the list of dependencies of a document. -/
inductive Copy where
  /-- the one that the document is compiled with -/
  | draft
  /-- the one in its entry -/
  | published
  deriving DecidableEq, Repr

namespace Pass

/-- What a resolution answers. -/
def answer (p : Pass) (role target : String) : Except Fault (Option Reference) :=
  (Call.run (resolve .standard role target) p).1

/-- The pass after an event. -/
def step (p : Pass) : Event → Pass
  | .mention role target => (Call.run (found .standard role target) p).2
  | .follow role target => (Call.run (resolve .standard role target) p).2
  | .publish => p.publish
  | .feed edit _ => { p with draft := edit p.draft }
  | .other entry => { p with store := p.store.publish entry }
  | .reconcile => { p with store := p.store.reconcile.2 }

/-- The pass after some events. -/
def run (p : Pass) (events : List Event) : Pass := events.foldl step p

/-- A condition on the events of a run, each with the pass that it meets. -/
def Along (P : Pass → Event → Prop) (p : Pass) : List Event → Prop
  | [] => True
  | e :: events => P p e ∧ Along P (p.step e) events

instance instDecidableAlong (P : Pass → Event → Prop) [∀ p e, Decidable (P p e)] :
    ∀ (p : Pass) (events : List Event), Decidable (Along P p events)
  | _, [] => .isTrue trivial
  | p, e :: events =>
    have := instDecidableAlong P (p.step e) events
    inferInstanceAs (Decidable (P p e ∧ Along P (p.step e) events))

/-- A copy of the list of dependencies; empty where the document has no entry. -/
def list (p : Pass) : Copy → List Dependency
  | .draft => p.draft.dependencies
  | .published => (p.store.dependencies? p.draft.file).getD []

end Pass

/-- An event leaves the document `key` in a copy of the list. -/
def Event.Spares (key : String) (copy : Copy) (p : Pass) : Event → Prop
  | .follow role target =>
    p.draft.location.canonical? target = some key →
      Spared key role (p.list copy) (p.answer role target)
  | _ => True

instance (key : String) (copy : Copy) (p : Pass) : ∀ e : Event, Decidable (e.Spares key copy p)
  | .follow role target =>
    inferInstanceAs (Decidable (p.draft.location.canonical? target = some key →
      Spared key role (p.list copy) (p.answer role target)))
  | .mention .. | .publish | .feed .. | .other _ | .reconcile => .isTrue trivial

/-! ## What one event does

A mention and a resolution are brought down to their equations: what is refused changes nothing, and of a
resolution that is answered only the answer matters. No event moves the document or files an entry under a
wrong name. -/

/-- Links are read from the name of the document alone. -/
theorem Location.canonical?_of_file {loc loc' : Location} (h : loc.file = loc'.file) (link : String) :
    loc.canonical? link = loc'.canonical? link := by
  simp only [canonical?, joined, directory, h]

namespace Pass

variable {p : Pass} {e : Event} {events : List Event} {copy : Copy} {role target key : String}

/-- A note of a reference to a document mentions the document. -/
theorem step_mention_doc : p.step (.mention "doc" target) = p.mention target := by
  rw [step, run_found_doc]

/-- A note of a reference is reported, or without consequence, or it is one of a document. -/
theorem run_found_cases (p : Pass) (role target : String) :
    (∃ diagnostic, (Call.run (found .standard role target) p).2 = p.report diagnostic) ∨
      (Call.run (found .standard role target) p).2 = p ∨
      role = "doc" ∧ (Call.run (found .standard role target) p).2 = p.mention target := by
  by_cases hdoc : role = "doc"
  · subst hdoc
    exact .inr (.inr ⟨rfl, step_mention_doc⟩)
  · by_cases href : role = "ref"
    · subst href
      exact .inr (.inl (by rw [run_found_ref]))
    · exact .inl ⟨_, by rw [run_found_of_none (Registry.standard_of_ne hdoc href)]⟩

/-- A registered kind of reference is answered by its resolver, and never refused. -/
theorem answer_of_resolver {resolver : Resolver} (h : Registry.standard.get? role = some resolver) :
    p.answer role target = .ok (resolver.resolve p.draft p.store (Text.trim target)) := by
  rw [answer, run_resolve h]

/-- A resolution is refused for its kind and changes nothing, or its answer says what becomes of both
copies of the list. -/
theorem run_resolve_cases (p : Pass) (role target : String) :
    (∃ fault, p.answer role target = .error fault ∧
      (Call.run (resolve .standard role target) p).2 = p) ∨
      ∃ answer, p.answer role target = .ok answer ∧
        (Call.run (resolve .standard role target) p).2 =
          (p.takeDown ⟨Text.trim target, role⟩ answer).mapDependencies (p.change target answer) := by
  cases h : Registry.standard.get? role with
  | none => exact .inl ⟨_, by rw [answer, run_resolve_of_none h], by rw [run_resolve_of_none h]⟩
  | some resolver => exact .inr ⟨_, answer_of_resolver h, by rw [run_resolve h]⟩

/-- Only the two standard kinds of reference are answered. -/
theorem role_of_answer {answer : Option Reference} (h : p.answer role target = .ok answer) :
    role = "doc" ∨ role = "ref" := by
  by_contra hrole
  obtain ⟨hdoc, href⟩ := not_or.mp hrole
  rw [Pass.answer, run_resolve_of_none (Registry.standard_of_ne hdoc href)] at h
  cases h

/-- A reference to a document that leads somewhere leads into the document that its target spells. -/
theorem file_of_answer_doc {reference : Reference} (hfiled : p.store.Filed)
    (h : p.answer "doc" target = .ok (some reference)) :
    p.draft.location.canonical? target = some reference.file := by
  rw [answer_of_resolver Registry.standard_doc, Resolver.resolve_doc, Except.ok.injEq] at h
  rw [← Location.canonical?_trim]
  exact Resolver.file_of_resolveDoc hfiled h

theorem file_step (p : Pass) (e : Event) : (p.step e).draft.file = p.draft.file := by
  cases e with
  | mention role target =>
    obtain ⟨_, h⟩ | h | ⟨-, h⟩ := p.run_found_cases role target
    all_goals rw [step, h]
    · rfl
    · exact file_mention
  | follow role target =>
    obtain ⟨_, -, h⟩ | ⟨answer, -, h⟩ := p.run_resolve_cases role target
    · rw [step, h]
    · rw [step, h, file_mapDependencies, file_takeDown]
  | publish => rfl
  | feed edit keeps => exact (keeps p.draft).1
  | other entry => rfl
  | reconcile => rfl

theorem filed_step (h : p.store.Filed) (e : Event) : (p.step e).store.Filed := by
  cases e with
  | mention role target =>
    obtain ⟨_, hfound⟩ | hfound | ⟨-, hfound⟩ := p.run_found_cases role target
    all_goals rw [step, hfound]
    · exact h
    · exact h
    · rw [store_mention]
      exact h
  | follow role target =>
    obtain ⟨_, -, hresolve⟩ | ⟨answer, -, hresolve⟩ := p.run_resolve_cases role target
    · rw [step, hresolve]
      exact h
    · rw [step, hresolve, store_mapDependencies, store_takeDown]
      exact h.modify _ _
  -- an entry comes in under its own name, whoever publishes it
  | publish => exact h.publish _
  | feed edit keeps => exact h
  | other entry => exact h.publish _
  | reconcile => exact h.reconcile

/-! ## What one event does to the lists

Both copies of the list are followed at once, and each event is said by what it makes of a copy. Only a
publication lets one copy depend on the other, and only a reconciliation changes the published one alone. -/

theorem list_draft (p : Pass) : p.list .draft = p.draft.dependencies := rfl

theorem list_published (p : Pass) :
    p.list .published = ((p.store.get? p.draft.file).map (·.dependencies)).getD [] := rfl

/-- A change to both copies changes each, where it leaves the empty list empty. -/
theorem list_mapDependencies {f : List Dependency → List Dependency} (h : f [] = []) :
    (p.mapDependencies f).list copy = f (p.list copy) := by
  cases copy with
  | draft => rfl
  | published =>
    rw [list, list, file_mapDependencies, store_mapDependencies, Store.dependencies?_modify]
    cases p.store.dependencies? p.draft.file with
    | none => exact h.symm
    | some deps => rfl

/-- What is taken down of a reference is in neither copy. -/
theorem list_takeDown {link : BrokenLink} {answer : Option Reference} :
    (p.takeDown link answer).list copy = p.list copy := by
  cases copy with
  | draft => exact dependencies_takeDown
  | published => rw [list_published, store_takeDown, file_takeDown, list_published]

theorem change_nil (answer : Option Reference) : p.change target answer [] = [] := by
  rw [change]
  cases p.draft.location.canonical? target with
  | none => rfl
  | some key => exact answered_nil

/-- The answer to a reference changes both copies of the list alike. -/
theorem list_follow (answer : Option Reference) (link : BrokenLink) :
    ((p.takeDown link answer).mapDependencies (p.change target answer)).list copy =
      p.change target answer (p.list copy) := by
  rw [list_mapDependencies (change_nil answer), list_takeDown]

/-- What an answer changes goes by the name that the target spells. -/
theorem change_of_key (h : p.draft.location.canonical? target = some key) :
    p.change target = answered key := by
  funext answer
  rw [change, h]

/-- An answer that spares a document leaves it in the list, whatever name the reference spells. -/
theorem names_change {answer : Option Reference} (hfiled : p.store.Filed) (hkey : key ≠ "")
    (h : Names (p.list copy) key) (hanswer : p.answer role target = .ok answer)
    (hspares : (Event.follow role target).Spares key copy p) :
    Names (p.change target answer (p.list copy)) key := by
  cases htarget : p.draft.location.canonical? target with
  | none =>
    rw [change, htarget]
    exact h
  | some other =>
    rw [change_of_key htarget]
    by_cases hother : key = other
    · subst hother
      have hspared := hspares htarget
      rw [hanswer] at hspared
      cases answer with
      | none => exact absurd hspared id
      | some reference =>
        refine h.answered_some hkey ?_
        rcases role_of_answer hanswer with rfl | rfl
        · -- a reference to a document leads into the one that its target spells
          have hfile := file_of_answer_doc hfiled hanswer
          rw [htarget, Option.some.injEq] at hfile
          exact .inl hfile.symm
        · exact hspared rfl
    · exact h.answered_of_ne hother

theorem list_mention :
    (p.mention target).list copy = p.list copy ∨
      ∃ d, (p.mention target).list copy = add d (p.list copy) := by
  cases copy with
  | draft =>
    rw [list_draft, list_draft, mention]
    cases p.draft.location.canonical? target with
    | none => exact .inl rfl
    | some key => exact .inr ⟨_, rfl⟩
  | published => exact .inl (by rw [list_published, store_mention, file_mention, list_published])

theorem list_publish : p.publish.list .published = p.list .draft := by
  have hfile : p.publish.draft.file = p.draft.entry.file := rfl
  rw [list_published, hfile, publish, Store.get?_publish, if_pos rfl]
  rfl

theorem list_reconcile :
    (p.step .reconcile).list .published =
      Store.promoteAll p.store.contains (p.list .published) := by
  rw [list_published, step, Store.get?_reconcile, list_published]
  cases p.store.get? p.draft.file with
  | none => rfl
  | some entry => rfl

/-- All that an event can make of a copy of the list: nothing, a dependency more, what the answer to a
reference asks for, a copy of the draft, or what a reconciliation leaves. -/
theorem list_step_cases (copy : Copy)
    (hother : ∀ entry, e = .other entry → entry.file ≠ p.draft.file) :
    (p.step e).list copy = p.list copy ∨
      (∃ d, (p.step e).list copy = add d (p.list copy)) ∨
      (∃ role target answer, e = .follow role target ∧ p.answer role target = .ok answer ∧
        (p.step e).list copy = p.change target answer (p.list copy)) ∨
      (e = .publish ∧ copy = .published ∧ (p.step e).list copy = p.list .draft) ∨
      (p.step e).list copy = Store.promoteAll p.store.contains (p.list copy) := by
  cases e with
  | mention role target =>
    obtain ⟨_, hfound⟩ | hfound | ⟨-, hfound⟩ := p.run_found_cases role target
    all_goals rw [step, hfound]
    · cases copy <;> exact .inl rfl
    · exact .inl rfl
    · exact list_mention.imp_right .inl
  | follow role target =>
    obtain ⟨_, -, hresolve⟩ | ⟨answer, hanswer, hresolve⟩ := p.run_resolve_cases role target
    · exact .inl (by rw [step, hresolve])
    · refine .inr (.inr (.inl ⟨role, target, answer, rfl, hanswer, ?_⟩))
      rw [step, hresolve, list_follow]
  -- a publication copies the list of the draft, which itself stays
  | publish =>
    cases copy with
    | draft => exact .inl rfl
    | published => exact .inr (.inr (.inr (.inl ⟨rfl, rfl, list_publish⟩)))
  | feed edit keeps =>
    obtain ⟨hfile, hdependencies⟩ := keeps p.draft
    cases copy with
    | draft => exact .inl hdependencies
    | published => exact .inl (by rw [list_published, step, hfile, list_published])
  -- what others publish goes under other names
  | other entry =>
    cases copy with
    | draft => exact .inl rfl
    | published =>
      have hne := (hother entry rfl).symm
      refine .inl ?_
      rw [list_published, step, Store.get?_publish, if_neg hne, list_published]
  | reconcile =>
    cases copy with
    | draft => exact .inl rfl
    | published => exact .inr (.inr (.inr (.inr list_reconcile)))

/-- An event that spares a document leaves it in the list, unless the list is the published one and is
published anew. -/
theorem names_step (hfiled : p.store.Filed) (hkey : key ≠ "") (h : Names (p.list copy) key)
    (hspares : e.Spares key copy p) (hpublish : copy = .published → e ≠ .publish)
    (hother : ∀ entry, e = .other entry → entry.file ≠ p.draft.file) :
    Names ((p.step e).list copy) key := by
  obtain hlist | ⟨d, hlist⟩ | ⟨role, target, answer, rfl, hanswer, hlist⟩ | ⟨rfl, rfl, -⟩ | hlist :=
    list_step_cases copy hother
  · rw [hlist]
    exact h
  · rw [hlist]
    exact h.add d
  · rw [hlist]
    exact names_change hfiled hkey h hanswer hspares
  · exact absurd rfl (hpublish rfl)
  · rw [hlist]
    exact h.promoteAll _

/-- No event makes a copy hold anything twice, entries that others file aside. -/
theorem nodup_step (h : ∀ copy, (p.list copy).Nodup)
    (hother : ∀ entry, e = .other entry → entry.file ≠ p.draft.file) (copy : Copy) :
    ((p.step e).list copy).Nodup := by
  obtain hlist | ⟨d, hlist⟩ | ⟨role, target, answer, -, -, hlist⟩ | ⟨-, -, hlist⟩ | hlist :=
    list_step_cases copy hother
  all_goals rw [hlist]
  · exact h copy
  · exact nodup_add (h copy)
  · rw [change]
    cases p.draft.location.canonical? target with
    | none => exact h copy
    | some key => exact nodup_answered (h copy)
  · exact h .draft
  · exact Store.nodup_promoteKnown (h copy)

/-- An event that does not spare a document takes it out of a list without duplicates. -/
theorem not_names_step (hnodup : (p.list copy).Nodup) (h : ¬e.Spares key copy p) :
    ¬Names ((p.step e).list copy) key := by
  cases e with
  | follow role target =>
    obtain ⟨htarget, hspared⟩ := Classical.not_imp.mp h
    obtain ⟨_, hanswer, -⟩ | ⟨answer, hanswer, hresolve⟩ := p.run_resolve_cases role target
    all_goals rw [hanswer] at hspared
    · exact absurd trivial hspared
    · rw [step, hresolve, list_follow, change_of_key htarget]
      cases answer with
      | none => exact not_names_answered_none
      | some reference =>
        obtain ⟨-, hleads⟩ := Classical.not_imp.mp hspared
        obtain ⟨hfile, hresolved⟩ := not_or.mp hleads
        exact not_names_answered_some hnodup hfile hresolved
  | _ => exact absurd trivial h

/-! ## Runs

The step lemmas carried along a run, by induction on its events, for every pass that they can meet. The
run is cut at the last publication: what comes before has to spare the document in the draft, what comes
after in the entry. -/

theorem run_cons (p : Pass) (e : Event) (events : List Event) :
    p.run (e :: events) = (p.step e).run events := rfl

theorem file_run (p : Pass) (events : List Event) : (p.run events).draft.file = p.draft.file := by
  induction events generalizing p with
  | nil => rfl
  | cons e events ih => rw [run_cons, ih, file_step]

/-- Over a run the entries stay filed under their own names. -/
theorem filed_run (h : p.store.Filed) (events : List Event) : (p.run events).store.Filed := by
  induction events generalizing p with
  | nil => exact h
  | cons e events ih => exact ih (filed_step h e)

/-- A document stays in a list over all events that spare it. -/
theorem names_run (hfiled : p.store.Filed) (hkey : key ≠ "") (h : Names (p.list copy) key)
    (hspares : Along (Event.Spares key copy) p events) (hpublish : copy = .published → .publish ∉ events)
    (hother : ∀ entry, .other entry ∈ events → entry.file ≠ p.draft.file) :
    Names ((p.run events).list copy) key := by
  -- on the events, for every pass that they can meet; the three side conditions are handed on
  induction events generalizing p with
  | nil => exact h
  | cons e events ih =>
    obtain ⟨hfirst, hrest⟩ := hspares
    have hstep : Names ((p.step e).list copy) key := by
      refine names_step hfiled hkey h hfirst (fun hcopy he => ?_) fun entry he => ?_
      · exact hpublish hcopy (he ▸ List.mem_cons_self)
      · exact hother entry (he ▸ List.mem_cons_self)
    refine ih (filed_step hfiled e) hstep hrest (fun hcopy hmem => ?_) fun entry hmem => ?_
    · exact hpublish hcopy (List.mem_cons_of_mem _ hmem)
    · rw [file_step]
      exact hother entry (List.mem_cons_of_mem _ hmem)

theorem nodup_run (h : ∀ copy, (p.list copy).Nodup)
    (hother : ∀ entry, .other entry ∈ events → entry.file ≠ p.draft.file) (copy : Copy) :
    ((p.run events).list copy).Nodup := by
  induction events generalizing p with
  | nil => exact h copy
  | cons e events ih =>
    refine ih (nodup_step h fun entry he => ?_) fun entry hmem => ?_
    · exact hother entry (he ▸ List.mem_cons_self)
    · rw [file_step]
      exact hother entry (List.mem_cons_of_mem _ hmem)

/-- A mention puts the document into the list of the draft. -/
theorem names_mention (h : p.draft.location.canonical? target = some key) :
    Names ((p.mention target).list .draft) key := by
  rw [list_draft, mention, h]
  exact names_add_ofPath ..

/-- A document that the draft names is named by the entry, if all that happens before the last
publication spares it in the draft and all that happens later spares it in the entry. -/
theorem names_publication {during after : List Event} (hfiled : p.store.Filed) (hkey : key ≠ "")
    (h : Names (p.list .draft) key) (hduring : Along (Event.Spares key .draft) p during)
    (hafter : Along (Event.Spares key .published) ((p.run during).step .publish) after)
    (hother : ∀ entry, .other entry ∈ during ++ after → entry.file ≠ p.draft.file)
    (hlast : .publish ∉ after) :
    Names ((((p.run during).step .publish).run after).list .published) key := by
  have hdraft : Names ((p.run during).list .draft) key := by
    refine names_run hfiled hkey h hduring nofun fun entry hmem => ?_
    exact hother entry (List.mem_append_left _ hmem)
  have hentry : Names (((p.run during).step .publish).list .published) key := by
    rw [step, list_publish]
    exact hdraft
  have hfiled' : ((p.run during).step .publish).store.Filed :=
    filed_step (filed_run hfiled during) .publish
  refine names_run hfiled' hkey hentry hafter (fun _ => hlast) fun entry hmem => ?_
  rw [file_step, file_run]
  exact hother entry (List.mem_append_right _ hmem)

/-- A document with an entry that names another one depends on it after a reconciliation, if there is
such a document then. -/
theorem holds_reconcile (h : Names (p.list .published) key) (hknown : p.store.contains key = true) :
    p.store.reconcile.2.Holds p.draft.file (.resolved key) := by
  cases hentry : p.store.get? p.draft.file with
  | none =>
    rw [list_published, hentry] at h
    simp [Names] at h
  | some entry =>
    have hreconciled : p.store.reconcile.2.get? p.draft.file =
        some (entry.mapDependencies (Store.promoteAll p.store.contains)) := by
      rw [Store.get?_reconcile, hentry]
      rfl
    rw [list_published, hentry] at h
    rw [Store.holds_iff hreconciled]
    refine Store.resolved_mem_promoteAll.mpr ?_
    exact h.symm.imp_right fun hpending => ⟨hknown, hpending⟩

/-- **A mentioned document is kept by all that spares it.** Let a document be mentioned in a run, let
`during` be what happens until the mentioning document is published for the last time, and `after` what
happens then. If all of it spares the mentioned document, in the draft before the publication and in the
entry after it, then the entry depends on that document as soon as there is one and the store is
reconciled. The condition is exact: in a run that begins with lists without duplicates, what does not
spare a document takes it out of the list. -/
theorem mention_kept (p : Pass) (hfiled : p.store.Filed) (before during after : List Event)
    (target key : String) (hkey : p.draft.location.canonical? target = some key)
    (hother : ∀ entry, .other entry ∈ before ++ during ++ after → entry.file ≠ p.draft.file)
    (hlast : .publish ∉ after) :
    let noted := (p.run before).step (.mention "doc" target)
    let published := (noted.run during).step .publish
    let final := (published.run after).store
    (Along (Event.Spares key .draft) noted during →
      Along (Event.Spares key .published) published after →
      final.contains key = true → final.reconcile.2.Holds p.draft.file (.resolved key)) ∧
    ((∀ copy, (p.list copy).Nodup) →
      ∀ events, (∀ entry, .other entry ∈ events → entry.file ≠ p.draft.file) →
        ∀ e copy, ¬e.Spares key copy (p.run events) →
          ¬Names (((p.run events).step e).list copy) key) := by
  intro noted published final
  have hne : key ≠ "" := Location.canonical?_ne_empty hkey
  constructor
  · intro hduring hafter hknown
    have hstart : noted = (p.run before).mention target := step_mention_doc
    -- the draft names what it has just mentioned, and `during` spares the name until it is published
    have hmentioned : Names (noted.list .draft) key := by
      rw [hstart]
      refine names_mention ?_
      rw [← hkey]
      exact Location.canonical?_of_file (file_run p before) target
    have hfile : noted.draft.file = p.draft.file := by
      rw [hstart, file_mention, file_run]
    have hnoted : noted.store.Filed := filed_step (filed_run hfiled before) _
    have hfinal : Names ((published.run after).list .published) key := by
      refine names_publication hnoted hne hmentioned hduring hafter (fun entry hmem => ?_) hlast
      rw [hfile]
      rw [List.append_assoc] at hother
      exact hother entry (List.mem_append_right _ hmem)
    have hfile' : (published.run after).draft.file = p.draft.file := by
      rw [file_run, file_step, file_run, hfile]
    -- what the entry names is resolved by the reconciliation, if it is a document by then
    rw [← hfile']
    exact holds_reconcile hfinal hknown
  · intro hnodup events hevents e copy hspares
    exact not_names_step (nodup_run hnodup hevents copy) hspares

/-- A run in which a reference to a label of another document, that reads like the mentioned document,
is resolved when that one is known already. -/
theorem mention_kept_setup :
    let p : Pass := { draft := { file := "index" } }
    let setup : Entry := { file := "setup", url := "setup.html" }
    let notes : Entry := { file := "notes", url := "notes.html", anchors := ["setup"] }
    let during := [.other setup, .follow "doc" "setup", .other notes]
    let after := [.follow "ref" "setup"]
    let published := ((p.step (.mention "doc" "setup")).run during).step .publish
    p.store.Filed ∧ p.draft.location.canonical? "setup" = some "setup" ∧
    (∀ entry, .other entry ∈ [] ++ during ++ after → entry.file ≠ p.draft.file) ∧
    .publish ∉ after ∧
    Along (Event.Spares "setup" .draft) (p.step (.mention "doc" "setup")) during ∧
    Along (Event.Spares "setup" .published) published after ∧
    (published.run after).store.contains "setup" = true ∧
    (published.run after).store.reconcile.2.Holds "index" (.resolved "setup") ∧
    ¬Names (((p.step (.mention "doc" "setup")).step (.follow "ref" "setup")).list .draft) "setup" := by
  intro p setup notes during after published
  have hfiled : p.store.Filed := fun _ _ h => nomatch h
  have hkey : p.draft.location.canonical? "setup" = some "setup" := by decide +kernel
  have hother : ∀ entry, .other entry ∈ [] ++ during ++ after → entry.file ≠ p.draft.file := by
    simp [during, after, p, setup, notes]
  have hlast : .publish ∉ after := by simp [after]
  have hduring : Along (Event.Spares "setup" .draft) (p.step (.mention "doc" "setup")) during := by
    decide +kernel
  have hafter : Along (Event.Spares "setup" .published) published after := by decide +kernel
  have hknown : (published.run after).store.contains "setup" = true := by decide +kernel
  obtain ⟨hkept, hexact⟩ := mention_kept p hfiled [] during after "setup" "setup" hkey hother hlast
  refine ⟨hfiled, hkey, hother, hlast, hduring, hafter, hknown, hkept hduring hafter hknown, ?_⟩
  refine hexact (fun copy => ?_) [.mention "doc" "setup"] (fun _ h => ?_) (.follow "ref" "setup")
    .draft ?_
  · cases copy <;> exact List.nodup_nil
  · simp at h
  · decide +kernel

/-- A reference to a label can take the mentioned document out of the list, because there is no such
label or because another document defines it, though no reference to a document is resolved at all. -/
theorem mention_lost :
    let p : Pass := { draft := { file := "index" } }
    let setup : Entry := { file := "setup", url := "setup.html" }
    let notes : Entry := { file := "notes", url := "notes.html", anchors := ["setup"] }
    let broken := p.run [.mention "doc" "setup", .follow "ref" "setup", .publish, .other setup]
    let elsewhere := p.run
      [.mention "doc" "setup", .other notes, .follow "ref" "setup", .publish, .other setup]
    p.draft.location.canonical? "setup" = some "setup" ∧
    (broken.store.contains "setup" = true ∧
      ¬broken.store.reconcile.2.Holds "index" (.resolved "setup")) ∧
    (elsewhere.store.contains "setup" = true ∧
      ¬elsewhere.store.reconcile.2.Holds "index" (.resolved "setup")) := by
  decide +kernel

end Pass

end Crosslink
