import Crosslink.Proofs.Calls

/-!
# The two copies of a list

A document that has been published has two lists of dependencies: the one of its draft, with which it is
still compiled, and the one of its entry, from which others learn what to build again. Nothing compares
the two, and each has its own means of taking a dependency out and of promoting one. They stay equal because
both do the same to a list, whatever stands in it, and because everything that a resolution does to the one
it does to the other, be the reference settled, broken or refused, and wherever its resolver says that it
leads.

* `Store.dependencies?_dropDependency` and `Store.dependencies?_promoteDependency` : the two means agree.
* `Pass.InStep` : the published list is the one of the draft, in the same order.
* `Pass.follow` is the pass after a resolution, `Pass.passes` all the passes that a run of them goes
  through.
* `Pass.Follows` is what such a run leaves alone, the agreement of the two lists included;
  `Follows.dropDependency` and `Follows.promoteDependency` are the steps by which it changes anything.
* `Pass.copies_in_step` : a published document and its entry stay in step over every run.
-/

namespace Crosslink

/-- A reference that is to be resolved, by the resolvers that are registered at that time. -/
structure Resolution where
  /-- the resolvers -/
  registry : Registry
  /-- the kind of the reference -/
  role : String
  /-- its target, as written -/
  target : String

/-! ## The two means agree

A draft drops and promotes in its own list, the store in the entry that it has filed. Let the two lists be
equal before; then they are equal afterwards, with the same dependency changed at the same place, or left
out, or none changed at all. -/

namespace Store

variable {store : Store} {path : String} {draft : Draft}

theorem dependencies?_dropDependency (h : store.dependencies? path = some draft.dependencies)
    (d : Dependency) :
    (store.dropDependency path d).2.dependencies? path = some (draft.dropDependency d).dependencies := by
  rw [dropDependency_eq, dependencies?_modify, h, Draft.dropDependency_eq, Option.map_some]

theorem dependencies?_promoteDependency (h : store.dependencies? path = some draft.dependencies)
    (key file : String) :
    (store.promoteDependency path key file).2.dependencies? path =
      some (draft.promoteDependency key file).dependencies := by
  rw [promoteDependency_eq, dependencies?_modify, h, Draft.promoteDependency_eq, Option.map_some]

end Store

/-! ## Passes and runs

A run is followed through every pass that it goes through, and not only to its end, since others may look
at the entry at any time in between. -/

namespace Pass

variable {p q r : Pass}

/-- The pass after a resolution, whatever that comes to. -/
def follow (p : Pass) (call : Resolution) : Pass :=
  (Call.run (resolve call.registry call.role call.target) p).2

/-- The passes that a run of resolutions goes through: the one it begins with, and the one after each. -/
def passes (p : Pass) : List Resolution → List Pass
  | [] => [p]
  | call :: calls => p :: (p.follow call).passes calls

/-- The document has an entry, and the published list is the one of its draft, in the same order. -/
def InStep (p : Pass) : Prop :=
  p.store.dependencies? p.draft.file = some p.draft.dependencies

instance (p : Pass) : Decidable p.InStep :=
  inferInstanceAs (Decidable (_ = _))

/-- `q` is a later pass on the document of `p`, with entries that differ from the earlier ones in nothing
but the dependencies of this document, and with the lists in step if they were in step before. -/
structure Follows (p q : Pass) : Prop where
  /-- the document is the same -/
  file : q.draft.file = p.draft.file
  /-- all other documents have the entries that they had, or still none -/
  others : ∀ file, file ≠ p.draft.file → q.store.get? file = p.store.get? file
  /-- the entry of the document is what it was, up to the dependencies -/
  entry : ∀ entry, p.store.get? p.draft.file = some entry →
    ∃ deps, q.store.get? p.draft.file = some { entry with dependencies := deps }
  /-- the two lists have not come apart -/
  inStep : p.InStep → q.InStep

/-! ## One resolution

A resolution is refused, or it breaks its link, or it settles it. Each of these is put together from a few
steps on both lists, so it is enough to follow the lists over one step of each kind. -/

/-- What is published is in step. -/
theorem inStep_publish (p : Pass) : p.publish.InStep := by
  have hentry : p.publish.store.get? p.draft.file = some p.draft.entry := by
    rw [publish, Store.get?_publish]
    exact if_pos rfl
  exact congrArg (Option.map (·.dependencies)) hentry

/-- A dependency that is taken out of both lists leaves them in step. -/
theorem InStep.dropDependency (h : p.InStep) (d : Dependency) : (p.dropDependency d).InStep :=
  Store.dependencies?_dropDependency h d

/-- A dependency that is promoted in both lists leaves them in step, in the corpus and out of it. -/
theorem InStep.promoteDependency (h : p.InStep) (key file : String) :
    (p.promoteDependency key file).InStep := by
  rw [Pass.promoteDependency]
  split
  · exact h.dropDependency _
  · -- the draft that is promoted keeps its name, so its entry is found where it was
    rw [InStep, Draft.promoteDependency_eq]
    have hlists := Store.dependencies?_promoteDependency h key file
    rwa [Draft.promoteDependency_eq] at hlists

/-- A document that is in step publishes the dependencies that it has published already. -/
theorem InStep.dependencies?_publish (h : p.InStep) (file : String) :
    p.publish.store.dependencies? file = p.store.dependencies? file := by
  by_cases hfile : file = p.draft.file
  · subst hfile
    exact p.inStep_publish.trans h.symm
  · have hother : p.publish.store.get? file = p.store.get? file := by
      rw [publish, Store.get?_publish]
      exact if_neg hfile
    rw [Store.dependencies?, hother, Store.dependencies?]

namespace Follows

theorem refl (p : Pass) : Follows p p :=
  ⟨rfl, fun _ _ => rfl, fun entry hentry => ⟨entry.dependencies, hentry⟩, id⟩

theorem trans (h : Follows p q) (h' : Follows q r) : Follows p r := by
  refine ⟨h'.file.trans h.file, fun file hfile => ?_, fun entry hentry => ?_, h'.inStep ∘ h.inStep⟩
  · rw [h'.others file (by rwa [h.file]), h.others file hfile]
  · obtain ⟨deps, hq⟩ := h.entry entry hentry
    rw [← h.file] at hq
    obtain ⟨deps', hr⟩ := h'.entry _ hq
    exact ⟨deps', by rwa [h.file] at hr⟩

/-- A change to the dependencies of the entry follows, if it keeps the lists in step. -/
theorem of_modify {change : List Dependency → List Dependency} (hfile : q.draft.file = p.draft.file)
    (hstore : q.store = p.store.modify p.draft.file (·.mapDependencies change))
    (hstep : p.InStep → q.InStep) : Follows p q := by
  refine ⟨hfile, fun file hne => ?_, fun entry hentry => ⟨change entry.dependencies, ?_⟩, hstep⟩
  · rw [hstore, Table.get?_modify, if_neg hne]
  · rw [hstore, Table.get?_modify, if_pos rfl, hentry]
    rfl

/-- Taking a dependency out of both lists touches nothing else, and they stay in step. -/
theorem dropDependency (p : Pass) (d : Dependency) : Follows p (p.dropDependency d) :=
  .of_modify rfl (Store.dropDependency_eq ..) (·.dropDependency d)

theorem promoteDependency (p : Pass) (key file : String) :
    Follows p (p.promoteDependency key file) := by
  have hstep : p.InStep → (p.promoteDependency key file).InStep := (·.promoteDependency key file)
  by_cases hfile : file = ""
  · rw [Pass.promoteDependency, if_pos hfile]
    exact .dropDependency p _
  · have hname : (p.draft.promoteDependency key file).file = p.draft.file := by
      rw [Draft.promoteDependency_eq]
    rw [Pass.promoteDependency, if_neg hfile] at hstep ⊢
    exact .of_modify hname (Store.promoteDependency_eq ..) hstep

/-- What is taken down of a reference touches neither list. -/
theorem takeDown (p : Pass) (link : BrokenLink) (answer : Option Reference) :
    Follows p (p.takeDown link answer) := by
  refine ⟨file_takeDown, fun file _ => ?_, fun entry hentry => ⟨entry.dependencies, ?_⟩, fun h => ?_⟩
  · rw [store_takeDown]
  · rw [store_takeDown]
    exact hentry
  · rw [InStep, store_takeDown, file_takeDown, dependencies_takeDown]
    exact h

/-- A reference that leads nowhere is taken down, and its two dependencies go one after the other. -/
theorem breakLink (p : Pass) (role target : String) : Follows p (p.breakLink role target) := by
  have hdown : Follows p (p.takeDown ⟨target, role⟩ none) := .takeDown p _ _
  simp only [Pass.breakLink]
  split
  · exact hdown
  · exact hdown.trans ((dropDependency _ _).trans (dropDependency _ _))

theorem settle (p : Pass) (target file : String) : Follows p (p.settle target file) := by
  rw [Pass.settle]
  split
  · exact .refl p
  · exact .promoteDependency p _ file

/-- Whatever a resolution comes to, the pass follows. -/
theorem follow (p : Pass) (call : Resolution) : Follows p (p.follow call) := by
  rw [Pass.follow, resolve]
  cases call.registry.get? call.role with
  | none => exact .refl p
  | some resolver =>
    simp only [Call.run_bind, Call.run_get]
    cases resolver.resolve p.draft p.store (Text.trim call.target) <;>
      simp only [Call.run_bind, Call.run_set, Call.run_pure]
    case none => exact .breakLink p call.role (Text.trim call.target)
    case some reference => exact .settle p (Text.trim call.target) reference.file

/-- In step, the entry of the document holds the list of its draft. -/
theorem entry_of_inStep (h : Follows p q) (hq : q.InStep) {entry : Entry}
    (hentry : p.store.get? p.draft.file = some entry) :
    q.store.get? p.draft.file = some { entry with dependencies := q.draft.dependencies } := by
  obtain ⟨deps, hdeps⟩ := h.entry entry hentry
  have hlist : q.store.dependencies? p.draft.file = some q.draft.dependencies := by
    rw [← h.file]
    exact hq
  rw [Store.dependencies?, hdeps] at hlist
  obtain rfl : deps = q.draft.dependencies := Option.some.inj hlist
  exact hdeps

end Follows

/-! ## Runs

Along a run nothing is left but to put the steps together: what follows a pass that follows another one
follows this as well. -/

/-- Every pass of a run follows the one that the run begins with. -/
theorem follows_of_mem_passes {calls : List Resolution} (hq : q ∈ p.passes calls) : Follows p q := by
  induction calls generalizing p with
  | nil =>
    obtain rfl := List.mem_singleton.mp hq
    exact .refl q
  | cons call calls ih =>
    rcases List.mem_cons.mp hq with rfl | hq
    · exact .refl q
    · exact (Follows.follow p call).trans (ih hq)

/-- **The two copies stay in step.** Publishing puts the copies in step. From then on, let any references
be resolved, each with its own resolvers, which may lead anywhere, out of the corpus or nowhere, or be
missing. After every one of them the entry of the document holds the list of the draft and is otherwise
the entry that it was; no other entry has changed, come or gone; and publishing the document again would
change the dependencies of none. -/
theorem copies_in_step :
    (∀ p : Pass, p.publish.InStep) ∧
    ∀ (p : Pass), p.InStep → ∀ (calls : List Resolution), ∀ q ∈ p.passes calls,
      q.InStep ∧ q.draft.file = p.draft.file ∧
      (∀ entry, p.store.get? p.draft.file = some entry →
        q.store.get? p.draft.file = some { entry with dependencies := q.draft.dependencies }) ∧
      (∀ file, file ≠ p.draft.file → q.store.get? file = p.store.get? file) ∧
      ∀ file, q.publish.store.dependencies? file = q.store.dependencies? file := by
  refine ⟨inStep_publish, fun p h calls q hq => ?_⟩
  have hfollows := follows_of_mem_passes hq
  have hstep := hfollows.inStep h
  refine ⟨hstep, hfollows.file, fun entry hentry => ?_, hfollows.others, hstep.dependencies?_publish⟩
  exact hfollows.entry_of_inStep hstep hentry

/-- A run that meets all cases: a wait that is promoted in its place, one that is taken out because its
document is in the list already, one for a target out of the corpus, one for a broken reference, and a
kind of reference that has no resolver. -/
theorem copies_in_step_index :
    let terms := Registry.standard.insert "term" (Resolver.ofTable
      (Table.ofList [("setup", { file := "guide/setup" }), ("site", { url := "https://example.com" })])
      none none)
    let p : Pass := {
      draft := {
        file := "index"
        dependencies := [.pending "setup", .resolved "notes", .pending "notes", .pending "site",
          .resolved "faq", .pending "gone"] }
      store := Store.publish ∅ { file := "notes", url := "notes.html" } }
    let calls : List Resolution := [⟨terms, "term", "setup"⟩, ⟨.standard, "doc", "/notes"⟩,
      ⟨terms, "term", " site "⟩, ⟨.standard, "doc", "gone"⟩, ⟨.standard, "term", "faq"⟩]
    let q := calls.foldl follow p.publish
    let list := [.resolved "guide/setup", .resolved "notes", .resolved "faq"]
    p.publish.InStep ∧ q ∈ p.publish.passes calls ∧ q.InStep ∧ q.draft.dependencies = list ∧
      q.publish.store.dependencies? "index" = some list := by
  intro terms p calls q list
  have hstep : p.publish.InStep := copies_in_step.1 p
  have hmem : q ∈ p.publish.passes calls := by simp [q, calls, passes]
  have hlist : q.draft.dependencies = list := by decide +kernel
  obtain ⟨hq, hfile, -, -, hpublish⟩ := copies_in_step.2 p.publish hstep calls q hmem
  have hcopy : q.store.dependencies? "index" = some q.draft.dependencies := by
    rw [InStep, hfile] at hq
    exact hq
  exact ⟨hstep, hmem, hq, hlist, (hpublish "index").trans (hcopy.trans (congrArg some hlist))⟩

end Pass

end Crosslink
