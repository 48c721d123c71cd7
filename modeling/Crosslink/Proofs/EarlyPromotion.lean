import Crosslink.Proofs.CompileOrder
import Mathlib.Data.List.Perm.Basic

/-!
# Early promotion

A pending dependency is promoted in one of two ways: by a reference to its document that is resolved when
that one is published, or by the reconciliation in the end. A promotion leaves a dependency in its place
or takes it out, depending on what else is in the list, so it is not plain that it makes no difference
which of the two it was, and in which order. It makes none.

* `exchange_comm` : changes of the first places of two things in a list can be made in either order.
* `promote_comm` : so can promotions of two documents under their own names.
* `Store.promoteAll_promote`, `Store.reconcile_promoteDependency` : a reconciliation does over again what
  one promotion has done before it.
* `Build.reconcile_followAll` : references to documents that are resolved, by all passes of a build and in
  any order, do not show any more after a reconciliation.
-/

namespace Crosslink

open Dependency

/-! ## Promotions of different documents

A promotion changes the first place of one pending dependency: it puts a resolved one there, or nothing.
Both are instances of one change, in which some things are put in the first place of another, and such
changes commute as soon as neither brings in what the other looks for. -/

namespace Dependency

variable {d e : Dependency} {ds es deps : List Dependency} {a b : String}

/-- A list with some others in the first place of `d`. -/
def exchange (d : Dependency) (ds : List Dependency) : List Dependency → List Dependency
  | [] => []
  | c :: deps => if c = d then ds ++ deps else c :: exchange d ds deps

/-- Where a thing is not in the first part of a list, its first place is in the second. -/
theorem exchange_append_of_not_mem (h : d ∉ es) :
    exchange d ds (es ++ deps) = es ++ exchange d ds deps := by
  induction es with
  | nil => rfl
  | cons c es ih =>
    have hc : c ≠ d := by
      rintro rfl
      exact h List.mem_cons_self
    rw [List.cons_append, exchange, if_neg hc, ih fun hmem => h (List.mem_cons_of_mem _ hmem)]
    rfl

theorem exchange_of_not_mem (h : d ∉ deps) : exchange d ds deps = deps := by
  have hend : exchange d ds (deps ++ []) = deps ++ exchange d ds [] := exchange_append_of_not_mem h
  rwa [List.append_nil, exchange, List.append_nil] at hend

/-- Exchanges of different things do not get into each other's way, unless one brings in the other. -/
theorem exchange_comm (hne : d ≠ e) (hd : d ∉ es) (he : e ∉ ds) (deps : List Dependency) :
    exchange d ds (exchange e es deps) = exchange e es (exchange d ds deps) := by
  induction deps with
  | nil => rfl
  | cons c deps ih =>
    by_cases hcd : c = d
    · -- the place of `d` is the first one, so that of `e` is behind it
      subst hcd
      rw [exchange, if_neg hne, exchange, if_pos rfl, exchange, if_pos rfl,
        exchange_append_of_not_mem he]
    · by_cases hce : c = e
      · subst hce
        rw [exchange, if_pos rfl, exchange_append_of_not_mem hd, exchange, if_neg hcd, exchange,
          if_pos rfl]
      · rw [exchange, if_neg hce, exchange, if_neg hcd, ih, exchange, if_neg hcd, exchange, if_neg hce]

/-- A promotion is an exchange: with the file that the name leads to, or with nothing if that is in the
list already. -/
theorem promote_eq_exchange (key file : String) (deps : List Dependency) :
    promote key file deps =
      exchange (pending key) (if resolved file ∈ deps then [] else [resolved file]) deps := by
  by_cases h : pending key ∈ deps
  · obtain ⟨before, after, hdeps, hbefore, hpromote⟩ := promote_cases file h
    have hexchange : ∀ ds, exchange (pending key) ds deps = before ++ (ds ++ after) := by
      intro ds
      rw [hdeps, exchange_append_of_not_mem hbefore, exchange, if_pos rfl]
    rw [hpromote, hexchange]
    split <;> rfl
  · rw [promote_of_not_mem h, exchange_of_not_mem h]

/-- Two documents can be promoted under their own names in either order. -/
theorem promote_comm (a b : String) (deps : List Dependency) :
    promote a a (promote b b deps) = promote b b (promote a a deps) := by
  by_cases h : a = b
  · rw [h]
  · -- what decides between the two outcomes of a promotion is not changed by the other one
    have ha : resolved a ∈ promote b b deps ↔ resolved a ∈ deps := by
      simp [resolved_mem_promote, h]
    have hb : resolved b ∈ promote a a deps ↔ resolved b ∈ deps := by
      simp [resolved_mem_promote, Ne.symm h]
    rw [promote_eq_exchange a, promote_eq_exchange b b (promote a a deps)]
    simp only [ha, hb]
    rw [promote_eq_exchange b, promote_eq_exchange a]
    refine exchange_comm (by simpa using h) ?_ ?_ deps
    · split <;> simp
    · split <;> simp

end Dependency

/-! ## Promotions before a reconciliation

A reconciliation walks over the names that a list waits for at its beginning. If one of these has been
promoted before, the walk has a name less, and it is as if that name had come first. As promotions
commute, it does not matter that it did not. -/

namespace Store

variable {isKnown : String → Bool} {keys keys' : List String} {key : String} {deps : List Dependency}

/-- The order of the names makes no difference to what becomes of a list. -/
theorem promoteKnown_perm (h : keys.Perm keys') :
    promoteKnown isKnown keys deps = promoteKnown isKnown keys' deps := by
  refine h.foldl_eq' (fun a _ b _ deps => ?_) deps
  split
  · split
    · exact promote_comm b a deps
    · rfl
  · rfl

/-- A name that has been promoted before is no loss to a pass over all names: what the promotion did is
what the pass would have begun with. -/
theorem promoteAll_promote (hknown : isKnown key = true) :
    promoteAll isKnown (promote key key deps) = promoteAll isKnown deps := by
  by_cases h : pending key ∈ deps
  · have hfirst : (pendingPaths deps).Perm (key :: (pendingPaths deps).erase key) :=
      List.perm_cons_erase (mem_pendingPaths.mpr h)
    calc promoteAll isKnown (promote key key deps)
        = promoteKnown isKnown ((pendingPaths deps).erase key) (promote key key deps) := by
          rw [promoteAll, pendingPaths_promote]
      _ = promoteKnown isKnown (key :: (pendingPaths deps).erase key) deps := by
          rw [promoteKnown_cons, if_pos hknown]
      _ = promoteAll isKnown deps := (promoteKnown_perm hfirst).symm
  · rw [promote_of_not_mem h]

variable {store : Store}

/-- A promotion adds no document to the store and takes none away. -/
theorem contains_promoteDependency (path key file : String) :
    (store.promoteDependency path key file).2.contains = store.contains := by
  funext name
  rw [Table.contains, promoteDependency_eq, Table.get?_modify, Table.contains]
  split
  · rw [Option.isSome_map]
  · rfl

/-- A promotion of a document that is there does not show after a reconciliation. -/
theorem reconcile_promoteDependency (path : String) (hknown : store.contains key = true) :
    (store.promoteDependency path key key).2.reconcile.2 = store.reconcile.2 := by
  refine Table.ext_get? fun file => ?_
  rw [get?_reconcile, get?_reconcile, contains_promoteDependency, promoteDependency_eq, Table.get?_modify]
  split
  · rw [Option.map_map]
    refine congrArg (Option.map · _) (funext fun entry => ?_)
    simp [Entry.mapDependencies, promoteAll_promote hknown]
  · rfl

/-- What is left to wait for after a reconciliation can be told from the store that it leaves. -/
theorem stillPending_congr {other : Store} (h : store.reconcile.2 = other.reconcile.2) :
    store.reconcile.1.stillPending = other.reconcile.1.stillPending := by
  have hstore := store.reconcile_reconcile
  rw [h, other.reconcile_reconcile] at hstore
  exact (congrArg (·.1.stillPending) hstore).symm

end Store

/-! ## References to documents

A reference to a document that leads somewhere leads to a document of the store, under the very name by
which it is waited for. So what it does to the store is a promotion of a known name under itself, and a
run of such references is a run of such promotions. -/

/-- A reference to a document that a pass of a build resolves, by the standard resolver of such
references; other kinds may have resolvers of any sort. -/
structure DocReference where
  /-- the pass -/
  pass : String
  /-- its target, as written -/
  target : String
  /-- the resolvers of the pass -/
  registry : Registry := .standard
  /-- the one of references to documents is the standard one -/
  isStandard : registry.get? "doc" = some Resolver.doc := by exact Registry.standard_doc

namespace Pass

variable {p : Pass} {target : String} {registry : Registry} {reference : Reference}

/-- A reference to a document that leads somewhere leads to a document of the store, and promotes it under
its own name. -/
theorem store_resolve_doc (hfiled : p.store.Filed) (hdoc : registry.get? "doc" = some Resolver.doc)
    (h : (Call.run (resolve registry "doc" target) p).1 = .ok (some reference)) :
    ∃ key, p.store.contains key = true ∧
      (Call.run (resolve registry "doc" target) p).2.store =
        (p.store.promoteDependency p.draft.file key key).2 := by
  rw [run_resolve hdoc, Resolver.resolve_doc] at h ⊢
  have hanswer := Except.ok.inj h
  have hkey := Resolver.file_of_resolveDoc hfiled hanswer
  have hne : reference.file ≠ "" := Location.canonical?_ne_empty hkey
  have hknown : p.store.contains reference.file = true := by
    simp only [Resolver.resolveDoc, hkey] at hanswer
    obtain ⟨entry, hentry, -⟩ := Option.map_eq_some_iff.mp hanswer
    rw [Table.contains, hentry]
    rfl
  refine ⟨reference.file, hknown, ?_⟩
  rw [Location.canonical?_trim] at hkey
  -- the document is named by the key itself, so the promotion changes no name
  have hchange : p.change target (some reference) = promote reference.file reference.file := by
    funext deps
    simp only [change, hkey, answered, if_neg hne]
  simp only [hanswer, store_mapDependencies, store_takeDown, file_takeDown, hchange,
    Store.promoteDependency_eq]

end Pass

namespace Build

variable {b : Build}

/-- The pass of a build with a given name. -/
def pass? (b : Build) (name : String) : Option Pass :=
  (b.drafts.get? name).map fun draft => { draft, store := b.store, diagnostics := b.diagnostics }

/-- What a pass is answered to a reference; `none` if it is told that the reference leads nowhere. -/
def answer? (b : Build) (call : DocReference) : Option Reference :=
  (b.pass? call.pass).bind fun p =>
    match (Call.run (Pass.resolve call.registry "doc" call.target) p).1 with
    | .ok answer => answer
    | .error _ => none

/-- The build after a pass has resolved a reference. -/
def follow (b : Build) (call : DocReference) : Build :=
  match b.pass? call.pass with
  | none => b
  | some p =>
    let p := (Call.run (Pass.resolve call.registry "doc" call.target) p).2
    { drafts := b.drafts.insert call.pass p.draft, store := p.store, diagnostics := p.diagnostics }

/-- The build after some references have been resolved, one after the other. -/
def followAll (b : Build) (calls : List DocReference) : Build := calls.foldl follow b

/-- All references of a run lead somewhere, each when its turn comes. -/
def AllLead (b : Build) : List DocReference → Prop
  | [] => True
  | call :: calls => (b.answer? call).isSome ∧ (b.follow call).AllLead calls

instance instDecidableAllLead : ∀ (b : Build) (calls : List DocReference), Decidable (b.AllLead calls)
  | _, [] => .isTrue trivial
  | b, call :: calls =>
    have := instDecidableAllLead (b.follow call) calls
    inferInstanceAs (Decidable (_ ∧ _))

/-- A reference that leads somewhere promotes a document that is there, in the entry of one document. -/
theorem store_follow (hfiled : b.store.Filed) {call : DocReference} (h : (b.answer? call).isSome) :
    ∃ path key, b.store.contains key = true ∧
      (b.follow call).store = (b.store.promoteDependency path key key).2 := by
  cases hpass : b.pass? call.pass with
  | none =>
    rw [answer?, hpass] at h
    cases h
  | some p =>
    obtain ⟨reference, hreference⟩ := Option.isSome_iff_exists.mp h
    rw [answer?, hpass, Option.bind_some] at hreference
    -- what the build answers is what the pass answers that it stands for
    have hanswer : (Call.run (Pass.resolve call.registry "doc" call.target) p).1 =
        .ok (some reference) := by
      split at hreference
      · rename_i answer hanswer
        rw [hanswer, hreference]
      · cases hreference
    have hstore : p.store = b.store := by
      obtain ⟨draft, -, rfl⟩ := Option.map_eq_some_iff.mp hpass
      rfl
    rw [← hstore] at hfiled ⊢
    obtain ⟨key, hknown, hresolved⟩ := Pass.store_resolve_doc hfiled call.isStandard hanswer
    refine ⟨p.draft.file, key, hknown, ?_⟩
    rw [follow, hpass]
    exact hresolved

/-- **Early promotions do not show after a reconciliation.** Let any passes of a build resolve references
to documents in any order, and let all of them lead somewhere. A reconciliation then leaves exactly the
store that it would have left without them, every list in the same order, and the same dependencies still
wait. So two runs of such references, and one that is cut short anywhere, come to the same store. -/
theorem reconcile_followAll (b : Build) (hfiled : b.store.Filed) (calls : List DocReference)
    (h : b.AllLead calls) :
    (b.followAll calls).store.reconcile.2 = b.store.reconcile.2 ∧
      (b.followAll calls).store.reconcile.1.stillPending = b.store.reconcile.1.stillPending := by
  suffices hstore : (b.followAll calls).store.reconcile.2 = b.store.reconcile.2 from
    ⟨hstore, Store.stillPending_congr hstore⟩
  -- on the references, for every build that they can meet
  induction calls generalizing b with
  | nil => rfl
  | cons call calls ih =>
    obtain ⟨hfirst, hrest⟩ := h
    obtain ⟨path, key, hknown, hstore⟩ := store_follow hfiled hfirst
    have hfiled' : (b.follow call).store.Filed := by
      rw [hstore, Store.promoteDependency_eq]
      exact hfiled.modify _ _
    calc ((b.follow call).followAll calls).store.reconcile.2
        = (b.follow call).store.reconcile.2 := ih (b.follow call) hfiled' hrest
      _ = b.store.reconcile.2 := by
          rw [hstore, Store.reconcile_promoteDependency path hknown]

/-- Two passes that promote three waits of their documents, one of which waits for a name twice and knows
another one already. The promotions change the store, but not what a reconciliation leaves of it. -/
theorem reconcile_followAll_guide :
    let index : Draft := { file := "index" }
    let setup : Draft := { file := "guide/setup" }
    let store := Store.publish (Store.publish ∅
      { file := "index", url := "index.html"
        dependencies := [.pending "guide/setup", .pending "index", .pending "guide/setup",
          .resolved "index", .pending "missing"] })
      { file := "guide/setup", url := "guide/setup.html", dependencies := [.pending "index"] }
    let b : Build := { drafts := Table.ofList [("a", index), ("b", setup)], store }
    let calls : List DocReference := [
      { pass := "a", target := "/guide/setup" },
      { pass := "b", target := "../index#top" },
      { pass := "a", target := "index" }]
    store.Filed ∧ b.AllLead calls ∧ (b.followAll calls).store ≠ store ∧
      (b.followAll calls).store.reconcile.2 = store.reconcile.2 ∧
      store.reconcile.2.dependencies? "index" =
        some [.resolved "guide/setup", .resolved "index", .pending "missing"] := by
  intro index setup store b calls
  have hempty : Store.Filed ∅ := fun _ _ h => nomatch h
  have hfiled : store.Filed := (hempty.publish _).publish _
  have hlead : b.AllLead calls := by decide +kernel
  refine ⟨hfiled, hlead, by decide +kernel, ?_, by decide +kernel⟩
  exact (reconcile_followAll b hfiled calls hlead).1

end Build

end Crosslink
