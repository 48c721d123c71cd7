import Crosslink.Proofs.Promotion
import Crosslink.Store
import Mathlib.Data.List.Basic

/-!
# Reconciliation

After every document has been published once, `Store.reconcile` promotes each pending dependency whose
name is a document by now. The pass walks over the names that an entry was waiting for at its beginning
and changes the entry's list under way, so its laws are proved for any list of names, by induction on
that list, before they are read off for the whole store.

* `Dependency.Reconciled` says what becomes of the dependencies of one document.
* `reconcile_exact` : a reconciliation makes of every entry exactly that, its report is complete, and a
  second reconciliation changes nothing.
-/

namespace Crosslink

namespace Dependency

/-! ## The specification

What a reconciliation should make of a list is said of the whole list at once, and not name by name: what
is pending on a document is resolved in its place, or left out where the list has the resolved one
already. -/

/-- What becomes of a dependency in a list without duplicates when every pending one on a known name is
promoted; `none` where it is left out, because the list holds the resolved one already. -/
def reconciled? (isKnown : String → Bool) (deps : List Dependency) : Dependency → Option Dependency
  | resolved path => some (resolved path)
  | pending key =>
    if isKnown key then if resolved key ∈ deps then none else some (resolved key)
    else some (pending key)

/-- What a reconciliation makes of the dependencies `old` of one document, given which names are
documents. -/
structure Reconciled (isKnown : String → Bool) (old new : List Dependency) : Prop where
  /-- nothing is pending on a document -/
  settled : ∀ key, isKnown key → pending key ∉ new
  /-- what was pending on a document is resolved -/
  promoted : ∀ key, isKnown key → pending key ∈ old → resolved key ∈ new
  /-- everything else is still there, in order and as often as it was -/
  kept : (old.filter fun d => !(d.isPending && isKnown d.path)).Sublist new
  /-- nothing has come in from elsewhere -/
  sound : ∀ d ∈ new, d ∈ old ∨ ∃ key, isKnown key ∧ pending key ∈ old ∧ d = resolved key
  /-- a list without duplicates is changed in place, and has no duplicates afterwards -/
  inPlace : old.Nodup → new = old.filterMap (reconciled? isKnown old) ∧ new.Nodup

end Dependency

namespace Store

open Dependency

variable {isKnown : String → Bool} {keys : List String} {key path : String} {deps : List Dependency}

/-! ## The pass over a list of names

The names are fixed before the first of them is promoted. That one is promoted never adds a wait for
another, so each can be treated as it comes; what must be carried along is which waits are over and which
files have come in. -/

/-- A list of dependencies with each of the given names promoted that is a document. -/
def promoteKnown (isKnown : String → Bool) (keys : List String) (deps : List Dependency) :
    List Dependency :=
  keys.foldl (fun deps key => if isKnown key then promote key key deps else deps) deps

theorem promoteKnown_cons :
    promoteKnown isKnown (key :: keys) deps =
      promoteKnown isKnown keys (if isKnown key then promote key key deps else deps) := rfl

/-- Each known name on the way ends one wait for it. -/
theorem pendingPaths_promoteKnown :
    pendingPaths (promoteKnown isKnown keys deps) =
      (pendingPaths deps).diff (keys.filter isKnown) := by
  induction keys generalizing deps with
  | nil => rfl
  | cons key keys ih =>
    rw [promoteKnown_cons, ih]
    by_cases h : isKnown key
    · rw [if_pos h, List.filter_cons_of_pos h, pendingPaths_promote, List.diff_cons]
    · rw [if_neg h, List.filter_cons_of_neg h]

/-- A known document is in the list afterwards if it was before, or if it is one of the names and was
waited for. -/
theorem resolved_mem_promoteKnown :
    resolved path ∈ promoteKnown isKnown keys deps ↔
      resolved path ∈ deps ∨ path ∈ keys ∧ isKnown path ∧ pending path ∈ deps := by
  induction keys generalizing deps with
  | nil => simp [promoteKnown]
  | cons key keys ih =>
    rw [promoteKnown_cons, ih]
    by_cases h : isKnown key
    · rw [if_pos h, resolved_mem_promote]
      by_cases hpath : path = key
      · -- the wait for `path` itself ends here, and the rest of the pass adds nothing to that
        subst hpath
        have hsub : pending path ∈ promote path path deps → pending path ∈ deps := by
          rw [← mem_pendingPaths, ← mem_pendingPaths, pendingPaths_promote]
          exact List.mem_of_mem_erase
        simp only [List.mem_cons, true_or, true_and, h]
        constructor
        · rintro (hmem | ⟨-, hmem⟩)
          · exact hmem
          · exact .inr (hsub hmem)
        · exact .inl
      · rw [pending_mem_promote_of_ne hpath]
        simp [hpath]
    · rw [if_neg h]
      constructor
      · rintro (hmem | ⟨hmem, hknown, hpending⟩)
        · exact .inl hmem
        · exact .inr ⟨List.mem_cons_of_mem _ hmem, hknown, hpending⟩
      · rintro (hmem | ⟨hmem, hknown, hpending⟩)
        · exact .inl hmem
        · rcases List.mem_cons.mp hmem with rfl | hmem
          · exact absurd hknown h
          · exact .inr ⟨hmem, hknown, hpending⟩

/-- What is not pending on a known name is kept, in order. -/
theorem filter_sublist_promoteKnown {keep : Dependency → Bool}
    (h : ∀ key, isKnown key → keep (pending key) = false) :
    (deps.filter keep).Sublist (promoteKnown isKnown keys deps) := by
  induction keys generalizing deps with
  | nil => exact List.filter_sublist
  | cons key keys ih =>
    rw [promoteKnown_cons]
    by_cases hkey : isKnown key
    · rw [if_pos hkey]
      have hpromote : (deps.filter keep).Sublist (promote key key deps) :=
        filter_sublist_promote (h key hkey)
      have hstep := hpromote.filter keep
      rw [List.filter_filter] at hstep
      simp only [Bool.and_self] at hstep
      exact hstep.trans ih
    · rw [if_neg hkey]
      exact ih

theorem nodup_promoteKnown (h : deps.Nodup) : (promoteKnown isKnown keys deps).Nodup := by
  induction keys generalizing deps with
  | nil => exact h
  | cons key keys ih =>
    rw [promoteKnown_cons]
    split
    · exact ih (nodup_promote h)
    · exact ih h

/-- One promotion of a known name leaves the outcome for the list as it was. -/
theorem filterMap_reconciled?_promote (hknown : isKnown key) (h : deps.Nodup) :
    (promote key key deps).filterMap (reconciled? isKnown (promote key key deps)) =
      deps.filterMap (reconciled? isKnown deps) := by
  have hlist : (promote key key deps).filterMap (reconciled? isKnown (promote key key deps)) =
      (deps.filterMap (promoted? key key deps)).filterMap
        (reconciled? isKnown (promote key key deps)) := by
    rw [← promote_eq_filterMap h]
  rw [hlist, List.filterMap_filterMap]
  refine List.filterMap_congr fun d hd => ?_
  cases d with
  | resolved path => simp [promoted?, reconciled?]
  | pending path =>
    by_cases hpath : path = key
    · subst hpath
      by_cases hres : resolved path ∈ deps <;> simp [promoted?, reconciled?, hknown, hres]
    · have hres : resolved path ∈ promote key key deps ↔ resolved path ∈ deps := by
        simp [resolved_mem_promote, hpath]
      simp [promoted?, reconciled?, hpath, hres]

/-- In a list without duplicates, a pass over all the known names it waits for comes to the outcome of
each dependency at its place. The invariant: the names that are still to come are enough. -/
theorem promoteKnown_eq_filterMap (h : deps.Nodup)
    (hkeys : ∀ key, isKnown key → pending key ∈ deps → key ∈ keys) :
    promoteKnown isKnown keys deps = deps.filterMap (reconciled? isKnown deps) := by
  -- on the keys; a promotion takes its name off what the other keys have to cover
  induction keys generalizing deps with
  | nil =>
    have hsame : ∀ d ∈ deps, reconciled? isKnown deps d = some d := by
      intro d hd
      cases d with
      | resolved path => rfl
      | pending key =>
        have hunknown : isKnown key ≠ true := by
          intro hknown
          exact List.not_mem_nil (hkeys key hknown hd)
        simp [reconciled?, hunknown]
    rw [List.filterMap_congr hsame, List.filterMap_some]
    rfl
  | cons key keys ih =>
    rw [promoteKnown_cons]
    by_cases hkey : isKnown key
    · rw [if_pos hkey, ih (nodup_promote h), filterMap_reconciled?_promote hkey h]
      intro path hpath hmem
      have hne : path ≠ key := by
        rintro rfl
        exact pending_not_mem_promote h hmem
      have hold := (pending_mem_promote_of_ne hne).mp hmem
      exact (List.mem_cons.mp (hkeys path hpath hold)).resolve_left hne
    · rw [if_neg hkey]
      refine ih h fun path hpath hmem => ?_
      rcases List.mem_cons.mp (hkeys path hpath hmem) with rfl | htodo
      · exact absurd hpath hkey
      · exact htodo

/-- An entry is changed name by name in the same way. -/
theorem promoteEach_eq (isKnown : String → Bool) (keys : List String) (entry : Entry) :
    promoteEach isKnown keys entry = entry.mapDependencies (promoteKnown isKnown keys) := by
  induction keys generalizing entry with
  | nil => rfl
  | cons key keys ih =>
    rw [promoteEach, List.foldl_cons, ← promoteEach, ih]
    simp only [Entry.mapDependencies, promoteKnown_cons]
    split
    · rw [Entry.promoteDependency_eq, Entry.mapDependencies]
    · rfl

/-! ## The pass over one entry

The names are now all those that the entry itself waits for. So every wait for a known name ends, and what
is left is stable: another pass finds nothing to do. -/

/-- The dependencies of an entry after the pass: it walks over the names that the entry waits for. -/
def promoteAll (isKnown : String → Bool) (deps : List Dependency) : List Dependency :=
  promoteKnown isKnown (pendingPaths deps) deps

/-- Of all names, without those of a class, the others are left. -/
theorem diff_filter_self (p : String → Bool) (names : List String) :
    names.diff (names.filter p) = names.filter (!p ·) := by
  induction names with
  | nil => rfl
  | cons name names ih =>
    by_cases h : p name
    · rw [List.filter_cons_of_pos h, List.diff_cons, List.erase_cons_head, ih,
        List.filter_cons_of_neg (by simp [h])]
    · have hnot : name ∉ names.filter p := fun hmem => h (List.mem_filter.mp hmem).2
      rw [List.filter_cons_of_neg h, List.cons_diff_of_not_mem hnot, ih,
        List.filter_cons_of_pos (by simp [h])]

/-- Afterwards the entry waits for the unknown names, in the order in which it waited for them. -/
theorem pendingPaths_promoteAll :
    pendingPaths (promoteAll isKnown deps) = (pendingPaths deps).filter (!isKnown ·) := by
  rw [promoteAll, pendingPaths_promoteKnown, diff_filter_self]

/-- What is pending afterwards was pending before, on an unknown name. -/
theorem pending_mem_promoteAll :
    pending path ∈ promoteAll isKnown deps ↔ pending path ∈ deps ∧ isKnown path = false := by
  rw [← mem_pendingPaths, pendingPaths_promoteAll, List.mem_filter, mem_pendingPaths]
  simp

/-- What is resolved afterwards was resolved before, or was pending on a known name. -/
theorem resolved_mem_promoteAll :
    resolved path ∈ promoteAll isKnown deps ↔
      resolved path ∈ deps ∨ isKnown path ∧ pending path ∈ deps := by
  rw [promoteAll, resolved_mem_promoteKnown, mem_pendingPaths]
  exact or_congr_right ⟨fun h => h.2, fun h => ⟨h.2, h⟩⟩

theorem promoteKnown_of_unknown (h : ∀ key ∈ keys, isKnown key = false) :
    promoteKnown isKnown keys deps = deps := by
  induction keys with
  | nil => rfl
  | cons key keys ih =>
    have hkey : ¬isKnown key := by simp [h key List.mem_cons_self]
    rw [promoteKnown_cons, if_neg hkey]
    exact ih fun other hother => h other (List.mem_cons_of_mem _ hother)

/-- A second pass finds nothing to promote. -/
theorem promoteAll_promoteAll :
    promoteAll isKnown (promoteAll isKnown deps) = promoteAll isKnown deps := by
  refine promoteKnown_of_unknown fun key hkey => ?_
  exact (pending_mem_promoteAll.mp (mem_pendingPaths.mp hkey)).2

theorem reconciled_promoteAll : Reconciled isKnown deps (promoteAll isKnown deps) where
  settled key hkey hmem := by
    have hunknown := (pending_mem_promoteAll.mp hmem).2
    rw [hkey] at hunknown
    cases hunknown
  promoted _ hkey hmem := resolved_mem_promoteAll.mpr (.inr ⟨hkey, hmem⟩)
  kept := filter_sublist_promoteKnown fun key hkey => by simp [isPending, Dependency.path, hkey]
  sound d hd := by
    cases d with
    | pending path => exact .inl (pending_mem_promoteAll.mp hd).1
    | resolved path =>
      rcases resolved_mem_promoteAll.mp hd with hmem | ⟨hknown, hmem⟩
      · exact .inl hmem
      · exact .inr ⟨path, hknown, hmem, rfl⟩
  inPlace h :=
    ⟨promoteKnown_eq_filterMap h fun _ _ hmem => mem_pendingPaths.mpr hmem, nodup_promoteKnown h⟩

/-! ## The pass over the store

Which names are documents is looked up once, before anything is changed, and no entry comes or goes. So
every entry is changed on its own, by the same names. -/

variable (store : Store)

theorem reconcile_store :
    store.reconcile.2 =
      store.mapWithKey fun _ entry => entry.mapDependencies (promoteAll store.contains) := by
  have hentry : (fun entry : Entry => promoteEach store.contains (pendingPaths entry.dependencies) entry) =
      fun entry => entry.mapDependencies (promoteAll store.contains) :=
    funext fun entry => promoteEach_eq store.contains (pendingPaths entry.dependencies) entry
  exact congrArg (fun change => store.mapWithKey fun _ => change) hentry

@[simp]
theorem keys_reconcile : store.reconcile.2.keys = store.keys := Table.keys_mapWithKey ..

/-- Each document keeps its entry, with the dependencies that the pass leaves. -/
theorem get?_reconcile (file : String) :
    store.reconcile.2.get? file =
      (store.get? file).map (·.mapDependencies (promoteAll store.contains)) := by
  rw [reconcile_store, Table.get?_mapWithKey]

@[simp]
theorem contains_reconcile : store.reconcile.2.contains = store.contains := by
  funext file
  rw [Table.contains, get?_reconcile, Option.isSome_map, Table.contains]

/-- A document waits for the names that its entry has pending. -/
theorem mem_waiting {file : String} :
    (file, key) ∈ store.waiting ↔
      ∃ entry, store.get? file = some entry ∧ pending key ∈ entry.dependencies := by
  simp only [waiting, List.mem_flatMap, List.mem_map, Table.get?_eq_some_iff]
  constructor
  · rintro ⟨⟨file', entry⟩, hrow, key', hkey, e⟩
    cases e
    exact ⟨entry, hrow, mem_pendingPaths.mp hkey⟩
  · rintro ⟨entry, hrow, hkey⟩
    exact ⟨(file, entry), hrow, key, mem_pendingPaths.mpr hkey, rfl⟩

/-- After a reconciliation the documents wait for the unknown names, in the order in which they waited
for them. -/
theorem waiting_reconcile :
    store.reconcile.2.waiting = store.waiting.filter (!store.contains ·.2) := by
  rw [reconcile_store]
  simp only [waiting, Table.mapWithKey, List.flatMap_map, Entry.mapDependencies,
    pendingPaths_promoteAll, List.filter_flatMap, List.filter_map]
  rfl

/-- The report parts the waits by whether their name is a document. -/
theorem reconcile_report :
    store.reconcile.1 =
      ⟨store.waiting.filter (store.contains ·.2), store.waiting.filter (!store.contains ·.2)⟩ := by
  simp only [reconcile, List.partition_eq_filter_filter]
  rfl

/-! ## The whole pass

What the report says of a store is compared with the store that is left: nothing is pending any more
exactly if the report has nothing left over. -/

/-- A document that waits for a name, with that name. -/
def waitOf? (file : String) : Dependency → Option (String × String)
  | pending key => some (file, key)
  | resolved _ => none

/-- The waits of a document are its pending dependencies, in order. -/
theorem filterMap_waitOf? (file : String) (deps : List Dependency) :
    deps.filterMap (waitOf? file) = (pendingPaths deps).map (file, ·) := by
  induction deps with
  | nil => rfl
  | cons d deps ih =>
    cases d with
    | resolved _ => rw [List.filterMap_cons_none rfl, ih, pendingPaths_cons_resolved]
    | pending key =>
      have hwait : waitOf? file (pending key) = some (file, key) := rfl
      rw [List.filterMap_cons_some hwait, ih, pendingPaths_cons_pending, List.map_cons]

theorem isComplete_reconcile :
    store.reconcile.1.isComplete ↔
      ∀ file entry key, store.reconcile.2.get? file = some entry → pending key ∉ entry.dependencies := by
  rw [reconcile_report, Reconciliation.isComplete, List.isEmpty_iff, ← waiting_reconcile,
    List.eq_nil_iff_forall_not_mem]
  constructor
  · intro h file entry key hentry hmem
    exact h (file, key) ((mem_waiting _).mpr ⟨entry, hentry, hmem⟩)
  · rintro h ⟨file, key⟩ hmem
    obtain ⟨entry, hentry, hpending⟩ := (mem_waiting _).mp hmem
    exact h file entry key hentry hpending

/-- A second one promotes nothing and leaves over what the first has left over. -/
theorem reconcile_reconcile :
    store.reconcile.2.reconcile = (⟨[], store.reconcile.1.stillPending⟩, store.reconcile.2) := by
  refine Prod.ext ?_ (Table.ext_get? fun file => ?_)
  · -- what is left to wait for is unknown, and a filter that is used twice takes nothing more out
    rw [reconcile_report, contains_reconcile, waiting_reconcile, reconcile_report]
    simp [List.filter_filter]
  · rw [get?_reconcile, contains_reconcile, get?_reconcile, Option.map_map]
    refine congrArg (Option.map · _) (funext fun entry => ?_)
    simp [Entry.mapDependencies, promoteAll_promoteAll]

/-- **Reconciliation is exact, complete and idempotent.** It changes nothing but the dependencies of the
entries, and those exactly as `Dependency.Reconciled` says; it reports every wait of the old store, in
order and by its outcome; nothing is left to wait for exactly if the report says so; and a second
reconciliation promotes nothing and changes nothing. -/
theorem reconcile_exact :
    let (report, reconciled) := store.reconcile
    let waits := store.rows.flatMap fun row => row.2.dependencies.filterMap (waitOf? row.1)
    reconciled.keys = store.keys ∧
    (∀ file entry, store.get? file = some entry →
      ∃ deps, reconciled.get? file = some { entry with dependencies := deps } ∧
        Reconciled store.contains entry.dependencies deps) ∧
    report.promoted = waits.filter (store.contains ·.2) ∧
    report.stillPending = waits.filter (!store.contains ·.2) ∧
    (report.isComplete ↔ ∀ file entry key,
      reconciled.get? file = some entry → pending key ∉ entry.dependencies) ∧
    reconciled.reconcile = (⟨[], report.stillPending⟩, reconciled) := by
  have hwaits : (store.rows.flatMap fun row => row.2.dependencies.filterMap (waitOf? row.1)) =
      store.waiting := by
    simp only [filterMap_waitOf?]
    rfl
  simp only [hwaits]
  refine ⟨keys_reconcile store, fun file entry hentry => ?_, ?_, ?_, isComplete_reconcile store,
    reconcile_reconcile store⟩
  · refine ⟨promoteAll store.contains entry.dependencies, ?_, reconciled_promoteAll⟩
    rw [get?_reconcile, hentry]
    rfl
  · rw [reconcile_report]
  · rw [reconcile_report]

end Store

end Crosslink
