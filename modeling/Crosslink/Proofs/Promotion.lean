import Crosslink.Draft
import Mathlib.Data.List.Nodup

/-!
# Dropped and promoted dependencies

What it means to take a dependency out of a list, and to promote one. `Dependency.drop` and
`Dependency.promote` say it of a list alone; a draft and an entry each do it by their own means, by places in
the list, and the laws are proved here once for both.

* `Draft.dropDependency_eq`, `Draft.promoteDependency_eq` and, for what is published,
  `Store.dropDependency_eq`, `Store.promoteDependency_eq` : both do what is said of the list.
* `Store.dropDependency_answer`, `Store.promoteDependency_answer` : the store answers whether it had anything
  to change.
* `promote_cases` cuts a list where it waits for the promoted name, once and for all; the laws about the two
  sides of the list follow.
* `pendingPaths_promote` : one wait for the promoted name is over, and no other.
* `resolved_mem_promote` : the file that the name leads to is there now, and no other is lost.
* `promote_eq_filterMap` : in a list without duplicates the promoted dependency is changed in its place,
  or left out.
-/

namespace Crosslink

namespace Dependency

/-! ## What becomes of a list

Stated without places: a promotion replaces the first wait for a name, or erases it where the list has the
file already. A list may hold the same thing twice, as one that was loaded may, so only the first wait is
ever ended. -/

/-- A list without a dependency. -/
def drop (d : Dependency) (deps : List Dependency) : List Dependency :=
  deps.filter (· ≠ d)

/-- A list in which the pending dependency on `key` is a resolved one on `file`, in its place; where that one
is in the list already, the pending one is taken out instead. -/
def promote (key file : String) (deps : List Dependency) : List Dependency :=
  if resolved file ∈ deps then deps.erase (pending key)
  else deps.replace (pending key) (resolved file)

variable {key file path : String} {d : Dependency} {deps : List Dependency}

@[simp]
theorem mem_drop {e : Dependency} : e ∈ drop d deps ↔ e ∈ deps ∧ e ≠ d := by
  simp [drop]

theorem nodup_drop (h : deps.Nodup) : (drop d deps).Nodup :=
  h.filter _

/-! ## Waiting names

The names that a list waits for, read from its parts. -/

@[simp]
theorem pendingPaths_append (deps others : List Dependency) :
    pendingPaths (deps ++ others) = pendingPaths deps ++ pendingPaths others := by
  simp [pendingPaths]

@[simp]
theorem pendingPaths_cons_resolved : pendingPaths (resolved path :: deps) = pendingPaths deps := rfl

@[simp]
theorem pendingPaths_cons_pending :
    pendingPaths (pending path :: deps) = path :: pendingPaths deps := rfl

/-! ## The two outcomes of a promotion

Where the list does not wait for the name nothing happens. Where it does, it is cut in front of the first
wait, and all that a promotion does is done there; what is said of members, of waits and of the order of
the others is read off that cut. -/

theorem promote_of_not_mem (h : pending key ∉ deps) : promote key file deps = deps := by
  unfold promote
  split
  · exact List.erase_of_not_mem h
  · exact List.replace_of_not_mem h

/-- A promotion takes the first wait for its name out of the list, and puts the file in its place unless
the list holds the file already. -/
theorem promote_cases (file : String) (h : pending key ∈ deps) :
    ∃ before after, deps = before ++ pending key :: after ∧ pending key ∉ before ∧
      promote key file deps =
        before ++ if resolved file ∈ deps then after else resolved file :: after := by
  obtain ⟨before, after, hdeps, hbefore⟩ := List.eq_append_cons_of_mem h
  refine ⟨before, after, hdeps, hbefore, ?_⟩
  unfold promote
  split
  · rw [hdeps, List.erase_append_right _ hbefore, List.erase_cons_head]
  · rw [hdeps, List.replace_append_right hbefore, List.replace_cons_self]

/-- A promotion ends the first wait for the promoted name. -/
theorem pendingPaths_promote :
    pendingPaths (promote key file deps) = (pendingPaths deps).erase key := by
  by_cases h : pending key ∈ deps
  · obtain ⟨before, after, hdeps, hbefore, hpromote⟩ := promote_cases file h
    have hkey : key ∉ pendingPaths before := mt mem_pendingPaths.mp hbefore
    have hrest : pendingPaths (promote key file deps) =
        pendingPaths before ++ pendingPaths after := by
      rw [hpromote]
      split <;> simp
    rw [hrest, hdeps, pendingPaths_append, pendingPaths_cons_pending,
      List.erase_append_right _ hkey, List.erase_cons_head]
  · rw [promote_of_not_mem h, List.erase_of_not_mem (mt mem_pendingPaths.mp h)]

/-- A promotion adds the file it leads to and loses no known document. -/
theorem resolved_mem_promote :
    resolved path ∈ promote key file deps ↔
      resolved path ∈ deps ∨ path = file ∧ pending key ∈ deps := by
  by_cases h : pending key ∈ deps
  · obtain ⟨before, after, hdeps, -, hpromote⟩ := promote_cases file h
    have hmem : resolved path ∈ deps ↔ resolved path ∈ before ∨ resolved path ∈ after := by
      simp [hdeps]
    rw [hpromote]
    by_cases hfile : resolved file ∈ deps
    · -- the file is in the list already, so nothing comes in
      rw [if_pos hfile, List.mem_append, ← hmem]
      constructor
      · intro hold
        exact .inl hold
      · rintro (hold | ⟨rfl, -⟩)
        · exact hold
        · exact hfile
    · rw [if_neg hfile, List.mem_append, List.mem_cons, resolved.injEq, hmem]
      constructor
      · rintro (hbefore | rfl | hafter)
        · exact .inl (.inl hbefore)
        · exact .inr ⟨rfl, h⟩
        · exact .inl (.inr hafter)
      · rintro ((hbefore | hafter) | ⟨rfl, -⟩)
        · exact .inl hbefore
        · exact .inr (.inr hafter)
        · exact .inr (.inl rfl)
  · simp [promote_of_not_mem h, h]

/-- A promotion leaves a wait for another name alone, and adds none. -/
theorem pending_mem_promote_of_ne (h : path ≠ key) :
    pending path ∈ promote key file deps ↔ pending path ∈ deps := by
  rw [← mem_pendingPaths, pendingPaths_promote, List.mem_erase_of_ne h, mem_pendingPaths]

/-- What a promotion is not about it keeps, in order. -/
theorem filter_sublist_promote {keep : Dependency → Bool} (h : keep (pending key) = false) :
    (deps.filter keep).Sublist (promote key file deps) := by
  by_cases hmem : pending key ∈ deps
  · obtain ⟨before, after, hdeps, -, hpromote⟩ := promote_cases file hmem
    have hkept : deps.filter keep = before.filter keep ++ after.filter keep := by
      simp [hdeps, h]
    rw [hkept, hpromote]
    refine (List.filter_sublist).append ?_
    split
    · exact List.filter_sublist
    · exact (List.filter_sublist).cons _
  · rw [promote_of_not_mem hmem]
    exact List.filter_sublist

/-! ## Lists without duplicates

In such a list there is one wait at most, so a promotion can be told dependency by dependency, each at its
place. -/

/-- What a promotion makes of a dependency; `none` where it is left out. -/
def promoted? (key file : String) (deps : List Dependency) (d : Dependency) : Option Dependency :=
  if d = pending key then if resolved file ∈ deps then none else some (resolved file)
  else some d

theorem promoted?_of_ne (h : d ≠ pending key) : promoted? key file deps d = some d := if_neg h

/-- A stretch of the list that does not wait for the name stays. -/
theorem filterMap_promoted?_of_not_mem {rest : List Dependency} (h : pending key ∉ rest) :
    rest.filterMap (promoted? key file deps) = rest := by
  have hsame : ∀ d ∈ rest, promoted? key file deps d = some d := by
    intro d hd
    apply promoted?_of_ne
    rintro rfl
    exact h hd
  rw [List.filterMap_congr hsame, List.filterMap_some]

/-- In a list without duplicates, a promotion changes or leaves out the one dependency that waits for its
name. -/
theorem promote_eq_filterMap (h : deps.Nodup) :
    promote key file deps = deps.filterMap (promoted? key file deps) := by
  by_cases hmem : pending key ∈ deps
  · obtain ⟨before, after, hdeps, hbefore, hpromote⟩ := promote_cases file hmem
    have hafter : pending key ∉ after := by
      rw [hdeps] at h
      exact (List.nodup_cons.mp (List.Nodup.of_append_right h)).1
    -- the rule keeps what stands before the one dependency that waits, and what stands behind it
    have hmap : ∀ others, deps.filterMap (promoted? key file others) =
        before ++ if resolved file ∈ others then after else resolved file :: after := by
      intro others
      rw [hdeps, List.filterMap_append, List.filterMap_cons, filterMap_promoted?_of_not_mem hbefore,
        filterMap_promoted?_of_not_mem hafter]
      by_cases hfile : resolved file ∈ others <;> simp [promoted?, hfile]
    rw [hpromote, hmap]
  · rw [promote_of_not_mem hmem, filterMap_promoted?_of_not_mem hmem]

theorem nodup_pendingPaths (h : deps.Nodup) : (pendingPaths deps).Nodup := by
  refine List.Nodup.map_on (fun a ha b hb hpath => ?_) (h.filter _)
  have hpending : ∀ d ∈ deps.filter isPending, d = pending d.path := by
    intro d hd
    cases d with
    | resolved _ => simp [isPending] at hd
    | pending _ => rfl
  rw [hpending a ha, hpending b hb, hpath]

/-- In a list without duplicates, nothing waits for a name after its promotion. -/
theorem pending_not_mem_promote (h : deps.Nodup) : pending key ∉ promote key file deps := by
  rw [← mem_pendingPaths, pendingPaths_promote]
  exact (nodup_pendingPaths h).not_mem_erase

/-- A promotion makes no duplicates. -/
theorem nodup_promote (h : deps.Nodup) : (promote key file deps).Nodup := by
  by_cases hmem : pending key ∈ deps
  · obtain ⟨before, after, hdeps, -, hpromote⟩ := promote_cases file hmem
    have hrest : (before ++ after).Nodup := by
      rw [hdeps] at h
      exact h.sublist ((List.Sublist.refl before).append (List.sublist_cons_self _ after))
    rw [hpromote]
    split
    · exact hrest
    · rename_i hfile
      have hnot : resolved file ∉ before ++ after := by
        intro hmem
        rw [hdeps] at hfile
        exact hfile (by simpa using hmem)
      exact List.nodup_middle.mpr (List.nodup_cons.mpr ⟨hnot, hrest⟩)
  · rwa [promote_of_not_mem hmem]

end Dependency

/-! ## Both lists of a document

A draft and an entry look the pending dependency up by its place, each in its own list, and change the list at
that place. What comes out is in both cases the list of `drop` and of `promote`. -/

open Dependency

variable {key file path : String} {deps : List Dependency}

/-- A replaced dependency is changed at its place. -/
theorem Dependency.replace_eq_set (d e : Dependency) (deps : List Dependency) :
    deps.replace d e = match deps.idxOf? d with
      | none => deps
      | some i => deps.set i e := by
  induction deps with
  | nil => rfl
  | cons first deps ih =>
    rw [List.idxOf?_cons]
    by_cases hfirst : first = d
    · subst hfirst
      simp
    · rw [List.replace_cons, beq_false_of_ne (Ne.symm hfirst), ih, beq_false_of_ne hfirst]
      cases deps.idxOf? d <;> rfl

/-- A promotion by place. -/
theorem Dependency.promote_eq_at (key file : String) (deps : List Dependency) :
    promote key file deps = match deps.idxOf? (pending key) with
      | none => deps
      | some i => if resolved file ∈ deps then deps.eraseIdx i else deps.set i (resolved file) := by
  rw [promote, List.erase_eq_eraseIdx, replace_eq_set]
  cases deps.idxOf? (pending key) with
  | none => exact ite_self _
  | some i => rfl

theorem Draft.dropDependency_eq (d : Draft) (dependency : Dependency) :
    d.dropDependency dependency = { d with dependencies := drop dependency d.dependencies } := rfl

theorem Draft.promoteDependency_eq (d : Draft) (key file : String) :
    d.promoteDependency key file = { d with dependencies := promote key file d.dependencies } := by
  rw [promoteDependency, promote_eq_at]
  cases d.dependencies.idxOf? (.pending key) with
  | none => rfl
  | some i =>
    simp only
    split <;> rfl

/-- An entry with other dependencies. -/
def Entry.mapDependencies (f : List Dependency → List Dependency) (entry : Entry) : Entry :=
  { entry with dependencies := f entry.dependencies }

/-- An entry takes a dependency out, and answers whether it was there. -/
theorem Entry.dropDependency_eq (entry : Entry) (d : Dependency) :
    entry.dropDependency d = (decide (d ∈ entry.dependencies), entry.mapDependencies (drop d)) := by
  refine Prod.ext ?_ rfl
  have hlength : entry.dependencies.length = (drop d entry.dependencies).length ↔
      d ∉ entry.dependencies := by
    rw [eq_comm, drop, List.length_filter_eq_length_iff]
    simp only [decide_eq_true_eq]
    exact ⟨fun h hmem => h d hmem rfl, fun h e hmem heq => h (heq ▸ hmem)⟩
  exact decide_eq_decide.mpr (by rw [← drop, ne_eq, hlength, not_not])

/-- An entry promotes a dependency, and answers whether there was one to promote. -/
theorem Entry.promoteDependency_eq (entry : Entry) (key file : String) :
    entry.promoteDependency key file =
      (decide (.pending key ∈ entry.dependencies), entry.mapDependencies (promote key file)) := by
  rw [promoteDependency, mapDependencies, promote_eq_at]
  cases hplace : entry.dependencies.idxOf? (.pending key) with
  | none => simp [List.idxOf?_eq_none_iff.mp hplace]
  | some i =>
    have hmem : .pending key ∈ entry.dependencies := List.isSome_idxOf?.mp (by rw [hplace]; rfl)
    simp only [hmem, decide_true]
    split <;> rfl

namespace Store

variable (store : Store) (path : String)

/-- A store drops a dependency from the entry of the document, and changes nothing else. -/
theorem dropDependency_eq (d : Dependency) :
    (store.dropDependency path d).2 = store.modify path (·.mapDependencies (drop d)) := by
  rw [dropDependency, update]
  simp only [Entry.dropDependency_eq]

/-- A store promotes a dependency in the entry of the document, and changes nothing else. -/
theorem promoteDependency_eq (key file : String) :
    (store.promoteDependency path key file).2 =
      store.modify path (·.mapDependencies (promote key file)) := by
  rw [promoteDependency, update]
  simp only [Entry.promoteDependency_eq]

/-- A change to the list of an entry is seen when the list is looked up. -/
theorem dependencies?_modify (change : List Dependency → List Dependency) :
    dependencies? (store.modify path (·.mapDependencies change)) path =
      (store.dependencies? path).map change := by
  rw [dependencies?, dependencies?, Table.get?_modify, if_pos rfl, Option.map_map, Option.map_map]
  rfl

/-- The store answers whether the published list held the dependency. -/
theorem dropDependency_answer (d : Dependency) :
    (store.dropDependency path d).1 = (store.dependencies? path).any (d ∈ ·) := by
  rw [dropDependency, update, dependencies?]
  cases store.get? path with
  | none => rfl
  | some entry => simp [Entry.dropDependency_eq]

/-- The store answers whether the published list waited for the name. -/
theorem promoteDependency_answer (key file : String) :
    (store.promoteDependency path key file).1 = (store.dependencies? path).any (.pending key ∈ ·) := by
  rw [promoteDependency, update, dependencies?]
  cases store.get? path with
  | none => rfl
  | some entry => simp [Entry.promoteDependency_eq]

end Store

end Crosslink
