import Crosslink.Proofs.Retention

/-!
# The effect of a resolution

Every reference goes through one call, whatever its kind and whoever resolves it, and that call writes to
an entry that other documents read. So all that it does is said here for any resolver: what it answers,
what it takes down, what becomes of each dependency in the two copies of the list, and that it leaves
everything else alone.

* `Dependency.fate` is what an answer makes of one dependency, `Dependency.Settled` what it makes of a
  list.
* `Pass.Answered` is the effect of an answer on a pass.
* `Pass.resolution_effect` : a resolution by a missing resolver is refused without a trace, any other has
  the effect of its answer.
-/

namespace Crosslink

open Dependency

/-! ## Lists of dependencies

What an answer makes of a list is said dependency by dependency. This is possible only in lists without
duplicates, where a promotion meets one wait at most; there the outcome for each depends on it, on the
answer, and on whether the list has the resolved one already. -/

namespace Dependency

variable {key : String} {d : Dependency} {deps after : List Dependency} {reference : Reference}
  {answer : Option Reference}

/-- What the answer to a reference that spells `key` makes of a dependency in a list; `none` where it is
left out. -/
def fate (key : String) (answer : Option Reference) (deps : List Dependency) (d : Dependency) :
    Option Dependency :=
  match answer with
  | none => if d.path = key then none else some d
  | some reference =>
    if d = pending key then
      if reference.file = "" ∨ resolved reference.file ∈ deps then none
      else some (resolved reference.file)
    else some d

/-- Whether the answer to a reference that spells `key` is about a dependency. -/
def Concerns (key : String) (answer : Option Reference) (d : Dependency) : Prop :=
  match answer with
  | none => d.path = key
  | some reference => d = pending key ∨ d = resolved reference.file

instance (key : String) (d : Dependency) : ∀ answer, Decidable (Concerns key answer d)
  | none => inferInstanceAs (Decidable (d.path = key))
  | some reference => inferInstanceAs (Decidable (d = pending key ∨ d = resolved reference.file))

/-- `after` is what the answer to a reference that spells `key` makes of the list `deps`. -/
structure Settled (key : String) (answer : Option Reference) (deps after : List Dependency) :
    Prop where
  /-- every dependency meets its fate, in its place -/
  fates : after = deps.filterMap (fate key answer deps)
  /-- nothing is there twice -/
  nodup : after.Nodup
  /-- the list does not wait for the name any more -/
  ended : pending key ∉ after
  /-- what leads nowhere is not depended on -/
  dropped : answer = none → resolved key ∉ after
  /-- a list that waited for the name has the document that the reference leads to -/
  arrived : ∀ reference, answer = some reference → reference.file ≠ "" → pending key ∈ deps →
    resolved reference.file ∈ after
  /-- what the answer is not about stays, in order -/
  others : after.filter (¬Concerns key answer ·) = deps.filter (¬Concerns key answer ·)

theorem path_eq_iff : d.path = key ↔ d = pending key ∨ d = resolved key := by
  cases d <;> simp [path]

/-- An answer lets every dependency of a list without duplicates meet its fate. -/
theorem answered_eq_filterMap (h : deps.Nodup) :
    Pass.answered key answer deps = deps.filterMap (fate key answer deps) := by
  -- a broken reference drops twice; one that leads somewhere drops or promotes
  cases answer with
  | none =>
    have hfate : fate key none deps = Option.guard fun d => decide (d ≠ pending key) &&
        decide (d ≠ resolved key) := by
      funext d
      simp only [fate, path_eq_iff, Option.guard]
      by_cases hpending : d = pending key <;> by_cases hresolved : d = resolved key <;>
        simp [hpending, hresolved]
    rw [hfate, List.filterMap_eq_filter, Pass.answered, drop, drop, List.filter_filter]
    exact List.filter_congr fun d _ => Bool.and_comm _ _
  | some reference =>
    rw [Pass.answered]
    split
    · rename_i hfile
      have hfate : fate key (some reference) deps = Option.guard fun d => decide (d ≠ pending key) := by
        funext d
        by_cases hpending : d = pending key <;> simp [fate, Option.guard, hfile, hpending]
      rw [hfate, List.filterMap_eq_filter, drop]
    · rename_i hfile
      have hfate : fate key (some reference) deps = promoted? key reference.file deps := by
        funext d
        simp only [fate, promoted?, hfile, false_or]
      rw [hfate, promote_eq_filterMap h]

/-- What an answer is not about it leaves as it is. -/
theorem fate_of_not_concerns (h : ¬Concerns key answer d) : fate key answer deps d = some d := by
  cases answer with
  | none => exact if_neg h
  | some reference => exact if_neg fun e => h (.inl e)

/-- What an answer puts into a list it is about. -/
theorem eq_or_concerns_of_fate {e : Dependency} (h : fate key answer deps d = some e) :
    e = d ∨ Concerns key answer e := by
  cases answer with
  | none =>
    simp only [fate] at h
    split at h
    · cases h
    · exact .inl (Option.some.inj h).symm
  | some reference =>
    simp only [fate] at h
    split at h
    · split at h
      · cases h
      · exact .inr (.inr (Option.some.inj h).symm)
    · exact .inl (Option.some.inj h).symm

/-- What a list has besides that which the answer is about stays, in order. -/
theorem filter_answered (h : deps.Nodup) :
    (Pass.answered key answer deps).filter (¬Concerns key answer ·) =
      deps.filter (¬Concerns key answer ·) := by
  have hfate : ∀ d, (fate key answer deps d).filter (¬Concerns key answer ·) =
      Option.guard (¬Concerns key answer ·) d := by
    intro d
    by_cases hd : Concerns key answer d
    · -- whatever takes the place of such a dependency is itself one
      have hnone : ∀ e, fate key answer deps d = some e → Concerns key answer e := fun e he =>
        (eq_or_concerns_of_fate he).elim (fun heq => heq ▸ hd) id
      rw [Option.guard, if_neg (by simp [hd]), Option.filter_eq_none_iff]
      exact fun e he => by simp [hnone e he]
    · rw [fate_of_not_concerns hd]
      rfl
  rw [answered_eq_filterMap h, List.filter_filterMap, funext hfate, List.filterMap_eq_filter]

/-- An answer settles every list without duplicates. -/
theorem settled_answered (h : deps.Nodup) : Settled key answer deps (Pass.answered key answer deps) where
  fates := answered_eq_filterMap h
  nodup := nodup_answered h
  ended := by
    cases answer with
    | none => simp [Pass.answered]
    | some reference =>
      rw [Pass.answered]
      split
      · simp
      · exact pending_not_mem_promote h
  dropped := by
    rintro rfl
    simp [Pass.answered]
  arrived := by
    rintro reference rfl hfile hmem
    rw [Pass.answered, if_neg hfile, resolved_mem_promote]
    exact .inr ⟨rfl, hmem⟩
  others := filter_answered h

end Dependency

/-! ## Passes

The effect on a pass is a frame with four openings: the two copies of the list, what is taken down, and
what is reported. Everything else of the draft, of the entry and of the other entries is what it was. -/

namespace Pass

/-- `q` is the pass `p` after a reference has been answered. -/
structure Answered (p q : Pass) (role target : String) (answer : Option Reference) : Prop where
  /-- a reference that leads nowhere is taken down, once, and no other -/
  broken : q.draft.brokenLinks =
    p.draft.brokenLinks ++ if answer = none then [⟨Text.trim target, role⟩] else []
  /-- it is reported, once, and nothing else is -/
  reported : q.diagnostics = p.diagnostics ++
    if answer = none then [.brokenLink p.draft.file ⟨Text.trim target, role⟩] else []
  /-- both copies of the list are settled, if the target spells a document -/
  settled : ∀ key, p.draft.location.canonical? target = some key →
    ∀ copy, Settled key answer (p.list copy) (q.list copy)
  /-- and are left alone otherwise -/
  unspelled : p.draft.location.canonical? target = none → ∀ copy, q.list copy = p.list copy
  /-- the rest of the draft is left alone -/
  draft : q.draft = { p.draft with
    dependencies := q.list .draft, brokenLinks := q.draft.brokenLinks }
  /-- the rest of the entry is left alone, and none is made -/
  entry : q.store.get? p.draft.file =
    (p.store.get? p.draft.file).map fun entry => { entry with dependencies := q.list .published }
  /-- all other entries are left alone -/
  others : ∀ file, file ≠ p.draft.file → q.store.get? file = p.store.get? file

variable {p : Pass} {registry : Registry} {role target : String}

/-- What a resolution makes of a pass is the effect of its answer. -/
theorem answered_takeDown (h : ∀ copy, (p.list copy).Nodup) (answer : Option Reference) :
    Answered p ((p.takeDown ⟨Text.trim target, role⟩ answer).mapDependencies (p.change target answer))
      role target answer where
  broken := by
    cases answer <;> simp [takeDown, mapDependencies]
  reported := by
    cases answer <;> simp [takeDown, mapDependencies, report]
  settled key hkey copy := by
    rw [list_follow, change_of_key hkey]
    exact settled_answered (h copy)
  unspelled hnone copy := by
    rw [list_follow, change, hnone]
    rfl
  draft := by
    rw [list_draft, dependencies_mapDependencies]
    cases answer <;> simp only [takeDown, mapDependencies, report]
  -- the entry changes in its list only
  entry := by
    rw [store_mapDependencies, file_takeDown, store_takeDown, Table.get?_modify, if_pos rfl,
      list_follow, list_published]
    cases p.store.get? p.draft.file with
    | none => rw [Option.map_none, Option.map_none]
    | some entry => rw [Option.map_some, Option.map_some, Option.map_some, Option.getD_some]; rfl
  others file hfile := by
    rw [store_mapDependencies, file_takeDown, store_takeDown, Table.get?_modify, if_neg hfile]

/-- **The effect of a resolution.** Let the copies of the list hold nothing twice. A reference without a
resolver is refused, and the pass is as before. Any other is answered with what its resolver says, wherever
that leads, and the answer has its effect: broken references are taken down and reported once each, the
lists do not wait for the name that the target spells any more, and everything that the answer is not about
is left as it was, in its order. In every case the lists still hold nothing twice. -/
theorem resolution_effect (p : Pass) (registry : Registry) (role target : String)
    (h : ∀ copy, (p.list copy).Nodup) :
    let result := Call.run (resolve registry role target) p
    (registry.get? role = none → result = (.error (.unknownRole role), p)) ∧
    (∀ resolver, registry.get? role = some resolver →
      let answer := resolver.resolve p.draft p.store (Text.trim target)
      result.1 = .ok answer ∧ Answered p result.2 role target answer) ∧
    ∀ copy, (result.2.list copy).Nodup := by
  intro result
  have hanswered : ∀ resolver, registry.get? role = some resolver →
      result.1 = .ok (resolver.resolve p.draft p.store (Text.trim target)) ∧
      Answered p result.2 role target (resolver.resolve p.draft p.store (Text.trim target)) := by
    intro resolver hresolver
    have hrun : result = _ := run_resolve hresolver
    rw [hrun]
    exact ⟨rfl, answered_takeDown h _⟩
  refine ⟨fun hnone => run_resolve_of_none hnone, hanswered, fun copy => ?_⟩
  cases hresolver : registry.get? role with
  | none =>
    have hrun : result = _ := run_resolve_of_none hresolver
    rw [hrun]
    exact h copy
  | some resolver =>
    obtain ⟨-, heffect⟩ := hanswered resolver hresolver
    -- only a target that spells a document touches the lists
    cases hkey : p.draft.location.canonical? target with
    | none =>
      rw [heffect.unspelled hkey]
      exact h copy
    | some key => exact (heffect.settled key hkey copy).nodup

/-- A term that leads into a document which the draft has in its list already and the entry has not; and a
reference on the same name that leads nowhere. -/
theorem resolution_effect_terms :
    let terms := Registry.standard.insert "term"
      (Resolver.ofTable (Table.ofList [("setup", { file := "guide/setup" })]) none none)
    let p : Pass := {
      draft := {
        file := "index"
        dependencies := [.pending "setup", .resolved "faq", .resolved "guide/setup"] }
      store := Store.publish ∅ {
        file := "index"
        url := "index.html"
        dependencies := [.resolved "faq", .pending "setup", .resolved "setup"] } }
    let promoted := (Call.run (resolve terms "term" " setup ") p).2
    let broken := (Call.run (resolve terms "doc" "/setup") p).2
    (∀ copy, (p.list copy).Nodup) ∧
    promoted.list .draft = [.resolved "faq", .resolved "guide/setup"] ∧
    promoted.list .published = [.resolved "faq", .resolved "guide/setup", .resolved "setup"] ∧
    promoted.draft.brokenLinks = [] ∧
    broken.list .draft = [.resolved "faq", .resolved "guide/setup"] ∧
    broken.list .published = [.resolved "faq"] ∧
    broken.draft.brokenLinks = [⟨"/setup", "doc"⟩] := by
  intro terms p promoted broken
  have hnodup : ∀ copy, (p.list copy).Nodup := by
    rintro (_ | _) <;> decide +kernel
  obtain ⟨-, hterm, -⟩ := resolution_effect p terms "term" " setup " hnodup
  obtain ⟨-, hpromoted⟩ := hterm _ (by rw [Table.get?_insert, if_pos rfl])
  obtain ⟨-, hdoc, -⟩ := resolution_effect p terms "doc" "/setup" hnodup
  obtain ⟨-, hbroken⟩ := hdoc Resolver.doc
    (by rw [Table.get?_insert, if_neg (by decide), Registry.standard_doc])
  have hsettled := hpromoted.settled "setup" (by decide +kernel)
  have hdropped := hbroken.settled "setup" (by decide +kernel)
  refine ⟨hnodup, ?_, ?_, ?_, ?_, ?_, ?_⟩
  · rw [(hsettled .draft).fates]
    decide +kernel
  · rw [(hsettled .published).fates]
    decide +kernel
  · rw [hpromoted.broken]
    decide +kernel
  · rw [(hdropped .draft).fates]
    decide +kernel
  · rw [(hdropped .published).fates]
    decide +kernel
  · rw [hbroken.broken]
    decide +kernel

end Pass

end Crosslink
