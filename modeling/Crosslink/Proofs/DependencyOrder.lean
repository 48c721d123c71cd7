import Crosslink.Draft
import Mathlib.Data.List.Basic
import Mathlib.Data.List.Induction

/-!
# The order of dependencies

The dependencies of a document are the order in which others are built before it and watched for it. They
are declared one by one, in whatever spelling, with repetitions, and some of the declarations name no
document. What comes of it is fixed by the declarations that do: each dependency stands once, at the place
of its first declaration, and waiting for a document is a dependency of its own.

* `FirstMentions` says of two lists that one has the different members of the other, in the order in which
  they come first; `FirstMentions.add` is what adding a dependency makes of it.
* `Draft.declareAll` is a run of declarations, `Draft.declareAll_of_fresh` its closed form.
* `Draft.declareAll_again` : what has been declared before can be declared again without effect.
* `Draft.dependencies_in_order` puts it together.
-/

namespace Crosslink

open Dependency

/-! ## First mentions

What stands in a list of dependencies is described without the list: as the different members of what has
been added, in the order in which each came first. Members that come again are left out, so the
description is the one of a list without duplicates. -/

/-- `firsts` has the different members of `all`, in the order in which they first come there. -/
structure FirstMentions (all firsts : List Dependency) : Prop where
  /-- each is there once -/
  nodup : firsts.Nodup
  /-- they are the members of the other list -/
  mem : ∀ d, d ∈ firsts ↔ d ∈ all
  /-- one stands before another if its first place there is before that of the other -/
  order : firsts.Pairwise fun d e => all.idxOf d < all.idxOf e

namespace FirstMentions

variable {all firsts : List Dependency}

theorem nil : FirstMentions [] [] := ⟨.nil, fun _ => Iff.rfl, .nil⟩

/-- A dependency that is added is new, and then its first place is the last one, or it has a place
already. -/
theorem add (h : FirstMentions all firsts) (d : Dependency) :
    FirstMentions (all ++ [d]) (add d firsts) where
  nodup := nodup_add h.nodup
  mem e := by rw [mem_add, h.mem, List.mem_append, List.mem_singleton, or_comm]
  order := by
    have hkeeps : firsts.Pairwise fun e f => (all ++ [d]).idxOf e < (all ++ [d]).idxOf f := by
      refine h.order.imp_of_mem fun {e f} he hf hlt => ?_
      rwa [List.idxOf_append_of_mem ((h.mem e).mp he), List.idxOf_append_of_mem ((h.mem f).mp hf)]
    rw [Dependency.add]
    split
    · exact hkeeps
    · rename_i hnew
      have hlast : (all ++ [d]).idxOf d = all.length := by
        rw [List.idxOf_append_of_notMem (mt (h.mem d).mpr hnew), List.idxOf_cons_self, Nat.add_zero]
      refine List.pairwise_append.mpr ⟨hkeeps, List.pairwise_singleton _ _, fun e he f hf => ?_⟩
      have hmem : e ∈ all := (h.mem e).mp he
      rw [List.mem_singleton.mp hf, hlast, List.idxOf_append_of_mem hmem]
      exact List.idxOf_lt_length_of_mem hmem

end FirstMentions

/-- An element at the end of a list is left out unless it is new. -/
theorem eraseDups_concat {α : Type} [DecidableEq α] (all : List α) (a : α) :
    (all ++ [a]).eraseDups = if a ∈ all then all.eraseDups else all.eraseDups ++ [a] := by
  rw [List.eraseDups_append]
  split
  · rename_i hmem
    simp [List.removeAll, hmem]
  · rename_i hnew
    simp [List.removeAll, hnew, List.eraseDups_cons]

/-- Adding a dependency to a list of first mentions goes on with it. -/
theorem Dependency.add_firsts (d : Dependency) (all : List Dependency) :
    add d all.eraseDups = (all ++ [d]).eraseDups := by
  rw [add, eraseDups_concat]
  simp only [List.mem_eraseDups]

/-- From the end, as dependencies are added there. -/
theorem firstMentions_eraseDups (all : List Dependency) : FirstMentions all all.eraseDups := by
  induction all using List.reverseRecOn with
  | nil => exact .nil
  | append_singleton all d ih =>
    rw [← add_firsts]
    exact ih.add d

/-! ## Declarations

A declaration is a path, as it is written, and whether the document is waited for. It says nothing where
the path leads to no document. Otherwise it names a dependency that depends on where the declaring
document stands, which declarations do not change; so all of them can be read at the beginning. -/

/-- A declared dependency. -/
structure Declaration where
  /-- the path of the document, as written -/
  path : String
  /-- whether to wait for the document -/
  isPending : Bool
  deriving DecidableEq, Repr

/-- The dependency that is declared; `none` if the path leads to no document. -/
def Declaration.dependency? (loc : Location) (c : Declaration) : Option Dependency :=
  (loc.canonical? c.path).map (ofPath · c.isPending)

namespace Draft

variable {d : Draft} {c : Declaration} {cs again : List Declaration}

/-- The draft after a declaration. -/
def declare (d : Draft) (c : Declaration) : Draft := (Call.run (addDependency c.path c.isPending) d).2

/-- The draft after some declarations, refused ones among them. -/
def declareAll (d : Draft) (cs : List Declaration) : Draft := cs.foldl declare d

/-- What the declarations are answered, one after the other. -/
def declared (d : Draft) : List Declaration → List (Except Fault Unit)
  | [] => []
  | c :: cs => (Call.run (addDependency c.path c.isPending) d).1 :: (d.declare c).declared cs

/-- A declaration adds what it declares, if anything. -/
theorem declare_eq (d : Draft) (c : Declaration) :
    d.declare c = { d with
      dependencies := (c.dependency? d.location).elim d.dependencies (add · d.dependencies) } := by
  rw [declare, run_addDependency, Declaration.dependency?]
  cases d.location.canonical? c.path <;> rfl

@[simp]
theorem location_declare (d : Draft) (c : Declaration) : (d.declare c).location = d.location := by
  rw [declare_eq, location, location]

theorem declareAll_cons (d : Draft) (c : Declaration) (cs : List Declaration) :
    d.declareAll (c :: cs) = (d.declare c).declareAll cs := by
  rw [declareAll, List.foldl_cons, declareAll]

@[simp]
theorem location_declareAll (d : Draft) (cs : List Declaration) :
    (d.declareAll cs).location = d.location := by
  induction cs generalizing d with
  | nil => rfl
  | cons c cs ih => rw [declareAll_cons, ih, location_declare]

theorem declareAll_append (d : Draft) (cs others : List Declaration) :
    d.declareAll (cs ++ others) = (d.declareAll cs).declareAll others :=
  List.foldl_append

/-- What a fresh document depends on after some declarations: from the end, as each of them adds there. -/
theorem declareAll_of_fresh (h : d.dependencies = []) (cs : List Declaration) :
    d.declareAll cs =
      { d with dependencies := (cs.filterMap (·.dependency? d.location)).eraseDups } := by
  induction cs using List.reverseRecOn with
  | nil =>
    rw [List.filterMap_nil, List.eraseDups_nil, ← h]
    rfl
  | append_singleton cs c ih =>
    have hlast : d.declareAll (cs ++ [c]) = (d.declareAll cs).declare c := declareAll_append d cs [c]
    rw [hlast, declare_eq, location_declareAll, ih, List.filterMap_append, List.filterMap_cons]
    cases c.dependency? d.location with
    | none => rw [List.filterMap_nil, List.append_nil]; rfl
    | some dep =>
      rw [List.filterMap_nil, ← add_firsts]
      rfl

/-- Each declaration is answered as if it were the first. -/
theorem declared_eq (d : Draft) (cs : List Declaration) :
    d.declared cs = cs.map fun c =>
      match d.location.canonical? c.path with
      | none => .error (.noCanonicalUrl c.path)
      | some _ => .ok () := by
  induction cs generalizing d with
  | nil => rfl
  | cons c cs ih =>
    rw [declared, ih, location_declare, List.map_cons, run_addDependency]
    cases d.location.canonical? c.path <;> rfl

/-! ## Declarations that are repeated

What is in the list already is not added again, and nothing is ever taken out by a declaration. So once a
declaration has been made, making it again does nothing, and the whole draft stays what it is. -/

/-- What a document depends on already is declared without effect. -/
theorem declare_of_mem (h : ∀ dep, c.dependency? d.location = some dep → dep ∈ d.dependencies) :
    d.declare c = d := by
  rw [declare_eq]
  cases hdep : c.dependency? d.location with
  | none => rfl
  | some dep => rw [Option.elim_some, add, if_pos (h dep hdep)]

/-- A run of declarations that says nothing new has no effect. -/
theorem declareAll_of_mem (h : ∀ c ∈ cs, ∀ dep, c.dependency? d.location = some dep →
    dep ∈ d.dependencies) : d.declareAll cs = d := by
  induction cs with
  | nil => rfl
  | cons c cs ih =>
    have hfirst : d.declare c = d := declare_of_mem (h c List.mem_cons_self)
    rw [declareAll_cons, hfirst]
    exact ih fun c hc => h c (List.mem_cons_of_mem _ hc)

/-- What has been declared is depended on, whatever has been declared besides. -/
theorem mem_declareAll (d : Draft) {dep : Dependency} :
    dep ∈ (d.declareAll cs).dependencies ↔
      dep ∈ d.dependencies ∨ ∃ c ∈ cs, c.dependency? d.location = some dep := by
  induction cs generalizing d with
  | nil => simp [declareAll]
  | cons c cs ih =>
    have hfirst : dep ∈ (d.declare c).dependencies ↔
        dep ∈ d.dependencies ∨ c.dependency? d.location = some dep := by
      rw [declare_eq]
      cases c.dependency? d.location with
      | none => simp
      | some other => simp [or_comm, eq_comm]
    rw [declareAll_cons, ih, hfirst, location_declare, List.exists_mem_cons_iff, or_assoc]

/-- Declarations that have been made before can be made again, all of them or some, without effect. -/
theorem declareAll_again (d : Draft) (h : again ⊆ cs) :
    (d.declareAll cs).declareAll again = d.declareAll cs := by
  refine declareAll_of_mem fun c hc dep hdep => (mem_declareAll d).mpr (.inr ⟨c, h hc, ?_⟩)
  rwa [location_declareAll] at hdep

/-! ## The list that comes of it

The closed form, for a document that depends on nothing to begin with. -/

/-- **Dependencies stand in the order of their first declarations.** Let a document that depends on nothing
yet declare dependencies. It then depends on those whose paths lead to a document, pending or not as
declared, each once and in the order in which they were first declared, and nothing else about it has
changed. The declarations whose paths lead to none are refused, each with its own path, and no others are.
Waiting for a document and depending on it are declared apart, and neither stands for the other. And what
has been declared before can be declared again at any time without effect. -/
theorem dependencies_in_order (d : Draft) (h : d.dependencies = []) (cs : List Declaration) :
    let wanted := cs.filterMap (·.dependency? d.location)
    let after := d.declareAll cs
    after = { d with dependencies := wanted.eraseDups } ∧
    FirstMentions wanted after.dependencies ∧
    d.declared cs = cs.map (fun c =>
      match d.location.canonical? c.path with
      | none => .error (.noCanonicalUrl c.path)
      | some _ => .ok ()) ∧
    (∀ key isPending, ofPath key isPending ∈ after.dependencies ↔
      ∃ c ∈ cs, c.isPending = isPending ∧ d.location.canonical? c.path = some key) ∧
    ∀ before again rest, cs = before ++ rest → again ⊆ before →
      d.declareAll (before ++ again ++ rest) = after := by
  intro wanted after
  have hafter : after = { d with dependencies := wanted.eraseDups } := declareAll_of_fresh h cs
  refine ⟨hafter, ?_, declared_eq d cs, fun key isPending => ?_, fun before again rest hcs hagain => ?_⟩
  · rw [hafter]
    exact firstMentions_eraseDups wanted
  · have hdeclares : ∀ c : Declaration, c.dependency? d.location = some (ofPath key isPending) ↔
        c.isPending = isPending ∧ d.location.canonical? c.path = some key := by
      intro c
      rw [Declaration.dependency?, Option.map_eq_some_iff]
      cases hpending : c.isPending <;> cases isPending <;> simp [ofPath]
    rw [mem_declareAll, h]
    simp [hdeclares]
  · have hagain' : (d.declareAll before).declareAll again = d.declareAll before :=
      declareAll_again d hagain
    rw [declareAll_append, declareAll_append, hagain', ← declareAll_append, ← hcs]

/-- Two documents in many spellings, one of which is also waited for, and three paths that lead to none. -/
theorem dependencies_in_order_intro :
    let d : Draft := { file := "guide/intro", titles := [⟨1, "Intro", "intro", "1"⟩] }
    let cs : List Declaration := [⟨"setup", true⟩, ⟨"../../etc", false⟩, ⟨"/api/types", false⟩,
      ⟨"./setup", false⟩, ⟨"", true⟩, ⟨"../guide/setup#usage", true⟩, ⟨"mailto:dev@example.com", false⟩]
    d.dependencies = [] ∧
    (d.declareAll cs).dependencies =
      [.pending "guide/setup", .resolved "api/types", .resolved "guide/setup"] ∧
    (d.declared cs).map (·.toOption.isSome) = [true, false, true, true, false, true, false] ∧
    (d.declareAll (cs ++ cs.take 3)) = d.declareAll cs := by
  intro d cs
  obtain ⟨hafter, -, hanswers, -, hagain⟩ := dependencies_in_order d rfl cs
  refine ⟨rfl, ?_, ?_, ?_⟩
  · rw [hafter]
    decide +kernel
  · rw [hanswers]
    decide +kernel
  · have hprefix := hagain cs (cs.take 3) [] (List.append_nil cs).symm (List.take_subset 3 cs)
    rwa [List.append_nil] at hprefix

end Draft

end Crosslink
