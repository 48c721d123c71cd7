import Crosslink.Graph
import Mathlib.Data.List.Induction
import Mathlib.Data.List.Sort
import Mathlib.Logic.Relation

/-!
# What has to be built again

The graph of a list of entries has exactly the edges that the entries write down, in ascending order, and
stepping back along them finds exactly the documents from which a chain of dependencies leads to the one
that has changed.

* `DependsOn` is one step of such a chain, read off the entries and not off the graph.
* `mem_edges_ofEntries` : the edges of the graph are these steps.
* `mem_sourcesOf` : following every edge back once, and dropping it, loses no chain.
* `dependents_exact` : the answers to the two questions, for any entries in any order.
-/

namespace Crosslink

/-- A document has an entry, one of those given, that depends on the known document `target`. -/
def DependsOn (entries : List Entry) (source target : String) : Prop :=
  ∃ entry ∈ entries, entry.file = source ∧ .resolved target ∈ entry.dependencies

/-! ## Sorted texts

The answers of a graph are sorted and hold nothing twice, whatever the entries repeat. -/

@[simp]
theorem mem_sortDistinct {text : String} {texts : List String} :
    text ∈ sortDistinct texts ↔ text ∈ texts := by
  rw [sortDistinct, Table.mem_keys_ofList, List.map_map]
  simp

theorem ascending_sortDistinct (texts : List String) : (sortDistinct texts).Pairwise (· < ·) :=
  Table.ascending_keys _

namespace Graph

variable {g : Graph} {source target path a b : String} {targets : List String}

/-! ## Edges and documents of a graph

A graph is a table of targets by source. An edge is a target in the row of its source, and a document is a
row, with targets or without. -/

/-- The documents that a document of the graph depends on. -/
def targetsOf (g : Graph) (source : String) : List String := (g.links.get? source).getD []

theorem mem_edges : (a, b) ∈ g.edges ↔ b ∈ g.targetsOf a := by
  simp only [edges, List.mem_flatMap, List.mem_map, targetsOf]
  constructor
  · rintro ⟨⟨source, targets⟩, hrow, target, htarget, e⟩
    cases e
    rw [Table.get?_eq_some_iff.mpr hrow]
    exact htarget
  · intro h
    cases hrow : g.links.get? a with
    | none => rw [hrow] at h; cases h
    | some targets =>
      rw [hrow] at h
      exact ⟨(a, targets), Table.get?_eq_some_iff.mp hrow, b, h, rfl⟩

theorem contains_iff : g.contains path = true ↔ path ∈ g.links.keys := Table.contains_eq_true_iff

/-- Empty rows for the documents that have none change no edge. -/
theorem get?_addRows (links : Table (List String)) (a : String) :
    ((targets.foldl (fun t target => if t.contains target then t else t.insert target []) links).get?
      a).getD [] = (links.get? a).getD [] := by
  induction targets generalizing links with
  | nil => rfl
  | cons target targets ih =>
    rw [List.foldl_cons, ih]
    split
    · rfl
    · rename_i h
      rw [Table.get?_insert]
      split
      · rename_i ha
        subst ha
        have hnone : links.get? a = none := by simpa [Table.contains] using h
        rw [hnone]
        rfl
      · rfl

/-- Each of these documents is one of the graph afterwards. -/
theorem mem_keys_addRows (links : Table (List String)) (a : String) :
    a ∈ (targets.foldl (fun t target => if t.contains target then t else t.insert target [])
      links).keys ↔ a ∈ links.keys ∨ a ∈ targets := by
  induction targets generalizing links with
  | nil => simp
  | cons target targets ih =>
    rw [List.foldl_cons, ih, List.mem_cons, ← or_assoc]
    refine or_congr_left ?_
    split
    · rename_i h
      rw [Table.contains_eq_true_iff] at h
      constructor
      · exact .inl
      · rintro (hmem | rfl)
        · exact hmem
        · exact h
    · rw [Table.mem_keys_insert, or_comm]

/-- A link adds to the row of its source and to no other. -/
theorem targetsOf_link :
    (g.link source targets).targetsOf a =
      if a = source then sortDistinct (g.targetsOf source ++ targets) else g.targetsOf a := by
  rw [link, targetsOf, get?_addRows, Table.get?_insert]
  split <;> rfl

theorem mem_edges_link :
    (a, b) ∈ (g.link source targets).edges ↔ (a, b) ∈ g.edges ∨ a = source ∧ b ∈ targets := by
  rw [mem_edges, mem_edges, targetsOf_link]
  split
  · rename_i h
    subst h
    simp
  · rename_i h
    simp [h]

/-- Its source and its targets are documents of the graph afterwards. -/
theorem contains_link :
    (g.link source targets).contains a = true ↔ g.contains a = true ∨ a = source ∨ a ∈ targets := by
  rw [contains_iff, contains_iff, link, mem_keys_addRows, Table.mem_keys_insert, or_assoc,
    or_left_comm]

/-! ## The graph of a list of entries

The graph is built entry by entry, and so are the steps that the entries write down. By induction from the
end the two are one. -/

theorem ofEntries_append (entries : List Entry) (entry : Entry) :
    ofEntries (entries ++ [entry]) =
      (ofEntries entries).link entry.file (Dependency.resolvedPaths entry.dependencies) := by
  simp [ofEntries, List.foldl_append]

/-- One entry more writes down the steps from its own document. -/
theorem dependsOn_append (entries : List Entry) (entry : Entry) :
    DependsOn (entries ++ [entry]) a b ↔
      DependsOn entries a b ∨ entry.file = a ∧ .resolved b ∈ entry.dependencies := by
  simp [DependsOn, or_and_right, exists_or]

/-- The edges of the graph of a list of entries are the steps that the entries write down. -/
theorem mem_edges_ofEntries {entries : List Entry} :
    (a, b) ∈ (ofEntries entries).edges ↔ DependsOn entries a b := by
  induction entries using List.reverseRecOn with
  | nil => exact ⟨fun h => absurd h List.not_mem_nil, fun ⟨_, h, _⟩ => absurd h List.not_mem_nil⟩
  | append_singleton entries entry ih =>
    rw [ofEntries_append, mem_edges_link, dependsOn_append, ih, Dependency.mem_resolvedPaths]
    refine or_congr_right (and_congr_left fun _ => ?_)
    exact eq_comm

/-- Its documents are those that have an entry and those that an entry depends on. -/
theorem contains_ofEntries {entries : List Entry} :
    (ofEntries entries).contains a = true ↔
      (∃ entry ∈ entries, entry.file = a) ∨ ∃ source, DependsOn entries source a := by
  induction entries using List.reverseRecOn with
  | nil =>
    have hempty : (ofEntries []).contains a = false := rfl
    simp [hempty, DependsOn]
  | append_singleton entries entry ih =>
    rw [ofEntries_append, contains_link, ih, Dependency.mem_resolvedPaths]
    simp only [dependsOn_append, List.mem_append, List.mem_singleton, or_and_right, exists_or,
      exists_eq_left, exists_and_right, exists_eq', true_and]
    rw [eq_comm (a := a)]
    exact or_or_or_comm

/-! ## Ascending answers

Every answer ascends: targets do in their rows, edges by source and then by target, and what is collected
along edges is sorted in the end. -/

/-- Every document of the graph depends on an ascending list of documents. -/
theorem ascending_targetsOf_ofEntries (entries : List Entry) (source : String) :
    ((ofEntries entries).targetsOf source).Pairwise (· < ·) := by
  induction entries using List.reverseRecOn with
  | nil => exact .nil
  | append_singleton entries entry ih =>
    rw [ofEntries_append, targetsOf_link]
    split
    · exact ascending_sortDistinct _
    · exact ih

/-- Where the targets of every document ascend, so do the edges, first by source and then by target. -/
theorem ascending_edges (h : ∀ source, (g.targetsOf source).Pairwise (· < ·)) :
    g.edges.Pairwise fun a b => a.1 < b.1 ∨ a.1 = b.1 ∧ a.2 < b.2 := by
  rw [edges, List.pairwise_flatMap]
  constructor
  · intro row hrow
    have htargets := h row.1
    rw [targetsOf, Table.get?_eq_some_iff.mpr hrow, Option.getD_some] at htargets
    refine List.pairwise_map.mpr (htargets.imp fun hlt => ?_)
    exact .inr ⟨rfl, hlt⟩
  · refine g.links.ascending.imp fun hlt a ha b hb => ?_
    obtain ⟨_, -, rfl⟩ := List.mem_map.mp ha
    obtain ⟨_, -, rfl⟩ := List.mem_map.mp hb
    exact .inl hlt

/-- The sources of the edges into a document ascend with the edges. -/
theorem ascending_directDependents (h : ∀ source, (g.targetsOf source).Pairwise (· < ·)) :
    (g.directDependents path).Pairwise (· < ·) := by
  refine List.pairwise_map.mpr (List.pairwise_filter.mpr ?_)
  refine (ascending_edges h).imp fun hlt ha hb => ?_
  simp only [decide_eq_true_eq] at ha hb
  rcases hlt with hlt | ⟨-, hlt⟩
  · exact hlt
  · -- both edges end in `path`, so the second one cannot come later by its target
    rw [ha, hb] at hlt
    exact absurd hlt (String.lt_irrefl _)

theorem ascending_dependents : (g.dependents path).Pairwise (· < ·) :=
  (ascending_sortDistinct _).filter _

/-! ## Chains of edges

To find all documents from which a chain leads to a given one, the edges into it are followed back and
then dropped, and so on from their sources. The difficulty is that an edge that has been dropped is not
there any more for a chain that would pass it later. A chain that ends in the document can be cut at its
first entry into it, and the part before that does not need the dropped edges: `Chain.cut`. -/

theorem mem_sourcesInto {edges : List (String × String)} :
    a ∈ sourcesInto edges path ↔ (a, path) ∈ edges := by
  simp [sourcesInto]

theorem mem_edgesBesides {edges : List (String × String)} :
    (a, b) ∈ edgesBesides edges path ↔ (a, b) ∈ edges ∧ b ≠ path := by
  simp [edgesBesides]

/-- A chain of edges. -/
def Chain (edges : List (String × String)) : String → String → Prop :=
  Relation.TransGen fun a b => (a, b) ∈ edges

/-- A chain along some of the edges is one along all of them. -/
theorem Chain.of_besides {edges : List (String × String)} (h : Chain (edgesBesides edges path) a b) :
    Chain edges a b :=
  Relation.TransGen.mono (fun _ _ hedge => (mem_edgesBesides.mp hedge).1) _ _ h

/-- A chain begins with an edge into `path`, or it begins with a chain that never enters `path` and leads
to the source of an edge into it, or it never enters `path`. -/
theorem Chain.cut {edges : List (String × String)} (h : Chain edges a b) (path : String) :
    (a, path) ∈ edges ∨ (∃ c, (c, path) ∈ edges ∧ Chain (edgesBesides edges path) a c) ∨
      b ≠ path ∧ Chain (edgesBesides edges path) a b := by
  induction h using Relation.TransGen.head_induction_on with
  | @single a hedge =>
    by_cases hb : b = path
    · exact .inl (hb ▸ hedge)
    · exact .inr (.inr ⟨hb, .single (mem_edgesBesides.mpr ⟨hedge, hb⟩)⟩)
  | @head a c hedge _ ih =>
    by_cases hc : c = path
    · exact .inl (hc ▸ hedge)
    · -- the first edge does not enter `path`, so it can be put before what is known of the rest
      have hfirst : (a, c) ∈ edgesBesides edges path := mem_edgesBesides.mpr ⟨hedge, hc⟩
      rcases ih with hinto | ⟨d, hinto, hchain⟩ | ⟨hb, hchain⟩
      · exact .inr (.inl ⟨c, hinto, .single hfirst⟩)
      · exact .inr (.inl ⟨d, hinto, .head hfirst hchain⟩)
      · exact .inr (.inr ⟨hb, .head hfirst hchain⟩)

/-- Stepping back from the documents `todo` finds the sources of all chains that end in one of them,
though each edge is followed only once. -/
theorem mem_sourcesOf (edges : List (String × String)) (todo : List String) :
    a ∈ sourcesOf edges todo ↔ ∃ b ∈ todo, Chain edges a b := by
  induction edges, todo using sourcesOf.induct with
  | case1 edges => simp [sourcesOf]
  | case2 edges path todo ih =>
    rw [sourcesOf, List.mem_append, ih, mem_sourcesInto]
    constructor
    · rintro (hedge | ⟨b, hb, hchain⟩)
      · exact ⟨path, List.mem_cons_self, .single hedge⟩
      · rcases List.mem_append.mp hb with hinto | htodo
        · exact ⟨path, List.mem_cons_self, .tail hchain.of_besides (mem_sourcesInto.mp hinto)⟩
        · exact ⟨b, List.mem_cons_of_mem _ htodo, hchain.of_besides⟩
    · rintro ⟨b, hb, hchain⟩
      rcases hchain.cut path with hedge | ⟨c, hinto, hrest⟩ | ⟨hne, hrest⟩
      · exact .inl hedge
      · exact .inr ⟨c, List.mem_append_left _ (mem_sourcesInto.mpr hinto), hrest⟩
      · exact .inr ⟨b, List.mem_append_right _ ((List.mem_cons.mp hb).resolve_left hne), hrest⟩

theorem mem_directDependents : a ∈ g.directDependents path ↔ (a, path) ∈ g.edges :=
  mem_sourcesInto

/-- The documents to build again are the sources of chains, the changed document itself aside. -/
theorem mem_dependents : a ∈ g.dependents path ↔ Chain g.edges a path ∧ a ≠ path := by
  simp [dependents, mem_sourcesOf]

/-! ## The answers

The chains of the graph are those of the entries, so nothing is left in the answers that would depend on
how the graph was built. -/

variable {entries : List Entry}

/-- A chain of edges is a chain of steps that the entries write down. -/
theorem chain_ofEntries :
    Chain (ofEntries entries).edges a b ↔ Relation.TransGen (DependsOn entries) a b := by
  have h : (fun a b => (a, b) ∈ (ofEntries entries).edges) = DependsOn entries := by
    funext a b
    exact propext mem_edges_ofEntries
  rw [Chain, h]

/-- A document that is not in the graph is not at the end of any chain. -/
theorem not_chain_of_not_contains (h : (ofEntries entries).contains path = false) :
    ¬Relation.TransGen (DependsOn entries) a path := by
  intro hchain
  obtain ⟨b, -, hlast⟩ := Relation.TransGen.tail'_iff.mp hchain
  have hcontains := contains_ofEntries.mpr (.inr ⟨b, hlast⟩)
  rw [h] at hcontains
  cases hcontains

/-- **The rebuild query is exact reachability.** The documents to build again are those from which a
chain of resolved dependencies leads to the changed one, and the direct dependents are those at one end
of a single step; both come ascending, and there are none for what is no document of the graph. Neither
the order of the entries nor repeated entries matter. -/
theorem dependents_exact (entries : List Entry) (path : String) :
    let g := ofEntries entries
    ((g.dependents path).Pairwise (· < ·) ∧
      ∀ d, d ∈ g.dependents path ↔ d ≠ path ∧ Relation.TransGen (DependsOn entries) d path) ∧
    ((g.directDependents path).Pairwise (· < ·) ∧
      ∀ d, d ∈ g.directDependents path ↔ DependsOn entries d path) ∧
    ((g.contains path = true ↔
        (∃ entry ∈ entries, entry.file = path) ∨ ∃ source, DependsOn entries source path) ∧
      (g.contains path = false → g.dependents path = [] ∧ g.directDependents path = [])) ∧
    ∀ others : List Entry, (∀ entry, entry ∈ others ↔ entry ∈ entries) →
      (ofEntries others).dependents path = g.dependents path ∧
      (ofEntries others).directDependents path = g.directDependents path := by
  have hall : ∀ (entries : List Entry) (d : String), d ∈ (ofEntries entries).dependents path ↔
      d ≠ path ∧ Relation.TransGen (DependsOn entries) d path := fun entries d => by
    rw [mem_dependents, chain_ofEntries, and_comm]
  have hdirect : ∀ (entries : List Entry) (d : String),
      d ∈ (ofEntries entries).directDependents path ↔ DependsOn entries d path := fun entries d => by
    rw [mem_directDependents, mem_edges_ofEntries]
  have hascending : ∀ entries : List Entry,
      ((ofEntries entries).directDependents path).Pairwise (· < ·) := fun entries =>
    ascending_directDependents (ascending_targetsOf_ofEntries entries)
  refine ⟨⟨ascending_dependents, hall entries⟩, ⟨hascending entries, hdirect entries⟩,
    ⟨contains_ofEntries, fun hnode => ⟨?_, ?_⟩⟩, fun others hothers => ?_⟩
  · refine List.eq_nil_iff_forall_not_mem.mpr fun d hd => ?_
    exact not_chain_of_not_contains hnode ((hall entries d).mp hd).2
  · refine List.eq_nil_iff_forall_not_mem.mpr fun d hd => ?_
    exact not_chain_of_not_contains hnode (.single ((hdirect entries d).mp hd))
  · -- ascending lists with the same members are equal, and membership is said by the steps alone
    have hsteps : DependsOn others = DependsOn entries := by
      funext a b
      simp only [DependsOn, hothers]
    constructor
    · refine ascending_dependents.eq_of_mem_iff ascending_dependents fun d => ?_
      rw [hall, hall, hsteps]
    · refine (hascending others).eq_of_mem_iff (hascending entries) fun d => ?_
      rw [hdirect, hdirect, hsteps]

end Graph

end Crosslink
