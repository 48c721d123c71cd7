import Crosslink.Proofs.LabelReferences
import Crosslink.Proofs.ResolutionEffect
import Crosslink.Proofs.Snapshots

/-!
# Loaded entries

A snapshot writes the name of a document twice, as the name of a member and in the entry that is the value of
the member. A build files every entry under its own name, so in what it saves the two are the same. In a text
that comes from elsewhere they need not be, and loading compares them nowhere: an entry is filed under the name
of its member and keeps the name it gives itself.

* `Store.written?` reads the entry that a snapshot writes under a name off the text, and `Store.get?_load` says
  that it is the one which is filed there.
* `Store.SelfNamed` : the two names agree. `Store.filed_iff_selfNamed` : then, and only then, are the loaded
  entries filed under their own names.
* `Pass.Arrived` is what a reference to a document makes of the lists of dependencies, whatever name the entry
  gives.
* `Store.loaded_entries` puts it together; `Store.loaded_entry_misfiled` is a text where the names differ.
-/

namespace Crosslink

open Dependency Json

namespace Store

variable {text file : String} {store : Store} {entry : Entry}

/-! ## Snapshots as texts

A member of the text is read as a row of the store, its name as the key and its value as the entry. The
last of several members with one name is the one that stays, both in the text and in the store. -/

/-- The entry that a snapshot writes under a name; of several members with this name the last counts. -/
def written? (text file : String) : Option Entry :=
  match parse? text with
  | some (.object members) => (members.reverse.lookup (some file)).bind Entry.ofJson?
  | _ => none

/-- Every entry that a snapshot writes under a name gives itself this name. -/
def SelfNamed (text : String) : Prop :=
  ∀ file entry, written? text file = some entry → entry.file = file

/-- Members that are read as rows are looked up as these. -/
theorem lookup_of_forall₂ {members : List (Option String × Json)} {rows : List (String × Entry)}
    (h : List.Forall₂ (fun member row => member.1 = some row.1 ∧ Entry.ofJson? member.2 = some row.2)
      members rows) (file : String) :
    (members.lookup (some file)).bind Entry.ofJson? = rows.lookup file := by
  induction h with
  | nil => rfl
  | @cons member row members rows hread _ ih =>
    obtain ⟨name, json⟩ := member
    obtain ⟨rfl, hentry⟩ := hread
    rw [Table.lookup_row, List.lookup_cons]
    by_cases hfile : file = row.1
    · simp [hfile, hentry]
    · simp [hfile, beq_false_of_ne, ih]

/-- What a snapshot writes under a name is filed there when it is loaded. -/
theorem get?_load (h : load text = .ok store) (file : String) : store.get? file = written? text file := by
  unfold load at h
  split at h
  · rename_i read hread
    obtain rfl : read = store := Except.ok.inj h
    obtain ⟨json, hparse, hjson⟩ := Option.bind_eq_some_iff.mp hread
    unfold ofJson? at hjson
    split at hjson
    · rename_i members
      obtain ⟨rows, hrows, rfl⟩ := Option.map_eq_some_iff.mp hjson
      have hpairs : List.Forall₂ (fun (member : Option String × Json) (row : String × Entry) =>
          member.1 = some row.1 ∧ Entry.ofJson? member.2 = some row.2) members rows := by
        refine (forall₂_of_mapM hrows).imp fun member row hmember => ?_
        simp only [Option.bind_eq_bind, Option.bind_eq_some_iff] at hmember
        obtain ⟨name, hname, entry, hentry, hrow⟩ := hmember
        obtain rfl := Option.some.inj hrow
        exact ⟨hname, hentry⟩
      -- of two members of one name the later counts, so both sides are searched from the end
      rw [Table.get?_ofList_eq_lookup, written?, hparse]
      exact (lookup_of_forall₂ (List.forall₂_reverse_iff.mpr hpairs) file).symm
    · cases hjson
  · cases h

/-- The loaded entries are filed under their own names exactly if the snapshot writes them so. -/
theorem filed_iff_selfNamed (h : load text = .ok store) : store.Filed ↔ SelfNamed text := by
  simp only [Filed, SelfNamed, get?_load h]

/-- A store that files its entries under their own names saves them so. -/
theorem Filed.selfNamed_save (h : store.Filed) (hfits : store.Fits) : SelfNamed store.save :=
  (filed_iff_selfNamed (load_save hfits)).mp h

/-! ## What the names are for

The graph, the look-up of an anchor, the resolver of documents and a promotion go each by one of the two
names: by the one that an entry is filed under, or by the one that it gives itself. Where both are the
same it does not matter by which. -/

/-- The graph has the document that an entry gives itself as, wherever the entry is filed. -/
theorem contains_graph (h : store.get? file = some entry) : store.graph.contains entry.file = true := by
  rw [graph, Graph.contains_ofEntries]
  exact .inl ⟨entry, List.mem_map_of_mem (Table.get?_eq_some_iff.mp h), rfl⟩

/-- The graph has every document of a store that files its entries under their own names. -/
theorem Filed.contains_graph (h : store.Filed) (hfile : file ∈ store.keys) :
    store.graph.contains file = true := by
  obtain ⟨entry, hentry⟩ := Table.mem_keys_iff.mp hfile
  rw [← h file entry hentry]
  exact Store.contains_graph hentry

/-- An anchor is found in an entry of a document that such a store has. -/
theorem Filed.contains_of_findAnchor? {anchor title : String} (h : store.Filed)
    (hfound : store.findAnchor? anchor = some (entry, title)) : store.contains entry.file = true := by
  obtain ⟨-, file, hfirst⟩ := firstDefining_of_findAnchor? hfound
  rw [h file entry hfirst.filed, Table.contains_eq_true_iff]
  exact Table.mem_keys_iff.mpr ⟨entry, hfirst.filed⟩

end Store

namespace Pass

variable {p q : Pass} {target key file : String} {entry : Entry}

/-- `q` is `p` after a reference on the name `key` has led to `file`, as far as dependencies go. -/
structure Arrived (p q : Pass) (key file : String) : Prop where
  /-- in both copies of the list the pending name is promoted, or dropped if it leads out of the corpus -/
  lists : ∀ copy, q.list copy =
    if file = "" then drop (.pending key) (p.list copy) else promote key file (p.list copy)
  /-- a list that waited for the name has the file -/
  resolved : file ≠ "" → ∀ copy, .pending key ∈ p.list copy → .resolved file ∈ q.list copy
  /-- a list that held nothing twice does not wait for the name any more -/
  ended : ∀ copy, (p.list copy).Nodup → .pending key ∉ q.list copy

/-- What is said of the two lists is enough: the other two parts follow from what becomes of each. -/
theorem Arrived.of_lists (h : ∀ copy, q.list copy =
    if file = "" then drop (.pending key) (p.list copy) else promote key file (p.list copy)) :
    Arrived p q key file where
  lists := h
  resolved hfile copy hmem := by
    rw [h, if_neg hfile, resolved_mem_promote]
    exact .inr ⟨rfl, hmem⟩
  ended copy hnodup := by
    rw [h]
    split
    · simp
    · exact pending_not_mem_promote hnodup

/-- A reference on a name that has an entry leads to the document that the entry gives itself as. -/
theorem arrived_resolve (htarget : p.draft.location.canonical? target = some key)
    (hentry : p.store.get? key = some entry) :
    ∃ reference q, Call.run (resolve .standard "doc" target) p = (.ok (some reference), q) ∧
      reference.file = entry.file ∧ Arrived p q key entry.file := by
  have hkey := (p.draft.location.canonical?_trim target).trans htarget
  rw [run_resolve Registry.standard_doc, Resolver.resolve_doc]
  simp only [Resolver.resolveDoc, hkey, hentry, Option.map_some]
  refine ⟨_, _, rfl, rfl, .of_lists fun copy => ?_⟩
  rw [list_follow, change_of_key htarget, answered]

end Pass

namespace Store

/-- **What a loaded snapshot is filed under.** Let a text be loaded. Under each name the store has the entry
that the text writes under it, whatever name the entry gives itself. So the graph has the document that the
entry gives itself as, and a reference on the name leads to that document and ends the wait for the name with
it. Exactly if the text writes every entry under the name that it gives itself, all these are the name that it
is filed under: then the graph has every document of the store, an anchor is found in an entry of a document
of the store, and a reference to a document of the store leads there and makes a pending dependency on it a
resolved one; and what the store is saved as is such a text again. -/
theorem loaded_entries (h : load text = .ok store) :
    (∀ file, store.get? file = written? text file) ∧
    (store.Filed ↔ SelfNamed text) ∧
    (∀ file entry, store.get? file = some entry →
      store.graph.contains entry.file = true ∧
      ∀ p : Pass, p.store = store → ∀ target, p.draft.location.canonical? target = some file →
        ∃ reference q, Call.run (Pass.resolve .standard "doc" target) p = (.ok (some reference), q) ∧
          reference.file = entry.file ∧ p.Arrived q file entry.file) ∧
    (SelfNamed text →
      (∀ file ∈ store.keys, store.graph.contains file = true) ∧
      (∀ anchor entry title, store.findAnchor? anchor = some (entry, title) →
        store.contains entry.file = true) ∧
      (∀ file ∈ store.keys, ∀ p : Pass, p.store = store →
        ∀ target, p.draft.location.canonical? target = some file →
          ∃ reference q, Call.run (Pass.resolve .standard "doc" target) p = (.ok (some reference), q) ∧
            reference.file = file ∧ p.Arrived q file file) ∧
      SelfNamed store.save) := by
  refine ⟨get?_load h, filed_iff_selfNamed h, fun file entry hentry => ?any, fun hnamed => ?named⟩
  case any =>
    refine ⟨contains_graph hentry, ?_⟩
    rintro p rfl target htarget
    exact Pass.arrived_resolve htarget hentry
  case named =>
    have hfiled := (filed_iff_selfNamed h).mpr hnamed
    refine ⟨fun file => hfiled.contains_graph, fun anchor entry title => hfiled.contains_of_findAnchor?, ?_,
      hfiled.selfNamed_save (fits_of_load h)⟩
    rintro file hfile p rfl target htarget
    obtain ⟨entry, hentry⟩ := Table.mem_keys_iff.mp hfile
    obtain rfl := hfiled file entry hentry
    exact Pass.arrived_resolve htarget hentry

/-- A document that is written twice, with another name in the entry that does not count, and a document that
waits for it. -/
theorem loaded_entries_setup :
    let text := "\x7b\"setup\":[\"old\",\"\",null,[],[],[]],
      \"setup\":[\"setup\",\"setup.html\",null,[],[\"first\"],[]]\x7d"
    let setup : Entry := { file := "setup", url := "setup.html", anchors := ["first"] }
    let store : Store := Store.publish ∅ setup
    let p : Pass := { draft := { file := "index", dependencies := [.pending "setup"] }, store }
    load text = .ok store ∧ SelfNamed text ∧ store.graph.contains "setup" = true ∧
    (store.findAnchor? "first" = some (setup, "first") ∧ store.contains setup.file = true) ∧
    (∃ reference q, Call.run (Pass.resolve .standard "doc" "./setup#first") p = (.ok (some reference), q) ∧
      reference.file = "setup" ∧ q.draft.dependencies = [.resolved "setup"]) ∧
    SelfNamed store.save := by
  intro text setup store p
  have hload : load text = .ok store := by decide +kernel
  have hempty : Store.Filed ∅ := fun _ _ h => nomatch h
  have hfiled : store.Filed := hempty.publish setup
  obtain ⟨-, hnamed, -, hall⟩ := loaded_entries hload
  obtain ⟨hgraph, hanchor, hdoc, hsaved⟩ := hall (hnamed.mp hfiled)
  have hfile : "setup" ∈ store.keys := by decide +kernel
  have hfound : store.findAnchor? "first" = some (setup, "first") := by decide +kernel
  have htarget : p.draft.location.canonical? "./setup#first" = some "setup" := by decide +kernel
  obtain ⟨reference, q, hrun, hleads, harrived⟩ := hdoc "setup" hfile p rfl "./setup#first" htarget
  refine ⟨hload, hnamed.mp hfiled, hgraph _ hfile, ⟨hfound, hanchor _ _ _ hfound⟩,
    ⟨reference, q, hrun, hleads, ?_⟩, hsaved⟩
  exact (harrived.lists .draft).trans (by decide +kernel)

/-- A document that was moved by hand, with the name of the member changed and the name in the entry left as
it was: the graph does not have it, its anchor is found in a document that the store does not have, and a
reference to it leads to that one and makes a pending dependency a resolved one on it. -/
theorem loaded_entry_misfiled :
    let text := "\x7b\"guide/setup\":\x7b\"file\":\"setup\",\"url\":\"setup.html\",
      \"titles\":[],\"anchors\":[\"first\"],\"dependencies\":[]\x7d\x7d"
    let moved : Entry := { file := "setup", url := "setup.html", anchors := ["first"] }
    let store : Store := Table.ofList [("guide/setup", moved)]
    let p : Pass := { draft := { file := "index", dependencies := [.pending "guide/setup"] }, store }
    let result := Call.run (Pass.resolve .standard "doc" "/guide/setup") p
    load text = .ok store ∧ ¬store.Filed ∧ store.keys = ["guide/setup"] ∧
    store.graph.contains "guide/setup" = false ∧
    store.findAnchor? "first" = some (moved, "first") ∧ store.contains moved.file = false ∧
    p.draft.location.canonical? "/guide/setup" = some "guide/setup" ∧
    result.1 = .ok (some { file := "setup", url := "setup.html" }) ∧
    result.2.draft.dependencies = [.resolved "setup"] := by
  intro text moved store p result
  have hmoved : store.get? "guide/setup" = some moved := by decide +kernel
  refine ⟨by decide +kernel, fun hfiled => ?_, by decide +kernel, by decide +kernel, by decide +kernel,
    by decide +kernel, by decide +kernel, by decide +kernel, by decide +kernel⟩
  exact absurd (hfiled "guide/setup" moved hmoved) (by decide)

end Store

end Crosslink
