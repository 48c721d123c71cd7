import Crosslink.Report
import Mathlib.Data.List.Induction

/-!
# What a report lists

A report takes in the broken references of one document after the other, and between them what
reconciliations left over, and lists both by document. Nothing that is taken in is lost, whatever the order,
and a document that comes twice has one row.

* `Table.Groups` : a table lists items by the keys that they are filed under. `Groups.extend` keeps it when
  items are filed under one more key.
* `Report.ofIntakes` is the report of a run of intakes. Both of its tables list what has been taken in:
  `groups_brokenLinks`, `groups_unresolved`.
-/

namespace Crosslink

/-! ## Items by key

A table of lists is compared with the pairs that have been filed, one after the other. For the look-up,
each key must have all its items in order; for the total, the items of all rows must be a permutation of
what was filed. Both are kept when items are put behind those of a key, and both are needed, since a table
does not tell in which order its keys came. -/

namespace Table

variable {α : Type} {t : Table (List α)} {key : String} {items : List α} {pairs : List (String × α)}

/-- Rows item by item, each with its key. -/
def pairsOf (rows : List (String × List α)) : List (String × α) :=
  rows.flatMap fun (key, items) => items.map (key, ·)

/-- The items of the first row, and then those of the others. -/
theorem pairsOf_cons (key : String) (items : List α) (rows : List (String × List α)) :
    pairsOf ((key, items) :: rows) = items.map (key, ·) ++ pairsOf rows := rfl

/-- The items that are filed under a key, in order. -/
def filedUnder (key : String) (pairs : List (String × α)) : List α :=
  (pairs.filter (·.1 = key)).map (·.2)

theorem filedUnder_append (key : String) (pairs others : List (String × α)) :
    filedUnder key (pairs ++ others) = filedUnder key pairs ++ filedUnder key others := by
  rw [filedUnder, List.filter_append, List.map_append, ← filedUnder, ← filedUnder]

/-- Items that are all filed under one key are found there and nowhere else. -/
theorem filedUnder_map (key file : String) (items : List α) :
    filedUnder key (items.map (file, ·)) = if file = key then items else [] := by
  rw [filedUnder, List.filter_map, List.map_map]
  split
  · rename_i hfile
    simp [Function.comp_def, hfile]
  · rename_i hfile
    simp [Function.comp_def, hfile]

/-- A table lists items by the keys that they are filed under: each key with all its items, in order, and no
key without an item. -/
structure Groups (t : Table (List α)) (pairs : List (String × α)) : Prop where
  get?_eq_some_iff : ∀ key items, t.get? key = some items ↔ items ≠ [] ∧ items = filedUnder key pairs
  perm : (pairsOf t.rows).Perm pairs

/-- Items that are put behind those of a key are put among the rows, and nothing else is moved. -/
theorem pairsOf_insertRow {rows : List (String × List α)} (h : rows.Pairwise (fun a b => a.1 < b.1))
    (key : String) (items : List α) :
    (pairsOf (insertRow key ((rows.lookup key).getD [] ++ items) rows)).Perm
      (pairsOf rows ++ items.map (key, ·)) := by
  induction rows with
  | nil => simp [insertRow, pairsOf]
  | cons row rest ih =>
    obtain ⟨head, old⟩ := row
    obtain ⟨hhead, hrest⟩ := List.pairwise_cons.mp h
    rw [insertRow, lookup_row]
    by_cases hlt : key < head
    · -- all keys are behind the new one, so that nothing is filed under it yet
      have hnone : rest.lookup key = none := List.lookup_eq_none_iff.mpr fun row hrow => by
        simpa using String.ne_of_lt (String.lt_trans hlt (hhead row hrow))
      rw [if_pos hlt, if_neg (String.ne_of_lt hlt), hnone, pairsOf_cons]
      exact List.perm_append_comm
    · rw [if_neg hlt]
      by_cases heq : key = head
      · rw [if_pos heq, if_pos heq, heq, pairsOf_cons, pairsOf_cons, Option.getD_some, List.map_append,
          List.append_assoc, List.append_assoc]
        exact List.perm_append_comm.append_left _
      · rw [if_neg heq, if_neg heq, pairsOf_cons, pairsOf_cons, List.append_assoc]
        exact (ih hrest).append_left _

namespace Groups

theorem empty : Groups (∅ : Table (List α)) [] where
  get?_eq_some_iff key items := by
    constructor
    · intro hget
      cases hget
    · rintro ⟨hne, hnil⟩
      exact absurd hnil hne
  perm := .nil

/-- What a table files under a key, with nothing for a key that is not there. -/
theorem getD_get? (h : t.Groups pairs) (key : String) : (t.get? key).getD [] = filedUnder key pairs := by
  cases hget : t.get? key with
  | some items => exact ((h.get?_eq_some_iff key items).mp hget).2
  | none =>
    by_contra hne
    have hsome := (h.get?_eq_some_iff key (filedUnder key pairs)).mpr ⟨Ne.symm hne, rfl⟩
    rw [hget] at hsome
    cases hsome

/-- To put some items behind those of a key is to file them after all others. -/
theorem extend (h : t.Groups pairs) (key : String) (hitems : items ≠ []) :
    (Report.extend t key items).Groups (pairs ++ items.map (key, ·)) where
  get?_eq_some_iff other others := by
    rw [Report.extend, get?_insert, h.getD_get?, filedUnder_append, filedUnder_map]
    by_cases hkey : other = key
    · have hne : filedUnder key pairs ++ items ≠ [] := fun e => hitems (List.append_eq_nil_iff.mp e).2
      subst hkey
      rw [if_pos rfl, if_pos rfl, Option.some.injEq]
      exact ⟨fun e => ⟨e ▸ hne, e.symm⟩, fun e => e.2.symm⟩
    · rw [if_neg hkey, if_neg (Ne.symm hkey), List.append_nil]
      exact h.get?_eq_some_iff other others
  perm := (pairsOf_insertRow t.ascending key items).trans (h.perm.append_right _)

/-- There is no row if nothing is filed. -/
theorem isEmpty_iff (h : t.Groups pairs) : t.isEmpty = true ↔ pairs = [] := by
  rw [isEmpty, List.isEmpty_iff]
  constructor
  · intro hrows
    have hperm := h.perm
    rw [hrows] at hperm
    exact List.nil_perm.mp hperm
  · rintro rfl
    -- a row would have an item
    refine List.eq_nil_iff_forall_not_mem.mpr fun (key, items) hrow => ?_
    obtain ⟨hne, hnil⟩ := (h.get?_eq_some_iff key items).mp (Table.get?_eq_some_iff.mpr hrow)
    exact hne hnil

/-- All the items of a table, counted. -/
theorem length_flatten (h : t.Groups pairs) : t.values.flatten.length = pairs.length := by
  have hlength : t.values.flatten.length = (pairsOf t.rows).length := by
    simp [values, pairsOf, List.length_flatten, List.length_flatMap, Function.comp_def]
  rw [hlength, h.perm.length_eq]

end Groups

end Table

/-! ## Reports

An intake is a document at the end of its pass, or what a reconciliation has left over. The two tables of
a report grow by one of the two each, so each is followed along the intakes that concern it. -/

/-- The broken references of a document, with the document. -/
def Draft.broken (d : Draft) : List (String × BrokenLink) := d.brokenLinks.map (d.file, ·)

/-- What is taken into a report. -/
inductive Intake where
  /-- the broken references of a document -/
  | document (draft : Draft)
  /-- what a reconciliation left over -/
  | reconciliation (r : Store.Reconciliation)

namespace Intake

/-- The documents that are taken in, in order. -/
def documents (intakes : List Intake) : List Draft :=
  intakes.filterMap fun
    | document draft => some draft
    | reconciliation _ => none

/-- The pairs of a document and a name that it still waits for that are taken in, in order. -/
def pending (intakes : List Intake) : List (String × String) :=
  intakes.flatMap fun
    | document _ => []
    | reconciliation r => r.stillPending

/-- The documents of a run of intakes, and of what follows it. -/
theorem documents_append (intakes others : List Intake) :
    documents (intakes ++ others) = documents intakes ++ documents others :=
  List.filterMap_append

/-- What is left over along a run, and along what follows it. -/
theorem pending_append (intakes others : List Intake) :
    pending (intakes ++ others) = pending intakes ++ pending others :=
  List.flatMap_append

/-- Nothing is left over in a run exactly if no reconciliation in it left anything over. -/
theorem pending_eq_nil_iff {intakes : List Intake} :
    pending intakes = [] ↔ ∀ r, .reconciliation r ∈ intakes → r.stillPending = [] := by
  rw [pending, List.flatMap_eq_nil_iff]
  constructor
  · intro h r hr
    exact h _ hr
  · intro h intake hintake
    cases intake with
    | document draft => rfl
    | reconciliation r => exact h r hintake

end Intake

/-- The broken references of some documents by document. -/
theorem Table.filedUnder_flatMap_broken (file : String) (drafts : List Draft) :
    filedUnder file (drafts.flatMap Draft.broken) =
      (drafts.filter (·.file = file)).flatMap (·.brokenLinks) := by
  induction drafts with
  | nil => rfl
  | cons draft drafts ih =>
    rw [List.flatMap_cons, filedUnder_append, ih, Draft.broken, filedUnder_map]
    by_cases hfile : draft.file = file
    · rw [if_pos hfile, List.filter_cons_of_pos (by simpa using hfile), List.flatMap_cons]
    · rw [if_neg hfile, List.filter_cons_of_neg (by simpa using hfile), List.nil_append]

namespace Report

variable {report : Report} {pairs : List (String × String)}

/-- The report after an intake. -/
def take (report : Report) : Intake → Report
  | .document draft => report.record draft
  | .reconciliation r => report.recordReconciliation r

/-- The report of some intakes, one after the other. -/
def ofIntakes (intakes : List Intake) : Report := intakes.foldl take {}

theorem ofIntakes_append_singleton (intakes : List Intake) (intake : Intake) :
    ofIntakes (intakes ++ [intake]) = (ofIntakes intakes).take intake := by
  rw [ofIntakes, List.foldl_append, ← ofIntakes]
  rfl

/-- One pair at a time. -/
theorem groups_foldl_extend {t : Table (List String)} (h : t.Groups pairs) (more : List (String × String)) :
    (more.foldl (fun t (file, key) => extend t file [key]) t).Groups (pairs ++ more) := by
  induction more generalizing t pairs with
  | nil =>
    rw [List.append_nil]
    exact h
  | cons pair more ih =>
    obtain ⟨file, key⟩ := pair
    rw [List.append_cons]
    exact ih (h.extend file (List.cons_ne_nil key []))

/-- The broken references of a report are those of the documents that have been taken in. -/
theorem groups_brokenLinks (intakes : List Intake) :
    (ofIntakes intakes).brokenLinks.Groups ((Intake.documents intakes).flatMap Draft.broken) := by
  induction intakes using List.reverseRecOn with
  | nil => exact .empty
  | append_singleton intakes intake ih =>
    rw [ofIntakes_append_singleton, Intake.documents_append, List.flatMap_append]
    cases intake with
    | reconciliation r =>
      have hnone : (Intake.documents [.reconciliation r]).flatMap Draft.broken = [] := rfl
      rw [hnone, List.append_nil]
      exact ih
    | document draft =>
      have hone : (Intake.documents [.document draft]).flatMap Draft.broken = draft.broken :=
        List.append_nil _
      rw [hone, take, record]
      -- a document without broken references gets no row
      split
      · rename_i hnone
        rw [Draft.broken, hnone, List.map_nil, List.append_nil]
        exact ih
      · rename_i hsome
        exact ih.extend draft.file hsome

/-- The names that a report lists as unresolved are those that have been left over. -/
theorem groups_unresolved (intakes : List Intake) :
    (ofIntakes intakes).unresolved.Groups (Intake.pending intakes) := by
  induction intakes using List.reverseRecOn with
  | nil => exact .empty
  | append_singleton intakes intake ih =>
    rw [ofIntakes_append_singleton, Intake.pending_append]
    cases intake with
    | reconciliation r =>
      have hone : Intake.pending [.reconciliation r] = r.stillPending := List.append_nil _
      rw [hone]
      exact groups_foldl_extend ih r.stillPending
    | document draft =>
      have hnone : Intake.pending [.document draft] = [] := rfl
      have hsame : ((ofIntakes intakes).take (.document draft)).unresolved =
          (ofIntakes intakes).unresolved := by
        rw [take, record]
        split <;> rfl
      rw [hnone, List.append_nil, hsame]
      exact ih

end Report

end Crosslink
