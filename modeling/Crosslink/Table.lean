/-!
# Tables

A finite table filed under text keys and read in key order. The rows are kept strictly ascending by
key (code point order), so a table *is* the list of its rows: two tables that answer every look-up
alike are equal.

* `get?`, `insert`, `erase`, `modify`, `mapWithKey` are the operations; each has one lemma that says
  what it does to every look-up.
* `ofList` files rows one after the other, so of two rows with one key the later stays.
* `ext_get?` is extensionality.
-/

namespace Crosslink

/-- Rows filed under text keys, in ascending key order. -/
structure Table (α : Type) where
  /-- the rows, each key once -/
  rows : List (String × α)
  /-- the keys strictly ascend -/
  ascending : rows.Pairwise (fun a b => a.1 < b.1)
  deriving DecidableEq, Repr

namespace Table

variable {α : Type}

/-- The table without rows. -/
def empty : Table α := ⟨[], .nil⟩

instance : EmptyCollection (Table α) := ⟨empty⟩

instance : Inhabited (Table α) := ⟨empty⟩

/-- The value filed under `key`. -/
def get? (t : Table α) (key : String) : Option α := t.rows.lookup key

/-- Whether a value is filed under `key`. -/
def contains (t : Table α) (key : String) : Bool := (t.get? key).isSome

/-- The keys, ascending. -/
def keys (t : Table α) : List String := t.rows.map (·.1)

/-- The values, in key order. -/
def values (t : Table α) : List α := t.rows.map (·.2)

/-- The number of rows. -/
def size (t : Table α) : Nat := t.rows.length

/-- Whether there is no row. -/
def isEmpty (t : Table α) : Bool := t.rows.isEmpty

/-! ## Rows in order

A value is filed where its key belongs, so that the rows ascend afterwards as they did before. That is all
that a table has to carry; whatever else is true of it is read off its rows. -/

/-- Files a value among ascending rows, in place of one with the same key. -/
def insertRow (key : String) (value : α) : List (String × α) → List (String × α)
  | [] => [(key, value)]
  | row :: rest =>
    if key < row.1 then (key, value) :: row :: rest
    else if key = row.1 then (key, value) :: rest
    else row :: insertRow key value rest

/-- A row that is there after a value has been filed is the new one, or it was there before. -/
theorem mem_insertRow {key : String} {value : α} {row : String × α}
    {rows : List (String × α)} (h : row ∈ insertRow key value rows) :
    row = (key, value) ∨ row ∈ rows := by
  induction rows with
  | nil => simpa [insertRow] using h
  | cons head rest ih =>
    rw [insertRow] at h
    split at h
    · simpa using h
    · split at h
      · rcases List.mem_cons.mp h with h | h
        · exact .inl h
        · exact .inr (List.mem_cons_of_mem _ h)
      · rcases List.mem_cons.mp h with h | h
        · exact .inr (h ▸ List.mem_cons_self)
        · exact (ih h).imp_right (List.mem_cons_of_mem _)

/-- Of two different keys one comes before the other. -/
theorem lt_of_not_lt_of_ne {a b : String} (h : ¬a < b) (hne : a ≠ b) : b < a := by
  refine Decidable.byContradiction fun hba => hne (String.le_antisymm ?_ ?_)
  · exact String.not_lt.mp hba
  · exact String.not_lt.mp h

/-- Rows that ascend still do after a value has been filed among them. -/
theorem ascending_insertRow (key : String) (value : α) {rows : List (String × α)}
    (h : rows.Pairwise (fun a b => a.1 < b.1)) :
    (insertRow key value rows).Pairwise (fun a b => a.1 < b.1) := by
  induction rows with
  | nil => simp [insertRow]
  | cons head rest ih =>
    obtain ⟨hhead, hrest⟩ := List.pairwise_cons.mp h
    rw [insertRow]
    split
    · rename_i hlt
      refine List.pairwise_cons.mpr ⟨fun row hrow => ?_, h⟩
      rcases List.mem_cons.mp hrow with rfl | hrow
      · exact hlt
      · exact String.lt_trans hlt (hhead row hrow)
    · split
      · rename_i heq
        exact List.pairwise_cons.mpr ⟨fun row hrow => heq ▸ hhead row hrow, hrest⟩
      · rename_i hlt hne
        refine List.pairwise_cons.mpr ⟨fun row hrow => ?_, ih hrest⟩
        rcases mem_insertRow hrow with rfl | hrow
        · exact lt_of_not_lt_of_ne hlt hne
        · exact hhead row hrow

/-! ## Operations

Each operation comes with the reason why its rows ascend: filing puts a row where it belongs, erasing
leaves some of the rows in their order, and a change of values touches no key. -/

/-- Files `value` under `key`, in place of what was there. -/
def insert (t : Table α) (key : String) (value : α) : Table α :=
  ⟨insertRow key value t.rows, ascending_insertRow key value t.ascending⟩

/-- Takes out the row filed under `key`, if any. -/
def erase (t : Table α) (key : String) : Table α :=
  ⟨t.rows.filter (fun row => row.1 ≠ key), t.ascending.filter _⟩

/-- Changes every value, given its key. -/
def mapWithKey {β : Type} (f : String → α → β) (t : Table α) : Table β :=
  ⟨t.rows.map (fun row => (row.1, f row.1 row.2)), t.ascending.map _ (fun _ _ h => h)⟩

/-- Changes the value filed under `key`, if any. -/
def modify (t : Table α) (key : String) (f : α → α) : Table α :=
  t.mapWithKey (fun k value => if k = key then f value else value)

/-- Files rows one after the other: of two rows with one key the later stays. -/
def ofList (rows : List (String × α)) : Table α :=
  rows.foldl (fun t row => t.insert row.1 row.2) empty

/-! ## What each operation does to a look-up

Later proofs do not look at rows. They ask what a table answers, and each operation says of every look-up
whether it is the one that changes. -/

@[simp]
theorem get?_empty (key : String) : (empty : Table α).get? key = none := rfl

theorem lookup_row (k : String) (row : String × α) (rest : List (String × α)) :
    (row :: rest).lookup k = if k = row.1 then some row.2 else rest.lookup k := by
  obtain ⟨key, value⟩ := row
  by_cases h : k = key
  · simp [h]
  · simp [List.lookup_cons, h, beq_false_of_ne h]

/-- Among the rows, the new value is found under its key, and any other key finds what it found. -/
theorem lookup_insertRow (key : String) (value : α) (k : String) (rows : List (String × α)) :
    (insertRow key value rows).lookup k = if k = key then some value else rows.lookup k := by
  induction rows with
  | nil => rw [insertRow, lookup_row]
  | cons head rest ih =>
    rw [insertRow]
    split
    · rw [lookup_row]
    · split
      · rename_i heq
        by_cases hk : k = key
        · simp [hk]
        · have hk' : k ≠ head.1 := fun e => hk (e.trans heq.symm)
          simp [lookup_row, hk, hk']
      · rename_i hne
        by_cases hk : k = head.1
        · have hk' : k ≠ key := fun e => hne (e.symm.trans hk)
          simp [lookup_row, hk, Ne.symm hne]
        · simp [lookup_row, hk, ih]

theorem get?_insert (t : Table α) (key : String) (value : α) (k : String) :
    (t.insert key value).get? k = if k = key then some value else t.get? k :=
  lookup_insertRow key value k t.rows

theorem get?_mapWithKey {β : Type} (f : String → α → β) (t : Table α) (k : String) :
    (t.mapWithKey f).get? k = (t.get? k).map (f k) := by
  obtain ⟨rows, h⟩ := t
  show (rows.map _).lookup k = (rows.lookup k).map (f k)
  clear h
  induction rows with
  | nil => rfl
  | cons head rest ih =>
    obtain ⟨k', v'⟩ := head
    by_cases hk : k = k' <;> simp [lookup_row, hk, ih]

/-- A change to the value under one key does not show under any other, and makes no row where there is
none. -/
theorem get?_modify (t : Table α) (key : String) (f : α → α) (k : String) :
    (t.modify key f).get? k = if k = key then (t.get? k).map f else t.get? k := by
  rw [modify, get?_mapWithKey]
  by_cases hk : k = key <;> simp [hk]

theorem get?_erase (t : Table α) (key k : String) :
    (t.erase key).get? k = if k = key then none else t.get? k := by
  obtain ⟨rows, h⟩ := t
  show (rows.filter _).lookup k = if k = key then none else rows.lookup k
  clear h
  induction rows with
  | nil => simp
  | cons head rest ih =>
    obtain ⟨k', v'⟩ := head
    by_cases hk' : k' = key
    · rw [List.filter_cons_of_neg (by simpa using hk'), ih, lookup_row]
      by_cases hk : k = key
      · simp [hk]
      · have : k ≠ k' := fun e => hk (e.trans hk')
        simp [hk, this]
    · rw [List.filter_cons_of_pos (by simpa using hk'), lookup_row, lookup_row, ih]
      by_cases hk : k = k'
      · simp [hk, hk']
      · simp [hk]

@[simp]
theorem keys_mapWithKey {β : Type} (f : String → α → β) (t : Table α) :
    (t.mapWithKey f).keys = t.keys := by
  simp [keys, mapWithKey, Function.comp_def]

/-! ## Rows and look-ups

The way back from look-ups to rows: since a key is there once, a row is there exactly if a look-up finds
it. It follows that a table is told by its look-ups, which is how two tables are proved equal throughout. -/

/-- A value is found under a key exactly if the two are a row. -/
theorem get?_eq_some_iff {t : Table α} {key : String} {value : α} :
    t.get? key = some value ↔ (key, value) ∈ t.rows := by
  obtain ⟨rows, h⟩ := t
  show rows.lookup key = some value ↔ (key, value) ∈ rows
  induction rows with
  | nil => simp
  | cons head rest ih =>
    obtain ⟨hhead, hrest⟩ := List.pairwise_cons.mp h
    obtain ⟨k', v'⟩ := head
    rw [lookup_row]
    by_cases hk : key = k'
    · subst hk
      have hnot : (key, value) ∉ rest := fun hmem => String.lt_irrefl key (hhead _ hmem)
      simp [hnot, eq_comm]
    · simp [hk, ih hrest]

theorem mem_keys_iff {t : Table α} {key : String} : key ∈ t.keys ↔ ∃ v, t.get? key = some v := by
  simp [keys, get?_eq_some_iff]

theorem contains_eq_true_iff {t : Table α} {key : String} :
    t.contains key = true ↔ key ∈ t.keys := by
  rw [mem_keys_iff, contains, Option.isSome_iff_exists]

theorem mem_keys_insert {t : Table α} {key : String} {value : α} {k : String} :
    k ∈ (t.insert key value).keys ↔ k = key ∨ k ∈ t.keys := by
  simp only [mem_keys_iff, get?_insert]
  by_cases h : k = key <;> simp [h]

/-- Of several rows with one key the last is filed. -/
theorem get?_ofList_eq_lookup (rows : List (String × α)) (key : String) :
    (ofList rows).get? key = rows.reverse.lookup key := by
  -- what a table holds before is found where no row is filed
  suffices ∀ t : Table α, (rows.foldl (fun t row => t.insert row.1 row.2) t).get? key =
      (rows.reverse.lookup key).or (t.get? key) by
    rw [ofList, this, get?_empty, Option.or_none]
  induction rows with
  | nil => exact fun t => rfl
  | cons row rows ih =>
    intro t
    rw [List.foldl_cons, ih, get?_insert, List.reverse_cons, List.lookup_append, Option.or_assoc,
      lookup_row]
    split <;> rfl

theorem mem_keys_ofList {rows : List (String × α)} {k : String} :
    k ∈ (ofList rows).keys ↔ k ∈ rows.map (·.1) := by
  rw [← contains_eq_true_iff, contains, get?_ofList_eq_lookup, List.lookup_isSome_iff, List.mem_map]
  simp only [List.mem_reverse, beq_iff_eq]
  exact exists_congr fun row => and_congr_right fun _ => eq_comm

/-- Of rows with different keys every one stays. -/
theorem get?_ofList {rows : List (String × α)} (h : (rows.map (·.1)).Nodup) {key : String}
    {value : α} (hrow : (key, value) ∈ rows) : (ofList rows).get? key = some value := by
  obtain ⟨before, after, rfl⟩ := List.append_of_mem hrow
  rw [List.map_append, List.map_cons] at h
  have hafter : key ∉ after.map (·.1) := (List.nodup_cons.mp (List.nodup_append.mp h).2.1).1
  rw [get?_ofList_eq_lookup, List.lookup_eq_some_iff]
  refine ⟨after.reverse, before.reverse, by simp, fun row hmem => bne_iff_ne.mpr ?_⟩
  rintro rfl
  exact hafter (List.mem_map_of_mem (List.mem_reverse.mp hmem))

/-- What is found in a table that was filed row by row was one of the rows. -/
theorem mem_of_get?_ofList {rows : List (String × α)} {key : String} {value : α}
    (h : (ofList rows).get? key = some value) : (key, value) ∈ rows := by
  rw [get?_ofList_eq_lookup, List.lookup_eq_some_iff] at h
  obtain ⟨behind, before, hrows, -⟩ := h
  rw [← List.mem_reverse, hrows]
  exact List.mem_append_right _ List.mem_cons_self

/-- The keys of a table are strictly ascending. -/
theorem ascending_keys (t : Table α) : t.keys.Pairwise (· < ·) :=
  List.pairwise_map.mpr t.ascending

/-- A table is determined by its look-ups. -/
theorem ext_get? {s t : Table α} (h : ∀ key, s.get? key = t.get? key) : s = t := by
  have hmem : ∀ row, row ∈ s.rows ↔ row ∈ t.rows := fun row => by
    rw [← get?_eq_some_iff (t := s), ← get?_eq_some_iff (t := t), h]
  obtain ⟨rows, hs⟩ := s
  obtain ⟨rows', ht⟩ := t
  suffices rows = rows' by subst this; rfl
  clear h
  induction rows generalizing rows' with
  | nil =>
    cases rows' with
    | nil => rfl
    | cons head rest => exact absurd ((hmem head).mpr List.mem_cons_self) List.not_mem_nil
  | cons head rest ih =>
    cases rows' with
    | nil => exact absurd ((hmem head).mp List.mem_cons_self) List.not_mem_nil
    | cons head' rest' =>
      obtain ⟨hlow, hrest⟩ := List.pairwise_cons.mp hs
      obtain ⟨hlow', hrest'⟩ := List.pairwise_cons.mp ht
      -- two ascending lists of one content begin with the same row, as the least one there is
      have hheads : head = head' := by
        rcases List.mem_cons.mp ((hmem head).mp List.mem_cons_self) with e | hm
        · exact e
        · rcases List.mem_cons.mp ((hmem head').mpr List.mem_cons_self) with e | hm'
          · exact e.symm
          · exact absurd (String.lt_trans (hlow' _ hm) (hlow _ hm')) (String.lt_irrefl _)
      subst hheads
      congr 1
      refine ih hrest rest' hrest' fun row => ⟨fun hm => ?_, fun hm => ?_⟩
      · rcases List.mem_cons.mp ((hmem row).mp (List.mem_cons_of_mem _ hm)) with e | hm'
        · exact absurd (e ▸ hlow _ hm) (String.lt_irrefl _)
        · exact hm'
      · rcases List.mem_cons.mp ((hmem row).mpr (List.mem_cons_of_mem _ hm)) with e | hm'
        · exact absurd (e ▸ hlow' _ hm) (String.lt_irrefl _)
        · exact hm'

end Table

end Crosslink
