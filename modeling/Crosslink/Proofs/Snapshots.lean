import Crosslink.Proofs.WrittenJson
import Crosslink.Snapshot
import Mathlib.Data.List.Nodup
import Mathlib.Data.List.Count
import Mathlib.Data.List.Forall2

/-!
# What a snapshot keeps

A store that is saved and loaded again is the store that it was, whatever stands in its entries, and so
are the values that are written on one line. Nothing depends on where a snapshot came from: whatever text
could be loaded, saving what was loaded and loading it again gives the same.

* `Json.fields?_record` : the fields of a record are found again under their names, for every kind of
  record.
* `ofJson?_toJson`, `isPlain_toJson` of each type: its JSON stands for the value, and is written without
  loss.
* `Store.Fits` : the levels of all titles fit in 64 bits. That is the only condition, and every store that
  is loaded meets it: `Store.fits_of_load`.
* `Store.snapshots_kept` puts it together.
-/

namespace Crosslink

namespace Json

/-! ## Records

A record is an object with known fields. It is written in one order and read by name, so reading it back
needs that its fields have different names; what each of them holds is then read on its own. Fields that
may be missing are written as null. -/

variable {α : Type} {members : List (String × Json)}

theorem names?_record (members : List (String × Json)) :
    names? (named members) = some (members.map (·.1)) := by
  rw [names?, named, List.mapM_map]
  exact List.mapM_pure

/-- Each of them is looked up under its name, if no two have one name. -/
theorem lookup_named (h : (members.map (·.1)).Nodup) :
    (members.map (·.1)).map (fun name => (named members).lookup (some name)) =
      members.map (some ·.2) := by
  induction members with
  | nil => rfl
  | cons member members ih =>
    obtain ⟨hmember, hmembers⟩ := List.nodup_cons.mp h
    have hhead : (named (member :: members)).lookup (some member.1) = some member.2 :=
      List.lookup_cons_self
    have htail : ∀ name ∈ members.map (·.1),
        (named (member :: members)).lookup (some name) = (named members).lookup (some name) := by
      intro name hname
      have hne : name ≠ member.1 := by
        rintro rfl
        exact hmember hname
      have hfalse : (some name == some member.1) = false := by simpa using hne
      exact List.lookup_cons.trans (by rw [hfalse]; rfl)
    rw [List.map_cons, List.map_cons, List.map_cons, hhead, List.map_congr_left htail, ih hmembers]

/-- The fields of a record are found under their names, if no two have the same name. -/
theorem fields?_record {mayEndEarly : Bool} {fields : List String}
    (hfields : members.map (·.1) = fields) (h : fields.Nodup) :
    fields? mayEndEarly fields (record members) = some (members.map (some ·.2)) := by
  have hcount : fields.all (fields.count · ≤ 1) = true := by
    simpa using fun name _ => List.nodup_iff_count_le_one.mp h name
  have hrecord : record members = .object (named members) := rfl
  rw [hrecord, fields?, names?_record, hfields]
  simp only [hcount, if_true]
  rw [← hfields, lookup_named (hfields ▸ h)]

theorem mapM_map_eq_some {β γ : Type} {f : α → β} {g : β → Option γ} {h : α → γ} {items : List α}
    (hg : ∀ item ∈ items, g (f item) = some (h item)) :
    (items.map f).mapM g = some (items.map h) := by
  induction items with
  | nil => rfl
  | cons item items ih =>
    obtain ⟨hitem, hitems⟩ := List.forall_mem_cons.mp hg
    rw [List.map_cons, List.mapM_cons, hitem, ih hitems]
    rfl

/-- A list is found again if its items are. -/
theorem asList?_array {write : α → Json} {read? : Json → Option α} {items : List α}
    (h : ∀ item ∈ items, read? (write item) = some item) :
    asList? read? (.array (items.map write)) = some items := by
  have hitems := mapM_map_eq_some (h := id) h
  rwa [List.map_id] at hitems

/-- A list of values that are written without loss is written without loss. -/
theorem isPlain_array {write : α → Json} {items : List α} (h : ∀ item ∈ items, IsPlain (write item)) :
    IsPlain (.array (items.map write)) := by
  refine .array fun json hjson => ?_
  obtain ⟨item, hitem, rfl⟩ := List.mem_map.mp hjson
  exact h item hitem

@[simp]
theorem isPlain_optionalText (s : Option String) : IsPlain (optionalText s) := by
  cases s with
  | none => exact .null
  | some s => exact .text s

@[simp]
theorem asText?_ofText (s : String) : asText? (ofText s) = some s := rfl

@[simp]
theorem optionalField?_optionalText (s : Option String) :
    optionalField? (some (optionalText s)) = some s := by
  cases s <;> rfl

/-- A number is read as such if it fits in 64 bits. -/
theorem asNatural?_natural {n : Nat} (h : n < Nat.pow 2 64) : asNatural? (natural n) = some n :=
  if_pos h

/-- A value that is written without loss is read back from one line. -/
theorem read_compact {write : α → Json} {read? : Json → Option α} {a : α} (hplain : IsPlain (write a))
    (h : read? (write a) = some a) : (parse? (compact (write a))).bind read? = some a := by
  rw [compact, hplain.parse?_write, Option.bind_some, h]

end Json

open Json

/-! ## The values of a build

For each type two facts: its JSON is plain, so that writing it loses nothing, and it is read back as the
value that it stands for. Only a level can be too large for that, since readers take numbers of 64 bits
and no more. -/

namespace Dependency

theorem isPlain_toJson (d : Dependency) : IsPlain d.toJson := by
  cases d <;> exact .record (by simp)

theorem ofJson?_toJson (d : Dependency) : ofJson? d.toJson = some d := by
  cases d <;> rfl

end Dependency

/-- The level of a title fits in 64 bits. -/
def Heading.Fits (heading : Heading) : Prop := heading.level < Nat.pow 2 64

instance (heading : Heading) : Decidable heading.Fits := inferInstanceAs (Decidable (_ < _))

namespace Heading

theorem isPlain_toJson (heading : Heading) : IsPlain heading.toJson :=
  .record (by simp)

theorem ofJson?_toJson {heading : Heading} (h : heading.Fits) :
    ofJson? heading.toJson = some heading := by
  have hlevel : asNatural? (natural heading.level) = some heading.level := asNatural?_natural h
  rw [ofJson?, toJson, fields?_record (by rfl) (by decide)]
  simp [hlevel]

end Heading

/-- The levels of all titles of an entry fit. -/
def Entry.Fits (entry : Entry) : Prop := ∀ heading ∈ entry.titles, heading.Fits

instance (entry : Entry) : Decidable entry.Fits :=
  inferInstanceAs (Decidable (∀ heading ∈ entry.titles, heading.Fits))

namespace Entry

theorem isPlain_toJson (entry : Entry) : IsPlain entry.toJson := by
  have htitles : IsPlain (.array (entry.titles.map Heading.toJson)) :=
    isPlain_array fun heading _ => heading.isPlain_toJson
  have hanchors : IsPlain (.array (entry.anchors.map ofText)) := isPlain_array fun anchor _ => .text anchor
  have hdependencies : IsPlain (.array (entry.dependencies.map Dependency.toJson)) :=
    isPlain_array fun d _ => d.isPlain_toJson
  exact .record (by simp [htitles, hanchors, hdependencies])

theorem ofJson?_toJson {entry : Entry} (h : entry.Fits) : ofJson? entry.toJson = some entry := by
  have htitles : asList? Heading.ofJson? (.array (entry.titles.map Heading.toJson)) =
      some entry.titles :=
    asList?_array fun heading hheading => Heading.ofJson?_toJson (h heading hheading)
  have hanchors : asList? asText? (.array (entry.anchors.map ofText)) = some entry.anchors :=
    asList?_array fun anchor _ => asText?_ofText anchor
  have hdependencies : asList? Dependency.ofJson? (.array (entry.dependencies.map Dependency.toJson)) =
      some entry.dependencies := asList?_array fun d _ => Dependency.ofJson?_toJson d
  rw [ofJson?, toJson, fields?_record (by rfl) (by decide)]
  simp [htitles, hanchors, hdependencies]

end Entry

namespace BrokenLink

theorem isPlain_toJson (link : BrokenLink) : IsPlain link.toJson :=
  .record (by simp)

theorem ofJson?_toJson (link : BrokenLink) : ofJson? link.toJson = some link := by
  rw [ofJson?, toJson, fields?_record (by rfl) (by decide)]
  simp

end BrokenLink

namespace Reference

theorem isPlain_toJson (reference : Reference) : IsPlain reference.toJson :=
  .record (by simp)

theorem ofJson?_toJson (reference : Reference) : ofJson? reference.toJson = some reference := by
  rw [ofJson?, toJson, fields?_record (by rfl) (by decide)]
  simp

end Reference

namespace Config

theorem isPlain_toJson (config : Config) : IsPlain config.toJson :=
  .record (by simp)

theorem ofJson?_toJson (config : Config) : ofJson? config.toJson = some config := by
  rw [ofJson?, toJson, fields?_record (by rfl) (by decide)]
  simp [fieldOr?, asBool?]

end Config

namespace Fault

theorem isPlain_toJson (fault : Fault) : IsPlain fault.toJson := by
  cases fault with
  | permissionDenied => exact .text _
  | _ => exact .record (by simp)

theorem ofJson?_toJson (fault : Fault) : ofJson? fault.toJson = some fault := by
  cases fault <;> rfl

end Fault

/-! ## Stores

A store is written as one object, with the names as the names of its members. The rows ascend and have
different names, so that filing them again gives the same table. -/

namespace Table

variable {α : Type}

/-- A table is filed again from its own rows. -/
theorem ofList_rows (t : Table α) : ofList t.rows = t := by
  have hkeys : (t.rows.map (·.1)).Nodup := t.ascending_keys.imp fun {a b} hab heq => by
    subst heq
    exact String.lt_irrefl a hab
  refine ext_get? fun key => ?_
  cases hget : t.get? key with
  | some value => exact get?_ofList hkeys (get?_eq_some_iff.mp hget)
  | none =>
    cases hfiled : (ofList t.rows).get? key with
    | none => rfl
    | some value =>
      obtain ⟨old, hold⟩ := mem_keys_iff.mp (mem_keys_ofList.mp (mem_keys_iff.mpr ⟨value, hfiled⟩))
      rw [hget] at hold
      cases hold

end Table

namespace Store

/-- The levels of all titles of a store fit. -/
def Fits (store : Store) : Prop := ∀ entry ∈ store.values, entry.Fits

instance (store : Store) : Decidable store.Fits :=
  inferInstanceAs (Decidable (∀ entry ∈ store.values, entry.Fits))

theorem isPlain_toJson (store : Store) : IsPlain store.toJson := by
  refine .record fun member hmember => ?_
  obtain ⟨row, -, rfl⟩ := List.mem_map.mp hmember
  exact Entry.isPlain_toJson row.2

theorem ofJson?_toJson {store : Store} (h : store.Fits) : ofJson? store.toJson = some store := by
  have hmembers : store.toJson = .object (store.rows.map fun row => (some row.1, row.2.toJson)) := by
    rw [toJson, record, List.map_map]
    rfl
  have hrows : (store.rows.map fun row => (some row.1, row.2.toJson)).mapM
      (fun (member : Option String × Json) => do
        return (← member.1, ← Entry.ofJson? member.2)) = some (store.rows.map id) := by
    refine mapM_map_eq_some fun row hrow => ?_
    have hentry := Entry.ofJson?_toJson (h row.2 (List.mem_map_of_mem hrow))
    simp [hentry]
  rw [hmembers, ofJson?, hrows, List.map_id, Option.map_some, Table.ofList_rows]

/-- A store is loaded from its snapshot. -/
theorem load_save {store : Store} (h : store.Fits) : load store.save = .ok store := by
  have hread : (parse? store.save).bind ofJson? = some store := by
    rw [save, pretty, (isPlain_toJson store).parse?_write, Option.bind_some, ofJson?_toJson h]
  rw [load, hread]

end Store

/-! ## Loaded stores

Whatever a text holds, a level that was read from it has been checked to fit. So nothing has to be asked
of a store that was loaded. -/

/-- Reading a list gives one result for each item, in order. -/
theorem Json.forall₂_of_mapM {α β : Type} {f : α → Option β} {items : List α} {results : List β}
    (h : items.mapM f = some results) :
    List.Forall₂ (fun item result => f item = some result) items results := by
  induction items generalizing results with
  | nil =>
    obtain rfl : [] = results := Option.some.inj h
    exact .nil
  | cons item items ih =>
    simp only [List.mapM_cons, Option.bind_eq_bind, Option.bind_eq_some_iff] at h
    obtain ⟨first, hfirst, others, hothers, hresults⟩ := h
    obtain rfl : first :: others = results := Option.some.inj hresults
    exact .cons hfirst (ih hothers)

/-- Every result of a list comes from one of its items. -/
theorem Json.exists_of_mem_mapM {α β : Type} {f : α → Option β} {items : List α} {results : List β}
    (h : items.mapM f = some results) : ∀ result ∈ results, ∃ item ∈ items, f item = some result := by
  have hread := forall₂_of_mapM h
  clear h
  induction hread with
  | nil => exact nofun
  | cons hfirst _ ih =>
    refine List.forall_mem_cons.mpr ⟨⟨_, List.mem_cons_self, hfirst⟩, fun result hresult => ?_⟩
    obtain ⟨old, hold, hread⟩ := ih result hresult
    exact ⟨old, List.mem_cons_of_mem _ hold, hread⟩

theorem Json.lt_of_asNatural? {json : Json} {n : Nat} (h : asNatural? json = some n) :
    n < Nat.pow 2 64 := by
  unfold asNatural? at h
  split at h
  · split at h
    · rename_i hlt
      obtain rfl := Option.some.inj h
      exact hlt
    · cases h
  · cases h

theorem Heading.fits_of_ofJson? {json : Json} {heading : Heading} (h : ofJson? json = some heading) :
    heading.Fits := by
  unfold ofJson? at h
  split at h
  · simp only [Option.bind_eq_bind, Option.bind_eq_some_iff] at h
    obtain ⟨level, hlevel, text, -, anchor, -, number, -, hheading⟩ := h
    obtain rfl := Option.some.inj hheading
    exact lt_of_asNatural? hlevel
  · cases h

theorem Entry.fits_of_ofJson? {json : Json} {entry : Entry} (h : ofJson? json = some entry) :
    entry.Fits := by
  unfold ofJson? at h
  split at h
  · simp only [Option.bind_eq_bind, Option.bind_eq_some_iff] at h
    obtain ⟨file, -, url, -, title, -, titles, htitles, anchors, -, dependencies, -, hentry⟩ := h
    obtain rfl := Option.some.inj hentry
    intro heading hheading
    unfold asList? at htitles
    split at htitles
    · obtain ⟨json, -, hread⟩ := exists_of_mem_mapM htitles heading hheading
      exact Heading.fits_of_ofJson? hread
    · cases htitles
  · cases h

namespace Store

theorem fits_of_ofJson? {json : Json} {store : Store} (h : ofJson? json = some store) : store.Fits := by
  unfold ofJson? at h
  split at h
  · simp only [Option.map_eq_some_iff] at h
    obtain ⟨rows, hrows, rfl⟩ := h
    intro entry hentry
    obtain ⟨⟨file, entry⟩, hrow, rfl⟩ := List.mem_map.mp hentry
    obtain ⟨member, -, hread⟩ :=
      exists_of_mem_mapM hrows _ (Table.mem_of_get?_ofList (Table.get?_eq_some_iff.mpr hrow))
    simp only [Option.bind_eq_bind, Option.bind_eq_some_iff] at hread
    obtain ⟨name, -, value, hvalue, hrow⟩ := hread
    obtain ⟨rfl, rfl⟩ := Prod.mk.inj (Option.some.inj hrow)
    exact Entry.fits_of_ofJson? hvalue
  · cases h

/-- In a store that was loaded all levels fit. -/
theorem fits_of_load {text : String} {store : Store} (h : load text = .ok store) : store.Fits := by
  unfold load at h
  split at h
  · rename_i read hread
    obtain rfl : read = store := Except.ok.inj h
    obtain ⟨json, -, hjson⟩ := Option.bind_eq_some_iff.mp hread
    exact fits_of_ofJson? hjson
  · cases h

/-- **Snapshots lose nothing.** A store whose levels fit in 64 bits is loaded from its snapshot as it
was; every store that could be loaded is such a store, so that saving it and loading it again changes
nothing. The other values that leave a build, each on one line, are read back as well. -/
theorem snapshots_kept :
    (∀ store : Store, store.Fits → load store.save = .ok store) ∧
      (∀ text store, load text = .ok store → load store.save = .ok store) ∧
      (∀ reference : Reference,
        (parse? (compact reference.toJson)).bind Reference.ofJson? = some reference) ∧
      (∀ link : BrokenLink, (parse? (compact link.toJson)).bind BrokenLink.ofJson? = some link) ∧
      (∀ config : Config, (parse? (compact config.toJson)).bind Config.ofJson? = some config) ∧
      ∀ fault : Fault, (parse? (compact fault.toJson)).bind Fault.ofJson? = some fault := by
  refine ⟨fun store => load_save, fun text store h => load_save (fits_of_load h), fun reference => ?_,
    fun link => ?_, fun config => ?_, fun fault => ?_⟩
  · exact read_compact (Reference.isPlain_toJson _) (Reference.ofJson?_toJson _)
  · exact read_compact (BrokenLink.isPlain_toJson _) (BrokenLink.ofJson?_toJson _)
  · exact read_compact (Config.isPlain_toJson _) (Config.ofJson?_toJson _)
  · exact read_compact (Fault.isPlain_toJson _) (Fault.ofJson?_toJson _)

/-- A name with quotes and a line end, and the largest level; a text with the fields in another order, one
that is no field, and a title without names. -/
theorem snapshots_kept_awkward :
    let store : Store := Table.ofList [("\"a\\b\"\n\t\u0001", {
      file := "\"a\\b\"\n\t\u0001"
      url := "a.html"
      title := none
      titles := [⟨18446744073709551615, "Ünïcode \u2028", "", "1"⟩]
      anchors := ["x", "x"]
      dependencies := [.pending "b", .resolved "../c", .pending "b"] })]
    let text := "\x7b\"a\": \x7b\"url\":\"\",\"file\":\"\\u0061\\/\",\"more\":null,
      \"titles\":[[0,\"T\",\"t\",\"\"]],\"anchors\":[],\"dependencies\":[\x7b\"Pending\":\"b\"\x7d]\x7d\x7d"
    let loaded : Store := Table.ofList [("a", {
      file := "a/", url := "", titles := [⟨0, "T", "t", ""⟩], dependencies := [.pending "b"] })]
    (store.Fits ∧ load store.save = .ok store) ∧
      (load text = .ok loaded ∧ load loaded.save = .ok loaded) := by
  intro store text loaded
  have hfits : store.Fits := by decide +kernel
  have hload : load text = .ok loaded := by decide +kernel
  exact ⟨⟨hfits, snapshots_kept.1 store hfits⟩, hload, snapshots_kept.2.1 text loaded hload⟩

end Store

end Crosslink
