import Crosslink.Proofs.Calls
import Crosslink.Proofs.RelativeLinks

/-!
# Names as links

A document is named by normalizing a path, and a link is read by trimming it, cutting its fragment off and
normalizing what is left. So a name with a slash in front of it is a link to its document only if trimming
and cutting leave it as it is. Every other document can be compiled and published, but its rooted name
leads elsewhere.

* `Path.Spellable` are the names that are left as they are.
* `Path.sublist_of_walk` : a walk leaves segments in the order in which it met them, so normalizing cannot
  bring back what has been cut off (`Path.eq_empty_of_normalize_append`).
* `Location.canonical?_rooted_iff` : a rooted name is a link to its document exactly if it is spellable.
* `Draft.names_referable` : then references to the document lead to it once it is published, and wait for
  it till then; `Draft.name_not_referable` shows names that are not spellable.
-/

namespace Crosslink

open Dependency

namespace Path

variable {path name : String} {trail segs out : List String}

/-- A name that is left as it is where links are trimmed and their fragments cut off. -/
structure Spellable (name : String) : Prop where
  /-- no fragment begins in it -/
  unmarked : '#' ∉ name.toList
  /-- no white space stands at its end -/
  solid : ∀ c, name.toList.getLast? = some c → Text.isBlank c = false

instance (name : String) : Decidable (Spellable name) :=
  decidable_of_iff ('#' ∉ name.toList ∧ name.toList.getLast?.all (!Text.isBlank ·) = true) (by
    rw [Option.all_eq_true]
    constructor
    · rintro ⟨hunmarked, hsolid⟩
      exact ⟨hunmarked, fun c hc => by simpa using hsolid c hc⟩
    · rintro ⟨hunmarked, hsolid⟩
      exact ⟨hunmarked, fun c hc => by simpa using hsolid c hc⟩)

/-! ## Nothing comes back

Reading a rooted name strips its end and cuts it at a mark, and then normalizes what is left. What is left
is a beginning of the name, and its normal form would have to be the whole name again. A walk leaves what
it has met, in order, so it cannot be longer than what it was given. -/

/-- What a walk leaves it has met before, in this order. -/
theorem sublist_of_walk (h : walk trail segs = some out) : out.Sublist (trail.reverse ++ segs) := by
  induction segs generalizing trail with
  | nil =>
    rw [walk_nil] at h
    rw [← Option.some.inj h, List.append_nil]
  | cons seg segs ih =>
    rw [walk_cons] at h
    split at h
    · exact (ih h).trans ((List.sublist_cons_self seg segs).append_left _)
    · split at h
      · cases trail with
        | nil => cases h
        | cons last up =>
          -- both the segment that is taken back and the one that takes it back are left out
          rw [List.reverse_cons, List.append_assoc]
          refine (ih h).trans (List.Sublist.append_left ?_ _)
          exact (List.sublist_cons_self seg segs).trans (List.sublist_append_right [last] _)
      · have hout := ih h
        rwa [List.reverse_cons, List.append_assoc] at hout

/-- Normalizing puts nothing behind a path that has been cut off from it. -/
theorem eq_empty_of_normalize_append (h : normalize path = some (path ++ name))
    (hslash : '/' ∉ name.toList) : name = "" := by
  by_cases hempty : path ++ name = ""
  · exact (String.append_eq_empty_iff.mp hempty).2
  · have hsub := sublist_of_walk (walk_of_normalize h hempty)
    rw [List.reverse_nil, List.nil_append] at hsub
    -- the cut off part holds no slash, so both paths have as many segments
    have hinit : (segments (path ++ name)).dropLast.length = (segments path).dropLast.length := by
      rw [dropLast_segments_append hslash]
    have hpos := List.length_pos_iff.mpr (segments_ne_nil path)
    have hpos' := List.length_pos_iff.mpr (segments_ne_nil (path ++ name))
    rw [List.length_dropLast, List.length_dropLast] at hinit
    have hsame : segments (path ++ name) = segments path := hsub.eq_of_length (by omega)
    have hjoin : path ++ name = path := by
      rw [← join_segments (path ++ name), hsame, join_segments]
    have hchars := congrArg String.toList hjoin
    rw [String.toList_append, List.append_right_eq_self] at hchars
    exact String.toList_eq_nil_iff.mp hchars

end Path

/-! ## Rooted names

A name is its own normal form, so whether its rooted link leads back to it is decided by the two cuts
alone. -/

namespace Location

variable {loc : Location} {name : String}

/-- A rooted link is read from the root: what stands behind its slash, without white space at the end and
up to its fragment. -/
theorem canonical?_rooted (loc : Location) (link : String) :
    loc.canonical? ("/" ++ link) =
      (Path.normalize (Fragment.path (.ofList (Text.stripEnd Text.isBlank link.toList)))).filter
        (· ≠ "") := by
  have hslash : Text.isBlank '/' = false := by decide
  have htrim : Text.trim ("/" ++ link) =
      "/" ++ String.ofList (Text.stripEnd Text.isBlank link.toList) := by
    apply String.ext
    simp only [Text.trim, String.toList_append, String.toList_ofList]
    exact Text.strip_cons_of_neg hslash link.toList
  have hjoined : ∀ path, loc.joined ("/" ++ path) = path := by
    intro path
    rw [joined, String.toList_append]
    exact String.ofList_toList
  have hne : ∀ path, "/" ++ path ≠ "" := fun path e =>
    absurd (String.append_eq_empty_iff.mp e).1 (by decide)
  simp only [canonical?, htrim, Fragment.path_rooted, hjoined]
  rw [if_neg (by simp [hne, Url.isExternal_rooted])]

/-- A name is made of what is left of it when white space is stripped off its end, and of text that holds
no slash. -/
theorem exists_stripped (name : String) :
    ∃ rest, name = String.ofList (Text.stripEnd Text.isBlank name.toList) ++ rest ∧
      '/' ∉ rest.toList := by
  obtain ⟨rest, hname, hblank⟩ := Text.exists_stripEnd Text.isBlank name.toList
  refine ⟨.ofList rest, ?_, fun hslash => ?_⟩
  · apply String.ext
    rw [String.toList_append, String.toList_ofList, String.toList_ofList, ← hname]
  · rw [String.toList_ofList] at hslash
    exact absurd (hblank _ hslash) (by decide)

/-- A rooted name is a link to its document exactly if it is spellable. -/
theorem canonical?_rooted_iff (h : Path.IsName name) (loc : Location) :
    loc.canonical? ("/" ++ name) = some name ↔ Path.Spellable name := by
  rw [canonical?_rooted]
  constructor
  · intro hlink
    obtain ⟨hnormal, -⟩ := Option.filter_eq_some_iff.mp hlink
    have hunmarked : '#' ∉ name.toList := fun hmark =>
      Fragment.mark_not_mem_path _ (Path.mem_of_normalize hnormal (by decide) hmark)
    obtain ⟨rest, hname, hslash⟩ := exists_stripped name
    generalize hcut : String.ofList (Text.stripEnd Text.isBlank name.toList) = cut at hnormal hname
    -- without a fragment nothing but the white space is cut off, and that does not come back
    have hpath : Fragment.path cut = cut := by
      refine Fragment.path_of_unmarked fun hmark => hunmarked ?_
      rw [hname, String.toList_append]
      exact List.mem_append_left _ hmark
    rw [hpath, hname] at hnormal
    rw [Path.eq_empty_of_normalize_append hnormal hslash, String.append_empty] at hname
    refine ⟨hunmarked, fun c hlast => ?_⟩
    rw [hname, ← hcut, String.toList_ofList] at hlast
    exact Text.not_of_getLast?_stripEnd hlast
  · intro hspell
    have hsolid : Text.stripEnd Text.isBlank name.toList = name.toList :=
      Text.stripEnd_eq_self hspell.solid
    rw [hsolid, String.ofList_toList, Fragment.path_of_unmarked hspell.unmarked, h.normal,
      Option.filter_some, if_pos (decide_eq_true h.ne_empty)]

end Location

/-! ## References to documents

Where the rooted name of a document is a link to it, every step of a reference can be followed: the
mention waits for that name, the publication files an entry under it, the reconciliation finds it, and the
resolution leads there. -/

namespace Store

/-- A reconciliation ends every wait for a document that is there by now, and reports it. -/
theorem reconcile_of_pending {store : Store} {file key : String} {entry : Entry}
    (hentry : store.get? file = some entry) (hmem : .pending key ∈ entry.dependencies)
    (hknown : store.contains key = true) :
    (file, key) ∈ store.reconcile.1.promoted ∧ store.reconcile.2.Holds file (.resolved key) ∧
      ¬store.reconcile.2.Holds file (.pending key) := by
  have hreconciled : store.reconcile.2.get? file =
      some (entry.mapDependencies (promoteAll store.contains)) := by
    rw [get?_reconcile, hentry, Option.map_some]
  rw [holds_iff hreconciled, holds_iff hreconciled, reconcile_report]
  refine ⟨List.mem_filter.mpr ⟨(mem_waiting store).mpr ⟨entry, hentry, hmem⟩, hknown⟩,
    resolved_mem_promoteAll.mpr (.inr ⟨hknown, hmem⟩), fun hpending => ?_⟩
  have hunknown := (pending_mem_promoteAll.mp hpending).2
  rw [hknown] at hunknown
  cases hunknown

end Store

namespace Pass

variable {p : Pass} {target key : String} {entry : Entry}

/-- A reference to a document that has an entry leads to the file of that entry. -/
theorem answer_of_entry (htarget : p.draft.location.canonical? target = some key)
    (hentry : p.store.get? key = some entry) :
    ∃ reference, (Call.run (resolve .standard "doc" target) p).1 = .ok (some reference) ∧
      reference.file = entry.file := by
  rw [run_resolve Registry.standard_doc, Resolver.resolve_doc]
  simp only [Resolver.resolveDoc, Location.canonical?_trim, htarget, hentry]
  exact ⟨_, rfl, rfl⟩

/-- A mentioned document that is not published yet becomes a pending dependency. -/
theorem run_found_unpublished (htarget : p.draft.location.canonical? target = some key)
    (hnew : p.store.contains key = false) :
    Call.run (found .standard "doc" target) p =
      (.ok (), { p with draft := { p.draft with
        dependencies := add (.pending key) p.draft.dependencies } }) := by
  rw [run_found_doc, mention, htarget]
  simp only [hnew]
  rfl

end Pass

namespace Draft

theorem isName_of_start {file directory : String} {config : Config} {d : Draft}
    (h : start file config directory = .ok d) : Path.IsName d.file := by
  obtain ⟨name, hname, rfl⟩ := start_eq_ok h
  exact Path.isName_of_filter hname

/-- **Which documents can be referred to by their names.** Let a document be compiled. Its rooted name is a
link to it, from wherever it is read, exactly if the name holds no mark of a fragment and does not end in
white space. In that case a reference with this link leads to the document as soon as that is published;
before, a mention with this link makes the document a pending dependency. Whatever store a reconciliation
meets later, if the mentioning document is published in it with the list that it had then, and the
mentioned one is published, the dependency is promoted. -/
theorem names_referable (file directory : String) (config : Config) (d : Draft)
    (h : start file config directory = .ok d) :
    (∀ loc : Location, loc.canonical? ("/" ++ d.file) = some d.file ↔ Path.Spellable d.file) ∧
    (Path.Spellable d.file → ∀ p : Pass,
      (∀ entry, p.store.get? d.file = some entry → entry.file = d.file →
        ∃ reference, (Call.run (Pass.resolve .standard "doc" ("/" ++ d.file)) p).1 =
            .ok (some reference) ∧ reference.file = d.file) ∧
      (p.store.contains d.file = false →
        ∃ q, Call.run (Pass.found .standard "doc" ("/" ++ d.file)) p = (.ok (), q) ∧
          q.draft.dependencies = add (.pending d.file) p.draft.dependencies ∧
          ∀ (store : Store) (entry : Entry), store.get? p.draft.file = some entry →
            entry.dependencies = q.draft.dependencies → store.contains d.file = true →
            (p.draft.file, d.file) ∈ store.reconcile.1.promoted ∧
              store.reconcile.2.Holds p.draft.file (.resolved d.file) ∧
              ¬store.reconcile.2.Holds p.draft.file (.pending d.file))) := by
  have hlink := Location.canonical?_rooted_iff (isName_of_start h)
  refine ⟨hlink, fun hspell p => ⟨fun entry hentry hfile => ?_, fun hnew => ?_⟩⟩
  · obtain ⟨reference, hanswer, hleads⟩ :=
      Pass.answer_of_entry ((hlink p.draft.location).mpr hspell) hentry
    exact ⟨reference, hanswer, hleads.trans hfile⟩
  · have hfound := Pass.run_found_unpublished ((hlink p.draft.location).mpr hspell) hnew
    refine ⟨_, hfound, rfl, fun store entry hentry hlist hknown => ?_⟩
    refine Store.reconcile_of_pending hentry ?_ hknown
    rw [hlist]
    exact mem_add.mpr (.inl rfl)

/-- A document with dots and doubled slashes in its path and a colon and a blank in its name, mentioned by
another one before it is published and referred to after. -/
theorem names_referable_notes :
    let notes : Draft := { file := "guide/v1.2: notes" }
    let faq : Pass := { draft := { file := "guide/faq", dependencies := [.resolved "index"] } }
    let link := "/" ++ notes.file
    start "./guide//v1.2: notes" {} = .ok notes ∧ Path.Spellable notes.file ∧
    faq.draft.location.canonical? link = some notes.file ∧
    (∃ reference, (Call.run (Pass.resolve .standard "doc" link)
        { faq with store := faq.store.publish notes.entry }).1 = .ok (some reference) ∧
      reference.file = notes.file) ∧
    ∃ q, Call.run (Pass.found .standard "doc" link) faq = (.ok (), q) ∧
      q.draft.dependencies = [.resolved "index", .pending notes.file] ∧
      (q.publish.store.publish notes.entry).reconcile.2.Holds "guide/faq" (.resolved notes.file) := by
  intro notes faq link
  have hname : (Path.normalize "./guide//v1.2: notes").filter (· ≠ "") = some notes.file := by
    decide +kernel
  have hstart : start "./guide//v1.2: notes" {} = .ok notes := by rw [start, hname]
  have hspell : Path.Spellable notes.file := by decide +kernel
  obtain ⟨hlink, hreferable⟩ := names_referable _ _ _ notes hstart
  obtain ⟨-, hmention⟩ := hreferable hspell faq
  obtain ⟨hanswer, -⟩ := hreferable hspell { faq with store := faq.store.publish notes.entry }
  obtain ⟨q, hfound, hlist, hpromoted⟩ := hmention (by decide +kernel)
  have hq : q = (Call.run (Pass.found .standard "doc" link) faq).2 := by rw [hfound]
  refine ⟨hstart, hspell, (hlink _).mpr hspell, hanswer notes.entry (by decide +kernel) rfl, q, hfound,
    hlist.trans (by decide +kernel), ?_⟩
  refine (hpromoted _ q.draft.entry ?_ rfl ?_).2.1
  · rw [hq]
    decide +kernel
  · rw [hq]
    decide +kernel

/-- A name with a mark in it: its rooted link leads to another document, so a reference to the published
document is broken, and a mention of it waits for that other one and is promoted to it. A name with a
blank at its end: its rooted link leads to the name without it. -/
theorem name_not_referable :
    let page : Draft := { file := "guide/c#" }
    let other : Draft := { file := "guide/c" }
    let index : Pass := { draft := { file := "index" } }
    let link := "/" ++ page.file
    let mentioned := (Call.run (Pass.found .standard "doc" link) index).2
    let reconciled :=
      ((mentioned.publish.store.publish page.entry).publish other.entry).reconcile.2
    start "guide/c#" {} = .ok page ∧
    index.draft.location.canonical? link = some other.file ∧
    (Call.run (Pass.resolve .standard "doc" link)
      { index with store := index.store.publish page.entry }).1 = .ok none ∧
    mentioned.draft.dependencies = [.pending other.file] ∧
    reconciled.contains page.file = true ∧ ¬reconciled.Holds "index" (.resolved page.file) ∧
    reconciled.Holds "index" (.resolved other.file) ∧
    start "notes " {} = .ok { file := "notes " } ∧
    index.draft.location.canonical? ("/" ++ "notes ") = some "notes" := by
  intro page other index link mentioned reconciled
  have hpage : (Path.normalize "guide/c#").filter (· ≠ "") = some page.file := by decide +kernel
  have hnotes : (Path.normalize "notes ").filter (· ≠ "") = some "notes " := by decide +kernel
  refine ⟨by rw [start, hpage], by decide +kernel, ?_, by decide +kernel, by decide +kernel,
    by decide +kernel, by decide +kernel, by rw [start, hnotes], by decide +kernel⟩
  decide +kernel

end Draft

end Crosslink
