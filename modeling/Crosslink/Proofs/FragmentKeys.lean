import Crosslink.Proofs.Retention
import Crosslink.Proofs.RootedNames
import Mathlib.Data.List.DropRight

/-!
# Links with a fragment

A fragment names a place inside a document, so it should not matter for which document a link leads to.
What follows the mark of the fragment never matters. But a link is trimmed before the fragment is cut off,
and not again after that: white space between the path and the mark is taken for a part of the name, and
then the link leads to another document than its path alone.

* `Location.read?` is what becomes of the path of a link; `canonical?_mark` and `canonical?_unmarked` are
  the paths that are read from a link with and without a fragment.
* `Path.normalize_append_blank` : white space behind a path always shows in its normal form.
* `Location.canonical?_mark_iff` : which links lead to the document of their path.
* `Pass.fragments_ignored` puts it together, with what follows for references and dependencies;
  `Pass.fragment_not_ignored` is a link of the other kind.
-/

namespace Crosslink

/-! ## Trimmed links

A link is trimmed first and then cut at the first mark. If there is a mark, what stands in front of it has
been trimmed at its beginning only; if there is none, at both ends. The two readings of a path differ
exactly by the white space at its end. -/

namespace Text

variable {p : Char → Bool} {c : Char} {cs rest : List Char}

/-- No white space stands at the end of a text. -/
def Solid (text : String) : Prop := ∀ c, text.toList.getLast? = some c → isBlank c = false

instance (text : String) : Decidable (Solid text) :=
  decidable_of_iff (text.toList.getLast?.all (!isBlank ·) = true) (by simp [Solid, Option.all_eq_true])

/-- What is stripped off the end does not reach beyond a character that is not of the class. -/
theorem stripEnd_append_cons (h : p c = false) (cs rest : List Char) :
    stripEnd p (cs ++ c :: rest) = cs ++ c :: stripEnd p rest := by
  induction cs with
  | nil => exact stripEnd_cons_of_neg h rest
  | cons first cs ih => rw [List.cons_append, stripEnd_cons, ih, if_neg (by simp), List.cons_append]

/-- A text is stripped on both sides of a character that is not of the class. -/
theorem strip_append_cons (h : p c = false) (cs rest : List Char) :
    strip p (cs ++ c :: rest) = cs.dropWhile p ++ c :: stripEnd p rest := by
  have hbegin : (cs ++ c :: rest).dropWhile p = cs.dropWhile p ++ c :: rest := by
    rw [List.dropWhile_append]
    split
    · rename_i hempty
      rw [List.isEmpty_iff.mp hempty, List.dropWhile_cons_of_neg (by simp [h]), List.nil_append]
    · rfl
  rw [strip, hbegin, stripEnd_append_cons h]

/-- A text without the white space at its beginning. -/
def trimStart (text : String) : String := .ofList (text.toList.dropWhile isBlank)

/-- To trim the beginning first makes no difference to a text that is trimmed. -/
theorem trim_trimStart (text : String) : trim (trimStart text) = trim text := by
  rw [trim, trim, trimStart, String.toList_ofList, strip, strip, List.dropWhile_idempotent]

/-- A text is trimmed at its beginning first. -/
theorem exists_trimStart (text : String) :
    ∃ blanks, trimStart text = trim text ++ blanks ∧ ∀ c ∈ blanks.toList, isBlank c = true := by
  obtain ⟨rest, htext, hrest⟩ := exists_stripEnd isBlank (text.toList.dropWhile isBlank)
  refine ⟨.ofList rest, ?_, by rwa [String.toList_ofList]⟩
  apply String.ext
  rw [trimStart, trim, String.toList_append, String.toList_ofList, String.toList_ofList,
    String.toList_ofList]
  exact htext

/-- A text that is trimmed at its beginning does not begin with white space. -/
theorem trim_ne_empty_of_trimStart {text : String} (h : trimStart text ≠ "") : trim text ≠ "" := by
  intro hempty
  obtain ⟨blanks, htext, hblank⟩ := exists_trimStart text
  rw [hempty, String.empty_append] at htext
  obtain ⟨c, cs, hchars⟩ := List.exists_cons_of_ne_nil (mt String.toList_eq_nil_iff.mp h)
  have hhead := List.head?_dropWhile_not isBlank text.toList
  rw [trimStart, String.toList_ofList] at hchars
  rw [hchars] at hhead
  have hc : isBlank c = true := by
    refine hblank c ?_
    rw [← htext, trimStart, String.toList_ofList, hchars]
    exact List.mem_cons_self
  exact absurd hc (by simp [show isBlank c = false from hhead])

/-- A text ends as it does without the white space at its beginning, if anything is left. -/
theorem getLast?_trimStart {text : String} (h : trimStart text ≠ "") :
    (trimStart text).toList.getLast? = text.toList.getLast? := by
  have hne : text.toList.dropWhile isBlank ≠ [] := by
    intro hempty
    exact h (by rw [trimStart, hempty])
  have hsplit := List.getLast?_append_of_ne_nil (text.toList.takeWhile isBlank) hne
  rw [List.takeWhile_append_dropWhile] at hsplit
  rw [trimStart, String.toList_ofList, hsplit]

/-- Trimming takes nothing off the end of a text exactly if no white space stands there. -/
theorem trimStart_eq_trim_iff {text : String} (h : trimStart text ≠ "") :
    trimStart text = trim text ↔ Solid text := by
  rw [Solid, ← getLast?_trimStart h]
  have htrim : trim text = .ofList (stripEnd isBlank (trimStart text).toList) := by
    rw [trim, strip, trimStart, String.toList_ofList]
  constructor
  · intro heq c hlast
    rw [heq, htrim, String.toList_ofList] at hlast
    exact not_of_getLast?_stripEnd hlast
  · intro hsolid
    rw [htrim, stripEnd_eq_self hsolid, String.ofList_toList]

end Text

/-- Whether a link leaves the corpus does not depend on the white space around it. -/
theorem Url.isExternal_of_trim {a b : String} (h : Text.trim a = Text.trim b) :
    isExternal a = isExternal b := by
  have hstrip : Text.strip Text.isBlank a.toList = Text.strip Text.isBlank b.toList :=
    String.ofList_injective h
  rw [isExternal, isExternal, hstrip]

/-- What is read as the path of a link with a fragment: only its beginning is trimmed. -/
theorem Fragment.path_trim_mark {path : String} (h : '#' ∉ path.toList) (fragment : String) :
    Fragment.path (Text.trim (path ++ "#" ++ fragment)) = Text.trimStart path := by
  have hmark : Text.isBlank '#' = false := by decide
  have hbegin : ∀ c ∈ path.toList.dropWhile Text.isBlank, decide (c ≠ '#') = true := fun c hc =>
    decide_eq_true (ne_of_mem_of_not_mem (List.dropWhile_subset _ hc) h)
  have hchars : (path ++ "#" ++ fragment).toList = path.toList ++ '#' :: fragment.toList := by simp
  rw [Fragment.path, Text.trim, String.toList_ofList, hchars, Text.strip_append_cons hmark,
    List.takeWhile_append_of_pos hbegin, List.takeWhile_cons_of_neg (by decide), List.append_nil,
    Text.trimStart]

/-- What is read as the path of a link without a fragment: it is trimmed at both ends. -/
theorem Fragment.path_trim {path : String} (h : '#' ∉ path.toList) :
    Fragment.path (Text.trim path) = Text.trim path := by
  refine Fragment.path_of_unmarked fun hmem => h ?_
  rw [Text.trim, String.toList_ofList, Text.strip] at hmem
  exact List.dropWhile_subset _ ((Text.stripEnd_prefix _ _).subset hmem)

/-! ## White space in paths

White space is a character of a segment as any other. Behind a segment that is plain it makes another
plain segment; behind a dot or two it makes a plain segment of what was none. In every case the path ends
in a segment that it did not end in before, and that shows in the normal form. -/

namespace Path

variable {path blanks : String} {init out : List String}

/-- White space behind a segment makes a name of it. -/
theorem isPlain_append_blank (seg : String) (hne : blanks ≠ "")
    (hblank : ∀ c ∈ blanks.toList, Text.isBlank c = true) : IsPlain (seg ++ blanks) := by
  obtain ⟨c, hmem⟩ := List.exists_mem_of_ne_nil _ (mt String.toList_eq_nil_iff.mp hne)
  have hc : Text.isBlank c = true := hblank c hmem
  replace hmem : c ∈ (seg ++ blanks).toList := by simp [hmem]
  refine ⟨fun e => ?_, fun e => ?_, fun e => ?_⟩
  all_goals rw [e] at hmem
  · exact List.not_mem_nil hmem
  · obtain rfl : c = '.' := by simpa using hmem
    exact absurd hc (by decide)
  · obtain rfl : c = '.' := by simpa using hmem
    exact absurd hc (by decide)

/-- A walk that ends in a name leads to it from where the rest of the walk leads. -/
theorem walk_concat {last : String} (hwalk : walk [] init = some out) (hlast : IsPlain last) :
    walk [] (init ++ [last]) = some (out ++ [last]) := by
  rw [walk_append, hwalk, Option.bind_some, walk_cons_of_plain hlast, walk_nil, List.reverse_cons,
    List.reverse_reverse]

/-- A walk that ends in another segment ends elsewhere. -/
theorem walk_concat_ne {last other : String} (hwalk : walk [] init = some out) (hne : last ≠ other) :
    walk [] (init ++ [last]) ≠ some (out ++ [other]) := by
  intro h
  rw [walk_append, hwalk, Option.bind_some] at h
  have hsub := sublist_of_walk h
  rw [List.reverse_reverse] at hsub
  -- the two are of one length, so nothing is left out on the way
  have hsame : out ++ [other] = out ++ [last] := hsub.eq_of_length (by simp)
  exact hne (List.singleton_inj.mp (List.append_cancel_left hsame)).symm

/-- A path that ends in a segment is not the empty one. -/
theorem join_concat_ne_empty {last : String} (h : last ≠ "") : join (out ++ [last]) ≠ "" := by
  by_cases hout : out = []
  · simpa [hout, join] using h
  · rw [join_append_singleton hout]
    exact fun e => h (String.append_eq_empty_iff.mp e).2

/-- White space behind a path shows in its normal form, if it has one. -/
theorem normalize_append_blank (path : String) (hne : blanks ≠ "")
    (hblank : ∀ c ∈ blanks.toList, Text.isBlank c = true) :
    (normalize (path ++ blanks) = none ∧ normalize path = none) ∨
      ∃ name, normalize (path ++ blanks) = some name ∧ name ≠ "" ∧ normalize path ≠ some name := by
  have hslash : '/' ∉ blanks.toList := fun hmem => absurd (hblank '/' hmem) (by decide)
  obtain ⟨init, last, hsegments⟩ := exists_segments path
  have hlong := segments_append hsegments hslash
  have hplain := isPlain_append_blank last hne hblank
  cases hwalk : walk [] init with
  | none =>
    have hnone : ∀ seg, walk [] (init ++ [seg]) = none := fun seg => by
      rw [walk_append, hwalk, Option.bind_none]
    refine .inl ⟨?_, ?_⟩
    · rw [normalize, hlong, hnone, Option.map_none]
    · rw [normalize, hsegments, hnone, Option.map_none]
  | some out =>
    have hname : normalize (path ++ blanks) = some (join (out ++ [last ++ blanks])) := by
      rw [normalize, hlong, walk_concat hwalk hplain, Option.map_some]
    have hne' : join (out ++ [last ++ blanks]) ≠ "" := join_concat_ne_empty hplain.1
    refine .inr ⟨_, hname, hne', fun hpath => ?_⟩
    -- the same name would be reached by a walk that ends in the last segment as it was
    have hsame := (walk_of_normalize hpath hne').trans (walk_of_normalize hname hne').symm
    rw [hlong, walk_concat hwalk hplain, hsegments] at hsame
    refine walk_concat_ne hwalk (fun hlast => hne ?_) hsame
    have hchars := congrArg String.toList hlast
    rw [String.toList_append, List.self_eq_append_right] at hchars
    exact String.toList_eq_nil_iff.mp hchars

end Path

namespace Location

variable {loc : Location} {path blanks : String}

/-- The name of the document that the path of a link leads to. -/
def read? (loc : Location) (path : String) : Option String :=
  if path = "" ∨ Url.isExternal path then none
  else (Path.normalize (loc.joined path)).filter (· ≠ "")

/-- A link with a fragment is read as its path, trimmed at the beginning. The fragment is not read. -/
theorem canonical?_mark (loc : Location) (h : '#' ∉ path.toList) (fragment : String) :
    loc.canonical? (path ++ "#" ++ fragment) = loc.read? (Text.trimStart path) := by
  rw [← Fragment.path_trim_mark h fragment]
  rfl

/-- A link without a fragment is read as its path, trimmed at both ends. -/
theorem canonical?_unmarked (loc : Location) (h : '#' ∉ path.toList) :
    loc.canonical? path = loc.read? (Text.trim path) := by
  rw [← Fragment.path_trim h]
  rfl

/-- A rooted path is read from the root, any other from the directory of the document. -/
theorem joined_eq (loc : Location) (path : String) :
    loc.joined path =
      if isRooted path then .ofList (path.toList.drop 1) else loc.directory ++ "/" ++ path := by
  rw [joined, isRooted]
  split
  · rename_i rooted hchars
    simp [hchars]
  · rename_i hchars
    rw [if_neg]
    intro hhead
    obtain ⟨rooted, hrooted⟩ := List.head?_eq_some_iff.mp (of_decide_eq_true hhead)
    exact hchars rooted hrooted

/-- What is put behind a path stands behind it in the joined path as well. -/
theorem joined_append (loc : Location) (h : path ≠ "") (other : String) :
    loc.joined (path ++ other) = loc.joined path ++ other := by
  obtain ⟨c, cs, hchars⟩ := List.exists_cons_of_ne_nil (mt String.toList_eq_nil_iff.mp h)
  have hrooted : isRooted (path ++ other) = isRooted path := by
    simp [isRooted, hchars]
  rw [joined_eq, joined_eq, hrooted]
  split
  · apply String.ext
    simp [hchars]
  · simp only [String.append_assoc]

/-- White space behind the path of a link leads to another document, unless neither leads to any. -/
theorem read?_append_blank (loc : Location) (h : path ≠ "") (hne : blanks ≠ "")
    (hblank : ∀ c ∈ blanks.toList, Text.isBlank c = true)
    (hexternal : Url.isExternal (path ++ blanks) = Url.isExternal path) :
    (loc.read? (path ++ blanks) = none ∧ loc.read? path = none) ∨
      ∃ name, loc.read? (path ++ blanks) = some name ∧ loc.read? path ≠ some name := by
  have hlong : path ++ blanks ≠ "" := fun e => h (String.append_eq_empty_iff.mp e).1
  simp only [read?, h, hlong, hexternal, false_or]
  split
  · exact .inl ⟨rfl, rfl⟩
  · rw [joined_append loc h]
    obtain ⟨hlong, hpath⟩ | ⟨name, hlong, hname, hpath⟩ :=
      Path.normalize_append_blank (loc.joined path) hne hblank
    · rw [hlong, hpath]
      exact .inl ⟨rfl, rfl⟩
    · refine .inr ⟨name, ?_, fun hread => hpath (Option.filter_eq_some_iff.mp hread).1⟩
      rw [hlong, Option.filter_some, if_pos (decide_eq_true hname)]

/-- A link with a fragment leads to the document of its path exactly if no white space stands between the
path and the mark, or if the link leads nowhere. -/
theorem canonical?_mark_iff (loc : Location) (h : '#' ∉ path.toList) (fragment : String) :
    loc.canonical? (path ++ "#" ++ fragment) = loc.canonical? path ↔
      Text.Solid path ∨ loc.canonical? (path ++ "#" ++ fragment) = none := by
  rw [canonical?_mark loc h, canonical?_unmarked loc h]
  -- a path of white space spells nothing, with the fragment and without
  by_cases hempty : Text.trimStart path = ""
  · have htrim : Text.trim path = "" := by
      rw [← Text.trim_trimStart, hempty]
      rfl
    have hnone : loc.read? "" = none := if_pos (.inl rfl)
    rw [hempty, htrim]
    exact iff_of_true rfl (.inr hnone)
  · have hexternal : Url.isExternal (Text.trimStart path) = Url.isExternal (Text.trim path) :=
      Url.isExternal_of_trim (by rw [Text.trim_trimStart, Text.trim_trim])
    rw [← Text.trimStart_eq_trim_iff hempty]
    -- in front of a fragment a path is trimmed on its left only, so the blanks on its right decide
    by_cases hsolid : Text.trimStart path = Text.trim path
    · rw [hsolid]
      exact iff_of_true rfl (.inl rfl)
    · obtain ⟨blanks, hpath, hblank⟩ := Text.exists_trimStart path
      have hne : blanks ≠ "" := by
        rintro rfl
        rw [String.append_empty] at hpath
        exact hsolid hpath
      have htrim := Text.trim_ne_empty_of_trimStart hempty
      rw [hpath] at hexternal ⊢
      obtain ⟨hlong, hshort⟩ | ⟨name, hlong, hshort⟩ := read?_append_blank loc htrim hne hblank hexternal
      · rw [hlong, hshort]
        exact iff_of_true rfl (.inr rfl)
      · rw [hlong]
        refine iff_of_false (Ne.symm hshort) ?_
        rw [not_or, ← hpath]
        exact ⟨hsolid, nofun⟩

end Location

/-! ## References with a fragment

References and dependencies go by the name of a link alone. Where the fragment does not change that name,
it does not change what is answered, up to the place inside the document, nor what becomes of the lists. -/

/-- Two calls leave the same state, and answer the same unless both are refused. -/
structure Call.Agree {σ α : Type} (a b : Call σ α) (s : σ) : Prop where
  state : (Call.run a s).2 = (Call.run b s).2
  answer : (Call.run a s).1.toOption = (Call.run b s).1.toOption

/-- Links to one document make one dependency. -/
theorem Draft.agree_addDependency {d : Draft} {a b : String}
    (h : d.location.canonical? a = d.location.canonical? b) (isPending : Bool) :
    Call.Agree (addDependency a isPending) (addDependency b isPending) d := by
  constructor
  all_goals rw [run_addDependency, run_addDependency, h]
  all_goals cases d.location.canonical? b <;> rfl

namespace Pass

variable {p : Pass} {a b : String}

theorem agree_found_doc (h : p.draft.location.canonical? a = p.draft.location.canonical? b) :
    Call.Agree (found .standard "doc" a) (found .standard "doc" b) p := by
  have hmention : p.mention a = p.mention b := by rw [mention, mention, h]
  constructor
  all_goals rw [run_found_doc, run_found_doc, h, hmention]
  all_goals cases p.draft.location.canonical? b <;> rfl

/-- Where a reference leads, the place in the document aside. -/
def placeless (p : Pass) (target : String) : Except Fault (Option Reference) :=
  (p.answer "doc" target).map (·.map ({ · with anchor := none }))

/-- References to one document lead to it alike. -/
theorem placeless_congr (h : p.draft.location.canonical? a = p.draft.location.canonical? b) :
    p.placeless a = p.placeless b := by
  rw [placeless, placeless, answer_of_resolver Registry.standard_doc,
    answer_of_resolver Registry.standard_doc, Resolver.resolve_doc, Resolver.resolveDoc,
    Resolver.resolveDoc, Location.canonical?_trim, Location.canonical?_trim, h]
  cases p.draft.location.canonical? b with
  | none => rfl
  | some name =>
    simp only [Except.map, Option.map_map]
    rfl

/-- **Fragments do not matter for where a link leads, white space in front of them does.** A link leads to
the same document with any fragment. That is the document of its path alone exactly if no white space stands
between the path and the mark, or if the link leads nowhere. And links that lead to the same document make
the same dependency, are noted in the same way, and are resolved to the same document. -/
theorem fragments_ignored (p : Pass) (path fragment : String) (h : '#' ∉ path.toList) :
    let loc := p.draft.location
    let link := path ++ "#" ++ fragment
    (∀ other, loc.canonical? (path ++ "#" ++ other) = loc.canonical? link) ∧
    (loc.canonical? link = loc.canonical? path ↔ Text.Solid path ∨ loc.canonical? link = none) ∧
    (loc.canonical? link = loc.canonical? path →
      (∀ isPending, Call.Agree (Draft.addDependency link isPending)
        (Draft.addDependency path isPending) p.draft) ∧
      Call.Agree (found .standard "doc" link) (found .standard "doc" path) p ∧
      p.placeless link = p.placeless path) := by
  intro loc link
  refine ⟨fun other => ?_, Location.canonical?_mark_iff loc h fragment, fun hkey => ?_⟩
  · rw [Location.canonical?_mark loc h, Location.canonical?_mark loc h]
  · exact ⟨Draft.agree_addDependency hkey, agree_found_doc hkey, placeless_congr hkey⟩

/-- A link with white space on both sides and in its fragment, which holds a second mark. -/
theorem fragments_ignored_setup :
    let p : Pass := {
      draft := { file := "guide/intro" }
      store := Store.publish ∅ { file := "guide/setup", url := "guide/setup.html" } }
    let path := " ./setup"
    let link := path ++ "#" ++ " Usage #2 "
    '#' ∉ path.toList ∧ Text.Solid path ∧
    p.draft.location.canonical? link = some "guide/setup" ∧
    Call.Agree (found .standard "doc" link) (found .standard "doc" path) p ∧
    (Call.run (found .standard "doc" link) p).2.draft.dependencies = [.resolved "guide/setup"] ∧
    p.placeless link = .ok (some { file := "guide/setup", url := "setup.html" }) := by
  intro p path link
  have hmark : '#' ∉ path.toList := by decide
  have hsolid : Text.Solid path := by decide
  have hpath : p.draft.location.canonical? path = some "guide/setup" := by decide +kernel
  obtain ⟨-, hkey, hagree⟩ := fragments_ignored p path " Usage #2 " hmark
  obtain ⟨-, hfound, hplace⟩ := hagree (hkey.mpr (.inl hsolid))
  refine ⟨hmark, hsolid, (hkey.mpr (.inl hsolid)).trans hpath, hfound, ?_, hplace.trans ?_⟩
  · rw [hfound.state]
    decide +kernel
  · decide +kernel

/-- White space in front of the mark: the link with the fragment leads to another document than the one
without, so a reference to a document that is there is noted as pending and broken. -/
theorem fragment_not_ignored :
    let p : Pass := {
      draft := { file := "index" }
      store := Store.publish ∅ { file := "notes", url := "notes.html" } }
    let path := "notes "
    let link := path ++ "#" ++ "usage"
    Draft.start "index" {} = .ok p.draft ∧ '#' ∉ path.toList ∧
    p.draft.location.canonical? path = some "notes" ∧
    p.draft.location.canonical? link = some "notes " ∧
    (Call.run (found .standard "doc" path) p).2.draft.dependencies = [.resolved "notes"] ∧
    (Call.run (found .standard "doc" link) p).2.draft.dependencies = [.pending "notes "] ∧
    p.placeless path = .ok (some { file := "notes", url := "notes.html" }) ∧
    p.placeless link = .ok none := by
  intro p path link
  have hname : (Path.normalize "index").filter (· ≠ "") = some "index" := by decide
  refine ⟨by rw [Draft.start, hname], ?_⟩
  decide +kernel

end Pass

end Crosslink
