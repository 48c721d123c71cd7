import Crosslink.Draft
import Crosslink.Proofs.PathNormal
import Mathlib.Data.List.TakeWhile

/-!
# Where relative links lead

A published page is written to its url, and the links on it are read from the directory of that url. A
reference in relative form is counted from another directory, the parent of the url of the document, which
stands before the extension is put on and before dot segments are resolved. The two agree for urls in
normal form; a chosen url need not be in normal form.

* `follow` reads a link from a page. `Draft.Lands` says that a reference leads to the page it was made
  for.
* `Draft.pageDirectory?` is the directory that links are read from, `Draft.countedDirectory` the one that
  they are counted from.
* `Draft.walk_stepsTo` : what is counted from one directory leads, read from another, to its target
  exactly if the two are of one depth and agree as far as they are not left.
* `Draft.references_land` says which references lead to their page, `Draft.reference_lost` shows one that
  does not.
-/

namespace Crosslink

/-! ## Rooted links

A slash in front of a link makes it a path from the root. It cannot be read as an address on the web then,
and the slash itself says nothing. -/

namespace Url

open Text

/-- A rooted link stays in the corpus. -/
theorem isExternal_rooted (path : String) : isExternal ("/" ++ path) = false := by
  have hclean : ∃ rest, clean (strip isBlank ("/" ++ path).toList) = '/' :: rest := by
    rw [String.toList_append]
    change ∃ rest, clean (strip isBlank ('/' :: path.toList)) = '/' :: rest
    rw [strip_cons_of_neg (by decide), clean, strip_cons_of_neg (by decide)]
    exact ⟨_, List.filter_cons_of_pos (by decide)⟩
  obtain ⟨rest, hrest⟩ := hclean
  have hscheme : scheme? (strip isBlank ("/" ++ path).toList) = none := by
    rw [scheme?, hrest, splitScheme?, List.takeWhile_cons_of_neg (by decide)]
  simp only [isExternal, hscheme]

end Url

namespace Fragment

/-- A slash in front of a link stands in front of its path. -/
theorem path_rooted (link : String) : path ("/" ++ link) = "/" ++ path link := by
  apply String.ext
  simp [path]

/-- The path of a link holds no mark, as the link is cut at the first. -/
theorem mark_not_mem_path (link : String) : '#' ∉ (path link).toList := by
  rw [path, String.toList_ofList]
  intro h
  exact absurd (List.mem_takeWhile_imp h) (by decide)

theorem path_of_unmarked {link : String} (h : '#' ∉ link.toList) : path link = link := by
  have hlink : ∀ c ∈ link.toList, decide (c ≠ '#') = true := fun c hc =>
    decide_eq_true fun e => h (e ▸ hc)
  rw [path, List.takeWhile_eq_self_iff.mpr hlink, String.ofList_toList]

/-- An attached fragment is cut off again. -/
theorem path_attach {target : String} (h : '#' ∉ target.toList) (fragment : Option String) :
    path (attach target fragment) = target := by
  have htarget : ∀ c ∈ target.toList, decide (c ≠ '#') = true := fun c hc =>
    decide_eq_true fun e => h (e ▸ hc)
  cases fragment with
  | none => exact path_of_unmarked h
  | some fragment =>
    rw [attach]
    split
    · exact path_of_unmarked h
    · rw [path, String.toList_append, String.toList_append, List.append_assoc,
        List.takeWhile_append_of_pos htarget]
      simp

end Fragment

/-! ## Segments

Paths are put together from segments and cut into them again. Where the segments have no slashes these are
inverse; the only path that is cut into more than it was put together from is the empty one. -/

namespace Path

variable {path name seg : String} {segs a b : List String} {c : Char}

/-- A path from the root has the normal form of what stands behind its slash. -/
@[simp]
theorem normalize_rooted (path : String) : normalize ("/" ++ path) = normalize path := by
  have h := segments_slash "" path
  rw [String.empty_append] at h
  rw [normalize, h]
  exact congrArg (Option.map join) walk_cons_empty

theorem join_cons (seg : String) (h : segs ≠ []) : join (seg :: segs) = seg ++ "/" ++ join segs := by
  obtain ⟨next, rest, rfl⟩ := List.exists_cons_of_ne_nil h
  apply String.ext
  simp [join, String.toList_intercalate]

theorem join_append_singleton (h : segs ≠ []) : join (segs ++ [seg]) = join segs ++ "/" ++ seg := by
  induction segs with
  | nil => exact absurd rfl h
  | cons first segs ih =>
    by_cases hsegs : segs = []
    · rw [hsegs]
      exact join_cons first (List.cons_ne_nil seg [])
    · rw [List.cons_append, join_cons first (List.append_ne_nil_of_left_ne_nil hsegs _), ih hsegs,
        join_cons first hsegs, String.append_assoc, String.append_assoc]
      simp only [String.append_assoc]

/-- The characters of a path are those of its segments, slashes aside. -/
theorem mem_join (hc : c ≠ '/') : c ∈ (join segs).toList ↔ ∃ seg ∈ segs, c ∈ seg.toList := by
  induction segs with
  | nil => simp [join]
  | cons seg segs ih =>
    by_cases h : segs = []
    · simp [h, join]
    · rw [join_cons seg h, String.toList_append, String.toList_append]
      simp [hc, ih]

/-- A path of segments that are not empty is not rooted. -/
theorem isRooted_join (h : segs ≠ []) (hsegs : ∀ s ∈ segs, s ≠ "" ∧ '/' ∉ s.toList) :
    Location.isRooted (join segs) = false := by
  obtain ⟨seg, rest, rfl⟩ := List.exists_cons_of_ne_nil h
  obtain ⟨hne, hslash⟩ := hsegs seg List.mem_cons_self
  have hhead : (join (seg :: rest)).toList.head? = seg.toList.head? := by
    obtain ⟨c, cs, hchars⟩ := List.exists_cons_of_ne_nil (mt String.toList_eq_nil_iff.mp hne)
    by_cases hrest : rest = []
    · simp [hrest, join]
    · rw [join_cons seg hrest, String.append_assoc, String.toList_append, hchars]
      rfl
  rw [Location.isRooted, hhead]
  exact decide_eq_false fun e => hslash (List.mem_of_mem_head? e)

/-- A walk over the segments of a path made of segments without slashes is one over these. -/
theorem walk_segments_join {trail : List String} (h : ∀ s ∈ segs, '/' ∉ s.toList) :
    walk trail (segments (join segs)) = walk trail segs := by
  by_cases hsegs : segs = []
  · rw [hsegs]
    exact walk_cons_empty
  · rw [segments_join hsegs h]

/-- A path has a name as its normal form exactly if the walk leaves the segments of that name. -/
theorem normalize_eq_some_iff (h : name ≠ "") :
    normalize path = some name ↔ walk [] (segments path) = some (segments name) := by
  constructor
  · exact fun hpath => walk_of_normalize hpath h
  · intro hwalk
    rw [normalize, hwalk, Option.map_some, join_segments]

/-- A path has a last segment. -/
theorem exists_segments (path : String) : ∃ init last, segments path = init ++ [last] := by
  obtain h | ⟨init, last, h⟩ := List.eq_nil_or_concat (segments path)
  · exact absurd h (segments_ne_nil path)
  · exact ⟨init, last, by rw [h, List.concat_eq_append]⟩

/-- Normalizing adds no characters but slashes. -/
theorem mem_of_normalize (h : normalize path = some name) (hc : c ≠ '/') (hmem : c ∈ name.toList) :
    c ∈ path.toList := by
  have hne : name ≠ "" := by
    rintro rfl
    exact List.not_mem_nil hmem
  rw [← join_segments name, mem_join hc] at hmem
  obtain ⟨seg, hseg, hmem⟩ := hmem
  obtain ⟨hseg, -⟩ := (mem_of_walk (walk_of_normalize h hne) hseg).resolve_left List.not_mem_nil
  rw [← join_segments path, mem_join hc]
  exact ⟨seg, hseg, hmem⟩

/-- A text without slashes behind a path belongs to its last segment. -/
theorem segments_append {init : List String} {last : String} (hsegments : segments path = init ++ [last])
    (h : '/' ∉ name.toList) : segments (path ++ name) = init ++ [last ++ name] := by
  have hslash : ∀ s ∈ init ++ [last], '/' ∉ s.toList := by
    rw [← hsegments]
    exact fun s hs => slash_not_mem_of_mem_segments hs
  have hjoin : path ++ name = join (init ++ [last ++ name]) := by
    rw [← join_segments path, hsegments]
    by_cases hinit : init = []
    · rw [hinit]
      rfl
    · rw [join_append_singleton hinit, join_append_singleton hinit, String.append_assoc]
  rw [hjoin]
  refine segments_join (by simp) fun s hs => ?_
  rcases List.mem_append.mp hs with hs | hs
  · exact hslash s (List.mem_append_left _ hs)
  · rw [List.mem_singleton.mp hs, String.toList_append, List.mem_append, not_or]
    exact ⟨hslash last (by simp), h⟩

/-- So what stands in front of the last segment is the same without that text. -/
theorem dropLast_segments_append (h : '/' ∉ name.toList) :
    (segments (path ++ name)).dropLast = (segments path).dropLast := by
  obtain ⟨init, last, hsegments⟩ := exists_segments path
  rw [segments_append hsegments h, hsegments, List.dropLast_concat, List.dropLast_concat]

/-- A last segment that is not empty is no slash that could be stripped, and what stands before it is the
directory. -/
theorem parent_append (before : List Char) {last : List Char} (hslash : '/' ∉ last) (hlast : last ≠ []) :
    parent (.ofList (before ++ last)) =
      .ofList ((before.reverse.dropWhile (· != '/')).drop 1).reverse := by
  have hplain : ∀ c ∈ last.reverse, (c != '/') = true := fun c hc =>
    bne_iff_ne.mpr fun e => hslash (e ▸ List.mem_reverse.mp hc)
  have hstrip : Text.stripEnd (· == '/') (before ++ last) = before ++ last := by
    obtain ⟨init, c, rfl⟩ := (List.eq_nil_or_concat last).resolve_left hlast
    have hc : (c == '/') = false := by simpa using hplain c (by simp)
    rw [List.concat_eq_append, ← List.append_assoc, Text.stripEnd_append_singleton,
      if_neg (by simp [hc])]
  rw [parent, String.toList_ofList]
  simp only [hstrip]
  rw [List.reverse_append, List.dropWhile_append_of_pos hplain]

/-- The directory of a path that does not end with a slash is made of all its segments but the last. -/
theorem parent_of_segments {init : List String} {last : String}
    (h : segments path = init ++ [last]) (hlast : last ≠ "") : parent path = join init := by
  have hmem : last ∈ segments path := by
    rw [h]
    exact List.mem_append_right _ List.mem_cons_self
  have hslash : '/' ∉ last.toList := slash_not_mem_of_mem_segments hmem
  have hne : last.toList ≠ [] := fun e => hlast (String.toList_eq_nil_iff.mp e)
  rw [← join_segments path, h]
  by_cases hinit : init = []
  · have hparent := parent_append [] hslash hne
    rw [hinit]
    simpa [join] using hparent
  · have hparent := parent_append ((join init).toList ++ ['/']) hslash hne
    rw [join_append_singleton hinit, String.append_assoc]
    simpa [String.ofList_append] using hparent

/-- The directory of a path in normal form is made of all its segments but the last. -/
theorem IsName.parent_eq (h : IsName path) : parent path = join (segments path).dropLast := by
  obtain ⟨init, last, hsegments⟩ := exists_segments path
  have hlast : last ≠ "" := (h.plain last (by simp [hsegments])).1
  rw [parent_of_segments hsegments hlast, hsegments, List.dropLast_concat]

theorem IsName.parent_plain (h : IsName path) :
    ∀ s ∈ (segments path).dropLast, IsPlain s ∧ '/' ∉ s.toList := fun s hs =>
  have hmem := List.dropLast_subset _ hs
  ⟨h.plain s hmem, slash_not_mem_of_mem_segments hmem⟩

/-- The walk along the directory of a path in normal form goes down by all its segments but the last. -/
theorem IsName.walk_parent (h : IsName path) :
    walk [] (segments (parent path)) = some (segments path).dropLast := by
  rw [h.parent_eq, walk_segments_join fun s hs => (h.parent_plain s hs).2,
    walk_of_plain fun s hs => (h.parent_plain s hs).1]
  rfl

/-- Plain segments without slashes make a name. -/
theorem isName_join (hne : segs ≠ []) (h : ∀ s ∈ segs, IsPlain s ∧ '/' ∉ s.toList) : IsName (join segs) := by
  have hsegments := segments_join hne fun s hs => (h s hs).2
  constructor
  · intro hempty
    rw [hempty] at hsegments
    have hmem : "" ∈ segs := hsegments ▸ List.mem_cons_self
    exact (h "" hmem).1.1 rfl
  · rw [normalize, hsegments, walk_of_plain fun s hs => (h s hs).1]
    rfl

/-! ## Shared directories

Two lists are compared from the front until they differ, or one of them ends. -/

theorem sharedLength_le (a b : List String) :
    sharedLength a b ≤ a.length ∧ sharedLength a b ≤ b.length := by
  induction a generalizing b with
  | nil => cases b <;> simp [sharedLength]
  | cons x a ih =>
    cases b with
    | nil => simp [sharedLength]
    | cons y b =>
      rw [sharedLength]
      split
      · exact ⟨Nat.succ_le_succ (ih b).1, Nat.succ_le_succ (ih b).2⟩
      · exact ⟨Nat.zero_le _, Nat.zero_le _⟩

/-- What two paths share stands at the beginning of both. -/
theorem take_sharedLength (a b : List String) :
    a.take (sharedLength a b) = b.take (sharedLength a b) := by
  induction a generalizing b with
  | nil => cases b <;> simp [sharedLength]
  | cons x a ih =>
    cases b with
    | nil => simp [sharedLength]
    | cons y b =>
      rw [sharedLength]
      split
      · rename_i hxy
        rw [List.take_succ_cons, List.take_succ_cons, hxy, ih b]
      · rfl

end Path

/-! ## References

A reference is written in one place and read in another. It is written as steps from the directory that it
is counted from: up to what is shared with the target, then down. It is read from the directory of the
page. Both are taken here as lists of segments, whatever they are, so that the question becomes when the
same steps lead to the same target from two directories. -/

/-- The directory part of a url: what stands before its last slash. -/
def Path.directoryPart (url : String) : String := join (segments url).dropLast

/-- Where a link on a page leads, as a path below the root: a rooted link is read from the root, any other
from the directory of the page. The fragment only names a place in the target. -/
def follow (page link : String) : Option String :=
  let path := Fragment.path link
  Path.normalize (if Location.isRooted path then path else Path.directoryPart page ++ "/" ++ path)

/-- A rooted link is read from the root, on every page. -/
theorem follow_rooted (page link : String) :
    follow page ("/" ++ link) = Path.normalize (Fragment.path link) := by
  have hrooted : Location.isRooted ("/" ++ Fragment.path link) = true := by
    simp [Location.isRooted]
  simp only [follow, Fragment.path_rooted, hrooted, if_true, Path.normalize_rooted]

namespace Location

/-- A rooted link is read as what stands behind its slash. -/
theorem read_rooted (link : String) :
    isRooted ("/" ++ link) = true ∧ String.ofList (("/" ++ link).toList.drop 1) = link := by
  rw [isRooted, String.toList_append]
  exact ⟨rfl, String.ofList_toList⟩

/-- A rooted link that leads nowhere, or to the root itself, has no relative form. -/
theorem relative_of_not_target {loc : Location} {link : String}
    (h : ∀ target, Path.normalize (Fragment.path link) = some target → target = "") :
    loc.relative ("/" ++ link) = "/" ++ link := by
  obtain ⟨hrooted, hread⟩ := read_rooted link
  rw [relative, if_neg (by simp [Url.isExternal_rooted, hrooted])]
  simp only [hread]
  split
  · rfl
  · rename_i target htarget
    rw [if_pos (h target htarget)]

/-- Any other rooted link leads, in its relative form, from the directory of the page to its target. -/
theorem relative_of_target {loc : Location} {link target : String}
    (h : Path.normalize (Fragment.path link) = some target) (hne : target ≠ "") :
    loc.relative ("/" ++ link) =
      Fragment.attach (Path.between (Path.parent loc.url) target) (Fragment.fragment? link) := by
  obtain ⟨hrooted, hread⟩ := read_rooted link
  rw [relative, if_neg (by simp [Url.isExternal_rooted, hrooted])]
  simp only [hread, h]
  rw [if_neg hne]

end Location

namespace Draft

variable {d : Draft} {target url : String}

/-- A reference to the page with a url leads to that page. -/
def Lands (d : Draft) (url : String) : Prop :=
  follow d.entry.url (d.referenceUrl url) = Path.normalize (Fragment.path url)

/-- The directory that the page is written to, as segments from the root; `none` if the url of the page
climbs above the root. -/
def pageDirectory? (d : Draft) : Option (List String) :=
  Path.walk [] (Path.segments d.entry.url).dropLast

/-- The directory that references are counted from, as segments. -/
def countedDirectory (d : Draft) : List String :=
  (Path.segments (Path.parent d.location.url)).filter (· ≠ "")

/-- The number of directories on the way to a target that need not be left. -/
def sharedWith (d : Draft) (target : String) : Nat :=
  Path.sharedLength d.countedDirectory (Path.segments target).dropLast

/-- The directory of the page can stand in for the one that references are counted from, on the way to a
target: it is as deep, and it is the same as far as it is not left. -/
def StandsIn (d : Draft) (target : String) : Prop :=
  ∃ dir, d.pageDirectory? = some dir ∧ dir.length = d.countedDirectory.length ∧
    dir.take (d.sharedWith target) = d.countedDirectory.take (d.sharedWith target)

/-- The steps of a reference: up to the shared directory, then down. -/
def stepsTo (d : Draft) (target : String) : List String :=
  List.replicate (d.countedDirectory.length - d.sharedWith target) ".." ++
    (Path.segments target).drop (d.sharedWith target)

theorem between_eq (h : Path.IsName target) :
    Path.between (Path.parent d.location.url) target = Path.join (d.stepsTo target) := by
  have hdest : (Path.segments target).filter (· ≠ "") = Path.segments target :=
    List.filter_eq_self.mpr fun s hs => by simpa using (h.plain s hs).1
  simp only [Path.between, hdest]
  rfl

theorem sharedWith_le : d.sharedWith target ≤ d.countedDirectory.length :=
  (Path.sharedLength_le _ _).1

/-- The last segment of a target is not shared. -/
theorem sharedWith_lt : d.sharedWith target < (Path.segments target).length := by
  have hle : d.sharedWith target ≤ (Path.segments target).dropLast.length :=
    (Path.sharedLength_le _ _).2
  have hpos := List.length_pos_iff.mpr (Path.segments_ne_nil target)
  rw [List.length_dropLast] at hle
  omega

theorem take_sharedWith :
    d.countedDirectory.take (d.sharedWith target) =
      (Path.segments target).take (d.sharedWith target) := by
  have hle : d.sharedWith target ≤ (Path.segments target).length - 1 :=
    Nat.le_sub_one_of_lt sharedWith_lt
  have hshared : d.countedDirectory.take (d.sharedWith target) =
      (Path.segments target).dropLast.take (d.sharedWith target) :=
    Path.take_sharedLength _ _
  rw [hshared, List.dropLast_eq_take, List.take_take, Nat.min_eq_left hle]

/-- What is counted from one directory leads, read from another, to its target exactly if the two are of
one depth and agree as far as they are not left. -/
theorem walk_stepsTo (h : Path.IsName target) (dir : List String) :
    Path.walk dir.reverse (d.stepsTo target) = some (Path.segments target) ↔
      dir.length = d.countedDirectory.length ∧
        dir.take (d.sharedWith target) = d.countedDirectory.take (d.sharedWith target) := by
  have hplain : ∀ s ∈ (Path.segments target).drop (d.sharedWith target), Path.IsPlain s :=
    fun s hs => h.plain s (List.mem_of_mem_drop hs)
  have hle : d.sharedWith target ≤ d.countedDirectory.length := sharedWith_le
  have hlt : d.sharedWith target < (Path.segments target).length := sharedWith_lt
  rw [take_sharedWith, stepsTo, Path.walk_up, Path.walk_of_plain hplain, List.length_reverse,
    List.drop_reverse, List.reverse_reverse]
  generalize d.sharedWith target = shared at hle hlt
  constructor
  · intro hwalk
    split at hwalk
    · rename_i hup
      have hdest := Option.some.inj hwalk
      -- the steps lead down from the shared part, so climbing has to end where that does
      have hlength := congrArg List.length hdest
      rw [List.length_append, List.length_take, List.length_drop] at hlength
      have hdepth : dir.length = d.countedDirectory.length := by omega
      have hkept : dir.length - (d.countedDirectory.length - shared) = shared := by omega
      rw [hkept] at hdest
      have hsplit := hdest.trans (List.take_append_drop shared (Path.segments target)).symm
      exact ⟨hdepth, List.append_cancel_right hsplit⟩
    · cases hwalk
  · rintro ⟨hdepth, htake⟩
    have hkept : dir.length - (d.countedDirectory.length - shared) = shared := by omega
    rw [if_pos (by omega), hkept, htake, List.take_append_drop]

/-- There is always a step, as the last segment of a target is not shared. -/
theorem stepsTo_ne_nil : d.stepsTo target ≠ [] := by
  intro h
  have hdown := (List.append_eq_nil_iff.mp h).2
  rw [List.drop_eq_nil_iff] at hdown
  exact absurd sharedWith_lt (Nat.not_lt.mpr hdown)

/-- A step is a climb, or a segment of the target. -/
theorem mem_stepsTo {s : String} (h : s ∈ d.stepsTo target) :
    s = ".." ∨ s ∈ Path.segments target := by
  rcases List.mem_append.mp h with h | h
  · exact .inl (List.eq_of_mem_replicate h)
  · exact .inr (List.mem_of_mem_drop h)

theorem slash_not_mem_stepsTo : ∀ s ∈ d.stepsTo target, '/' ∉ s.toList := by
  intro s hs
  rcases mem_stepsTo hs with rfl | hs
  · decide
  · exact Path.slash_not_mem_of_mem_segments hs

/-- The steps to a target without a mark are not taken for a fragment. -/
theorem mark_not_mem_stepsTo (hmark : '#' ∉ target.toList) :
    '#' ∉ (Path.join (d.stepsTo target)).toList := by
  rw [Path.mem_join (by decide)]
  rintro ⟨s, hs, hmem⟩
  rcases mem_stepsTo hs with rfl | hs
  · exact absurd hmem (by decide)
  · refine hmark ?_
    rw [← Path.join_segments target, Path.mem_join (by decide)]
    exact ⟨s, hs, hmem⟩

/-- The steps to a target are not taken from the root. -/
theorem isRooted_stepsTo (h : Path.IsName target) :
    Location.isRooted (Path.join (d.stepsTo target)) = false := by
  refine Path.isRooted_join stepsTo_ne_nil fun s hs => ⟨?_, slash_not_mem_stepsTo s hs⟩
  rcases mem_stepsTo hs with rfl | hs
  · decide
  · exact (h.plain s hs).1

/-- Where a reference in relative form leads: from the directory of the page, along its steps. -/
theorem follow_between (h : Path.IsName target) (hmark : '#' ∉ target.toList)
    (fragment : Option String) :
    follow d.entry.url
        (Fragment.attach (Path.between (Path.parent d.location.url) target) fragment) = some target ↔
      d.StandsIn target := by
  have hpage : ∀ s ∈ (Path.segments d.entry.url).dropLast, '/' ∉ s.toList := fun s hs =>
    Path.slash_not_mem_of_mem_segments (List.dropLast_subset _ hs)
  rw [between_eq h, follow]
  simp only [Fragment.path_attach (mark_not_mem_stepsTo hmark), isRooted_stepsTo h]
  rw [if_neg (by decide), Path.normalize_eq_some_iff h.ne_empty, Path.segments_slash, Path.walk_append,
    Path.directoryPart, Path.walk_segments_join hpage,
    Path.segments_join stepsTo_ne_nil slash_not_mem_stepsTo, StandsIn, pageDirectory?]
  cases Path.walk [] (Path.segments d.entry.url).dropLast with
  | none => simp
  | some dir => simp [walk_stepsTo h]

/-! ## Which references lead to their page

The two directories are those of two urls: the one that the page is written to, with its extension and
without dot segments, and the one that is set, as it is spelt. They agree where that one is in normal form
already. -/

/-- Slashes in front of a url do not matter. -/
theorem normalize_bare (url : String) :
    Path.normalize (Fragment.path (.ofList (url.toList.dropWhile (· = '/')))) =
      Path.normalize (Fragment.path url) := by
  obtain ⟨cs, rfl⟩ : ∃ cs, url = String.ofList cs := ⟨_, String.ofList_toList.symm⟩
  rw [String.toList_ofList]
  induction cs with
  | nil => rfl
  | cons c cs ih =>
    by_cases hc : c = '/'
    · have hslash : String.ofList ('/' :: cs) = "/" ++ .ofList cs := by
        apply String.ext
        simp
      rw [hc, List.dropWhile_cons_of_pos (by simp), ih, hslash, Fragment.path_rooted,
        Path.normalize_rooted]
    · rw [List.dropWhile_cons_of_neg (by simpa using hc)]

/-- Rooted references lead to their page from everywhere. -/
theorem lands_of_rooted (h : d.config.useRelativeUrls = false) (url : String) : d.Lands url := by
  rw [Lands, referenceUrl]
  simp only [h, Bool.false_eq_true, if_false]
  rw [follow_rooted, normalize_bare]

/-- References in relative form lead to their page exactly if the directory of the page can stand in for
the one that they are counted from. -/
theorem lands_iff_of_relative (h : d.config.useRelativeUrls = true) (url : String) :
    d.Lands url ↔ ∀ target, Path.normalize (Fragment.path url) = some target → target ≠ "" →
      d.StandsIn target := by
  rw [Lands, referenceUrl]
  simp only [h, if_true]
  -- the link is made of the bare url, and only its path matters for where it leads
  have hbare := normalize_bare url
  generalize String.ofList (url.toList.dropWhile (· = '/')) = bare at hbare
  rw [← hbare]
  by_cases htarget : ∃ target, Path.normalize (Fragment.path bare) = some target ∧ target ≠ ""
  · obtain ⟨target, htarget, hne⟩ := htarget
    have hname : Path.IsName target := ⟨hne, Path.normalize_normalize htarget⟩
    have hmark : '#' ∉ target.toList := fun e =>
      Fragment.mark_not_mem_path bare (Path.mem_of_normalize htarget (by decide) e)
    rw [Location.relative_of_target htarget hne, htarget, follow_between hname hmark]
    simp [hne]
  · have hnone : ∀ target, Path.normalize (Fragment.path bare) = some target → target = "" :=
      fun target h => by_contra fun hne => htarget ⟨target, h, hne⟩
    rw [Location.relative_of_not_target hnone, follow_rooted]
    exact iff_of_true rfl fun target h hne => absurd (hnone target h) hne

/-- References on a page with a url in normal form are counted from the directory of that url. -/
theorem countedDirectory_of_isName (h : Path.IsName d.location.url) :
    d.countedDirectory = (Path.segments d.location.url).dropLast := by
  rw [countedDirectory, h.parent_eq]
  by_cases hinit : (Path.segments d.location.url).dropLast = []
  · rw [hinit]
    rfl
  · rw [Path.segments_join hinit fun s hs => (h.parent_plain s hs).2]
    exact List.filter_eq_self.mpr fun s hs => by simpa using (h.parent_plain s hs).1.1

/-- A page with a url in normal form is written to the directory that its references are counted from. -/
theorem pageDirectory?_of_isName (h : Path.IsName d.location.url)
    (hextension : '/' ∉ d.config.outputExtension.toList) :
    d.pageDirectory? = some d.countedDirectory := by
  have hpage : (Path.segments d.entry.url).dropLast = (Path.segments d.location.url).dropLast := by
    have hbehind : '/' ∉ ("." ++ d.config.outputExtension).toList := by
      rw [String.toList_append, List.mem_append, not_or]
      exact ⟨by decide, hextension⟩
    rw [entry, Config.documentUrl]
    split
    · rfl
    · rw [String.append_assoc, Path.dropLast_segments_append hbehind]
  rw [pageDirectory?, hpage, countedDirectory_of_isName h,
    Path.walk_of_plain fun s hs => (h.parent_plain s hs).1]
  rfl

/-- So the one directory stands in for the other, whatever the target. -/
theorem standsIn_of_isName (h : Path.IsName d.location.url)
    (hextension : '/' ∉ d.config.outputExtension.toList) (target : String) : d.StandsIn target :=
  ⟨_, pageDirectory?_of_isName h hextension, rfl, rfl⟩

instance (d : Draft) (url : String) : Decidable (d.Lands url) :=
  inferInstanceAs (Decidable (_ = _))

/-- **Where references lead.** A rooted reference leads to its page from everywhere. A reference in
relative form does so exactly if the directory that its own page is written to can stand in for the one
that the reference is counted from. A url in normal form, chosen or not, is enough for that, so then both
forms lead to the same page. -/
theorem references_land (d : Draft) (url : String) :
    (d.config.useRelativeUrls = false → d.Lands url) ∧
    (d.config.useRelativeUrls = true →
      (d.Lands url ↔ ∀ target, Path.normalize (Fragment.path url) = some target → target ≠ "" →
        d.StandsIn target)) ∧
    (Path.IsName d.location.url → '/' ∉ d.config.outputExtension.toList → d.Lands url) := by
  refine ⟨fun h => lands_of_rooted h url, fun h => lands_iff_of_relative h url, ?_⟩
  intro hname hextension
  cases h : d.config.useRelativeUrls with
  | false => exact lands_of_rooted h url
  | true =>
    rw [lands_iff_of_relative h]
    intro target _ _
    exact standsIn_of_isName hname hextension target

/-- A chosen url in normal form moves the page, and the references on it with it. -/
theorem references_land_start :
    let page := setUrl { file := "guide/intro" } "/docs/start"
    page.Lands "docs/other.html" ∧ page.referenceUrl "docs/other.html" = "other.html" :=
  ⟨(references_land _ _).2.2 ⟨by decide, by decide⟩ (by decide), by decide⟩

/-- A chosen url with a dot segment: the page is written to the directory `docs`, but references on it are
counted from one below it. The reference to another page in `docs` leads out of that directory. -/
theorem reference_lost :
    let page := setUrl { file := "guide/intro" } "docs/./start"
    let other : Draft := { file := "docs/other" }
    page.config.useRelativeUrls = true ∧ page.entry.url = "docs/./start.html" ∧
      other.entry.url = "docs/other.html" ∧ page.referenceUrl other.entry.url = "../other.html" ∧
      follow page.entry.url (page.referenceUrl other.entry.url) = some "other.html" ∧
      ¬page.Lands other.entry.url := by
  decide

/-- A slash at the end of a chosen url loses references as well: it makes a directory for the page, but
references are counted from the directory above. -/
example :
    let page := setUrl { file := "guide/intro", config := { outputExtension := "" } } "docs/start/"
    page.referenceUrl "docs/other" = "other" ∧
      follow page.entry.url "other" = some "docs/start/other" := by
  decide

end Draft

end Crosslink
