import Crosslink.Proofs.RelativeLinks

/-!
# The form of relative links

A rooted link is rewritten to the walk from the directory of the page to its target: up to the nearest
directory that the two share, and down from there. The last segment of the target is never shared, so that
the walk ends in it even where the target is a directory above the page, and no walk is empty.

* `Path.LongestShared` is the longest common beginning of two paths; `longestShared_take` finds it.
* `Location.Walk` is the form of a relative link: how often it climbs, what it goes down by, where it leads.
* `Location.relative_walks` : the relative form of a link is such a walk, with its fragment behind it.
-/

namespace Crosslink

/-! ## Shared beginnings

The longest common beginning is described as the longest of all common beginnings, and then found by
comparing the two lists from the front. -/

namespace Path

variable {a b common shared : List String}

/-- `shared` is the longest list that both `a` and `b` begin with. -/
structure LongestShared (a b shared : List String) : Prop where
  left : shared <+: a
  right : shared <+: b
  longest : ∀ common, common <+: a → common <+: b → common.length ≤ shared.length

/-- No common beginning is longer than the one that is found. -/
theorem length_le_sharedLength (ha : common <+: a) (hb : common <+: b) :
    common.length ≤ sharedLength a b := by
  induction common generalizing a b with
  | nil => exact Nat.zero_le _
  | cons seg common ih =>
    obtain ⟨resta, rfl⟩ := ha
    obtain ⟨restb, rfl⟩ := hb
    rw [List.cons_append, List.cons_append, sharedLength, if_pos rfl]
    exact Nat.succ_le_succ (ih (List.prefix_append common resta) (List.prefix_append common restb))

/-- What two paths share is the longest common beginning. -/
theorem longestShared_take (a b : List String) : LongestShared a b (a.take (sharedLength a b)) where
  left := List.take_prefix _ _
  right := by
    rw [take_sharedLength]
    exact List.take_prefix _ _
  longest common ha hb := by
    rw [List.length_take, Nat.min_eq_left (sharedLength_le a b).1]
    exact length_le_sharedLength ha hb

end Path

/-! ## Fragments

A fragment is cut off before a path is rewritten, and put behind it again. -/

namespace Fragment

/-- An attached fragment is read back, unless it names nothing. -/
theorem fragment?_attach {path : String} (h : '#' ∉ path.toList) (fragment : Option String) :
    fragment? (attach path fragment) = fragment.filter (· ≠ "") := by
  have hpath : ∀ c ∈ path.toList, decide (c ≠ '#') = true := fun c hc =>
    decide_eq_true (ne_of_mem_of_not_mem hc h)
  have hnone : fragment? path = none := by
    rw [fragment?, List.dropWhile_eq_nil_iff.mpr hpath]
  cases fragment with
  | none => exact hnone
  | some fragment =>
    rw [attach]
    split
    · rename_i hempty
      rw [hnone, hempty]
      rfl
    · rename_i hne
      rw [Option.filter_some, if_pos (decide_eq_true hne), fragment?, String.toList_append,
        String.toList_append, List.append_assoc, List.dropWhile_append_of_pos hpath]
      simp

end Fragment

/-! ## Relative links

The walk is counted from the directory of the url, and it is read from there. For a url in normal form
that is the directory the page is in, so what is counted and what is read agree, and the walk leads to its
target. -/

/-- A document can stand anywhere. -/
theorem Draft.exists_location (loc : Location) : ∃ d : Draft, d.location = loc :=
  ⟨{ file := loc.file, config := { targetDirectory := loc.targetDirectory }, override := loc.override },
    rfl⟩

namespace Location

/-- `path` is the walk from a directory to a target: up to `shared`, which the two have in common, and
then along `down`. -/
structure Walk (directory target path : String) (shared down : List String) : Prop where
  /-- no more is in common, the last segment of the target aside -/
  common : Path.LongestShared ((Path.segments directory).filter (· ≠ ""))
    (Path.segments target).dropLast shared
  /-- the target lies below what is in common -/
  below : Path.segments target = shared ++ down
  /-- the walk climbs out of every directory that is not in common, and then goes down -/
  steps : Path.segments path =
    List.replicate (((Path.segments directory).filter (· ≠ "")).length - shared.length) ".." ++ down
  /-- it does go down -/
  ends : down ≠ []
  /-- and does not climb again -/
  plain : ∀ seg ∈ down, Path.IsPlain seg
  /-- it is not taken from the root -/
  unrooted : isRooted path = false
  /-- it leads to the target -/
  leads : Path.normalize (directory ++ "/" ++ path) = some target

/-- References on a page with a url in normal form are counted from where its directory leads. -/
theorem walk_parent {d : Draft} (h : Path.IsName d.location.url) :
    Path.walk [] (Path.segments (Path.parent d.location.url)) = some d.countedDirectory := by
  rw [h.walk_parent, Draft.countedDirectory_of_isName h]

/-- The path between the directory of a page and a target is a walk. -/
theorem walk_between {loc : Location} {target : String} (hurl : Path.IsName loc.url)
    (htarget : Path.IsName target) :
    ∃ shared down,
      Walk (Path.parent loc.url) target (Path.between (Path.parent loc.url) target) shared down := by
  -- the steps to a target are defined on drafts, and every location is that of some draft
  obtain ⟨d, rfl⟩ := Draft.exists_location loc
  have hsteps : Path.segments (Path.join (d.stepsTo target)) = d.stepsTo target :=
    Path.segments_join Draft.stepsTo_ne_nil Draft.slash_not_mem_stepsTo
  have hlength : (d.countedDirectory.take (d.sharedWith target)).length = d.sharedWith target := by
    rw [List.length_take, Nat.min_eq_left Draft.sharedWith_le]
  rw [Draft.between_eq htarget]
  refine ⟨d.countedDirectory.take (d.sharedWith target),
    (Path.segments target).drop (d.sharedWith target), {
      common := Path.longestShared_take _ _
      below := ?below
      steps := ?steps
      ends := ?ends
      plain := fun seg hseg => htarget.plain seg (List.mem_of_mem_drop hseg)
      unrooted := Draft.isRooted_stepsTo htarget
      leads := ?leads }⟩
  case below => rw [Draft.take_sharedWith, List.take_append_drop]
  case steps =>
    rw [hsteps, hlength]
    rfl
  case ends =>
    rw [Ne, List.drop_eq_nil_iff]
    exact Nat.not_le.mpr Draft.sharedWith_lt
  case leads =>
    rw [Path.normalize_eq_some_iff htarget.ne_empty, Path.segments_slash, Path.walk_append,
      walk_parent hurl, Option.bind_some, hsteps, Draft.walk_stepsTo htarget]
    exact ⟨rfl, rfl⟩

/-- **Relative links walk to their target.** Let the url of a page be in normal form, and let a rooted link
lead to a target. In its relative form it is a path with the fragment of the link behind it, unless that is
empty. The path climbs from the directory of the page, as often as that has segments more than it has in
common with the directory of the target; it goes down from there, by at least one plain segment; it is not
rooted; and, read from the directory of the page, it leads to the target. -/
theorem relative_walks (loc : Location) (link target : String) (hurl : Path.IsName loc.url)
    (htarget : Path.normalize (Fragment.path link) = some target) (hne : target ≠ "") :
    ∃ path shared down,
      loc.relative ("/" ++ link) = Fragment.attach path (Fragment.fragment? link) ∧
      Fragment.split (loc.relative ("/" ++ link)) =
        (path, (Fragment.fragment? link).filter (· ≠ "")) ∧
      Walk (Path.parent loc.url) target path shared down := by
  have hname : Path.IsName target := ⟨hne, Path.normalize_normalize htarget⟩
  have hmark : '#' ∉ target.toList := fun hmem =>
    Fragment.mark_not_mem_path link (Path.mem_of_normalize htarget (by decide) hmem)
  have hpath : '#' ∉ (Path.between (Path.parent loc.url) target).toList := by
    obtain ⟨d, rfl⟩ := Draft.exists_location loc
    rw [Draft.between_eq hname]
    exact Draft.mark_not_mem_stepsTo hmark
  obtain ⟨shared, down, hwalk⟩ := walk_between hurl hname
  refine ⟨_, shared, down, relative_of_target htarget hne, ?_, hwalk⟩
  rw [relative_of_target htarget hne, Fragment.split, Fragment.path_attach hpath,
    Fragment.fragment?_attach hpath]

/-- A link from a page to a directory that the page is in, with a second mark in its fragment. -/
theorem relative_walks_up :
    let loc : Location := ⟨"index", "", some "guide/start/deep/intro"⟩
    let link := "guide//start#a#b"
    Path.IsName loc.url ∧ Path.normalize (Fragment.path link) = some "guide/start" ∧
      loc.relative ("/" ++ link) = "../../start#a#b" ∧
      ∃ shared down, Walk "guide/start/deep" "guide/start" "../../start" shared down := by
  intro loc link
  have hurl : Path.IsName loc.url := ⟨by decide, by decide⟩
  have htarget : Path.normalize (Fragment.path link) = some "guide/start" := by decide
  have hlink : loc.relative ("/" ++ link) = "../../start#a#b" := by decide +kernel
  obtain ⟨path, shared, down, -, hsplit, hwalk⟩ :=
    relative_walks loc link "guide/start" hurl htarget (by decide)
  have hpath : path = "../../start" := by
    rw [hlink] at hsplit
    exact (congrArg Prod.fst hsplit).symm
  have hparent : Path.parent loc.url = "guide/start/deep" := by decide
  rw [hpath, hparent] at hwalk
  exact ⟨hurl, htarget, hlink, shared, down, hwalk⟩

end Location

end Crosslink
