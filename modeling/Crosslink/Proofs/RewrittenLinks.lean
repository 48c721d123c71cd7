import Crosslink.Proofs.FragmentKeys
import Crosslink.Proofs.RelativeForm

/-!
# Links that are rewritten

A link to a document is written anew in rooted and in relative form, and both are read again as links: by
the document itself, and by whoever reads the page. The rooted form keeps the document of every link. The
relative form of a document in a directory below the page begins with the name of that directory or of the
document, and a name may look like the beginning of a url: a document `news:2024` is written as
`news:2024`, and that is a url of the scheme `news`.

* `Text.Bare` are the texts without white space and marks; `Location.canonical?_of_bare` reads one as a
  link.
* `Url.HasSlashlessScheme` is how a url without slashes looks, `Url.isExternal_iff_of_bare` that no other
  path is taken for one.
* `Path.inside` is a path in a directory; `Location.Walk.inside_or_climbs` : the relative form of a link
  climbs, or it is what the name of its target goes on with inside the directory of the page.
* `Location.rewritten_links` says which forms lead to the document, `Location.rewritten_link_lost` is one
  that does not.
-/

namespace Crosslink

/-! ## Bare texts

White space and marks are what reading a link takes off. A text that holds none of them is read as it
stands, and so is everything that stands together in it. -/

namespace Text

/-- A text without white space and without the mark of a fragment. -/
def Bare (text : String) : Prop := ∀ c ∈ text.toList, isBlank c = false ∧ c ≠ '#'

instance (text : String) : Decidable (Bare text) :=
  List.decidableBAll (fun c => isBlank c = false ∧ c ≠ '#') text.toList

namespace Bare

variable {text : String}

theorem unmarked (h : Bare text) : '#' ∉ text.toList := fun hmem => (h _ hmem).2 rfl

theorem strip (h : Bare text) : Text.strip isBlank text.toList = text.toList :=
  strip_eq_self (fun c hc => (h c (List.mem_of_mem_head? hc)).1)
    (fun c hc => (h c (List.mem_of_getLast? hc)).1)

theorem trim (h : Bare text) : Text.trim text = text := by
  rw [Text.trim, h.strip, String.ofList_toList]

/-- What is left of a bare text when a url is read from it stands together in it. -/
theorem clean_infix (h : Bare text) : Url.clean text.toList <:+: text.toList := by
  have hpart : Text.strip (·.toNat ≤ 0x20) text.toList <:+: text.toList :=
    (Text.stripEnd_prefix _ _).isInfix.trans (List.dropWhile_suffix _).isInfix
  have hkeep : ∀ c ∈ Text.strip (·.toNat ≤ 0x20) text.toList,
      (decide (c ≠ '\t') && decide (c ≠ '\n') && decide (c ≠ '\r')) = true := by
    intro c hc
    have hblank : isBlank c = false := (h c (hpart.subset hc)).1
    have hne : ∀ blank, isBlank blank = true → c ≠ blank := by
      rintro blank hb rfl
      rw [hblank] at hb
      cases hb
    simp [hne '\t' (by decide), hne '\n' (by decide), hne '\r' (by decide)]
  rw [Url.clean, List.filter_eq_self.mpr hkeep]
  exact hpart

end Bare

end Text

/-! ## Schemes without slashes

Whether a text is external is decided by a parser of urls. Of a path with no two slashes together that
parser can accept only what has a scheme that needs none, and all that counts is the word in front of the
first colon. -/

namespace Url

variable {text : String} {c : Char} {cs rest word scheme : List Char}

/-- Whether a text begins, read as a url, with a scheme that leads out of the corpus without slashes, in
capital or small letters, and a colon. -/
def HasSlashlessScheme (text : String) : Prop :=
  ∃ word tail, clean text.toList = word ++ ':' :: tail ∧
    String.ofList (word.map Char.toLower) ∈ slashlessSchemes

/-- The schemes without slashes are words of small letters. -/
theorem letters_of_slashless (h : String.ofList scheme ∈ slashlessSchemes) :
    scheme ≠ [] ∧ ∀ c ∈ scheme, c.isAlpha = true := by
  have hall : ∀ name ∈ slashlessSchemes, name.toList ≠ [] ∧ name.toList.all Char.isAlpha = true := by
    decide
  have hscheme := hall _ h
  rwa [String.toList_ofList, List.all_eq_true] at hscheme

/-- None of these schemes is one whose url needs a host. -/
theorem schemeKind_of_slashless (h : String.ofList scheme ∈ slashlessSchemes) :
    schemeKind scheme = .other := by
  have hall : ∀ name ∈ slashlessSchemes, schemeKind name.toList = .other := by decide
  have hscheme := hall _ h
  rwa [String.toList_ofList] at hscheme

theorem isAlpha_of_toLower (h : c.toLower.isAlpha = true) : c.isAlpha = true := by
  by_cases hupper : c.isUpper = true
  · exact (Bool.or_eq_true _ _).mpr (.inl hupper)
  · have hsame : c.toLower = c := dif_neg fun hc => hupper (decide_eq_true hc)
    rwa [hsame] at h

/-- What is read as a scheme stands at the beginning of a text, with a colon behind it. -/
theorem splitScheme?_eq_some (h : splitScheme? cs = some (scheme, rest)) :
    ∃ word, cs = word ++ ':' :: rest ∧ scheme = word.map Char.toLower := by
  rw [splitScheme?] at h
  split at h
  · rename_i first others tail hword htail
    split at h
    · obtain ⟨rfl, rfl⟩ := Prod.mk.inj (Option.some.inj h)
      refine ⟨cs.takeWhile isSchemeChar, ?_, rfl⟩
      rw [← htail, List.prefix_iff_eq_append.mp (List.takeWhile_prefix _)]
    · cases h
  · cases h

/-- A word of letters with a colon behind it is read as a scheme. -/
theorem splitScheme?_of_letters (hne : word ≠ []) (h : ∀ c ∈ word, c.isAlpha = true) (tail : List Char) :
    splitScheme? (word ++ ':' :: tail) = some (word.map Char.toLower, tail) := by
  obtain ⟨first, others, rfl⟩ := List.exists_cons_of_ne_nil hne
  have hscheme : ∀ c ∈ first :: others, isSchemeChar c = true := fun c hc => by
    simp [isSchemeChar, Char.isAlphanum, h c hc]
  have hword : (first :: others ++ ':' :: tail).takeWhile isSchemeChar = first :: others := by
    rw [List.takeWhile_append_of_pos hscheme, List.takeWhile_cons_of_neg (by decide), List.append_nil]
  simp only [splitScheme?, hword, List.drop_left, h first List.mem_cons_self, if_true]

/-- What begins with such a scheme is a whole url, unless two slashes follow and make a host of the rest. -/
theorem scheme?_of_slashless (hclean : clean cs = word ++ ':' :: rest)
    (hscheme : String.ofList (word.map Char.toLower) ∈ slashlessSchemes) (hrest : ¬['/', '/'] <+: rest) :
    scheme? cs = some (word.map Char.toLower) := by
  obtain ⟨hne, hletters⟩ := letters_of_slashless hscheme
  have hword : ∀ c ∈ word, c.isAlpha = true := fun c hc =>
    isAlpha_of_toLower (hletters _ (List.mem_map_of_mem hc))
  have hwhole : isUrlRest .other rest = true := by
    rw [isUrlRest]
    rintro text rfl
    exact hrest ⟨text, rfl⟩
  rw [scheme?, hclean, splitScheme?_of_letters (mt List.map_eq_nil_iff.mpr hne) hword]
  simp only [schemeKind_of_slashless hscheme, hwhole, if_true]

/-- What is left behind some bytes of a text is its end. -/
theorem dropBytes?_suffix {n : Nat} (h : dropBytes? n cs = some rest) : rest <:+ cs := by
  induction n, cs using dropBytes?.induct with
  | case1 cs =>
    rw [dropBytes?] at h
    exact Option.some.inj h ▸ List.suffix_rfl
  | case2 n =>
    rw [dropBytes?] at h
    cases h
  | case3 n c cs hfits ih =>
    rw [dropBytes?, if_pos hfits] at h
    exact (ih h).trans (List.suffix_cons c cs)
  | case4 n c cs hsplits =>
    rw [dropBytes?, if_neg hsplits] at h
    cases h

/-- A bare text in which no two slashes stand together is external exactly if it begins with a scheme that
needs none. -/
theorem isExternal_iff_of_bare (hbare : Text.Bare text) (hslashes : ¬['/', '/'] <:+: text.toList) :
    isExternal text = true ↔ HasSlashlessScheme text := by
  -- behind a colon there is no room for two slashes
  have hcolon : ∀ n, (dropBytes? n text.toList).any ("://".toList.isPrefixOf ·) = false := by
    intro n
    cases hdrop : dropBytes? n text.toList with
    | none => rfl
    | some rest =>
      refine Bool.eq_false_iff.mpr fun hprefix => hslashes ?_
      obtain ⟨others, hothers⟩ := List.isPrefixOf_iff_prefix.mp hprefix
      refine List.IsInfix.trans ?_ (dropBytes?_suffix hdrop).isInfix
      exact ⟨[':'], others, hothers⟩
  simp only [isExternal, hbare.strip]
  constructor
  · intro h
    split at h
    · cases h
    · rename_i scheme hscheme
      rw [hcolon, Bool.false_or, List.contains_iff_mem] at h
      rw [scheme?] at hscheme
      split at hscheme
      · cases hscheme
      · rename_i rest hsplit
        obtain ⟨word, hclean, rfl⟩ := splitScheme?_eq_some hsplit
        split at hscheme
        · obtain rfl := Option.some.inj hscheme
          exact ⟨word, _, hclean, h⟩
        · cases hscheme
  · rintro ⟨word, tail, hclean, hscheme⟩
    have htail : ¬['/', '/'] <+: tail := by
      rintro ⟨others, rfl⟩
      refine hslashes (List.IsInfix.trans ?_ hbare.clean_infix)
      exact ⟨word ++ [':'], others, by rw [hclean]; simp⟩
    rw [scheme?_of_slashless hclean hscheme htail]
    simp [hscheme]

/-- What begins with a dot does not begin with a scheme. -/
theorem not_hasSlashlessScheme_of_dot (h : text.toList = '.' :: cs) : ¬HasSlashlessScheme text := by
  rintro ⟨word, tail, hclean, hscheme⟩
  obtain ⟨hne, hletters⟩ := letters_of_slashless hscheme
  obtain ⟨first, others, rfl⟩ := List.exists_cons_of_ne_nil (mt List.map_eq_nil_iff.mpr hne)
  have hdot : first = '.' := by
    rw [h, clean, Text.strip_cons_of_neg (by decide), List.filter_cons_of_pos (by decide)] at hclean
    exact (List.cons.inj hclean).1.symm
  have hletter := hletters _ List.mem_cons_self
  rw [hdot] at hletter
  exact absurd hletter (by decide)

end Url

/-! ## Paths in a directory

What stands in a directory is what the name of the directory goes on with, behind a slash. For the top
level there is no name and no slash, so the two cases are one only in their segments. -/

namespace Path

variable {path name rest : String}

/-- A path is told by its segments. -/
theorem eq_of_segments (h : segments path = segments name) : path = name := by
  rw [← join_segments path, h, join_segments]

/-- A path without empty segments has no two slashes together. -/
theorem slashes_not_infix (h : "" ∉ segments path) : ¬['/', '/'] <:+: path.toList := by
  rintro ⟨before, after, hchars⟩
  have hpath : path = .ofList before ++ "/" ++ ("" ++ "/" ++ .ofList after) := by
    apply String.ext
    rw [← hchars]
    simp
  refine h ?_
  rw [hpath, segments_slash, segments_slash]
  simp [segments]

/-- The path that stands under a name in a directory. -/
def inside (directory rest : String) : String :=
  if directory = "" then rest else directory ++ "/" ++ rest

/-- The segments of a path in a directory are those of the directory and its own. -/
theorem segments_inside {file : String} (h : IsName file) (rest : String) :
    segments (inside (parent file) rest) = (segments file).dropLast ++ segments rest := by
  rw [inside, h.parent_eq]
  by_cases hinit : (segments file).dropLast = []
  · rw [hinit]
    rfl
  · rw [if_neg (isName_join hinit h.parent_plain).ne_empty, segments_slash,
      segments_join hinit fun s hs => (h.parent_plain s hs).2]

/-- What a path in a directory goes on with. -/
theorem inside_injective {file other : String} (h : IsName file)
    (heq : inside (parent file) rest = inside (parent file) other) : rest = other := by
  have hsegments := congrArg segments heq
  rw [segments_inside h, segments_inside h] at hsegments
  exact eq_of_segments (List.append_cancel_left hsegments)

/-- A path that begins with a climb begins with a dot. -/
theorem exists_dot {steps : List String} (h : segments path = ".." :: steps) :
    ∃ cs, path.toList = '.' :: cs := by
  have hpath := join_segments path
  rw [h] at hpath
  by_cases hsteps : steps = []
  · rw [← hpath, hsteps]
    exact ⟨['.'], rfl⟩
  · rw [← hpath, join_cons _ hsteps, String.append_assoc, String.toList_append]
    exact ⟨_, rfl⟩

end Path

namespace Text.Bare

variable {path name : String}

theorem append {a b : String} (ha : Bare a) (hb : Bare b) : Bare (a ++ b) := by
  intro c hc
  rw [String.toList_append, List.mem_append] at hc
  exact hc.elim (ha c) (hb c)

/-- Normalizing keeps a text bare. -/
theorem normalize (h : Bare path) (hname : Path.normalize path = some name) : Bare name := by
  intro c hc
  by_cases hslash : c = '/'
  · subst hslash
    decide
  · exact h c (Path.mem_of_normalize hname hslash hc)

theorem parent (h : Bare path) : Bare (Path.parent path) := by
  intro c hc
  rw [Path.parent, String.toList_ofList, List.mem_reverse] at hc
  have hstripped := List.mem_reverse.mp (List.dropWhile_subset _ (List.mem_of_mem_drop hc))
  exact h c ((Text.stripEnd_prefix _ _).subset hstripped)

end Text.Bare

/-! ## Relative forms

The relative form of a link is a walk. If it climbs it begins with a dot and is taken for no url. If it
does not, it is what the name of the target goes on with inside the directory of the page, and then
everything depends on how that begins. -/

/-- A text without a mark has no fragment. -/
theorem Fragment.fragment?_of_unmarked {link : String} (h : '#' ∉ link.toList) : fragment? link = none := by
  have hread := fragment?_attach h none
  rwa [Option.filter_none, attach_none] at hread

namespace Location

variable {loc : Location} {link name : String}

/-- A bare text is read as it stands. -/
theorem canonical?_of_bare (h : Text.Bare link) (loc : Location) : loc.canonical? link = loc.read? link := by
  rw [canonical?_unmarked loc h.unmarked, h.trim]

/-- A bare link on a page with a bare name leads to a bare name. -/
theorem bare_of_canonical? (hfile : Text.Bare loc.file) (hlink : Text.Bare link)
    (h : loc.canonical? link = some name) : Text.Bare name := by
  have hjoined : Text.Bare (loc.joined link) := by
    rw [joined_eq]
    split
    · intro c hc
      rw [String.toList_ofList] at hc
      exact hlink c (List.mem_of_mem_drop hc)
    · exact (hfile.parent.append (by decide)).append hlink
  rw [canonical?_of_bare hlink, read?] at h
  split at h
  · cases h
  · exact hjoined.normalize (Option.filter_eq_some_iff.mp h).1

/-- What is read as a link to a document is not external. -/
theorem not_external_of_canonical? (hlink : Text.Bare link) (h : loc.canonical? link = some name) :
    Url.isExternal link = false := by
  rw [canonical?_of_bare hlink, read?] at h
  split at h
  · cases h
  · rename_i hstays
    exact Bool.eq_false_iff.mpr (not_or.mp hstays).2

/-- The rooted form of a link to a document keeps the document. -/
theorem canonical?_absolute (hfile : Text.Bare loc.file) (hlink : Text.Bare link)
    (h : loc.canonical? link = some name) : loc.canonical? (loc.absolute link) = some name := by
  have hname := bare_of_canonical? hfile hlink h
  rw [absolute, not_external_of_canonical? hlink h]
  split
  · exact h
  · simp only [h]
    rw [Fragment.fragment?_of_unmarked hlink.unmarked, Fragment.attach_none]
    refine (canonical?_rooted_iff (isName_of_canonical? h) loc).mpr ⟨hname.unmarked, fun c hc => ?_⟩
    exact (hname c (List.mem_of_getLast? hc)).1

namespace Walk

variable {file target path : String} {shared down : List String}

/-- A walk is made of climbs and of segments of its target. -/
theorem mem_segments (h : Walk (Path.parent file) target path shared down) {seg : String}
    (hseg : seg ∈ Path.segments path) : seg = ".." ∨ seg ∈ Path.segments target := by
  rw [h.steps] at hseg
  rw [h.below]
  rcases List.mem_append.mp hseg with hseg | hseg
  · exact .inl (List.eq_of_mem_replicate hseg)
  · exact .inr (List.mem_append_right _ hseg)

theorem bare (h : Walk (Path.parent file) target path shared down) (htarget : Text.Bare target) :
    Text.Bare path := by
  intro c hc
  by_cases hslash : c = '/'
  · subst hslash
    decide
  · rw [← Path.join_segments path, Path.mem_join hslash] at hc
    obtain ⟨seg, hseg, hc⟩ := hc
    rcases h.mem_segments hseg with rfl | hseg
    · obtain rfl : c = '.' := by simpa using hc
      decide
    · refine htarget c ?_
      rw [← Path.join_segments target, Path.mem_join hslash]
      exact ⟨seg, hseg, hc⟩

theorem empty_not_mem (h : Walk (Path.parent file) target path shared down)
    (htarget : Path.IsName target) : "" ∉ Path.segments path := by
  intro hempty
  rcases h.mem_segments hempty with heq | hmem
  · exact absurd heq (by decide)
  · exact (htarget.plain "" hmem).1 rfl

/-- A walk to a target inside the directory is what the name of the target goes on with. Any other begins
with a climb. -/
theorem inside_or_climbs (h : Walk (Path.parent file) target path shared down)
    (hfile : Path.IsName file) :
    target = Path.inside (Path.parent file) path ∨
      (∃ steps, Path.segments path = ".." :: steps) ∧
        ∀ rest, target ≠ Path.inside (Path.parent file) rest := by
  have hdirectory : (Path.segments (Path.parent file)).filter (· ≠ "") =
      (Path.segments file).dropLast :=
    Draft.countedDirectory_of_isName (d := { file }) hfile
  have hcommon := h.common
  have hsteps := h.steps
  rw [hdirectory] at hcommon hsteps
  by_cases hshared : shared.length = (Path.segments file).dropLast.length
  · left
    rw [hshared, Nat.sub_self, List.replicate_zero, List.nil_append] at hsteps
    apply Path.eq_of_segments
    rw [Path.segments_inside hfile, hsteps, h.below, hcommon.left.eq_of_length hshared]
  · right
    have hle := hcommon.left.length_le
    refine ⟨?_, fun rest hrest => hshared ?_⟩
    · obtain ⟨n, hn⟩ : ∃ n, (Path.segments file).dropLast.length - shared.length = n + 1 :=
        Nat.exists_eq_add_one.mpr (by omega)
      rw [hn, List.replicate_succ] at hsteps
      exact ⟨_, hsteps⟩
    · -- the whole directory would be in common
      have hwhole : (Path.segments file).dropLast <+: (Path.segments target).dropLast := by
        rw [hrest, Path.segments_inside hfile,
          List.dropLast_append_of_ne_nil (Path.segments_ne_nil rest)]
        exact List.prefix_append _ _
      exact hle.antisymm (hcommon.longest _ List.prefix_rfl hwhole)

end Walk

/-- Whether the name of a document, read from the directory of a page, looks like a url. -/
def LooksExternal (loc : Location) (name : String) : Prop :=
  ∃ rest, name = Path.inside loc.directory rest ∧ Url.HasSlashlessScheme rest

/-- The relative form of the name of a document is a walk. -/
theorem walk_relative (hurl : loc.override = none) (hfile : Path.IsName loc.file)
    (hname : Path.IsName name) (hbare : Text.Bare name) :
    ∃ shared down, Walk (Path.parent loc.file) name (loc.relative ("/" ++ name)) shared down := by
  have htarget : Path.normalize (Fragment.path name) = some name := by
    rw [Fragment.path_of_unmarked hbare.unmarked, hname.normal]
  have hsame : loc.url = loc.file := by rw [url, hurl, Option.getD_none]
  rw [relative_of_target htarget hname.ne_empty, Fragment.fragment?_of_unmarked hbare.unmarked,
    Fragment.attach_none, ← hsame]
  rw [← hsame] at hfile
  exact walk_between hfile hname

/-- The relative form of a link is external exactly if the name of its target looks like a url. -/
theorem isExternal_relative_iff (hurl : loc.override = none) (hfile : Path.IsName loc.file)
    (hname : Path.IsName name) (hbare : Text.Bare name) :
    Url.isExternal (loc.relative ("/" ++ name)) = true ↔ loc.LooksExternal name := by
  obtain ⟨shared, down, hwalk⟩ := walk_relative hurl hfile hname hbare
  rw [Url.isExternal_iff_of_bare (hwalk.bare hbare) (Path.slashes_not_infix (hwalk.empty_not_mem hname))]
  rcases hwalk.inside_or_climbs hfile with hinside | ⟨⟨steps, hclimb⟩, houtside⟩
  · constructor
    · exact fun hscheme => ⟨_, hinside, hscheme⟩
    · rintro ⟨rest, hrest, hscheme⟩
      rwa [Path.inside_injective hfile (hinside.symm.trans hrest)]
  · obtain ⟨cs, hdot⟩ := Path.exists_dot hclimb
    refine iff_of_false (Url.not_hasSlashlessScheme_of_dot hdot) ?_
    rintro ⟨rest, hrest, -⟩
    exact houtside rest hrest

/-- The relative form of a link leads to its target, or it is external. -/
theorem canonical?_relative (hurl : loc.override = none) (hfile : Path.IsName loc.file)
    (hname : Path.IsName name) (hbare : Text.Bare name) :
    loc.canonical? (loc.relative ("/" ++ name)) =
      if Url.isExternal (loc.relative ("/" ++ name)) then none else some name := by
  obtain ⟨shared, down, hwalk⟩ := walk_relative hurl hfile hname hbare
  have hne : loc.relative ("/" ++ name) ≠ "" := by
    intro hempty
    have hnone := hwalk.empty_not_mem hname
    rw [hempty] at hnone
    exact hnone List.mem_cons_self
  rw [canonical?_of_bare (hwalk.bare hbare), read?]
  simp only [hne, false_or]
  split
  · rfl
  · rw [joined_eq, hwalk.unrooted, if_neg Bool.false_ne_true]
    have hleads : Path.normalize (loc.directory ++ "/" ++ loc.relative ("/" ++ name)) = some name :=
      hwalk.leads
    rw [hleads, Option.filter_some, if_pos (decide_eq_true hname.ne_empty)]

/-- **Rewritten links.** Let a link lead to a document from a page that is written to its own name, and let
neither the link nor that name hold white space or a mark. The rooted form of the link leads to the same
document. So does the relative form of its name, and it is not taken for an external url, unless the name
looks like one: in the directory of the page, it goes on with one of the schemes that need no slashes and a
colon. In that case the relative form is external and leads to no document. It never leads to another
one. -/
theorem rewritten_links (loc : Location) (link name : String) (hurl : loc.override = none)
    (hfile : Path.IsName loc.file) (hbare : Text.Bare loc.file) (hlink : Text.Bare link)
    (h : loc.canonical? link = some name) :
    loc.canonical? (loc.absolute link) = some name ∧
    (¬loc.LooksExternal name →
      Url.isExternal (loc.relative ("/" ++ name)) = false ∧
        loc.canonical? (loc.relative ("/" ++ name)) = some name) ∧
    (loc.LooksExternal name →
      Url.isExternal (loc.relative ("/" ++ name)) = true ∧
        loc.canonical? (loc.relative ("/" ++ name)) = none) := by
  have hname := isName_of_canonical? h
  have hnamebare := bare_of_canonical? hbare hlink h
  rw [canonical?_relative hurl hfile hname hnamebare, ← isExternal_relative_iff hurl hfile hname hnamebare]
  refine ⟨canonical?_absolute hbare hlink h, fun hstays => ?_, fun hleaves => ?_⟩
  · rw [if_neg hstays]
    exact ⟨Bool.eq_false_iff.mpr hstays, rfl⟩
  · rw [if_pos hleaves]
    exact ⟨hleaves, rfl⟩

/-- Two names with a colon in the directory of the page, one behind a word that is no scheme and one behind
a scheme. -/
theorem rewritten_links_guide :
    let loc : Location := ⟨"guide/intro", "", none⟩
    Path.IsName loc.file ∧ Text.Bare loc.file ∧ Text.Bare "faq:general" ∧ Text.Bare "/guide/news:2024" ∧
    loc.canonical? "faq:general" = some "guide/faq:general" ∧
    loc.canonical? "/guide/news:2024" = some "guide/news:2024" ∧
    ¬loc.LooksExternal "guide/faq:general" ∧ loc.LooksExternal "guide/news:2024" ∧
    loc.canonical? (loc.relative "/guide/faq:general") = some "guide/faq:general" ∧
    loc.canonical? (loc.relative "/guide/news:2024") = none := by
  intro loc
  have hfile : Path.IsName loc.file := ⟨by decide, by decide⟩
  have hbare : Text.Bare loc.file := by decide
  have hfaq : Text.Bare "faq:general" := by decide
  have hnews : Text.Bare "/guide/news:2024" := by decide
  have hfaqname : loc.canonical? "faq:general" = some "guide/faq:general" := by decide +kernel
  have hnewsname : loc.canonical? "/guide/news:2024" = some "guide/news:2024" := by decide +kernel
  have hstays : ¬loc.LooksExternal "guide/faq:general" := by
    rw [← isExternal_relative_iff rfl hfile (isName_of_canonical? hfaqname) (by decide)]
    decide +kernel
  have hleaves : loc.LooksExternal "guide/news:2024" :=
    ⟨"news:2024", by decide, "news".toList, "2024".toList, by decide, by decide⟩
  obtain ⟨-, hfaqlink, -⟩ := rewritten_links loc _ _ rfl hfile hbare hfaq hfaqname
  obtain ⟨-, -, hnewslink⟩ := rewritten_links loc _ _ rfl hfile hbare hnews hnewsname
  exact ⟨hfile, hbare, hfaq, hnews, hfaqname, hnewsname, hstays, hleaves, (hfaqlink hstays).2,
    (hnewslink hleaves).2⟩

/-- A document with a name like a url, in the directory of the page: its relative form is that url. -/
theorem rewritten_link_lost :
    let loc : Location := ⟨"guide/intro", "", none⟩
    let link := "./news:2024"
    let name := "guide/news:2024"
    Path.normalize loc.file = some loc.file ∧ Text.Bare loc.file ∧ Text.Bare link ∧
    loc.canonical? link = some name ∧ loc.canonical? (loc.absolute link) = some name ∧
    loc.relative ("/" ++ name) = "news:2024" ∧ Url.isExternal (loc.relative ("/" ++ name)) = true ∧
    loc.canonical? (loc.relative ("/" ++ name)) ≠ some name := by
  decide +kernel

end Location

end Crosslink
