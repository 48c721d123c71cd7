import Crosslink.Proofs.SlugWords
import Mathlib.Computability.RegularExpressions
import Mathlib.Data.List.Chain

/-!
# The grammar of slugs

The texts that are slugs can be told without making one: they are the empty text and what a regular
expression matches. Making a slug of a text gives such a text, and leaves one that is such a text alone.

* `Slug.grammar` is the expression, `[a-z0-9]+(-[a-z0-9]+)*`; `isSlug_iff_grammar` : words joined with
  hyphens are what it matches, and nothing.
* `Slug.Tidy` says the same of the characters alone and of where hyphens may stand; `isSlug_iff_tidy`.
* `Slug.ofText_grammar` puts it together.
-/

namespace Crosslink.Slug

open Crosslink.Text

variable {c : Char} {cs word : List Char} {words : List (List Char)}

/-! ## The expression

What a regular expression matches is given by Mathlib. The expression is taken apart from the inside: one
character, a row of them, a word, words with their hyphens. -/

/-- The characters from one to another. -/
def charsBetween (first last : Char) : List Char :=
  (List.range' first.toNat (last.toNat + 1 - first.toNat)).map Char.ofNat

/-- The characters of words, `a-z0-9`. -/
def slugChars : List Char := charsBetween 'a' 'z' ++ charsBetween '0' '9'

/-- Any one of some characters. -/
def oneOf (cs : List Char) : RegularExpression Char := cs.foldr (fun c r => .char c + r) 0

/-- One word, `[a-z0-9]+`. -/
def wordGrammar : RegularExpression Char := oneOf slugChars * .star (oneOf slugChars)

/-- A slug that is not empty, `[a-z0-9]+(-[a-z0-9]+)*`. -/
def grammar : RegularExpression Char := wordGrammar * .star (.char '-' * wordGrammar)

theorem mem_slugChars : c ∈ slugChars ↔ isSlugChar c = true := by
  constructor
  · have hchars : slugChars.all isSlugChar = true := by decide +kernel
    exact List.all_eq_true.mp hchars c
  · intro h
    have htable : ∀ n < 0x80, isSlugChar (Char.ofNat n) = true → Char.ofNat n ∈ slugChars := by
      decide +kernel
    have hc := htable c.toNat (lt_of_isAlphanum (isAlphanum_of_isSlugChar h))
    rw [Char.ofNat_toNat] at hc
    exact hc h

theorem mem_oneOf {chars : List Char} : cs ∈ (oneOf chars).matches' ↔ ∃ c ∈ chars, cs = [c] := by
  induction chars with
  | nil => simp [oneOf, Language.notMem_zero]
  | cons first chars ih =>
    have hcons : (oneOf (first :: chars)).matches' = {[first]} + (oneOf chars).matches' := rfl
    rw [hcons, Language.mem_add, ih, List.exists_mem_cons_iff]
    exact Iff.rfl

/-- Characters in a row are what the repeated choice matches. -/
theorem mem_star_oneOf {chars : List Char} :
    cs ∈ (RegularExpression.star (oneOf chars)).matches' ↔ ∀ c ∈ cs, c ∈ chars := by
  rw [RegularExpression.matches'_star, Language.mem_kstar]
  constructor
  · rintro ⟨rows, rfl, hrows⟩ c hc
    obtain ⟨row, hrow, hcrow⟩ := List.mem_flatten.mp hc
    obtain ⟨d, hd, rfl⟩ := mem_oneOf.mp (hrows row hrow)
    rw [List.mem_singleton.mp hcrow]
    exact hd
  · intro h
    refine ⟨cs.map ([·]), (List.flatMap_singleton' cs).symm, fun row hrow => ?_⟩
    obtain ⟨c, hc, rfl⟩ := List.mem_map.mp hrow
    exact mem_oneOf.mpr ⟨c, h c hc, rfl⟩

/-- The first part of the expression matches the words of slugs. -/
theorem mem_wordGrammar : word ∈ wordGrammar.matches' ↔ IsSlugWord word := by
  rw [wordGrammar, RegularExpression.matches'_mul, Language.mem_mul]
  constructor
  · rintro ⟨first, hfirst, rest, hrest, rfl⟩
    obtain ⟨c, hc, rfl⟩ := mem_oneOf.mp hfirst
    refine ⟨List.cons_ne_nil _ _, fun d hd => mem_slugChars.mp ?_⟩
    rcases List.mem_cons.mp hd with rfl | hd
    · exact hc
    · exact mem_star_oneOf.mp hrest d hd
  · rintro ⟨hne, hword⟩
    obtain ⟨c, rest, rfl⟩ := List.exists_cons_of_ne_nil hne
    obtain ⟨hc, hrest⟩ := List.forall_mem_cons.mp hword
    exact ⟨[c], mem_oneOf.mpr ⟨c, mem_slugChars.mpr hc, rfl⟩, rest,
      mem_star_oneOf.mpr fun d hd => mem_slugChars.mpr (hrest d hd), rfl⟩

/-- The second part matches any number of words, each behind its hyphen. -/
theorem mem_star_hyphen :
    cs ∈ (RegularExpression.star (.char '-' * wordGrammar)).matches' ↔
      ∃ words : List (List Char), (∀ word ∈ words, IsSlugWord word) ∧ cs = hyphened words := by
  -- one round of the star is one word behind its hyphen
  have hrow : ∀ row, row ∈ (RegularExpression.char '-' * wordGrammar).matches' ↔
      ∃ word, IsSlugWord word ∧ row = '-' :: word := by
    intro row
    rw [RegularExpression.matches'_mul, Language.mem_mul]
    constructor
    · rintro ⟨hyphen, rfl, word, hword, rfl⟩
      exact ⟨word, mem_wordGrammar.mp hword, rfl⟩
    · rintro ⟨word, hword, rfl⟩
      exact ⟨['-'], rfl, word, mem_wordGrammar.mpr hword, rfl⟩
  rw [RegularExpression.matches'_star, Language.mem_kstar]
  constructor
  · rintro ⟨rows, rfl, hrows⟩
    induction rows with
    | nil => exact ⟨[], nofun, rfl⟩
    | cons row rows ih =>
      obtain ⟨hfirst, hrest⟩ := List.forall_mem_cons.mp hrows
      obtain ⟨word, hword, rfl⟩ := (hrow row).mp hfirst
      obtain ⟨words, hwords, hflat⟩ := ih hrest
      refine ⟨word :: words, List.forall_mem_cons.mpr ⟨hword, hwords⟩, ?_⟩
      rw [List.flatten_cons, hflat, hyphened, hyphened, List.flatMap_cons]
  · rintro ⟨words, hwords, rfl⟩
    refine ⟨words.map ('-' :: ·), by rw [hyphened, List.flatMap_def], fun row hmem => ?_⟩
    obtain ⟨word, hword, rfl⟩ := List.mem_map.mp hmem
    exact (hrow _).mpr ⟨word, hwords word hword, rfl⟩

/-- Slugs are the empty text and what the expression matches. -/
theorem isSlug_iff_grammar : IsSlug cs ↔ cs = [] ∨ cs ∈ grammar.matches' := by
  rw [grammar, RegularExpression.matches'_mul, Language.mem_mul]
  constructor
  · rintro ⟨words, hwords, rfl⟩
    cases words with
    | nil => exact .inl rfl
    | cons word words =>
      obtain ⟨hword, hwords⟩ := List.forall_mem_cons.mp hwords
      exact .inr ⟨word, mem_wordGrammar.mpr hword, hyphened words,
        mem_star_hyphen.mpr ⟨words, hwords, rfl⟩, (intercalate_cons word words).symm⟩
  · rintro (rfl | ⟨word, hword, rest, hrest, rfl⟩)
    · exact ⟨[], nofun, rfl⟩
    · obtain ⟨words, hwords, rfl⟩ := mem_star_hyphen.mp hrest
      exact ⟨word :: words, List.forall_mem_cons.mpr ⟨mem_wordGrammar.mp hword, hwords⟩,
        (intercalate_cons word words).symm⟩

/-! ## Where hyphens stand

The same without words: nothing but the characters of slugs and single hyphens, none of them at an end. A
text of this kind is squeezed and stripped already, so its words joined with hyphens are the text. -/

/-- A text of small letters, digits and hyphens, with no hyphen at an end or next to another. -/
structure Tidy (cs : List Char) : Prop where
  /-- it holds nothing else -/
  chars : ∀ c ∈ cs, isSlugChar c = true ∨ c = '-'
  /-- it does not begin with a hyphen -/
  head : cs.head? ≠ some '-'
  /-- it does not end with a hyphen -/
  last : cs.getLast? ≠ some '-'
  /-- no hyphen comes behind a hyphen -/
  single : cs.IsChain fun c d => ¬(c = '-' ∧ d = '-')

/-- Where no two hyphens stand together there is nothing to squeeze. -/
theorem squeeze_of_single (h : cs.IsChain fun c d => ¬(c = '-' ∧ d = '-')) : squeeze cs = cs := by
  induction cs with
  | nil => rfl
  | cons c cs ih =>
    have hne : ¬(c = '-' ∧ cs.head? = some '-') := by
      rintro ⟨hc, hhead⟩
      obtain ⟨rest, rfl⟩ := List.head?_eq_some_iff.mp hhead
      exact (List.isChain_cons_cons.mp h).1 ⟨hc, rfl⟩
    rw [squeeze, if_neg hne, ih h.tail]

theorem IsSlugWord.ne_hyphen (h : IsSlugWord word) : ∀ c ∈ word, c ≠ '-' :=
  fun c hc => (plain_of_isSlugChar (h.2 c hc)).2.1

/-- A word is tidy. -/
theorem IsSlugWord.tidy (h : IsSlugWord word) : Tidy word where
  chars c hc := .inl (h.2 c hc)
  head hhead := h.ne_hyphen '-' (List.mem_of_head? hhead) rfl
  last hlast := h.ne_hyphen '-' (List.mem_of_getLast? hlast) rfl
  single := by
    have hpairs : word.Pairwise fun c d => ¬(c = '-' ∧ d = '-') :=
      List.pairwise_of_forall_mem_list fun c hc _ _ hhyphens => h.ne_hyphen c hc hhyphens.1
    exact hpairs.isChain

/-- A word with a hyphen can be put in front of a tidy text. -/
theorem Tidy.append (hword : IsSlugWord word) (h : Tidy cs) (hne : cs ≠ []) :
    Tidy (word ++ '-' :: cs) where
  chars c hc := by
    rw [List.mem_append, List.mem_cons] at hc
    rcases hc with hc | rfl | hc
    · exact .inl (hword.2 c hc)
    · exact .inr rfl
    · exact h.chars c hc
  head hhead := by
    rw [List.head?_append_of_ne_nil _ hword.1] at hhead
    exact hword.tidy.head hhead
  last hlast := by
    rw [List.getLast?_append_of_ne_nil _ (List.cons_ne_nil _ _),
      List.getLast?_cons_of_ne_nil hne] at hlast
    exact h.last hlast
  single := by
    -- the new hyphen has no other beside it
    refine List.isChain_append.mpr ⟨hword.tidy.single, List.isChain_cons.mpr ⟨?_, h.single⟩, ?_⟩
    · rintro d hd ⟨-, rfl⟩
      exact h.head hd
    · rintro c hc d - ⟨rfl, -⟩
      exact hword.tidy.last hc

theorem tidy_append_hyphened (hword : IsSlugWord word) (hwords : ∀ word ∈ words, IsSlugWord word) :
    Tidy (word ++ hyphened words) := by
  induction words generalizing word with
  | nil =>
    rw [hyphened, List.flatMap_nil, List.append_nil]
    exact hword.tidy
  | cons next words ih =>
    obtain ⟨hnext, hwords⟩ := List.forall_mem_cons.mp hwords
    have hcons : hyphened (next :: words) = '-' :: (next ++ hyphened words) := rfl
    rw [hcons]
    exact (ih hnext hwords).append hword (List.append_ne_nil_of_left_ne_nil hnext.1 _)

/-- What is in a word is in the text that is joined from the words. -/
theorem mem_intercalate (hword : word ∈ words) (hc : c ∈ word) : c ∈ ['-'].intercalate words := by
  cases words with
  | nil => cases hword
  | cons first words =>
    rw [intercalate_cons, List.mem_append]
    rcases List.mem_cons.mp hword with rfl | hword
    · exact .inl hc
    · exact .inr (List.mem_flatMap.mpr ⟨word, hword, List.mem_cons_of_mem _ hc⟩)

/-- Slugs are the tidy texts. -/
theorem isSlug_iff_tidy : IsSlug cs ↔ Tidy cs := by
  constructor
  · rintro ⟨words, hwords, rfl⟩
    cases words with
    | nil => exact ⟨nofun, nofun, nofun, .nil⟩
    | cons word words =>
      obtain ⟨hword, hwords⟩ := List.forall_mem_cons.mp hwords
      rw [intercalate_cons]
      exact tidy_append_hyphened hword hwords
  · intro h
    -- a tidy text has nothing to strip or to squeeze, so it is joined from its own parts
    have hstrip : strip (· = '-') cs = cs := by
      refine strip_eq_self (fun c hc => ?_) fun c hc => ?_
      · refine decide_eq_false fun heq => h.head ?_
        rw [hc, heq]
      · refine decide_eq_false fun heq => h.last ?_
        rw [hc, heq]
    have hsqueeze := squeeze_strip cs
    rw [hstrip, squeeze_of_single h.single] at hsqueeze
    refine ⟨_, fun word hword => ?_, hsqueeze⟩
    obtain ⟨hne, hmem⟩ := mem_parts hword
    refine ⟨hne, fun c hc => (h.chars c ?_).resolve_right ?_⟩
    · rw [hsqueeze]
      exact mem_intercalate hword hc
    · exact of_decide_eq_false (not_of_mem_splitOnP hmem c hc)

/-! ## Slugs of texts

A slug is the empty text or a text of the grammar, whatever it is made of, and being its own slug is the
same as being of this form. -/

/-- A text is a slug if it is empty or matched. -/
theorem isSlug_toList_iff (s : String) :
    IsSlug s.toList ↔ s = "" ∨ s.toList ∈ grammar.matches' := by
  rw [isSlug_iff_grammar, String.toList_eq_nil_iff]

theorem ofText_eq_self_iff (s : String) : ofText s = s ↔ IsSlug s.toList := by
  constructor
  · intro h
    have hslug := isSlug_ofChars s.toList
    rwa [← String.toList_ofList (l := ofChars s.toList), ← ofText, h] at hslug
  · intro h
    rw [ofText, ofChars_of_isSlug h, String.ofList_toList]

/-- **Slugs are the texts of one grammar, and are their own slugs.** The slug of a text is empty or matches
the expression, and a text is its own slug exactly if it is empty or matches. So the texts that are slugs
of something are those that are their own, and making a slug twice is making it once. These are the texts
without hyphens at an end or next to each other, and without other characters than the small letters and
the digits. -/
theorem ofText_grammar :
    (∀ text : String, ofText text = "" ∨ (ofText text).toList ∈ grammar.matches') ∧
      (∀ s : String, ofText s = s ↔ s = "" ∨ s.toList ∈ grammar.matches') ∧
      (∀ s : String, (∃ text, ofText text = s) ↔ ofText s = s) ∧
      (∀ text : String, ofText (ofText text) = ofText text) ∧
      ∀ s : String, (s = "" ∨ s.toList ∈ grammar.matches') ↔ Tidy s.toList := by
  refine ⟨fun text => ?_, fun s => ?_, fun s => ⟨?_, fun h => ⟨s, h⟩⟩, ofText_ofText, fun s => ?_⟩
  · rw [← isSlug_toList_iff, ← ofText_eq_self_iff, ofText_ofText]
  · rw [ofText_eq_self_iff, isSlug_toList_iff]
  · rintro ⟨text, rfl⟩
    exact ofText_ofText text
  · rw [← isSlug_toList_iff, isSlug_iff_tidy]

end Crosslink.Slug
