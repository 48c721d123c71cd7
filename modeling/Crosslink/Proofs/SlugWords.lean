import Crosslink.Slug
import Mathlib.Data.List.DropRight

/-!
# The words of a slug

A slug is made word by word: each word of a text is written in ASCII for itself, and what is left of the
words is joined by hyphens. Everything about slugs follows from there.

* `words` are the words of a text, `wordForm` is a word as it stands in a slug.
* `ofChars_eq` : the slug of a text is joined from the forms of its words.
* `IsSlug` is the grammar of slugs. Every slug is of that form, and a text of that form is its own slug:
  `isSlug_ofChars`, `ofChars_of_isSlug`.
* `ofText_ofText`, `ofText_trim` : the slug of a slug is itself, and white space at the ends of a text does
  not show in its slug.
-/

namespace Crosslink

/-! ## Parts between separators

A text is split at the characters of a class, and what is empty is left out. Splitting is cut at a
separator: the parts on its two sides have nothing to do with each other. This is all that is used of it
later. -/

namespace Text

variable {p q : Char → Bool} {c : Char} {cs first : List Char} {rest : List (List Char)}

/-- The parts of a text that stand between characters of a class, empty ones left out. -/
def parts (p : Char → Bool) (text : List Char) : List (List Char) :=
  (text.splitOnP p).filter (· ≠ [])

/-- There is always a first part, though it may be empty. -/
theorem exists_splitOnP (p : Char → Bool) (cs : List Char) :
    ∃ first rest, cs.splitOnP p = first :: rest :=
  List.exists_cons_of_ne_nil (List.splitOnP_ne_nil p cs)

theorem splitOnP_cons_of_pos (h : p c = true) : (c :: cs).splitOnP p = [] :: cs.splitOnP p := by
  rw [List.splitOnP_cons_eq_if_modifyHead, if_pos h]

theorem splitOnP_cons_of_neg (h : p c = false) (hcs : cs.splitOnP p = first :: rest) :
    (c :: cs).splitOnP p = (c :: first) :: rest := by
  rw [List.splitOnP_cons_eq_if_modifyHead, if_neg (by simp [h]), hcs]
  rfl

theorem parts_cons_of_pos (h : p c = true) : parts p (c :: cs) = parts p cs := by
  rw [parts, splitOnP_cons_of_pos h]
  rfl

/-- The parts on the two sides of a separator are independent of each other. -/
theorem parts_append_cons (h : p c = true) (before : List Char) :
    parts p (before ++ c :: cs) = parts p before ++ parts p cs := by
  rw [parts, List.splitOnP_append_cons before cs h, List.filter_append]
  rfl

/-- Separators at the beginning of a text do not show in its parts. -/
theorem parts_append_left (h : ∀ c ∈ cs, p c = true) (text : List Char) :
    parts p (cs ++ text) = parts p text := by
  induction cs with
  | nil => rfl
  | cons c cs ih =>
    rw [List.cons_append, parts_cons_of_pos (h c List.mem_cons_self)]
    exact ih fun d hd => h d (List.mem_cons_of_mem _ hd)

theorem parts_of_forall (h : ∀ c ∈ cs, p c = true) : parts p cs = [] := by
  have hparts := parts_append_left h []
  rw [List.append_nil] at hparts
  exact hparts

/-- Separators at the end of a text do not show in its parts. -/
theorem parts_append_right (h : ∀ c ∈ cs, p c = true) (text : List Char) :
    parts p (text ++ cs) = parts p text := by
  cases cs with
  | nil => rw [List.append_nil]
  | cons c cs =>
    have hrest : parts p cs = [] := parts_of_forall fun d hd => h d (List.mem_cons_of_mem _ hd)
    rw [parts_append_cons (h c List.mem_cons_self), hrest, List.append_nil]

theorem parts_dropWhile (p : Char → Bool) (text : List Char) :
    parts p (text.dropWhile p) = parts p text := by
  conv_rhs => rw [← List.takeWhile_append_dropWhile (p := p) (l := text)]
  rw [parts_append_left fun c hc => List.mem_takeWhile_imp hc]

/-- Empty parts may be left out before a change that makes nothing of them, or after it. -/
theorem filter_map_parts {f : List Char → List Char} (hf : f [] = []) (rows : List (List Char)) :
    ((rows.filter (· ≠ [])).map f).filter (· ≠ []) = (rows.map f).filter (· ≠ []) := by
  rw [List.filter_map, List.filter_map, List.filter_filter]
  congr 1
  refine List.filter_congr fun row _ => ?_
  by_cases hrow : row = [] <;> simp [hrow, hf]

theorem mem_parts (h : first ∈ parts p cs) : first ≠ [] ∧ first ∈ cs.splitOnP p := by
  simpa [parts, and_comm] using h

/-- What is stripped off a text does not show in its parts, if it is made of separators. -/
theorem parts_strip (h : ∀ c, q c = true → p c = true) (text : List Char) :
    parts p (strip q text) = parts p text := by
  have hend : ∀ cs, parts p (stripEnd q cs) = parts p cs := by
    intro cs
    have hsplit : stripEnd q cs ++ cs.rtakeWhile q = cs := List.rdropWhile_append_rtakeWhile
    conv_rhs => rw [← hsplit]
    rw [parts_append_right fun c hc => h c (List.mem_rtakeWhile_imp hc)]
  rw [strip, hend]
  conv_rhs => rw [← List.takeWhile_append_dropWhile (p := q) (l := text)]
  rw [parts_append_left fun c hc => h c (List.mem_takeWhile_imp hc)]

theorem not_of_mem_splitOnP (h : first ∈ cs.splitOnP p) : ∀ c ∈ first, p c = false := by
  induction cs generalizing first with
  | nil =>
    rw [List.splitOnP_nil, List.mem_singleton] at h
    simp [h]
  | cons c cs ih =>
    obtain ⟨head, tail, hsplit⟩ := exists_splitOnP p cs
    rw [hsplit] at ih
    cases hc : p c with
    | true =>
      rw [splitOnP_cons_of_pos hc, hsplit] at h
      rcases List.mem_cons.mp h with rfl | h
      · simp
      · exact ih h
    | false =>
      rw [splitOnP_cons_of_neg hc hsplit] at h
      rcases List.mem_cons.mp h with rfl | h
      · exact List.forall_mem_cons.mpr ⟨hc, ih List.mem_cons_self⟩
      · exact ih (List.mem_cons_of_mem _ h)

end Text

/-! ## Squeezed hyphens

Squeezing makes one hyphen of several. Behind a first part it comes to the same as leaving out the empty
parts and writing each of the others with its own hyphen. -/

namespace Slug

open Text

variable {c : Char} {cs first : List Char} {rest : List (List Char)}

/-- Words behind a first one, each with its hyphen. -/
def hyphened (words : List (List Char)) : List Char := words.flatMap ('-' :: ·)

/-- A change of characters that leaves hyphens alone goes by the words. -/
theorem map_hyphened (f : Char → Char) (hf : f '-' = '-') (words : List (List Char)) :
    (hyphened words).map f = hyphened (words.map (·.map f)) := by
  simp [hyphened, List.map_flatMap, List.flatMap_map, hf]

/-- Joined words are the first one and the others with their hyphens. -/
theorem intercalate_cons (word : List Char) (words : List (List Char)) :
    ['-'].intercalate (word :: words) = word ++ hyphened words := by
  induction words generalizing word with
  | nil => simp [hyphened]
  | cons next words ih => simp [List.intercalate_cons_cons, ih, hyphened]

theorem map_intercalate (f : Char → Char) (hf : f '-' = '-') (words : List (List Char)) :
    (['-'].intercalate words).map f = ['-'].intercalate (words.map (·.map f)) := by
  cases words with
  | nil => rfl
  | cons word words =>
    rw [intercalate_cons, List.map_append, map_hyphened f hf, List.map_cons, intercalate_cons]

theorem squeeze_cons_of_ne (h : c ≠ '-') : squeeze (c :: cs) = c :: squeeze cs := by
  rw [squeeze, if_neg fun hc => h hc.1]

/-- The first part of a text is empty exactly if the text begins with a separator. -/
theorem head_eq_nil_iff {p : Char → Bool} (h : (c :: cs).splitOnP p = first :: rest) :
    first = [] ↔ p c = true := by
  obtain ⟨head, tail, hsplit⟩ := exists_splitOnP p cs
  cases hc : p c with
  | true =>
    rw [splitOnP_cons_of_pos hc, List.cons.injEq] at h
    simp [← h.1]
  | false =>
    rw [splitOnP_cons_of_neg hc hsplit, List.cons.injEq] at h
    simp [← h.1]

/-- Squeezing leaves the first part of a text as it is, and of the others those that are not empty, each
with one hyphen. -/
theorem squeeze_stripEnd (h : cs.splitOnP (· = '-') = first :: rest) :
    squeeze (stripEnd (· = '-') cs) = first ++ hyphened (rest.filter (· ≠ [])) := by
  -- a hyphen is kept exactly if a part that is not empty comes right behind it
  induction cs generalizing first rest with
  | nil =>
    rw [List.splitOnP_nil] at h
    cases h
    rfl
  | cons c cs ih =>
    obtain ⟨head, tail, hsplit⟩ := exists_splitOnP (· = '-') cs
    have hrest := ih hsplit
    rw [stripEnd_cons]
    by_cases hc : c = '-'
    · rw [splitOnP_cons_of_pos (by simpa using hc), hsplit] at h
      obtain ⟨rfl, rfl⟩ := List.cons.inj h
      cases hstrip : stripEnd (· = '-') cs with
      | nil =>
        rw [hstrip] at hrest
        obtain ⟨rfl, htail⟩ := List.append_eq_nil_iff.mp hrest.symm
        simpa [hc, squeeze] using htail.symm
      | cons d ds =>
        -- what is left begins like the text, so its first part is empty if it begins with a hyphen
        obtain ⟨others, hcs⟩ := stripEnd_prefix (· = '-') cs
        rw [hstrip, List.cons_append] at hcs
        rw [← hcs] at hsplit
        have hhead := head_eq_nil_iff hsplit
        rw [hstrip] at hrest
        rw [if_neg (List.cons_ne_nil d ds), hc, squeeze]
        by_cases hd : d = '-'
        · have hnil : head = [] := hhead.mpr (by simpa using hd)
          rw [if_pos (by simp [hd]), hrest, hnil]
          rfl
        · have hne : head ≠ [] := fun e => hd (by simpa using hhead.mp e)
          rw [if_neg (by simp [hd]), hrest]
          simp [hne, hyphened]
    · rw [splitOnP_cons_of_neg (by simpa using hc) hsplit] at h
      obtain ⟨rfl, rfl⟩ := List.cons.inj h
      by_cases hstrip : stripEnd (· = '-') cs = []
      · rw [hstrip] at hrest
        obtain ⟨rfl, htail⟩ := List.append_eq_nil_iff.mp hrest.symm
        rw [if_pos hstrip, if_neg (by simpa using hc), squeeze_cons_of_ne hc, htail]
        rfl
      · rw [if_neg hstrip, squeeze_cons_of_ne hc, hrest, List.cons_append]

/-- Stripping and squeezing join the parts of a text by single hyphens. -/
theorem squeeze_strip (cs : List Char) :
    squeeze (strip (· = '-') cs) = ['-'].intercalate (parts (· = '-') cs) := by
  rw [← parts_dropWhile, strip]
  have hhead := List.head?_dropWhile_not (· = '-') cs
  generalize cs.dropWhile (· = '-') = text at hhead
  obtain ⟨first, rest, hsplit⟩ := exists_splitOnP (· = '-') text
  rw [squeeze_stripEnd hsplit, parts, hsplit]
  cases text with
  | nil =>
    rw [List.splitOnP_nil] at hsplit
    obtain ⟨rfl, rfl⟩ := List.cons.inj hsplit
    rfl
  | cons c text =>
    have hc : c ≠ '-' := by simpa using hhead
    have hfirst : first ≠ [] := fun e => hc (by simpa using (head_eq_nil_iff hsplit).mp e)
    rw [List.filter_cons_of_pos (by simpa using hfirst), intercalate_cons]

/-! ## Words

A word is written in ASCII character by character. What makes this work is a fact about the table: only
characters that are in no word have a hyphen or a low line in their form, so no word is ever split by
being rewritten. -/

/-- The words of a text. -/
def words (text : List Char) : List (List Char) := parts (!isWord ·) text

/-- The ASCII characters of a word that an identifier may hold. -/
def asciiWord (word : List Char) : List Char :=
  (word.flatMap asciiForm).filter isIdentifierChar

/-- A word as it stands in a slug; empty if there is no ASCII in it. -/
def wordForm (word : List Char) : List Char := (asciiWord word).map Char.toLower

/-- In the table of ASCII forms, hyphens and low lines belong to characters that are not in words. -/
theorem asciiForms_plain : asciiForms.all (fun row =>
    (row.text.toList.all fun d => d != '-' && d != '_') ||
      (row.whole.toList ++ row.mixed.toList).all (!isWord ·)) = true := by
  decide +kernel

/-- No letter and no number has a hyphen or a low line in it. -/
theorem plain_of_mem_asciiForm {c d : Char} (hc : isWord c = true) (hd : d ∈ asciiForm c) :
    d ≠ '-' ∧ d ≠ '_' := by
  rw [asciiForm] at hd
  split at hd
  · -- neither of the two is a letter or a number itself
    obtain rfl := List.mem_singleton.mp hd
    constructor
    all_goals
      rintro rfl
      exact absurd hc (by decide)
  · split at hd
    · rename_i row hrow
      have hfound := List.find?_some hrow
      simp only [Bool.or_eq_true, String.contains_char_eq, decide_eq_true_eq] at hfound
      have hplain := List.all_eq_true.mp asciiForms_plain row (List.mem_of_find?_eq_some hrow)
      rcases Bool.or_eq_true_iff.mp hplain with htext | hchars
      · simpa using List.all_eq_true.mp htext d hd
      · have hword := List.all_eq_true.mp hchars c (List.mem_append.mpr hfound)
        rw [hc] at hword
        cases hword
    · cases hd

theorem asciiWord_append (a b : List Char) : asciiWord (a ++ b) = asciiWord a ++ asciiWord b := by
  rw [asciiWord, List.flatMap_append, List.filter_append]
  rfl

theorem asciiWord_hyphen : asciiWord ['-'] = ['-'] := by decide

/-- What a word is written with are ASCII letters and digits. -/
theorem plain_of_mem_asciiWord {word : List Char} (hword : ∀ c ∈ word, isWord c = true) {d : Char}
    (hd : d ∈ asciiWord word) : d.isAlphanum = true := by
  obtain ⟨hmem, hident⟩ := List.mem_filter.mp hd
  obtain ⟨c, hc, hform⟩ := List.mem_flatMap.mp hmem
  obtain ⟨hhyphen, hline⟩ := plain_of_mem_asciiForm (hword c hc) hform
  simpa [isIdentifierChar, hhyphen, hline] using hident

/-- Characters in front of a text that do not separate belong to its first part. -/
theorem splitOnP_append_of_not {p : Char → Bool} {word : List Char} (hword : ∀ c ∈ word, p c = false)
    (h : cs.splitOnP p = first :: rest) : (word ++ cs).splitOnP p = (word ++ first) :: rest := by
  induction word with
  | nil => exact h
  | cons c word ih =>
    have hrest := ih fun d hd => hword d (List.mem_cons_of_mem _ hd)
    exact splitOnP_cons_of_neg (hword c List.mem_cons_self) hrest

/-- Words joined by hyphens are written in ASCII one by one. -/
theorem splitOnP_asciiWord (h : ∀ c ∈ cs, c = '-' ∨ isWord c = true) :
    (asciiWord cs).splitOnP (· = '-') = (cs.splitOnP (· = '-')).map asciiWord := by
  induction cs with
  | nil => rfl
  | cons c cs ih =>
    have hrest := ih fun d hd => h d (List.mem_cons_of_mem _ hd)
    obtain ⟨head, tail, hsplit⟩ := exists_splitOnP (· = '-') cs
    rw [hsplit, List.map_cons] at hrest
    rw [← List.singleton_append, asciiWord_append]
    by_cases hc : c = '-'
    · rw [hc, asciiWord_hyphen, List.singleton_append, List.singleton_append,
        splitOnP_cons_of_pos rfl, splitOnP_cons_of_pos rfl, hsplit, hrest]
      rfl
    · have hword : isWord c = true := (h c List.mem_cons_self).resolve_left hc
      -- the ASCII form of a word has no hyphen in it, so there is no new cut
      have hplain : ∀ d ∈ asciiWord [c], decide (d = '-') = false := by
        intro d hd
        have hmem := (List.mem_filter.mp hd).1
        rw [List.flatMap_singleton] at hmem
        simpa using (plain_of_mem_asciiForm hword hmem).1
      have hhead : asciiWord (c :: head) = asciiWord [c] ++ asciiWord head :=
        asciiWord_append [c] head
      rw [splitOnP_append_of_not hplain hrest, List.singleton_append,
        splitOnP_cons_of_neg (by simpa using hc) hsplit, List.map_cons, hhead]

/-- What stands between words has become hyphens. -/
theorem mem_hyphenate {text : List Char} (h : c ∈ hyphenate text) : c = '-' ∨ isWord c = true := by
  induction text using hyphenate.induct with
  | case1 =>
    rw [hyphenate] at h
    cases h
  | case2 d rest hd ih =>
    rw [hyphenate, if_pos hd] at h
    rcases List.mem_cons.mp h with rfl | h
    · exact .inr hd
    · exact ih h
  | case3 d rest hd ih =>
    rw [hyphenate, if_neg hd] at h
    rcases List.mem_cons.mp h with rfl | h
    · exact .inl rfl
    · exact ih h

/-- Up to empty parts, the hyphens stand where the words of a text end. -/
theorem splitOnP_hyphenate (text : List Char) :
    ∃ first rest rest', (hyphenate text).splitOnP (· = '-') = first :: rest ∧
      text.splitOnP (!isWord ·) = first :: rest' ∧ rest.filter (· ≠ []) = rest'.filter (· ≠ []) := by
  induction text using hyphenate.induct with
  | case1 => exact ⟨[], [], [], by rw [hyphenate]; rfl, rfl, rfl⟩
  | case2 c rest hc ih =>
    obtain ⟨first, others, others', hhyphens, htext, hrest⟩ := ih
    have hne : decide (c = '-') = false := by
      refine decide_eq_false ?_
      rintro rfl
      exact absurd hc (by decide)
    refine ⟨c :: first, others, others', ?_, ?_, hrest⟩
    · rw [hyphenate, if_pos hc]
      exact splitOnP_cons_of_neg hne hhyphens
    · exact splitOnP_cons_of_neg (by simp [hc]) htext
  | case3 c rest hc ih =>
    obtain ⟨first, others, others', hhyphens, htext, hrest⟩ := ih
    refine ⟨[], (hyphenate (rest.dropWhile (!isWord ·))).splitOnP (· = '-'),
      rest.splitOnP (!isWord ·), ?_, splitOnP_cons_of_pos (by simp [hc]), ?_⟩
    · rw [hyphenate, if_neg hc]
      exact splitOnP_cons_of_pos rfl
    · -- the rest of the run of characters that are not in words has no words either
      have hrun := parts_dropWhile (!isWord ·) rest
      rw [parts, parts, htext] at hrun
      rw [hhyphens, ← hrun, List.filter_cons, List.filter_cons, hrest]

/-- The hyphens stand between the words of a text. -/
theorem parts_hyphenate (text : List Char) : parts (· = '-') (hyphenate text) = words text := by
  obtain ⟨first, rest, rest', hhyphens, htext, hrest⟩ := splitOnP_hyphenate text
  rw [words, parts, parts, hhyphens, htext, List.filter_cons, List.filter_cons, hrest]

/-- The characters of a word are word characters. -/
theorem isWord_of_mem_words {text word : List Char} (h : word ∈ words text) :
    ∀ c ∈ word, isWord c = true := by
  intro c hc
  simpa using not_of_mem_splitOnP (mem_parts h).2 c hc

/-- A word is its only word. -/
theorem words_of_forall {word : List Char} (hne : word ≠ [])
    (hword : ∀ c ∈ word, isWord c = true) : words word = [word] := by
  have hplain : ∀ c ∈ word, (!isWord c) = false := fun c hc => by simp [hword c hc]
  have hsplit := splitOnP_append_of_not hplain List.splitOnP_nil
  rw [List.append_nil] at hsplit
  rw [words, parts, hsplit, List.filter_cons_of_pos (by simpa using hne), List.filter_nil]

/-- A slug is made word by word. -/
theorem ofChars_eq (text : List Char) :
    ofChars text = ['-'].intercalate (((words text).map wordForm).filter (· ≠ [])) := by
  have hascii : parts (· = '-') (asciiWord (hyphenate text)) =
      ((words text).map asciiWord).filter (· ≠ []) := by
    rw [parts, splitOnP_asciiWord fun c hc => mem_hyphenate hc, ← parts_hyphenate, parts]
    exact (filter_map_parts rfl _).symm
  -- a word is empty in small letters only if it was empty
  have hlower : ∀ words : List (List Char), (words.filter (· ≠ [])).map (·.map Char.toLower) =
      (words.map (·.map Char.toLower)).filter (· ≠ []) := by
    intro words
    rw [List.filter_map]
    congr 1
    exact List.filter_congr fun word _ => by simp
  calc ofChars text
      = (squeeze (strip (· = '-') (asciiWord (hyphenate text)))).map Char.toLower := rfl
    _ = ['-'].intercalate
          ((((words text).map asciiWord).filter (· ≠ [])).map (·.map Char.toLower)) := by
      rw [squeeze_strip, hascii, map_intercalate _ rfl]
    _ = ['-'].intercalate (((words text).map wordForm).filter (· ≠ [])) := by
      rw [hlower, List.map_map]
      rfl

/-! ## The form of a slug

The characters of slugs are small letters and digits, and each of them is its own form. So making a slug
of a slug changes no word, and finds the same words. -/

/-- The characters of the words in a slug: small ASCII letters and digits. -/
def isSlugChar (c : Char) : Bool := c.isLower || c.isDigit

/-- A word in a slug. -/
def IsSlugWord (word : List Char) : Prop := word ≠ [] ∧ ∀ c ∈ word, isSlugChar c = true

/-- A slug: words of small ASCII letters and digits, with single hyphens in between. -/
def IsSlug (cs : List Char) : Prop :=
  ∃ words : List (List Char), (∀ word ∈ words, IsSlugWord word) ∧ cs = ['-'].intercalate words

/-- Up to the end of ASCII, every letter and digit becomes a character of slugs and every character of
slugs stays as it is. -/
theorem ascii_table : ∀ n < 0x80,
    ((Char.ofNat n).isAlphanum = true → isSlugChar (Char.ofNat n).toLower = true) ∧
      (isSlugChar (Char.ofNat n) = true → (Char.ofNat n).toLower = Char.ofNat n ∧
        isWord (Char.ofNat n) = true ∧ isIdentifierChar (Char.ofNat n) = true) := by
  decide +kernel

theorem lt_of_isAlphanum {c : Char} (h : c.isAlphanum = true) : c.toNat < 0x80 := by
  delta Char.isAlphanum Char.isAlpha Char.isUpper Char.isLower Char.isDigit at h
  simp only [ge_iff_le, Bool.or_eq_true, Bool.and_eq_true, decide_eq_true_eq,
    UInt32.le_iff_toNat_le] at h
  have hcode : c.toNat = c.val.toNat := rfl
  have hlast : 'Z'.val.toNat < 0x80 ∧ 'z'.val.toNat < 0x80 ∧ '9'.val.toNat < 0x80 := by decide
  omega

theorem isSlugChar_toLower {c : Char} (h : c.isAlphanum = true) : isSlugChar c.toLower = true := by
  have hrow := (ascii_table c.toNat (lt_of_isAlphanum h)).1
  rw [Char.ofNat_toNat] at hrow
  exact hrow h

theorem isAlphanum_of_isSlugChar {c : Char} (h : isSlugChar c = true) : c.isAlphanum = true := by
  change ((c.isUpper || c.isLower) || c.isDigit) = true
  rw [isSlugChar] at h
  rw [Bool.or_assoc, h, Bool.or_true]

/-- A character of slugs is a word character, and stands for itself. -/
theorem plain_of_isSlugChar {c : Char} (h : isSlugChar c = true) :
    isWord c = true ∧ c ≠ '-' ∧ wordForm [c] = [c] := by
  have hascii := lt_of_isAlphanum (isAlphanum_of_isSlugChar h)
  have hrow := (ascii_table c.toNat hascii).2
  rw [Char.ofNat_toNat] at hrow
  obtain ⟨hlower, hword, hident⟩ := hrow h
  refine ⟨hword, ?_, ?_⟩
  · rintro rfl
    exact absurd h (by decide)
  · rw [wordForm, asciiWord, List.flatMap_singleton, asciiForm, if_pos hascii,
      List.filter_cons_of_pos hident, List.filter_nil, List.map_singleton, hlower]

/-- What is made of a word is a word of a slug, if it is anything. -/
theorem isSlugWord_wordForm {text word : List Char} (hword : word ∈ words text)
    (h : wordForm word ≠ []) : IsSlugWord (wordForm word) := by
  refine ⟨h, fun c hc => ?_⟩
  obtain ⟨d, hd, rfl⟩ := List.mem_map.mp hc
  exact isSlugChar_toLower (plain_of_mem_asciiWord (isWord_of_mem_words hword) hd)

/-- Every text is made a slug of, though it may be an empty one. -/
theorem isSlug_ofChars (text : List Char) : IsSlug (ofChars text) := by
  refine ⟨_, fun word hword => ?_, ofChars_eq text⟩
  obtain ⟨hmem, hne⟩ := List.mem_filter.mp hword
  obtain ⟨source, hsource, rfl⟩ := List.mem_map.mp hmem
  exact isSlugWord_wordForm hsource (by simpa using hne)

theorem wordForm_append (a b : List Char) : wordForm (a ++ b) = wordForm a ++ wordForm b := by
  rw [wordForm, asciiWord_append, List.map_append]
  rfl

/-- A word of a slug stays as it is. -/
theorem wordForm_of_isSlugWord {word : List Char} (h : ∀ c ∈ word, isSlugChar c = true) :
    wordForm word = word := by
  induction word with
  | nil => rfl
  | cons c word ih =>
    rw [← List.singleton_append, wordForm_append, ih fun d hd => h d (List.mem_cons_of_mem _ hd),
      (plain_of_isSlugChar (h c List.mem_cons_self)).2.2]

theorem words_of_isSlugWord {word : List Char} (h : IsSlugWord word) : words word = [word] :=
  words_of_forall h.1 fun c hc => (plain_of_isSlugChar (h.2 c hc)).1

/-- The words of a slug are those that it is joined from. -/
theorem words_intercalate {ws : List (List Char)} (h : ∀ word ∈ ws, IsSlugWord word) :
    words (['-'].intercalate ws) = ws := by
  induction ws with
  | nil => rfl
  | cons word ws ih =>
    have hword := words_of_isSlugWord (h word List.mem_cons_self)
    have hrest := ih fun w hw => h w (List.mem_cons_of_mem _ hw)
    cases ws with
    | nil => rw [List.intercalate_singleton, hword]
    | cons next ws =>
      rw [words] at hword hrest ⊢
      rw [List.intercalate_cons_cons, List.append_assoc, List.singleton_append,
        parts_append_cons (by decide), hword, hrest]
      rfl

/-- A slug is its own slug. -/
theorem ofChars_of_isSlug {cs : List Char} (h : IsSlug cs) : ofChars cs = cs := by
  obtain ⟨ws, hws, rfl⟩ := h
  have hforms : ∀ word ∈ ws, wordForm word = word := fun word hword =>
    wordForm_of_isSlugWord (hws word hword).2
  rw [ofChars_eq, words_intercalate hws, List.map_congr_left hforms, List.map_id',
    List.filter_eq_self.mpr fun word hword => by simpa using (hws word hword).1]

/-! ## Slugs of texts

The same of texts, with the two consequences that others rely on: slugs need not be made twice, and texts
need not be trimmed before. -/

/-- The slug of a slug is itself. -/
@[simp]
theorem ofText_ofText (text : String) : ofText (ofText text) = ofText text := by
  rw [ofText, ofText, String.toList_ofList, ofChars_of_isSlug (isSlug_ofChars _)]

/-- No white space is in a word. -/
theorem not_isWord_of_isBlank {c : Char} (h : isBlank c = true) : isWord c = false := by
  have htable : ∀ n ∈ [9, 10, 11, 12, 13, 0x20, 0x85, 0xA0, 0x1680, 0x2000, 0x2001, 0x2002, 0x2003,
      0x2004, 0x2005, 0x2006, 0x2007, 0x2008, 0x2009, 0x200A, 0x2028, 0x2029, 0x202F, 0x205F, 0x3000],
      wordRanges.mem n = false := by
    decide +kernel
  refine htable c.toNat ?_
  simp only [isBlank, Bool.or_eq_true, Bool.and_eq_true, decide_eq_true_eq, beq_iff_eq] at h
  simp only [List.mem_cons, List.not_mem_nil, or_false]
  omega

/-- White space at the ends of a text does not show in its slug. -/
@[simp]
theorem ofText_trim (text : String) : ofText (Text.trim text) = ofText text := by
  have hblank : ∀ c, isBlank c = true → (!isWord c) = true := fun c hc => by
    simp [not_isWord_of_isBlank hc]
  rw [ofText, ofText, Text.trim, String.toList_ofList, ofChars_eq, ofChars_eq, words, words,
    parts_strip hblank]

end Slug

end Crosslink
