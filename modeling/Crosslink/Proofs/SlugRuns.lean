import Crosslink.Proofs.SlugWords

/-!
# The runs of a slug

A slug is put together by changes that go over the whole text: what is not in words becomes hyphens, the rest
is written in ASCII, hyphens are dropped. In the end each word has been changed for itself and nothing else
shows, so that a slug can be told from the words alone, and texts that are put together give slugs that are
put together.

* `Runs` says which words a text has: the runs of letters and numbers that cannot be made longer.
  `runs_iff` : there is one list of them, `words`.
* `reduced` is a word as it stands in a slug; `ofText_of_runs` : the slug is joined from these.
* `ofText_eq_empty_iff`, `ofText_surrounded` and `ofText_separated` follow from it.
* `word_by_word` puts it together.
-/

namespace Crosslink.Slug

open Crosslink.Text

variable {c : Char} {text word sep : List Char} {ws ws' : List (List Char)}

/-! ## Runs

That a run cannot be made longer is written into the relation: in front of a run and behind it stands no
word character, or the text ends. There is exactly one way to cut a text into runs, and it is the one that
splits it at everything else. -/

/-- The longest runs of word characters in a text, in order. -/
inductive Runs : List Char → List (List Char) → Prop where
  /-- there is none where there is no word character -/
  | none {gap : List Char} (hgap : ∀ c ∈ gap, isWord c = false) : Runs gap []
  /-- the first one begins with the first word character and ends where no other one follows -/
  | first {gap word rest : List Char} {ws : List (List Char)} (hgap : ∀ c ∈ gap, isWord c = false)
      (hne : word ≠ []) (hword : ∀ c ∈ word, isWord c = true)
      (hend : ∀ c ∈ rest.head?, isWord c = false) (hrest : Runs rest ws) :
      Runs (gap ++ word ++ rest) (word :: ws)

/-- What is no word character moves no run. -/
theorem Runs.skip (h : Runs text ws) (hc : isWord c = false) : Runs (c :: text) ws := by
  cases h with
  | none hgap => exact .none (List.forall_mem_cons.mpr ⟨hc, hgap⟩)
  | first hgap hne hword hend hrest =>
    exact .first (List.forall_mem_cons.mpr ⟨hc, hgap⟩) hne hword hend hrest

/-- A word character makes the run that it stands right before longer, or is a run of its own. -/
theorem Runs.exists_cons (h : Runs text ws) (hc : isWord c = true) : ∃ ws', Runs (c :: text) ws' := by
  have hone : ∀ d ∈ [c], isWord d = true := by simpa using hc
  have hnone : ∀ d ∈ ([] : List Char), isWord d = false := nofun
  cases h with
  | none hgap =>
    exact ⟨_, .first hnone (List.cons_ne_nil c []) hone
      (fun d hd => hgap d (List.mem_of_head? hd)) (.none hgap)⟩
  | @first gap word rest ws hgap hne hword hend hrest =>
    cases gap with
    | nil =>
      exact ⟨_, .first hnone (List.cons_ne_nil c word)
        (List.forall_mem_cons.mpr ⟨hc, hword⟩) hend hrest⟩
    | cons d gap =>
      refine ⟨_, .first hnone (List.cons_ne_nil c []) hone ?_
        (.first hgap hne hword hend hrest)⟩
      simpa using hgap d List.mem_cons_self

theorem exists_runs (text : List Char) : ∃ ws, Runs text ws := by
  induction text with
  | nil => exact ⟨[], .none nofun⟩
  | cons c text ih =>
    obtain ⟨ws, h⟩ := ih
    cases hc : isWord c with
    | false => exact ⟨ws, h.skip hc⟩
    | true => exact h.exists_cons hc

/-- What is not in words does not show in the words, and where there is something of it, it separates. -/
theorem words_append_append {a b : List Char} (hne : sep ≠ []) (hsep : ∀ c ∈ sep, isWord c = false) :
    words (a ++ sep ++ b) = words a ++ words b := by
  obtain ⟨c, sep, rfl⟩ := List.exists_cons_of_ne_nil hne
  obtain ⟨hc, hsep⟩ := List.forall_mem_cons.mp hsep
  rw [words, List.append_assoc, List.cons_append, parts_append_cons (by simpa using hc),
    parts_append_left fun d hd => by simpa using hsep d hd]
  rfl

/-- The runs of a text are its words. -/
theorem words_of_runs (h : Runs text ws) : words text = ws := by
  induction h with
  | none hgap => exact parts_of_forall fun c hc => by simpa using hgap c hc
  | @first gap word rest ws hgap hne hword hend hrest ih =>
    have hfront : words (gap ++ word ++ rest) = words (word ++ rest) := by
      rw [List.append_assoc]
      exact parts_append_left (fun c hc => by simpa using hgap c hc) _
    rw [hfront, ← ih]
    cases rest with
    | nil => rw [List.append_nil, words_of_forall hne hword]; rfl
    | cons c rest =>
      -- the run ends at `c`, which separates it from the others
      have hc : (!isWord c) = true := by simpa using hend c rfl
      have hword' := words_of_forall hne hword
      rw [words] at hword' ⊢
      rw [parts_append_cons hc, hword', words, parts_cons_of_pos hc]
      rfl

theorem runs_iff : Runs text ws ↔ ws = words text := by
  constructor
  · exact fun h => (words_of_runs h).symm
  · rintro rfl
    obtain ⟨ws, h⟩ := exists_runs text
    rwa [words_of_runs h]

/-- The characters of the runs are the word characters of the text. -/
theorem Runs.mem_iff (h : Runs text ws) : (∃ word ∈ ws, c ∈ word) ↔ c ∈ text ∧ isWord c = true := by
  induction h with
  | none hgap =>
    simp only [List.not_mem_nil, false_and, exists_false, false_iff, not_and]
    exact fun hc => by simp [hgap c hc]
  | @first gap word rest ws hgap hne hword hend hrest ih =>
    rw [List.exists_mem_cons_iff, ih, List.mem_append, List.mem_append]
    constructor
    · rintro (hc | ⟨hc, hc'⟩)
      · exact ⟨.inl (.inr hc), hword c hc⟩
      · exact ⟨.inr hc, hc'⟩
    · rintro ⟨(hc | hc) | hc, hc'⟩
      · rw [hgap c hc] at hc'
        cases hc'
      · exact .inl hc
      · exact .inr ⟨hc, hc'⟩

/-! ## Words in a slug

The changes that make a slug go over the whole text. Each of them leaves the places between words as
places between words, so what they come to in the end can be said of a word by itself, and empty words
leave no hyphen. -/

/-- A word as it stands in a slug: the ASCII letters and digits that its characters are made of, small. -/
def reduced (word : List Char) : String :=
  .ofList (((word.flatMap asciiForm).filter Char.isAlphanum).map Char.toLower)

/-- No letter and no number is made of hyphens or low lines, so that these are not looked for. -/
theorem ofList_wordForm (hword : ∀ c ∈ word, isWord c = true) : .ofList (wordForm word) = reduced word := by
  rw [reduced, wordForm, asciiWord]
  congr 2
  refine List.filter_congr fun d hd => ?_
  obtain ⟨c, hc, hform⟩ := List.mem_flatMap.mp hd
  obtain ⟨hhyphen, hline⟩ := plain_of_mem_asciiForm (hword c hc) hform
  simp [isIdentifierChar, hhyphen, hline]

/-- The table is looked through row by row. -/
theorem asciiForm?_eq_find (c : Char) :
    asciiForm? c = asciiForms.find? fun row => c ∈ row.whole.toList ∨ c ∈ row.mixed.toList := by
  simp only [asciiForm?, String.contains_char_eq, Bool.decide_or]

/-- A word leaves nothing exactly if none of its characters has an ASCII letter or digit in its form. -/
theorem reduced_eq_empty_iff :
    reduced word = "" ↔ ∀ c ∈ word, ∀ d ∈ asciiForm c, d.isAlphanum = false := by
  rw [reduced, String.ofList_eq_empty_iff, List.map_eq_nil_iff, List.filter_eq_nil_iff]
  simp only [List.mem_flatMap, forall_exists_index, and_imp, Bool.not_eq_true]
  exact ⟨fun h c hc d hd => h d c hc hd, fun h d c hc hd => h c hc d hd⟩

/-- Texts with hyphens in between, empty ones left out. -/
def joined (texts : List String) : String := "-".intercalate (texts.filter (· ≠ ""))

/-- Two texts are joined by a hyphen, unless one of them is empty. -/
theorem joined_pair (a b : String) :
    joined [a, b] = if a = "" then b else if b = "" then a else a ++ "-" ++ b := by
  by_cases ha : a = "" <;> by_cases hb : b = "" <;> simp [joined, ha, hb]

/-- Nothing is joined only where there is nothing to join. -/
theorem joined_eq_empty_iff {texts : List String} : joined texts = "" ↔ texts.filter (· ≠ "") = [] := by
  rw [joined]
  constructor
  · intro h
    cases htexts : texts.filter (· ≠ "") with
    | nil => rfl
    | cons first rest =>
      -- the first of them is not empty, and still there when they are joined
      have hmem : first ∈ texts.filter (· ≠ "") := by rw [htexts]; exact List.mem_cons_self
      have hfirst : first ≠ "" := by simpa using (List.mem_filter.mp hmem).2
      rw [htexts] at h
      cases rest with
      | nil =>
        rw [String.intercalate_singleton] at h
        exact absurd h hfirst
      | cons second rest =>
        rw [String.intercalate_cons_cons, String.append_assoc, String.append_eq_empty_iff] at h
        exact absurd h.1 hfirst
  · intro h
    rw [h, String.intercalate_nil]

/-- Texts can be joined in two parts. -/
theorem joined_append (texts others : List String) :
    joined (texts ++ others) = joined [joined texts, joined others] := by
  rw [joined_pair, joined, List.filter_append]
  by_cases htexts : joined texts = ""
  · rw [if_pos htexts, joined_eq_empty_iff.mp htexts, List.nil_append, joined]
  · rw [if_neg htexts]
    by_cases hothers : joined others = ""
    · rw [if_pos hothers, joined_eq_empty_iff.mp hothers, List.append_nil, joined]
    · rw [if_neg hothers, String.intercalate_append_of_ne_nil (mt joined_eq_empty_iff.mpr htexts)
        (mt joined_eq_empty_iff.mpr hothers), joined, joined]

/-- The slug of a text is joined from its words. -/
theorem ofText_of_runs {t : String} (h : Runs t.toList ws) : ofText t = joined (ws.map reduced) := by
  obtain rfl := runs_iff.mp h
  have hforms : (words t.toList).map reduced = ((words t.toList).map wordForm).map String.ofList := by
    rw [List.map_map]
    exact List.map_congr_left fun word hword => (ofList_wordForm (isWord_of_mem_words hword)).symm
  have htoList : ∀ forms : List (List Char),
      (((forms.map String.ofList).filter (· ≠ "")).map String.toList) = forms.filter (· ≠ []) := by
    intro forms
    rw [List.filter_map, List.map_map]
    simp [Function.comp_def, String.ofList_eq_empty_iff]
  rw [← String.toList_inj, ofText, String.toList_ofList, ofChars_eq, joined, String.toList_intercalate,
    hforms, htoList]
  rfl

/-! ## Slugs of texts

What surrounds the words does not show, and what separates two texts separates their words. So the slug of
a text in parts can be told from the slugs of the parts. -/

/-- A slug is empty exactly if no letter and no number of the text has an ASCII letter or digit in it. -/
theorem ofText_eq_empty_iff (t : String) :
    ofText t = "" ↔ ∀ c ∈ t.toList, isWord c = true → ∀ d ∈ asciiForm c, d.isAlphanum = false := by
  obtain ⟨ws, h⟩ := exists_runs t.toList
  have hnone : ofText t = "" ↔ ∀ word ∈ ws, reduced word = "" := by
    rw [ofText_of_runs h, joined_eq_empty_iff]
    simp [List.filter_eq_nil_iff]
  rw [hnone]
  simp only [reduced_eq_empty_iff]
  constructor
  · intro hwords c hc hword
    obtain ⟨word, hmem, hc⟩ := h.mem_iff.mpr ⟨hc, hword⟩
    exact hwords word hmem c hc
  · intro hchars word hmem c hc
    obtain ⟨hc, hword⟩ := h.mem_iff.mp ⟨word, hmem, hc⟩
    exact hchars c hc hword

/-- What is in front of a text or behind it and not in words does not show in its slug. -/
theorem ofText_surrounded {t before after : String} (hbefore : ∀ c ∈ before.toList, isWord c = false)
    (hafter : ∀ c ∈ after.toList, isWord c = false) : ofText (before ++ t ++ after) = ofText t := by
  have hwords : words (before ++ t ++ after).toList = words t.toList := by
    rw [String.toList_append, String.toList_append, words,
      parts_append_right fun c hc => by simpa using hafter c hc,
      parts_append_left fun c hc => by simpa using hbefore c hc, words]
  rw [ofText, ofText, ofChars_eq, ofChars_eq, hwords]

/-- The slug of two texts with something in between that is not in words is joined from their slugs. -/
theorem ofText_separated {t other sep : String} (hne : sep ≠ "")
    (hsep : ∀ c ∈ sep.toList, isWord c = false) :
    ofText (t ++ sep ++ other) = joined [ofText t, ofText other] := by
  have hne' : sep.toList ≠ [] := mt String.toList_eq_nil_iff.mp hne
  have hwords : words (t ++ sep ++ other).toList = words t.toList ++ words other.toList := by
    rw [String.toList_append, String.toList_append, words_append_append hne' hsep]
  rw [ofText_of_runs (runs_iff.mpr hwords.symm), List.map_append, joined_append,
    ← ofText_of_runs (runs_iff.mpr rfl), ← ofText_of_runs (runs_iff.mpr rfl)]

/-- **A slug is made word by word.** Every text has one list of longest runs of letters and numbers, and its
slug is joined from them by hyphens, each in the ASCII letters and digits that its characters are made of,
small, and those left out that have none. So a slug is empty exactly if no letter and no number of the text
has an ASCII letter or digit in it; what is put around a text and has no letters or numbers does not show in
the slug; and two texts that are separated by something without letters or numbers have the slug that is
joined from theirs. -/
theorem word_by_word (t : String) :
    (∃ ws, Runs t.toList ws) ∧
      (∀ ws, Runs t.toList ws → ofText t = "-".intercalate ((ws.map reduced).filter (· ≠ ""))) ∧
      (ofText t = "" ↔
        ∀ c ∈ t.toList, isWord c = true → ∀ d ∈ asciiForm c, d.isAlphanum = false) ∧
      (∀ before after : String, (∀ c ∈ before.toList, isWord c = false) →
        (∀ c ∈ after.toList, isWord c = false) → ofText (before ++ t ++ after) = ofText t) ∧
      ∀ sep other : String, sep ≠ "" → (∀ c ∈ sep.toList, isWord c = false) →
        ofText (t ++ sep ++ other) = "-".intercalate ([ofText t, ofText other].filter (· ≠ "")) :=
  ⟨exists_runs _, fun _ => ofText_of_runs, ofText_eq_empty_iff t, fun _ _ => ofText_surrounded,
    fun _ _ => ofText_separated⟩

/-- A small digit, a low line and a full stop, and signs around the text. -/
theorem word_by_word_area :
    let t := "Area (m²): x_y."
    let ws := ["Area".toList, "m²".toList, "x".toList, "y".toList]
    Runs t.toList ws ∧ ofText t = "area-m2-x-y" ∧ ofText "¡—!" = "" ∧
      (∀ c ∈ "¡—!".toList, isWord c = false) ∧ ofText ("¡—!" ++ t ++ "!") = "area-m2-x-y" ∧
      ofText (t ++ "¡—!" ++ t) = "area-m2-x-y-area-m2-x-y" ∧ ofText (t ++ "¡—!" ++ "") = "area-m2-x-y" := by
  intro t ws
  obtain ⟨-, hforms, -, haround, hseparated⟩ := word_by_word t
  have hruns : Runs t.toList ws := runs_iff.mpr (by decide +kernel)
  have hreduced : ws.map reduced = ["area", "m2", "x", "y"] := by
    unfold reduced asciiForm
    simp only [asciiForm?_eq_find]
    decide +kernel
  have hslug : ofText t = "area-m2-x-y" := by
    rw [hforms ws hruns, hreduced]
    decide +kernel
  have hall : "¡—!".toList.all (isWord · = false) = true := by decide +kernel
  have hsigns : ∀ c ∈ "¡—!".toList, isWord c = false := by
    simpa only [List.all_eq_true, decide_eq_true_eq] using hall
  have hmark : ∀ c ∈ "!".toList, isWord c = false := fun c hc =>
    hsigns c (List.mem_cons_of_mem _ (List.mem_cons_of_mem _ hc))
  have hempty : ofText "" = "" := by decide +kernel
  refine ⟨hruns, hslug, (ofText_eq_empty_iff _).mpr fun c hc hword => ?_, hsigns, ?_, ?_, ?_⟩
  · rw [hsigns c hc] at hword
    cases hword
  · rw [haround _ _ hsigns hmark, hslug]
  · rw [hseparated _ _ (by decide) hsigns, hslug]
    decide +kernel
  · rw [hseparated _ _ (by decide) hsigns, hslug, hempty]
    decide +kernel

end Crosslink.Slug
