import Crosslink.Proofs.Outline
import Mathlib.Data.List.Lex

/-!
# The order of titles

A document whose titles all have a depth below the root numbers them in ascending order: where two numbers
first differ the later title has the larger counter, and a number that goes on where another one stops
comes behind it. So no two titles of a document have the same number, and no two have the same anchor.

* `TitleNumber.token_injective`, `TitleNumber.numbering_injective` : a number can be read back from either
  of its texts.
* `ofOutline_lt` : one more title has a larger number than the one before it.
* `titles_ascend` : the numbers of any run ascend, and their texts are different.
-/

namespace Crosslink

/-! ## Numbers as text

The texts of a number are its counters with dots in between. Digits hold no dot, so the text can be cut at
the dots and each counter read from its digits. -/

namespace TitleNumber

/-- The digits of a counter tell the counter. -/
theorem toString_injective {m n : Nat} (h : toString m = toString n) : m = n := by
  have hdigits : Nat.toDigits 10 m = Nat.toDigits 10 n := by
    rw [← Nat.toList_repr, ← Nat.toList_repr, ← Nat.toString_eq_repr, ← Nat.toString_eq_repr, h]
  rw [← Nat.ofDigitChars_ten_toDigits (n := m), hdigits, Nat.ofDigitChars_ten_toDigits]

theorem dot_not_mem_toString (n : Nat) : '.' ∉ (toString n).toList := by
  intro h
  rw [Nat.toString_eq_repr, Nat.toList_repr] at h
  have hdigit := Nat.isDigit_of_mem_toDigits (by decide) (by decide) h
  exact absurd hdigit (by decide)

/-- Texts without dots can be read back when they are written with dots in between. -/
theorem splitOn_intercalate_dot {texts : List String} (hne : texts ≠ [])
    (h : ∀ text ∈ texts, '.' ∉ text.toList) :
    (".".intercalate texts).toList.splitOn '.' = texts.map String.toList := by
  rw [String.toList_intercalate]
  exact List.splitOn_intercalate '.' (by simpa using h) (by simpa using hne)

/-- Digits are no dots, so the dots in a number are those between its counters. -/
theorem dot_not_mem_counter (number : TitleNumber) :
    ∀ text ∈ number.counters.map toString, '.' ∉ text.toList := by
  intro text htext
  obtain ⟨counter, -, rfl⟩ := List.mem_map.mp htext
  exact dot_not_mem_toString counter

theorem eq_of_map_toString {a b : TitleNumber}
    (h : (a.counters.map toString).map String.toList = (b.counters.map toString).map String.toList) :
    a = b := by
  rw [List.map_map, List.map_map] at h
  have hcounters := List.map_injective_iff.mpr (fun m n hmn =>
    toString_injective (String.toList_injective hmn)) h
  cases a
  cases b
  exact congrArg mk hcounters

/-- The anchor of a title tells its number. -/
theorem token_injective {a b : TitleNumber} (h : a.token = b.token) : a = b := by
  have hdots : ∀ number : TitleNumber, ∀ text ∈ "title" :: number.counters.map toString,
      '.' ∉ text.toList := by
    intro number text htext
    rcases List.mem_cons.mp htext with rfl | htext
    · decide
    · exact number.dot_not_mem_counter text htext
  have hsplit := congrArg (fun text => text.toList.splitOn '.') h
  simp only [token, splitOn_intercalate_dot (List.cons_ne_nil _ _) (hdots _), List.map_cons,
    List.cons.injEq, true_and] at hsplit
  exact eq_of_map_toString hsplit

/-- The text of a number tells the number, if it holds any counter. -/
theorem numbering_injective {a b : TitleNumber} (ha : a.counters ≠ []) (hb : b.counters ≠ [])
    (h : a.numbering = b.numbering) : a = b := by
  have hsplit := congrArg (fun text => text.toList.splitOn '.') h
  simp only [numbering] at hsplit
  rw [splitOn_intercalate_dot (by simpa using ha) a.dot_not_mem_counter,
    splitOn_intercalate_dot (by simpa using hb) b.dot_not_mem_counter] at hsplit
  exact eq_of_map_toString hsplit

end TitleNumber

namespace Numbering

open TitleNumber

variable {steps : List Step} {levels : List Nat} {level depth : Nat}

/-! ## One more title

How the number of a title compares with that of the title before it. Above its depth the counters are the
same; at its depth the later one is larger, or it is the first there and goes on where the other one
stops. -/

/-- Down to the depth of the last title all counters count. -/
theorem titleCount_append_pos (h : depth ≤ level) : 0 < titleCount (levels ++ [level]) depth := by
  rcases Nat.eq_or_lt_of_le h with rfl | hlt
  · rw [titleCount_append_self]
    omega
  · rw [titleCount_append_of_gt hlt]
    omega

/-- The number of a title lists the counters of the depths down to its own. -/
theorem counters_ofOutline_append :
    (ofOutline (levels ++ [level])).counters =
      (List.range' 1 level).map (titleCount (levels ++ [level])) := by
  rw [ofOutline, List.getLastD_concat]

theorem pos_of_mem_ofOutline {counter : Nat} (h : counter ∈ (ofOutline levels).counters) :
    1 ≤ counter := by
  rcases List.eq_nil_or_concat levels with rfl | ⟨rest, last, rfl⟩
  · simp [ofOutline] at h
  · rw [List.concat_eq_append, counters_ofOutline_append] at h
    obtain ⟨depth, hdepth, rfl⟩ := List.mem_map.mp h
    rw [List.mem_range'_1] at hdepth
    exact titleCount_append_pos (by omega)

/-- A title leaves the counters alone that stand above it and count already. -/
theorem titleCount_append_of_pos (h : depth < level) (hpos : 0 < titleCount levels depth) :
    titleCount (levels ++ [level]) depth = titleCount levels depth := by
  rw [titleCount_append_of_gt h]
  omega

/-- Counters that go on where others stop come behind them. -/
theorem map_range'_lt_of_lt {f g : Nat → Nat} {a b : Nat} (h : a < b)
    (hsame : ∀ d ∈ List.range' 1 a, f d = g d) : (List.range' 1 a).map f < (List.range' 1 b).map g := by
  obtain ⟨k, rfl⟩ := Nat.exists_eq_add_of_lt h
  rw [Nat.add_assoc, ← List.range'_append_1, List.map_append, List.range'_succ, List.map_cons,
    List.map_congr_left hsame]
  simpa using List.append_left_lt (List.nil_lt_cons (g (1 + a)) _)

/-- Counters of which the last is larger than the one in its place come behind the others. -/
theorem map_range'_lt_of_le {f g : Nat → Nat} {a b : Nat} (h : b + 1 ≤ a)
    (hsame : ∀ d ∈ List.range' 1 b, f d = g d) (hlast : f (1 + b) < g (1 + b)) :
    (List.range' 1 a).map f < (List.range' 1 (b + 1)).map g := by
  obtain ⟨k, rfl⟩ := Nat.exists_eq_add_of_le h
  rw [Nat.add_assoc, Nat.add_comm 1 k, ← List.range'_append_1, List.range'_succ,
    ← List.range'_append_1 (m := b) (n := 1), List.map_append, List.map_append, List.map_cons,
    List.map_congr_left hsame]
  exact List.append_left_lt (List.cons_lt_cons_iff.mpr (.inl hlast))

/-- A title below the root has a larger number than the title before it. -/
theorem ofOutline_lt (h : level ≠ 0) :
    (ofOutline levels).counters < (ofOutline (levels ++ [level])).counters := by
  rw [counters_ofOutline_append]
  obtain ⟨above, rfl⟩ := Nat.exists_eq_succ_of_ne_zero h
  rcases List.eq_nil_or_concat levels with rfl | ⟨rest, last, rfl⟩
  · exact List.nil_lt_cons _ _
  · rw [List.concat_eq_append, counters_ofOutline_append]
    have hsame : ∀ depth, depth ≤ last → depth < above + 1 →
        titleCount (rest ++ [last]) depth =
          titleCount (rest ++ [last] ++ [above + 1]) depth := by
      intro depth hlast hlevel
      exact (titleCount_append_of_pos hlevel (titleCount_append_pos hlast)).symm
    by_cases hdeeper : last < above + 1
    · -- a deeper title goes on where the number before it stops
      refine map_range'_lt_of_lt hdeeper fun depth hdepth => ?_
      rw [List.mem_range'_1] at hdepth
      exact hsame depth (by omega) (by omega)
    · -- the counter of its own depth moves on, and those above stay
      refine map_range'_lt_of_le (Nat.le_of_not_lt hdeeper) (fun depth hdepth => ?_) ?_
      · rw [List.mem_range'_1] at hdepth
        exact hsame depth (by omega) (by omega)
      · rw [Nat.add_comm 1 above, titleCount_append_self]
        exact Nat.lt_succ_self _

/-! ## The titles of a run

The numbers that a run gives to its titles, in order. By induction on the run the last of them is the
number of the outline so far, and larger than all before it. -/

/-- The number that a call gives to a title, if it is one and is not refused. -/
def title? (n : Numbering) : Step → Option TitleNumber
  | .title level => (Call.run (createTitle level) n).1.toOption
  | .item _ | .underline _ | .reset => none

/-- The numbers that calls give to titles from some counters on, in order. -/
def titlesFrom : Numbering → List Step → List TitleNumber
  | _, [] => []
  | n, s :: steps => (n.title? s).toList ++ titlesFrom (n.step s) steps

/-- The numbers of the titles of a document, in order. -/
def titleNumbers (steps : List Step) : List TitleNumber := titlesFrom {} steps

/-- A run can be cut in two: the second part goes on from the counters that the first has left. -/
theorem titlesFrom_append (n : Numbering) (steps others : List Step) :
    titlesFrom n (steps ++ others) = titlesFrom n steps ++ titlesFrom (steps.foldl step n) others := by
  induction steps generalizing n with
  | nil => rfl
  | cons s steps ih =>
    rw [List.cons_append, titlesFrom, titlesFrom, ih, List.append_assoc, List.foldl_cons]

theorem titleNumbers_append (steps : List Step) (s : Step) :
    titleNumbers (steps ++ [s]) = titleNumbers steps ++ ((run steps).title? s).toList := by
  rw [titleNumbers, titlesFrom_append, titlesFrom, titlesFrom, List.append_nil, ← titleNumbers, ← run]

theorem titleNumbers_append_of_none {s : Step} (h : ∀ n : Numbering, n.title? s = none) :
    titleNumbers (steps ++ [s]) = titleNumbers steps := by
  rw [titleNumbers_append, h, Option.toList_none, List.append_nil]

/-- A title in range is given the number of the outline that it ends. -/
theorem title?_run (steps : List Step) (level : Nat) :
    (run steps).title? (.title level) =
      if level < titleDepths then some (ofOutline (outline steps ++ [level])) else none := by
  rw [title?, ← titleAfter, titleAfter_eq]
  split <;> rfl

theorem titleNumbers_append_title_of_lt (h : level < titleDepths) :
    titleNumbers (steps ++ [.title level]) =
      titleNumbers steps ++ [ofOutline (outline steps ++ [level])] := by
  rw [titleNumbers_append, title?_run, if_pos h, Option.toList_some]

theorem titleNumbers_append_title_of_le (h : titleDepths ≤ level) :
    titleNumbers (steps ++ [.title level]) = titleNumbers steps := by
  rw [titleNumbers_append, title?_run, if_neg h.not_gt, Option.toList_none, List.append_nil]

/-- Numbers that have been given in ascending order, up to that of the last title of an outline. -/
structure Ascends (levels : List Nat) (numbers : List TitleNumber) : Prop where
  ascending : numbers.Pairwise (·.counters < ·.counters)
  le_last : ∀ number ∈ numbers, number.counters ≤ (ofOutline levels).counters
  ne_nil : ∀ number ∈ numbers, number.counters ≠ []
  pos : ∀ number ∈ numbers, ∀ counter ∈ number.counters, 1 ≤ counter

theorem Ascends.nil : Ascends [] [] := ⟨.nil, nofun, nofun, nofun⟩

/-- A title below the root keeps the numbers ascending. -/
theorem Ascends.title {numbers : List TitleNumber} (h : Ascends levels numbers) (hlevel : level ≠ 0) :
    Ascends (levels ++ [level]) (numbers ++ [ofOutline (levels ++ [level])]) := by
  -- the new number is above the last one, and so above all before it
  have hlt : ∀ number ∈ numbers,
      number.counters < (ofOutline (levels ++ [level])).counters := by
    intro number hnumber
    exact lt_of_le_of_lt (h.le_last number hnumber) (ofOutline_lt hlevel)
  have hne : (ofOutline (levels ++ [level])).counters ≠ [] := by
    intro hnil
    have hsmaller : (ofOutline levels).counters < (ofOutline (levels ++ [level])).counters :=
      ofOutline_lt hlevel
    rw [hnil] at hsmaller
    exact List.not_lt_nil _ hsmaller
  refine ⟨?_, fun number hnumber => ?_, fun number hnumber => ?_, fun number hnumber => ?_⟩
  · refine List.pairwise_append.mpr ⟨h.ascending, List.pairwise_singleton _ _, ?_⟩
    intro number hnumber new hnew
    rw [List.mem_singleton.mp hnew]
    exact hlt number hnumber
  all_goals rcases List.mem_append.mp hnumber with hold | hnew
  · exact le_of_lt (hlt number hold)
  · exact le_of_eq (congrArg TitleNumber.counters (List.mem_singleton.mp hnew))
  · exact h.ne_nil number hold
  · rwa [List.mem_singleton.mp hnew]
  · exact h.pos number hold
  · rw [List.mem_singleton.mp hnew]
    exact fun counter hcounter => pos_of_mem_ofOutline hcounter

/-- The numbers of a run ascend, if it does not start over and has no title at the root. -/
theorem ascends_run (hreset : .reset ∉ steps) (hroot : .title 0 ∉ steps) :
    Ascends (outline steps) (titleNumbers steps) := by
  induction steps using List.reverseRecOn with
  | nil => exact .nil
  | append_singleton steps s ih =>
    simp only [List.mem_append, List.mem_singleton, not_or] at hreset hroot
    have hrest := ih hreset.1 hroot.1
    -- only a title in range adds a number; the calls that would break the order are ruled out
    cases s with
    | title level =>
      by_cases h : level < titleDepths
      · rw [outline_append_title_of_lt h, titleNumbers_append_title_of_lt h]
        exact hrest.title fun hzero => hroot.2 (by rw [hzero])
      · have hrefused := Nat.le_of_not_lt h
        rwa [outline_append_title_of_le hrefused, titleNumbers_append_title_of_le hrefused]
    | item level =>
      rwa [outline_append_of_none (.item level) nofun rfl, titleNumbers_append_of_none fun _ => rfl]
    | underline letter =>
      rwa [outline_append_of_none (.underline letter) nofun rfl,
        titleNumbers_append_of_none fun _ => rfl]
    | reset => exact absurd rfl hreset.2

/-- **The numbers of titles ascend.** Let the counters of a document never start over, and no title stand
at the root. Then every number is larger than all numbers before it, counter by counter, where a number
that goes on where another one stops is the larger; all counters count; and no two titles have the same
number as text or the same anchor. Items, underlines and refused titles may come in between. -/
theorem titles_ascend (steps : List Step) (hreset : .reset ∉ steps) (hroot : .title 0 ∉ steps) :
    (titleNumbers steps).Pairwise (·.counters < ·.counters) ∧
    (∀ number ∈ titleNumbers steps, ∀ counter ∈ number.counters, 1 ≤ counter) ∧
    ((titleNumbers steps).map TitleNumber.numbering).Nodup ∧
    ((titleNumbers steps).map TitleNumber.token).Nodup := by
  have h := ascends_run hreset hroot
  have hdistinct : (titleNumbers steps).Pairwise (· ≠ ·) := by
    refine h.ascending.imp fun hlt heq => ?_
    rw [heq] at hlt
    exact List.lt_irrefl _ hlt
  refine ⟨h.ascending, h.pos, List.pairwise_map.mpr ?_, List.pairwise_map.mpr ?_⟩
  · refine hdistinct.imp_of_mem fun ha hb hne htext => hne ?_
    exact numbering_injective (h.ne_nil _ ha) (h.ne_nil _ hb) htext
  · exact hdistinct.imp fun hne htext => hne (token_injective htext)

/-- Titles that leave out depths and go back, with an item, an underline and a refused title in between. -/
theorem titles_ascend_skipping :
    let steps := [Step.title 2, .item 2, .title 1, .underline '=', .title 16, .title 4, .title 2]
    .reset ∉ steps ∧ .title 0 ∉ steps ∧
    (titleNumbers steps).map TitleNumber.counters = [[1, 1], [2], [2, 1, 1, 1], [2, 2]] ∧
    ((titleNumbers steps).map TitleNumber.token).Nodup := by
  intro steps
  have hreset : .reset ∉ steps := by decide
  have hroot : .title 0 ∉ steps := by decide
  obtain ⟨-, -, -, htokens⟩ := titles_ascend steps hreset hroot
  exact ⟨hreset, hroot, by decide, htokens⟩

end Numbering

end Crosslink
