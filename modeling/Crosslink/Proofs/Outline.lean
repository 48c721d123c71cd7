import Crosslink.Numbering
import Mathlib.Data.List.DropRight

/-!
# Outlines

The counters of a document hold nothing but its outline: the depths of its titles since they last started
over. What a counter of titles has come to can be read off the outline alone, and what a counter of items
has come to off the items and the titles above them.

* `Step` is a call on the counters, `run` a sequence of calls, refused ones included.
* `titleCount` and `itemCount` are the counters in closed form; `titles_run` and `items_run` prove the
  counters of every run equal to them.
* `numbers_of_outline` : what a title and an item are numbered after any run.
-/

namespace Crosslink

namespace Numbering

/-! ## Runs

Only the last stretch of a run counts, the one since the counters last started over. Of that stretch the
outline keeps the depths of the titles; what was refused, and what is no title, is not in it. -/

/-- A call on the counters. -/
inductive Step where
  /-- a title is numbered -/
  | title (level : Nat)
  /-- an item is counted -/
  | item (level : Nat)
  /-- the depth of an underline is asked for -/
  | underline (letter : Char)
  /-- the counters start over -/
  | reset
  deriving DecidableEq, Repr

/-- The counters after a call. -/
def step (n : Numbering) : Step → Numbering
  | .title level => (Call.run (createTitle level) n).2
  | .item level => (Call.run (getNumber level) n).2
  | .underline letter => (Call.run (getLevel letter) n).2
  | .reset => {}

/-- The counters of a document after some calls. -/
def run (steps : List Step) : Numbering := steps.foldl step {}

/-- The level of a numbered title; a title that is out of range is refused. -/
def Step.level? : Step → Option Nat
  | .title level => if level < titleDepths then some level else none
  | .item _ | .underline _ | .reset => none

/-- Whether a call is about a title above a depth. -/
def Step.isTitleAbove (depth : Nat) : Step → Bool
  | .title level => level < depth
  | .item _ | .underline _ | .reset => false

/-- Whether a call has a say in the numbers of titles. -/
def Step.isOutline : Step → Bool
  | .title _ | .reset => true
  | .item _ | .underline _ => false

/-- Whether a call has a say in the numbers of the items at a depth. -/
def Step.concernsItems (depth : Nat) : Step → Bool
  | .title level => level < depth
  | .item level => level = depth
  | .underline _ => false
  | .reset => true

/-- The calls since the counters last started over. -/
def sinceReset (steps : List Step) : List Step := steps.rtakeWhile (· ≠ .reset)

/-- The levels of the titles since the counters last started over. -/
def outline (steps : List Step) : List Nat := (sinceReset steps).filterMap Step.level?

/-! ## Counters in closed form

A counter counts behind the last title that stands above its depth, since that title has started it over.
A title that skips a depth opens it, and what is opened counts as one although no title stands there. -/

/-- The titles at a depth behind the last title above it. If the first title there is a deeper one, it
opens the depth, which counts like a title. -/
def titleCount (levels : List Nat) (depth : Nat) : Nat :=
  let part := levels.rtakeWhile (depth ≤ ·)
  part.count depth + if part.head?.any (depth < ·) then 1 else 0

/-- The items at a depth behind the last title above it. -/
def itemCount (steps : List Step) (depth : Nat) : Nat :=
  ((sinceReset steps).rtakeWhile (!·.isTitleAbove depth)).count (.item depth)

end Numbering

/-- The number of the last title of an outline: the counters of the depths from 1 to its own. -/
def TitleNumber.ofOutline (levels : List Nat) : TitleNumber :=
  ⟨(List.range' 1 (levels.getLastD 0)).map (Numbering.titleCount levels)⟩

namespace Numbering

variable {steps : List Step} {levels : List Nat} {level depth : Nat}

/-! ## One more title

How the closed form grows with the outline. A title at a depth starts the deeper ones over, moves its own
on by one, and opens those above it that have none; what is open stays as it is. -/

theorem titleCount_nil : titleCount [] depth = 0 := rfl

/-- A depth that has been opened counts for something. -/
theorem titleCount_pos (h : levels.rtakeWhile (depth ≤ ·) ≠ []) : 0 < titleCount levels depth := by
  rw [titleCount]
  cases hpart : levels.rtakeWhile (depth ≤ ·) with
  | nil => exact absurd hpart h
  | cons first rest =>
    have hfirst : depth ≤ first := by
      have hmem : first ∈ levels.rtakeWhile (depth ≤ ·) := by
        rw [hpart]
        exact List.mem_cons_self
      simpa using List.mem_rtakeWhile_imp hmem
    rcases Nat.eq_or_lt_of_le hfirst with rfl | hdeeper
    · simp only [List.count_cons_self]
      omega
    · simp [hdeeper]

/-- A title starts the depths below it over. -/
theorem titleCount_append_of_lt (h : level < depth) : titleCount (levels ++ [level]) depth = 0 := by
  rw [titleCount, List.rtakeWhile_concat_neg _ _ _ (by simpa using h)]
  rfl

/-- A title moves the counter of its own depth on. -/
theorem titleCount_append_self :
    titleCount (levels ++ [depth]) depth = titleCount levels depth + 1 := by
  rw [titleCount, titleCount, List.rtakeWhile_concat_pos _ _ _ (by simp)]
  by_cases hpart : levels.rtakeWhile (depth ≤ ·) = []
  · simp [hpart]
  · rw [List.count_append, List.count_singleton_self, List.head?_append_of_ne_nil _ hpart]
    omega

/-- A title opens the depths above it that have none yet. -/
theorem titleCount_append_of_gt (h : depth < level) :
    titleCount (levels ++ [level]) depth = max 1 (titleCount levels depth) := by
  by_cases hpart : levels.rtakeWhile (depth ≤ ·) = []
  · have hold : titleCount levels depth = 0 := by rw [titleCount, hpart]; rfl
    rw [hold, titleCount, List.rtakeWhile_concat_pos _ _ _ (by simpa using h.le), hpart]
    simp [h, h.ne']
  · have hpos := titleCount_pos hpart
    have hsame : titleCount (levels ++ [level]) depth = titleCount levels depth := by
      rw [titleCount, titleCount, List.rtakeWhile_concat_pos _ _ _ (by simpa using h.le)]
      rw [List.count_append, List.head?_append_of_ne_nil _ hpart]
      simp [h.ne']
    omega

/-! ## One more call

How the outline, and the count of items, grow with a run. Titles out of range are refused and do not show;
underlines concern neither. -/

/-- The last call of a run is made on what the others have left. -/
theorem run_append_singleton (steps : List Step) (s : Step) :
    run (steps ++ [s]) = (run steps).step s := by
  rw [run, List.foldl_append, ← run]
  rfl

/-- Nothing has been called since the counters started over just now. -/
theorem sinceReset_append_reset (steps : List Step) : sinceReset (steps ++ [.reset]) = [] :=
  List.rtakeWhile_concat_neg _ _ _ (by simp)

theorem sinceReset_append (steps : List Step) (s : Step) (h : s ≠ .reset) :
    sinceReset (steps ++ [s]) = sinceReset steps ++ [s] :=
  List.rtakeWhile_concat_pos _ _ _ (by simpa using h)

@[simp]
theorem outline_append_reset (steps : List Step) : outline (steps ++ [.reset]) = [] := by
  rw [outline, sinceReset_append_reset, List.filterMap_nil]

theorem outline_append_of_none (s : Step) (hs : s ≠ .reset) (h : s.level? = none) :
    outline (steps ++ [s]) = outline steps := by
  rw [outline, sinceReset_append steps s hs, List.filterMap_append, ← outline]
  simp [h]

theorem outline_append_title_of_lt (h : level < titleDepths) :
    outline (steps ++ [.title level]) = outline steps ++ [level] := by
  rw [outline, sinceReset_append steps (.title level) nofun, List.filterMap_append, ← outline]
  simp [Step.level?, h]

theorem outline_append_title_of_le (h : titleDepths ≤ level) :
    outline (steps ++ [.title level]) = outline steps :=
  outline_append_of_none (.title level) nofun (if_neg h.not_gt)

@[simp]
theorem itemCount_append_reset : itemCount (steps ++ [.reset]) depth = 0 := by
  rw [itemCount, sinceReset_append_reset]
  rfl

/-- A call that is no title above the depth counts if it is an item at the depth. -/
theorem itemCount_append (s : Step) (hs : s ≠ .reset) (h : s.isTitleAbove depth = false) :
    itemCount (steps ++ [s]) depth =
      itemCount steps depth + if s = .item depth then 1 else 0 := by
  rw [itemCount, sinceReset_append steps s hs, List.rtakeWhile_concat_pos _ _ _ (by simp [h]),
    List.count_append, ← itemCount, List.count_singleton]
  simp

/-- A title above the depth lets the items there start over; any other leaves their number. -/
theorem itemCount_append_title :
    itemCount (steps ++ [.title level]) depth = if level < depth then 0 else itemCount steps depth := by
  by_cases h : level < depth
  · rw [if_pos h, itemCount, sinceReset_append steps (.title level) nofun,
      List.rtakeWhile_concat_neg _ _ _ (by simpa [Step.isTitleAbove] using h)]
    rfl
  · rw [if_neg h, itemCount_append (.title level) nofun (by simpa [Step.isTitleAbove] using h)]
    simp

theorem itemCount_append_item :
    itemCount (steps ++ [.item level]) depth =
      itemCount steps depth + if level = depth then 1 else 0 := by
  rw [itemCount_append (.item level) nofun rfl]
  simp

@[simp]
theorem itemCount_append_underline (letter : Char) :
    itemCount (steps ++ [.underline letter]) depth = itemCount steps depth := by
  rw [itemCount_append (.underline letter) nofun rfl]
  simp

/-! ## What one call does to the counters

The same for the counters that are kept, with one equation for each kind of call. -/

variable {n : Numbering}

theorem step_title_of_lt (h : level < titleDepths) :
    n.step (.title level) = n.enterTitle ⟨level, h⟩ := by
  rw [step, run_createTitle, dif_pos h]

theorem step_title_of_le (h : titleDepths ≤ level) : n.step (.title level) = n := by
  rw [step, run_createTitle, dif_neg h.not_gt]

/-- An item in range moves the counter of its depth on. -/
theorem step_item_of_lt (h : level < titleDepths) :
    n.step (.item level) = { n with items := n.items.set level (n.items[level] + 1) } := by
  rw [step, run_getNumber, dif_pos h]

theorem step_item_of_le (h : titleDepths ≤ level) : n.step (.item level) = n := by
  rw [step, run_getNumber, dif_neg h.not_gt]

theorem titles_step_item : (n.step (.item level)).titles = n.titles := by
  by_cases h : level < titleDepths
  · rw [step_item_of_lt h]
  · rw [step_item_of_le (Nat.le_of_not_lt h)]

/-- An underline gets a depth, which moves no counter. -/
theorem step_underline (letter : Char) :
    (n.step (.underline letter)).titles = n.titles ∧
      (n.step (.underline letter)).items = n.items := by
  rw [step, run_getLevel]
  cases n.letters.idxOf? letter with
  | some index => exact ⟨rfl, rfl⟩
  | none =>
    dsimp only
    split <;> exact ⟨rfl, rfl⟩

/-- What a title makes of the counter of a depth: it is cleared below the title, moved on at its depth,
and opened above it where it was not open. -/
theorem titles_enterTitle (depth : Fin titleDepths) {d : Nat} (hd : d < titleDepths) :
    (n.enterTitle depth).titles[d] =
      if depth.val < d then 0
      else if d = depth.val then n.titles[d] + 1
      else if d ≠ 0 ∧ n.titles[d] = 0 then 1
      else n.titles[d] := by
  simp only [enterTitle, Vector.getElem_ofFn, Fin.lt_def, Fin.ext_iff, ne_eq]
  rfl

theorem items_enterTitle (depth : Fin titleDepths) {d : Nat} (hd : d < titleDepths) :
    (n.enterTitle depth).items[d] = if depth.val < d then 1 else n.items[d] := by
  simp only [enterTitle, Vector.getElem_ofFn, Fin.lt_def]
  rfl

/-- A title changes the counter of a depth as it changes the closed form. -/
theorem titles_enterTitle_of_eq {d : Nat} (hd : d < titleDepths) (hroot : d ≠ 0)
    (h : n.titles[d] = titleCount levels d) (depth : Fin titleDepths) :
    (n.enterTitle depth).titles[d] = titleCount (levels ++ [depth.val]) d := by
  rw [titles_enterTitle depth hd]
  -- the title stands above the depth `d`, at it or below it
  rcases Nat.lt_trichotomy depth d with habove | heq | hbelow
  · rw [if_pos habove, titleCount_append_of_lt habove]
  · rw [heq, if_neg (Nat.lt_irrefl d), if_pos rfl, titleCount_append_self, h]
  · rw [if_neg (Nat.lt_asymm hbelow), if_neg (Nat.ne_of_lt hbelow), titleCount_append_of_gt hbelow, h]
    split
    · rename_i hopen
      rw [hopen.2]
      rfl
    · rename_i hopen
      have hpos : titleCount levels d ≠ 0 := fun e => hopen ⟨hroot, e⟩
      omega

/-! ## Counters of a run

By induction on the run from its end, where calls are added: the counters that are kept are the closed
forms, each depth on its own. -/

/-- A counter of titles is what its closed form makes of the outline. -/
theorem titles_run (steps : List Step) {d : Nat} (hd : d < titleDepths) (hroot : d ≠ 0) :
    (run steps).titles[d] = titleCount (outline steps) d := by
  -- from the end of the run, because the outline is about the calls made so far
  induction steps using List.reverseRecOn with
  | nil => simp [run, outline, sinceReset, titleCount]
  | append_singleton steps s ih =>
    simp only [run_append_singleton]
    cases s with
    | title level =>
      by_cases h : level < titleDepths
      · simp only [step_title_of_lt h]
        rw [outline_append_title_of_lt h]
        exact titles_enterTitle_of_eq hd hroot ih ⟨level, h⟩
      · have hrefused := Nat.le_of_not_lt h
        simp only [step_title_of_le hrefused]
        rw [outline_append_title_of_le hrefused, ih]
    | item level =>
      simp only [titles_step_item]
      rw [outline_append_of_none (.item level) nofun rfl, ih]
    | underline letter =>
      simp only [(step_underline letter).1]
      rw [outline_append_of_none (.underline letter) nofun rfl, ih]
    | reset =>
      rw [outline_append_reset, titleCount_nil]
      simp [step]

/-- A counter of items is one ahead of the items counted. -/
theorem items_run (steps : List Step) {d : Nat} (hd : d < titleDepths) :
    (run steps).items[d] = 1 + itemCount steps d := by
  induction steps using List.reverseRecOn with
  | nil => simp [run, itemCount, sinceReset]
  | append_singleton steps s ih =>
    simp only [run_append_singleton]
    cases s with
    | title level =>
      by_cases h : level < titleDepths
      · simp only [step_title_of_lt h]
        rw [items_enterTitle _ hd, itemCount_append_title]
        -- a title starts the items below it over, and no others
        by_cases habove : level < d
        · rw [if_pos habove, if_pos habove]
        · rw [if_neg habove, if_neg habove, ih]
      · have hrefused := Nat.le_of_not_lt h
        have habove : ¬level < d := fun hlt => h (Nat.lt_trans hlt hd)
        simp only [step_title_of_le hrefused]
        rw [itemCount_append_title, if_neg habove, ih]
    | item level =>
      rw [itemCount_append_item, ← Nat.add_assoc, ← ih]
      by_cases h : level < titleDepths
      · simp only [step_item_of_lt h]
        by_cases heq : level = d
        · simp [heq]
        · simp [heq, Vector.getElem_set_ne]
      · have hne : level ≠ d := fun e => h (e ▸ hd)
        simp only [step_item_of_le (Nat.le_of_not_lt h)]
        rw [if_neg hne, Nat.add_zero]
    | underline letter =>
      simp only [(step_underline letter).2]
      rw [itemCount_append_underline, ih]
    | reset =>
      rw [itemCount_append_reset]
      simp [step]

/-! ## Numbers after a run

A number is made of counters, so it can be told from the outline as soon as these can. A title is counted
in its own number; an item is numbered by those before it. -/

/-- What a title of a level is numbered after some calls. -/
def titleAfter (steps : List Step) (level : Nat) : Except Fault TitleNumber :=
  (Call.run (createTitle level) (run steps)).1

/-- What an item at a level is numbered after some calls. -/
def itemAfter (steps : List Step) (level : Nat) : Except Fault Nat :=
  (Call.run (getNumber level) (run steps)).1

/-- The number of a title lists the counters down to its depth. -/
theorem titleNumber_eq {f : Nat → Nat}
    (h : ∀ d, (hd : d < titleDepths) → d ≠ 0 → n.titles[d] = f d)
    (depth : Fin titleDepths) : n.titleNumber depth = ⟨(List.range' 1 depth).map f⟩ := by
  have hdepth := depth.isLt
  rw [titleNumber, TitleNumber.mk.injEq]
  have hlength : ((n.titles.toList.take (depth + 1)).drop 1).length =
      ((List.range' 1 depth).map f).length := by
    rw [List.length_drop, List.length_take, Vector.length_toList, List.length_map, List.length_range']
    omega
  refine List.ext_getElem hlength fun i hi _ => ?_
  have hlt : i + 1 < titleDepths := by
    simp only [List.length_drop, List.length_take, Vector.length_toList] at hi
    omega
  have hcounter := h (i + 1) hlt (Nat.succ_ne_zero i)
  simpa [Nat.add_comm 1 i] using hcounter

/-- A title is numbered by the outline that it ends. -/
theorem titleAfter_eq (steps : List Step) (level : Nat) :
    titleAfter steps level =
      if level < titleDepths then .ok (.ofOutline (outline steps ++ [level]))
      else .error (depthFault level) := by
  rw [titleAfter, run_createTitle]
  by_cases h : level < titleDepths
  · rw [dif_pos h, if_pos h, TitleNumber.ofOutline, List.getLastD_concat]
    refine congrArg Except.ok (titleNumber_eq (fun d hd hroot => ?_) ⟨level, h⟩)
    exact titles_enterTitle_of_eq hd hroot (titles_run steps hd hroot) ⟨level, h⟩
  · rw [dif_neg h, if_neg h]

theorem itemAfter_eq (steps : List Step) (level : Nat) :
    itemAfter steps level =
      if level < titleDepths then .ok (1 + itemCount steps level) else .error (depthFault level) := by
  rw [itemAfter, run_getNumber]
  by_cases h : level < titleDepths
  · rw [dif_pos h, if_pos h]
    exact congrArg Except.ok (items_run steps h)
  · rw [dif_neg h, if_neg h]

/-! ## What the numbers depend on

Calls of another kind can be left out of a run without a change to the numbers of titles, and so can, for
the items at a depth, the titles that do not stand above it. -/

/-- Items and underlines are not part of an outline. -/
theorem outline_filter (steps : List Step) : outline (steps.filter Step.isOutline) = outline steps := by
  induction steps using List.reverseRecOn with
  | nil => rfl
  | append_singleton steps s ih =>
    rw [List.filter_append]
    cases s with
    | title level =>
      by_cases h : level < titleDepths
      · rw [outline_append_title_of_lt h, ← ih]
        exact outline_append_title_of_lt h
      · have hrefused := Nat.le_of_not_lt h
        rw [outline_append_title_of_le hrefused, ← ih]
        exact outline_append_title_of_le hrefused
    -- items and underlines are filtered out, and are entered nowhere
    | item level =>
      rw [outline_append_of_none (.item level) nofun rfl, ← ih]
      exact congrArg outline (List.append_nil _)
    | underline letter =>
      rw [outline_append_of_none (.underline letter) nofun rfl, ← ih]
      exact congrArg outline (List.append_nil _)
    | reset =>
      rw [outline_append_reset]
      exact outline_append_reset _

/-- The items at a depth are counted without regard to the titles that are not above it. -/
theorem itemCount_filter (steps : List Step) (depth : Nat) :
    itemCount (steps.filter (Step.concernsItems depth)) depth = itemCount steps depth := by
  induction steps using List.reverseRecOn with
  | nil => rfl
  | append_singleton steps s ih =>
    rw [List.filter_append, List.filter_singleton]
    cases s with
    | title level =>
      by_cases h : level < depth
      · simp [Step.concernsItems, h, itemCount_append_title]
      · simp [Step.concernsItems, h, itemCount_append_title, ih]
    | item level =>
      by_cases h : level = depth
      · simp [Step.concernsItems, h, itemCount_append_item, ih]
      · simp [Step.concernsItems, h, itemCount_append_item, ih]
    | underline letter => simp [Step.concernsItems, ih]
    | reset => simp [Step.concernsItems]

/-! ## How large the numbers are

No call moves a counter by more than one, so a counter is at most the number of calls. -/

/-- A title moves no counter by more than one. -/
theorem titleCount_le_length (levels : List Nat) (depth : Nat) :
    titleCount levels depth ≤ levels.length := by
  induction levels using List.reverseRecOn with
  | nil => exact Nat.le_refl 0
  | append_singleton levels level ih =>
    rw [List.length_append, List.length_singleton]
    rcases Nat.lt_trichotomy level depth with habove | rfl | hbelow
    · rw [titleCount_append_of_lt habove]
      omega
    · rw [titleCount_append_self]
      omega
    · rw [titleCount_append_of_gt hbelow]
      omega

theorem length_sinceReset_le (steps : List Step) : (sinceReset steps).length ≤ steps.length :=
  (List.rtakeWhile_suffix _ _).length_le

/-- An outline has at most as many titles as there were calls. -/
theorem length_outline_le (steps : List Step) : (outline steps).length ≤ steps.length :=
  (List.length_filterMap_le _ _).trans (length_sinceReset_le steps)

/-- At most as many items are counted as there were calls. -/
theorem itemCount_le_length (steps : List Step) (depth : Nat) :
    itemCount steps depth ≤ steps.length := by
  have hpart := (List.rtakeWhile_suffix (!·.isTitleAbove depth) (sinceReset steps)).length_le
  exact List.count_le_length.trans (hpart.trans (length_sinceReset_le steps))

/-- **Numbers are a function of the outline.** After any calls, a title lists one counter for each depth
from 1 to its own. The counter of a depth comes to the titles at that depth behind the last title above
it, this one included, and to one more if the first of the titles there is deeper. An item is one ahead of
the items counted at its depth behind the last title above it. Calls that are refused, and calls before
the counters last started over, do not count. So a title is numbered as if nothing but titles had been
there, and an item as if no titles had been there but those above it; and no counter exceeds the number
of calls, so that it fits into a word as long as that number does. -/
theorem numbers_of_outline (steps : List Step) (level : Nat) :
    (titleAfter steps level =
      if level < titleDepths then
        .ok ⟨(List.range' 1 level).map (titleCount (outline steps ++ [level]))⟩
      else .error (depthFault level)) ∧
    (itemAfter steps level =
      if level < titleDepths then .ok (1 + itemCount steps level) else .error (depthFault level)) ∧
    titleAfter (steps.filter Step.isOutline) level = titleAfter steps level ∧
    itemAfter (steps.filter (Step.concernsItems level)) level = itemAfter steps level ∧
    (∀ depth, titleCount (outline steps ++ [level]) depth ≤ steps.length + 1) ∧
    1 + itemCount steps level ≤ steps.length + 1 := by
  refine ⟨?_, itemAfter_eq steps level, ?_, ?_, fun depth => ?_, ?_⟩
  · rw [titleAfter_eq, TitleNumber.ofOutline, List.getLastD_concat]
  · rw [titleAfter_eq, titleAfter_eq, outline_filter]
  · rw [itemAfter_eq, itemAfter_eq, itemCount_filter]
  · have hcount := titleCount_le_length (outline steps ++ [level]) depth
    have hlength := length_outline_le steps
    rw [List.length_append, List.length_singleton] at hcount
    omega
  · have hcount := itemCount_le_length steps level
    omega

end Numbering

end Crosslink
