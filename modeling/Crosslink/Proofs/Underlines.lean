import Crosslink.Draft
import Crosslink.Proofs.DependencyOrder
import Crosslink.Proofs.Outline
import Mathlib.Data.List.Nodup

/-!
# Underlines

A title is underlined with a character, and the character tells how deep the title stands. Which one is for
which depth is not agreed on beforehand: a character that has not been seen yet takes the next depth, as long
as there is one left, and keeps it.

* `underlines` are the characters that some calls have asked for, `known` those of them that have got a depth.
  `letters_run` : the counters hold just these.
* `depthAfter` is what the question for a character is answered after some calls, `Asked` says that it was
  put and answered in the course of a run.
* `asked_iff` : whenever a character is asked for, its depth is its place among all the characters that get
  one in the run.
* `underlines_mapped` puts it together.
-/

namespace Crosslink

/-! ## Different elements

The characters that get a depth are the first different ones of all that are asked for. What is needed of
such a list is that it only grows at its end, so that a place in it, once taken, stays. -/

section FirstOnes

variable {α : Type} [DecidableEq α] {all more : List α} {a : α} {bound : Nat}

/-- One more element is among the first different ones if it is new and there is room for it. -/
theorem take_eraseDups_concat (all : List α) (a : α) (bound : Nat) :
    (all ++ [a]).eraseDups.take bound =
      if a ∈ all.eraseDups.take bound ∨ bound ≤ (all.eraseDups.take bound).length then
        all.eraseDups.take bound
      else all.eraseDups.take bound ++ [a] := by
  rw [eraseDups_concat]
  by_cases hfull : bound ≤ all.eraseDups.length
  · have hlength : (all.eraseDups.take bound).length = bound := List.length_take_of_le hfull
    simp only [hlength, le_refl, or_true, if_true]
    split
    · rfl
    · exact List.take_append_of_le_length hfull
  · have hall : all.eraseDups.take bound = all.eraseDups := List.take_of_length_le (by omega)
    simp only [hall, List.mem_eraseDups, hfull, or_false]
    split
    · exact hall
    · refine List.take_of_length_le ?_
      rw [List.length_append, List.length_singleton]
      omega

/-- Later elements do not show in the places of earlier ones among the different ones. -/
theorem idxOf_eraseDups_append (h : a ∈ all) (more : List α) :
    (all ++ more).eraseDups.idxOf a = all.eraseDups.idxOf a := by
  rw [List.eraseDups_append, List.idxOf_append_of_mem (List.mem_eraseDups.mpr h)]

theorem nodup_eraseDups (all : List α) : all.eraseDups.Nodup := by
  induction all using List.reverseRecOn with
  | nil => exact .nil
  | append_singleton all a ih =>
    rw [eraseDups_concat]
    split
    · exact ih
    · rename_i hnew
      rw [List.nodup_append_comm]
      exact List.nodup_cons.mpr ⟨mt List.mem_eraseDups.mp hnew, ih⟩

/-- An element is among the first different ones if its place is. -/
theorem mem_take_eraseDups (h : a ∈ all) :
    a ∈ all.eraseDups.take bound ↔ all.eraseDups.idxOf a < bound :=
  List.mem_take_iff_idxOf_lt (List.mem_eraseDups.mpr h)

theorem idxOf_take (h : a ∈ all.take bound) : (all.take bound).idxOf a = all.idxOf a := by
  conv_rhs => rw [← List.take_append_drop bound all]
  exact (List.idxOf_append_of_mem h).symm

end FirstOnes

namespace Numbering

variable {steps before after more : List Step} {letter : Char} {depth : Nat} {n : Numbering}

/-! ## Questions for depths

What is asked for is read off the calls alone. Refused questions are among them; they come to nothing
because the depths have run out by then. -/

/-- The character that is asked for, if any. -/
def Step.letter? : Step → Option Char
  | .underline letter => some letter
  | .title _ | .item _ | .reset => none

/-- The characters that have been asked for since the counters last started over, in order. -/
def underlines (steps : List Step) : List Char := (sinceReset steps).filterMap Step.letter?

/-- The characters that have a depth, the one of depth 1 first: of the different ones that have been asked
for, the first as far as the depths go. -/
def known (steps : List Step) : List Char := (underlines steps).eraseDups.take 15

/-- What the question for the depth of a character is answered after some calls. -/
def depthAfter (steps : List Step) (letter : Char) : Except Fault Nat :=
  (Call.run (getLevel letter) (run steps)).1

/-- In the course of some calls the depth of a character was asked for, and this was the answer. -/
def Asked (steps : List Step) (letter : Char) (answer : Except Fault Nat) : Prop :=
  ∃ before after, steps = before ++ .underline letter :: after ∧ depthAfter before letter = answer

theorem underlines_append_reset (steps : List Step) : underlines (steps ++ [.reset]) = [] := by
  rw [underlines, sinceReset_append_reset, List.filterMap_nil]

/-- From the front, one call at a time. -/
theorem underlines_append (steps : List Step) (h : .reset ∉ more) :
    underlines (steps ++ more) = underlines steps ++ more.filterMap Step.letter? := by
  induction more generalizing steps with
  | nil => rw [List.append_nil, List.filterMap_nil, List.append_nil]
  | cons s more ih =>
    rw [List.mem_cons, not_or] at h
    have hone : underlines (steps ++ [s]) = underlines steps ++ [s].filterMap Step.letter? := by
      rw [underlines, sinceReset_append steps s (Ne.symm h.1), List.filterMap_append, ← underlines]
    rw [List.append_cons, ih _ h.2, hone, List.append_assoc, ← List.filterMap_append]
    rfl

theorem underlines_of_not_mem (h : .reset ∉ steps) : underlines steps = steps.filterMap Step.letter? :=
  underlines_append [] h

theorem length_known_le (steps : List Step) : (known steps).length ≤ 15 := List.length_take_le _ _

theorem nodup_known (steps : List Step) : (known steps).Nodup :=
  (nodup_eraseDups _).sublist (List.take_sublist _ _)

/-- Only a question can add to the characters that have a depth. -/
theorem known_append_of_none (s : Step) (hs : s ≠ .reset) (h : s.letter? = none) :
    known (steps ++ [s]) = known steps := by
  have hmore : .reset ∉ [s] := by simpa using hs.symm
  rw [known, known, underlines_append steps hmore]
  simp [h]

/-- A new character gets a depth as long as one is left. -/
theorem known_append_underline (steps : List Step) (letter : Char) :
    known (steps ++ [.underline letter]) =
      if letter ∈ known steps ∨ 15 ≤ (known steps).length then known steps
      else known steps ++ [letter] := by
  rw [known, underlines_append steps (by simp)]
  exact take_eraseDups_concat _ _ _

/-! ## Characters of a run

Of all the calls only a question for a depth can change the characters that the counters keep. What it
does to them is what one more question does to the list that has been read off the calls, so the two agree
along every run. -/

theorem letters_step_title (level : Nat) : (n.step (.title level)).letters = n.letters := by
  by_cases h : level < titleDepths
  · rw [step_title_of_lt h]
    rfl
  · rw [step_title_of_le (Nat.le_of_not_lt h)]

theorem letters_step_item (level : Nat) : (n.step (.item level)).letters = n.letters := by
  by_cases h : level < titleDepths
  · rw [step_item_of_lt h]
  · rw [step_item_of_le (Nat.le_of_not_lt h)]

/-- The call by whether the character has a depth, and whether there is one left. -/
theorem run_getLevel_eq (n : Numbering) (letter : Char) :
    Call.run (getLevel letter) n =
      if letter ∈ n.letters then (.ok (n.letters.idxOf letter + 1), n)
      else if 15 ≤ n.letters.length then (.error (depthFault (n.letters.length + 1)), n)
      else (.ok (n.letters.length + 1), { n with letters := n.letters ++ [letter] }) := by
  rw [run_getLevel]
  cases hfound : n.letters.idxOf? letter with
  | some index =>
    have hplace : n.letters.idxOf letter = index := by
      rw [List.idxOf_eq_getD_idxOf?, hfound, Option.getD_some]
    have hmem : letter ∈ n.letters := by
      by_contra hnew
      rw [List.idxOf?_eq_none_iff.mpr hnew] at hfound
      cases hfound
    rw [if_pos hmem, hplace]
  | none =>
    rw [if_neg (List.idxOf?_eq_none_iff.mp hfound)]
    by_cases hfull : 15 ≤ n.letters.length
    · rw [if_pos hfull]
      exact if_neg (Nat.not_lt.mpr (Nat.succ_le_succ hfull))
    · rw [if_neg hfull]
      exact if_pos (Nat.succ_lt_succ (Nat.lt_of_not_le hfull))

theorem letters_step_underline (letter : Char) :
    (n.step (.underline letter)).letters =
      if letter ∈ n.letters ∨ 15 ≤ n.letters.length then n.letters else n.letters ++ [letter] := by
  rw [step, run_getLevel_eq]
  by_cases hmem : letter ∈ n.letters
  · rw [if_pos hmem, if_pos (.inl hmem)]
  · by_cases hfull : 15 ≤ n.letters.length
    · rw [if_neg hmem, if_pos hfull, if_pos (.inr hfull)]
    · rw [if_neg hmem, if_neg hfull, if_neg (not_or.mpr ⟨hmem, hfull⟩)]

/-- The counters hold the characters that have a depth. -/
theorem letters_run (steps : List Step) : (run steps).letters = known steps := by
  -- from the end of the run, where each call meets what the calls before it have left
  induction steps using List.reverseRecOn with
  | nil => rfl
  | append_singleton steps s ih =>
    rw [run_append_singleton]
    cases s with
    | title level => rw [letters_step_title, ih, known_append_of_none (.title level) nofun rfl]
    | item level => rw [letters_step_item, ih, known_append_of_none (.item level) nofun rfl]
    | underline letter => rw [letters_step_underline, ih, known_append_underline]
    | reset =>
      rw [known, underlines_append_reset]
      rfl

/-- A character that is asked for is answered its place among those that have a depth then, and is refused
if it is not among them. -/
theorem depthAfter_eq (steps : List Step) (letter : Char) :
    depthAfter steps letter =
      if letter ∈ known (steps ++ [.underline letter]) then
        .ok ((known (steps ++ [.underline letter])).idxOf letter + 1)
      else .error (depthFault titleDepths) := by
  rw [depthAfter, run_getLevel_eq, letters_run, known_append_underline]
  by_cases hmem : letter ∈ known steps
  · simp only [hmem, true_or, if_true]
  · by_cases hfull : 15 ≤ (known steps).length
    · have hlength : (known steps).length = 15 := Nat.le_antisymm (length_known_le steps) hfull
      simp only [hmem, hlength, le_refl, or_true, if_true, if_false]
    · have hplace : (known steps ++ [letter]).idxOf letter = (known steps).length := by
        rw [List.idxOf_append_of_notMem hmem, List.idxOf_cons_self, Nat.add_zero]
      simp only [hmem, hfull, or_false, if_false, List.mem_append, List.mem_singleton, or_true, if_true,
        hplace]

/-! ## Questions in a run

A question is answered by what has been asked before it. Since a depth stays with its character, the
answer can be read off the whole run as well, and the questions of one run can be compared with each
other. -/

/-- Whenever a character is asked for in a run, it is answered its place among all that get a depth in the
run: a depth that has been given out stays with its character, and one that is given out later was not to be
had before. -/
theorem depthAfter_of_split (hreset : .reset ∉ before ++ .underline letter :: after) :
    depthAfter before letter =
      if letter ∈ known (before ++ .underline letter :: after) then
        .ok ((known (before ++ .underline letter :: after)).idxOf letter + 1)
      else .error (depthFault titleDepths) := by
  have hsplit : before ++ .underline letter :: after = (before ++ [.underline letter]) ++ after := by simp
  rw [hsplit, List.mem_append, not_or] at hreset
  have hseen : letter ∈ underlines (before ++ [.underline letter]) := by
    rw [underlines_append before (by simp)]
    simp [Step.letter?]
  -- what is asked for later stands behind, so the character keeps its place
  have hlater := underlines_append (before ++ [.underline letter]) hreset.2
  have hplace := idxOf_eraseDups_append hseen (after.filterMap Step.letter?)
  have hmem : letter ∈ known (before ++ .underline letter :: after) ↔
      letter ∈ known (before ++ [.underline letter]) := by
    rw [hsplit, known, known, mem_take_eraseDups hseen, hlater,
      mem_take_eraseDups (List.mem_append_left _ hseen), hplace]
  rw [depthAfter_eq]
  by_cases hknown : letter ∈ known (before ++ [.underline letter])
  · have hknown' := hmem.mpr hknown
    rw [if_pos hknown, if_pos hknown']
    rw [hsplit] at hknown' ⊢
    rw [known] at hknown hknown' ⊢
    rw [known, idxOf_take hknown, idxOf_take hknown', hlater, hplace]
  · rw [if_neg hknown, if_neg (mt hmem.mp hknown)]

/-- A character is answered a depth in a run exactly if it is the one of this depth. -/
theorem asked_iff (hreset : .reset ∉ steps) {index : Nat} :
    Asked steps letter (.ok (index + 1)) ↔ (known steps)[index]? = some letter := by
  constructor
  · rintro ⟨before, after, rfl, hanswer⟩
    rw [depthAfter_of_split hreset] at hanswer
    split at hanswer
    · rename_i hmem
      have hindex := Except.ok.inj hanswer
      rw [← Nat.succ.inj hindex]
      exact List.getElem?_idxOf hmem
    · cases hanswer
  · intro hget
    obtain ⟨hlt, rfl⟩ := List.getElem?_eq_some_iff.mp hget
    have hmem : (known steps)[index] ∈ known steps := List.getElem_mem hlt
    have hseen : (known steps)[index] ∈ steps.filterMap Step.letter? := by
      rw [← underlines_of_not_mem hreset]
      exact List.mem_eraseDups.mp (List.mem_of_mem_take hmem)
    obtain ⟨s, hs, hletter⟩ := List.mem_filterMap.mp hseen
    -- a character with a depth was asked for somewhere, and any such place will do
    obtain ⟨before, after, hsplit⟩ := List.append_of_mem hs
    cases s with
    | underline letter =>
      obtain rfl : letter = (known steps)[index] := Option.some.inj hletter
      refine ⟨before, after, hsplit, ?_⟩
      rw [hsplit] at hreset
      rw [depthAfter_of_split hreset, ← hsplit, if_pos hmem, (nodup_known steps).idxOf_getElem]
    | title _ | item _ | reset => cases hletter

/-- No character is answered the depth 0, which is for what has no underline. -/
theorem not_asked_zero : ¬Asked steps letter (.ok 0) := by
  rintro ⟨before, after, -, hanswer⟩
  rw [depthAfter_eq] at hanswer
  split at hanswer
  · exact absurd (Except.ok.inj hanswer) (Nat.succ_ne_zero _)
  · cases hanswer

/-- The depths are given out in the order in which the characters are first seen. -/
theorem asked_iff_seen (hreset : .reset ∉ steps) :
    Asked steps letter (.ok depth) ↔ 1 ≤ depth ∧ depth ≤ 15 ∧
      (steps.filterMap Step.letter?).eraseDups[depth - 1]? = some letter := by
  cases depth with
  | zero => simp [not_asked_zero]
  | succ index =>
    rw [asked_iff hreset, known, underlines_of_not_mem hreset, List.getElem?_take]
    by_cases hindex : index < 15
    · simp [hindex, Nat.succ_le_of_lt hindex]
    · have hle : ¬index + 1 ≤ 15 := fun h => hindex h
      simp [hindex, hle]

/-- A question is refused exactly if the character has no depth and all depths are taken. -/
theorem depthAfter_eq_error_iff {fault : Fault} :
    depthAfter steps letter = .error fault ↔ letter ∉ (run steps).letters ∧
      (run steps).letters.length = 15 ∧ fault = depthFault titleDepths := by
  have hlength := length_known_le steps
  rw [depthAfter, run_getLevel_eq, letters_run]
  by_cases hmem : letter ∈ known steps
  · simp [hmem]
  · by_cases hfull : 15 ≤ (known steps).length
    · have hall : (known steps).length = 15 := Nat.le_antisymm hlength hfull
      simp [hmem, hall, eq_comm]
    · have hroom : (known steps).length ≠ 15 := fun e => hfull e.ge
      simp [hmem, hfull, hroom]

/-- A question that is refused leaves no trace. -/
theorem step_underline_of_refused {fault : Fault}
    (h : (Call.run (getLevel letter) n).1 = .error fault) : n.step (.underline letter) = n := by
  rw [step]
  rw [run_getLevel_eq] at h ⊢
  split at h
  · cases h
  · rename_i hmem
    split at h
    · rename_i hfull
      rw [if_neg hmem, if_pos hfull]
    · cases h

/-- Every depth that a character is answered is one that a title may have. -/
theorem lt_of_asked (hreset : .reset ∉ steps) (h : Asked steps letter (.ok depth)) :
    depth < titleDepths := by
  cases depth with
  | zero => exact absurd h not_asked_zero
  | succ index =>
    obtain ⟨hlt, -⟩ := List.getElem?_eq_some_iff.mp ((asked_iff hreset).mp h)
    exact Nat.succ_lt_succ (Nat.lt_of_lt_of_le hlt (length_known_le steps))

/-- No depth is answered for two characters, and none of them is answered two depths. -/
theorem depth_eq_iff_of_asked {letter' : Char} {depth' : Nat} (hreset : .reset ∉ steps)
    (h : Asked steps letter (.ok depth)) (h' : Asked steps letter' (.ok depth')) :
    depth = depth' ↔ letter = letter' := by
  obtain ⟨hdepth, -, hget⟩ := (asked_iff_seen hreset).mp h
  obtain ⟨hdepth', -, hget'⟩ := (asked_iff_seen hreset).mp h'
  constructor
  · rintro rfl
    exact Option.some.inj (hget.symm.trans hget')
  · rintro rfl
    obtain ⟨hlt, -⟩ := List.getElem?_eq_some_iff.mp hget
    have hindex := (List.getElem?_inj hlt (nodup_eraseDups _)).mp (hget.trans hget'.symm)
    omega

/-- The depths that are answered are the first ones, as many as there are different characters, but no more
than 15. -/
theorem exists_asked_iff (hreset : .reset ∉ steps) :
    (∃ letter, Asked steps letter (.ok depth)) ↔
      1 ≤ depth ∧ depth ≤ min 15 (steps.filterMap Step.letter?).eraseDups.length := by
  constructor
  · rintro ⟨letter, h⟩
    obtain ⟨hdepth, hle, hget⟩ := (asked_iff_seen hreset).mp h
    obtain ⟨hlt, -⟩ := List.getElem?_eq_some_iff.mp hget
    exact ⟨hdepth, Nat.le_min.mpr ⟨hle, Nat.le_of_pred_lt hlt⟩⟩
  · rintro ⟨hdepth, hle⟩
    obtain ⟨hle, hlength⟩ := Nat.le_min.mp hle
    have hlt : depth - 1 < (steps.filterMap Step.letter?).eraseDups.length := by omega
    exact ⟨_, (asked_iff_seen hreset).mpr ⟨hdepth, hle, List.getElem?_eq_getElem hlt⟩⟩

/-- **Underlines are mapped to depths, one to one.** In a run of calls in which the counters do not start
over, let the depths of characters be asked for. Two answers are the same depth exactly if they are about the
same character. The depths that are answered are those from 1 up to the number of different characters, but
to no more than 15, and they are given out in the order in which the characters are first seen. The counters
hold the characters that have a depth. A question is refused exactly if the character has none and 15 have
one, and then it changes nothing. And whatever depth is answered, a title of that depth can be numbered and
recorded, whatever happens before. -/
theorem underlines_mapped (steps : List Step) (hreset : .reset ∉ steps) :
    let seen := steps.filterMap Step.letter?
    (∀ letter letter' depth depth', Asked steps letter (.ok depth) → Asked steps letter' (.ok depth') →
      (depth = depth' ↔ letter = letter')) ∧
    (∀ depth, (∃ letter, Asked steps letter (.ok depth)) ↔
      1 ≤ depth ∧ depth ≤ min 15 seen.eraseDups.length) ∧
    (∀ letter depth, Asked steps letter (.ok depth) ↔
      1 ≤ depth ∧ depth ≤ 15 ∧ seen.eraseDups[depth - 1]? = some letter) ∧
    (∀ before letter after, steps = before ++ .underline letter :: after →
      let n := run before
      n.letters = (before.filterMap Step.letter?).eraseDups.take 15 ∧
      (∀ fault, depthAfter before letter = .error fault ↔
        letter ∉ n.letters ∧ n.letters.length = 15 ∧ fault = depthFault 16) ∧
      ∀ fault, depthAfter before letter = .error fault → n.step (.underline letter) = n) ∧
    ∀ letter depth, Asked steps letter (.ok depth) →
      (∀ n : Numbering, ∃ number, (Call.run (createTitle depth) n).1 = .ok number) ∧
      ∀ (d : Draft) (text : String), ∃ heading,
        (Call.run (Draft.recordTitle depth text) d).1 = .ok heading := by
  intro seen
  refine ⟨fun letter letter' depth depth' h h' => depth_eq_iff_of_asked hreset h h',
    fun depth => exists_asked_iff hreset, fun letter depth => asked_iff_seen hreset,
    fun before letter after hsplit => ⟨?_, fun fault => depthAfter_eq_error_iff,
      fun fault hfault => step_underline_of_refused hfault⟩,
    fun letter depth h => ⟨fun n => ?_, fun d text => ?_⟩⟩
  · rw [hsplit, List.mem_append, not_or] at hreset
    rw [letters_run, known, underlines_of_not_mem hreset.1]
  · rw [run_createTitle, dif_pos (lt_of_asked hreset h)]
    exact ⟨_, rfl⟩
  · rw [Draft.run_recordTitle, dif_pos (lt_of_asked hreset h)]
    exact ⟨_, rfl⟩

/-- Fifteen characters take all the depths; the next one is refused, and the others keep theirs. -/
theorem underlines_mapped_exhausted :
    let before : List Step := "=-`:~^_*+#<>!%&".toList.map .underline ++ [.title 3, .item 2]
    let steps := before ++ [.underline '.', .underline '-']
    .reset ∉ steps ∧ Asked steps '=' (.ok 1) ∧ Asked steps '&' (.ok 15) ∧
      (∀ depth, ¬Asked steps '.' (.ok depth)) ∧ depthAfter before '.' = .error (depthFault 16) ∧
      (run before).step (.underline '.') = run before ∧
      ∃ number, (Call.run (createTitle 15) (run steps)).1 = .ok number := by
  intro before steps
  have hreset : .reset ∉ steps := by decide +kernel
  obtain ⟨-, -, hplace, hrefused, haccepted⟩ := underlines_mapped steps hreset
  obtain ⟨-, hfault, htrace⟩ := hrefused before '.' [.underline '-'] rfl
  have hlast : Asked steps '&' (.ok 15) := (hplace _ _).mpr (by decide +kernel)
  have hdot : depthAfter before '.' = .error (depthFault 16) := (hfault _).mpr (by decide +kernel)
  refine ⟨hreset, (hplace _ _).mpr (by decide +kernel), hlast, fun depth h => ?_, hdot,
    htrace _ hdot, (haccepted _ _ hlast).1 _⟩
  obtain ⟨-, hle, hget⟩ := (hplace _ _).mp h
  have hnone : ∀ index < 15, (steps.filterMap Step.letter?).eraseDups[index]? ≠ some '.' := by
    decide +kernel
  exact hnone (depth - 1) (by omega) hget

end Numbering

end Crosslink
