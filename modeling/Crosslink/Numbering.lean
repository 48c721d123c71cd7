import Crosslink.Call

/-!
# Numbering

The titles of a document are numbered like an outline: one counter for each depth, written with dots in
between. Figures, footnotes and the like have counters of their own at the same depths, and both start
over below every new title. The characters that underline titles are given depths in the order in which
they turn up.

* `createTitle` numbers a title, `getNumber` counts an item, `getLevel` finds the depth of an underline.
* `TitleNumber.numbering` and `TitleNumber.token` write a number down.
* A call is refused at a depth that is out of range, and then changes nothing: `run_createTitle`,
  `run_getNumber`, `run_getLevel`.
-/

namespace Crosslink

/-- The number of depths, from 0 up. -/
abbrev titleDepths : Nat := 16

/-- The number of a title: the counters of the depths from 1 to its own. -/
structure TitleNumber where
  /-- one counter for each depth -/
  counters : List Nat
  deriving DecidableEq, Repr

namespace TitleNumber

/-- The depth of the title. -/
def level (number : TitleNumber) : Nat := number.counters.length

/-- The counters with dots in between. -/
def numbering (number : TitleNumber) : String :=
  ".".intercalate (number.counters.map toString)

/-- The number as an anchor: the counters behind the word `title`. -/
def token (number : TitleNumber) : String :=
  ".".intercalate ("title" :: number.counters.map toString)

end TitleNumber

/-- The counters of a document. -/
structure Numbering where
  /-- the number of the last title at each depth, 0 where there is none yet -/
  titles : Vector Nat titleDepths := Vector.replicate titleDepths 0
  /-- the number of the next item at each depth -/
  items : Vector Nat titleDepths := Vector.replicate titleDepths 1
  /-- the underlines, the one of depth 1 first -/
  letters : List Char := []
  /-- the depth of the last title -/
  level : Nat := 0
  deriving DecidableEq, Repr

namespace Numbering

/-- The fault of a depth that is out of range. -/
def depthFault (level : Nat) : Fault :=
  .outOfRange s!"numbering depth {level} (expected 0..{titleDepths})"

/-- Refuses a depth that is out of range. -/
def checkDepth {σ : Type} (level : Nat) : Call σ (Fin titleDepths) :=
  if h : level < titleDepths then pure ⟨level, h⟩
  else throw (depthFault level)

/-- The counters behind a new title: every counter below it starts over, a depth above it that has no
title yet is counted as opened, and its own counter moves on. -/
def enterTitle (n : Numbering) (depth : Fin titleDepths) : Numbering :=
  { n with
    titles := Vector.ofFn fun d =>
      if depth < d then 0
      else if d = depth then n.titles[d] + 1
      else if d ≠ 0 ∧ n.titles[d] = 0 then 1
      else n.titles[d]
    items := Vector.ofFn fun d => if depth < d then 1 else n.items[d]
    level := depth }

/-- The number of the last title at a depth: the counters from depth 1 down to it. -/
def titleNumber (n : Numbering) (depth : Fin titleDepths) : TitleNumber :=
  ⟨(n.titles.toList.take (depth + 1)).drop 1⟩

/-- Numbers a new title. -/
def createTitle (level : Nat) : Call Numbering TitleNumber := do
  let depth ← checkDepth level
  modify (·.enterTitle depth)
  return (← get).titleNumber depth

/-- Counts an item: its number is the counter's, which then moves on. -/
def getNumber (level : Nat) : Call Numbering Nat := do
  let depth ← checkDepth level
  let n ← get
  set { n with items := n.items.set depth (n.items[depth] + 1) }
  return n.items[depth]

/-- The depth of an underline, the next free one if the character is new. -/
def getLevel (letter : Char) : Call Numbering Nat := do
  let n ← get
  match n.letters.idxOf? letter with
  | some index => return index + 1
  | none =>
    let depth ← checkDepth (n.letters.length + 1)
    set { n with letters := n.letters ++ [letter] }
    return depth

/-! ## What the calls do

Each call as a case distinction on its depth, with its answer and with what it leaves. All that is proved
of the counters starts from here, so that a call is opened in one place. -/

theorem run_checkDepth {σ : Type} (level : Nat) (s : σ) :
    (checkDepth level).run s =
      if h : level < titleDepths then (.ok ⟨level, h⟩, s) else (.error (depthFault level), s) := by
  unfold checkDepth
  split <;> rfl

/-- A title of an allowed depth is answered its number, and the counters are those behind it. -/
theorem run_createTitle (n : Numbering) (level : Nat) :
    (createTitle level).run n =
      if h : level < titleDepths then
        (.ok ((n.enterTitle ⟨level, h⟩).titleNumber ⟨level, h⟩), n.enterTitle ⟨level, h⟩)
      else (.error (depthFault level), n) := by
  rw [createTitle, Call.run_bind, run_checkDepth]
  by_cases h : level < titleDepths
  · simp only [h, ↓reduceDIte]
    rfl
  · simp only [h, ↓reduceDIte]

/-- An item of an allowed depth is answered the counter of that depth, which then moves on. -/
theorem run_getNumber (n : Numbering) (level : Nat) :
    (getNumber level).run n =
      if h : level < titleDepths then
        (.ok n.items[level], { n with items := n.items.set level (n.items[level] + 1) })
      else (.error (depthFault level), n) := by
  rw [getNumber, Call.run_bind, run_checkDepth]
  by_cases h : level < titleDepths
  · simp only [h, ↓reduceDIte]
    rfl
  · simp only [h, ↓reduceDIte]

/-- A character that is known is answered its place. A new one is given the next depth, or refused when
there is none left. -/
theorem run_getLevel (n : Numbering) (letter : Char) :
    (getLevel letter).run n =
      match n.letters.idxOf? letter with
      | some index => (.ok (index + 1), n)
      | none =>
        if n.letters.length + 1 < titleDepths then
          (.ok (n.letters.length + 1), { n with letters := n.letters ++ [letter] })
        else (.error (depthFault (n.letters.length + 1)), n) := by
  rw [getLevel, Call.run_bind, Call.run_get]
  simp only []
  cases hfound : n.letters.idxOf? letter with
  | some index => rfl
  | none =>
    simp only [Call.run_bind, run_checkDepth]
    by_cases h : n.letters.length + 1 < titleDepths
    · simp only [h, ↓reduceDIte, ↓reduceIte]
      rfl
    · simp only [h, ↓reduceDIte, ↓reduceIte]

end Numbering

end Crosslink
