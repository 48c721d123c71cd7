import Crosslink.Proofs.LabelReferences
import Crosslink.Proofs.Underlines

/-!
# Refused calls

Seven of the calls of a pass can be refused: a depth may be out of range, a path may spell no document, a kind
of reference may have no resolver. A caller may go on after that, and then it must not matter that the call was
made. It does not: whatever a call checks it checks before it writes.

* `Operation.call` is a call of a pass with its answer, of which only the refusal is kept, and
  `Operation.fault?` tells from what the call finds with which fault it is refused, if it is.
* `Call.Checked` says that a call is refused with a given fault and then leaves what it has found, or is not
  refused. It is shown of the parts of a call and handed on to the whole: `Operation.checked_call`.
* `Pass.Reachable` are the passes that can come about. Their counters have been reached by calls on the
  counters: `Pass.Reachable.exists_run`.
* `refused_calls` says when calls are refused, and that nothing changes then.
-/

namespace Crosslink

/-! ## Calls that check before they write

A call that is refused may have changed its state on the way. `Checked` says that it has not, and says at
once for which fault it is refused; the two are proved together, since both are read off the same branch.
It is handed on from a call on a part to the call on the whole. -/

namespace Call

variable {σ τ α : Type} {call : Call σ α} {s : σ} {check : Option Fault} {fault : Fault}

@[simp]
theorem run_discard (call : Call σ α) (s : σ) :
    run (discard call) s = ((run call s).1.map fun _ => (), (run call s).2) := by
  have hbind : discard call = call >>= fun _ => pure () := rfl
  rw [hbind, run_bind]
  rcases run call s with ⟨answer, s'⟩
  cases answer <;> rfl

/-- A call is refused with a fault and leaves the state as it was, or there is no fault and it is answered. -/
inductive Checked (call : Call σ α) (s : σ) : Option Fault → Prop where
  | refused {fault : Fault} (h : run call s = (.error fault, s)) : Checked call s (some fault)
  | answered {answer : α} {s' : σ} (h : run call s = (.ok answer, s')) : Checked call s none

namespace Checked

/-- A checked call is refused exactly with the fault that it is checked for. -/
theorem refused_iff (h : Checked call s check) : (run call s).1 = .error fault ↔ check = some fault := by
  cases h with
  | refused h => simp [h]
  | answered h => simp [h]

/-- A refused call leaves no trace. -/
theorem eq_of_refused (h : Checked call s check) (hfault : (run call s).1 = .error fault) :
    (run call s).2 = s := by
  cases h with
  | refused h => rw [h]
  | answered h =>
    rw [h] at hfault
    cases hfault

theorem modify (f : σ → σ) : Checked (modify f : Call σ Unit) s none := .answered (run_modify f s)

/-- A call that does not hand on its answer hands on its refusal. -/
theorem discard (h : Checked call s check) : Checked (discard call) s check := by
  have hrun := run_discard call s
  cases h with
  | refused h =>
    rw [h] at hrun
    exact .refused hrun
  | answered h =>
    rw [h] at hrun
    exact .answered hrun

/-- A call on a part writes back what it has found if it is refused. -/
theorem on {part : σ → τ} {withPart : σ → τ → σ} {call : Call τ α} (h : Checked call (part s) check)
    (hpart : withPart s (part s) = s) : Checked (on part withPart call) s check := by
  cases h with
  | refused h => exact .refused (by rw [run_on, h, hpart])
  | answered h => exact .answered (by rw [run_on, h])

end Checked

end Call

open Call (Checked)

/-! ## The parts of a pass

Each call is looked at where it is defined, with the one thing that it asks for: a depth, an underline, a
path, a kind. -/

namespace Numbering

variable {n : Numbering}

/-- The fault of a depth, if it is out of range. -/
def depthFault? (level : Nat) : Option Fault :=
  if level < titleDepths then none else some (depthFault level)

/-- A call that asks for a depth and for nothing else. -/
theorem checked_of_depth {σ α : Type} {call : Call σ α} {s : σ} {level : Nat}
    (hlt : level < titleDepths → ∃ answer s', Call.run call s = (.ok answer, s'))
    (hnlt : ¬level < titleDepths → Call.run call s = (.error (depthFault level), s)) :
    Checked call s (depthFault? level) := by
  rw [depthFault?]
  split
  · rename_i h
    obtain ⟨answer, s', hrun⟩ := hlt h
    exact .answered hrun
  · rename_i h
    exact .refused (hnlt h)

theorem checked_createTitle (level : Nat) : Checked (createTitle level) n (depthFault? level) :=
  checked_of_depth (fun h => ⟨_, _, by rw [run_createTitle, dif_pos h]⟩)
    fun h => by rw [run_createTitle, dif_neg h]

theorem checked_getNumber (level : Nat) : Checked (getNumber level) n (depthFault? level) :=
  checked_of_depth (fun h => ⟨_, _, by rw [run_getNumber, dif_pos h]⟩)
    fun h => by rw [run_getNumber, dif_neg h]

/-- The fault of an underline, if it is a new one and there is no depth left for it. -/
def letterFault? (n : Numbering) (letter : Char) : Option Fault :=
  if letter ∉ n.letters ∧ n.letters.length = 15 then some (depthFault titleDepths) else none

/-- An underline asks for a letter that is known, or for a depth that is left. The bound on the letters is
what makes the next depth one that can be given. -/
theorem checked_getLevel (h : n.letters.length ≤ 15) (letter : Char) :
    Checked (getLevel letter) n (n.letterFault? letter) := by
  have hrun := run_getLevel_eq n letter
  by_cases hmem : letter ∈ n.letters
  · rw [letterFault?, if_neg (fun hnew => hnew.1 hmem)]
    rw [if_pos hmem] at hrun
    exact .answered hrun
  · by_cases hfull : 15 ≤ n.letters.length
    · have hlength : n.letters.length = 15 := Nat.le_antisymm h hfull
      rw [letterFault?, if_pos ⟨hmem, hlength⟩]
      rw [if_neg hmem, if_pos hfull, hlength] at hrun
      exact .refused hrun
    · rw [letterFault?, if_neg (fun hnew => hfull hnew.2.ge)]
      rw [if_neg hmem, if_neg hfull] at hrun
      exact .answered hrun

end Numbering

namespace Draft

variable {d : Draft}

theorem checked_onNumbering {α : Type} {call : Call Numbering α} {check : Option Fault}
    (h : Checked call d.numbering check) : Checked (onNumbering call) d check :=
  h.on rfl

/-- A recorded title asks for a depth, and is put down only when it has its number. -/
theorem checked_recordTitle (level : Nat) (text : String) :
    Checked (recordTitle level text) d (Numbering.depthFault? level) :=
  Numbering.checked_of_depth (fun h => ⟨_, _, by rw [run_recordTitle, dif_pos h]⟩)
    fun h => by rw [run_recordTitle, dif_neg h]

/-- The fault of a path, if it spells no document. -/
def pathFault? (d : Draft) (path : String) : Option Fault :=
  if d.location.canonical? path = none then some (.noCanonicalUrl path) else none

theorem checked_addDependency (path : String) (isPending : Bool) :
    Checked (addDependency path isPending) d (d.pathFault? path) := by
  have hrun := d.run_addDependency path isPending
  cases hname : d.location.canonical? path with
  | none =>
    rw [pathFault?, if_pos hname]
    rw [hname] at hrun
    exact .refused hrun
  | some name =>
    rw [pathFault?, if_neg (by simp [hname])]
    rw [hname] at hrun
    exact .answered hrun

end Draft

namespace Pass

variable {p : Pass} {role target : String}

/-- A call on the draft is checked as the draft is. -/
theorem checked_onDraft {α : Type} {call : Call Draft α} {check : Option Fault}
    (h : Checked call p.draft check) : Checked (onDraft call) p check :=
  h.on rfl

/-- A note is refused only by the documents, and for the path as it is without the space around it. -/
theorem checked_found (role target : String) :
    Checked (found .standard role target) p
      (if role = "doc" then p.draft.pathFault? (Text.trim target) else none) := by
  by_cases hdoc : role = "doc"
  · subst hdoc
    have hrun : Call.run (found .standard "doc" target) p = _ := run_found_doc
    rw [if_pos rfl, Draft.pathFault?, Location.canonical?_trim]
    cases hname : p.draft.location.canonical? target with
    | none =>
      rw [mention, hname] at hrun
      rw [if_pos rfl]
      exact .refused hrun
    | some name =>
      rw [hname] at hrun
      rw [if_neg (Option.some_ne_none name)]
      exact .answered hrun
  · rw [if_neg hdoc]
    by_cases href : role = "ref"
    · subst href
      exact .answered run_found_ref
    · exact .answered (run_found_of_none (Registry.standard_of_ne hdoc href))

/-- A resolution is refused only for its kind. -/
theorem checked_resolve (role target : String) :
    Checked (resolve .standard role target) p
      (if Registry.standard.contains role then none else some (.unknownRole role)) := by
  rw [Table.contains]
  cases hresolver : Registry.standard.get? role with
  | none => exact .refused (run_resolve_of_none hresolver)
  | some resolver => exact .answered (run_resolve hresolver)

@[simp]
theorem numbering_mention : (p.mention target).draft.numbering = p.draft.numbering := by
  unfold mention
  split <;> rfl

@[simp]
theorem numbering_takeDown (link : BrokenLink) (answer : Option Reference) :
    (p.takeDown link answer).draft.numbering = p.draft.numbering := by
  cases answer <;> rfl

@[simp]
theorem numbering_mapDependencies (f : List Dependency → List Dependency) :
    (p.mapDependencies f).draft.numbering = p.draft.numbering := rfl

end Pass

/-! ## The calls of a pass

All calls in one table, with their faults. What a call checks depends on the pass only through its
counters and through where the document stands. -/

namespace Operation

/-- A call of a pass, with given kinds of reference. Of what it answers only the refusal is kept. -/
def call (registry : Registry) : Operation → Call Pass Unit
  | report diagnostic => modify (·.report diagnostic)
  | createTitle level => discard (Pass.onDraft (Draft.createTitle level))
  | getNumber level => discard (Pass.onDraft (Draft.getNumber level))
  | getLevel letter => discard (Pass.onDraft (Draft.getLevel letter))
  | recordTitle level text => discard (Pass.onDraft (Draft.recordTitle level text))
  | resetNumbering => modify fun p => { p with draft := p.draft.resetNumbering }
  | addAnchor label => modify fun p => { p with draft := p.draft.addAnchor label }
  | setLink name url => modify (·.setLink name url)
  | enqueueAnonymous name => modify fun p => { p with draft := p.draft.enqueueAnonymous name }
  | resetAnonymous => modify fun p => { p with draft := p.draft.resetAnonymous }
  | setUrl url => modify fun p => { p with draft := p.draft.setUrl url }
  | setVariable name value => modify fun p => { p with draft := p.draft.setVariable name value }
  | addDependency path isPending => Pass.onDraft (Draft.addDependency path isPending)
  | found role target => Pass.found registry role target
  | resolve role target => discard (Pass.resolve registry role target)
  | publish => modify Pass.publish

/-- A call is refused with a fault. -/
def Refused (operation : Operation) (p : Pass) (fault : Fault) : Prop :=
  (Call.run (operation.call .standard) p).1 = .error fault

/-- The fault that a call is refused with, if it is. -/
def fault? (p : Pass) : Operation → Option Fault
  | createTitle level | getNumber level | recordTitle level _ => Numbering.depthFault? level
  | getLevel letter => p.draft.numbering.letterFault? letter
  | addDependency path _ => p.draft.pathFault? path
  | found role target => if role = "doc" then p.draft.pathFault? (Text.trim target) else none
  | resolve role _ => if Registry.standard.contains role then none else some (.unknownRole role)
  | report _ | resetNumbering | addAnchor _ | setLink .. | enqueueAnonymous _ | resetAnonymous
  | setUrl _ | setVariable .. | publish => none

variable {p : Pass}

/-- What a call leaves. -/
theorem take_eq (p : Pass) (operation : Operation) :
    operation.take p = (Call.run (operation.call .standard) p).2 := by
  cases operation with
  | createTitle | getNumber | getLevel | recordTitle | resolve => rw [call, Call.run_discard, take]
  | _ => rfl

/-- Every call of a pass is refused with its fault and no trace, or it is answered. -/
theorem checked_call (h : p.draft.numbering.letters.length ≤ 15) (operation : Operation) :
    Checked (operation.call .standard) p (operation.fault? p) := by
  cases operation with
  | createTitle level =>
    exact (Pass.checked_onDraft (Draft.checked_onNumbering (Numbering.checked_createTitle level))).discard
  | getNumber level =>
    exact (Pass.checked_onDraft (Draft.checked_onNumbering (Numbering.checked_getNumber level))).discard
  | getLevel letter =>
    exact (Pass.checked_onDraft (Draft.checked_onNumbering (Numbering.checked_getLevel h letter))).discard
  | recordTitle level text =>
    exact (Pass.checked_onDraft (Draft.checked_recordTitle level text)).discard
  | addDependency path isPending =>
    exact Pass.checked_onDraft (Draft.checked_addDependency path isPending)
  | found role target => exact Pass.checked_found role target
  | resolve role target => exact (Pass.checked_resolve role target).discard
  | _ => exact Checked.modify _

/-- A call of a pass makes at most one call on the counters of the document. -/
theorem numbering_take (p : Pass) (operation : Operation) :
    (operation.take p).draft.numbering = p.draft.numbering ∨
      ∃ s, (operation.take p).draft.numbering = p.draft.numbering.step s := by
  cases operation with
  -- the calls of the numbering are its steps, and a recorded title is one of them
  | createTitle level => exact .inr ⟨.title level, rfl⟩
  | getNumber level => exact .inr ⟨.item level, rfl⟩
  | getLevel letter => exact .inr ⟨.underline letter, rfl⟩
  | resetNumbering => exact .inr ⟨.reset, rfl⟩
  | recordTitle level text =>
    refine .inr ⟨.title level, ?_⟩
    rw [take, Pass.onDraft, Call.run_on, Draft.run_recordTitle, Numbering.step, Numbering.run_createTitle]
    split <;> rfl
  | addAnchor label =>
    rw [take, Draft.addAnchor]
    split
    · exact .inl rfl
    · split <;> exact .inl rfl
  | setLink name url =>
    rw [take, Pass.setLink]
    split <;> exact .inl rfl
  | addDependency path isPending =>
    rw [take, Pass.onDraft, Call.run_on, Draft.run_addDependency]
    split <;> exact .inl rfl
  -- neither half of a reference touches the counters
  | found role target =>
    obtain ⟨_, hfound⟩ | hfound | ⟨-, hfound⟩ := p.run_found_cases role target
    all_goals rw [take, hfound]
    · exact .inl rfl
    · exact .inl rfl
    · exact .inl Pass.numbering_mention
  | resolve role target =>
    obtain ⟨_, -, hresolve⟩ | ⟨answer, -, hresolve⟩ := p.run_resolve_cases role target
    all_goals rw [take, hresolve]
    · exact .inl rfl
    · exact .inl (by rw [Pass.numbering_mapDependencies, Pass.numbering_takeDown])
  | report | enqueueAnonymous | resetAnonymous | setUrl | setVariable | publish => exact .inl rfl

end Operation

/-! ## Passes that can come about

The faults of underlines are exact only where no more letters are known than there are depths. That holds
of every pass that can come about, because its counters are those of a run; what others do to the store
meanwhile does not touch them. -/

/-- A pass that can come about: a document is started, calls are made, and meanwhile others make of the store
and of the diagnostics what they like. -/
inductive Pass.Reachable : Pass → Prop where
  /-- a document is started -/
  | start {file directory : String} {config : Config} {draft : Draft}
      (h : Draft.start file config directory = .ok draft) (store : Store) (diagnostics : List Diagnostic) :
      Reachable { draft, store, diagnostics }
  /-- a call is made, and perhaps refused -/
  | take {p : Pass} (h : p.Reachable) (operation : Operation) : (operation.take p).Reachable
  /-- others work on what all share -/
  | meanwhile {p : Pass} (h : p.Reachable) (store : Store) (diagnostics : List Diagnostic) :
      Reachable { p with store, diagnostics }

/-- Its counters have been reached by calls on the counters. -/
theorem Pass.Reachable.exists_run {p : Pass} (h : p.Reachable) :
    ∃ steps, p.draft.numbering = Numbering.run steps := by
  induction h with
  | start h =>
    obtain ⟨_, -, rfl⟩ := Draft.start_eq_ok h
    exact ⟨[], rfl⟩
  | @take p _ operation ih =>
    obtain ⟨steps, hsteps⟩ := ih
    obtain hkeep | ⟨s, hstep⟩ := operation.numbering_take p
    · exact ⟨steps, hkeep.trans hsteps⟩
    · exact ⟨steps ++ [s], by rw [hstep, hsteps, Numbering.run_append_singleton]⟩
  | meanwhile _ _ _ ih => exact ih

/-- From the front, one call at a time. -/
theorem Pass.Reachable.takeAll {p : Pass} (h : p.Reachable) (operations : List Operation) :
    (p.takeAll operations).Reachable := by
  induction operations generalizing p with
  | nil => exact h
  | cons operation operations ih => exact ih (h.take operation)

/-- No more than fifteen underlines have a depth. -/
theorem Pass.Reachable.length_letters_le {p : Pass} (h : p.Reachable) :
    p.draft.numbering.letters.length ≤ 15 := by
  obtain ⟨steps, hsteps⟩ := h.exists_run
  rw [hsteps, Numbering.letters_run]
  exact Numbering.length_known_le steps

/-- **Refused calls leave no trace.** Let a call be made in a pass that can come about, with the standard kinds
of reference. It is refused with a fault exactly if `Operation.fault?` finds this fault:

* to number a title, to count an item and to record a title is refused if the depth is 16 or more;
* to give an underline a depth is refused if it has none and 15 others have one;
* to add a dependency is refused if its path spells no document;
* to take note of a reference is refused if it is one to a document and its target spells none;
* to resolve a reference is refused if its kind has no resolver;

and no other call is refused. If a call is refused, the pass is the same as before: the document with its
counters, titles, labels, links, dependencies, broken references, values and url, the store, and what has been
reported. -/
theorem refused_calls {p : Pass} (h : p.Reachable) (operation : Operation) (fault : Fault) :
    (operation.Refused p fault ↔ operation.fault? p = some fault) ∧
      (operation.Refused p fault → operation.take p = p) := by
  have hchecked := operation.checked_call h.length_letters_le
  refine ⟨hchecked.refused_iff, fun hfault => ?_⟩
  rw [operation.take_eq]
  exact hchecked.eq_of_refused hfault

/-- A document with all its depths taken. One more underline, titles and items that are too deep, paths that
lead out of the corpus and a kind of reference that nobody knows are refused. -/
theorem refused_calls_intro :
    let start : Pass := { draft := { file := "guide/intro" } }
    let p := start.takeAll ("=-`:~^_*+#<>!%&".toList.map .getLevel ++
      [.recordTitle 1 "Intro", .found "doc" "setup", .resolve "ref" "nowhere", .publish])
    let refusals : List (Operation × Fault) := [(.getLevel '.', Numbering.depthFault 16),
      (.recordTitle 16 "Deep", Numbering.depthFault 16), (.createTitle 99, Numbering.depthFault 99),
      (.getNumber 16, Numbering.depthFault 16),
      (.addDependency "../../setup" true, .noCanonicalUrl "../../setup"),
      (.found "doc" " ../../setup ", .noCanonicalUrl "../../setup"),
      (.resolve "glossary" "term", .unknownRole "glossary")]
    p.Reachable ∧ ∀ refusal ∈ refusals, refusal.1.Refused p refusal.2 ∧ refusal.1.take p = p := by
  intro start p refusals
  have hstart : Draft.start "guide/intro" {} = .ok start.draft := by rfl
  have hp : p.Reachable := (Pass.Reachable.start hstart ∅ []).takeAll _
  have hfaults : ∀ refusal ∈ refusals, refusal.1.fault? p = some refusal.2 := by decide +kernel
  refine ⟨hp, fun refusal hmem => ?_⟩
  obtain ⟨hiff, htrace⟩ := refused_calls hp refusal.1 refusal.2
  have hrefused := hiff.mpr (hfaults refusal hmem)
  exact ⟨hrefused, htrace hrefused⟩

end Crosslink
