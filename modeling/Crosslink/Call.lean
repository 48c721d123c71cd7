import Crosslink.Fault

/-!
# Calls

A call works on a state. It answers with a value or is refused with a fault, and it leaves a state in
either case, so that what a refused call leaves behind can be asked for.

* `Call` is the type of calls, run by applying them to a state.
* `Call.on` makes a call on a part into a call on the whole.
-/

namespace Crosslink

/-- A call on a state `σ` that answers with an `α`. -/
abbrev Call (σ α : Type) := ExceptT Fault (StateM σ) α

namespace Call

variable {σ τ α : Type}

/-- Runs a call: its answer, and the state it leaves. -/
def run (call : Call σ α) (s : σ) : Except Fault α × σ :=
  StateT.run (ExceptT.run call) s

/-- A call on a part of a state, as a call on the state. -/
def on (part : σ → τ) (withPart : σ → τ → σ) (call : Call τ α) : Call σ α :=
  ExceptT.mk fun s =>
    let (answer, t) := run call (part s)
    (answer, withPart s t)

@[simp]
theorem run_on (part : σ → τ) (withPart : σ → τ → σ) (call : Call τ α) (s : σ) :
    run (on part withPart call) s =
      ((run call (part s)).1, withPart s (run call (part s)).2) := rfl

@[simp]
theorem run_pure (a : α) (s : σ) : run (pure a : Call σ α) s = (.ok a, s) := rfl

@[simp]
theorem run_throw (fault : Fault) (s : σ) : run (throw fault : Call σ α) s = (.error fault, s) := rfl

@[simp]
theorem run_get (s : σ) : run (get : Call σ σ) s = (.ok s, s) := rfl

@[simp]
theorem run_set (s s' : σ) : run (set s' : Call σ Unit) s = (.ok (), s') := rfl

@[simp]
theorem run_modify (f : σ → σ) (s : σ) : run (modify f : Call σ Unit) s = (.ok (), f s) := rfl

/-- A call that is made of two runs the second on what the first leaves; if the first is refused, so is
the whole, and the second is never made. -/
theorem run_bind {β : Type} (call : Call σ α) (next : α → Call σ β) (s : σ) :
    run (call >>= next) s =
      match run call s with
      | (.ok a, s') => run (next a) s'
      | (.error fault, s') => (.error fault, s') := by
  simp only [run, ExceptT.run_bind, StateT.run_bind]
  rcases StateT.run (ExceptT.run call) s with ⟨answer, s'⟩
  cases answer <;> rfl

end Call

end Crosslink
