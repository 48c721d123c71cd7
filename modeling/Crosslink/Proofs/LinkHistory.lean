import Crosslink.Pass
import Crosslink.Proofs.LinkNames
import Mathlib.Data.List.Basic

/-!
# Histories of link tables

What a link table holds can be told from the calls that were made on it. The names that wait are those let
wait since the queue was last emptied, without as many of the first as anonymous targets found one; a name
has the url of the last target that was bound to it.

A history lists the calls, the latest first, so that each stands in front of the calls that it follows.

* `Step` is a call, `run` the table after a history.
* `pushed`, `served`, `boundIn`, `bindings` and `orphans` read off a history alone what is said of the
  table; `waiting_run`, `boundName_run` and `get?_run` prove the table of every history equal to it.
* `boundName_run_filter` : named targets and look-ups have no say in what an anonymous target is bound to.
* `Pass.runLinks_eq` : a pass reports the orphans of its history, one warning each, and nothing else.
* `links_of_history` puts it together.
-/

namespace Crosslink

namespace LinkTable

/-! ## Histories

All that is said of a table is computed from the list of calls, without a table. An anonymous target is
given the first name that has not been given away, and how many have been is itself a number that the
history tells: the anonymous targets since the queue was emptied, as far as there was a name for them. -/

/-- A call on a link table. -/
inductive Step where
  /-- a target is filed -/
  | bind (name url : String)
  /-- the name of an anonymous reference waits for its target -/
  | enqueue (name : String)
  /-- no name waits any longer -/
  | reset
  /-- a name is looked up -/
  | look (name : String)
  deriving DecidableEq, Repr

/-- The table after a call. -/
def step (t : LinkTable) : Step → LinkTable
  | .bind name url => t.bind name url
  | .enqueue name => t.enqueue name
  | .reset => t.resetQueue
  | .look _ => t

/-- The table after a history. -/
def run (history : List Step) : LinkTable := history.foldr (fun s t => t.step s) {}

/-- The names let wait since the queue was last emptied, the first first. -/
def pushed : List Step → List String
  | [] => []
  | .reset :: _ => []
  | .enqueue name :: earlier => pushed earlier ++ [LinkName.normalize name]
  | .bind _ _ :: earlier => pushed earlier
  | .look _ :: earlier => pushed earlier

/-- The number of anonymous targets since the queue was last emptied that found a name waiting: one that
had not been given to an anonymous target before. -/
def served : List Step → Nat
  | [] => 0
  | .reset :: _ => 0
  | .bind name _ :: earlier =>
    if LinkName.isAnonymous name ∧ served earlier < (pushed earlier).length then served earlier + 1
    else served earlier
  | .enqueue _ :: earlier => served earlier
  | .look _ :: earlier => served earlier

/-- The name that a target is bound to: an anonymous one to the first name that has not been given away. -/
def boundIn (history : List Step) (name : String) : String :=
  if LinkName.isAnonymous name then (pushed history)[served history]?.getD LinkName.anonymous
  else LinkName.normalize name

/-- The names that targets were bound to, each with its url, the latest first. -/
def bindings : List Step → List (String × String)
  | [] => []
  | .bind name url :: earlier => (boundIn earlier name, Text.trim url) :: bindings earlier
  | .enqueue _ :: earlier => bindings earlier
  | .reset :: earlier => bindings earlier
  | .look _ :: earlier => bindings earlier

/-- The urls of the anonymous targets that found all names given away, the first first. -/
def orphans : List Step → List String
  | [] => []
  | .bind name url :: earlier =>
    if LinkName.isAnonymous name ∧ (pushed earlier).length ≤ served earlier then orphans earlier ++ [url]
    else orphans earlier
  | .enqueue _ :: earlier => orphans earlier
  | .reset :: earlier => orphans earlier
  | .look _ :: earlier => orphans earlier

/-- Whether a call puts a name into the queue or takes one out. -/
def Step.isPushOrPop : Step → Bool
  | .bind name _ => LinkName.isAnonymous name
  | .enqueue _ | .reset => true
  | .look _ => false

variable {history earlier : List Step} {name url key : String}

theorem run_cons (s : Step) (earlier : List Step) : run (s :: earlier) = (run earlier).step s := rfl

/-! ## The queue

The queue of the table is compared with what a history lets wait. No more names are ever given away than
have been let wait, and the rest of them is the queue. -/

theorem served_le_length (history : List Step) : served history ≤ (pushed history).length := by
  induction history with
  | nil => exact Nat.le_refl 0
  | cons s earlier ih =>
    cases s with
    | bind name url =>
      rw [served, pushed]
      split
      · rename_i h
        exact h.2
      · exact ih
    | enqueue name =>
      rw [served, pushed, List.length_append]
      exact Nat.le_add_right_of_le ih
    | reset => exact Nat.le_refl 0
    | look name => exact ih

/-- The names that wait are those that have not been given away. -/
theorem waiting_run (history : List Step) :
    (run history).waiting = (pushed history).drop (served history) := by
  induction history with
  | nil => rfl
  | cons s earlier ih =>
    cases s with
    | bind name url =>
      rw [run_cons, step, waiting_bind, ih, served, pushed, List.tail_drop]
      by_cases hname : LinkName.isAnonymous name = true
      · by_cases hserved : served earlier < (pushed earlier).length
        · rw [if_pos hname, if_pos ⟨hname, hserved⟩]
        -- nothing was waiting, so that nothing is taken out
        · rw [if_pos hname, if_neg fun h => hserved h.2, List.drop_eq_nil_of_le (by omega),
            List.drop_eq_nil_of_le (by omega)]
      · rw [if_neg hname, if_neg fun h => hname h.1]
    | enqueue name =>
      rw [served, pushed, List.drop_append_of_le_length (served_le_length earlier), ← ih]
      rfl
    | reset => rfl
    | look name => exact ih

/-- As many names wait as were let wait and have not been given away. -/
theorem length_waiting_run (history : List Step) :
    (run history).waiting.length = (pushed history).length - served history := by
  rw [waiting_run, List.length_drop]

theorem waiting_run_eq_nil : (run history).waiting = [] ↔ (pushed history).length ≤ served history := by
  rw [waiting_run, List.drop_eq_nil_iff]

/-- The name that a target is bound to can be told from the history. -/
theorem boundName_run (history : List Step) (name : String) :
    (run history).boundName name = boundIn history name := by
  rw [boundName, boundIn, waiting_run, List.headD_eq_head?_getD, List.head?_drop]

/-- Named targets and look-ups change nothing of the queue. -/
theorem waiting_run_filter (history : List Step) :
    (run (history.filter Step.isPushOrPop)).waiting = (run history).waiting := by
  induction history with
  | nil => rfl
  | cons s earlier ih =>
    cases s with
    | bind name url =>
      rw [List.filter_cons, Step.isPushOrPop, run_cons, step, waiting_bind]
      split
      · rw [run_cons, step, waiting_bind, if_pos ‹_›, ih]
      · exact ih
    | enqueue name => exact congrArg (· ++ [LinkName.normalize name]) ih
    | reset => rfl
    | look name => exact ih

/-- Where all names have been given away, an anonymous target stays anonymous and takes nothing out. -/
theorem boundIn_of_length_le (hname : LinkName.isAnonymous name = true)
    (h : (pushed history).length ≤ served history) :
    boundIn history name = LinkName.anonymous ∧
      (run (.bind name url :: history)).waiting = (run history).waiting := by
  constructor
  · rw [boundIn, if_pos hname, List.getElem?_eq_none h, Option.getD_none]
  · rw [run_cons, step, waiting_bind, if_pos hname, waiting_run_eq_nil.mpr h, List.tail_nil]

/-- So an anonymous target is bound to the same name if all calls are left out that do not concern the
queue. -/
theorem boundName_run_filter (history : List Step) (name : String) :
    (run (history.filter Step.isPushOrPop)).boundName name = (run history).boundName name := by
  rw [boundName, boundName, waiting_run_filter]

/-! ## The links

A look-up goes through the bindings from the latest one. Names are compared as names of links, and what
waits is kept as such a name already, so nothing is looked up under a spelling. -/

/-- A look-up finds the last target that was bound to the name. -/
theorem get?_run (history : List Step) (name : String) :
    (run history).get? name = (bindings history).lookup (LinkName.normalize name) := by
  induction history with
  | nil => rfl
  | cons s earlier ih =>
    cases s with
    | bind other url =>
      rw [run_cons, step, get?_bind, boundName_run, ih, bindings, Table.lookup_row]
    | enqueue other => exact ih
    | reset => exact ih
    | look other => exact ih

/-- A name that waits is the name of a link. -/
theorem normalize_of_mem_pushed (h : name ∈ pushed history) : LinkName.normalize name = name := by
  induction history with
  | nil => cases h
  | cons s earlier ih =>
    cases s with
    | bind other url => exact ih h
    | enqueue other =>
      rw [pushed, List.mem_append] at h
      rcases h with h | h
      · exact ih h
      · rw [List.mem_singleton.mp h, LinkName.normalize_normalize]
    | reset => cases h
    | look other => exact ih h

/-- What a target is bound to is the name of a link. -/
theorem normalize_boundIn (history : List Step) (name : String) :
    LinkName.normalize (boundIn history name) = boundIn history name := by
  rw [boundIn]
  split
  · cases hwaiting : (pushed history)[served history]? with
    | none => exact LinkName.normalize_anonymous
    | some waiting => exact normalize_of_mem_pushed (List.mem_of_getElem? hwaiting)
  · exact LinkName.normalize_normalize name

/-- What is filed is filed under the name of a link. -/
theorem normalize_of_mem_keys (h : key ∈ (run history).links.keys) : LinkName.normalize key = key := by
  induction history with
  | nil => cases h
  | cons s earlier ih =>
    cases s with
    | bind name url =>
      rw [run_cons, step, bind, boundName_run] at h
      rcases Table.mem_keys_insert.mp h with h | h
      · rw [h, normalize_boundIn]
      · exact ih h
    | enqueue name => exact ih h
    | reset => exact ih h
    | look name => exact ih h

/-- What is filed is found again under its name. -/
theorem get?_of_mem_keys (h : key ∈ (run history).links.keys) :
    ∃ url, (run history).links.get? key = some url ∧ (run history).get? key = some url := by
  obtain ⟨url, hurl⟩ := Table.mem_keys_iff.mp h
  refine ⟨url, hurl, ?_⟩
  rw [get?, normalize_of_mem_keys h, hurl]

end LinkTable

/-! ## Passes

A pass makes the same calls, and looks at the queue before an anonymous target is filed: if nothing waits
it warns. By induction on the history, it warns of the orphans. -/

namespace Pass

open LinkTable

/-- A pass after a call on its link table. -/
def takeLink (p : Pass) : Step → Pass
  | .bind name url => p.setLink name url
  | .enqueue name => { p with draft := p.draft.enqueueAnonymous name }
  | .reset => { p with draft := p.draft.resetAnonymous }
  | .look _ => p

/-- A pass after a history of its link table. -/
def runLinks (p : Pass) (history : List Step) : Pass := history.foldr (fun s p => p.takeLink s) p

/-- A pass whose link table was empty warns of the targets that found all names given away, and changes
nothing else but the table. -/
theorem runLinks_eq {p : Pass} (h : p.draft.links = {}) (history : List Step) :
    p.runLinks history = { p with
      draft := { p.draft with links := run history }
      diagnostics := p.diagnostics ++ (orphans history).map (orphanWarning p.draft.file) } := by
  induction history with
  | nil =>
    show p = _
    rw [orphans, List.map_nil, List.append_nil, run, List.foldr_nil, ← h]
  | cons s earlier ih =>
    have hrun : p.runLinks (s :: earlier) = (p.runLinks earlier).takeLink s := rfl
    rw [hrun, ih]
    cases s with
    | bind name url =>
      rw [takeLink, setLink, orphans]
      -- a target without a name is warned about if no name waits for it
      simp only [waiting_run_eq_nil]
      split
      · rw [List.map_append, ← List.append_assoc]
        rfl
      · rfl
    | enqueue name => rfl
    | reset => rfl
    | look name => rfl

end Pass

namespace LinkTable

/-- **A link table is what its history says.** A target is bound to the name that the history has for it,
named targets and look-ups aside; as many names wait as were let wait and not given away, and where there
are none an anonymous target takes nothing out. A look-up finds the last target bound to the name. What is
filed is filed under names that stand for themselves, and is found under them. A pass warns of the targets
that found no name, and does nothing else. -/
theorem links_of_history (history : List Step) :
    (∀ name, (run history).boundName name = boundIn history name ∧
      (run (history.filter Step.isPushOrPop)).boundName name = boundIn history name) ∧
    (served history ≤ (pushed history).length ∧
      (run history).waiting.length = (pushed history).length - served history) ∧
    (∀ name url, LinkName.isAnonymous name = true → (pushed history).length ≤ served history →
      boundIn history name = LinkName.anonymous ∧
        (run (.bind name url :: history)).waiting = (run history).waiting) ∧
    (∀ name, (run history).get? name = (bindings history).lookup (LinkName.normalize name)) ∧
    (∀ key ∈ (run history).links.keys, LinkName.normalize key = key ∧
      ∃ url, (run history).links.get? key = some url ∧ (run history).get? key = some url) ∧
    ∀ p : Pass, p.draft.links = {} → p.runLinks history = { p with
      draft := { p.draft with links := run history }
      diagnostics := p.diagnostics ++ (orphans history).map (Pass.orphanWarning p.draft.file) } := by
  refine ⟨fun name => ⟨boundName_run history name, ?_⟩,
    ⟨served_le_length history, length_waiting_run history⟩, fun name url => boundIn_of_length_le,
    get?_run history, fun key hkey => ⟨normalize_of_mem_keys hkey, get?_of_mem_keys hkey⟩,
    fun p h => Pass.runLinks_eq h history⟩
  rw [boundName_run_filter, boundName_run]

/-- Three names wait, one of them spelt like an anonymous one, and four anonymous targets come. -/
theorem links_of_history_orphan :
    let history : List Step := [.bind "_" "u4", .bind " _ " "u3", .bind "A" "u2", .bind "_" " u1 ",
      .look "b", .bind "_" "u0", .enqueue " _", .enqueue "İΣ ", .enqueue "A", .reset, .enqueue "b"]
    let p : Pass := { draft := { file := "index" } }
    (LinkName.isAnonymous " _ " = true ∧ (pushed history).length ≤ served history ∧
      boundIn history " _ " = "_") ∧
      ("i\u0307ς" ∈ (run history).links.keys ∧ LinkName.normalize "i\u0307ς" = "i\u0307ς") ∧
      ((bindings history).lookup "a" = some "u2" ∧ (run history).get? " A" = some "u2") ∧
      p.draft.links = {} ∧ (p.runLinks history).diagnostics = [Pass.orphanWarning "index" "u4"] := by
  intro history p
  obtain ⟨-, -, horphan, hget, hkeys, hpass⟩ := links_of_history history
  have hname : LinkName.isAnonymous " _ " = true := by decide +kernel
  have hserved : (pushed history).length ≤ served history := by decide +kernel
  have hkey : "i\u0307ς" ∈ (run history).links.keys := by decide +kernel
  have hlookup : (bindings history).lookup "a" = some "u2" := by decide +kernel
  have hspelling : LinkName.normalize " A" = "a" := by decide +kernel
  have horphans : orphans history = ["u4"] := by decide +kernel
  refine ⟨⟨hname, hserved, (horphan " _ " "u5" hname hserved).1⟩, ⟨hkey, (hkeys _ hkey).1⟩,
    ⟨hlookup, ?_⟩, rfl, ?_⟩
  · rw [hget, hspelling, hlookup]
  · rw [hpass p rfl, horphans]
    rfl

end LinkTable

end Crosslink
