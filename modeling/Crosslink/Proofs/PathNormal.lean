import Crosslink.Location

/-!
# Paths in normal form

Normalizing leaves a row of plain segments, and a row of plain segments is left as it is. The names of
documents are the paths in this form that are not empty.

* `walk_append`, `walk_up`, `walk_of_plain` say how a walk over segments goes on, climbs and descends;
  `mem_of_walk` what it leaves.
* `normalize_normalize` : normalizing twice is normalizing once.
* `IsName` is a name in normal form; `canonical?` answers with no other.
-/

namespace Crosslink.Path

variable {path name seg : String} {segs others trail out : List String}

/-! ## Walks

A walk keeps the segments that it has gone down by, the last first. The laws are stated for any such
trail, since a walk over the second part of a path sets out with what the first part has left. -/

/-- At the end of a walk its trail is read from the root. -/
@[simp]
theorem walk_nil : walk trail [] = some trail.reverse := by
  rw [walk]

/-- One segment of a walk, wherever it starts. -/
theorem walk_cons : walk trail (seg :: segs) =
    if seg = "" ∨ seg = "." then walk trail segs
    else if seg = ".." then trail.tail?.bind (walk · segs)
    else walk (seg :: trail) segs := by
  cases trail <;> rw [walk] <;> rfl

theorem walk_cons_of_plain (h : IsPlain seg) : walk trail (seg :: segs) = walk (seg :: trail) segs := by
  rw [walk_cons, if_neg (by simp [h.1, h.2.1]), if_neg h.2.2]

@[simp]
theorem walk_cons_empty : walk trail ("" :: segs) = walk trail segs := by
  rw [walk_cons, if_pos (.inl rfl)]

@[simp]
theorem walk_cons_up (seg : String) : walk (seg :: trail) (".." :: segs) = walk trail segs := by
  rw [walk_cons, if_neg (by decide), if_pos rfl]
  rfl

/-- Plain segments lead down. -/
theorem walk_of_plain (h : ∀ s ∈ segs, IsPlain s) : walk trail segs = some (trail.reverse ++ segs) := by
  induction segs generalizing trail with
  | nil => rw [walk_nil, List.append_nil]
  | cons seg segs ih =>
    rw [walk_cons_of_plain (h seg List.mem_cons_self), ih fun s hs => h s (List.mem_cons_of_mem _ hs),
      List.reverse_cons, List.append_assoc, List.singleton_append]

/-- A walk goes on from where its first part leads. -/
theorem walk_append : walk trail (segs ++ others) =
    (walk trail segs).bind fun out => walk out.reverse others := by
  induction segs generalizing trail with
  | nil => rw [List.nil_append, walk_nil, Option.bind_some, List.reverse_reverse]
  | cons seg segs ih =>
    rw [List.cons_append, walk_cons, walk_cons]
    split
    · exact ih
    · split
      · cases trail with
        | nil => rfl
        | cons _ up => exact ih
      · exact ih

/-- Climbing leaves the upper directories, as far as there are any. -/
theorem walk_up (n : Nat) : walk trail (List.replicate n ".." ++ segs) =
    if n ≤ trail.length then walk (trail.drop n) segs else none := by
  induction n generalizing trail with
  | zero => simp
  | succ n ih =>
    rw [List.replicate_succ, List.cons_append]
    cases trail with
    | nil => rfl
    | cons seg up => simp [ih]

/-- What a walk leaves was there before it or is a plain segment of it. -/
theorem mem_of_walk (h : walk trail segs = some out) (hmem : seg ∈ out) :
    seg ∈ trail ∨ seg ∈ segs ∧ IsPlain seg := by
  -- on the segments, with the trail behind them: what is left may come from either
  induction segs generalizing trail with
  | nil =>
    rw [walk_nil] at h
    obtain rfl := Option.some.inj h
    exact .inl (List.mem_reverse.mp hmem)
  | cons first segs ih =>
    have hmono : seg ∈ segs ∧ IsPlain seg → seg ∈ first :: segs ∧ IsPlain seg :=
      And.imp_left (List.mem_cons_of_mem _)
    rw [walk_cons] at h
    split at h
    · exact (ih h).imp_right hmono
    · rename_i hdot
      split at h
      · cases trail with
        | nil => cases h
        | cons _ up => exact (ih h).imp (List.mem_cons_of_mem _) hmono
      · rename_i hup
        rcases ih h with hmem | hmem
        · rcases List.mem_cons.mp hmem with rfl | hmem
          · exact .inr ⟨List.mem_cons_self, fun e => hdot (.inl e), fun e => hdot (.inr e), hup⟩
          · exact .inl hmem
        · exact .inr (hmono hmem)

/-- A walk from the root leaves plain segments. -/
theorem plain_of_walk (h : walk [] segs = some out) : ∀ s ∈ out, IsPlain s := fun _ hs =>
  ((mem_of_walk h hs).resolve_left List.not_mem_nil).2

/-! ## Normal forms

A walk leaves plain segments, and a walk over plain segments leaves just these. So the normal form of a
path is its own, and to be one is the same as being made of plain segments. -/

/-- What a walk leaves can be written as a path and cut into the same segments again. -/
theorem segments_join_of_walk (h : walk [] (segments path) = some out) (hne : out ≠ []) :
    segments (join out) = out :=
  segments_join hne fun _ hs =>
    slash_not_mem_of_mem_segments ((mem_of_walk h hs).resolve_left List.not_mem_nil).1

/-- The segments of a path in normal form are what the walk leaves. -/
theorem walk_of_normalize (h : normalize path = some name) (hne : name ≠ "") :
    walk [] (segments path) = some (segments name) := by
  obtain ⟨out, hwalk, rfl⟩ := Option.map_eq_some_iff.mp h
  have hout : out ≠ [] := by
    rintro rfl
    exact hne rfl
  rw [hwalk, segments_join_of_walk hwalk hout]

/-- Normalizing twice is normalizing once. -/
theorem normalize_normalize (h : normalize path = some name) : normalize name = some name := by
  obtain ⟨out, hwalk, rfl⟩ := Option.map_eq_some_iff.mp h
  by_cases hout : out = []
  · rw [hout]
    rfl
  · rw [normalize, segments_join_of_walk hwalk hout, walk_of_plain (plain_of_walk hwalk)]
    rfl

/-- A path that names a document: not empty, and in normal form. -/
structure IsName (name : String) : Prop where
  ne_empty : name ≠ ""
  normal : normalize name = some name

/-- The segments of a name are plain. -/
theorem IsName.plain (h : IsName name) : ∀ s ∈ segments name, IsPlain s :=
  plain_of_walk (walk_of_normalize h.normal h.ne_empty)

/-- What is left of a path is a name, if anything is left. -/
theorem isName_of_filter (h : (normalize path).filter (· ≠ "") = some name) : IsName name := by
  obtain ⟨hnormal, hne⟩ := Option.filter_eq_some_iff.mp h
  exact ⟨by simpa using hne, normalize_normalize hnormal⟩

/-- The names of documents have no empty and no dot segments. -/
example : IsName "guide/setup" ∧ ¬IsName "guide/./setup" ∧ ¬IsName "" := by
  refine ⟨⟨by decide, by decide⟩, fun h => absurd h.normal (by decide), fun h => h.ne_empty rfl⟩

end Path

/-- Every link to a document is a link to a name. -/
theorem Location.isName_of_canonical? {loc : Location} {link name : String}
    (h : loc.canonical? link = some name) : Path.IsName name := by
  simp only [canonical?] at h
  split at h
  · cases h
  · exact Path.isName_of_filter h

end Crosslink
