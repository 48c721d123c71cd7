import Crosslink.Text.Blank

/-!
# Paths

A path is a list of segments between slashes. The segments `""` and `"."` stand for nothing, `".."`
takes back the segment before it, and every other segment is plain.

* `segments` and `join` go between a path and its segments.
* `normalize` is the path calculus: it keeps the plain segments that no `".."` takes back, and has no
  answer for a path that climbs above its root.
* `parent` is the directory of a path, `between` the walk from a directory to a path.
-/

namespace Crosslink.Path

/-- The segments of a path, empty ones included. -/
def segments (path : String) : List String :=
  (path.toList.splitOn '/').map .ofList

/-- The path with the given segments. -/
def join (segs : List String) : String :=
  "/".intercalate segs

/-- A plain segment names something: it is not empty and not a dot segment. -/
def IsPlain (seg : String) : Prop :=
  seg ≠ "" ∧ seg ≠ "." ∧ seg ≠ ".."

instance (seg : String) : Decidable (IsPlain seg) :=
  inferInstanceAs (Decidable (_ ∧ _))

/-- Walks the segments from a directory whose plain segments are `trail`, the nearest first. There is
no answer where `".."` finds no segment to take back. -/
def walk : List String → List String → Option (List String)
  | trail, [] => some trail.reverse
  | trail, seg :: rest =>
    if seg = "" ∨ seg = "." then walk trail rest
    else if seg = ".." then
      match trail with
      | [] => none
      | _ :: up => walk up rest
    else walk (seg :: trail) rest

/-- The path with its empty and dot segments resolved; `none` if it climbs above its root. -/
def normalize (path : String) : Option String :=
  (walk [] (segments path)).map join

/-- The directory of a path, slashes at its end aside; `""` at the top level. -/
def parent (path : String) : String :=
  let trimmed := Text.stripEnd (· == '/') path.toList
  .ofList ((trimmed.reverse.dropWhile (· != '/')).drop 1).reverse

/-- The number of segments two lists share at their beginning. -/
def sharedLength : List String → List String → Nat
  | a :: as, b :: bs => if a = b then sharedLength as bs + 1 else 0
  | _, _ => 0

/-- The walk from the directory `dir` to `path`, both below one root: up to the nearest directory they
share, then down. The last segment of `path` is never shared, so the walk always ends in it. -/
def between (dir path : String) : String :=
  let source := (segments dir).filter (· ≠ "")
  let dest := (segments path).filter (· ≠ "")
  let shared := sharedLength source dest.dropLast
  join (List.replicate (source.length - shared) ".." ++ dest.drop shared)

/-! ## Segments and paths

A path can be cut at its slashes and put together again, and segments without slashes come back as they
were. So what is proved of segments is proved of paths. -/

/-- A path is made of its segments. -/
@[simp]
theorem join_segments (path : String) : join (segments path) = path := by
  apply String.ext
  simp [join, segments, String.toList_intercalate, List.map_map, Function.comp_def,
    List.intercalate_splitOn]

/-- A path has at least one segment. -/
theorem segments_ne_nil (path : String) : segments path ≠ [] := by
  simp [segments]

/-- The segments of two paths with a slash in between are those of the first and of the second. -/
theorem segments_slash (a b : String) :
    segments (a ++ "/" ++ b) = segments a ++ segments b := by
  simp [segments, List.splitOn_append_cons_self]

/-- Segments without slashes are the segments of the path they make. -/
theorem segments_join {segs : List String} (hne : segs ≠ []) (h : ∀ s ∈ segs, '/' ∉ s.toList) :
    segments (join segs) = segs := by
  rw [segments, join, String.toList_intercalate]
  refine (congrArg _ (List.splitOn_intercalate '/' (by simpa using h) (by simpa using hne))).trans ?_
  simp [Function.comp_def]

/-- A segment holds no slash. -/
theorem slash_not_mem_of_mem_segments {path seg : String} (h : seg ∈ segments path) :
    '/' ∉ seg.toList := by
  simp only [segments, List.mem_map] at h
  obtain ⟨cs, hcs, rfl⟩ := h
  rw [String.toList_ofList]
  generalize path.toList = p at hcs
  induction p generalizing cs with
  | nil => simp_all
  | cons c p ih =>
    rw [List.splitOn_cons_eq_if_modifyHead] at hcs
    split at hcs
    · rcases List.mem_cons.mp hcs with rfl | hcs
      · simp
      · exact ih _ hcs
    · rename_i hc
      cases hp : p.splitOn '/' with
      | nil => exact absurd hp (List.splitOn_ne_nil _ _)
      | cons first others =>
        rw [hp] at hcs ih
        rcases List.mem_cons.mp hcs with rfl | hcs
        · refine List.not_mem_cons_of_ne_of_not_mem (fun e => hc (beq_iff_eq.mpr e.symm)) ?_
          exact ih first List.mem_cons_self
        · exact ih _ (List.mem_cons_of_mem _ hcs)

end Crosslink.Path
