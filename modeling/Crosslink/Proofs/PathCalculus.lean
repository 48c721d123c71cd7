import Crosslink.Proofs.RewrittenLinks
import Mathlib.Logic.Relation

/-!
# The calculus of paths

A path is resolved by walking over its segments once, and all that is known about names, links and their
places rests on what that walk comes to. Here it is said without walking: by counting the segments of the
beginnings of a path, and by taking out of it, in any order, the climbs together with what they climb out of.

* `Path.ClimbsOut` : in some beginning the climbs outnumber the plain segments. These are the paths without
  normal form, `Path.walk_eq_none_iff`.
* `Path.Cancels` takes a climb out with the nearest plain segment before it; `Path.CancelsTo` goes on until no
  climb is left. What is left then is the normal form, `Path.walk_eq_some_iff`.
* `Path.normalize_slash` : a path can be normalized part by part.
* `Path.IsName.exists_last` : a name is its last segment in its directory.
* `Path.normalize_exact` puts it together.
-/

namespace Crosslink.Path

variable {path name seg : String} {segs trail front between back others left : List String}

/-! ## Counting

A walk fails where it climbs and has nothing to climb out of. What it can climb out of are the directories
that it sets out with and the plain segments that it has met, so it fails exactly if in some beginning the
climbs are more than these together. The induction is on the segments, for a walk from anywhere: each kind
of segment moves one of the two sides by one, or neither. -/

/-- In some beginning of the segments the climbs outnumber the plain segments. -/
def ClimbsOut (segs : List String) : Prop :=
  ∃ front, front <+: segs ∧ front.countP (IsPlain ·) < front.count ".."

theorem not_isPlain_of_idle (h : seg = "" ∨ seg = ".") : ¬IsPlain seg := fun hplain =>
  h.elim hplain.1 hplain.2.1

theorem ne_up_of_idle (h : seg = "" ∨ seg = ".") : seg ≠ ".." := by
  rcases h with rfl | rfl <;> decide

theorem isPlain_of_not (hidle : ¬(seg = "" ∨ seg = ".")) (hup : seg ≠ "..") : IsPlain seg :=
  ⟨fun e => hidle (.inl e), fun e => hidle (.inr e), hup⟩

/-- The beginnings of a list are the empty one and those that go on from its first segment. -/
theorem exists_prefix_cons {p : List String → Prop} :
    (∃ front, front <+: seg :: segs ∧ p front) ↔ p [] ∨ ∃ front, front <+: segs ∧ p (seg :: front) := by
  simp only [List.prefix_cons_iff, or_and_right, exists_or, exists_eq_left]
  refine or_congr_right ⟨?_, ?_⟩
  · rintro ⟨_, ⟨front, rfl, hfront⟩, h⟩
    exact ⟨front, hfront, h⟩
  · rintro ⟨front, hfront, h⟩
    exact ⟨_, ⟨front, rfl, hfront⟩, h⟩

/-- A walk has no answer exactly if some beginning of it climbs more often than there is a segment to climb out
of, among those that it sets out with and those that it has gone down by. -/
theorem walk_eq_none_iff : walk trail segs = none ↔
    ∃ front, front <+: segs ∧ trail.length + front.countP (IsPlain ·) < front.count ".." := by
  -- on the segments, for every trail: a plain one makes it longer, a climb shorter
  induction segs generalizing trail with
  | nil => simp
  | cons seg segs ih =>
    rw [walk_cons, exists_prefix_cons]
    split
    · rename_i hidle
      simp [ih, not_isPlain_of_idle hidle, ne_up_of_idle hidle]
    · rename_i hidle
      split
      · rename_i hup
        have hplain : ¬IsPlain seg := fun h => h.2.2 hup
        subst hup
        cases trail with
        | nil =>
          refine iff_of_true rfl (.inr ⟨[], List.nil_prefix, ?_⟩)
          simp [hplain]
        | cons last up =>
          have hcount : ∀ n m, up.length + 1 + n < m + 1 ↔ up.length + n < m := by omega
          simp [ih, hplain, hcount]
      · rename_i hup
        have hcount : ∀ n m, trail.length + (n + 1) < m ↔ trail.length + 1 + n < m := by omega
        simp [ih, hup, isPlain_of_not hidle hup, hcount]

/-! ## Cancelling

A climb and the nearest plain segment before it cancel, and no walk notices that they are gone. So all
ways to cancel come to one result, whatever their order, since that result is what the walk answers. That
there is a way is shown by the walk itself: it cancels each climb when it meets it. -/

/-- A climb is cancelled: it is taken out together with the nearest plain segment before it. -/
inductive Cancels : List String → List String → Prop where
  | pair {front between back : List String} {seg : String} (hseg : IsPlain seg)
      (hbetween : ∀ s ∈ between, ¬IsPlain s) :
      Cancels (front ++ seg :: (between ++ ".." :: back)) (front ++ (between ++ back))

/-- `left` are the plain segments that are left when climbs have been cancelled until there is none. -/
def CancelsTo (segs left : List String) : Prop :=
  ∃ rest, Relation.ReflTransGen Cancels segs rest ∧ ".." ∉ rest ∧ left = rest.filter (IsPlain ·)

/-- A walk that goes down nowhere climbs as often as it says. -/
theorem walk_of_not_plain (h : ∀ s ∈ segs, ¬IsPlain s) : walk trail (segs ++ others) =
    if segs.count ".." ≤ trail.length then walk (trail.drop (segs.count "..")) others else none := by
  induction segs generalizing trail with
  | nil => simp
  | cons seg segs ih =>
    obtain ⟨hseg, hsegs⟩ := List.forall_mem_cons.mp h
    rw [List.cons_append, walk_cons]
    split
    · rename_i hidle
      rw [ih hsegs, List.count_cons_of_ne (ne_up_of_idle hidle)]
    · rename_i hidle
      have hup : seg = ".." := by_contra fun hup => hseg (isPlain_of_not hidle hup)
      subst hup
      rw [if_pos rfl, List.count_cons_self]
      cases trail with
      | nil => rfl
      | cons last up => simp [ih hsegs]

/-- A walk that does not climb goes down by its plain segments. -/
theorem walk_of_not_up (h : ".." ∉ segs) :
    walk trail segs = some (trail.reverse ++ segs.filter (IsPlain ·)) := by
  induction segs generalizing trail with
  | nil => simp
  | cons seg segs ih =>
    obtain ⟨hup, hsegs⟩ := List.ne_and_not_mem_of_not_mem_cons h
    rw [walk_cons]
    split
    · rename_i hidle
      rw [ih hsegs, List.filter_cons_of_neg (by simpa using not_isPlain_of_idle hidle)]
    · rename_i hidle
      have hplain : IsPlain seg := isPlain_of_not hidle (Ne.symm hup)
      rw [if_neg (Ne.symm hup), ih hsegs, List.filter_cons_of_pos (by simpa using hplain),
        List.reverse_cons, List.append_assoc, List.singleton_append]

/-- Cancelling changes no walk. -/
theorem Cancels.walk_eq (h : Cancels segs others) : walk trail segs = walk trail others := by
  cases h with
  | @pair front between back seg hseg hbetween =>
    have hnotplain : ∀ s ∈ between ++ [".."], ¬IsPlain s := by
      intro s hs
      rcases List.mem_append.mp hs with hs | hs
      · exact hbetween s hs
      · rw [List.mem_singleton.mp hs]
        exact fun hplain => hplain.2.2 rfl
    have hback : between ++ ".." :: back = between ++ [".."] ++ back := by simp
    rw [walk_append, walk_append]
    refine congrArg _ (funext fun out => ?_)
    rw [walk_cons_of_plain hseg, hback, walk_of_not_plain hnotplain, walk_of_not_plain hbetween]
    simp

theorem walk_eq_of_cancels (h : Relation.ReflTransGen Cancels segs others) :
    walk trail segs = walk trail others := by
  induction h with
  | refl => rfl
  | tail _ hstep ih => rw [ih, hstep.walk_eq]

theorem CancelsTo.head (hstep : Cancels segs others) (h : CancelsTo others left) : CancelsTo segs left := by
  obtain ⟨rest, hrest, hnone, hleft⟩ := h
  exact ⟨rest, .head hstep hrest, hnone, hleft⟩

/-- The last plain segment, and what stands before and behind it. -/
theorem exists_last_plain {last : String} {init : List String}
    (h : segs.filter (IsPlain ·) = init ++ [last]) :
    ∃ front between, segs = front ++ last :: between ∧ IsPlain last ∧ (∀ s ∈ between, ¬IsPlain s) ∧
      (front ++ between).filter (IsPlain ·) = init := by
  obtain ⟨before, behind, rfl, hbefore, hbehind⟩ := List.filter_eq_append_iff.mp h
  obtain ⟨idle, between, rfl, hidle, hlast, hbetween⟩ := List.filter_eq_cons_iff.mp hbehind
  refine ⟨before ++ idle, between, by simp, by simpa using hlast, ?_, ?_⟩
  · simpa [List.filter_eq_nil_iff] using hbetween
  · rw [List.filter_append, List.filter_append, hbefore, List.filter_eq_nil_iff.mpr hidle, hbetween,
      List.append_nil, List.append_nil]

/-- A walk cancels each climb when it meets it. `front` is what the walk has met, without what has been
cancelled; its plain segments are those that the walk has gone down by. -/
theorem cancelsTo_of_walk (hfront : front.filter (IsPlain ·) = trail.reverse) (hup : ".." ∉ front)
    (h : walk trail segs = some left) : CancelsTo (front ++ segs) left := by
  induction segs generalizing trail front with
  | nil =>
    rw [walk_nil] at h
    rw [List.append_nil]
    exact ⟨front, .refl, hup, by rw [hfront, ← Option.some.inj h]⟩
  | cons seg segs ih =>
    have hmet : front ++ seg :: segs = front ++ [seg] ++ segs := by simp
    rw [walk_cons] at h
    split at h
    · rename_i hidle
      rw [hmet]
      refine ih ?_ ?_ h
      · simp [hfront, not_isPlain_of_idle hidle]
      · simp [hup, (ne_up_of_idle hidle).symm]
    · rename_i hidle
      split at h
      · rename_i hseg
        cases trail with
        | nil => cases h
        | cons last up =>
          -- what the climb takes back is the last plain segment that has been met
          rw [List.reverse_cons] at hfront
          obtain ⟨before, between, rfl, hlast, hbetween, hinit⟩ := exists_last_plain hfront
          have hstep : Cancels (before ++ last :: between ++ seg :: segs) (before ++ between ++ segs) := by
            rw [List.append_assoc, List.append_assoc, List.cons_append, hseg]
            exact .pair hlast hbetween
          refine .head hstep (ih hinit ?_ h)
          simp only [List.mem_append, List.mem_cons, not_or] at hup ⊢
          exact ⟨hup.1, hup.2.2⟩
      · rename_i hseg
        have hplain : IsPlain seg := isPlain_of_not hidle hseg
        rw [hmet]
        refine ih ?_ ?_ h
        · simp [hfront, hplain]
        · simp [hup, Ne.symm hseg]

/-- What a walk from the root leaves is what is left when all climbs have been cancelled, in whatever order. -/
theorem walk_eq_some_iff : walk [] segs = some left ↔ CancelsTo segs left := by
  constructor
  · exact fun h => cancelsTo_of_walk rfl List.not_mem_nil h
  · rintro ⟨rest, hrest, hnone, rfl⟩
    rw [walk_eq_of_cancels hrest, walk_of_not_up hnone, List.reverse_nil, List.nil_append]

/-! ## Parts of a path

A path is a list of segments, and one behind another is their concatenation. A walk over the first part
leaves plain segments, and these can be walked again in place of the first part. -/

/-- A path can be normalized part by part. -/
theorem normalize_slash (path rest : String) :
    normalize (path ++ "/" ++ rest) =
      (normalize path).bind fun name => normalize (name ++ "/" ++ rest) := by
  rw [normalize, segments_slash, walk_append, normalize]
  cases hwalk : walk [] (segments path) with
  | none => rfl
  | some out =>
    have hslash : ∀ s ∈ out, '/' ∉ s.toList := fun s hs =>
      slash_not_mem_of_mem_segments ((mem_of_walk hwalk hs).resolve_left List.not_mem_nil).1
    rw [Option.map_some, Option.bind_some, Option.bind_some, normalize, segments_slash, walk_append,
      walk_segments_join hslash, walk_of_plain (plain_of_walk hwalk), List.reverse_nil,
      List.nil_append, Option.bind_some]

/-- A segment alone is a path of this segment. -/
theorem segments_of_slashless (h : '/' ∉ seg.toList) : segments seg = [seg] := by
  have hsegments := segments_join (List.cons_ne_nil seg []) (by simpa using h)
  have hjoin : join [seg] = seg := String.intercalate_singleton
  rwa [hjoin] at hsegments

namespace IsName

/-- The directory of a name is the top level or a name itself. -/
theorem parent_eq_empty_or (h : IsName name) : parent name = "" ∨ IsName (parent name) := by
  rw [h.parent_eq]
  by_cases hinit : (segments name).dropLast = []
  · rw [hinit]
    exact .inl rfl
  · exact .inr (isName_join hinit h.parent_plain)

/-- A name is its last segment in its directory. -/
theorem exists_last (h : IsName name) : ∃ last, (segments name).getLast? = some last ∧ IsPlain last ∧
    name = inside (parent name) last ∧ normalize (parent name ++ "/" ++ last) = some name := by
  obtain ⟨init, last, hsegments⟩ := exists_segments name
  have hmem : last ∈ segments name := by simp [hsegments]
  have hplain : IsPlain last := h.plain last hmem
  have hlast := segments_of_slashless (slash_not_mem_of_mem_segments hmem)
  refine ⟨last, by simp [hsegments], hplain, eq_of_segments ?_, ?_⟩
  · rw [segments_inside h, hsegments, List.dropLast_concat, hlast]
  · rw [normalize_eq_some_iff h.ne_empty, segments_slash, walk_append, h.walk_parent, hsegments,
      List.dropLast_concat, Option.bind_some, hlast, walk_cons_of_plain hplain, walk_nil]
    simp

end IsName

/-- What is left of a path has plain segments only, if there is any. -/
theorem plain_of_normalize (h : normalize path = some name) : name = "" ∨ ∀ s ∈ segments name, IsPlain s := by
  by_cases hne : name = ""
  · exact .inl hne
  · exact .inr (IsName.plain ⟨hne, normalize_normalize h⟩)

/-- **The calculus of paths.** A path has no normal form exactly if in some beginning of it the climbs outnumber
the plain segments. Otherwise the normal form is made of the plain segments that are left when each climb has
been cancelled with the nearest plain segment before it; so it has plain segments only and is its own normal
form. A path in two parts is normalized by normalizing the first part, then the whole. A name is its last
segment in its directory, which is a name as well or the top level. -/
theorem normalize_exact :
    (∀ path, normalize path = none ↔ ClimbsOut (segments path)) ∧
    (∀ path name, normalize path = some name ↔
      ∃ left, CancelsTo (segments path) left ∧ name = join left) ∧
    (∀ path name, normalize path = some name →
      (name = "" ∨ ∀ s ∈ segments name, IsPlain s) ∧ normalize name = some name) ∧
    (∀ path rest, normalize (path ++ "/" ++ rest) =
      (normalize path).bind fun name => normalize (name ++ "/" ++ rest)) ∧
    ∀ name, name ≠ "" → normalize name = some name →
      (parent name = "" ∨ IsName (parent name)) ∧
      ∃ last, (segments name).getLast? = some last ∧ IsPlain last ∧ name = inside (parent name) last ∧
        normalize (parent name ++ "/" ++ last) = some name := by
  refine ⟨fun path => ?none, fun path name => ?some, fun path name h => ?normal, normalize_slash,
    fun name hne hnormal => ?parent⟩
  case none =>
    rw [normalize, Option.map_eq_none_iff, walk_eq_none_iff]
    simp only [List.length_nil, Nat.zero_add, ClimbsOut]
  case some =>
    rw [normalize, Option.map_eq_some_iff]
    exact exists_congr fun left => and_congr walk_eq_some_iff eq_comm
  case normal => exact ⟨plain_of_normalize h, normalize_normalize h⟩
  case parent =>
    have hname : IsName name := ⟨hne, hnormal⟩
    exact ⟨hname.parent_eq_empty_or, hname.exists_last⟩

/-- Two climbs that are cancelled, one after the other, with the segments that they stand behind; and two of
which the second climbs out. -/
theorem normalize_exact_setup :
    let path := "/guide/./api/v1/../..//setup"
    let name := "guide/setup"
    normalize path = some name ∧ CancelsTo (segments path) ["guide", "setup"] ∧
    normalize name = some name ∧ IsName (parent name) ∧ name = inside "guide" "setup" ∧
    normalize "guide/../../setup" = none ∧ ClimbsOut (segments "guide/../../setup") ∧
    normalize ("guide/../../setup" ++ "/" ++ "intro") = none := by
  intro path name
  obtain ⟨hnone, hsome, hnormal, hslash, hparent⟩ := normalize_exact
  have hpath : normalize path = some name := by decide +kernel
  have hwalk : walk [] (segments path) = some ["guide", "setup"] := by decide +kernel
  have hout : normalize "guide/../../setup" = none := by decide +kernel
  have hdir : parent name = "guide" := by decide +kernel
  have hend : (segments name).getLast? = some "setup" := by decide +kernel
  obtain ⟨left, hleft, -⟩ := (hsome path name).mp hpath
  obtain rfl : ["guide", "setup"] = left := Option.some.inj (hwalk.symm.trans (walk_eq_some_iff.mpr hleft))
  obtain ⟨-, hself⟩ := hnormal path name hpath
  obtain ⟨hname, last, hlast, -, hinside, -⟩ := hparent name (by decide) hself
  obtain rfl : "setup" = last := Option.some.inj (hend.symm.trans hlast)
  rw [hdir] at hinside
  refine ⟨hpath, hleft, hself, hname.resolve_left (by rw [hdir]; decide), hinside, hout,
    (hnone _).mp hout, ?_⟩
  rw [hslash, hout]
  rfl

end Crosslink.Path
