import Crosslink.Proofs.Calls
import Crosslink.Proofs.RelativeLinks

/-!
# Links stay inside

Files are read from below a directory of sources and written below a directory of targets, at the place
that a link names. What keeps both inside is the name that a link leads to: it is made of plain segments,
so it goes down from wherever it is put, and a link that would climb out has no name.

* `Path.LiesBelow` is a path that goes on from a directory by the segments of a name.
* `Path.Unslashed` is a directory without the slashes at its end.
* `Draft.foldl_below` : putting the segments of a name below a directory, one after the other, is putting
  the name there.
* `Draft.links_confined` : the output, the source and the dependency that a link leads to exist together,
  and all are found by its name.
-/

namespace Crosslink

namespace Path

variable {path dir name : String} {trail segs : List String}

/-- `path` is `dir` with a name in it: wherever a walk sets out for `dir`, it goes on to `path` by the
segments of the name. -/
def LiesBelow (dir name path : String) : Prop :=
  ∀ trail, walk trail (segments path) = (walk trail (segments dir)).map (· ++ segments name)

/-- `dir` is `path` without the slashes at its end. -/
structure Unslashed (path dir : String) : Prop where
  /-- nothing but slashes is left out -/
  slashes : ∃ n, path.toList = dir.toList ++ List.replicate n '/'
  /-- no slash is left -/
  bare : dir.toList.getLast? ≠ some '/'

/-- What is left of a path without the slashes at its end is such a directory, be the path made of slashes
only. -/
theorem unslashed_stripEnd (path : String) :
    Unslashed path (.ofList (Text.stripEnd (· = '/') path.toList)) := by
  obtain ⟨rest, hpath, hrest⟩ := Text.exists_stripEnd (· = '/') path.toList
  constructor
  · have hslashes : rest = List.replicate rest.length '/' :=
      List.eq_replicate_of_mem fun c hc => by simpa using hrest c hc
    exact ⟨rest.length, by rw [String.toList_ofList, ← hslashes, ← hpath]⟩
  · rw [String.toList_ofList]
    intro hlast
    exact absurd (Text.not_of_getLast?_stripEnd hlast) (by decide)

/-- The path that says nothing leads nowhere. -/
theorem walk_nowhere (trail : List String) : walk trail (segments "") = some trail.reverse := by
  have hempty : segments "" = [""] := rfl
  rw [hempty, walk_cons_empty, walk_nil]

/-- A slash at the end of a path leads nowhere else. -/
theorem walk_slash : walk trail (segments (path ++ "/")) = walk trail (segments path) := by
  have h := segments_slash path ""
  rw [String.append_empty] at h
  rw [h, walk_append]
  cases walk trail (segments path) with
  | none => rfl
  | some out => rw [Option.bind_some, walk_nowhere, List.reverse_reverse]

/-- Slashes at the end of a path make no difference to where it leads. -/
theorem Unslashed.walk_eq (h : Unslashed path dir) :
    walk trail (segments path) = walk trail (segments dir) := by
  obtain ⟨n, hpath⟩ := h.slashes
  have hbare := h.bare
  clear h
  -- on the slashes, of which the last one is taken off the path
  induction n generalizing path with
  | zero =>
    have hsame : path = dir := by
      apply String.ext
      simpa using hpath
    rw [hsame]
  | succ n ih =>
    have hlast : path = String.ofList (dir.toList ++ List.replicate n '/') ++ "/" := by
      apply String.ext
      simp [hpath, List.replicate_succ']
    rw [hlast, walk_slash]
    exact ih (String.toList_ofList)

/-- A name behind a slash lies below what stands in front of it. -/
theorem liesBelow_slash (dir : String) (h : IsName name) : LiesBelow dir name (dir ++ "/" ++ name) := by
  intro trail
  rw [segments_slash, walk_append]
  cases walk trail (segments dir) with
  | none => rfl
  | some out => rw [Option.bind_some, walk_of_plain h.plain, List.reverse_reverse, Option.map_some]

/-- A name lies below the directory that is meant by no path at all. -/
theorem liesBelow_empty (h : IsName name) : LiesBelow "" name name := by
  intro trail
  rw [walk_nowhere, walk_of_plain h.plain, Option.map_some]

end Path

namespace Draft

variable {dir seg name : String} {segs : List String} {d : Draft} {link : String}

/-! ## Below a directory

On disk the segments of a name are put below a directory one by one, and each time it is looked at whether
a slash has to be put in between. For a name that always comes to the same as one slash and then the name. -/

/-- A directory that does not end in a slash is parted from a name by one. -/
theorem below_of_bare (hne : dir ≠ "") (hbare : dir.toList.getLast? ≠ some '/') (name : String) :
    below dir name = dir ++ "/" ++ name := by
  rw [below, if_neg (by simp [hne, hbare])]

/-- A segment in a directory is itself a directory that does not end in a slash. -/
theorem bare_below (hne : seg ≠ "") (hslash : '/' ∉ seg.toList) (dir : String) :
    below dir seg ≠ "" ∧ (below dir seg).toList.getLast? ≠ some '/' := by
  obtain ⟨init, c, hchars⟩ :=
    (List.eq_nil_or_concat seg.toList).resolve_left (mt String.toList_eq_nil_iff.mp hne)
  rw [List.concat_eq_append] at hchars
  have hc : c ≠ '/' := by
    rintro rfl
    exact hslash (by simp [hchars])
  have hend : ∃ before, (below dir seg).toList = before ++ [c] := by
    rw [below]
    split
    · exact ⟨dir.toList ++ init, by simp [hchars]⟩
    · exact ⟨(dir ++ "/").toList ++ init, by simp [hchars]⟩
  obtain ⟨before, hbefore⟩ := hend
  refine ⟨fun e => ?_, by simpa [hbefore] using hc⟩
  simp [e] at hbefore

/-- Two segments that are put below a directory, one after the other, are there as one path. -/
theorem below_below (hne : seg ≠ "") (hslash : '/' ∉ seg.toList) (dir name : String) :
    below (below dir seg) name = below dir (seg ++ "/" ++ name) := by
  obtain ⟨hne', hbare⟩ := bare_below hne hslash dir
  rw [below_of_bare hne' hbare, below, below]
  split
  · simp only [String.append_assoc]
  · simp only [String.append_assoc]

/-- Segments that are put below a directory one after the other are there as one path. -/
theorem foldl_below (hne : segs ≠ []) (h : ∀ s ∈ segs, s ≠ "" ∧ '/' ∉ s.toList) (dir : String) :
    segs.foldl below dir = below dir (Path.join segs) := by
  induction segs generalizing dir with
  | nil => exact absurd rfl hne
  | cons seg segs ih =>
    obtain ⟨hseg, hslash⟩ := h seg List.mem_cons_self
    by_cases hsegs : segs = []
    · rw [hsegs]
      rfl
    · rw [List.foldl_cons, ih hsegs fun s hs => h s (List.mem_cons_of_mem _ hs),
        below_below hseg hslash, Path.join_cons seg hsegs]

/-- A name that is put below a directory lies below it. -/
theorem liesBelow_below (h : Path.IsName name) (dir : String) :
    Path.LiesBelow dir name (below dir name) := by
  by_cases hne : dir = ""
  · rw [hne]
    exact Path.liesBelow_empty h
  · by_cases hslash : dir.toList.getLast? = some '/'
    · -- the slash that the directory ends in is the one that parts it from the name
      obtain ⟨init, hinit⟩ := List.getLast?_eq_some_iff.mp hslash
      have hdir : dir = String.ofList init ++ "/" := by
        apply String.ext
        simp [hinit]
      have hbelow : below dir name = dir ++ name := if_pos (.inr hslash)
      intro trail
      rw [hbelow, hdir, Path.walk_slash]
      exact Path.liesBelow_slash _ h trail
    · rw [below_of_bare hne hslash]
      exact Path.liesBelow_slash dir h

/-! ## Where a link leads

The output, the source and the dependency of a link are worked out by three different functions. All of
them begin with the name that the link leads to, and there is none exactly if a link climbs out, is
external or says nothing. -/

/-- The source that a link leads to is put below the sources by its name. -/
theorem sourcePath?_eq (d : Draft) (link : String) :
    d.sourcePath? link = (d.location.canonical? link).map (below d.sourceDirectory) := by
  rw [sourcePath?]
  cases h : d.location.canonical? link with
  | none => rfl
  | some name =>
    have hsegs : ∀ s ∈ Path.segments name, s ≠ "" ∧ '/' ∉ s.toList := fun s hs =>
      ⟨((Location.isName_of_canonical? h).plain s hs).1, Path.slash_not_mem_of_mem_segments hs⟩
    rw [Option.map_some, Option.map_some, foldl_below (Path.segments_ne_nil name) hsegs,
      Path.join_segments]

/-- The output that a link leads to is put below the targets by its name. -/
theorem output?_eq (loc : Location) (link : String) :
    ∃ dir, Path.Unslashed loc.targetDirectory dir ∧
      loc.output? link =
        (loc.canonical? link).map fun name => if dir = "" then name else dir ++ "/" ++ name :=
  ⟨_, Path.unslashed_stripEnd loc.targetDirectory, rfl⟩

/-- What is written below a directory without its slashes lies below the directory. -/
theorem liesBelow_output {path : String} (hdir : Path.Unslashed path dir) (h : Path.IsName name) :
    Path.LiesBelow path name (if dir = "" then name else dir ++ "/" ++ name) := by
  intro trail
  rw [hdir.walk_eq]
  split
  · rename_i hempty
    rw [hempty]
    exact Path.liesBelow_empty h trail
  · exact Path.liesBelow_slash dir h trail

/-- **Links stay inside.** A link without a name has no output and no source, and is refused as a
dependency without a trace. The name of any other link is a row of plain segments; its output is the name
in the directory of targets, its source the name in the directory of sources, and neither climbs on the
way; and as a dependency it comes in under this name and brings in no other. -/
theorem links_confined (d : Draft) (link : String) :
    (d.location.canonical? link = none →
      d.location.output? link = none ∧ d.sourcePath? link = none ∧
      ∀ isPending, Call.run (addDependency link isPending) d = (.error (.noCanonicalUrl link), d)) ∧
    ∀ name, d.location.canonical? link = some name →
      (name ≠ "" ∧ name = Path.join (Path.segments name) ∧
        (∀ seg ∈ Path.segments name, seg ≠ "" ∧ seg ≠ "." ∧ seg ≠ ".." ∧ '/' ∉ seg.toList) ∧
        Path.normalize name = some name) ∧
      (∃ dir output, Path.Unslashed d.config.targetDirectory dir ∧
        d.location.output? link = some output ∧
        output = (if dir = "" then name else dir ++ "/" ++ name) ∧
        Path.LiesBelow d.config.targetDirectory name output) ∧
      (∃ source, d.sourcePath? link = some source ∧ source = below d.sourceDirectory name ∧
        Path.LiesBelow d.sourceDirectory name source) ∧
      ∀ isPending, ∃ deps,
        Call.run (addDependency link isPending) d = (.ok (), { d with dependencies := deps }) ∧
        Dependency.ofPath name isPending ∈ deps ∧
        ∀ dep ∈ deps, dep ∈ d.dependencies ∨ dep = Dependency.ofPath name isPending := by
  obtain ⟨dir, hdir, houtput⟩ := output?_eq d.location link
  rw [sourcePath?_eq, houtput]
  simp only [run_addDependency]
  constructor
  · intro hnone
    rw [hnone]
    exact ⟨rfl, rfl, fun _ => rfl⟩
  · intro name hname
    have h := Location.isName_of_canonical? hname
    rw [hname]
    refine ⟨⟨h.ne_empty, (Path.join_segments name).symm, fun seg hseg => ?_, h.normal⟩,
      ⟨dir, _, hdir, rfl, rfl, liesBelow_output hdir h⟩,
      ⟨_, rfl, rfl, liesBelow_below h _⟩, fun isPending => ⟨_, rfl, ?_, fun dep hdep => ?_⟩⟩
    · obtain ⟨hempty, hdot, hup⟩ := h.plain seg hseg
      exact ⟨hempty, hdot, hup, Path.slash_not_mem_of_mem_segments hseg⟩
    · exact Dependency.mem_add.mpr (.inl rfl)
    · exact (Dependency.mem_add.mp hdep).symm

/-- A link with dots, doubled slashes, a fragment and blanks around it, from a document two directories
deep; and one that climbs out from there. -/
theorem links_confined_logo :
    let page : Draft := {
      file := "guide/start/intro"
      config := { targetDirectory := "build//" }
      sourceDirectory := "/srv/docs" }
    let link := " .././/img/../logo.png#top "
    page.location.canonical? link = some "guide/logo.png" ∧
    page.location.output? link = some "build/guide/logo.png" ∧
    Path.LiesBelow "build//" "guide/logo.png" "build/guide/logo.png" ∧
    page.sourcePath? link = some "/srv/docs/guide/logo.png" ∧
    Path.LiesBelow "/srv/docs" "guide/logo.png" "/srv/docs/guide/logo.png" ∧
    (∃ deps, Call.run (addDependency link true) page = (.ok (), { page with dependencies := deps }) ∧
      .pending "guide/logo.png" ∈ deps) ∧
    page.location.output? "../../../logo.png" = none ∧ page.sourcePath? "../../../logo.png" = none := by
  intro page link
  have hname : page.location.canonical? link = some "guide/logo.png" := by decide +kernel
  have houtput : page.location.output? link = some "build/guide/logo.png" := by decide +kernel
  have hsource : page.sourcePath? link = some "/srv/docs/guide/logo.png" := by decide +kernel
  obtain ⟨-, hinside⟩ := links_confined page link
  obtain ⟨-, ⟨_, output, -, hput, -, hbelow⟩, ⟨source, hread, -, hbelow'⟩, hadded⟩ := hinside _ hname
  obtain ⟨deps, hrun, hmem, -⟩ := hadded true
  obtain ⟨hclimbs, -⟩ := links_confined page "../../../logo.png"
  obtain ⟨hunwritten, hunread, -⟩ := hclimbs (by decide +kernel)
  rw [Option.some.inj (houtput.symm.trans hput)]
  rw [Option.some.inj (hsource.symm.trans hread)]
  exact ⟨hname, hput, hbelow, hread, hbelow', ⟨deps, hrun, hmem⟩, hunwritten, hunread⟩

end Draft

end Crosslink
