/-!
# Fragments

A link may name a place inside its target: what follows its first `#`.

* `Fragment.split` takes the fragment off a link, `Fragment.attach` puts one back; an empty fragment
  names nothing and is not put back.
-/

namespace Crosslink.Fragment

/-- The path of a link, up to its first `#`. -/
def path (link : String) : String :=
  .ofList (link.toList.takeWhile (· ≠ '#'))

/-- The fragment of a link, behind its first `#`; `none` if it has no `#`. -/
def fragment? (link : String) : Option String :=
  match link.toList.dropWhile (· ≠ '#') with
  | [] => none
  | _ :: fragment => some (.ofList fragment)

/-- The path and the fragment of a link. -/
def split (link : String) : String × Option String :=
  (path link, fragment? link)

/-- A path with a fragment that names something. -/
def attach (path : String) : Option String → String
  | none => path
  | some fragment => if fragment = "" then path else path ++ "#" ++ fragment

@[simp]
theorem attach_none (path : String) : attach path none = path := rfl

end Crosslink.Fragment
