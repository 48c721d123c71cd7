import Crosslink.Fragment
import Crosslink.Path
import Crosslink.Url.External

/-!
# Locations

The links of a document are read from where the document stands. A link is rooted when it begins with a
slash and is then read from the root of the corpus; otherwise it is read from the directory of the
document. Links that leave the corpus are left as they are.

* `canonical?` is the one name that all links to a document share.
* `absolute` and `relative` spell a link as rooted, or as read from the page written for the document.
* `output?` is where a file goes in the output tree.
-/

namespace Crosslink

/-- Where a document stands and where its page is written. -/
structure Location where
  /-- the name of the document, from the root of the corpus -/
  file : String
  /-- the directory that the output tree is written below -/
  targetDirectory : String
  /-- the url the page is written to, where it is not the name of the document -/
  override : Option String := none
  deriving DecidableEq, Repr

namespace Location

/-- The directory of the document. -/
def directory (loc : Location) : String := Path.parent loc.file

/-- The url of the page: the override, or else the name of the document. -/
def url (loc : Location) : String := loc.override.getD loc.file

/-- The path that a link without fragment stands for, from the root of the corpus and not yet
normalized. -/
def joined (loc : Location) (path : String) : String :=
  match path.toList with
  | '/' :: rooted => .ofList rooted
  | _ => loc.directory ++ "/" ++ path

/-- The name of the document that a link leads to, whatever its fragment; `none` for a link without
path, one that leaves the corpus, and one that climbs above its root or stops there. -/
def canonical? (loc : Location) (link : String) : Option String :=
  let path := Fragment.path (Text.trim link)
  if path = "" ∨ Url.isExternal path then none
  else (Path.normalize (loc.joined path)).filter (· ≠ "")

/-- Whether a link is rooted. -/
def isRooted (link : String) : Bool := link.toList.head? = some '/'

/-- The rooted spelling of a link. -/
def absolute (loc : Location) (link : String) : String :=
  if Url.isExternal link ∨ isRooted link then link
  else match loc.canonical? link with
    | some name => Fragment.attach ("/" ++ name) (Fragment.fragment? link)
    | none => link

/-- The spelling of a link that is read from where the page of the document is written. -/
def relative (loc : Location) (link : String) : String :=
  if Url.isExternal link ∨ !isRooted link then link
  else
    let rooted := String.ofList (link.toList.drop 1)
    match Path.normalize (Fragment.path rooted) with
    | none => link
    | some target =>
      if target = "" then link
      else Fragment.attach (Path.between (Path.parent loc.url) target) (Fragment.fragment? rooted)

/-- Where the file that a link leads to goes in the output tree. -/
def output? (loc : Location) (link : String) : Option String :=
  (loc.canonical? link).map fun name =>
    let target := String.ofList (Text.stripEnd (· = '/') loc.targetDirectory.toList)
    if target = "" then name else target ++ "/" ++ name

end Location

end Crosslink
