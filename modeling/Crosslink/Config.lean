/-!
# Output settings

How the pages of a corpus are laid out.

* `Config.documentUrl` is the url of the page of a document.
-/

namespace Crosslink

/-- The settings of an output tree. -/
structure Config where
  /-- the directory that the tree is written below -/
  targetDirectory : String := ""
  /-- the extension of the pages, which may be empty -/
  outputExtension : String := "html"
  /-- whether rooted urls are written as seen from the page that they stand on -/
  useRelativeUrls : Bool := true
  deriving DecidableEq, Repr, Inhabited

/-- The url of the page for a document url: the extension is put behind a dot. -/
def Config.documentUrl (config : Config) (url : String) : String :=
  if config.outputExtension = "" then url else url ++ "." ++ config.outputExtension

end Crosslink
