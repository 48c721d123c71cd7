import Crosslink.Table
import Crosslink.Text.Blank
import Crosslink.Text.Lowercase

/-!
# Link tables

The named link targets of one document. Names are compared without regard to case and to white space
around them. A target may be left anonymous; the n-th anonymous target belongs to the n-th anonymous
reference, so the names of such references wait in a queue.

* `LinkTable.bind` files a target and tells under which name.
* `LinkTable.enqueue` lets the name of an anonymous reference wait.
* `get?_bind` and `waiting_bind` say what a new target does to every look-up and to the queue.
-/

namespace Crosslink

namespace LinkName

/-- The name that a spelling of a link name stands for. -/
def normalize (name : String) : String := Text.lowercase (Text.trim name)

/-- The name of anonymous targets. -/
def anonymous : String := "_"

/-- Whether a target of this name is anonymous. -/
def isAnonymous (name : String) : Bool := normalize name = anonymous

end LinkName

/-- The link targets of a document. -/
structure LinkTable where
  /-- the urls, by name -/
  links : Table String := ∅
  /-- the names of the anonymous references whose target has not come yet, the first first -/
  waiting : List String := []
  deriving DecidableEq, Repr

namespace LinkTable

/-- The name that a target is filed under: for an anonymous one the name that has waited longest, if
any name is waiting. -/
def boundName (t : LinkTable) (name : String) : String :=
  if LinkName.isAnonymous name then t.waiting.headD LinkName.anonymous else LinkName.normalize name

/-- Files a target, in place of an earlier one of the same name. -/
def bind (t : LinkTable) (name url : String) : LinkTable where
  links := t.links.insert (t.boundName name) (Text.trim url)
  waiting := if LinkName.isAnonymous name then t.waiting.tail else t.waiting

/-- Lets the name of an anonymous reference wait for its target. -/
def enqueue (t : LinkTable) (name : String) : LinkTable :=
  { t with waiting := t.waiting ++ [LinkName.normalize name] }

/-- Lets no name wait any longer. -/
def resetQueue (t : LinkTable) : LinkTable := { t with waiting := [] }

/-- The url filed under a name. -/
def get? (t : LinkTable) (name : String) : Option String := t.links.get? (LinkName.normalize name)

/-! ## What the operations do

A new target shows in the look-ups of one name, and if it is anonymous it takes the name that has waited
longest out of the queue. -/

/-- After a target has been filed its url is found under every spelling of the name that it is bound to.
-/
theorem get?_bind (t : LinkTable) (name url other : String) :
    (t.bind name url).get? other =
      if LinkName.normalize other = t.boundName name then some (Text.trim url) else t.get? other :=
  Table.get?_insert ..

theorem waiting_bind (t : LinkTable) (name url : String) :
    (t.bind name url).waiting = if LinkName.isAnonymous name then t.waiting.tail else t.waiting := by
  rw [bind]

end LinkTable

end Crosslink
