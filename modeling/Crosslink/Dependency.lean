/-!
# Dependencies

A document depends on the documents it links to. A dependency is resolved when the other document is
known, and pending while there is only a name for it. Resolved and pending dependencies on one name are
different, and a list of dependencies keeps the order in which they were found.

* `add` puts a dependency at the end of a list, and `mem_add` says what that does to its members.
* `pendingPaths` and `resolvedPaths` are the names that stand in it.

A document that has been published has two such lists, and each takes out and promotes dependencies by its
own means: `Draft.dropDependency` and `Draft.promoteDependency`, `Entry.dropDependency` and
`Entry.promoteDependency`.
-/

namespace Crosslink

/-- A dependency of a document. -/
inductive Dependency where
  /-- on a known document -/
  | resolved (path : String)
  /-- on a document that is not known yet -/
  | pending (path : String)
  deriving DecidableEq, Repr

namespace Dependency

/-- The name of the document that is depended on. -/
def path : Dependency → String
  | resolved path | pending path => path

/-- Whether the document is not known yet. -/
def isPending : Dependency → Bool
  | pending _ => true
  | resolved _ => false

/-- A dependency as text. -/
def display : Dependency → String
  | resolved path => path
  | pending path => path ++ " (pending)"

/-- The dependency on a document, pending or not. -/
def ofPath (path : String) (isPending : Bool) : Dependency :=
  if isPending then pending path else resolved path

/-- Adds a dependency at the end of a list that does not hold it. -/
def add (d : Dependency) (deps : List Dependency) : List Dependency :=
  if d ∈ deps then deps else deps ++ [d]

/-- The names that a list of dependencies waits for, in order. -/
def pendingPaths (deps : List Dependency) : List String :=
  (deps.filter isPending).map path

/-- The names of the known documents in a list of dependencies, in order. -/
def resolvedPaths (deps : List Dependency) : List String :=
  (deps.filter (!·.isPending)).map path

@[simp]
theorem path_ofPath (path : String) (isPending : Bool) : (ofPath path isPending).path = path := by
  cases isPending <;> rfl

/-! ## Members

What stands in a list after a dependency has been added, and that nothing stands in it twice. The names of
a list are those of its members of the one kind or of the other. -/

@[simp]
theorem mem_add {d e : Dependency} {deps : List Dependency} :
    e ∈ add d deps ↔ e = d ∨ e ∈ deps := by
  unfold add
  split
  · rename_i h
    exact ⟨.inr, fun h' => h'.elim (· ▸ h) id⟩
  · simp [or_comm]

theorem nodup_add {d : Dependency} {deps : List Dependency} (h : deps.Nodup) :
    (add d deps).Nodup := by
  unfold add
  split
  · exact h
  · rename_i hd
    exact List.nodup_append.mpr ⟨h, by simp, fun a ha b hb => by
      rw [List.mem_singleton.mp hb]
      exact fun e => hd (e ▸ ha)⟩

@[simp]
theorem mem_pendingPaths {key : String} {deps : List Dependency} :
    key ∈ pendingPaths deps ↔ pending key ∈ deps := by
  simp only [pendingPaths, List.mem_map, List.mem_filter]
  constructor
  · rintro ⟨d, ⟨hd, hpending⟩, rfl⟩
    cases d with
    | resolved _ => cases hpending
    | pending _ => exact hd
  · exact fun h => ⟨_, ⟨h, rfl⟩, rfl⟩

@[simp]
theorem mem_resolvedPaths {file : String} {deps : List Dependency} :
    file ∈ resolvedPaths deps ↔ resolved file ∈ deps := by
  simp only [resolvedPaths, List.mem_map, List.mem_filter]
  constructor
  · rintro ⟨d, ⟨hd, hresolved⟩, rfl⟩
    cases d with
    | resolved _ => exact hd
    | pending _ => cases hresolved
  · exact fun h => ⟨_, ⟨h, rfl⟩, rfl⟩

end Dependency

end Crosslink
