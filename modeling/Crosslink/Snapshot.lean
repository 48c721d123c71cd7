import Crosslink.Config
import Crosslink.Diagnostic
import Crosslink.Fault
import Crosslink.Json.Reader
import Crosslink.Json.Record
import Crosslink.Json.Writer
import Crosslink.Reference
import Crosslink.Store

/-!
# Snapshots

The values of a build as JSON. A snapshot of the store is kept between builds, so that only the
documents that changed have to be compiled again.

* `toJson` and `ofJson?` of each type are the two directions.
* `Store.save` and `Store.load` are the snapshot of a store as text.
-/

namespace Crosslink

open Json

namespace Dependency

/-- A dependency as JSON: its path under the name of its state. -/
def toJson : Dependency → Json
  | resolved path => record [("Resolved", ofText path)]
  | pending path => record [("Pending", ofText path)]

/-- The dependency that a JSON value writes. -/
def ofJson? (json : Json) : Option Dependency :=
  match tagged? json with
  | some ("Resolved", some value) => (asText? value).map resolved
  | some ("Pending", some value) => (asText? value).map pending
  | _ => none

end Dependency

namespace Heading

/-- A title as JSON. -/
def toJson (heading : Heading) : Json :=
  record [("level", natural heading.level), ("text", ofText heading.text),
    ("anchor", ofText heading.anchor), ("number", ofText heading.number)]

/-- The title that a JSON value writes. -/
def ofJson? (json : Json) : Option Heading :=
  match fields? false ["level", "text", "anchor", "number"] json with
  | some [some level, some text, some anchor, some number] => do
    return ⟨← asNatural? level, ← asText? text, ← asText? anchor, ← asText? number⟩
  | _ => none

end Heading

/-- The value of a field for a text that may be missing. -/
def optionalField? : Option Json → Option (Option String)
  | none => some none
  | some value => asOptionalText? value

namespace Entry

/-- An entry as JSON. -/
def toJson (entry : Entry) : Json :=
  record [("file", ofText entry.file), ("url", ofText entry.url), ("title", optionalText entry.title),
    ("titles", .array (entry.titles.map Heading.toJson)),
    ("anchors", .array (entry.anchors.map ofText)),
    ("dependencies", .array (entry.dependencies.map Dependency.toJson))]

/-- The entry that a JSON value writes. -/
def ofJson? (json : Json) : Option Entry :=
  match fields? false ["file", "url", "title", "titles", "anchors", "dependencies"] json with
  | some [some file, some url, title, some titles, some anchors, some dependencies] => do
    return {
      file := ← asText? file
      url := ← asText? url
      title := ← optionalField? title
      titles := ← asList? Heading.ofJson? titles
      anchors := ← asList? asText? anchors
      dependencies := ← asList? Dependency.ofJson? dependencies }
  | _ => none

end Entry

namespace BrokenLink

/-- A broken reference as JSON. -/
def toJson (link : BrokenLink) : Json :=
  record [("target", ofText link.target), ("section", ofText link.role)]

/-- The broken reference that a JSON value writes. -/
def ofJson? (json : Json) : Option BrokenLink :=
  match fields? false ["target", "section"] json with
  | some [some target, some role] => do return ⟨← asText? target, ← asText? role⟩
  | _ => none

end BrokenLink

namespace Reference

/-- A resolved reference as JSON. -/
def toJson (reference : Reference) : Json :=
  record [("file", ofText reference.file), ("url", ofText reference.url),
    ("anchor", optionalText reference.anchor), ("title", optionalText reference.title)]

/-- The resolved reference that a JSON value writes. -/
def ofJson? (json : Json) : Option Reference :=
  match fields? false ["file", "url", "anchor", "title"] json with
  | some [some file, some url, anchor, title] => do
    return ⟨← asText? file, ← asText? url, ← optionalField? anchor, ← optionalField? title⟩
  | _ => none

end Reference

namespace Config

/-- Output settings as JSON. -/
def toJson (config : Config) : Json :=
  record [("target_directory", ofText config.targetDirectory),
    ("output_extension", ofText config.outputExtension),
    ("use_relative_urls", .bool config.useRelativeUrls)]

/-- A field that keeps its default where it is not there. -/
def fieldOr? {α : Type} (default : α) (read? : Json → Option α) : Option Json → Option α
  | none => some default
  | some value => read? value

/-- The output settings that a JSON value writes; those that are not there keep their defaults. -/
def ofJson? (json : Json) : Option Config :=
  match fields? true ["target_directory", "output_extension", "use_relative_urls"] json with
  | some [targetDirectory, outputExtension, useRelativeUrls] => do
    let standard : Config := {}
    return {
      targetDirectory := ← fieldOr? standard.targetDirectory asText? targetDirectory
      outputExtension := ← fieldOr? standard.outputExtension asText? outputExtension
      useRelativeUrls := ← fieldOr? standard.useRelativeUrls asBool? useRelativeUrls }
  | _ => none

end Config

namespace Fault

/-- A fault as JSON: its text under the name of its kind, or the name alone. -/
def toJson : Fault → Json
  | noCanonicalUrl path => record [("CanonicalUrl", ofText path)]
  | custom reason => record [("Custom", ofText reason)]
  | fileSystem reason => record [("Io", ofText reason)]
  | notFound reason => record [("NotFound", ofText reason)]
  | outOfRange reason => record [("OutOfRange", ofText reason)]
  | permissionDenied => ofText "PermissionDenied"
  | serialization reason => record [("Serialization", ofText reason)]
  | unknownRole role => record [("UnknownSection", ofText role)]

/-- The fault that a JSON value writes. -/
def ofJson? (json : Json) : Option Fault :=
  match tagged? json with
  | some ("CanonicalUrl", some value) => (asText? value).map noCanonicalUrl
  | some ("Custom", some value) => (asText? value).map custom
  | some ("Io", some value) => (asText? value).map fileSystem
  | some ("NotFound", some value) => (asText? value).map notFound
  | some ("OutOfRange", some value) => (asText? value).map outOfRange
  | some ("PermissionDenied", none) => some permissionDenied
  | some ("PermissionDenied", some .null) => some permissionDenied
  | some ("Serialization", some value) => (asText? value).map serialization
  | some ("UnknownSection", some value) => (asText? value).map unknownRole
  | _ => none

end Fault

namespace Store

/-- A store as JSON: an object with the entries, by name. -/
def toJson (store : Store) : Json :=
  record (store.rows.map fun (file, entry) => (file, entry.toJson))

/-- The store that a JSON value writes; of two members with one name the later counts. -/
def ofJson? : Json → Option Store
  | .object members =>
    (members.mapM fun (member : Option String × Json) => do
      return (← member.1, ← Entry.ofJson? member.2)).map Table.ofList
  | _ => none

/-- The snapshot of a store. -/
def save (store : Store) : String := pretty store.toJson

/-- The store that a snapshot holds. -/
def load (snapshot : String) : Except Fault Store :=
  match (parse? snapshot).bind ofJson? with
  | some store => .ok store
  | none => .error .unreadableJson

end Store

end Crosslink
