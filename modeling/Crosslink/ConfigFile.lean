import Crosslink.Config
import Crosslink.Fault
import Crosslink.Toml.Reader
import Crosslink.Toml.Writer

/-!
# Settings as a file

The output settings are kept in a TOML file. A setting that the file leaves out has its default, and what
else is in the file is passed over.

* `Config.ofToml` reads the settings off a text, `Config.ofBytes` off a file.
* `Config.toToml` writes them.
-/

namespace Crosslink.Config

/-- A setting that is a text. -/
def textSetting? (members : Toml.Members) (name default : String) : Option String :=
  match members.lookup name with
  | none => some default
  | some (.string text) => some text
  | some _ => none

/-- A setting that is a truth value. -/
def boolSetting? (members : Toml.Members) (name : String) (default : Bool) : Option Bool :=
  match members.lookup name with
  | none => some default
  | some (.boolean b) => some b
  | some _ => none

/-- The settings in the content of a file. -/
def ofMembers? (members : Toml.Members) : Option Config := do
  let default : Config := {}
  let targetDirectory ← textSetting? members "target_directory" default.targetDirectory
  let outputExtension ← textSetting? members "output_extension" default.outputExtension
  let useRelativeUrls ← boolSetting? members "use_relative_urls" default.useRelativeUrls
  return { targetDirectory, outputExtension, useRelativeUrls }

/-- The settings that a text gives. -/
def ofToml (text : String) : Except Fault Config :=
  match (Toml.parse? text).bind ofMembers? with
  | some config => .ok config
  | none => .error .unreadableToml

/-- The settings that a file gives. -/
def ofBytes (bytes : ByteArray) : Except Fault Config :=
  match String.fromUTF8? bytes with
  | some text => ofToml text
  | none => .error (.ofFile .invalidData "stream did not contain valid UTF-8")

/-- The settings as the text of a file. -/
def toToml (config : Config) : String :=
  let directory := Toml.quote config.targetDirectory
  let extension := Toml.quote config.outputExtension
  let relative := if config.useRelativeUrls then "true" else "false"
  s!"target_directory = {directory}\noutput_extension = {extension}\nuse_relative_urls = {relative}\n"

end Crosslink.Config
