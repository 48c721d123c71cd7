/-!
# Faults

What can go wrong with a build, as opposed to the content of a document. A broken reference is no fault;
a reference of an unknown kind, a path that leads nowhere and a file that cannot be read are.

A text that cannot be read back is only said to be unreadable. The readers of JSON and TOML here answer that
they cannot go on and not where or why, so the words that a reader would put behind the colon, after
`unreadableJson` and `unreadableToml`, are left out.

* `Fault.message` words a fault.
* `Fault.ofFile` is the fault that a failure of the file system comes to.
-/

namespace Crosslink

/-- A reason why a call is refused. -/
inductive Fault where
  /-- a path without canonical form -/
  | noCanonicalUrl (path : String)
  /-- a reason given by an extension -/
  | custom (text : String)
  /-- a failure of the file system -/
  | fileSystem (text : String)
  /-- a file that is not there -/
  | notFound (text : String)
  /-- a number outside its range -/
  | outOfRange (text : String)
  /-- a file that may not be touched -/
  | permissionDenied
  /-- a text that cannot be read back -/
  | serialization (text : String)
  /-- a kind of reference that has no resolver -/
  | unknownRole (role : String)
  deriving DecidableEq, Repr

namespace Fault

/-- The wording of a fault. -/
def message : Fault → String
  | noCanonicalUrl path => s!"Unable to compute a canonical url for '{path}'"
  | custom text => s!"Custom error: {text}"
  | fileSystem text => s!"File System error: {text}"
  | notFound text => s!"Item Not Found: {text}"
  | outOfRange text => s!"Value out of range: {text}"
  | permissionDenied => "You do not have permission to access this resource"
  | serialization text => s!"(De)Serialization error: {text}"
  | unknownRole role =>
    s!"Unknown reference section '{role}'. Register a resolver for it before compiling."

/-- Whether the build is set up wrongly, rather than a document written wrongly. -/
def isStructural : Fault → Bool
  | unknownRole _ => true
  | _ => false

/-- The fault of a text that should be JSON, without what the reader has to say of it. -/
def unreadableJson : Fault := .serialization "JSON (de)serialization error"

/-- The fault of a text that should be TOML, without what the reader has to say of it. -/
def unreadableToml : Fault := .serialization "Toml deserialization error"

end Fault

/-- The failures of a file system. -/
inductive FileFailure where
  | addressInUse | addressNotAvailable | alreadyExists | argumentListTooLong | brokenPipe
  | connectionAborted | connectionRefused | connectionReset | crossesDevices | deadlock
  | directoryNotEmpty | executableFileBusy | fileTooLarge | filesystemLoop | hostUnreachable
  | inProgress | interrupted | invalidData | invalidFilename | invalidInput | isADirectory
  | networkDown | networkUnreachable | notADirectory | notConnected | notFound | notSeekable | other
  | outOfMemory | permissionDenied | quotaExceeded | readOnlyFilesystem | resourceBusy
  | staleNetworkFileHandle | storageFull | timedOut | tooManyLinks | uncategorized | unexpectedEof
  | unsupported | wouldBlock | writeZero
  deriving DecidableEq, Repr

/-- The description of a failure. -/
def FileFailure.description : FileFailure → String
  | addressInUse => "address in use"
  | addressNotAvailable => "address not available"
  | alreadyExists => "entity already exists"
  | argumentListTooLong => "argument list too long"
  | brokenPipe => "broken pipe"
  | connectionAborted => "connection aborted"
  | connectionRefused => "connection refused"
  | connectionReset => "connection reset"
  | crossesDevices => "cross-device link or rename"
  | deadlock => "deadlock"
  | directoryNotEmpty => "directory not empty"
  | executableFileBusy => "executable file busy"
  | fileTooLarge => "file too large"
  | filesystemLoop => "filesystem loop or indirection limit (e.g. symlink loop)"
  | hostUnreachable => "host unreachable"
  | inProgress => "in progress"
  | interrupted => "operation interrupted"
  | invalidData => "invalid data"
  | invalidFilename => "invalid filename"
  | invalidInput => "invalid input parameter"
  | isADirectory => "is a directory"
  | networkDown => "network down"
  | networkUnreachable => "network unreachable"
  | notADirectory => "not a directory"
  | notConnected => "not connected"
  | notFound => "entity not found"
  | notSeekable => "seek on unseekable file"
  | other => "other error"
  | outOfMemory => "out of memory"
  | permissionDenied => "permission denied"
  | quotaExceeded => "quota exceeded"
  | readOnlyFilesystem => "read-only filesystem or storage medium"
  | resourceBusy => "resource busy"
  | staleNetworkFileHandle => "stale network file handle"
  | storageFull => "no storage space"
  | timedOut => "timed out"
  | tooManyLinks => "too many links"
  | uncategorized => "uncategorized error"
  | unexpectedEof => "unexpected end of file"
  | unsupported => "unsupported"
  | wouldBlock => "operation would block"
  | writeZero => "write zero"

/-- The fault that a failure of the file system comes to. A missing file is reported with the text that
came with the failure; of any other failure only the kind is told. -/
def Fault.ofFile (failure : FileFailure) (text : String) : Fault :=
  match failure with
  | .notFound => .notFound text
  | .permissionDenied => .permissionDenied
  | failure => .fileSystem s!"IOError: {failure.description}"

/-- What the file system says of a path where there is no file. -/
def Fault.missingFile : Fault :=
  .ofFile .notFound "No such file or directory (os error 2)"

end Crosslink
