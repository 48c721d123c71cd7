import Crosslink.Url.Host

/-!
# Authorities

What follows the two slashes of a url: credentials in front of an at sign, a host, and a port behind a
colon.

* `isAuthority` says whether a url may go on with a given text behind its slashes.
-/

namespace Crosslink.Url

/-- The three kinds of scheme. -/
inductive SchemeKind where
  /-- the schemes of the web, whose urls always have a host -/
  | web
  /-- files, whose host may be left out -/
  | file
  /-- any other scheme -/
  | other
  deriving DecidableEq, Repr

/-- Whether an authority ends before a character: the path, the query or the fragment begins. -/
def SchemeKind.endsAuthority (kind : SchemeKind) (c : Char) : Bool :=
  c = '/' || c = '?' || c = '#' || (kind ≠ .other && c = '\\')

/-- Takes the host off a text: up to the first colon outside brackets. -/
def takeHost : Bool → List Char → List Char × List Char
  | _, [] => ([], [])
  | inside, c :: rest =>
    if c = ':' ∧ !inside then ([], c :: rest)
    else
      let (host, port) := takeHost (c = '[' || (inside && c ≠ ']')) rest
      (c :: host, port)

/-- Whether a text behind the colon begins with a port: digits up to the end of the authority, for a
number of two bytes. -/
def isPort (value : Nat) : List Char → Bool
  | [] => true
  | c :: rest =>
    match Text.digit? 10 c with
    | some d => value * 10 + d ≤ 65535 && isPort (value * 10 + d) rest
    | none => c = '/' || c = '\\' || c = '?' || c = '#'

/-- The credentials and what follows them: all before the last at sign, if there is one. -/
def splitCredentials (text : List Char) : Option (List Char) × List Char :=
  let behind := (text.reverse.takeWhile (· ≠ '@')).reverse
  if behind.length = text.length then (none, text)
  else (some (text.take (text.length - behind.length - 1)), behind)

/-- Whether a url of the given kind may go on with `text` behind its slashes. -/
def isAuthority (kind : SchemeKind) (text : List Char) : Bool :=
  let authority := text.takeWhile (!kind.endsAuthority ·)
  let tail := text.drop authority.length
  let (credentials, hostAndPort) := splitCredentials authority
  let (host, port) := takeHost false hostAndPort
  let hostIsFit := if kind = .other then isPlainHost host else isWebHost host
  let portIsFit := match port with
    | [] => true
    | _ :: digits => host ≠ [] && isPort 0 (digits ++ tail)
  let credentialsAreFit := match credentials with
    | none => true
    | some [] => hostAndPort ≠ [] || tail = []
    | some [':'] => true
    | some _ => host ≠ []
  hostIsFit && portIsFit && credentialsAreFit

end Crosslink.Url
