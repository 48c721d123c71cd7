import Crosslink.Text.Blank
import Crosslink.Url.Authority

/-!
# External urls

A link leaves the corpus when it is an absolute url. Many document names hold a colon, so a colon alone
does not make a url: the text has to be one as a whole, and its scheme has to be followed by `://` or
be one of the schemes that are used without slashes.

* `Url.scheme?` is the scheme of a text that is an absolute url as a whole.
* `Url.isExternal` says whether a link leaves the corpus.
-/

namespace Crosslink.Url

/-- What is left of a text when a url is read from it: control characters and spaces at its ends do not
count, and neither do tabs and line breaks anywhere. -/
def clean (text : List Char) : List Char :=
  (Text.strip (·.toNat ≤ 0x20) text).filter fun c => c ≠ '\t' && c ≠ '\n' && c ≠ '\r'

/-- Whether a character may stand in a scheme behind its first letter. -/
def isSchemeChar (c : Char) : Bool :=
  c.isAlphanum || c = '+' || c = '-' || c = '.'

/-- The scheme at the beginning of a text, in small letters, and what follows its colon. -/
def splitScheme? (text : List Char) : Option (List Char × List Char) :=
  let scheme := text.takeWhile isSchemeChar
  match scheme, text.drop scheme.length with
  | first :: _, ':' :: rest => if first.isAlpha then some (scheme.map Char.toLower, rest) else none
  | _, _ => none

/-- The kind of a scheme in small letters. -/
def schemeKind (scheme : List Char) : SchemeKind :=
  if scheme = "file".toList then .file
  else if ["http", "https", "ws", "wss", "ftp"].contains (String.ofList scheme) then .web
  else .other

/-- Whether a character is a slash of either kind. -/
def isSlash (c : Char) : Bool :=
  c = '/' || c = '\\'

/-- Whether a text is the name of a drive, which stands in the place of a host in some file urls. -/
def isDrive : List Char → Bool
  | [letter, mark] => letter.isAlpha && (mark = ':' || mark = '|')
  | _ => false

/-- Whether a file url may go on with `text` behind its slashes. -/
def isFileHost (text : List Char) : Bool :=
  let host := text.takeWhile (!SchemeKind.file.endsAuthority ·)
  host = [] || isDrive host || isWebHost host

/-- Whether an absolute url of the given kind may go on with `rest` behind its scheme. -/
def isUrlRest (kind : SchemeKind) (rest : List Char) : Bool :=
  match kind with
  | .web => isAuthority .web (rest.dropWhile isSlash)
  | .file =>
    match rest with
    | a :: b :: text => !(isSlash a && isSlash b) || isFileHost text
    | _ => true
  | .other =>
    match rest with
    | '/' :: '/' :: text => isAuthority .other text
    | _ => true

/-- The scheme, in small letters, of a text that is an absolute url as a whole. -/
def scheme? (text : List Char) : Option (List Char) :=
  match splitScheme? (clean text) with
  | none => none
  | some (scheme, rest) => if isUrlRest (schemeKind scheme) rest then some scheme else none

/-- The schemes that lead out of the corpus without slashes. -/
def slashlessSchemes : List String :=
  ["data", "javascript", "mailto", "news", "sms", "tel", "urn"]

/-- `text` without its first `n` bytes; `none` if they do not end between two characters. -/
def dropBytes? : Nat → List Char → Option (List Char)
  | 0, text => some text
  | _ + 1, [] => none
  | n + 1, c :: rest => if c.utf8Size ≤ n + 1 then dropBytes? (n + 1 - c.utf8Size) rest else none

/-- Whether a link leaves the corpus. -/
def isExternal (url : String) : Bool :=
  let text := Text.strip Text.isBlank url.toList
  match scheme? text with
  | none => false
  | some scheme =>
    (dropBytes? scheme.length text).any ("://".toList.isPrefixOf ·)
      || slashlessSchemes.contains (String.ofList scheme)

end Crosslink.Url
