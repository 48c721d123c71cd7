import Crosslink.Url.Domain
import Crosslink.Url.Ipv4
import Crosslink.Url.Ipv6

/-!
# Hosts

Who a url speaks to. Under the schemes of the web a host is a domain name, an IPv4 address or an IPv6
address in brackets, and percent codes in it are resolved first. Under any other scheme a host is
an IPv6 address in brackets or a text without delimiters.

* `isWebHost` and `isPlainHost` are the two rules.
-/

namespace Crosslink.Url

/-- Whether a text in brackets is an address; `none` for a text that does not begin with a bracket. -/
def bracketed? : List Char → Option Bool
  | '[' :: rest => some (rest.getLast? = some ']' && Ipv6.isAddress rest.dropLast)
  | _ => none

/-- The bytes of a text with its percent codes resolved. -/
def percentDecode : List Char → List UInt8
  | [] => []
  | '%' :: a :: b :: rest =>
    match Text.readDigits? 16 [a, b] with
    | some n => n.toUInt8 :: percentDecode rest
    | none => 0x25 :: percentDecode (a :: b :: rest)
  | c :: rest => (String.singleton c).toUTF8.toList ++ percentDecode rest

/-- Whether a text is the host of a web url. -/
def isWebHost (host : List Char) : Bool :=
  match bracketed? host with
  | some isAddress => isAddress
  | none =>
    match String.fromUTF8? ⟨(percentDecode host).toArray⟩ with
    | none => false
    | some name =>
      match Domain.normalize? name.toList with
      | none => false
      | some name => name ≠ [] && (!Ipv4.endsInNumber name || Ipv4.isAddress name)

/-- What may not stand in the host of a url outside the web. -/
def isDelimiter (c : Char) : Bool :=
  c.toNat = 0 || "\t\n\r #/:<>?@[\\]^|".contains c

/-- Whether a text is the host of a url outside the web; it may be empty. -/
def isPlainHost (host : List Char) : Bool :=
  match bracketed? host with
  | some isAddress => isAddress
  | none => !host.any isDelimiter

end Crosslink.Url
