import Manuscript.Text.Blank
import Manuscript.Text.Percent
import Manuscript.Text.Punycode

/-!
# Link destinations

A link destination is split into protocol, authority, host name, port, path, query and fragment
(`Url.parse`) and put together again (`Url.format`). Nothing is escaped or unescaped by the split,
so for most destinations formatting gives back the trimmed input; it differs where the host name
is not valid (the invalid rest moves into the path) and where parts are empty.

`Url.normalize` prepares a destination for output: it writes a non-ASCII host name of a web or
mail address in Punycode and percent-encodes the result. `Url.normalizeText` prepares the visible
text of an automatic link the other way round. `Url.isSafe` refuses the script-carrying
protocols.
-/

namespace Manuscript.Text

/-- The parts of a destination. Absent parts are `none`; the host name is present (maybe
empty) exactly when the destination names a host. -/
structure Url where
  protocol : Option String := none
  slashes : Bool := false
  auth : Option String := none
  port : Option String := none
  hostname : Option String := none
  hash : Option String := none
  search : Option String := none
  pathname : Option String := none
  deriving Inhabited, Repr

namespace Url

/-- Whether `c` may appear in a protocol name, letters compared without case. -/
def isProtocolChar (c : Char) : Bool :=
  c.isAlphanum || c == '.' || c == '+' || c == '-' || c == '\u017F' || c == '\u0131' ||
    c == '\u0130' || c == '\u212A'

/-- Protocols that never name a host. -/
def hostlessProtocols : List String := ["javascript", "javascript:"]

/-- Protocols that are always followed by `//` and a host. -/
def slashedProtocols : List String :=
  ["http", "https", "ftp", "gopher", "file", "http:", "https:", "ftp:", "gopher:", "file:"]

/-- Characters that end the host part of a destination. -/
def hostEndingChars : List Char := ['/', '?', '#']

/-- Characters that never belong to a host name. -/
def nonHostChars : List Char :=
  ['%', '/', '?', ';', '#', '\'', '{', '}', '|', '\\', '^', '`', '<', '>', '"', '`', ' ', '\r',
   '\n', '\t']

/-- Whether `c` may appear in a label of a valid host name. -/
def isHostLabelChar (c : Char) : Bool :=
  (c.toNat < 128 && c.isAlphanum) || c == '+' || c == '_' || c == '-'

/-- Whether a label is a valid host name label: at most 63 allowed characters. -/
def isHostLabel (cs : List Char) : Bool :=
  cs.length ≤ 63 && cs.all isHostLabelChar

/-- The index of the first character of `cs` in `set`. -/
def firstIndexIn (cs : List Char) (set : List Char) : Option Nat :=
  cs.findIdx? (set.contains ·)

/-- The index of the last `@` among the first `n` characters. -/
def lastAtBefore (cs : List Char) (n : Nat) : Option Nat :=
  let pre := cs.take n
  (pre.reverse.findIdx? (· == '@')).map fun k => pre.length - 1 - k

/-- Splits `cs` at the first occurrence of a character `c` into the part before and the part
from `c` on. -/
def splitAtChar (cs : List Char) (c : Char) : List Char × Option (List Char) :=
  match cs.findIdx? (· == c) with
  | some k => (cs.take k, some (cs.drop k))
  | none => (cs, none)

/-- Reads a port off the end of the host part: `:` and digits to the end. Answers the host
without it and the digits, if any. -/
def splitPort (host : List Char) : List Char × Option String :=
  let digits := (host.reverse.takeWhile Char.isDigit).reverse
  let before := host.take (host.length - digits.length)
  if before.getLast? == some ':' then
    (before.dropLast, if digits.isEmpty then none else some (String.ofList digits))
  else (host, none)

/-- Checks the labels of a host name from the `i`-th on; at the first invalid label the valid
start of it stays in the host name and the rest moves to the front of the path. Answers the
host name and the text to prepend to the rest. -/
def validateLabels (labels : List (List Char)) : List (List Char) → List Char × List Char
  | [] => (".".intercalate (labels.map String.ofList) |>.toList, [])
  | part :: more =>
    if part.isEmpty || isHostLabel part ||
        isHostLabel (part.map fun c => if c.toNat > 127 then 'x' else c) then
      validateLabels (labels ++ [part]) more
    else
      let good := (part.takeWhile isHostLabelChar).take 63
      let bad := part.drop good.length
      let notHost := bad :: more
      ((".".intercalate ((labels ++ [good]).map String.ofList)).toList,
        ((".".intercalate (notHost.map String.ofList)).toList))

/-- Splits a destination into its parts, reading `//` after the protocol, or at the start, as
the beginning of a host. -/
def parse (url : String) : Url :=
  let rest := trimListBy isBlank url.toList
  let protoLen := (rest.takeWhile isProtocolChar).length
  let (proto, rest) :=
    if protoLen > 0 && (rest.drop protoLen).head? == some ':' then
      (some (String.ofList (rest.take (protoLen + 1))), rest.drop (protoLen + 1))
    else (none, rest)
  let lowerProto := (proto.getD "").map Char.toLower
  let hasSlashes := rest.take 2 == ['/', '/']
  let strip := hasSlashes && !(proto.isSome && hostlessProtocols.contains lowerProto)
  let rest := if strip then rest.drop 2 else rest
  let u : Url := { protocol := proto, slashes := strip }
  let (u, rest) :=
    if !hostlessProtocols.contains lowerProto &&
        (hasSlashes || (proto.isSome && !slashedProtocols.contains lowerProto)) then
      let hostEnd := firstIndexIn rest hostEndingChars
      let atSign := match hostEnd with
        | none => lastAtBefore rest rest.length
        | some e => lastAtBefore rest (e + 1)
      let (u, rest) := match atSign with
        | some a => ({ u with auth := some (String.ofList (rest.take a)) }, rest.drop (a + 1))
        | none => (u, rest)
      let hostEnd := (firstIndexIn rest nonHostChars).getD rest.length
      let hostEnd :=
        if hostEnd > 0 && rest[hostEnd - 1]? == some ':' then hostEnd - 1 else hostEnd
      let host := rest.take hostEnd
      let rest := rest.drop hostEnd
      let (host, port) := splitPort host
      let u := { u with port := port }
      let ipv6 := host.head? == some '[' && host.getLast? == some ']'
      let (hostname, rest) :=
        if ipv6 then (host, rest)
        else
          let (h, moved) := validateLabels [] (host.splitOn '.')
          (h, moved ++ rest)
      let hostname := if hostname.length > 255 then [] else hostname
      let hostname := if ipv6 then (hostname.drop 1).dropLast else hostname
      ({ u with hostname := some (String.ofList hostname) }, rest)
    else (u, rest)
  let (rest, hash) := splitAtChar rest '#'
  let (rest, search) := splitAtChar rest '?'
  let u := { u with hash := hash.map String.ofList, search := search.map String.ofList }
  let u := if rest.isEmpty then u else { u with pathname := some (String.ofList rest) }
  if slashedProtocols.contains lowerProto && (u.hostname.getD "") != "" && u.pathname.isNone then
    { u with pathname := some "" }
  else u

/-- Puts the parts of a destination together. -/
def format (u : Url) : String :=
  let host := u.hostname.getD ""
  (u.protocol.getD "") ++ (if u.slashes then "//" else "") ++
    (match u.auth with
     | some a => if a.isEmpty then "" else a ++ "@"
     | none => "") ++
    (if host.contains ':' then "[" ++ host ++ "]" else host) ++
    (match u.port with
     | some p => if p.isEmpty then "" else ":" ++ p
     | none => "") ++
    (u.pathname.getD "") ++ (u.search.getD "") ++ (u.hash.getD "")

/-- The protocols whose host names are written in Punycode. -/
def recodedProtocols : List String := ["http:", "https:", "mailto:"]

/-- Whether a character separates the labels of a host name. -/
def isLabelSeparator (c : Char) : Bool :=
  c == '.' || c == '\u3002' || c == '\uFF0E' || c == '\uFF61'

/-- Applies `f` to every label of a host name, after the part up to an `@`. Labels are split at
any full stop and joined with `.`. -/
def mapLabels (host : String) (f : String → Option String) : Option String :=
  let parts := host.splitOn "@"
  let (pre, dom) := match parts with
    | a :: b :: _ => (a ++ "@", b)
    | _ => ("", host)
  let labels := splitLabels dom.toList
  (labels.mapM f).map fun ls => pre ++ ".".intercalate ls
where
  splitLabels (cs : List Char) : List String :=
    (cs.splitOnP isLabelSeparator).map String.ofList

/-- Writes a host name in Punycode, label by label, where a label has non-ASCII characters. -/
def hostToAscii (host : String) : String :=
  (mapLabels host fun l =>
    if l.toList.any (·.toNat > 0x7E) then some ("xn--" ++ Punycode.encode l) else some l).getD host

/-- Reads the Punycode labels of a host name back; the host name stays as it is if one fails. -/
def hostToUnicode (host : String) : String :=
  (mapLabels host fun l =>
    if l.startsWith "xn--" then Punycode.decode (String.ofList ((l.toList.drop 4).map Char.toLower))
    else some l).getD host

/-- Whether the host name of `u` is to be recoded. -/
def recodesHost (u : Url) : Bool :=
  (u.hostname.getD "") != "" && (u.protocol.isNone || recodedProtocols.contains (u.protocol.getD ""))

/-- Normalizes a link destination for output. -/
def normalize (url : String) : String :=
  let u := parse url
  let u := if recodesHost u then { u with hostname := u.hostname.map hostToAscii } else u
  percentEncode (format u)

/-- Normalizes the visible text of an automatic link. -/
def normalizeText (url : String) : String :=
  let u := parse url
  let u := if recodesHost u then { u with hostname := u.hostname.map hostToUnicode } else u
  percentDecode (format u) ";/?:@&=+$,#%".toList

/-- Whether a normalized destination is safe to link: no script, file or data protocol, except
data URLs of common image types. -/
def isSafe (url : String) : Bool :=
  let s := (trimBlank url).toList.map Char.toLower
  let starts (p : String) := s.take p.length == p.toList
  if starts "vbscript:" || starts "javascript:" || starts "file:" || starts "data:" then
    starts "data:image/gif;" || starts "data:image/png;" || starts "data:image/jpeg;" ||
      starts "data:image/webp;"
  else true

end Url

end Manuscript.Text
