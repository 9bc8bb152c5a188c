import PushRelay.Text.Case
import PushRelay.Text.Printable
import PushRelay.Url.Address
import PushRelay.Url.HostName
import PushRelay.Url.Quoting

/-!
# URLs

A URL is split by its delimiters, and each part is checked and normalized:
scheme and host are in lower case, a port that the scheme implies is dropped,
dot segments of the path are resolved, and whatever has no place in a part is
quoted.
-/

namespace PushRelay

/-- A normalized URL. An address of version 6 is kept without its brackets. -/
structure Url where
  scheme : List Char
  user : List Char
  host : List Char
  port : Option Int
  path : List Char
  query : Option (List Char)
  fragment : Option (List Char)
  deriving DecidableEq, Repr

/-- Why a text is not a URL. -/
inductive UrlError where
  | tooLong
  | unprintable (c : Char) (position : Nat)
  | badAddress4 (host : List Char)
  | badAddress6 (host : List Char)
  | badName (host : List Char)
  | badPort (port : List Char)
  | doubleSlash
  | leadingColon
  deriving DecidableEq, Repr

namespace UrlError

/-- What the error says. -/
def message : UrlError → String
  | .tooLong => "URL too long"
  | .unprintable c position =>
    s!"Invalid non-printable ASCII character in URL, {inQuotes [c]} at position {position}."
  | .badAddress4 host => s!"Invalid IPv4 address: {inQuotes host}"
  | .badAddress6 host => s!"Invalid IPv6 address: {inQuotes host}"
  | .badName host => s!"Invalid IDNA hostname: {inQuotes host}"
  | .badPort port => s!"Invalid port: {inQuotes port}"
  | .doubleSlash => "Relative URLs cannot have a path starting with '//'"
  | .leadingColon => "Relative URLs cannot have a path starting with ':'"
where
  inQuotes (cs : List Char) : String := String.ofList (Text.quoted cs)

end UrlError

namespace Url

/-! ## Splitting -/

/-- A URL split into its parts, as they were written. -/
structure Parts where
  scheme : List Char
  user : List Char
  host : List Char
  port : List Char
  path : List Char
  query : Option (List Char)
  fragment : Option (List Char)
  deriving DecidableEq, Repr

/-- What comes before the first character that is one of the given ones, and
the rest from it on. -/
def splitBefore (marks : List Char) (cs : List Char) : List Char × List Char :=
  (cs.takeWhile (!marks.contains ·), cs.dropWhile (!marks.contains ·))

/-- Whether a character may occur in a scheme. -/
def isSchemeChar (c : Char) : Bool := c.isAlphanum || c == '+' || c == '.' || c == '-'

/-- The scheme before the first colon, if what is there can be one, and the
rest. It may be empty. -/
def splitScheme (cs : List Char) : List Char × List Char :=
  let scheme := cs.takeWhile isSchemeChar
  match cs.dropWhile isSchemeChar with
  | ':' :: rest => if scheme.head?.all Char.isAlpha then (scheme, rest) else ([], cs)
  | _ => ([], cs)

/-- The authority after two slashes, if there are any, and the rest. -/
def splitAuthority (cs : List Char) : List Char × List Char :=
  match cs with
  | '/' :: '/' :: rest => splitBefore ['/', '?', '#'] rest
  | cs => ([], cs)

/-- What follows the given mark, if the text begins with it. -/
def afterMark (mark : Char) : List Char → Option (List Char)
  | [] => none
  | c :: cs => if c = mark then some cs else none

/-- The user before the last at sign of an authority, and the rest. -/
def splitUser (cs : List Char) : List Char × List Char :=
  if cs.contains '@' then
    let rest := (cs.reverse.takeWhile (· != '@')).reverse
    (cs.take (cs.length - rest.length - 1), rest)
  else ([], cs)

/-- The host of an authority without user, and its port after a colon.
Brackets around the host go as far as the last one that closes. -/
def splitPort (cs : List Char) : List Char × List Char :=
  let (host, rest) :=
    if cs.head? == some '[' && cs.contains ']' then
      let rest := (cs.reverse.takeWhile (· != ']')).reverse
      (cs.take (cs.length - rest.length), rest)
    else splitBefore [':'] cs
  (host, (afterMark ':' rest).getD rest)

/-- Splits a URL. -/
def split (cs : List Char) : Parts :=
  let (scheme, rest) := splitScheme cs
  let (authority, rest) := splitAuthority rest
  let (user, rest') := splitUser authority
  let (host, port) := splitPort rest'
  let (path, rest) := splitBefore ['?', '#'] rest
  let (query, rest) :=
    match afterMark '?' rest with
    | some rest =>
      let (query, rest) := splitBefore ['#'] rest
      (some query, rest)
    | none => (none, rest)
  { scheme, user, host, port, path, query, fragment := afterMark '#' rest }

/-! ## Normalizing -/

/-- The ports that schemes imply. -/
def impliedPorts : List (String × Int) :=
  [("ftp", 21), ("http", 80), ("https", 443), ("ws", 80), ("wss", 443)]

/-- A host in normal form. -/
def readHost (host : List Char) : Except UrlError (List Char) :=
  if host.isEmpty then .ok []
  else if looksLikeAddress4 host then
    if isAddress4 host then .ok host else .error (.badAddress4 host)
  else if host.head? == some '[' && host.getLast? == some ']' then
    let address := (host.drop 1).dropLast
    if isAddress6 address then .ok address else .error (.badAddress6 host)
  else if host.all Text.isAscii then .ok (quote hostSafe (Text.lower host))
  else
    match encodeName (Text.lower host) with
    | .ok name => .ok name
    | .error _ => .error (.badName host)

/-- A port, unless there is none or the scheme, as it was written, implies
it. -/
def readPort (scheme port : List Char) : Except UrlError (Option Int) :=
  if port.isEmpty then .ok none
  else
    match Numeral.readWhole (String.ofList port) with
    | .error _ => .error (.badPort port)
    | .ok n =>
      .ok (if impliedPorts.lookup (String.ofList scheme) == some n then none else some n)

/-- Resolves the segments of a path that are one or two dots; `done` are those
before, in reverse. -/
def resolveDots : (done : List (List Char)) → List (List Char) → List (List Char)
  | done, [] => done.reverse
  | done, part :: parts =>
    if part = ['.'] then resolveDots done parts
    else if part = ['.', '.'] then resolveDots (if done == [[]] then done else done.drop 1) parts
    else resolveDots (part :: done) parts

/-- A path without dot segments. -/
def withoutDots (path : List Char) : List Char := ['/'].intercalate (resolveDots [] (splitAt '/' path))

/-- Checks that a path without scheme and authority does not look like one of
them. -/
def checkRelative (path : List Char) : Except UrlError Unit :=
  match path with
  | '/' :: '/' :: _ => .error .doubleSlash
  | ':' :: _ => .error .leadingColon
  | _ => .ok ()

/-- Puts the parts of a URL into normal form. -/
def normalize (parts : Parts) : Except UrlError Url := do
  let scheme := Text.lower parts.scheme
  let user := quote userSafe parts.user
  let host ← readHost parts.host
  let port ← readPort parts.scheme parts.port
  let hasAuthority := !user.isEmpty || !host.isEmpty || port.isSome
  let path ←
    if scheme.isEmpty && !hasAuthority then do
      checkRelative parts.path
      .ok parts.path
    else .ok (withoutDots parts.path)
  .ok {
    scheme, user, host, port
    path := quote pathSafe path
    query := parts.query.map (quote querySafe)
    fragment := parts.fragment.map (quote fragmentSafe) }

/-- A URL may have at most this many characters. -/
def maxLength : Nat := 65536

/-- Whether a character of ASCII cannot be printed. -/
def isControl (c : Char) : Bool := c.toNat < 0x20 || c.toNat == 0x7F

/-- Reads a URL. -/
def parse (text : String) : Except UrlError Url :=
  let cs := text.toList
  if maxLength < cs.length then .error .tooLong
  else
    match cs.find? isControl with
    | some c => .error (.unprintable c (cs.idxOf c))
    | none => normalize (split cs)

/-! ## Writing -/

/-- The host as it is written, and the port. -/
def hostText (u : Url) : List Char :=
  (if u.host.contains ':' then '[' :: u.host ++ [']'] else u.host) ++
  match u.port with
  | some n => ':' :: (toString n).toList
  | none => []

/-- The authority. -/
def authority (u : Url) : List Char := (if u.user.isEmpty then [] else u.user ++ ['@']) ++ u.hostText

/-- The text of a URL. -/
def chars (u : Url) : List Char :=
  (if u.scheme.isEmpty then [] else u.scheme ++ [':']) ++
  (if u.authority.isEmpty then [] else '/' :: '/' :: u.authority) ++ u.path ++
  (match u.query with
    | some query => '?' :: query
    | none => []) ++
  (match u.fragment with
    | some fragment => '#' :: fragment
    | none => [])

/-- The text of a URL. -/
def text (u : Url) : String := String.ofList u.chars

/-- The host as people write it. -/
def shownHost (u : Url) : Except HostError (List Char) :=
  if u.host.take 4 == encodedMark then decodeName u.host else .ok u.host

/-- The authorization that comes with the user of a URL, if it names one. -/
def authorization? (u : Url) : Option String :=
  let (name, rest) := splitBefore [':'] u.user
  let name := unquote name
  let password := unquote (rest.drop 1)
  if name.isEmpty && password.isEmpty then none
  else some ("Basic " ++ String.ofList (base64 (utf8 (name ++ ":" ++ password).toList)))

end Url
end PushRelay
