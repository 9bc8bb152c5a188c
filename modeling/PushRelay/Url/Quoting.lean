import PushRelay.Octets.Encoding
import PushRelay.Text.Digit

/-!
# Quoting in URLs

A character that has no place in some part of a URL is written as its UTF-8
octets, each a percent sign and two hexadecimal digits. A percent sign itself
is never quoted, so what is quoted already stays.
-/

namespace PushRelay.Url

/-- The UTF-8 octets of a text. -/
def utf8 (cs : List Char) : List UInt8 := (String.ofList cs).toUTF8.toList

/-- An octet as a percent sign and two digits. -/
def escapeOctet (b : UInt8) : List Char := '%' :: (Text.hexText 2 b.toNat).map Char.toUpper

/-- A text with whatever is not `safe` quoted. -/
def quote (safe : Char → Bool) (cs : List Char) : List Char :=
  cs.flatMap fun c => if safe c then [c] else (utf8 [c]).flatMap escapeOctet

/-- Printable characters of ASCII other than the given ones. -/
def safeExcept (excluded : List Char) (c : Char) : Bool :=
  0x20 ≤ c.toNat && c.toNat < 0x7F && !excluded.contains c

/-- What may stand in a fragment. -/
def fragmentSafe : Char → Bool := safeExcept [' ', '"', '<', '>', '\x60']

/-- What may stand in a query. -/
def querySafe : Char → Bool := safeExcept [' ', '"', '#', '<', '>']

/-- What may stand in a path. -/
def pathSafe : Char → Bool :=
  safeExcept [' ', '"', '#', '<', '>', '?', '\x60', '\x7b', '\x7d']

/-- What may stand in the part that names a user. -/
def userSafe : Char → Bool :=
  safeExcept [' ', '"', '#', '<', '>', '?', '\x60', '\x7b', '\x7d', '/', ';', '=', '@', '[', '\\', ']',
    '^', '|']

/-- What may stand in the name of a host. -/
def hostSafe (c : Char) : Bool :=
  c.isAlphanum || "-._~!$&'()*+,;=\"%|\\".toList.contains c || c == '\x60' || c == '\x7b' || c == '\x7d'

/-- The octets of a text, quoted ones as they are meant. -/
def unquoteOctets : List Char → List UInt8
  | '%' :: a :: b :: rest =>
    match Text.hexValue? a, Text.hexValue? b with
    | some x, some y => UInt8.ofNat (16 * x + y) :: unquoteOctets rest
    | _, _ => utf8 ['%'] ++ unquoteOctets (a :: b :: rest)
  | c :: cs => utf8 [c] ++ unquoteOctets cs
  | [] => []

/-- The text that a quoted text stands for. -/
def unquote (cs : List Char) : String := Octets.Encoding.utf8.decodeLossy (unquoteOctets cs)

/-! ## Base 64 -/

/-- The digits of base 64. -/
def digit64 (n : Nat) : Char :=
  if n < 26 then Char.ofNat (0x41 + n)
  else if n < 52 then Char.ofNat (0x61 + (n - 26))
  else if n < 62 then Char.ofNat (0x30 + (n - 52))
  else if n = 62 then '+' else '/'

/-- Octets in base 64: three of them are four digits, and equals signs fill up
the last four. -/
def base64 : List UInt8 → List Char
  | [] => []
  | [a] =>
    let n := a.toNat * 16
    [digit64 (n / 64), digit64 (n % 64), '=', '=']
  | [a, b] =>
    let n := (a.toNat * 256 + b.toNat) * 4
    [digit64 (n / 4096), digit64 (n / 64 % 64), digit64 (n % 64), '=']
  | a :: b :: c :: rest =>
    let n := (a.toNat * 256 + b.toNat) * 256 + c.toNat
    digit64 (n / 262144) :: digit64 (n / 4096 % 64) :: digit64 (n / 64 % 64) :: digit64 (n % 64) ::
      base64 rest

end PushRelay.Url
