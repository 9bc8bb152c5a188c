import PushRelay.Octets.EastAsian
import PushRelay.Octets.Encoding
import PushRelay.Octets.Escape
import PushRelay.Octets.Punycode
import PushRelay.Octets.Utf7

/-!
# Character sets

What the text of a body can be declared to be in. Most character sets are
encodings of text; a few are codings of something else, or stand for having
none.
-/

namespace PushRelay.Octets

/-- A character set. -/
inductive Charset where
  | plain (encoding : Encoding)
  /-- UTF-8, possibly behind a mark. -/
  | marked8
  /-- UTF-16 behind a mark that tells the order of octets. -/
  | marked16
  /-- UTF-32 behind a mark that tells the order of octets. -/
  | marked32
  | utf7
  | page (table : Table)
  | eastAsian (encoding : EastAsian)
  | punycode
  /-- Characters and escape sequences. -/
  | escaped
  /-- Characters and hexadecimal numbers. -/
  | rawEscaped
  /-- Names of hosts, which cannot be read with flaws. -/
  | hostName
  /-- Text with rotated letters, which is made of text and not of octets. -/
  | rotated
  /-- A coding of octets that is not one of text. -/
  | untextual
  /-- What stands for having no encoding. -/
  | undefined
  deriving DecidableEq, Repr

/-- Why a body has no text in its character set. -/
inductive CharsetError where
  | noMark (name : String)
  /-- Too many octets are left over. -/
  | overflow
  | lost
  /-- There is an octet that must be ASCII but is not. -/
  | notAscii (place : Nat) (octet : UInt8)
  | unlossy
  | rotated
  | untextual
  | undefined
  deriving DecidableEq, Repr

namespace CharsetError

/-- What the error is called. -/
def className : CharsetError → String
  | .noMark _ | .overflow | .unlossy | .undefined => "UnicodeError"
  | .notAscii .. => "UnicodeDecodeError"
  | .lost => "RuntimeError"
  | .rotated => "TypeError"
  | .untextual => "AssertionError"

/-- What the error says. -/
def message : CharsetError → String
  | .noMark name => s!"{name} stream does not start with BOM"
  | .overflow => "pending buffer overflow"
  | .lost => "internal codec error"
  | .notAscii place octet =>
    DecodeError.message ⟨.ascii, place, 1, octet, .notAscii⟩
  | .unlossy => "Unsupported error handling replace"
  | .rotated => "descriptor 'translate' for 'str' objects doesn't apply to a 'bytes' object"
  | .untextual => ""
  | .undefined => "undefined encoding"

end CharsetError

namespace Charset

/-! ## Decoding with flaws -/

/-- The text of what has been decoded, unless more than `spare` octets are
left over. -/
def settle (spare : Option Nat) (d : Decoded) : Except CharsetError String :=
  match d.ending, spare with
  | .lost, _ => .error .lost
  | .unfinished n, some spare =>
    if spare < n then .error .overflow else .ok (String.ofList d.lossy)
  | _, _ => .ok (String.ofList d.lossy)

/-- Decodes octets, with a replacement character for each flaw. Of UTF-8 that
ends within its mark nothing is left; UTF-16 and UTF-32 must begin with theirs
if there are octets enough for one. -/
def decode : Charset → List UInt8 → Except CharsetError String
  | .plain encoding, octets => .ok (encoding.decodeLossy octets)
  | .marked8, octets =>
    match octets with
    | [0xEF] | [0xEF, 0xBB] => .ok ""
    | 0xEF :: 0xBB :: 0xBF :: rest => .ok (Encoding.utf8.decodeLossy rest)
    | octets => .ok (Encoding.utf8.decodeLossy octets)
  | .marked16, octets =>
    match octets with
    | 0xFF :: 0xFE :: rest => .ok ((Encoding.utf16 .little).decodeLossy rest)
    | 0xFE :: 0xFF :: rest => .ok ((Encoding.utf16 .big).decodeLossy rest)
    | _ :: _ :: _ => .error (.noMark "UTF-16")
    | octets => .ok ((Encoding.utf16 .little).decodeLossy octets)
  | .marked32, octets =>
    match octets with
    | 0xFF :: 0xFE :: 0 :: 0 :: rest => .ok ((Encoding.utf32 .little).decodeLossy rest)
    | 0 :: 0 :: 0xFE :: 0xFF :: rest => .ok ((Encoding.utf32 .big).decodeLossy rest)
    | _ :: _ :: _ :: _ :: _ => .error (.noMark "UTF-32")
    | octets => .ok ((Encoding.utf32 .little).decodeLossy octets)
  | .utf7, octets => settle none (utf7Decoder.run () octets)
  | .page table, octets => settle none (table.decoder.run () octets)
  | .eastAsian encoding, octets => settle (some 8) (encoding.decode octets)
  | .punycode, octets =>
    match Punycode.decodeLossy octets with
    | .ok cs => .ok (String.ofList cs)
    | .error (place, octet) => .error (.notAscii place octet)
  | .escaped, octets => settle none (escapeDecoder.run () octets)
  | .rawEscaped, octets => settle none (rawEscapeDecoder.run () octets)
  | .hostName, _ => .error .unlossy
  | .rotated, _ => .error .rotated
  | .untextual, _ => .error .untextual
  | .undefined, _ => .error .undefined

/-! ## Decoding without flaws -/

/-- Decodes octets in an encoding if none is a flaw. -/
def plain? (encoding : Encoding) (octets : List UInt8) : Option (List Char) :=
  (encoding.pieces octets).mapM (·.outcome.toOption)

/-- What has been decoded, if it is without a flaw. The first flaw is the
end. -/
def settleStrict (d : Decoded) : Except CharsetError (Option (List Char)) :=
  if d.ending = .lost ∧ d.pieces.all (·.2) then .error .lost else .ok d.strict?

/-- Decodes octets if none is a flaw. Without a mark the least octet of a unit
comes first. Names of hosts are read only as far as they are ASCII. -/
def decodeStrict : Charset → List UInt8 → Except CharsetError (Option (List Char))
  | .plain encoding, octets => .ok (plain? encoding octets)
  | .marked8, octets =>
    match octets with
    | 0xEF :: 0xBB :: 0xBF :: rest => .ok (plain? .utf8 rest)
    | octets => .ok (plain? .utf8 octets)
  | .marked16, octets =>
    match octets with
    | 0xFF :: 0xFE :: rest => .ok (plain? (.utf16 .little) rest)
    | 0xFE :: 0xFF :: rest => .ok (plain? (.utf16 .big) rest)
    | octets => .ok (plain? (.utf16 .little) octets)
  | .marked32, octets =>
    match octets with
    | 0xFF :: 0xFE :: 0 :: 0 :: rest => .ok (plain? (.utf32 .little) rest)
    | 0 :: 0 :: 0xFE :: 0xFF :: rest => .ok (plain? (.utf32 .big) rest)
    | octets => .ok (plain? (.utf32 .little) octets)
  | .utf7, octets => settleStrict (utf7Decoder.run () octets)
  | .page table, octets => settleStrict (table.decoder.run () octets)
  | .eastAsian encoding, octets => settleStrict (encoding.decode octets)
  | .punycode, octets => .ok (Punycode.decode? octets)
  | .escaped, octets => settleStrict (escapeDecoder.run () octets)
  | .rawEscaped, octets => settleStrict (rawEscapeDecoder.run () octets)
  | .hostName, octets => .ok (plain? .ascii octets)
  | .rotated, _ | .untextual, _ | .undefined, _ => .ok none

end Charset
end PushRelay.Octets
