import PushRelay.Octets.Decoder
import PushRelay.Text.Digit

/-!
# Encodings

Octets are decoded piece by piece. A piece is either a character or a flaw, a
run of octets that stands for none. `decode` stops at the first flaw;
`decodeLossy` puts a replacement character in its place.

An encoded surrogate is a flaw of its own kind: text as it is exchanged in
JSON may hold one, and `decode` lets it pass as a replacement character.
-/

namespace PushRelay.Octets

/-- The order of the octets of a unit. -/
inductive Order where
  | little
  | big
  deriving DecidableEq, Repr

/-- An encoding of text. -/
inductive Encoding where
  | utf8
  | utf16 (order : Order)
  | utf32 (order : Order)
  | ascii
  | latin1
  deriving DecidableEq, Repr

/-- What an encoding is called. -/
def Encoding.name : Encoding → String
  | .utf8 => "utf-8"
  | .utf16 .little => "utf-16-le"
  | .utf16 .big => "utf-16-be"
  | .utf32 .little => "utf-32-le"
  | .utf32 .big => "utf-32-be"
  | .ascii => "ascii"
  | .latin1 => "iso-8859-1"

/-- What is wrong with a run of octets. -/
inductive Flaw where
  | badStart
  | badContinuation
  | unexpectedEnd
  | truncated
  | loneHigh
  | loneLow
  | outOfRange
  | surrogate
  | notAscii
  deriving DecidableEq, Repr

/-- How a flaw is described. -/
def Flaw.reason : Flaw → String
  | .badStart => "invalid start byte"
  | .badContinuation => "invalid continuation byte"
  | .unexpectedEnd => "unexpected end of data"
  | .truncated => "truncated data"
  | .loneHigh => "illegal UTF-16 surrogate"
  | .loneLow => "illegal encoding"
  | .outOfRange => "code point not in range(0x110000)"
  | .surrogate => "code point in surrogate code point range(0xd800, 0xe000)"
  | .notAscii => "ordinal not in range(128)"

/-- A decoded piece: how many octets it takes after its first one, and what it
stands for. -/
structure Piece where
  more : Nat
  outcome : Except Flaw Char

/-- The piece for a code point of `more + 1` octets. -/
def Piece.ofPoint (more point : Nat) : Piece :=
  if 0xD800 ≤ point ∧ point ≤ 0xDFFF then ⟨more, .error .surrogate⟩
  else if 0x10FFFF < point then ⟨more, .error .outOfRange⟩
  else ⟨more, .ok (Char.ofNat point)⟩

/-! ## UTF-8 -/

/-- Whether an octet continues a character. -/
def isContinuation (b : UInt8) : Bool := 0x80 ≤ b.toNat && b.toNat ≤ 0xBF

/-- Whether the second octet may follow the first: it continues a character,
and neither makes it longer than it needs to be, nor a surrogate, nor a number
that is too large. -/
def follows (first second : UInt8) : Bool :=
  let a := first.toNat
  let b := second.toNat
  isContinuation second && !(a == 0xE0 && b < 0xA0) && !(a == 0xED && 0xA0 ≤ b) &&
    !(a == 0xF0 && b < 0x90) && !(a == 0xF4 && 0x90 ≤ b)

/-- The low six bits of an octet. -/
def sixBits (b : UInt8) : Nat := b.toNat % 64

/-- A character of three octets. -/
def utf8Three (a : UInt8) : List UInt8 → Piece
  | [] => ⟨0, .error .unexpectedEnd⟩
  | [b] => if follows a b then ⟨1, .error .unexpectedEnd⟩ else ⟨0, .error .badContinuation⟩
  | b :: c :: _ =>
    if a.toNat = 0xED ∧ isContinuation b ∧ 0xA0 ≤ b.toNat ∧ isContinuation c then ⟨0, .error .surrogate⟩
    else if !follows a b then ⟨0, .error .badContinuation⟩
    else if !isContinuation c then ⟨1, .error .badContinuation⟩
    else .ofPoint 2 ((a.toNat % 16 * 64 + sixBits b) * 64 + sixBits c)

/-- A character of four octets. -/
def utf8Four (a : UInt8) : List UInt8 → Piece
  | [] => ⟨0, .error .unexpectedEnd⟩
  | b :: rest =>
    if !follows a b then ⟨0, .error .badContinuation⟩
    else
      match rest with
      | [] => ⟨1, .error .unexpectedEnd⟩
      | c :: rest =>
        if !isContinuation c then ⟨1, .error .badContinuation⟩
        else
          match rest with
          | [] => ⟨2, .error .unexpectedEnd⟩
          | d :: _ =>
            if !isContinuation d then ⟨2, .error .badContinuation⟩
            else .ofPoint 3 (((a.toNat % 8 * 64 + sixBits b) * 64 + sixBits c) * 64 + sixBits d)

/-- The piece at the front of UTF-8. -/
def utf8Piece (a : UInt8) (rest : List UInt8) : Piece :=
  let n := a.toNat
  if n < 0x80 then ⟨0, .ok (Char.ofNat n)⟩
  else if n < 0xC2 then ⟨0, .error .badStart⟩
  else if n < 0xE0 then
    match rest with
    | [] => ⟨0, .error .unexpectedEnd⟩
    | b :: _ =>
      if isContinuation b then .ofPoint 1 (n % 32 * 64 + sixBits b) else ⟨0, .error .badContinuation⟩
  else if n < 0xF0 then utf8Three a rest
  else if n < 0xF5 then utf8Four a rest
  else ⟨0, .error .badStart⟩

/-! ## UTF-16 and UTF-32 -/

/-- A unit of two octets. -/
def pair (order : Order) (a b : UInt8) : Nat :=
  match order with
  | .little => a.toNat + 256 * b.toNat
  | .big => b.toNat + 256 * a.toNat

/-- The piece at the front of UTF-16. -/
def utf16Piece (order : Order) (a : UInt8) : List UInt8 → Piece
  | [] => ⟨0, .error .truncated⟩
  | b :: rest =>
    let unit := pair order a b
    if unit < 0xD800 ∨ 0xDFFF < unit then ⟨1, .ok (Char.ofNat unit)⟩
    else if 0xDC00 ≤ unit then ⟨1, .error .loneLow⟩
    else
      match rest with
      | c :: d :: _ =>
        let low := pair order c d
        if 0xDC00 ≤ low ∧ low ≤ 0xDFFF then
          .ofPoint 3 (0x10000 + (unit - 0xD800) * 0x400 + (low - 0xDC00))
        else ⟨1, .error .loneHigh⟩
      | rest => ⟨rest.length + 1, .error .unexpectedEnd⟩

/-- The piece at the front of UTF-32. -/
def utf32Piece (order : Order) (a : UInt8) : List UInt8 → Piece
  | b :: c :: d :: _ =>
    match order with
    | .little => .ofPoint 3 (pair order a b + 65536 * pair order c d)
    | .big => .ofPoint 3 (pair order c d + 65536 * pair order a b)
  | rest => ⟨rest.length, .error .truncated⟩

/-! ## Whole texts -/

/-- The piece at the front of some octets. -/
def Encoding.piece : Encoding → UInt8 → List UInt8 → Piece
  | .utf8, a, rest => utf8Piece a rest
  | .utf16 order, a, rest => utf16Piece order a rest
  | .utf32 order, a, rest => utf32Piece order a rest
  | .ascii, a, _ => if a.toNat < 0x80 then ⟨0, .ok (Char.ofNat a.toNat)⟩ else ⟨0, .error .notAscii⟩
  | .latin1, a, _ => ⟨0, .ok (Char.ofNat a.toNat)⟩

/-- All pieces of some octets. -/
def Encoding.pieces (encoding : Encoding) : List UInt8 → List Piece
  | [] => []
  | a :: rest =>
    let piece := encoding.piece a rest
    piece :: encoding.pieces (rest.drop piece.more)
termination_by octets => octets.length
decreasing_by simp only [List.length_drop, List.length_cons]; omega

/-- Decodes octets, with a replacement character for each flaw. -/
def Encoding.decodeLossy (encoding : Encoding) (octets : List UInt8) : String :=
  String.ofList ((encoding.pieces octets).map fun p =>
    match p.outcome with
    | .ok c => c
    | .error _ => replacement)

/-- Why octets could not be decoded: the flaw from `first` on, and the octet
there if it is the only one. -/
structure DecodeError where
  encoding : Encoding
  first : Nat
  length : Nat
  octet : UInt8
  flaw : Flaw
  deriving DecidableEq, Repr

/-- What the error says. -/
def DecodeError.message (e : DecodeError) : String :=
  s!"'{e.encoding.name}' codec can't decode " ++
  (if e.length = 1 then
    "byte 0x" ++ String.ofList (Text.hexText 2 e.octet.toNat) ++ s!" in position {e.first}: "
  else s!"bytes in position {e.first}-" ++ toString (e.first + e.length - 1) ++ ": ") ++ e.flaw.reason

/-- Decodes octets of which the first is at `position`. A surrogate takes
three octets in UTF-8, two in UTF-16 and four in UTF-32. -/
def Encoding.decodeFrom (encoding : Encoding) (position : Nat) :
    List UInt8 → Except DecodeError (List Char)
  | [] => .ok []
  | a :: rest =>
    let piece := encoding.piece a rest
    match piece.outcome with
    | .ok c => do
      let cs ← encoding.decodeFrom (position + piece.more + 1) (rest.drop piece.more)
      .ok (c :: cs)
    | .error flaw =>
      let passes? : Option Nat :=
        match encoding, flaw with
        | .utf8, .surrogate => some 2
        | .utf16 _, .loneHigh => some 1
        | .utf16 _, .loneLow => some 1
        | .utf16 _, .unexpectedEnd => some 1
        | .utf32 _, .surrogate => some 3
        | _, _ => none
      match passes? with
      | some more => do
        let cs ← encoding.decodeFrom (position + more + 1) (rest.drop more)
        .ok (replacement :: cs)
      | none => .error ⟨encoding, position, piece.more + 1, a, flaw⟩
termination_by octets => octets.length
decreasing_by all_goals simp only [List.length_drop, List.length_cons]; omega

/-! ## Detection -/

/-- The byte order marks, each with the encoding that it tells. One begins
with another, so the longest come first. -/
def byteOrderMarks : List (List UInt8 × Encoding) := [
  ([0, 0, 0xFE, 0xFF], .utf32 .big),
  ([0xFF, 0xFE, 0, 0], .utf32 .little),
  ([0xFE, 0xFF], .utf16 .big),
  ([0xFF, 0xFE], .utf16 .little),
  ([0xEF, 0xBB, 0xBF], .utf8)]

/-- The encoding that the place of the zero octets tells. -/
def detectByZeros : List UInt8 → Encoding
  | a :: b :: c :: d :: _ =>
    if a = 0 then if b = 0 then .utf32 .big else .utf16 .big
    else if b = 0 then if c = 0 ∧ d = 0 then .utf32 .little else .utf16 .little
    else .utf8
  | [a, b] => if a = 0 then .utf16 .big else if b = 0 then .utf16 .little else .utf8
  | _ => .utf8

/-- The encoding of a JSON text, and the length of the mark in front of it: a
byte order mark tells, or else the place of the zero octets among the first
four. -/
def detect (octets : List UInt8) : Encoding × Nat :=
  match byteOrderMarks.find? (·.1.isPrefixOf octets) with
  | some (mark, encoding) => (encoding, mark.length)
  | none => (detectByZeros octets, 0)

/-- Decodes the octets of a JSON text. After the mark of UTF-8 positions are
counted anew. -/
def decodeDetected (octets : List UInt8) : Except DecodeError (List Char) :=
  let (encoding, mark) := detect octets
  encoding.decodeFrom (if encoding = .utf8 then 0 else mark) (octets.drop mark)

end PushRelay.Octets
