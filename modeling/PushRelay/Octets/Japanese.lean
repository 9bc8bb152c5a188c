import PushRelay.Octets.Table.JisX0208
import PushRelay.Octets.Table.JisX0212
import PushRelay.Octets.Table.JisX0213
import PushRelay.Octets.Table.Windows932

/-!
# Japanese encodings

The planes of the Japanese standards in two layouts: EUC sets the highest bit
of row and column and names a plane by an octet in front; Shift JIS folds two
rows into one, between the octets of half-width katakana.
-/

namespace PushRelay.Octets

/-! ## Planes -/

/-- JIS X 0208 cell by cell. -/
def jisX0208Grid : Grid := jisX0208.grid

/-- JIS X 0212 cell by cell. -/
def jisX0212Grid : Grid := jisX0212.grid

/-- The additions to the first plane cell by cell. -/
def jisX0213FirstGrid : Grid := jisX0213First.grid

/-- The second plane cell by cell. -/
def jisX0213SecondGrid : Grid := jisX0213Second.grid

/-- The editions of JIS X 0213. -/
inductive Edition where
  | of2000
  | of2004
  deriving DecidableEq, Repr

/-- The cells of the first plane that only the later edition has. -/
def laterCells : List Nat :=
  [0x2E21, 0x2F7E, 0x4F54, 0x4F7E, 0x7427, 0x7E7A, 0x7E7B, 0x7E7C, 0x7E7D, 0x7E7E]

/-- Whether a cell of the first plane is still free in an edition. -/
def isWithheld (edition : Edition) (row column : Nat) : Bool :=
  edition == .of2000 && laterCells.contains (row * 256 + column)

/-- The text of a cell of the first plane. -/
def firstPlane (edition : Edition) (row column : Nat) : Option (List Char) :=
  if isWithheld edition row column then none
  else
    match (jisX0208Grid.at? row column).or (jisX0213FirstGrid.at? row column) with
    | some c => some [c]
    | none => (jisX0213Pairs.lookup (row * 256 + column)).map String.toList

/-- The character of a cell of the second plane. One cell stood for another
shape in the earlier edition. -/
def secondPlane (edition : Edition) (row column : Nat) : Option Char :=
  if edition = .of2000 ∧ row = 0x7D ∧ column = 0x3B then some '鬝' else jisX0213SecondGrid.at? row column

/-- The half-width katakana of an octet. -/
def halfWidth? (b : Nat) : Option Char :=
  if 0xA1 ≤ b ∧ b ≤ 0xDF then some (Char.ofNat (0xFEC0 + b)) else none

/-! ## EUC -/

/-- A decoder of EUC, by the text of a cell of the first plane and the
character of one of the second. The octets of a cell of the first plane can be
a flaw together. -/
def eucDecoder (first : Nat → Nat → Option (List Char)) (second : Nat → Nat → Option Char)
    (together : Nat → Nat → Bool) : Decoder Unit := fun state a rest =>
  if a.toNat = 0x8F then
    match rest with
    | b :: c :: _ =>
      .char? () 2 (if 0x80 ≤ b.toNat ∧ 0x80 ≤ c.toNat then second (b.toNat - 0x80) (c.toNat - 0x80) else none)
    | _ => .unfinished
  else
    pairDecoder (fun a b =>
      if a = 0x8E then (halfWidth? b).map ([·])
      else if 0x80 ≤ a ∧ 0x80 ≤ b then first (a - 0x80) (b - 0x80)
      else none) (fun a b => 0x80 ≤ b && together (a - 0x80) (b - 0x80)) state a rest

/-- The decoder of EUC-JP. -/
def eucJpDecoder : Decoder Unit :=
  eucDecoder (fun row column => (jisX0208Grid.at? row column).map ([·])) jisX0212Grid.at? fun _ _ => false

/-- The decoder of EUC with the planes of JIS X 0213. What its second plane
lacks is taken from JIS X 0212. The tilde of the first plane is a wide one. -/
def eucJisDecoder (edition : Edition) : Decoder Unit :=
  eucDecoder (fun row column =>
    if row = 0x22 ∧ column = 0x32 then some ['\uff5e'] else firstPlane edition row column)
    (fun row column => (secondPlane edition row column).or (jisX0212Grid.at? row column))
    (isWithheld edition)

/-! ## Shift JIS -/

/-- The place of two octets: the row, counted from zero, and the column,
counted from 0x21. -/
def shiftedPlace? (a b : Nat) : Option (Nat × Nat) :=
  if b < 0x40 ∨ b = 0x7F ∨ 0xFC < b then none
  else
    let a := if a < 0xE0 then a - 0x81 else a - 0xC1
    let b := if b < 0x80 then b - 0x40 else b - 0x41
    some (2 * a + b / 94, b % 94 + 0x21)

/-- Whether an octet is the first of two. -/
def leadsPair (a : Nat) : Bool := (0x81 ≤ a && a ≤ 0x9F) || (0xE0 ≤ a && a ≤ 0xFC)

/-- A decoder of Shift JIS, by the character of a single octet and the text of
two. Two octets can be a flaw together. -/
def shiftDecoder (single : Nat → Option Char) (cell : Nat → Nat → Option (List Char))
    (together : Nat → Nat → Bool) : Decoder Unit := fun _ a rest =>
  if leadsPair a.toNat then
    match rest with
    | [] => .unfinished
    | b :: _ => .pair (cell a.toNat b.toNat) (together a.toNat b.toNat)
  else .char? () 0 (single a.toNat)

/-- The character of a single octet: ASCII or half-width katakana. -/
def asciiOrHalfWidth (a : Nat) : Option Char :=
  if a < 0x80 then some (Char.ofNat a) else halfWidth? a

/-- The decoder of Shift JIS. -/
def shiftJisDecoder : Decoder Unit :=
  shiftDecoder asciiOrHalfWidth
    (fun a b => (shiftedPlace? a b).bind fun (row, column) => (jisX0208Grid.at? (row + 0x21) column).map ([·]))
    fun _ _ => false

/-- The character of a single octet where a yen sign and an overline stand for
backslash and tilde. -/
def romanOrHalfWidth (a : Nat) : Option Char :=
  if a = 0x5C then some '¥' else if a = 0x7E then some '‾' else asciiOrHalfWidth a

/-- The rows of the second plane, in the order of Shift JIS from its row 94
on. -/
def secondPlaneRow (row : Nat) : Nat :=
  if 0x67 ≤ row then row + 7 else if 0x63 ≤ row ∨ row = 0x5F then row - 0x37 else row - 0x3D

/-- The decoder of Shift JIS with the planes of JIS X 0213. Its backslash is
the one that the single octets lack. -/
def shiftJisXDecoder (edition : Edition) : Decoder Unit :=
  shiftDecoder romanOrHalfWidth
    (fun a b => (shiftedPlace? a b).bind fun (row, column) =>
      if row = 0 ∧ column = 0x40 then some ['\\']
      else if row < 94 then firstPlane edition (row + 0x21) column
      else (secondPlane edition (secondPlaneRow row) column).map ([·]))
    fun a b => (shiftedPlace? a b).any fun (row, column) => isWithheld edition (row + 0x21) column

/-- The additions of Windows cell by cell. -/
def windows932Grid : Grid := windows932.grid

/-- The character of two octets in the Shift JIS of Windows, which has rows
for private use. -/
def windows932Cell (a b : Nat) : Option Char :=
  (windows932Grid.at? a b).or ((shiftedPlace? a b).bind fun (row, column) =>
    if 0xF0 ≤ a then
      if a ≤ 0xF9 then some (Char.ofNat (0xE000 + (row - 94) * 94 + (column - 0x21))) else none
    else jisX0208Grid.at? (row + 0x21) column)

/-- The decoder of Shift JIS as Windows has it, in which even the free octets
stand for something. -/
def windows932Decoder : Decoder Unit :=
  shiftDecoder (fun a =>
    if a = 0x80 then some '\x80'
    else if a = 0xA0 then some '\uf8f0'
    else if 0xFD ≤ a then some (Char.ofNat (0xF8F1 + (a - 0xFD)))
    else asciiOrHalfWidth a) (fun a b => (windows932Cell a b).map ([·])) fun _ _ => false

end PushRelay.Octets
