import PushRelay.Octets.Table.Big5
import PushRelay.Octets.Table.Gb18030
import PushRelay.Octets.Table.Gb2312
import PushRelay.Octets.Table.HongKong

/-!
# Chinese encodings

Simplified ideographs are encoded by GB 2312, which GBK and then GB 18030
extend until each character has its octets; HZ switches between ASCII and GB
2312. Traditional ideographs are encoded by Big5, which Windows and the
government of Hong Kong have extended.
-/

namespace PushRelay.Octets

/-! ## GB 2312 and GBK -/

/-- GB 2312 cell by cell. -/
def gb2312Grid : Grid := gb2312.grid

/-- The signs of GBK cell by cell. -/
def gbkSignGrid : Grid := gbkSigns.grid

/-- How many ideographs there are in the order of Unicode, from U+4E00 on. -/
def ideographCount : Nat := 0x51A6

/-- Whether GB 2312 has an ideograph, by its place in the order of Unicode. -/
def gb2312Ideographs : Array Bool :=
  gb2312Grid.cells.foldl (fun known c =>
    if 0x4E00 ≤ c.toNat then known.setIfInBounds (c.toNat - 0x4E00) true else known)
    (Array.replicate ideographCount false)

/-- The ideographs that GBK adds: those that GB 2312 lacks in the order of
Unicode, and a few that Unicode keeps for their compatibility. -/
def gbkIdeographs : Array Char :=
  let lacking := (List.range ideographCount).filter fun n => gb2312Ideographs[n]? == some false
  let compatible := [0xF92C, 0xF979, 0xF995, 0xF9E7, 0xF9F1, 0xFA0C, 0xFA0D, 0xFA0E, 0xFA0F, 0xFA11,
    0xFA13, 0xFA14, 0xFA18, 0xFA1F, 0xFA20, 0xFA21, 0xFA23, 0xFA24, 0xFA27, 0xFA28, 0xFA29]
  (lacking.map (0x4E00 + ·) ++ compatible).toArray.map Char.ofNat

/-- The place of an octet among those that can be second: from 0x40 on without
0x7F. -/
def trailPlace? (b : Nat) : Option Nat :=
  if 0x40 ≤ b ∧ b < 0x7F then some (b - 0x40)
  else if 0x7F < b ∧ b < 0xFF then some (b - 0x41)
  else none

/-- The place of two octets among the ideographs that GBK adds. They fill the
rows before those of GB 2312, and the cells to the left of its ideographs. -/
def gbkPlace? (a b : Nat) : Option Nat := do
  let place ← trailPlace? b
  if 0x81 ≤ a ∧ a ≤ 0xA0 then some ((a - 0x81) * 190 + place)
  else if 0xAA ≤ a ∧ place < 96 then some (6080 + (a - 0xAA) * 96 + place)
  else none

/-- The character of two octets in GBK. -/
def gbkCell (a b : Nat) : Option Char :=
  (gbkSignGrid.at? a b).or ((gb2312Grid.upper? a b).or ((gbkPlace? a b).bind (gbkIdeographs[·]?)))

/-- The decoder of GB 2312. -/
def gb2312Decoder : Decoder Unit := twoOctets gb2312Grid.upper?

/-- The decoder of GBK. -/
def gbkDecoder : Decoder Unit := twoOctets gbkCell

/-! ## GB 18030 -/

/-- The character of two octets in GB 18030. -/
def gb18030Cell (a b : Nat) : Option Char :=
  (gbkCell a b).or (gb18030Added.findSome? fun (start, point, count) =>
    let n := a * 256 + b
    if start ≤ n ∧ n < start + count then some (Char.ofNat (point + (n - start))) else none)

/-- The character with a number in the order of its runs. -/
def runChar (n : Nat) : (runs : List (Nat × Nat)) → Char
  | [] => replacement
  | [(start, point)] => Char.ofNat (point + (n - start))
  | (start, point) :: (later, other) :: runs =>
    if n < later then Char.ofNat (point + (n - start)) else runChar n ((later, other) :: runs)

/-- The character of four octets in GB 18030: the second and the fourth are
digits, and the number that all of them make counts first the characters up to
U+FFFF that have no two octets, then those beyond. -/
def gb18030Four (a b c d : Nat) : Option Char :=
  if a < 0x81 ∨ 0xFE < a ∨ c < 0x81 ∨ 0xFE < c ∨ d < 0x30 ∨ 0x39 < d then none
  else
    let n := (((a - 0x81) * 10 + (b - 0x30)) * 126 + (c - 0x81)) * 10 + (d - 0x30)
    if n < 39420 then some (runChar n gb18030Runs)
    else if n < 189000 then none
    else if n - 189000 < 0x100000 then some (Char.ofNat (0x10000 + (n - 189000)))
    else none

/-- The decoder of GB 18030. -/
def gb18030Decoder : Decoder Unit := fun state a rest =>
  match rest with
  | [] => twoOctets (fun _ _ => none) state a rest
  | b :: rest' =>
    if 0x80 ≤ a.toNat ∧ 0x30 ≤ b.toNat ∧ b.toNat ≤ 0x39 then
      match rest' with
      | c :: d :: _ => .char? () 3 (gb18030Four a.toNat b.toNat c.toNat d.toNat)
      | _ => .unfinished
    else twoOctets gb18030Cell state a rest

/-! ## HZ -/

/-- The decoder of HZ. A tilde and a brace switch to GB 2312 and back; in
ASCII a tilde stands for itself when it is doubled, and joins two lines in
front of their break. The state is whether octets are those of GB 2312. -/
def hzDecoder : Decoder Bool := fun switched a rest =>
  if a.toNat = 0x7E then
    match rest with
    | [] => .unfinished
    | b :: _ =>
      if switched then
        if b.toNat = 0x7D then .taken 1 [] true false else .flaw switched 0
      else if b.toNat = 0x7E then .char switched 1 '~'
      else if b.toNat = 0x7B then .taken 1 [] true true
      else if b.toNat = 0x0A then .taken 1 [] true false
      else .flaw switched 0
  else if 0x80 ≤ a.toNat then .flaw switched 0
  else if !switched then .char switched 0 (Char.ofNat a.toNat)
  else
    match rest with
    | [] => .unfinished
    | b :: _ => .char? switched 1 (gb2312Grid.at? a.toNat b.toNat)

/-! ## Big5 -/

/-- Big5 cell by cell. -/
def big5Grid : Grid := big5.grid

/-- The supplement of Hong Kong cell by cell. -/
def hongKongGrid : Grid := hongKong.grid

/-- The decoder of Big5. -/
def big5Decoder : Decoder Unit := twoOctets big5Grid.at?

/-- The decoder of Big5 as Windows has it. -/
def cp950Decoder : Decoder Unit :=
  twoOctets fun a b => (cp950.char? (a * 256 + b)).or (big5Grid.at? a b)

/-- The text of two octets in Big5 with the supplement of Hong Kong, which has
the rows after 0xC6A0 and up to 0xC8FE to itself. -/
def hongKongCell (a b : Nat) : Option (List Char) :=
  let own := (a = 0xC6 ∧ 0xA1 ≤ b) ∨ a = 0xC7 ∨ a = 0xC8
  let shared := if own then none else big5Grid.at? a b
  match shared.or (hongKongGrid.at? a b) with
  | some c => some [c]
  | none => (hongKongPairs.lookup (a * 256 + b)).map String.toList

/-- The decoder of Big5 with the supplement of Hong Kong. -/
def hongKongDecoder : Decoder Unit := pairDecoder hongKongCell fun _ _ => false

end PushRelay.Octets
