import PushRelay.Octets.Chinese
import PushRelay.Octets.Japanese
import PushRelay.Octets.Korean
import PushRelay.Octets.Page.Iso8859

/-!
# ISO 2022

Encodings of seven bits that switch between sets of characters. An escape
sequence designates a set as the first, second or third one; the octets stand
for characters of the first set, or of the second one while they are shifted.
A single character of the third set has an escape sequence of its own. Escape
sequences that designate nothing pass as text.
-/

namespace PushRelay.Octets.Iso2022

/-- A set of characters. -/
inductive CodedSet where
  | ascii
  /-- ASCII with a yen sign and an overline. -/
  | roman
  | katakana
  | latin1
  | greek
  | jisX0208
  | jisX0212
  | jisX0213First (edition : Edition)
  | jisX0213Second
  | ksX1001
  | gb2312
  deriving DecidableEq, Repr

/-- The end of the escape sequence for a set: its last octet, and whether the
set has two octets for each character. -/
structure Mark where
  double : Bool
  final : UInt8
  deriving DecidableEq, Repr

/-- One of these encodings. -/
structure Variant where
  /-- The sets beside ASCII. -/
  sets : List (Mark × CodedSet)
  /-- Whether octets can be shifted. -/
  shifts : Bool := false
  /-- Whether there is a third set. -/
  third : Bool := false
  /-- Whether an announcement of the revision of a set may precede its escape
  sequence. -/
  announces : Bool := true

/-- What has been designated so far. -/
structure State where
  first : CodedSet := .ascii
  second : CodedSet := .ascii
  third : CodedSet := .ascii
  shifted : Bool := false
  /-- Whether an escape sequence passes as text. -/
  passing : Bool := false
  deriving DecidableEq, Repr

/-! ## Sets -/

/-- The character of a single octet in the sets that have such. -/
def singleChar? (set : CodedSet) (a : UInt8) : Option Char :=
  match set with
  | .roman => if a.toNat = 0x5C then some '¥' else if a.toNat = 0x7E then some '‾' else some (Char.ofNat a.toNat)
  | .katakana => halfWidth? (a.toNat + 0x80)
  | _ => none

/-- The text of two octets in the sets that have such. -/
def doubleText? (set : CodedSet) (a b : UInt8) : Option (List Char) :=
  let cell (grid : Grid) := (grid.at? a.toNat b.toNat).map ([·])
  match set with
  | .jisX0208 => cell jisX0208Grid
  | .jisX0212 => cell jisX0212Grid
  | .jisX0213First edition => firstPlane edition a.toNat b.toNat
  | .jisX0213Second => (secondPlane .of2004 a.toNat b.toNat).map ([·])
  | .ksX1001 => cell ksX1001Grid
  | .gb2312 => cell gb2312Grid
  | _ => none

/-- Whether a set has two octets for each character. -/
def isDouble : CodedSet → Bool
  | .jisX0208 | .jisX0212 | .jisX0213First _ | .jisX0213Second | .ksX1001 | .gb2312 => true
  | _ => false

/-- The octet with the highest bit changed. -/
def flipped (a : UInt8) : UInt8 := a ^^^ 0x80

/-- The character that an octet stands for in the set of Greek letters before
the signs of money and the iota below were added to it. -/
def greekChar? (a : UInt8) : Option Char :=
  if [0xA4, 0xA5, 0xAA].contains a.toNat then none else Page.latinGreek.octet? a

/-! ## Escape sequences -/

/-- Whether an octet ends an escape sequence. -/
def isFinal (a : UInt8) : Bool := 0x40 ≤ a.toNat && a.toNat ≤ 0x5A

/-- Where an escape sequence ends. -/
inductive Extent where
  /-- After so many octets. -/
  | length (octets : Nat)
  /-- Nowhere within the octets that an escape sequence can have. -/
  | unending
  /-- Beyond the octets that there are. -/
  | unknown

/-- The extent of an escape sequence of which `before` octets have been
seen. -/
def extent (announces : Bool) (before : Nat) : List UInt8 → Extent
  | [] => if 16 ≤ before then .unending else .unknown
  | a :: rest =>
    if 16 ≤ before then .unending
    else if isFinal a then .length (before + 1)
    else if announces ∧ a.toNat = 0x26 ∧ rest.head? = some 0x40 then
      extent announces (before + 3) (rest.drop 2)
    else extent announces (before + 1) rest
termination_by octets => octets.length
decreasing_by all_goals simp only [List.length_drop, List.length_cons]; omega

/-- The place of a set among those that can be designated. -/
inductive Slot where
  | first
  | second
  | third
  deriving DecidableEq, Repr

/-- What an escape sequence designates, by the octets after the first. -/
def designation? (v : Variant) : List UInt8 → Option (Slot × Mark)
  | [0x24, final] => some (.first, ⟨true, final⟩)
  | [0x28, final] => some (.first, ⟨false, final⟩)
  | [0x29, final] => some (.second, ⟨false, final⟩)
  | [0x2E, final] => if v.third then some (.third, ⟨false, final⟩) else none
  | [0x24, 0x28, final] => some (.first, ⟨true, final⟩)
  | [0x24, 0x29, final] => some (.second, ⟨true, final⟩)
  | [_, _, 0x1B, 0x24, 0x42] => if v.announces then some (.first, ⟨true, 0x42⟩) else none
  | _ => none

/-- The set that a mark stands for. -/
def Variant.set? (v : Variant) (mark : Mark) : Option CodedSet :=
  if mark = ⟨false, 0x42⟩ then some .ascii else v.sets.lookup mark

/-- The state with a set designated. -/
def State.designate (s : State) (slot : Slot) (set : CodedSet) : State :=
  match slot with
  | .first => { s with first := set }
  | .second => { s with second := set }
  | .third => { s with third := set }

/-- The step at an escape sequence that designates a set. -/
def designating (v : Variant) (s : State) (rest : List UInt8) : Step State :=
  match extent v.announces 1 rest with
  | .unknown => .unfinished
  | .unending => .flaw s 0
  | .length n =>
    match (designation? v (rest.take (n - 1))).bind fun (slot, mark) =>
        (v.set? mark).map fun set => (slot, set) with
    | some (slot, set) => .taken (n - 1) [] true (s.designate slot set)
    | none => .flaw s (n - 1)

/-- The step at the escape sequence for a single character of the third set. -/
def thirdChar (s : State) : List UInt8 → Step State
  | _ :: c :: _ =>
    let orFlaw (char? : Option Char) : Step State :=
      match char? with
      | some char => .char s 2 char
      | none => .flaw s 2
    match s.third with
    | .ascii => orFlaw (if c.toNat < 0x80 then some (Char.ofNat c.toNat) else none)
    | .latin1 => orFlaw (if c.toNat < 0x80 then some (Char.ofNat (c.toNat + 0x80)) else none)
    | .greek => orFlaw (greekChar? (flipped c))
    | _ => .lost
  | _ => .unfinished

/-! ## Decoding -/

/-- The step at an octet that is one of a character. -/
def graphic (s : State) (a : UInt8) (rest : List UInt8) : Step State :=
  let set := if s.shifted then s.second else s.first
  if set = .ascii then .char s 0 (Char.ofNat a.toNat)
  else if isDouble set then
    match rest with
    | [] => .unfinished
    | b :: _ =>
      match doubleText? set a b with
      | some text => .taken 1 text true s
      | none => .flaw s 1
  else .char? s 0 (singleChar? set a)

/-- The decoder of an encoding. A line feed ends a shift. -/
def Variant.decoder (v : Variant) : Decoder State := fun s a rest =>
  let itself (s : State) : Step State := .char s 0 (Char.ofNat a.toNat)
  if s.passing then itself { s with passing := !isFinal a }
  else if a.toNat = 0x1B then
    match rest with
    | [] => .unfinished
    | b :: _ =>
      if [0x24, 0x26, 0x28, 0x29, 0x2E].contains b.toNat then designating v s rest
      else if v.third ∧ b.toNat = 0x4E then thirdChar s rest
      else itself { s with passing := true }
  else if v.shifts ∧ a.toNat = 0x0F then .taken 0 [] true { s with shifted := false }
  else if v.shifts ∧ a.toNat = 0x0E then .taken 0 [] true { s with shifted := true }
  else if a.toNat = 0x0A then itself { s with shifted := false }
  else if a.toNat < 0x20 then itself s
  else if 0x80 ≤ a.toNat then .flaw s 0
  else graphic s a rest

/-! ## The encodings -/

/-- The marks of the sets. -/
def marks : CodedSet → List Mark
  | .ascii => [⟨false, 0x42⟩]
  | .roman => [⟨false, 0x4A⟩]
  | .katakana => [⟨false, 0x49⟩]
  | .latin1 => [⟨false, 0x41⟩]
  | .greek => [⟨false, 0x46⟩]
  | .jisX0208 => [⟨true, 0x42⟩, ⟨true, 0x40⟩]
  | .jisX0212 => [⟨true, 0x44⟩]
  | .jisX0213First .of2000 => [⟨true, 0x4F⟩]
  | .jisX0213First .of2004 => [⟨true, 0x51⟩]
  | .jisX0213Second => [⟨true, 0x50⟩]
  | .ksX1001 => [⟨true, 0x43⟩]
  | .gb2312 => [⟨true, 0x41⟩]

/-- The given sets with all marks of each. -/
def marked (sets : List CodedSet) : List (Mark × CodedSet) :=
  sets.flatMap fun set => (marks set).map (·, set)

/-- The plain Japanese encoding. -/
def jp : Variant := { sets := marked [.jisX0208, .roman] }

/-- The Japanese encoding with the supplement. -/
def jp1 : Variant := { sets := marked [.jisX0208, .jisX0212, .roman] }

/-- The Japanese encoding with sets of other languages. -/
def jp2 : Variant :=
  { sets := marked [.jisX0208, .jisX0212, .ksX1001, .gb2312, .roman, .latin1, .greek], third := true }

/-- The Japanese encoding with the planes of JIS X 0213. The former mark of
JIS X 0208 is unknown to it. -/
def jpX (edition : Edition) : Variant :=
  { sets := (⟨true, 0x42⟩, .jisX0208) :: marked [.jisX0213First edition, .jisX0213Second] }

/-- The Japanese encoding with the supplement and half-width katakana. -/
def jpExt : Variant := { sets := marked [.jisX0208, .jisX0212, .roman, .katakana] }

/-- The Korean encoding. -/
def kr : Variant := { sets := marked [.ksX1001], shifts := true, announces := false }

end PushRelay.Octets.Iso2022
