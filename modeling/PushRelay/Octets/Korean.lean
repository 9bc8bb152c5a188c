import PushRelay.Octets.Table.KsX1001

/-!
# Korean encodings

Syllables are made of a leading consonant, a vowel and possibly a trailing
consonant. KS X 1001 has the common ones in cells of their own; the encodings
here differ in how they write the others.
-/

namespace PushRelay.Octets

/-- KS X 1001 cell by cell. -/
def ksX1001Grid : Grid := ksX1001.grid

/-! ## Syllables -/

/-- The consonants that can lead a syllable. -/
def leadingConsonants : List Char := "ㄱㄲㄴㄷㄸㄹㅁㅂㅃㅅㅆㅇㅈㅉㅊㅋㅌㅍㅎ".toList

/-- The consonants that can end a syllable. -/
def trailingConsonants : List Char := "ㄱㄲㄳㄴㄵㄶㄷㄹㄺㄻㄼㄽㄾㄿㅀㅁㅂㅄㅅㅆㅇㅈㅊㅋㅌㅍㅎ".toList

/-- The vowel with a number. -/
def vowelLetter (vowel : Nat) : Char := Char.ofNat (0x314F + vowel)

/-- The syllable of a leading consonant, a vowel and a trailing consonant,
which is zero if there is none. -/
def syllable (lead vowel trail : Nat) : Char := Char.ofNat (0xAC00 + (lead * 21 + vowel) * 28 + trail)

/-! ## EUC-KR -/

/-- The letter that the second octet of a cell of letters stands for. -/
def letterOf (b : Nat) : Char := Char.ofNat (0x3131 + (b - 0xA1))

/-- The syllable that is made up from the letters in three cells, of which the
last may hold a filler. -/
def madeUp? (lead vowel trail : Nat) : Option Char := do
  let l ← if 0xA1 ≤ lead then leadingConsonants.idxOf? (letterOf lead) else none
  let v ← if 0xBF ≤ vowel ∧ vowel ≤ 0xD3 then some (vowel - 0xBF) else none
  let t ←
    if trail = 0xD4 then some 0
    else if 0xA1 ≤ trail then (trailingConsonants.idxOf? (letterOf trail)).map (· + 1)
    else none
  some (syllable l v t)

/-- The decoder of EUC-KR. A filler announces the three letters of a syllable
that has no cell. -/
def eucKrDecoder : Decoder Unit := fun state a rest =>
  match rest with
  | [] => twoOctets (fun _ _ => none) state a rest
  | b :: rest' =>
    if a.toNat = 0xA4 ∧ b.toNat = 0xD4 then
      match rest' with
      | c :: lead :: d :: vowel :: e :: trail :: _ =>
        if c.toNat = 0xA4 ∧ d.toNat = 0xA4 ∧ e.toNat = 0xA4 then
          .char? () 7 (madeUp? lead.toNat vowel.toNat trail.toNat)
        else .flaw () 0
      | _ => .unfinished
    else
      twoOctets ksX1001Grid.upper? state a rest

/-! ## Windows -/

/-- The syllables without a cell in KS X 1001, in order. -/
def furtherSyllables : Array Char :=
  let known := ksX1001Grid.cells.foldl (fun known c =>
    if 0xAC00 ≤ c.toNat then known.setIfInBounds (c.toNat - 0xAC00) true else known)
    (Array.replicate 11172 false)
  (((List.range 11172).filter fun n => known[n]? == some false).map fun n => Char.ofNat (0xAC00 + n)).toArray

/-- The place of an octet among those that can be second in the cells of
further syllables. -/
def furtherPlace? (b : Nat) : Option Nat :=
  if 0x41 ≤ b ∧ b ≤ 0x5A then some (b - 0x41)
  else if 0x61 ≤ b ∧ b ≤ 0x7A then some (b - 0x47)
  else if 0x81 ≤ b ∧ b ≤ 0xFE then some (b - 0x4D)
  else none

/-- The further syllable of two octets. They fill the rows before those of KS
X 1001, and then the cells to the left of its own. -/
def furtherSyllable? (a b : Nat) : Option Char := do
  let place ← furtherPlace? b
  if a < 0x81 then none
  else if a ≤ 0xA0 then furtherSyllables[(a - 0x81) * 178 + place]?
  else if place < 84 then furtherSyllables[5696 + (a - 0xA1) * 84 + place]?
  else none

/-- The decoder of the Korean encoding of Windows. -/
def cp949Decoder : Decoder Unit :=
  twoOctets fun a b => (ksX1001Grid.upper? a b).or (furtherSyllable? a b)

/-! ## Johab -/

/-- The part of a syllable that five bits stand for. -/
inductive SyllablePart where
  | filler
  | letter (index : Nat)
  deriving DecidableEq, Repr

/-- The leading consonant of five bits. -/
def johabLead? (bits : Nat) : Option SyllablePart :=
  if bits = 1 then some .filler else if 2 ≤ bits ∧ bits ≤ 20 then some (.letter (bits - 2)) else none

/-- The vowel of five bits; of each eight numbers the first two are left
out. -/
def johabVowel? (bits : Nat) : Option SyllablePart :=
  if bits = 2 then some .filler
  else if bits % 8 < 2 ∨ bits < 3 ∨ 30 ≤ bits then none
  else some (.letter (bits - 3 - bits / 8 * 2))

/-- The trailing consonant of five bits, counted from one. -/
def johabTrail? (bits : Nat) : Option SyllablePart :=
  if bits = 1 then some .filler
  else if 2 ≤ bits ∧ bits ≤ 17 then some (.letter (bits - 1))
  else if 19 ≤ bits ∧ bits ≤ 29 then some (.letter (bits - 2))
  else none

/-- The syllable of three parts, or the only letter among them. -/
def johabSyllable? : SyllablePart → SyllablePart → SyllablePart → Option Char
  | .filler, .filler, .filler => some '\u3000'
  | .filler, .filler, .letter t => trailingConsonants[t - 1]?
  | .filler, .letter v, .filler => some (vowelLetter v)
  | .letter l, .filler, .filler => leadingConsonants[l]?
  | .letter l, .letter v, .filler => some (syllable l v 0)
  | .letter l, .letter v, .letter t => some (syllable l v t)
  | _, _, _ => none

/-- The sign or ideograph of two octets: two rows of KS X 1001 for each first
octet. -/
def johabSign? (a b : Nat) : Option Char :=
  if a = 0xDF ∨ 0xF9 < a ∨ b < 0x31 ∨ (0x80 ≤ b ∧ b < 0x91) ∨ b % 0x80 = 0x7F ∨
      (a = 0xDA ∧ 0xA1 ≤ b ∧ b ≤ 0xD3) then none
  else
    let place := if b < 0x91 then b - 0x31 else b - 0x43
    let row := 2 * a + place / 94
    let base := if a < 0xE0 then 2 * 0xD9 else 0x197
    if row < base then none else ksX1001Grid.at? (row - base + 0x21) (place % 94 + 0x21)

/-- The character of two octets in Johab. -/
def johabCell (a b : Nat) : Option Char :=
  if a < 0xD8 then do
    let bits := a * 256 + b
    johabSyllable? (← johabLead? (bits / 1024 % 32)) (← johabVowel? (bits / 32 % 32))
      (← johabTrail? (bits % 32))
  else johabSign? a b

/-- The decoder of Johab. -/
def johabDecoder : Decoder Unit := twoOctets johabCell

end PushRelay.Octets
