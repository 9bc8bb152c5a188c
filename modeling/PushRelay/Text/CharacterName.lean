import PushRelay.Text.Digit
import PushRelay.Text.Name.Ancient
import PushRelay.Text.Name.Asian
import PushRelay.Text.Name.European
import PushRelay.Text.Name.Form
import PushRelay.Text.Name.Further
import PushRelay.Text.Name.Indic
import PushRelay.Text.Name.MiddleEastern
import PushRelay.Text.Name.Notation
import PushRelay.Text.Name.Other
import PushRelay.Text.Name.Phonetic
import PushRelay.Text.Name.Picture
import PushRelay.Text.Name.Sign
import PushRelay.Text.Name.Writing
import PushRelay.Text.Ranges

/-!
# Names of characters

Every character of Unicode 14 has a name that is its own. Syllables and
ideographs are named by a rule; the names of all others are listed.
-/

namespace PushRelay.Text

/-! ## Listed names -/

/-- The words of an entry in a list of names: as many of those of the name
before as its first digit tells, and the ones that it adds. -/
def nameWords (before : List String) (entry : String) : List String :=
  match entry.toList with
  | [] => before
  | digit :: added =>
    before.take (digit.toNat - 0x30) ++ ((String.ofList added).splitOn " ").filter (!·.isEmpty)

/-- Looks for a name among entries, of which the first is that of the
character `n`. The words of the last entry are for the name after it. -/
def findEntry (name : List String) : (before : List String) → (n : Nat) → List String →
    Option Nat × List String
  | before, _, [] => (none, before)
  | before, n, entry :: entries =>
    let words := nameWords before entry
    if words = name then (some n, words) else findEntry name words (n + 1) entries

/-- Looks for a name among runs of entries. -/
def findName (name : List String) : (before : List String) → List (Nat × String) → Option Nat
  | _, [] => none
  | before, (first, run) :: runs =>
    match findEntry name before first (run.splitOn ";") with
    | (some n, _) => some n
    | (none, before) => findName name before runs

/-- The lists of names. -/
def nameLists : List (List (Nat × String)) := [
  europeanNames, middleEasternNames, indicNames, asianNames, phoneticNames, signNames, furtherNames,
  formNames, ancientNames, writingNames, notationNames, pictureNames]

/-! ## Names by rule -/

/-- Ideographs, which are named by their numbers. -/
def ideographs : List (Nat × Nat) := [
  (0x3400, 0x4DBF), (0x4E00, 0x9FFF), (0x20000, 0x2A6DF), (0x2A700, 0x2B738), (0x2B740, 0x2B81D),
  (0x2B820, 0x2CEA1), (0x2CEB0, 0x2EBE0), (0x30000, 0x3134A)]

/-- Other characters that are named by their numbers, and what precedes the
number. -/
def numberedCharacters : List (String × List (Nat × Nat)) := [
  ("CJK COMPATIBILITY IDEOGRAPH-", [(0xF900, 0xFA6D), (0xFA70, 0xFAD9), (0x2F800, 0x2FA1D)]),
  ("KHITAN SMALL SCRIPT CHARACTER-", [(0x18B00, 0x18CD5)]),
  ("NUSHU CHARACTER-", [(0x1B170, 0x1B2FB)])]

/-- The number that hexadecimal digits in capitals denote. -/
def capitalHex? (digits : List Char) : Option Nat :=
  if digits.any fun c => c.isLower then none
  else digits.foldl (fun n? c => do some (16 * (← n?) + (← hexValue? c))) (some 0)

/-- The rest of a text behind what it must begin with. -/
def behind? : (start : List Char) → List Char → Option (List Char)
  | [], cs => some cs
  | _ :: _, [] => none
  | a :: start, c :: cs => if a = c then behind? start cs else none

/-- The ideograph with a name, of which the number has four or five digits. -/
def ideographNamed? (name : List Char) : Option Nat := do
  let digits ← behind? "CJK UNIFIED IDEOGRAPH-".toList name
  let n ← capitalHex? digits
  if (digits.length = 4 ∨ digits.length = 5) ∧ inRanges ideographs n then some n else none

/-- A character that is named by its number. Its number has no more digits
than it needs, and four at least. -/
def numberedNamed? (name : List Char) : Option Nat :=
  numberedCharacters.findSome? fun (start, ranges) => do
    let digits ← behind? start.toList name
    let n ← capitalHex? digits
    if digits.length = (if n < 0x10000 then 4 else 5) ∧ inRanges ranges n then some n else none

/-- The consonants that lead a syllable, by name. -/
def leadNames : List String :=
  ["G", "GG", "N", "D", "DD", "R", "M", "B", "BB", "S", "SS", "", "J", "JJ", "C", "K", "T", "P", "H"]

/-- The vowels of a syllable, by name. -/
def vowelNames : List String :=
  ["A", "AE", "YA", "YAE", "EO", "E", "YEO", "YE", "O", "WA", "WAE", "OE", "YO", "U", "WEO", "WE", "WI",
    "YU", "EU", "YI", "I"]

/-- The consonants that end a syllable, by name. -/
def trailNames : List String :=
  ["", "G", "GG", "GS", "N", "NJ", "NH", "D", "L", "LG", "LM", "LB", "LS", "LT", "LP", "LH", "M", "B",
    "BS", "S", "SS", "NG", "J", "C", "K", "T", "P", "H"]

/-- The place of the longest name that a text begins with, and what follows
it. -/
def longestOf (names : List String) (cs : List Char) : Option (Nat × List Char) :=
  (names.zipIdx.foldl (fun best (name, place) =>
    match behind? name.toList cs, best with
    | none, best => best
    | some rest, none => some (place, rest)
    | some rest, some (other, shortest) =>
      if rest.length < shortest.length then some (place, rest) else some (other, shortest)) none)

/-- The syllable with a name. -/
def syllableNamed? (name : List Char) : Option Nat := do
  let rest ← behind? "HANGUL SYLLABLE ".toList name
  let (lead, rest) ← longestOf leadNames rest
  let (vowel, rest) ← longestOf vowelNames rest
  let (trail, rest) ← longestOf trailNames rest
  if rest.isEmpty then some (0xAC00 + (lead * 21 + vowel) * 28 + trail) else none

/-- The selector of a variant with a short name. -/
def selectorNamed? (name : List Char) : Option Nat := do
  let digits ← behind? "VS".toList name
  let n := (String.ofList digits).toNat?.getD 0
  if (toString n).toList ≠ digits then none
  else if 1 ≤ n ∧ n ≤ 16 then some (0xFE00 + (n - 1))
  else if 17 ≤ n ∧ n ≤ 256 then some (0xE0100 + (n - 17))
  else none

/-! ## All names -/

/-- The character with a name. Only names of ideographs and syllables have to
be in capitals. -/
def characterNamed? (name : List Char) : Option Nat :=
  let upper := name.map Char.toUpper
  let words := (String.ofList upper).splitOn " "
  (syllableNamed? name).or ((ideographNamed? name).or ((numberedNamed? upper).or
    ((selectorNamed? upper).or ((otherNames.lookup (String.ofList upper)).or
      (nameLists.findSome? (findName words []))))))

end PushRelay.Text
