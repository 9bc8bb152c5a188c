import PushRelay.Number.Numeral
import PushRelay.Text.Digit

/-!
# Network addresses

The written forms of addresses of both versions, without a mask. Nothing is
made of an address but the answer whether it is well formed.
-/

namespace PushRelay.Url

/-- The parts of a text between the given separators; there is one more of
them than separators. -/
def splitAt (separator : Char) : List Char → List (List Char)
  | [] => [[]]
  | c :: cs =>
    if c = separator then [] :: splitAt separator cs
    else
      match splitAt separator cs with
      | part :: parts => (c :: part) :: parts
      | [] => [[c]]

/-- Whether a text is a number from 0 to 255 without zeros in front. -/
def isOctet (cs : List Char) : Bool :=
  !cs.isEmpty && cs.all Char.isDigit && cs.length ≤ 3 && (cs == ['0'] || cs.head? != some '0') &&
    Numeral.ofDigits cs ≤ 255

/-- Whether a text is an address of version 4: four numbers with points
between. -/
def isAddress4 (cs : List Char) : Bool :=
  let parts := splitAt '.' cs
  parts.length == 4 && parts.all isOctet

/-- Whether a text has the form of an address of version 4: four runs of
digits with points between, however large the numbers. -/
def looksLikeAddress4 (cs : List Char) : Bool :=
  let parts := splitAt '.' cs
  parts.length == 4 && parts.all fun part => !part.isEmpty && part.all Char.isDigit

/-- Whether a text is a group of up to four hexadecimal digits. -/
def isGroup (cs : List Char) : Bool :=
  !cs.isEmpty && cs.length ≤ 4 && cs.all fun c => (Text.hexValue? c).isSome

/-- Whether a list of parts is well formed around the empty part that stands
for a run of zeros. The part at either end may be empty as well, but only next
to that one. -/
def isAbbreviated (before after : List (List Char)) : Bool :=
  let before := if before == [[]] then [] else before
  let after := if after == [[]] then [] else after
  before.all isGroup && after.all isGroup && before.length + after.length < 8

/-- Whether the parts between the colons of an address of version 6 are well
formed: eight groups, or fewer around one empty part. -/
def areGroups (parts : List (List Char)) : Bool :=
  match parts with
  | [] => false
  | first :: rest =>
    let inner := rest.dropLast
    match inner.takeWhile (!·.isEmpty), inner.dropWhile (!·.isEmpty) with
    | _, [] => parts.length == 8 && parts.all isGroup
    | before, _ :: after => isAbbreviated (first :: before) (after ++ rest.drop inner.length)

/-- Whether a text is an address of version 6. It may end in an address of
version 4, and a zone may follow it. -/
def isAddress6 (cs : List Char) : Bool :=
  let address := cs.takeWhile (· != '%')
  let zone := cs.dropWhile (· != '%')
  let zoneFits := zone.isEmpty || (1 < zone.length && !(zone.drop 1).contains '%')
  let parts := splitAt ':' address
  let last := parts.getLast?.getD []
  let groups? :=
    if last.contains '.' then
      if isAddress4 last then some (parts.dropLast ++ [['0'], ['0']]) else none
    else some parts
  match groups? with
  | some groups =>
    zoneFits && !cs.contains '/' && 3 ≤ parts.length && groups.length ≤ 9 && areGroups groups
  | none => false

end PushRelay.Url
