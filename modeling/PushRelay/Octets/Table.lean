import PushRelay.Octets.Decoder

/-!
# Tables of characters

Characters by number, in runs of neighbours. A run is given by the number of
its first character; the numbers ascend. Where a number within a run has no
character, the replacement character stands in the run.
-/

namespace PushRelay.Octets

/-- A table of characters. -/
abbrev Table := List (Nat × String)

/-- The character unless it is the replacement character. -/
def unlessReplacement (c : Char) : Option Char := if c = replacement then none else some c

namespace Table

/-- What stands at a number. -/
def entry? : Table → Nat → Option Char
  | [], _ => none
  | (first, run) :: rest, n =>
    if n < first then none
    else
      match run.toList[n - first]? with
      | some c => some c
      | none => entry? rest n

/-- The character with a number. -/
def char? (t : Table) (n : Nat) : Option Char := (t.entry? n).bind unlessReplacement

/-- The character of an octet in a code page. What a page does not mention
stands for the character with the number of the octet. -/
def octet? (page : Table) (b : UInt8) : Option Char :=
  match page.entry? b.toNat with
  | some c => unlessReplacement c
  | none => some (Char.ofNat b.toNat)

/-- A decoder of texts with one octet for each character. -/
def decoder (page : Table) : Decoder Unit := fun _ a _ => .char? () 0 (page.octet? a)

end Table

/-- A table that is laid out cell by cell from its first number on. -/
structure Grid where
  first : Nat
  cells : Array Char

/-- Lays out a table. -/
def Table.grid (t : Table) : Grid :=
  let first := (t.head?.map (·.1)).getD 0
  let cells := t.foldl (fun cells (start, run) =>
    run.foldl Array.push (cells ++ Array.replicate (start - first - cells.size) replacement)) #[]
  ⟨first, cells⟩

namespace Grid

/-- The character with a number. -/
def char? (g : Grid) (n : Nat) : Option Char :=
  if n < g.first then none else (g.cells[n - g.first]?).bind unlessReplacement

/-- The character at a row and a column. -/
def at? (g : Grid) (row column : Nat) : Option Char :=
  if row < 256 ∧ column < 256 then g.char? (row * 256 + column) else none

/-- The character at a row and a column, both of which are given with 0x80
added. -/
def upper? (g : Grid) (a b : Nat) : Option Char :=
  if 0x80 ≤ a ∧ 0x80 ≤ b then g.at? (a - 0x80) (b - 0x80) else none

end Grid
end PushRelay.Octets
