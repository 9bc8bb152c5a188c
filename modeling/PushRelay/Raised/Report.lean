import PushRelay.Raised.Basic
import PushRelay.Text.Blank

/-!
# Reports of errors

An error as it is reported in a log: its name, and what it says if it says
anything. Before an error in a source comes the place, with what is written
there and a row of carets under it.
-/

namespace PushRelay

/-- A line that reports an error: its name, and what it says if it says
anything. -/
def reportLine (name text : String) : String := if text.isEmpty then name else name ++ ": " ++ text

namespace SourcePlace

/-- The line that tells where a place is. -/
def header (p : SourcePlace) : List String :=
  match p.line with
  | .null => []
  | line =>
    let file := if p.file.truthy then p.file.shown else "<string>"
    [s!"  File \"{file}\", line {line.shown}"]

/-- A text without the ends of lines behind it. -/
def withoutEnds (cs : List Char) : List Char := (cs.reverse.dropWhile (· == '\n')).reverse

/-- Whether a character in front of what is written in a source is passed
over. -/
def isMargin (c : Char) : Bool := c == ' ' || c == '\n' || c == '\x0c'

/-- The row of carets under the part of a written text that begins and ends at
a column, counted from one; `margin` is how much in front of the text has been
passed over. -/
def carets (written : List Char) (margin first last : Int) : List String :=
  let start := first - 1 - margin
  if start < 0 then []
  else
    let before := (written.take start.toNat).map fun c => if Text.isBlank c then c else ' '
    let count := (last - first).toNat
    ["    " ++ String.ofList (before ++ List.replicate count '^')]

/-- The last column of a place that begins at a column: the one after it,
unless another is known. -/
def endColumn (first : Int) (last : Value) : Int :=
  match last.toInt? with
  | none => first + 1
  | some n => if n = 0 ∨ n = -1 ∨ n = first then first + 1 else n

/-- What is written at a place, and the carets under it. -/
def excerpt (p : SourcePlace) : Except Misuse (List String) :=
  match p.text with
  | .null => .ok []
  | .text s =>
    let whole := withoutEnds s.toList
    let written := whole.dropWhile isMargin
    let margin := whole.length - written.length
    let marks := match p.column.toInt? with
      | some first => carets written margin first (endColumn first p.lastColumn)
      | none => []
    .ok (("    " ++ String.ofList written) :: marks)
  | .bytes _ => .error (.notOctets "str")
  | v => .error (.noAttribute v.qualifiedTypeName "rstrip")

/-- The report of an error in a source. -/
def report (name : String) (message : Value) (p : SourcePlace) : Except Misuse String := do
  let excerpt ← p.excerpt
  let message := if message.truthy then message.shown else "<no detail available>"
  let ending := match p.line, p.file with
    | .null, .null => ""
    | .null, file => s!" ({file.shown})"
    | _, _ => ""
  .ok ("\n".intercalate (p.header ++ excerpt ++ [s!"{name}: {message}{ending}"]))

end SourcePlace

/-- The error on lines of its own. -/
def Raised.report (e : Raised) : Except Misuse String :=
  match e.source with
  | some (message, place) => place.report e.name message
  | none =>
    let name := match e.home with
      | some home => home ++ "." ++ e.name
      | none => e.name
    .ok (reportLine name e.text)

end PushRelay
