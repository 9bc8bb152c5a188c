import PushRelay.Text.Quoted

/-!
# Requests

What is sent to a server. A header is ASCII.
-/

namespace PushRelay.Http

/-- Why a text cannot be a header: its characters from `first` to `last`, of
which `char` is the first, are not ASCII. -/
structure HeaderError where
  first : Nat
  last : Nat
  char : Char
  deriving DecidableEq, Repr

namespace HeaderError

/-- What the error says. -/
def message (e : HeaderError) : String :=
  let escape := String.ofList (Text.numericEscape e.char.toNat)
  "'ascii' codec can't encode " ++
  (if e.first = e.last then s!"character '{escape}' in position {e.first}"
  else s!"characters in position {e.first}-{e.last}") ++ ": ordinal not in range(128)"

end HeaderError

/-- A text as a header. -/
def headerText (s : String) : Except HeaderError String :=
  let before := s.toList.takeWhile Text.isAscii
  match s.toList.dropWhile Text.isAscii with
  | [] => .ok s
  | c :: rest =>
    .error ⟨before.length, before.length + (rest.takeWhile (!Text.isAscii ·)).length, c⟩

/-- A request. -/
structure Request where
  method : String
  url : String
  authorization : String
  contentType : String
  userAgent : Option String
  body : String
  deriving DecidableEq, Repr

end PushRelay.Http
