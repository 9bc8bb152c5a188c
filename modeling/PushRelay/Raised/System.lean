import PushRelay.Raised.Basic
import PushRelay.Value.Shape

/-!
# Errors of the system

Errors of the operating system are made from a number and a text, and possibly
the names of one or two files; many of their numbers have a name of their own.
Errors in coding tell what could not be coded and why. Errors in a source tell
where they are. All other errors say what they were made from.
-/

namespace PushRelay
namespace Raised

/-! ## Arguments -/

/-- What the type of an argument is called in a complaint about it. -/
def argumentType (v : Value) : String :=
  match v with
  | .null => "None"
  | v => v.qualifiedTypeName

/-- An argument that has to be a text. -/
def textArgument (callable : Option String) (position : Nat) (v : Value) : Except Misuse String :=
  match v with
  | .text s => .ok s
  | v => .error (.wrongArgument callable position "str" (argumentType v))

/-- An argument that has to be a position. -/
def positionArgument (v : Value) : Except Misuse Int :=
  match v.toInt? with
  | none => .error (.notWhole v.qualifiedTypeName)
  | some n =>
    if -0x8000000000000000 ≤ n ∧ n < 0x8000000000000000 then .ok n else .error .positionTooLarge

/-! ## Errors with a number -/

/-- The errors that have a name of their own, by number. -/
def numberedNames : List (Int × String) := [
  (1, "PermissionError"), (2, "FileNotFoundError"), (3, "ProcessLookupError"),
  (4, "InterruptedError"), (10, "ChildProcessError"), (11, "BlockingIOError"),
  (13, "PermissionError"), (17, "FileExistsError"), (20, "NotADirectoryError"),
  (21, "IsADirectoryError"), (32, "BrokenPipeError"), (103, "ConnectionAbortedError"),
  (104, "ConnectionResetError"), (108, "BrokenPipeError"), (110, "TimeoutError"),
  (111, "ConnectionRefusedError"), (114, "BlockingIOError"), (115, "BlockingIOError")]

/-- The other names of the errors that have none of their own. -/
def unnumberedNames : List String := ["OSError", "IOError", "EnvironmentError"]

/-- Whether errors of this name are made from a number. -/
def isNumbered (name : String) : Bool :=
  name == "ConnectionError" || unnumberedNames.contains name || numberedNames.any (·.2 == name)

/-- The name that an error made from these arguments goes by. -/
def numberedName (name : String) (args : List Value) : String :=
  if unnumberedNames.contains name then
    match args with
    | number :: _ :: rest =>
      if rest.length ≤ 3 then (number.toInt?.bind (numberedNames.lookup ·)).getD "OSError" else "OSError"
    | _ => "OSError"
  else name

/-- The value unless it is null. -/
def unlessNull : Value → Option Value
  | .null => none
  | v => some v

/-- What an error says that is made from a number, a text and possibly
files. -/
def numberedText (number reason : Value) (file second : Option Value) : String :=
  s!"[Errno {number.shown}] {reason.shown}" ++
  match file, second with
  | none, _ => ""
  | some file, none => s!": {file.literal}"
  | some file, some second => s!": {file.literal} -> {second.literal}"

/-- The file that an error names. Where the work would have blocked, a number
in its place counts what had been written. -/
def fileArgument (name : String) (v : Value) : Except Misuse (Option Value) :=
  if name == "BlockingIOError" then
    match v with
    | .float _ => .error (.notWhole v.qualifiedTypeName)
    | v =>
      match v.toInt? with
      | some n =>
        if -0x8000000000000000 ≤ n ∧ n < 0x8000000000000000 then .ok none else .error .countTooLarge
      | none => .ok (unlessNull v)
  else .ok (unlessNull v)

/-- An error made from a number; with too few or too many arguments it says
all of them. -/
def numbered (origin : Origin) (name : String) (args : List Value) : Except Misuse Raised := do
  let text ← match args with
    | [number, reason] => .ok (numberedText number reason none none)
    | [number, reason, file] | [number, reason, file, _] => do
      .ok (numberedText number reason (← fileArgument name file) none)
    | [number, reason, file, _, second] => do
      .ok (numberedText number reason (← fileArgument name file) (unlessNull second))
    | args => .ok (Value.argumentsText args)
  .ok { origin, name, text }

/-! ## Errors in coding -/

/-- What could not be coded: the one piece at `first`, if it is one and there
is such a piece, or whatever lies between two positions. `single` shows a
piece. -/
def spanText {α : Type} (verb kinds kind : String) (single : α → String) (whole : List α)
    (first past : Int) (reason : String) : String :=
  let piece? := if past = first + 1 then whole[first.toNat]? else none
  match piece? with
  | some piece => s!"{verb} {kind} {single piece} in position {first}: {reason}"
  | none => s!"{verb} {kinds} in position {first}-" ++ toString (past - 1) ++ s!": {reason}"

/-- A character by its number, in quotes. -/
def escapedChar (c : Char) : String := "'" ++ String.ofList (Text.numericEscape c.toNat) ++ "'"

/-- An octet by its number. -/
def octetText (b : UInt8) : String := "0x" ++ String.ofList (Text.hexText 2 b.toNat)

/-- A text of which a part could not be encoded. -/
def encoding (args : List Value) : Except Misuse Raised :=
  match args with
  | [codec, whole, first, past, reason] => do
    let codec ← textArgument none 1 codec
    let whole ← textArgument none 2 whole
    let first ← positionArgument first
    let past ← positionArgument past
    let reason ← textArgument none 5 reason
    let text := spanText s!"'{codec}' codec can't encode" "characters" "character" escapedChar
      whole.toList first past reason
    .ok { name := "UnicodeEncodeError", text }
  | args => .error (.wrongCount "function" "exactly" 5 args.length)

/-- Octets of which a part could not be decoded. -/
def decoding (args : List Value) : Except Misuse Raised :=
  match args with
  | [codec, whole, first, past, reason] => do
    let codec ← textArgument none 1 codec
    let first ← positionArgument first
    let past ← positionArgument past
    let reason ← textArgument none 5 reason
    match whole with
    | .bytes octets =>
      let text := spanText s!"'{codec}' codec can't decode" "bytes" "byte" octetText octets first past
        reason
      .ok { name := "UnicodeDecodeError", text }
    | v => .error (.notOctets v.qualifiedTypeName)
  | args => .error (.wrongCount "function" "exactly" 5 args.length)

/-- A text of which a part could not be translated. -/
def translating (args : List Value) : Except Misuse Raised :=
  match args with
  | [whole, first, past, reason] => do
    let whole ← textArgument none 1 whole
    let first ← positionArgument first
    let past ← positionArgument past
    let reason ← textArgument none 4 reason
    let text := spanText "can't translate" "characters" "character" escapedChar whole.toList first past
      reason
    .ok { name := "UnicodeTranslateError", text }
  | args => .error (.wrongCount "function" "exactly" 4 args.length)

/-! ## Errors in a source -/

/-- The place that is given by its parts: file, line, column and text, and
possibly where it ends. -/
def sourcePlace (parts : List Value) : Except Misuse SourcePlace :=
  match parts with
  | [file, line, column, text] => .ok { file, line, column, text }
  | [_, _, _, _, _] => .error .endWithoutColumn
  | [file, line, column, text, _, lastColumn] => .ok { file, line, column, text, lastColumn }
  | parts =>
    if parts.length < 4 then .error (.wrongCount "function" "at least" 4 parts.length)
    else .error (.wrongCount "function" "at most" 6 parts.length)

/-- The line of a place as it is shown in short, where it has a bound. -/
def shortLine (line : Value) : Option String :=
  match line with
  | .int n => some (if -0x8000000000000000 ≤ n ∧ n < 0x8000000000000000 then toString n else "-1")
  | _ => none

/-- The last part of the name of a file. -/
def shortFile (file : Value) : Option String :=
  match file with
  | .text s => some (String.ofList (s.toList.reverse.takeWhile (· != '/')).reverse)
  | _ => none

/-- What an error in a source says: what is wrong, and the place in short. -/
def sourceText (message : Value) (place : SourcePlace) : String :=
  message.shown ++
  match shortFile place.file, shortLine place.line with
  | none, none => ""
  | some file, some line => s!" ({file}, line {line})"
  | some file, none => s!" ({file})"
  | none, some line => s!" (line {line})"

/-- An error in a source. -/
def sourceError (name : String) (args : List Value) : Except Misuse Raised := do
  let (message, place) ← match args with
    | [] => .ok (Value.null, {})
    | [message, place] => do .ok (message, ← sourcePlace (← place.items))
    | message :: _ => .ok (message, {})
  .ok { name, text := sourceText message place, source := some (message, place) }

/-! ## Groups of errors -/

/-- A group of errors, which cannot be made from anything but errors. -/
def group (args : List Value) : Except Misuse Raised :=
  let callable := "BaseExceptionGroup.__new__"
  match args with
  | [message, members] => do
    let _ ← textArgument (some callable) 1 message
    match members.opened with
    | .text _ | .bytes _ | .list _ | .tuple _ =>
      if members.truthy then .error (.groupElement 0) else .error .groupEmpty
    | _ => .error .groupNotRow
  | args => .error (.wrongCount (callable ++ "()") "exactly" 2 args.length)

/-! ## All of them -/

/-- The errors that say no more than what they were made from. -/
def plainNames : List String := [
  "BaseException", "Exception", "GeneratorExit", "KeyboardInterrupt", "SystemExit", "ArithmeticError",
  "AssertionError", "AttributeError", "BufferError", "EOFError", "ImportError", "LookupError",
  "MemoryError", "NameError", "ReferenceError", "RuntimeError", "StopAsyncIteration",
  "StopIteration", "SystemError", "TypeError", "ValueError", "Warning", "FloatingPointError",
  "OverflowError", "ZeroDivisionError", "BytesWarning", "DeprecationWarning", "EncodingWarning",
  "FutureWarning", "ImportWarning", "PendingDeprecationWarning", "ResourceWarning",
  "RuntimeWarning", "SyntaxWarning", "UnicodeWarning", "UserWarning", "IndexError", "KeyError",
  "ModuleNotFoundError", "NotImplementedError", "RecursionError", "UnboundLocalError", "UnicodeError"]

/-- The error of the system that goes by this name. -/
def ofSystem (name : String) (args : List Value) : Except Misuse Raised :=
  if isNumbered name then numbered .system (numberedName name args) args
  else if name == "UnicodeEncodeError" then encoding args
  else if name == "UnicodeDecodeError" then decoding args
  else if name == "UnicodeTranslateError" then translating args
  else if ["SyntaxError", "IndentationError", "TabError"].contains name then sourceError name args
  else if ["BaseExceptionGroup", "ExceptionGroup"].contains name then group args
  else if !plainNames.contains name then .error (.unknownName "builtins" name)
  else
    match name, args with
    | "KeyError", [key] => .ok { name, text := key.literal }
    | _, _ => .ok (plain .system name args)

end Raised
end PushRelay
