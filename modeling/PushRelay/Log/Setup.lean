import PushRelay.Log.Line
import PushRelay.Text.Case

/-!
# Setting up logging

All lines go through one handler on the root of the logger tree. A logger
writes what is at least as urgent as its own level, or else that of the
nearest logger above it that has one; the loggers of the transport, which
would write about every request, are held to warnings.
-/

namespace PushRelay.Log

/-- How to log. -/
structure Settings where
  level : Level := .info
  format : Format := .json
  includeCaller : Value := .bool true
  service : Value := .text "fcm-relay"
  deriving Repr

/-- The settings that the given ones make, the others left as they are by
default. Level and form are given as they are written. -/
def Settings.ofArguments (named : List (String × Value)) : Except Misuse Settings := do
  let default : Settings := {}
  let level ← match named.lookup "level" with
    | some v => do
      let (_, text) ← levels.find v
      .ok ((Level.all.find? (·.text == text)).getD default.level)
    | none => .ok default.level
  let format ← match named.lookup "format" with
    | some v => do
      let (_, text) ← formats.find v
      .ok ((Format.all.find? (·.text == text)).getD default.format)
    | none => .ok default.format
  let parameters : List (Parameter Value) := [
    ⟨"level", some .null⟩, ⟨"format", some .null⟩, ⟨"include_caller", some default.includeCaller⟩,
    ⟨"service_name", some default.service⟩]
  let given ← Parameter.bind "LoggingConfig.__init__" parameters [] named
  let get name := (given.lookup name).getD .null
  .ok { level, format, includeCaller := get "include_caller", service := get "service_name" }

/-- Logging as it is set up. -/
structure Setup where
  rank : Nat
  formatter : Formatter
  deriving Repr

/-- The loggers that are held to warnings. -/
def quietLoggers : List String := ["urllib3", "httpx", "httpcore", "google.auth"]

/-- The level that a text asks for, in any case. -/
def levelNamed? (text : String) : Option Level :=
  let name := String.ofList (Text.asciiUpper text.toList)
  Level.all.find? fun l => l.text == name

/-- The form that a text asks for, in any case. -/
def formatNamed? (text : String) : Option Format :=
  let name := String.ofList (Text.lower text.toList)
  Format.all.find? fun f => f.text == name

/-- Sets up logging. The environment can override level and form. -/
def configure (settings : Settings) (env : List (String × String)) : Setup :=
  let level := ((env.lookup "FCM_RELAY_LOG_LEVEL").bind levelNamed?).getD settings.level
  let format := ((env.lookup "FCM_RELAY_LOG_FORMAT").bind formatNamed?).getD settings.format
  { rank := level.rank
    formatter := match format with
      | .json => .structured settings.service settings.includeCaller
      | .console => .console }

/-- The parts of a logger's name, from the topmost downwards. -/
def nameParts (logger : String) : List String :=
  (List.splitOn '.' logger.toList).map String.ofList

/-- The names of a logger and of those above it, from itself upwards, given
the parts of the name in reverse. -/
def ancestors : List String → List String
  | [] => []
  | part :: above => ".".intercalate (part :: above).reverse :: ancestors above

/-- The level that a logger is held to. -/
def Setup.rankOf (s : Setup) (logger : String) : Nat :=
  let names := ancestors (nameParts logger).reverse
  if names.any quietLoggers.contains then Level.warning.rank else s.rank

/-- Whether a logger writes records of a level. -/
def Setup.enabled (s : Setup) (logger : String) (rank : Int) : Bool :=
  0 < rank && (s.rankOf logger : Int) ≤ rank

/-- Whether the handler takes a record: its level, which may have been set on
it, must not be below zero. -/
def handles (r : Record) : Except Misuse Bool :=
  match r.valueOf "levelno" (.int r.rank) with
  | .float x => .ok (x != .nan && !x.belowInt 0)
  | v =>
    match v.toInt? with
    | some n => .ok (0 ≤ n)
    | none => .error (.notOrdered ">=" v.qualifiedTypeName "int")

/-- The line that a record leaves behind, if any: one that cannot be written
is dropped. -/
def Setup.line? (s : Setup) (now : Instant) (tags : Tags) (r : Record) : Option String :=
  if s.enabled r.logger r.rank then (s.formatter.format now tags r).toOption else none

/-- The lines that records leave behind, as far as the handler can tell
whether to take them. -/
def Setup.lines (s : Setup) (now : Instant) (tags : Tags) : List Record → Except Misuse (List String)
  | [] => .ok []
  | r :: rest => do
    let taken ← if s.enabled r.logger r.rank then handles r else .ok false
    let line := if taken then (s.line? now tags r).toList else []
    return line ++ (← s.lines now tags rest)

end PushRelay.Log
