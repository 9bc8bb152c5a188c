import PushRelay.Instant
import PushRelay.Json.Writer
import PushRelay.Log.Record
import PushRelay.Scope

/-!
# Log lines

A record becomes a line in one of two forms: a JSON object for programs, or a
short text for people. Both carry the tags of the moment.
-/

namespace PushRelay.Log

/-- The form of log lines. -/
inductive Format where
  | json
  | console
  deriving DecidableEq, Repr

namespace Format

/-- All forms. -/
def all : List Format := [.json, .console]

/-- The form as it is written in settings. -/
def text : Format → String
  | .json => "json"
  | .console => "console"

/-- What the form is called. -/
def name : Format → String
  | .json => "JSON"
  | .console => "CONSOLE"

end Format

/-- The forms as an enumeration. -/
def formats : Enumeration := ⟨"LogFormat", Format.all.map fun f => (f.name, f.text)⟩

/-- Why a record cannot be written. -/
inductive LineError where
  | template (e : TemplateError)
  | json (e : Json.WriteError)
  | misused (e : Misuse)
  deriving DecidableEq, Repr

namespace LineError

/-- What the error is called. -/
def className : LineError → String
  | .template e => e.className
  | .json e => e.className
  | .misused e => e.className

/-- What the error says. -/
def message : LineError → String
  | .template e => e.message
  | .json e => e.message
  | .misused e => e.message

/-- The misuse of a value, as a reason. -/
def ofMisuse {α : Type} : Except Misuse α → Except LineError α
  | .ok a => .ok a
  | .error e => .error (.misused e)

end LineError

open LineError (ofMisuse)

/-- What writes lines. -/
inductive Formatter where
  | structured (service : Value) (withCaller : Value)
  | console
  deriving Repr

/-- What a formatter is called. -/
def Formatter.name : Formatter → String
  | .structured .. => "StructuredFormatter"
  | .console => "ConsoleFormatter"

/-- The formatter of structured lines that the given settings make. -/
def Formatter.ofArguments (named : List (String × Value)) : Except Misuse Formatter := do
  let parameters : List (Parameter Value) := [
    ⟨"service_name", some (.text "fcm-relay")⟩, ⟨"include_caller", some (.bool true)⟩]
  let given ← Parameter.bind "StructuredFormatter.__init__" parameters [] named
  let get name := (given.lookup name).getD .null
  .ok (.structured (get "service_name") (get "include_caller"))

/-- The message of a record. -/
def messageOf (r : Record) : Except LineError String :=
  match r.attributes.lookup "getMessage" with
  | some v => .error (.misused (.notCallable v.qualifiedTypeName))
  | none =>
    match r.message with
    | .ok s => .ok s
    | .error e => .error (.template e)

/-- The fields that every structured line begins with. -/
def coreFields (now : Instant) (service : Value) (r : Record) (message : String) : Bindings := [
  ("timestamp", .text now.isoText), ("level", r.levelName), ("logger", r.loggerName),
  ("message", .text message), ("service", service)]

/-- The fields that tell where a record was logged. -/
def callerFields (r : Record) : Bindings := [
  ("module", r.valueOf "module" (.text r.module)), ("function", r.valueOf "funcName" r.function),
  ("line", r.valueOf "lineno" r.line)]

/-! ## Errors -/

/-- What a record reports as its error: nothing, an error, or a row that was
set in the place of one. -/
inductive Reported where
  | nothing
  | trouble (t : Trouble)
  | row (v : Value)
  deriving Repr

/-- What a record reports as its error. A row without a first element reports
nothing. -/
def reported (r : Record) : Except Misuse Reported :=
  match r.attributes.lookup "exc_info" with
  | none =>
    match r.trouble with
    | none => .ok .nothing
    | some t => .ok (.trouble t)
  | some v =>
    if !v.truthy then .ok .nothing
    else do
      match ← v.elementAt 0 with
      | .null => .ok .nothing
      | _ => .ok (.row v)

/-- The field that reports an error. The first element of a row has no name to
report. -/
def troubleFields : Reported → Except Misuse Bindings
  | .nothing => .ok []
  | .trouble t => do
    let report ← t.report
    .ok [("exception", .record [
      ("type", .text t.className), ("message", .text t.text), ("traceback", .text report)])]
  | .row v => do
    let first ← v.elementAt 0
    .error (.noAttribute first.qualifiedTypeName "__name__")

/-- The lines that report an error. A row has nothing to report unless its
other elements are null. -/
def troubleText : Reported → Except Misuse String
  | .nothing => .ok ""
  | .trouble t => return "\n" ++ (← t.report)
  | .row v => do
    let place ← v.elementAt 2
    let error ← v.elementAt 1
    match place, error with
    | .null, .null => .ok "\nNoneType: None"
    | .null, error => .error (.noAttribute error.qualifiedTypeName "__suppress_context__")
    | place, _ => .error (.noAttribute place.qualifiedTypeName "tb_frame")

/-! ## Structured lines -/

/-- The attributes of a record that go into a line, in the order in which they
are written. -/
def reportedAttributes : List String := ["status_code", "latency_ms", "error_code"]

/-- The fields that a record's attributes make. -/
def attributeFields (r : Record) : Bindings :=
  reportedAttributes.filterMap fun name => (r.attributes.lookup name).map (name, ·)

/-- The fields of a structured line; `trouble` are those that report an error.
Of fields with one name the last value stands in the first place: tags replace
core fields, errors and attributes replace tags. -/
def lineFields (service withCaller : Value) (now : Instant) (tags : Tags) (r : Record)
    (message : String) (trouble : Bindings) : Bindings :=
  let fields := coreFields now service r message
  let fields := if withCaller.truthy then fields ++ callerFields r else fields
  let fields := fields.update tags.fields
  let fields := fields.update trouble
  fields.update (attributeFields r)

/-- A line for programs. -/
def structuredLine (service withCaller : Value) (now : Instant) (tags : Tags) (r : Record) :
    Except LineError String := do
  let message ← messageOf r
  let trouble ← ofMisuse (do troubleFields (← reported r))
  match Json.writeLenient (lineFields service withCaller now tags r message trouble).toValue with
  | .ok line => .ok line
  | .error e => .error (.json e)

/-! ## Lines for people -/

/-- A text padded to a width on the right. -/
def padRight (width : Nat) (s : String) : String :=
  String.ofList (s.toList ++ List.replicate (width - s.length) ' ')

/-- The name of a level in a column of its own. An instant takes the form for
a pattern and gives it back. -/
def levelColumn (level : Value) : Except Misuse String :=
  match level with
  | .text s => .ok (padRight 8 s)
  | .instant _ => .ok "8s"
  | .int _ | .bool _ | .float _ => .error (.unknownForm "s" level.qualifiedTypeName)
  | v => .error (.noForms v.qualifiedTypeName)

/-- The tags as a short text. -/
def tagsText (tags : Tags) : String :=
  match tags.fields with
  | [] => ""
  | fields => " [" ++ ", ".intercalate (fields.map fun (name, v) => name ++ "=" ++ v.shown) ++ "]"

/-- A line for people. -/
def consoleLine (now : Instant) (tags : Tags) (r : Record) : Except LineError String := do
  let level ← ofMisuse (levelColumn r.levelName)
  let message ← messageOf r
  let trouble ← ofMisuse (do troubleText (← reported r))
  .ok (String.ofList now.clockText ++ " " ++ level ++ " " ++ r.loggerName.shown ++ ": " ++ message ++
    tagsText tags ++ trouble)

/-- The line for a record. -/
def Formatter.format (f : Formatter) (now : Instant) (tags : Tags) (r : Record) :
    Except LineError String :=
  match f with
  | .structured service withCaller => structuredLine service withCaller now tags r
  | .console => consoleLine now tags r

end PushRelay.Log
