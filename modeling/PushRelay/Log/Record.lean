import PushRelay.Config
import PushRelay.Error
import PushRelay.Log.Template

/-!
# Log records

What a logger is given to write: a level, a message that may be a template
with its arguments, where it was logged, and possibly an error.
-/

namespace PushRelay.Log

/-- The named levels. -/
inductive Level where
  | debug
  | info
  | warning
  | error
  | critical
  deriving DecidableEq, Repr

namespace Level

/-- All levels. -/
def all : List Level := [.debug, .info, .warning, .error, .critical]

/-- The level as it is written. -/
def text : Level → String
  | .debug => "DEBUG"
  | .info => "INFO"
  | .warning => "WARNING"
  | .error => "ERROR"
  | .critical => "CRITICAL"

/-- The number of the level. -/
def rank : Level → Nat
  | .debug => 10
  | .info => 20
  | .warning => 30
  | .error => 40
  | .critical => 50

end Level

/-- The levels as an enumeration. -/
def levels : Enumeration := ⟨"LogLevel", Level.all.map fun l => (l.text, l.text)⟩

/-- What a level is called by its number. -/
def rankText (rank : Int) : String :=
  match Level.all.find? fun l => (l.rank : Int) == rank with
  | some l => l.text
  | none => if rank = 0 then "NOTSET" else s!"Level {rank}"

/-- A log record. -/
structure Record where
  logger : String
  rank : Int
  path : String := ""
  line : Value := .null
  function : Value := .null
  template : Value
  args : List Value := []
  trouble : Option Trouble := none
  attributes : List (String × Value) := []
  deriving Repr

/-- The name of the file at the end of a path, without its extension. Dots
that a name begins with do not start an extension. -/
def moduleOf (path : String) : String :=
  let name := (path.toList.reverse.takeWhile (· != '/')).reverse
  let dots := name.takeWhile (· == '.')
  let rest := name.dropWhile (· == '.')
  let stem := (rest.reverse.dropWhile (· != '.')).drop 1
  String.ofList (if rest.contains '.' then dots ++ stem.reverse else name)

namespace Record

/-- An attribute of the record: the one that was set on it, or else what it is
by itself. -/
def valueOf (r : Record) (name : String) (own : Value) : Value := (r.attributes.lookup name).getD own

/-- What the level is called. -/
def levelName (r : Record) : Value := r.valueOf "levelname" (.text (rankText r.rank))

/-- The name of the logger. -/
def loggerName (r : Record) : Value := r.valueOf "name" (.text r.logger)

/-- What the template is filled with: the one argument if it is a dictionary
with entries, or else all of them. -/
def supply (r : Record) : Value :=
  r.valueOf "args" <|
    match r.args with
    | [v] => if v.truthy && v.entries?.isSome then v else .tuple [v]
    | args => .tuple args

/-- The message: the template itself, filled if there is anything to fill it
with. -/
def message (r : Record) : Except TemplateError String :=
  let template := (r.valueOf "msg" r.template).shown
  let supply := r.supply
  if supply.truthy then fillTemplate template supply else .ok template

/-- The module that the record was logged in. -/
def module (r : Record) : String := moduleOf r.path

end Record

/-! ## Records of a message -/

/-- A place where something is logged: which logger is used, and the function
and the line of the module, whose path is given without an extension. -/
structure Site where
  logger : String
  path : String
  function : String
  line : Nat
  short : line < Nat.pow 2 31 := by decide

/-- The record of a message and some attributes. -/
def recordOf (site : Site) (level : Level) (message : String)
    (attributes : List (String × Value)) : Record where
  logger := site.logger
  rank := level.rank
  path := site.path
  line := .int site.line
  function := .text site.function
  template := .text message
  attributes := attributes

end PushRelay.Log
