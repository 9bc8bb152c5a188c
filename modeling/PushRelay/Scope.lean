import PushRelay.Number.Binary64
import PushRelay.Value.Equality
import PushRelay.Value.Misuse

/-!
# Scopes

While a send is in progress, every log line carries the id of its batch and
whatever has been bound. Both are variables: entering a scope sets them and
hands out a ticket, and leaving the scope gives the ticket back for the values
that the variables had before. A ticket is good only once.
-/

namespace PushRelay

/-- Values by name, in the order in which the names came in. -/
abbrev Bindings := List (String × Value)

namespace Bindings

/-- Binds a name: in its place if it is bound already, else at the end. -/
def put (name : String) (v : Value) : Bindings → Bindings
  | [] => [(name, v)]
  | (n, w) :: rest => if n = name then (n, v) :: rest else (n, w) :: put name v rest

/-- Binds further names. -/
def update (bindings : Bindings) : Bindings → Bindings
  | [] => bindings
  | (name, v) :: rest => update (put name v bindings) rest

/-- The bindings that entries make, whose keys must be texts. -/
def ofTextEntries : Entries → Except Misuse Bindings
  | [] => .ok []
  | (.text name, v) :: rest => return (name, v) :: (← ofTextEntries rest)
  | _ :: _ => .error .keywordNotText

/-- The bindings that entries make as named arguments. The name `self` is
taken by the scope itself. -/
def ofEntries (callable : String) (entries : Entries) : Except Misuse Bindings := do
  let bindings ← ofTextEntries entries
  if bindings.any (·.1 == "self") then .error (.repeatedArgument callable "self") else .ok bindings

/-- The bindings as a dictionary. -/
def toValue (bindings : Bindings) : Value := .record bindings

end Bindings

/-- What every log line carries. -/
structure Tags where
  batchId : Value := .text ""
  bindings : Bindings := []
  deriving Repr

/-- The tags by name: the id of the batch if there is one, and all bindings,
which may replace it. -/
def Tags.fields (t : Tags) : Bindings :=
  Bindings.update (if t.batchId.truthy then [("batch_id", t.batchId)] else []) t.bindings

/-- The right to bring back the tags of an earlier time. -/
structure Ticket where
  number : Nat
  before : Tags
  deriving Repr

/-- The tags of the moment, and which tickets have been handed out and given
back. -/
structure Tagging where
  tags : Tags := {}
  issued : Nat := 0
  spent : List Nat := []
  deriving Repr

/-- Why a scope cannot be left. -/
inductive ScopeError where
  | notEntered
  | spent
  deriving DecidableEq, Repr

namespace ScopeError

/-- What the error is called. -/
def className : ScopeError → String
  | .notEntered => "ValueError"
  | .spent => "RuntimeError"

/-- What the error says. -/
def message : ScopeError → String
  | .notEntered => "not enough values to unpack (expected 2, got 0)"
  | .spent => "ticket has already been used once"

end ScopeError

namespace Tagging

/-- Sets the tags, for a ticket. -/
def set (t : Tagging) (tags : Tags) : Ticket × Tagging :=
  (⟨t.issued, t.tags⟩, { t with tags, issued := t.issued + 1 })

/-- Gives a ticket back for the tags of its time. -/
def restore (t : Tagging) (ticket : Ticket) : Except ScopeError Tagging :=
  if ticket.number ∈ t.spent then .error .spent
  else .ok { t with tags := ticket.before, spent := ticket.number :: t.spent }

/-- Binds names for the time being. -/
def bind (t : Tagging) (values : Bindings) : Tagging :=
  { t with tags := { t.tags with bindings := t.tags.bindings.update values } }

end Tagging

/-- A scope: its tags, when it was made, and the ticket of the time it was
last entered. -/
structure Scope where
  batchId : Value
  bindings : Bindings
  startedAt : Int
  ticket : Option Ticket := none
  deriving Repr

/-- Where the ids of batches come from: the text that the `n`-th batch to need
an id gets. None of them is empty. -/
structure IdSource where
  text : Nat → String
  nonempty : ∀ n, text n ≠ ""

/-- The `n`-th id of a source that counts: a fixed beginning, and the number in
hexadecimal digits. -/
def numberedId (n : Nat) : String :=
  let digits := Nat.toDigits 16 n
  "00000000-0000-4000-8000-" ++ String.ofList (List.replicate (12 - digits.length) '0' ++ digits)

/-- The source that counts. -/
def IdSource.numbered : IdSource where
  text := numberedId
  nonempty _ hempty := absurd (String.append_eq_empty_iff.mp hempty).1 (by decide)

namespace Scope

/-- A new scope at some time. Without an id of its own it gets the next one,
and `batches` counts those that have been given out. -/
def new (ids : IdSource) (batchId : Value) (bindings : Bindings) (now : Int) (batches : Nat) :
    Scope × Nat :=
  if batchId.truthy then (⟨batchId, bindings, now, none⟩, batches)
  else (⟨.text (ids.text (batches + 1)), bindings, now, none⟩, batches + 1)

/-- A new scope with the bindings that entries make. Its id is given by
position, or may be one of the entries. -/
def ofArguments (ids : IdSource) (args : List Value) (entries : Entries) (now : Int)
    (batches : Nat) : Except Misuse (Scope × Nat) := do
  let callable := "SendContext.__init__"
  let bindings ← Bindings.ofEntries callable entries
  match args, bindings.lookup "batch_id" with
  | _ :: _, some _ => .error (.repeatedArgument callable "batch_id")
  | args, given =>
    let batchId := (args.head?.or given).getD (.text "")
    .ok (new ids batchId (bindings.filter (·.1 != "batch_id")) now batches)

/-- Enters the scope. -/
def enter (s : Scope) (t : Tagging) : Scope × Tagging :=
  let (ticket, t) := t.set ⟨s.batchId, s.bindings⟩
  ({ s with ticket := some ticket }, t)

/-- Leaves the scope. -/
def exit (s : Scope) (t : Tagging) : Except ScopeError (Scope × Tagging) :=
  match s.ticket with
  | none => .error .notEntered
  | some ticket => return ({ s with ticket := none }, ← t.restore ticket)

/-- Binds names in the scope, and for the time being. -/
def bind (s : Scope) (values : Bindings) (t : Tagging) : Scope × Tagging :=
  ({ s with bindings := s.bindings.update values }, t.bind values)

/-- Binds what entries make. -/
def bindEntries (s : Scope) (entries : Entries) (t : Tagging) : Except Misuse (Scope × Tagging) :=
  return s.bind (← Bindings.ofEntries "SendContext.bind" entries) t

/-- The milliseconds since the scope was made. -/
def elapsed (s : Scope) (now : Int) : Binary64 :=
  (Binary64.ofQuotient (now - s.startedAt) 1000000).scaleBy 1000

end Scope
end PushRelay
