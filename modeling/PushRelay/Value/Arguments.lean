import PushRelay.Value.Basic
import PushRelay.Value.Misuse

/-!
# Arguments

How the arguments of a call, given by position and by name, are matched with
the parameters that they are for.
-/

namespace PushRelay

/-- A parameter, with the value it has when none is given. -/
structure Parameter (α : Type) where
  name : String
  default : Option α

namespace Parameter

variable {α : Type}

/-- Pairs arguments with parameters by position. -/
def byPosition : List (Parameter α) → List α → List (String × α)
  | p :: ps, v :: vs => (p.name, v) :: byPosition ps vs
  | _, _ => []

/-- How many arguments by position a list of parameters takes; a method's
receiver counts as one. -/
def takes (parameters : List (Parameter α)) : String × Bool :=
  let most := parameters.length + 1
  let least := (parameters.filter fun p => p.default.isNone).length + 1
  if least = most then (toString most, most != 1) else (s!"from {least} to {most}", true)

/-- The name of a method's receiver, which is always given by position. -/
def receiver : String := "self"

/-- The first named argument that cannot be used: there is no parameter of
that name, or it was given by position already. -/
def badKeyword? (callable : String) (parameters : List (Parameter α)) (positional : List (String × α)) :
    List (String × α) → Option Misuse
  | [] => none
  | (name, _) :: rest =>
    if name == receiver || positional.any (·.1 == name) then some (.repeatedArgument callable name)
    else if !parameters.any (·.name == name) then some (.unexpectedKeyword callable name)
    else badKeyword? callable parameters positional rest

/-- The value of a parameter among the given arguments, or its default. -/
def valueIn? (given : List (String × α)) (p : Parameter α) : Option α :=
  (given.lookup p.name).or p.default

/-- The value of every parameter, by name. -/
def bind (callable : String) (parameters : List (Parameter α)) (args : List α)
    (named : List (String × α)) : Except Misuse (List (String × α)) :=
  let positional := byPosition parameters args
  match badKeyword? callable parameters positional named with
  | some e => .error e
  | none =>
    if parameters.length < args.length then
      let (count, many) := takes parameters
      .error (.tooManyArguments callable count many (args.length + 1))
    else
      let given := positional ++ named
      let missing := parameters.filter fun p => (p.valueIn? given).isNone
      if missing.isEmpty then
        .ok (parameters.filterMap fun p => (p.valueIn? given).map (p.name, ·))
      else .error (.missingArguments callable (missing.map (·.name)))

end Parameter
end PushRelay
