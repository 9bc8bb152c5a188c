/-!
# Knots

Containers may hold each other, and themselves. How they do is told apart from
what else they hold: a knot is made of loops that point at each other and, for
everything that is no container of the knot, into a row of loose values.
-/

namespace PushRelay

/-- What a container of a knot holds: one of the loose values, or a container
of the knot again. -/
inductive Strand where
  | loose (index : Nat)
  | tied (index : Nat)
  deriving DecidableEq, Repr

/-- The strands of a row: loose ones, one that is tied, and whatever else. -/
def Strand.row (before : List Nat) (held : Nat) (after : List Strand) : List Strand :=
  before.map .loose ++ .tied held :: after

/-- The strands of a dictionary, with their keys. -/
def Strand.entries (before : List (Nat × Nat)) (key held : Nat) (after : List (Nat × Strand)) :
    List (Nat × Strand) :=
  before.map (fun (key, index) => (key, .loose index)) ++ (key, .tied held) :: after

/-- A container of a knot, in which at least one other is held: the first that
is, with the loose values before it, and whatever comes after it. The keys of
a dictionary are loose values. -/
inductive Loop where
  | list (before : List Nat) (held : Nat) (after : List Strand)
  | tuple (before : List Nat) (held : Nat) (after : List Strand)
  | dict (before : List (Nat × Nat)) (key held : Nat) (after : List (Nat × Strand))
  deriving DecidableEq, Repr

namespace Loop

/-- What a container's type is called. -/
def typeName : Loop → String
  | .list .. => "list"
  | .tuple .. => "tuple"
  | .dict .. => "dict"

/-- The index of the first container that is held. -/
def held : Loop → Nat
  | .list _ held _ | .tuple _ held _ | .dict _ _ held _ => held

/-- The number of elements. -/
def width : Loop → Nat
  | .list before held after | .tuple before held after => (Strand.row before held after).length
  | .dict before key held after => (Strand.entries before key held after).length

end Loop

/-- One of several containers that hold each other. An index that there is no
container for means the first. -/
structure Knot where
  first : Loop
  others : List Loop := []
  place : Nat := 0
  deriving DecidableEq, Repr

namespace Knot

/-- The number of containers. -/
def size (k : Knot) : Nat := k.others.length + 1

/-- The index of the container that the knot is seen from. -/
def index (k : Knot) : Nat := if k.place < k.size then k.place else 0

/-- The container that the knot is seen from. -/
def loop (k : Knot) : Loop := (k.first :: k.others).getD k.index k.first

/-- The same knot, seen from another of its containers. -/
def seenFrom (k : Knot) (place : Nat) : Knot := { k with place }

/-- On to the first container that the one here holds. -/
def onward (k : Knot) : Knot := k.seenFrom k.loop.held

/-- What is first found when the containers are entered one after the other. -/
def firstAlong {α : Type} (found : Loop → Option α) : Nat → Knot → Option α
  | 0, _ => none
  | fuel + 1, k => (found k.loop).or (firstAlong found fuel k.onward)

end Knot
end PushRelay
