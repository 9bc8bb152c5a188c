import PushRelay.Value.Basic

/-!
# Equality of values

Numbers are equal when they denote the same number, whatever their types, and
the truth values count as 0 and 1. Lists, tuples and sets are equal only to
their like; dictionaries are equal when they have the same entries in any
order. An opaque object equals no other. A value that is one and the same
equals itself, NaN included, which is how the parts of a message compare with
the parts of its copy.

A dictionary keeps, of equal keys, the first key and its place, and the last
value.
-/

namespace PushRelay
namespace Value

/-- Equality of two values that are numbers. -/
def numbersEqual (a b : Value) : Bool :=
  match a, b with
  | .float x, .float y => x == y || x.equals y
  | .float x, b => b.toInt?.any x.equalsInt
  | a, .float y => a.toInt?.any y.equalsInt
  | a, b =>
    match a.toInt?, b.toInt? with
    | some m, some n => m == n
    | _, _ => false

mutual

/-- How many values a value consists of, the containers of a knot among
them. -/
def weight : Value → Nat
  | .list items | .tuple items | .set items => weights items + 1
  | .dict entries => entryWeights entries + 1
  | .knot values k => weights values + k.size
  | _ => 1

/-- How many values several values consist of. -/
def weights : List Value → Nat
  | [] => 0
  | x :: xs => weight x + weights xs

/-- How many values the entries of a dictionary consist of. -/
def entryWeights : List (Value × Value) → Nat
  | [] => 0
  | (k, v) :: rest => weight k + weight v + entryWeights rest

end

/-- Whether a value is null. -/
def isNull : Value → Bool
  | .null => true
  | _ => false

/-- Whether two rows are equally long, and all that stand in the same place
match. -/
def matchRows {α β : Type} (test : α → β → Bool) : List α → List β → Bool
  | [], [] => true
  | x :: xs, y :: ys => test x y && matchRows test xs ys
  | _, _ => false

/-- Whether a value is a knot, seen from where it is seen from here, with loose
values that pass. -/
def isKnot (same : List Value → Bool) (k : Knot) : Value → Bool
  | .knot values k' => k == k' && same values
  | _ => false

/-- Whether no difference shows between a container of a knot and a value, as
far as `fuel` steps down. The loose values are compared one by one by `test`,
and all of them by `same`. -/
def matchKnot (same : List Value → Bool) (test : Nat → Value → Bool) :
    Nat → Knot → Value → Bool
  | 0, _, _ => true
  | fuel + 1, k, v =>
    let strand : Strand → Value → Bool
      | .loose index => test index
      | .tied index => matchKnot same test fuel (k.seenFrom index)
    isKnot same k v ||
      match k.loop, v.opened with
      | .list before held after, .list ys => matchRows strand (Strand.row before held after) ys
      | .tuple before held after, .tuple ys =>
        matchRows strand (Strand.row before held after) ys
      | .dict before key held after, .dict fs =>
        let es := Strand.entries before key held after
        es.length == fs.length &&
          es.all fun (key, s) => fs.any fun (key', w) => test key key' && strand s w
      | _, _ => false

mutual

/-- Equality of values. -/
def equals : Value → Value → Bool
  | .null, .null => true
  | .text a, .text b => a == b
  | .bytes a, .bytes b => a == b
  | .instant a, .instant b => a.equals b
  | .object a, .object b => a == b
  | .list xs, .list ys => equalsAll xs ys
  | .list xs, .knot values k =>
    match untied values k with
    | .list ys => equalsAll xs ys
    | _ => false
  | .tuple xs, .tuple ys => equalsAll xs ys
  | .tuple xs, .knot values k =>
    match untied values k with
    | .tuple ys => equalsAll xs ys
    | _ => false
  | .set xs, .set ys => xs.length == ys.length && allAmong xs ys
  | .dict es, .dict fs => es.length == fs.length && entriesAmong es fs
  | .dict es, .knot values k =>
    match untied values k with
    | .dict fs => es.length == fs.length && entriesAmong es fs
    | _ => false
  | .knot values k, b =>
    let tests := equalTests values
    matchKnot (matchRows (fun test v => test v) tests) (fun index => tests.getD index isNull)
      (k.size * b.weight) k b
  | a, b => numbersEqual a b

/-- Equality element by element. -/
def equalsAll : List Value → List Value → Bool
  | [], [] => true
  | x :: xs, y :: ys => equals x y && equalsAll xs ys
  | _, _ => false

/-- Whether every element of the first list equals one of the second. -/
def allAmong : List Value → List Value → Bool
  | [], _ => true
  | x :: xs, ys => ys.any (equals x) && allAmong xs ys

/-- Whether every entry of the first dictionary equals one of the second. -/
def entriesAmong : List (Value × Value) → List (Value × Value) → Bool
  | [], _ => true
  | (k, v) :: es, fs => fs.any (fun (k', v') => equals k k' && equals v v') && entriesAmong es fs

/-- Equality to each of several values. -/
def equalTests : List Value → List (Value → Bool)
  | [] => []
  | x :: xs => equals x :: equalTests xs

end

mutual

/-- Whether a value is like no other: a NaN equals nothing but itself, so as a
key each of them is new. -/
def singular : Value → Bool
  | .float x => x == .nan
  | .tuple items => anySingular items
  | _ => false

/-- Whether one of the values is like no other. -/
def anySingular : List Value → Bool
  | [] => false
  | x :: xs => x.singular || anySingular xs

end

mutual

/-- The type that keeps a value from being a key, if there is one. -/
def unhashableType? : Value → Option String
  | .list _ => some "list"
  | .set _ => some "set"
  | .dict _ => some "dict"
  | .tuple items => firstUnhashable? items
  | .knot values k =>
    let types := unhashableTypes values
    let type? : Loop → Option String
      | .tuple before _ _ => before.findSome? fun index => types.getD index none
      | loop => some loop.typeName
    some ((k.firstAlong type? k.size).getD k.loop.typeName)
  | _ => none

/-- The first such type among the given values. -/
def firstUnhashable? : List Value → Option String
  | [] => none
  | x :: xs => x.unhashableType?.or (firstUnhashable? xs)

/-- Of each of several values the type that keeps it from being a key. -/
def unhashableTypes : List Value → List (Option String)
  | [] => []
  | x :: xs => x.unhashableType? :: unhashableTypes xs

end

end Value

namespace Entries

/-- Replaces the value under an equal key, or adds the entry at the end. -/
def replace (key value : Value) : Entries → Entries
  | [] => [(key, value)]
  | (k, v) :: rest => if k.equals key then (k, value) :: rest else (k, v) :: replace key value rest

/-- Puts a value under a key. -/
def insert (entries : Entries) (key value : Value) : Entries :=
  if key.singular then entries ++ [(key, value)] else replace key value entries

/-- The dictionary that has the given entries put into it one after the
other. -/
def ofList (entries : List (Value × Value)) : Entries :=
  entries.foldl (fun es (k, v) => es.insert k v) []

end Entries
end PushRelay
