import PushRelay.Number.Numeral

/-!
# Misused values

What goes wrong when a value is used as something it is not, and how it is
reported.
-/

namespace PushRelay

/-- A value used as something it is not. Types are given by name. -/
inductive Misuse where
  /-- The type has no such attribute. -/
  | noAttribute (type name : String)
  /-- The module has nothing of this name. -/
  | unknownName (module name : String)
  /-- The type has no length. -/
  | noLength (type : String)
  /-- The type has no elements to go through. -/
  | notIterable (type : String)
  /-- The type has no elements to look among. -/
  | notContainer (type : String)
  /-- A value of the type stands where octets are needed. -/
  | notOctets (type : String)
  /-- A value of the type stands where a whole number is needed. -/
  | notWhole (type : String)
  /-- A whole number is too large for a position. -/
  | positionTooLarge
  /-- A whole number is too large for a count. -/
  | countTooLarge
  /-- A whole number has too many digits to be written. -/
  | longInteger
  /-- The types have no common order. -/
  | notOrdered (relation left right : String)
  /-- What was to be joined has no elements. -/
  | notJoinable
  /-- The element at `index` was to be joined as a text. -/
  | joinedNonText (index : Nat) (type : String)
  /-- The element at `index` was to be taken apart into a key and a value. -/
  | entryNotSequence (index : Nat)
  /-- The element at `index` was to have a key and a value and no more. -/
  | entryLength (index length : Nat)
  /-- The type has no elements to pick one from. -/
  | notIndexed (type : String)
  /-- There is no element at an index of something that is called so. -/
  | outOfRange (kind : String)
  /-- A dictionary has no entry under the key of this literal. -/
  | noKey (literal : String)
  /-- The type cannot be called. -/
  | notCallable (type : String)
  /-- The type has no such form of text. -/
  | unknownForm (letter type : String)
  /-- The type has no forms of text. -/
  | noForms (type : String)
  /-- The type cannot be a dictionary key. -/
  | unhashable (type : String)
  /-- A callable was given a name that it has no parameter for. -/
  | unexpectedKeyword (callable name : String)
  /-- A callable was given two values for one parameter. -/
  | repeatedArgument (callable name : String)
  /-- A callable was given more arguments by position than it takes. -/
  | tooManyArguments (callable takes : String) (many : Bool) (given : Nat)
  /-- A callable was not given the arguments of these names. -/
  | missingArguments (callable : String) (names : List String)
  /-- A callable was not given the arguments of these names, which can only be
  given by name. -/
  | missingNamed (callable : String) (names : List String)
  /-- A callable was given a number of arguments other than the `wanted` one,
  which is meant exactly or as a bound. -/
  | wrongCount (callable bound : String) (wanted given : Nat)
  /-- The argument at `position`, counted from one, is not of the wanted
  type. -/
  | wrongArgument (callable : Option String) (position : Nat) (wanted type : String)
  /-- Arguments were named by something other than a text. -/
  | keywordNotText
  /-- A header was to have a value of this type. -/
  | headerNotText (type : String)
  /-- A URL was to be read from a value of this type. -/
  | urlNotText (type literal : String)
  /-- A value that is in no enumeration of this name. -/
  | notMember (literal enumeration : String)
  /-- A group of errors was to be made from something that is not a row of
  them. -/
  | groupNotRow
  /-- A group of errors was to be made from none. -/
  | groupEmpty
  /-- A group of errors was to be made from a row whose element at `index` is
  no error. -/
  | groupElement (index : Nat)
  /-- The end of a place in a source was given by its line alone. -/
  | endWithoutColumn
  deriving DecidableEq, Repr

namespace Misuse

/-- The ending of a noun of which there are so many. -/
def plural (count : Nat) : String := if count = 1 then "" else "s"

/-- The names after the first few, as they are listed in a sentence of three
or more. -/
def listRest : List String → String
  | [] => ""
  | [a] => s!"and '{a}'"
  | a :: rest => s!"'{a}', " ++ listRest rest

/-- Names in quotes as they are listed in a sentence. -/
def listNames : List String → String
  | [] => ""
  | [a] => s!"'{a}'"
  | [a, b] => s!"'{a}' and '{b}'"
  | names => listRest names

/-- What the error is called. -/
def className : Misuse → String
  | .noAttribute .. | .unknownName .. => "AttributeError"
  | .entryLength .. | .notMember .. | .countTooLarge | .groupEmpty | .groupElement _ => "ValueError"
  | .unknownForm .. | .longInteger => "ValueError"
  | .positionTooLarge => "OverflowError"
  | .outOfRange _ => "IndexError"
  | .noKey _ => "KeyError"
  | _ => "TypeError"

/-- What the error says. -/
def message : Misuse → String
  | .noAttribute type name => s!"'{type}' object has no attribute '{name}'"
  | .unknownName module name => s!"module '{module}' has no attribute '{name}'"
  | .noLength type => s!"object of type '{type}' has no len()"
  | .notIterable type => s!"'{type}' object is not iterable"
  | .notContainer type => s!"argument of type '{type}' is not iterable"
  | .notOctets type => s!"a bytes-like object is required, not '{type}'"
  | .notWhole type => s!"'{type}' object cannot be interpreted as an integer"
  | .positionTooLarge => "Python int too large to convert to C ssize_t"
  | .countTooLarge => "cannot fit 'int' into an index-sized integer"
  | .longInteger => Numeral.tooLongToWrite
  | .notOrdered relation left right =>
    s!"'{relation}' not supported between instances of '{left}' and '{right}'"
  | .notJoinable => "can only join an iterable"
  | .joinedNonText index type => s!"sequence item {index}: expected str instance, {type} found"
  | .entryNotSequence index =>
    s!"cannot convert dictionary update sequence element #{index} to a sequence"
  | .entryLength index length =>
    s!"dictionary update sequence element #{index} has length {length}; 2 is required"
  | .notIndexed type => s!"'{type}' object is not subscriptable"
  | .outOfRange kind => s!"{kind} out of range"
  | .noKey literal => literal
  | .notCallable type => s!"'{type}' object is not callable"
  | .unknownForm letter type => s!"Unknown format code '{letter}' for object of type '{type}'"
  | .noForms type => s!"unsupported format string passed to {type}.__format__"
  | .unhashable type => s!"unhashable type: '{type}'"
  | .unexpectedKeyword callable name => s!"{callable}() got an unexpected keyword argument '{name}'"
  | .repeatedArgument callable name => s!"{callable}() got multiple values for argument '{name}'"
  | .tooManyArguments callable takes many given =>
    s!"{callable}() takes {takes} positional argument" ++ (if many then "s" else "") ++
      s!" but {given} were given"
  | .missingArguments callable names =>
    s!"{callable}() missing {names.length} required positional argument" ++ plural names.length ++
      ": " ++ listNames names
  | .missingNamed callable names =>
    s!"{callable}() missing {names.length} required keyword-only argument" ++ plural names.length ++
      ": " ++ listNames names
  | .wrongCount callable bound wanted given =>
    s!"{callable} takes {bound} {wanted} arguments ({given} given)"
  | .wrongArgument callable position wanted type =>
    (match callable with
      | some name => s!"{name}() "
      | none => "") ++ s!"argument {position} must be {wanted}, not {type}"
  | .keywordNotText => "keywords must be strings"
  | .headerNotText type => s!"Header value must be str or bytes, not <class '{type}'>"
  | .urlNotText type literal =>
    s!"Invalid type for url.  Expected str or httpx.URL, got <class '{type}'>: {literal}"
  | .notMember literal enumeration => s!"{literal} is not a valid {enumeration}"
  | .groupNotRow => "second argument (exceptions) must be a sequence"
  | .groupEmpty => "second argument (exceptions) must be a non-empty sequence"
  | .groupElement index => s!"Item {index} of second argument (exceptions) is not an exception"
  | .endWithoutColumn => "end_offset must be provided when end_lineno is provided"

end Misuse
end PushRelay
