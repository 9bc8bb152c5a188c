import PushRelay.Json.Reader

/-!
# The grammar of JSON

What is a JSON text, told by the grammar of the standard and not by a reader
or a writer: a document, and the texts that spell it. The grammar knows three
words more than the standard, those for the doubles that JSON has no numeral
for, so that it covers whatever is written here; the strict documents are
those of the standard alone, with no key twice in an object.

A rule relates what is spelled to the text that begins with it and to the rest
of that text.
-/

namespace PushRelay.Json

/-! ## Documents -/

/-- A word that is a value. JSON has three; the others are for the doubles
that have no numeral. -/
inductive Word where
  | null
  | bool (b : Bool)
  | nan
  | infinite (negative : Bool)
  deriving DecidableEq, Repr

namespace Word

/-- The characters of a word. -/
def chars : Word → List Char
  | .null => ['n', 'u', 'l', 'l']
  | .bool true => ['t', 'r', 'u', 'e']
  | .bool false => ['f', 'a', 'l', 's', 'e']
  | .nan => ['N', 'a', 'N']
  | .infinite false => ['I', 'n', 'f', 'i', 'n', 'i', 't', 'y']
  | .infinite true => ['-', 'I', 'n', 'f', 'i', 'n', 'i', 't', 'y']

/-- Whether the word is one of the standard. -/
def isStandard : Word → Bool
  | .null | .bool _ => true
  | .nan | .infinite _ => false

end Word

/-- What a JSON text says. A string is given by its UTF-16 units, since an
escape may give half of a character, and a number by its numeral. -/
inductive Document where
  | word (w : Word)
  | number (numeral : List Char)
  | text (units : List Nat)
  | array (items : List Document)
  | object (members : List (List Nat × Document))
  deriving Repr

/-- All words are of the standard, and no key stands twice in an object. -/
inductive Document.Strict : Document → Prop where
  | word {w : Word} (hw : w.isStandard = true) : Strict (.word w)
  | number (numeral : List Char) : Strict (.number numeral)
  | text (units : List Nat) : Strict (.text units)
  | array {items : List Document} (hitems : ∀ d ∈ items, Strict d) : Strict (.array items)
  | object {members : List (List Nat × Document)} (hkeys : (members.map (·.1)).Nodup)
      (hmembers : ∀ m ∈ members, Strict m.2) : Strict (.object members)

/-! ## Numerals -/

/-- One digit or more. -/
def IsDigits (ds : List Char) : Prop := ds ≠ [] ∧ ∀ c ∈ ds, c.isDigit = true

/-- The digits before a point, with no zero in front of another digit. -/
def IsWhole (ds : List Char) : Prop := ds = ['0'] ∨ IsDigits ds ∧ ds.head? ≠ some '0'

/-- A point and the digits after it, or nothing. -/
def IsFraction (cs : List Char) : Prop := cs = [] ∨ ∃ ds, cs = '.' :: ds ∧ IsDigits ds

/-- An exponent, or nothing. -/
def IsExponent (cs : List Char) : Prop :=
  cs = [] ∨ ∃ mark sign ds, cs = mark :: (sign ++ ds) ∧ (mark = 'e' ∨ mark = 'E') ∧
    (sign = [] ∨ sign = ['+'] ∨ sign = ['-']) ∧ IsDigits ds

/-- A numeral. -/
inductive IsNumeral : List Char → Prop where
  | mk {sign whole fraction exponent : List Char} (hsign : sign = [] ∨ sign = ['-'])
      (hwhole : IsWhole whole) (hfraction : IsFraction fraction)
      (hexponent : IsExponent exponent) :
      IsNumeral (sign ++ (whole ++ (fraction ++ exponent)))

/-- Whether a character may stand in a numeral. -/
def isNumeric (c : Char) : Bool :=
  c.isDigit || c == '.' || c == 'e' || c == 'E' || c == '+' || c == '-'

/-- A numeral before this text ends where the text begins. In a JSON text this
is so of every numeral, as a blank, a comma, a bracket or nothing follows. -/
def Ends (rest : List Char) : Prop := ∀ c ∈ rest.head?, isNumeric c = false

/-! ## Strings -/

/-- The UTF-16 units of a character. -/
def utf16 (c : Char) : List Nat :=
  if c.toNat ≤ 0xFFFF then [c.toNat]
  else [0xD800 + (c.toNat - 0x10000) / 0x400, 0xDC00 + (c.toNat - 0x10000) % 0x400]

/-- A letter after a backslash, and the character that the two stand for. -/
inductive Escape : Char → Char → Prop where
  | quote : Escape '"' '"'
  | backslash : Escape '\\' '\\'
  | slash : Escape '/' '/'
  | backspace : Escape 'b' '\x08'
  | formFeed : Escape 'f' '\x0c'
  | lineFeed : Escape 'n' '\n'
  | carriageReturn : Escape 'r' '\r'
  | tab : Escape 't' '\t'

/-- The units of a string, spelled after its opening quote up to the closing
one. -/
inductive Literal : List Nat → List Char → List Char → Prop where
  | close (rest : List Char) : Literal [] ('"' :: rest) rest
  | char {c : Char} {units : List Nat} {cs rest : List Char} (hquote : c ≠ '"')
      (hbackslash : c ≠ '\\') (hcontrol : 0x20 ≤ c.toNat) (h : Literal units cs rest) :
      Literal (utf16 c ++ units) (c :: cs) rest
  | escape {e c : Char} {units : List Nat} {cs rest : List Char} (he : Escape e c)
      (h : Literal units cs rest) : Literal (c.toNat :: units) ('\\' :: e :: cs) rest
  | unit {a b c d : Char} {k l m n : Nat} {units : List Nat} {cs rest : List Char}
      (ha : Text.hexValue? a = some k) (hb : Text.hexValue? b = some l)
      (hc : Text.hexValue? c = some m) (hd : Text.hexValue? d = some n)
      (h : Literal units cs rest) :
      Literal ((((k * 16 + l) * 16 + m) * 16 + n) :: units)
        ('\\' :: 'u' :: a :: b :: c :: d :: cs) rest

/-! ## Values -/

/-- Any number of blanks, and the rest. -/
inductive Blanks : List Char → List Char → Prop where
  | none (cs : List Char) : Blanks cs cs
  | one {c : Char} {cs rest : List Char} (hc : isSpace c = true) (h : Blanks cs rest) :
      Blanks (c :: cs) rest

/-- What a rule is for: a value, the items of an array from one of them on, a
member of an object, or its members from one of them on. -/
inductive Phrase where
  | value (d : Document)
  | items (ds : List Document)
  | member (m : List Nat × Document)
  | members (ms : List (List Nat × Document))

/-- The rules. Items and members are spelled up to the bracket that closes
them. -/
inductive Spelled : Phrase → List Char → List Char → Prop where
  | word {w : Word} {cs rest : List Char} (hcs : cs = w.chars ++ rest) :
      Spelled (.value (.word w)) cs rest
  | number {numeral cs rest : List Char} (hcs : cs = numeral ++ rest)
      (hnumeral : IsNumeral numeral) (hends : Ends rest) :
      Spelled (.value (.number numeral)) cs rest
  | text {units : List Nat} {cs rest : List Char} (h : Literal units cs rest) :
      Spelled (.value (.text units)) ('"' :: cs) rest
  | emptyArray {cs rest : List Char} (hclose : Blanks cs (']' :: rest)) :
      Spelled (.value (.array [])) ('[' :: cs) rest
  | array {items : List Document} {cs cs' rest : List Char} (hblanks : Blanks cs cs')
      (hitems : Spelled (.items items) cs' rest) :
      Spelled (.value (.array items)) ('[' :: cs) rest
  | emptyObject {cs rest : List Char} (hclose : Blanks cs ('\x7d' :: rest)) :
      Spelled (.value (.object [])) ('\x7b' :: cs) rest
  | object {members : List (List Nat × Document)} {cs cs' rest : List Char}
      (hblanks : Blanks cs cs') (hmembers : Spelled (.members members) cs' rest) :
      Spelled (.value (.object members)) ('\x7b' :: cs) rest
  | lastItem {d : Document} {cs cs' rest : List Char} (hitem : Spelled (.value d) cs cs')
      (hclose : Blanks cs' (']' :: rest)) : Spelled (.items [d]) cs rest
  | items {d : Document} {ds : List Document} {cs cs₁ cs₂ cs₃ rest : List Char}
      (hitem : Spelled (.value d) cs cs₁) (hcomma : Blanks cs₁ (',' :: cs₂))
      (hblanks : Blanks cs₂ cs₃) (hitems : Spelled (.items ds) cs₃ rest) :
      Spelled (.items (d :: ds)) cs rest
  | member {key : List Nat} {d : Document} {cs cs₁ cs₂ cs₃ rest : List Char}
      (hkey : Literal key cs cs₁) (hcolon : Blanks cs₁ (':' :: cs₂))
      (hblanks : Blanks cs₂ cs₃) (hvalue : Spelled (.value d) cs₃ rest) :
      Spelled (.member (key, d)) ('"' :: cs) rest
  | lastMember {m : List Nat × Document} {cs cs' rest : List Char}
      (hmember : Spelled (.member m) cs cs') (hclose : Blanks cs' ('\x7d' :: rest)) :
      Spelled (.members [m]) cs rest
  | members {m : List Nat × Document} {ms : List (List Nat × Document)}
      {cs cs₁ cs₂ cs₃ rest : List Char} (hmember : Spelled (.member m) cs cs₁)
      (hcomma : Blanks cs₁ (',' :: cs₂)) (hblanks : Blanks cs₂ cs₃)
      (hmembers : Spelled (.members ms) cs₃ rest) : Spelled (.members (m :: ms)) cs rest

/-- The text spells the document, with blanks around it or not. -/
def IsText (d : Document) (cs : List Char) : Prop :=
  ∃ cs₁ cs₂, Blanks cs cs₁ ∧ Spelled (.value d) cs₁ cs₂ ∧ Blanks cs₂ []

/-- The text is a JSON text by the standard, and no key stands twice in one of
its objects. -/
def IsStrict (cs : List Char) : Prop := ∃ d, IsText d cs ∧ d.Strict

end PushRelay.Json
