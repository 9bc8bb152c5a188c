import PushRelay.Octets.Decoder
import PushRelay.Text.CharacterName
import PushRelay.Text.Digit

/-!
# Escape sequences

Latin letters of one octet each, among which a backslash begins another
character: by its number in octal or hexadecimal digits, by its name, or by a
letter for one of the controls. A plainer form knows only the longer
hexadecimal numbers.
-/

namespace PushRelay.Octets

/-- The character with the number of an octet. -/
def octetChar (b : UInt8) : Char := Char.ofNat b.toNat

/-- The character with a number; a surrogate, which is none, is replaced. -/
def numberedChar (n : Nat) : Char := if h : n.isValidChar then Char.ofNatAux n h else replacement

/-- The step at a number of `count` hexadecimal digits, with `before` octets
in front of them. A digit that is missing ends the sequence in front of it. -/
def hexEscape (before count : Nat) (rest : List UInt8) : Step Unit :=
  let digits := ((rest.take count).map (Text.hexValue? ∘ octetChar)).takeWhile (·.isSome)
  if digits.length = count then
    let n := digits.foldl (fun n d => n * 16 + d.getD 0) 0
    if 0x10FFFF < n then .flaw () (before + count - 1)
    else .char () (before + count - 1) (numberedChar n)
  else if digits.length = rest.length then .unfinished
  else .flaw () (before + digits.length - 1)

/-- Whether an octet is an octal digit. -/
def isOctal (b : UInt8) : Bool := 0x30 ≤ b.toNat && b.toNat ≤ 0x37

/-- What letters and signs stand for behind a backslash. -/
def shortEscapes : List (Char × List Char) := [
  ('\n', []), ('\\', ['\\']), ('\'', ['\'']), ('"', ['"']), ('a', ['\x07']), ('b', ['\x08']),
  ('f', ['\x0c']), ('n', ['\n']), ('r', ['\r']), ('t', ['\t']), ('v', ['\x0b'])]

/-- The step at the name of a character between braces, which is behind a
backslash and a letter. -/
def nameEscape : List UInt8 → Step Unit
  | [] => .unfinished
  | b :: rest =>
    if b.toNat ≠ 0x7B then .flaw () 1
    else
      let name := rest.takeWhile (·.toNat != 0x7D)
      if name.length = rest.length then .unfinished
      else if name.isEmpty then .flaw () 2
      else
        match Text.characterNamed? (name.map octetChar) with
        | some n => .char () (name.length + 3) (numberedChar n)
        | none => .flaw () (name.length + 3)

/-- The decoder of text with escape sequences. What begins none after a
backslash stands for itself. -/
def escapeDecoder : Decoder Unit := fun _ a rest =>
  if a.toNat ≠ 0x5C then .char () 0 (octetChar a)
  else
    match rest with
    | [] => .unfinished
    | b :: rest' =>
      match octetChar b with
      | 'x' => hexEscape 2 2 rest'
      | 'u' => hexEscape 2 4 rest'
      | 'U' => hexEscape 2 8 rest'
      | 'N' => nameEscape rest'
      | c =>
        if isOctal b then
          let digits := (rest.take 3).takeWhile isOctal
          .char () digits.length (Char.ofNat (digits.foldl (fun n d => n * 8 + (d.toNat - 0x30)) 0))
        else
          match shortEscapes.lookup c with
          | some text => .taken 1 text true ()
          | none => .taken 1 ['\\', c] true ()

/-- The decoder of text with numbers for characters only. A backslash before
another one does not begin a number, nor does the second one. -/
def rawEscapeDecoder : Decoder Unit := fun _ a rest =>
  if a.toNat ≠ 0x5C then .char () 0 (octetChar a)
  else
    match rest with
    | [] => .char () 0 '\\'
    | b :: rest' =>
      match octetChar b with
      | 'u' => hexEscape 2 4 rest'
      | 'U' => hexEscape 2 8 rest'
      | c => .taken 1 ['\\', c] true ()

end PushRelay.Octets
