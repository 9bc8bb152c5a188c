/-!
# Decoders

Octets are decoded step by step, from the state that the octets before have
left. A step takes some octets and gives the text that they stand for. What
stands for no text is a flaw; what does not suffice for a step is left over.
-/

namespace PushRelay.Octets

/-- The character that takes the place of what cannot be decoded. -/
def replacement : Char := '\ufffd'

/-- What is made of the octets at the front. -/
inductive Step (σ : Type) where
  /-- The first octet and `more` others give a text, behind which there is a
  flaw unless it is sound. -/
  | taken (more : Nat) (text : List Char) (sound : Bool) (next : σ)
  /-- There are too few octets. -/
  | unfinished
  /-- No octet means anything in this state. -/
  | lost

namespace Step

/-- A character of `more + 1` octets. -/
def char {σ : Type} (next : σ) (more : Nat) (c : Char) : Step σ := .taken more [c] true next

/-- A flaw of `more + 1` octets. -/
def flaw {σ : Type} (next : σ) (more : Nat) : Step σ := .taken more [] false next

/-- A text of `more + 1` octets; if there is none, the first octet is a
flaw. -/
def text? {σ : Type} (next : σ) (more : Nat) : Option (List Char) → Step σ
  | some cs => .taken more cs true next
  | none => .flaw next 0

/-- A character of `more + 1` octets; if there is none, the first octet is a
flaw. -/
def char? {σ : Type} (next : σ) (more : Nat) (c : Option Char) : Step σ :=
  .text? next more (c.map ([·]))

end Step

/-- Where decoding has come to an end. -/
inductive Ending where
  | complete
  /-- So many octets are left over. -/
  | unfinished (octets : Nat)
  | lost
  deriving DecidableEq, Repr

/-- What octets have been decoded to: texts, each of them sound or with a flaw
behind it. -/
structure Decoded where
  pieces : List (List Char × Bool)
  ending : Ending
  deriving DecidableEq, Repr

namespace Decoded

/-- The text, with a replacement character for each flaw and for what is left
over. -/
def lossy (d : Decoded) : List Char :=
  let text := d.pieces.flatMap fun (cs, sound) => if sound then cs else cs ++ [replacement]
  match d.ending with
  | .unfinished _ => text ++ [replacement]
  | _ => text

/-- The text if there is no flaw and nothing is left over. -/
def strict? (d : Decoded) : Option (List Char) :=
  if d.pieces.all (·.2) ∧ d.ending = .complete then some (d.pieces.flatMap (·.1)) else none

end Decoded

/-- A way to take a step, by the state, the first octet and all others. -/
abbrev Decoder (σ : Type) := σ → UInt8 → List UInt8 → Step σ

/-- Decodes octets from a state on. -/
def Decoder.run {σ : Type} (decoder : Decoder σ) (state : σ) : List UInt8 → Decoded
  | [] => ⟨[], .complete⟩
  | a :: rest =>
    match decoder state a rest with
    | .unfinished => ⟨[], .unfinished (rest.length + 1)⟩
    | .lost => ⟨[], .lost⟩
    | .taken more text sound next =>
      let decoded := decoder.run next (rest.drop more)
      { decoded with pieces := (text, sound) :: decoded.pieces }
termination_by octets => octets.length
decreasing_by simp only [List.length_drop, List.length_cons]; omega

/-- The step at two octets that stand for a text. If they stand for none, the
first one is a flaw, or both of them together. -/
def Step.pair (text? : Option (List Char)) (together : Bool) : Step Unit :=
  if text?.isNone && together then .flaw () 1 else .text? () 1 text?

/-- A decoder of texts that two octets stand for, while those below 0x80 stand
for themselves. `together` tells which two octets are a flaw together. -/
def pairDecoder (cell : Nat → Nat → Option (List Char)) (together : Nat → Nat → Bool) : Decoder Unit :=
  fun _ a rest =>
    if a.toNat < 0x80 then .char () 0 (Char.ofNat a.toNat)
    else
      match rest with
      | [] => .unfinished
      | b :: _ => .pair (cell a.toNat b.toNat) (together a.toNat b.toNat)

/-- A decoder of characters that two octets stand for, while those below 0x80
stand for themselves. -/
def twoOctets (cell : Nat → Nat → Option Char) : Decoder Unit :=
  pairDecoder (fun a b => (cell a b).map ([·])) fun _ _ => false

end PushRelay.Octets
