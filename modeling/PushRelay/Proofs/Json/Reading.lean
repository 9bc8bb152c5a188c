import PushRelay.Proofs.Json.Numerals
import PushRelay.Proofs.Json.Strings

/-!
# Reading what the grammar spells

The reader takes every text of the grammar, and what it gives is a function of
the document that the text spells.
-/

namespace PushRelay.Json

/-! ## The value of a document -/

/-- The value of a word. -/
def Word.value : Word → Value
  | .null => .null
  | .bool b => .bool b
  | .nan => .float .nan
  | .infinite negative => .float (.infinite negative)

mutual

/-- The value of a document; an integer in it can be too long to have one. -/
def Document.value : Document → Except Fault Value
  | .word w => .ok w.value
  | .number numeral => (readNumber numeral).map (·.1)
  | .text units => .ok (.text (textOf units))
  | .array items => do .ok (.list (← itemValues items))
  | .object members => do .ok (.dict (Entries.ofList (← memberValues members)))

/-- The values of array items. -/
def itemValues : List Document → Except Fault (List Value)
  | [] => .ok []
  | d :: ds => do
    let first ← Document.value d
    let rest ← itemValues ds
    .ok (first :: rest)

/-- The entries that object members make. -/
def memberValues : List (List Nat × Document) → Except Fault (List (Value × Value))
  | [] => .ok []
  | (key, d) :: ms => do
    let first ← Document.value d
    let rest ← memberValues ms
    .ok ((.text (textOf key), first) :: rest)

end

/-! ## Atoms -/

theorem after?_eq_some {beginning cs rest : List Char} (h : after? beginning cs = some rest) :
    cs = beginning ++ rest := by
  induction beginning generalizing cs with
  | nil =>
    cases h
    rfl
  | cons p ps ih =>
    cases cs with
    | nil => cases h
    | cons c cs =>
      simp only [after?] at h
      split at h
      · rename_i hpc
        rw [hpc, List.cons_append, ← ih h]
      · cases h

theorem after?_ne {p c : Char} {cs : List Char} (h : c ≠ p) : after? [p] (c :: cs) = none :=
  if_neg h.symm

/-- The words that are read are those of the grammar. -/
theorem words_eq : words =
    [Word.null, .bool true, .bool false, .nan, .infinite false, .infinite true].map
      fun w => (w.chars, w.value) := rfl

theorem readAtom_word (w : Word) (rest : List Char) :
    readAtom (w.chars ++ rest) = .ok (w.value, rest) := by
  rw [readAtom, words_eq]
  rcases w with _ | (_ | _) | _ | (_ | _) <;> simp [after?, Word.chars]

theorem readAtom_number {numeral rest : List Char} (h : IsNumeral numeral) (hrest : Ends rest) :
    readAtom (numeral ++ rest) = (readNumber numeral).map fun (v, _) => (v, rest) := by
  unfold readAtom
  split
  · rename_i found hfound
    obtain ⟨word, hword, hfound⟩ := List.exists_of_findSome?_eq_some hfound
    obtain ⟨left, hafter, -⟩ := Option.map_eq_some_iff.mp hfound
    rw [words_eq] at hword
    obtain ⟨w, -, rfl⟩ := List.mem_map.mp hword
    exact absurd (after?_eq_some hafter).symm (h.ne_word w)
  · exact h.read_append hrest

/-! ## What is left is shorter -/

theorem Literal.length_lt {units : List Nat} {cs rest : List Char}
    (h : Literal units cs rest) : rest.length < cs.length := by
  induction h with
  | close => simp
  | _ => simp only [List.length_cons]; omega

theorem Word.length_pos (w : Word) : 0 < w.chars.length := by
  rcases w with _ | (_ | _) | _ | (_ | _) <;> decide

theorem Spelled.length_lt {p : Phrase} {cs rest : List Char} (h : Spelled p cs rest) :
    rest.length < cs.length := by
  induction h with
  | @word w _ _ hcs =>
    have hw := w.length_pos
    rw [hcs, List.length_append]
    omega
  | number hcs hnumeral =>
    obtain ⟨c, tail, rfl, -⟩ := hnumeral.begins
    rw [hcs, List.length_append, List.length_cons]
    omega
  | text h =>
    have h := h.length_lt
    simp only [List.length_cons]
    omega
  | emptyArray hclose =>
    have h := hclose.length_le
    simp only [List.length_cons] at h ⊢
    omega
  | array hblanks _ ih =>
    have h := hblanks.length_le
    simp only [List.length_cons]
    omega
  | emptyObject hclose =>
    have h := hclose.length_le
    simp only [List.length_cons] at h ⊢
    omega
  | object hblanks _ ih =>
    have h := hblanks.length_le
    simp only [List.length_cons]
    omega
  | lastItem _ hclose ih =>
    have h := hclose.length_le
    simp only [List.length_cons] at h
    omega
  | items _ hcomma hblanks _ ih ihs =>
    have h := hcomma.length_le
    have h' := hblanks.length_le
    simp only [List.length_cons] at h
    omega
  | member hkey hcolon hblanks _ ih =>
    have h := hkey.length_lt
    have h' := hcolon.length_le
    have h'' := hblanks.length_le
    simp only [List.length_cons] at h' ⊢
    omega
  | lastMember _ hclose ih =>
    have h := hclose.length_le
    simp only [List.length_cons] at h
    omega
  | members _ hcomma hblanks _ ih ihs =>
    have h := hcomma.length_le
    have h' := hblanks.length_le
    simp only [List.length_cons] at h
    omega

/-! ## Values -/

/-- Beginning with what begins a value, nothing is skipped. -/
theorem skip_cons {c : Char} {cs : List Char} (h : isSpace c = false) :
    skip (c :: cs) = c :: cs := by
  simp [skip, h]

/-- The phrase is read as what it says, given enough fuel. -/
def Phrase.Read (cs rest : List Char) : Phrase → Prop
  | .value d => ∀ fuel, 2 * cs.length ≤ fuel →
      readValue fuel cs = d.value.map fun v => (v, rest)
  | .items ds => ∀ fuel, 2 * cs.length < fuel →
      readItems fuel cs = (itemValues ds).map fun vs => (vs, rest)
  | .member (key, d) => ∃ cs₁ cs₂ cs₃, cs = '"' :: cs₁ ∧
      readString cs₁ = .ok (textOf key, cs₂) ∧ skip cs₂ = ':' :: cs₃ ∧
      ∀ fuel, 2 * cs.length ≤ fuel →
        readValue fuel (skip cs₃) = d.value.map fun v => (v, rest)
  | .members ms => ∀ fuel, 2 * cs.length < fuel →
      readEntries fuel cs = (memberValues ms).map fun es => (es, rest)

section

variable {fuel : Nat} {cs rest : List Char}

theorem readValue_word (w : Word) (hcs : cs = w.chars ++ rest) :
    readValue (fuel + 1) cs = .ok (w.value, rest) := by
  have hatom : readValue (fuel + 1) cs = readAtom cs := by
    subst hcs
    rcases w with _ | (_ | _) | _ | (_ | _) <;> rfl
  rw [hatom, hcs, readAtom_word]

theorem readValue_number {numeral : List Char} (h : IsNumeral numeral)
    (hcs : cs = numeral ++ rest) (hends : Ends rest) :
    readValue (fuel + 1) cs = (readNumber numeral).map fun (v, _) => (v, rest) := by
  have hatom : readValue (fuel + 1) cs = readAtom cs := by
    obtain ⟨c, tail, rfl, hc⟩ := h.begins
    have hother : c ∉ ['"', '[', '\x7b'] := by
      intro hmem
      simp only [List.mem_cons, List.not_mem_nil, or_false] at hmem
      rcases hmem with rfl | rfl | rfl <;> simp at hc
    simp only [List.mem_cons, List.not_mem_nil, or_false, not_or] at hother
    rw [hcs, List.cons_append]
    simp [readValue, hother]
  rw [hatom, hcs, readAtom_number h hends]

theorem readValue_string {units : List Nat} (h : Literal units cs rest) :
    readValue (fuel + 1) ('"' :: cs) = .ok (.text (textOf units), rest) := by
  simp [readValue, h.readString]
  rfl

theorem readValue_emptyArray (h : Blanks cs (']' :: rest)) :
    readValue (fuel + 1) ('[' :: cs) = .ok (.list [], rest) := by
  simp [readValue, h.skip_cons rfl, after?]

theorem readValue_array {c : Char} (h : Blanks cs (c :: rest)) (hc : isSpace c = false)
    (hne : c ≠ ']') :
    readValue (fuel + 1) ('[' :: cs) =
      (readItems fuel (c :: rest)).map fun (items, left) => (.list items, left) := by
  simp [readValue, h.skip_cons hc, after?_ne hne]
  rfl

theorem readValue_emptyObject (h : Blanks cs ('\x7d' :: rest)) :
    readValue (fuel + 1) ('\x7b' :: cs) = .ok (.dict [], rest) := by
  simp [readValue, h.skip_cons rfl, after?]

theorem readValue_object (h : Blanks cs ('"' :: rest)) :
    readValue (fuel + 1) ('\x7b' :: cs) =
      (readEntries fuel ('"' :: rest)).map
        fun (entries, left) => (.dict (Entries.ofList entries), left) := by
  simp [readValue, h.skip_cons rfl, after?_ne]
  rfl

theorem readItems_last {r : Except Fault Value} {cs' : List Char}
    (hitem : readValue fuel cs = r.map fun v => (v, cs')) (hclose : Blanks cs' (']' :: rest)) :
    readItems (fuel + 1) cs = r.map fun v => ([v], rest) := by
  rw [readItems, hitem]
  cases r with
  | error fault => rfl
  | ok v =>
    simp only [Except.map, bind, Except.bind, hclose.skip_cons rfl]
    rfl

theorem readItems_more {r : Except Fault Value} {cs' cs'' : List Char}
    (hitem : readValue fuel cs = r.map fun v => (v, cs')) (hcomma : Blanks cs' (',' :: cs''))
    (hskip : skip cs'' = rest) :
    readItems (fuel + 1) cs = r.bind fun v =>
      (readItems fuel rest).map fun (vs, left) => (v :: vs, left) := by
  rw [readItems, hitem]
  cases r with
  | error fault => rfl
  | ok v =>
    simp only [Except.map, bind, Except.bind, hcomma.skip_cons rfl, hskip]
    rfl

/-- After a member, what follows decides whether there are further ones. -/
theorem readEntries_member {key : String} {r : Except Fault Value} {c : Char}
    {cs₁ cs₂ cs' : List Char} (hkey : readString cs = .ok (key, cs₁))
    (hcolon : skip cs₁ = ':' :: cs₂)
    (hvalue : readValue fuel (skip cs₂) = r.map fun v => (v, cs')) (hnext : skip cs' = c :: rest) :
    readEntries (fuel + 1) ('"' :: cs) = r.bind fun v =>
      if c = '\x7d' then .ok ([(.text key, v)], rest)
      else if c = ',' then
        (readEntries fuel (skip rest)).map fun (es, left) => ((.text key, v) :: es, left)
      else .error (.mismatch .comma (c :: rest)) := by
  have hquote : after? ['"'] ('"' :: cs) = some cs := rfl
  have hmark : after? [':'] (':' :: cs₂) = some cs₂ := rfl
  simp only [readEntries, hquote, hkey, hcolon, hmark, hvalue, bind, Except.bind]
  cases r with
  | error fault => rfl
  | ok v => simp only [Except.map, hnext]

theorem readEntries_last {key : String} {r : Except Fault Value} {cs₁ cs₂ cs' : List Char}
    (hkey : readString cs = .ok (key, cs₁)) (hcolon : skip cs₁ = ':' :: cs₂)
    (hvalue : readValue fuel (skip cs₂) = r.map fun v => (v, cs'))
    (hclose : Blanks cs' ('\x7d' :: rest)) :
    readEntries (fuel + 1) ('"' :: cs) = r.map fun v => ([(.text key, v)], rest) := by
  rw [readEntries_member hkey hcolon hvalue (hclose.skip_cons rfl)]
  cases r <;> rfl

theorem readEntries_more {key : String} {r : Except Fault Value} {cs₁ cs₂ cs' cs'' : List Char}
    (hkey : readString cs = .ok (key, cs₁)) (hcolon : skip cs₁ = ':' :: cs₂)
    (hvalue : readValue fuel (skip cs₂) = r.map fun v => (v, cs'))
    (hcomma : Blanks cs' (',' :: cs'')) (hskip : skip cs'' = rest) :
    readEntries (fuel + 1) ('"' :: cs) = r.bind fun v =>
      (readEntries fuel rest).map fun (es, left) => ((.text key, v) :: es, left) := by
  rw [readEntries_member hkey hcolon hvalue (hcomma.skip_cons rfl), hskip]
  rfl

end

/-- By induction on how the phrase is spelled, one step of the reader for each
rule. -/
theorem Spelled.read {p : Phrase} {cs rest : List Char} (h : Spelled p cs rest) :
    p.Read cs rest := by
  induction h with
  | @word w cs rest hcs =>
    rintro (_ | fuel) hfuel
    · have hw := w.length_pos
      rw [hcs, List.length_append] at hfuel
      omega
    · exact readValue_word w hcs
  | number hcs hnumeral hends =>
    rintro (_ | fuel) hfuel
    · obtain ⟨c, tail, rfl, -⟩ := hnumeral.begins
      rw [hcs] at hfuel
      simp at hfuel
    · rw [readValue_number hnumeral hcs hends, Document.value]
      cases readNumber _ <;> rfl
  | text h =>
    rintro (_ | fuel) hfuel
    · simp at hfuel
    · exact readValue_string h
  | emptyArray hclose =>
    rintro (_ | fuel) hfuel
    · simp at hfuel
    · exact readValue_emptyArray hclose
  | array hblanks hitems ih =>
    have hlength := hblanks.length_le
    obtain ⟨c, tail, rfl, hc, hne⟩ := hitems.items_begins
    rintro (_ | fuel) hfuel
    · simp at hfuel
    · rw [readValue_array hblanks hc hne, ih fuel (by simp at hfuel; omega), Document.value]
      cases itemValues _ <;> rfl
  | emptyObject hclose =>
    rintro (_ | fuel) hfuel
    · simp at hfuel
    · exact readValue_emptyObject hclose
  | object hblanks hmembers ih =>
    have hlength := hblanks.length_le
    obtain ⟨tail, rfl⟩ := hmembers.members_begins
    rintro (_ | fuel) hfuel
    · simp at hfuel
    · rw [readValue_object hblanks, ih fuel (by simp at hfuel; omega), Document.value]
      cases memberValues _ <;> rfl
  | @lastItem d _ _ _ _ hclose ih =>
    rintro (_ | fuel) hfuel
    · simp at hfuel
    · rw [readItems_last (ih fuel (by omega)) hclose, itemValues]
      cases d.value <;> rfl
  | @items d ds _ _ _ _ _ hitem hcomma hblanks hitems ih ihs =>
    have hlength := hitem.length_lt
    have hlength' := hcomma.length_le
    have hlength'' := hblanks.length_le
    obtain ⟨c, tail, rfl, hc, -⟩ := hitems.items_begins
    rintro (_ | fuel) hfuel
    · simp at hfuel
    · rw [readItems_more (ih fuel (by omega)) hcomma (hblanks.skip_cons hc),
        ihs fuel (by simp at *; omega), itemValues]
      cases d.value with
      | error fault => rfl
      | ok v => cases itemValues ds <;> rfl
  | member hkey hcolon hblanks hvalue ih =>
    have hlength := hkey.length_lt
    have hlength' := hcolon.length_le
    have hlength'' := hblanks.length_le
    obtain ⟨c, tail, rfl, hc, -⟩ := hvalue.begins
    refine ⟨_, _, _, rfl, hkey.readString, hcolon.skip_cons rfl, fun fuel hfuel => ?_⟩
    rw [hblanks.skip_cons hc]
    exact ih fuel (by simp at *; omega)
  | @lastMember m _ _ _ _ hclose ih =>
    obtain ⟨cs₁, cs₂, cs₃, rfl, hkey, hcolon, hvalue⟩ := ih
    rintro (_ | fuel) hfuel
    · simp at hfuel
    · rw [readEntries_last hkey hcolon (hvalue fuel (by omega)) hclose, memberValues]
      cases m.2.value <;> rfl
  | @members m ms _ _ _ _ _ hmember hcomma hblanks hmembers ih ihs =>
    have hlength := hmember.length_lt
    have hlength' := hcomma.length_le
    have hlength'' := hblanks.length_le
    obtain ⟨cs₁, cs₂, cs₃, rfl, hkey, hcolon, hvalue⟩ := ih
    obtain ⟨tail, rfl⟩ := hmembers.members_begins
    rintro (_ | fuel) hfuel
    · simp at hfuel
    · rw [readEntries_more hkey hcolon (hvalue fuel (by omega)) hcomma (hblanks.skip_cons rfl),
        ihs fuel (by simp at *; omega), memberValues]
      cases m.2.value with
      | error fault => rfl
      | ok v => cases memberValues ms <;> rfl

/-- A JSON text is read as the value of the document that it spells. -/
theorem IsText.readWhole {d : Document} {cs : List Char} (h : IsText d cs) :
    readWhole cs = d.value := by
  obtain ⟨cs₁, cs₂, hbefore, hvalue, hafter⟩ := h
  obtain ⟨c, tail, rfl, hc, -⟩ := hvalue.begins
  have hlength := hbefore.length_le
  have hread := hvalue.read (2 * cs.length + 2) (by omega)
  have hskip : skip cs₂ = [] := hafter.skip_eq
  rw [Json.readWhole, hbefore.skip_cons hc, hread]
  cases d.value with
  | error fault => rfl
  | ok v => simp only [Except.map, bind, Except.bind, hskip]

end PushRelay.Json
