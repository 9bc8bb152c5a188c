import PushRelay.Proofs.Json.Numerals
import PushRelay.Proofs.Json.Strings
import PushRelay.Proofs.Sequencing
import PushRelay.Proofs.Value.Parts

/-!
# What is written is JSON

Whatever the writer gives for a value spells a document of the grammar, and
the document can be told from the value.
-/

namespace PushRelay
namespace Json

/-! ## The document of a value -/

/-- What a double is written as. -/
def floatDocument : Binary64 → Document
  | .nan => .word .nan
  | .infinite negative => .word (.infinite negative)
  | .finite negative m e => .number (floatText (.finite negative m e))

/-- The units of the text that a key is written as. -/
def keyUnits (k : Value) : List Nat := ((keyText k).toOption.getD []).flatMap utf16

mutual

/-- What a value is written as. What JSON has no form for can only be written
as the text that it is shown by. -/
def document : Value → Document
  | .null => .word .null
  | .bool b => .word (.bool b)
  | .int n => .number (intNumeral n)
  | .float x => floatDocument x
  | .text s => .text (s.toList.flatMap utf16)
  | .list items => .array (itemDocuments items)
  | .tuple items => .array (itemDocuments items)
  | .dict entries => .object (entryDocuments entries)
  | v => .text (v.shown.toList.flatMap utf16)

/-- What array items are written as. -/
def itemDocuments : List Value → List Document
  | [] => []
  | v :: vs => document v :: itemDocuments vs

/-- What object entries are written as. -/
def entryDocuments : List (Value × Value) → List (List Nat × Document)
  | [] => []
  | (k, v) :: es => (keyUnits k, document v) :: entryDocuments es

end

theorem itemDocuments_eq_map (items : List Value) :
    itemDocuments items = items.map document := by
  induction items with
  | nil => rfl
  | cons v vs ih => rw [itemDocuments, ih, List.map_cons]

theorem entryDocuments_eq_map (entries : List (Value × Value)) :
    entryDocuments entries = entries.map fun e => (keyUnits e.1, document e.2) := by
  induction entries with
  | nil => rfl
  | cons e es ih => rw [entryDocuments, ih, List.map_cons]

/-! ## Spelling -/

theorem ends_cons {c : Char} {cs : List Char} (hc : isNumeric c = false) : Ends (c :: cs) := by
  rintro c' ⟨⟩
  exact hc

theorem Spelled.of_text (text rest : List Char) :
    Spelled (.value (.text (text.flatMap utf16))) (textLiteral text ++ rest) rest := by
  simpa [textLiteral] using Spelled.text (.of_text text rest)

theorem Spelled.of_float (x : Binary64) {rest : List Char} (hrest : Ends rest) :
    Spelled (.value (floatDocument x)) (floatText x ++ rest) rest := by
  cases x with
  | nan => exact .word rfl
  | infinite negative => cases negative <;> exact .word rfl
  | finite negative m e => exact .number rfl (isNumeral_finite negative m e) hrest

/-- What is written for the value spells its document, whatever follows. -/
def IsSpelled (lenient : Bool) (v : Value) : Prop :=
  ∀ cs rest, chars lenient v = .ok cs → Ends rest →
    Spelled (.value (document v)) (cs ++ rest) rest

theorem moreItems_spelled {lenient : Bool} {items : List Value}
    (hitems : ∀ v ∈ items, IsSpelled lenient v) {v : Value} (hv : IsSpelled lenient v)
    {first more : List Char} (hfirst : chars lenient v = .ok first)
    (hmore : moreItemChars lenient items = .ok more) (rest : List Char) :
    Spelled (.items (document v :: itemDocuments items)) (first ++ (more ++ ']' :: rest)) rest := by
  induction items generalizing v first more with
  | nil =>
    cases hmore
    exact .lastItem (hv _ _ hfirst (ends_cons rfl)) (.none _)
  | cons u us ih =>
    obtain ⟨hu, hus⟩ := List.forall_mem_cons.mp hitems
    rw [moreItemChars] at hmore
    obtain ⟨second, hsecond, hmore⟩ := bind_eq_ok_iff.mp hmore
    obtain ⟨others, hothers, hmore⟩ := bind_eq_ok_iff.mp hmore
    cases hmore
    have hnext := ih hus hu hsecond hothers
    simpa [itemDocuments] using Spelled.items (hv _ _ hfirst (ends_cons rfl))
      (.none (',' :: ' ' :: _)) (.one rfl (.none _)) hnext

theorem items_spelled {lenient : Bool} {items : List Value}
    (hitems : ∀ v ∈ items, IsSpelled lenient v) {inner : List Char}
    (h : itemChars lenient items = .ok inner) (rest : List Char) :
    Spelled (.value (.array (itemDocuments items))) ('[' :: inner ++ [']'] ++ rest) rest := by
  cases items with
  | nil =>
    cases h
    exact .emptyArray (.none _)
  | cons v vs =>
    obtain ⟨hv, hvs⟩ := List.forall_mem_cons.mp hitems
    rw [itemChars] at h
    obtain ⟨first, hfirst, h⟩ := bind_eq_ok_iff.mp h
    obtain ⟨more, hmore, h⟩ := bind_eq_ok_iff.mp h
    cases h
    simpa [itemDocuments] using
      Spelled.array (.none _) (moreItems_spelled hvs hv hfirst hmore rest)

/-- A key and what belongs to it. -/
theorem member_spelled {lenient : Bool} {k v : Value} (hv : IsSpelled lenient v)
    {key value : List Char} (hkey : keyText k = .ok key) (hvalue : chars lenient v = .ok value)
    {rest : List Char} (hrest : Ends rest) :
    Spelled (.member (keyUnits k, document v)) (textLiteral key ++ ':' :: ' ' :: value ++ rest)
      rest := by
  have hunits : keyUnits k = key.flatMap utf16 := by
    rw [keyUnits, hkey]
    rfl
  rw [hunits]
  simpa [textLiteral] using Spelled.member (.of_text key _) (.none (':' :: ' ' :: _))
    (.one rfl (.none _)) (hv _ _ hvalue hrest)

theorem moreEntries_spelled {lenient : Bool} {entries : List (Value × Value)}
    (hentries : ∀ e ∈ entries, IsSpelled lenient e.2) {k v : Value} (hv : IsSpelled lenient v)
    {key value more : List Char} (hkey : keyText k = .ok key)
    (hvalue : chars lenient v = .ok value)
    (hmore : moreEntryChars lenient entries = .ok more) (rest : List Char) :
    Spelled (.members ((keyUnits k, document v) :: entryDocuments entries))
      (textLiteral key ++ ':' :: ' ' :: value ++ (more ++ '\x7d' :: rest)) rest := by
  induction entries generalizing k v key value more with
  | nil =>
    cases hmore
    exact .lastMember (member_spelled hv hkey hvalue (ends_cons rfl)) (.none _)
  | cons e es ih =>
    obtain ⟨k', v'⟩ := e
    obtain ⟨hv', hes⟩ := List.forall_mem_cons.mp hentries
    rw [moreEntryChars] at hmore
    obtain ⟨key', hkey', hmore⟩ := bind_eq_ok_iff.mp hmore
    obtain ⟨value', hvalue', hmore⟩ := bind_eq_ok_iff.mp hmore
    obtain ⟨others, hothers, hmore⟩ := bind_eq_ok_iff.mp hmore
    cases hmore
    have hnext := ih hes hv' hkey' hvalue' hothers
    simpa [entryDocuments] using Spelled.members (member_spelled hv hkey hvalue (ends_cons rfl))
      (.none (',' :: ' ' :: _)) (.one rfl (.none _)) hnext

theorem entries_spelled {lenient : Bool} {entries : List (Value × Value)}
    (hentries : ∀ e ∈ entries, IsSpelled lenient e.2) {inner : List Char}
    (h : entryChars lenient entries = .ok inner) (rest : List Char) :
    Spelled (.value (.object (entryDocuments entries)))
      ('\x7b' :: inner ++ ['\x7d'] ++ rest) rest := by
  cases entries with
  | nil =>
    cases h
    exact .emptyObject (.none _)
  | cons e es =>
    obtain ⟨k, v⟩ := e
    obtain ⟨hv, hes⟩ := List.forall_mem_cons.mp hentries
    rw [entryChars] at h
    obtain ⟨key, hkey, h⟩ := bind_eq_ok_iff.mp h
    obtain ⟨value, hvalue, h⟩ := bind_eq_ok_iff.mp h
    obtain ⟨more, hmore, h⟩ := bind_eq_ok_iff.mp h
    cases h
    simpa [entryDocuments] using
      Spelled.object (.none _) (moreEntries_spelled hes hv hkey hvalue hmore rest)

theorem foreignText_spelled {lenient : Bool} {v : Value} {cs : List Char}
    (h : foreignText lenient v = .ok cs) (rest : List Char) :
    Spelled (.value (.text (v.shown.toList.flatMap utf16))) (cs ++ rest) rest := by
  unfold foreignText at h
  split at h
  · cases h
    exact .of_text _ _
  · cases h

/-- By induction on the value; every value is written by one rule. -/
theorem isSpelled (lenient : Bool) (v : Value) : IsSpelled lenient v := by
  induction v using Value.induction with
  | null =>
    intro cs rest h hrest
    cases h
    exact .word rfl
  | bool b =>
    intro cs rest h hrest
    cases h
    cases b <;> exact .word rfl
  | int n =>
    intro cs rest h hrest
    rw [(intText_eq_ok h).1]
    exact .number rfl (isNumeral_int n) hrest
  | float x =>
    intro cs rest h hrest
    cases h
    exact .of_float x hrest
  | text s =>
    intro cs rest h hrest
    cases h
    exact .of_text _ _
  | list items ih =>
    intro cs rest h hrest
    rw [chars] at h
    obtain ⟨inner, hinner, h⟩ := bind_eq_ok_iff.mp h
    cases h
    exact items_spelled ih hinner rest
  | tuple items ih =>
    intro cs rest h hrest
    rw [chars] at h
    obtain ⟨inner, hinner, h⟩ := bind_eq_ok_iff.mp h
    cases h
    exact items_spelled ih hinner rest
  | dict entries ih =>
    intro cs rest h hrest
    rw [chars] at h
    obtain ⟨inner, hinner, h⟩ := bind_eq_ok_iff.mp h
    cases h
    exact entries_spelled ih hinner rest
  | knot values k =>
    intro cs rest h hrest
    cases h
  | bytes octets => exact fun cs rest h _ => foreignText_spelled h rest
  | instant t => exact fun cs rest h _ => foreignText_spelled h rest
  | object o => exact fun cs rest h _ => foreignText_spelled h rest
  | set items => exact fun cs rest h _ => foreignText_spelled h rest

/-- What is written for a value is the JSON text of its document. -/
theorem isText_of_chars {lenient : Bool} {v : Value} {cs : List Char}
    (h : chars lenient v = .ok cs) : IsText (document v) cs := by
  have hspelled := isSpelled lenient v cs [] h (by simp [Ends])
  rw [List.append_nil] at hspelled
  exact ⟨_, _, .none _, hspelled, .none _⟩

theorem isText_of_write {v : Value} {text : String} (h : write v = .ok text) :
    IsText (document v) text.toList := by
  obtain ⟨cs, hcs, h⟩ := bind_eq_ok_iff.mp h
  cases h
  rw [String.toList_ofList]
  exact isText_of_chars hcs

end Json
end PushRelay
