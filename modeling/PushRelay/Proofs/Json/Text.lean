import Mathlib.Algebra.Group.Nat.Defs
import PushRelay.Json.Writer
import PushRelay.Proofs.Sequencing

/-!
# Which values have a JSON text

A value has a JSON text when its parts have one: writing goes through a
container in order, and fails where the first part fails.
-/

namespace PushRelay.Json

/-- The value has a JSON text. -/
def HasText (v : Value) : Prop := ∃ text, write v = .ok text

/-- The value can be written as the key of an object. -/
def HasKeyText (k : Value) : Prop := ∃ cs, keyText k = .ok cs

theorem hasText_iff_chars {v : Value} : HasText v ↔ ∃ cs, chars false v = .ok cs := by
  unfold HasText write
  rw [bind_succeeds_iff]
  exact ⟨fun ⟨cs, h, _⟩ => ⟨cs, h⟩, fun ⟨cs, h⟩ => ⟨cs, h, _, rfl⟩⟩

/-! ## Scalars -/

@[simp] theorem hasText_bool (b : Bool) : HasText (.bool b) :=
  hasText_iff_chars.mpr ⟨boolText b, by simp [chars]⟩

@[simp] theorem hasText_text (s : String) : HasText (.text s) :=
  hasText_iff_chars.mpr ⟨textLiteral s.toList, by simp [chars]⟩

theorem hasText_int_iff (n : Int) :
    HasText (.int n) ↔ (Nat.repr n.natAbs).length ≤ Numeral.maxDigits := by
  rw [hasText_iff_chars]
  simp only [chars, intText]
  split
  · rename_i h
    simp only [reduceCtorEq, exists_false, false_iff]
    omega
  · rename_i h
    simp only [Except.ok.injEq, exists_eq', true_iff]
    omega

theorem short_of_lt_pow {n k : Nat} (h : n < 10 ^ k) (hk : k ≤ Numeral.maxDigits) :
    n < 10 ^ Numeral.maxDigits :=
  Nat.lt_of_lt_of_le h (Nat.pow_le_pow_right (by decide) hk)

/-- An integer of at most 4300 digits has a text. -/
theorem hasText_int {n : Int} (h : n.natAbs < 10 ^ Numeral.maxDigits) :
    HasText (.int n) := by
  rw [hasText_int_iff, Nat.length_repr_le_iff (by decide)]
  exact h

/-! ## Containers -/

/-- Something is written for the value. -/
def Writes (lenient : Bool) (v : Value) : Prop := ∃ cs, chars lenient v = .ok cs

section

variable {lenient : Bool}

theorem moreItemChars_succeeds_iff (items : List Value) :
    (∃ cs, moreItemChars lenient items = .ok cs) ↔ ∀ v ∈ items, Writes lenient v := by
  induction items with
  | nil => simp [moreItemChars]
  | cons v rest ih =>
    simp only [moreItemChars, bind_succeeds_iff, List.forall_mem_cons, Writes]
    constructor
    · rintro ⟨first, hfirst, more, hmore, _⟩
      exact ⟨⟨first, hfirst⟩, ih.mp ⟨more, hmore⟩⟩
    · rintro ⟨⟨first, hfirst⟩, hrest⟩
      obtain ⟨more, hmore⟩ := ih.mpr hrest
      exact ⟨first, hfirst, more, hmore, _, rfl⟩

theorem itemChars_succeeds_iff (items : List Value) :
    (∃ cs, itemChars lenient items = .ok cs) ↔ ∀ v ∈ items, Writes lenient v := by
  cases items with
  | nil => simp [itemChars]
  | cons v rest =>
    simp only [itemChars, bind_succeeds_iff, List.forall_mem_cons,
      ← moreItemChars_succeeds_iff]
    constructor
    · rintro ⟨first, hfirst, more, hmore, _⟩
      exact ⟨⟨first, hfirst⟩, more, hmore⟩
    · rintro ⟨⟨first, hfirst⟩, more, hmore⟩
      exact ⟨first, hfirst, more, hmore, _, rfl⟩

theorem moreEntryChars_succeeds_iff (entries : Entries) :
    (∃ cs, moreEntryChars lenient entries = .ok cs) ↔
      ∀ e ∈ entries, HasKeyText e.1 ∧ Writes lenient e.2 := by
  induction entries with
  | nil => simp [moreEntryChars]
  | cons e rest ih =>
    obtain ⟨k, v⟩ := e
    simp only [moreEntryChars, bind_succeeds_iff, List.forall_mem_cons]
    constructor
    · rintro ⟨key, hkey, value, hvalue, more, hmore, _⟩
      exact ⟨⟨⟨key, hkey⟩, value, hvalue⟩, ih.mp ⟨more, hmore⟩⟩
    · rintro ⟨⟨⟨key, hkey⟩, value, hvalue⟩, hrest⟩
      obtain ⟨more, hmore⟩ := ih.mpr hrest
      exact ⟨key, hkey, value, hvalue, more, hmore, _, rfl⟩

theorem entryChars_succeeds_iff (entries : Entries) :
    (∃ cs, entryChars lenient entries = .ok cs) ↔
      ∀ e ∈ entries, HasKeyText e.1 ∧ Writes lenient e.2 := by
  cases entries with
  | nil => simp [entryChars]
  | cons e rest =>
    obtain ⟨k, v⟩ := e
    simp only [entryChars, bind_succeeds_iff, List.forall_mem_cons,
      ← moreEntryChars_succeeds_iff]
    constructor
    · rintro ⟨key, hkey, value, hvalue, more, hmore, _⟩
      exact ⟨⟨⟨key, hkey⟩, value, hvalue⟩, more, hmore⟩
    · rintro ⟨⟨⟨key, hkey⟩, value, hvalue⟩, more, hmore⟩
      exact ⟨key, hkey, value, hvalue, more, hmore, _, rfl⟩

@[simp] theorem writes_list_iff (items : List Value) :
    Writes lenient (.list items) ↔ ∀ v ∈ items, Writes lenient v := by
  rw [← itemChars_succeeds_iff]
  simp only [Writes, chars, bind_succeeds_iff]
  exact ⟨fun ⟨cs, h, _⟩ => ⟨cs, h⟩, fun ⟨cs, h⟩ => ⟨cs, h, _, rfl⟩⟩

/-- A tuple is written as a list. -/
@[simp] theorem writes_tuple_iff (items : List Value) :
    Writes lenient (.tuple items) ↔ ∀ v ∈ items, Writes lenient v := by
  rw [← writes_list_iff, Writes, Writes, chars, chars]

@[simp] theorem writes_dict_iff (entries : Entries) :
    Writes lenient (.dict entries) ↔ ∀ e ∈ entries, HasKeyText e.1 ∧ Writes lenient e.2 := by
  rw [← entryChars_succeeds_iff]
  simp only [Writes, chars, bind_succeeds_iff]
  exact ⟨fun ⟨cs, h, _⟩ => ⟨cs, h⟩, fun ⟨cs, h⟩ => ⟨cs, h, _, rfl⟩⟩

/-- The keys of a record are texts, so only its values matter. -/
@[simp] theorem writes_record_iff (fields : List (String × Value)) :
    Writes lenient (.record fields) ↔ ∀ f ∈ fields, Writes lenient f.2 := by
  simp only [Value.record, writes_dict_iff, List.forall_mem_map]
  exact ⟨fun h f hf => (h f hf).2, fun h f hf => ⟨⟨_, rfl⟩, h f hf⟩⟩

end

@[simp] theorem hasText_list_iff (items : List Value) :
    HasText (.list items) ↔ ∀ v ∈ items, HasText v := by
  simp only [hasText_iff_chars]
  exact writes_list_iff items

@[simp] theorem hasText_tuple_iff (items : List Value) :
    HasText (.tuple items) ↔ ∀ v ∈ items, HasText v := by
  simp only [hasText_iff_chars]
  exact writes_tuple_iff items

@[simp] theorem hasText_dict_iff (entries : Entries) :
    HasText (.dict entries) ↔ ∀ e ∈ entries, HasKeyText e.1 ∧ HasText e.2 := by
  simp only [hasText_iff_chars]
  exact writes_dict_iff entries

@[simp] theorem hasText_record_iff (fields : List (String × Value)) :
    HasText (.record fields) ↔ ∀ f ∈ fields, HasText f.2 := by
  simp only [hasText_iff_chars]
  exact writes_record_iff fields

end PushRelay.Json
