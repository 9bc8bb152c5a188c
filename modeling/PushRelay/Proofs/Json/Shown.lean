import PushRelay.Proofs.Json.Lenient
import PushRelay.Proofs.Json.Printable
import PushRelay.Proofs.Json.Writable

/-!
# Reading what is shown

Lenient writing goes wrong only with what holds itself, with keys that have no
text and with integers that are too long. All that it gives is read again: an
object as an object with the same keys in the same order, and under each of
them what is read from the text of the value that was there.
-/

namespace PushRelay
namespace Json

/-! ## Values that are shown -/

/-- A value that is built by lists, tuples and dictionaries with keys that have
a text, from values without parts of any kind, of which the integers are not too
long, and from sets. -/
inductive Showable : Value → Prop where
  | null : Showable .null
  | bool (b : Bool) : Showable (.bool b)
  | int {n : Int} (hlength : n.natAbs < 10 ^ Numeral.maxDigits) : Showable (.int n)
  | float (x : Binary64) : Showable (.float x)
  | text (s : String) : Showable (.text s)
  | bytes (octets : List UInt8) : Showable (.bytes octets)
  | instant (t : Instant) : Showable (.instant t)
  | object (o : Opaque) : Showable (.object o)
  | list {items : List Value} (hitems : ∀ v ∈ items, Showable v) : Showable (.list items)
  | tuple {items : List Value} (hitems : ∀ v ∈ items, Showable v) : Showable (.tuple items)
  | set {items : List Value} (hitems : ∀ v ∈ items, Showable v) : Showable (.set items)
  | dict {entries : Entries} (hkeys : ∀ e ∈ entries, WritableKey e.1)
      (hvalues : ∀ e ∈ entries, Showable e.2) : Showable (.dict entries)

/-- Whatever is written strictly is written leniently. -/
theorem writes_of_hasText {v : Value} (h : HasText v) : Writes true v := by
  obtain ⟨cs, hcs⟩ := hasText_iff_chars.mp h
  exact ⟨cs, writesAlike v cs hcs⟩

theorem Showable.writes {v : Value} (h : Showable v) : Writes true v := by
  induction h with
  | null => exact ⟨_, rfl⟩
  | bool b => exact writes_of_hasText (hasText_bool b)
  | int hlength => exact writes_of_hasText (hasText_int hlength)
  | float x => exact ⟨_, rfl⟩
  | text s => exact writes_of_hasText (hasText_text s)
  | bytes | instant | object | set => exact ⟨_, rfl⟩
  | list _ ih => exact (writes_list_iff _).mpr ih
  | tuple _ ih => exact (writes_tuple_iff _).mpr ih
  | dict hkeys _ ih =>
    exact (writes_dict_iff _).mpr fun e he => ⟨(hasKeyText_iff e.1).mpr (hkeys e he), ih e he⟩

theorem Writable.showable {v : Value} (h : Writable v) : Showable v := by
  induction h with
  | null => exact .null
  | bool b => exact .bool b
  | int hlength => exact .int hlength
  | float x => exact .float x
  | text s => exact .text s
  | list _ ih => exact .list ih
  | tuple _ ih => exact .tuple ih
  | dict hkeys _ ih => exact .dict hkeys ih

/-! ## Doubles -/

/-- A numeral with a point or an exponent is no integer. -/
theorem IsNumeral.readNumber_float {numeral : List Char} (h : IsNumeral numeral)
    (hmark : '.' ∈ numeral ∨ 'e' ∈ numeral) :
    ∃ x, readNumber numeral = .ok (.float x, []) := by
  obtain ⟨hsign, hwhole, hfraction, hexponent⟩ := h
  rename_i sign whole fraction exponent
  obtain ⟨negative, rfl⟩ : ∃ negative, sign = signText negative :=
    hsign.elim (⟨false, ·⟩) (⟨true, ·⟩)
  obtain ⟨x, hx, hread⟩ := readNumber_parts negative hwhole hfraction hexponent
  have hread := hread [] (by simp [Ends])
  rw [List.append_nil] at hread
  have hfloat : (fraction.tail.isEmpty && x.isNone) = false := by
    by_contra hinteger
    simp only [Bool.not_eq_false, Bool.and_eq_true, List.isEmpty_iff, Option.isNone_iff_eq_none,
      hx] at hinteger
    obtain ⟨htail, rfl⟩ := hinteger
    rcases hfraction with rfl | ⟨ds, rfl, hne, -⟩
    · -- neither is a sign or a digit
      have hother : ∀ c ∈ signText negative ++ (whole ++ ([] ++ [])), c ≠ '.' ∧ c ≠ 'e' := by
        intro c hc
        simp only [List.append_nil, List.mem_append] at hc
        rcases hc with hc | hc
        · cases negative <;> simp_all [signText]
        · have hdigit := hwhole.digits.2 c hc
          constructor <;> (rintro rfl; cases hdigit)
      rcases hmark with hmark | hmark
      · exact (hother _ hmark).1 rfl
      · exact (hother _ hmark).2 rfl
    · exact hne htail
  rw [hread, assembled, hfloat]
  exact ⟨_, rfl⟩

theorem mark_mem_decimalText (x : Decimal) :
    '.' ∈ Binary64.decimalText x ∨ 'e' ∈ Binary64.decimalText x := by
  obtain ⟨hne, -⟩ := isDigits_repr x.coefficient
  unfold Binary64.decimalText
  dsimp only
  split
  · split
    · simp
    · split <;> simp
  · split
    · rename_i hnil
      exact absurd hnil hne
    · simp

/-- A double is read as a double. -/
theorem floatDocument_value (x : Binary64) :
    ∃ y, (floatDocument x).value = .ok (.float y) := by
  cases x with
  | nan => exact ⟨_, rfl⟩
  | infinite negative => exact ⟨_, rfl⟩
  | finite negative m e =>
    have hmark : '.' ∈ floatText (.finite negative m e) ∨ 'e' ∈ floatText (.finite negative m e) := by
      have hbody := mark_mem_decimalText (Binary64.shortest m e)
      simp only [floatText, Binary64.text]
      cases negative <;> by_cases hm : m = 0 <;> simp [hm] <;> simpa using hbody
    obtain ⟨y, hy⟩ := (isNumeral_finite negative m e).readNumber_float hmark
    refine ⟨y, ?_⟩
    rw [floatDocument, Document.value, hy]
    rfl

/-! ## Every document has a value -/

/-- What is written for the value has a value itself. -/
def Reads (v : Value) : Prop := ∃ w, (document v).value = .ok w

theorem itemValues_of_reads {items : List Value} (h : ∀ v ∈ items, Reads v) :
    ∃ ws, itemValues (itemDocuments items) = .ok ws := by
  induction items with
  | nil => exact ⟨[], rfl⟩
  | cons v vs ih =>
    obtain ⟨⟨w, hw⟩, hvs⟩ := List.forall_mem_cons.mp h
    obtain ⟨ws, hws⟩ := ih hvs
    refine ⟨w :: ws, ?_⟩
    rw [itemDocuments, itemValues, hw, hws]
    rfl

theorem memberValues_of_reads {entries : Entries} (h : ∀ e ∈ entries, Reads e.2) :
    ∃ es, memberValues (entryDocuments entries) = .ok es := by
  induction entries with
  | nil => exact ⟨[], rfl⟩
  | cons e es ih =>
    obtain ⟨k, v⟩ := e
    obtain ⟨⟨w, hw⟩, hes⟩ := List.forall_mem_cons.mp h
    obtain ⟨ws, hws⟩ := ih hes
    refine ⟨(.text (textOf (keyUnits k)), w) :: ws, ?_⟩
    rw [entryDocuments, memberValues, hw, hws]
    rfl

/-- By induction on the value: only an integer that is too long could not be
read, and such a one is not written. -/
theorem reads_of_writes (v : Value) : Writes true v → Reads v := by
  induction v using Value.induction with
  | null => exact fun _ => ⟨_, rfl⟩
  | bool b => exact fun _ => ⟨_, rfl⟩
  | int n =>
    rintro ⟨cs, h⟩
    refine ⟨.int n, ?_⟩
    rw [document, Document.value, readNumber_int (intText_eq_ok h).2]
    rfl
  | float x =>
    intro _
    obtain ⟨y, hy⟩ := floatDocument_value x
    exact ⟨_, hy⟩
  | text s => exact fun _ => ⟨_, rfl⟩
  | list items ih =>
    intro h
    have hitems := (writes_list_iff items).mp h
    obtain ⟨ws, hws⟩ := itemValues_of_reads fun v hv => ih v hv (hitems v hv)
    refine ⟨.list ws, ?_⟩
    rw [document, Document.value, hws]
    rfl
  | tuple items ih =>
    intro h
    have hitems := (writes_tuple_iff items).mp h
    obtain ⟨ws, hws⟩ := itemValues_of_reads fun v hv => ih v hv (hitems v hv)
    refine ⟨.list ws, ?_⟩
    rw [document, Document.value, hws]
    rfl
  | dict entries ih =>
    intro h
    have hentries := (writes_dict_iff entries).mp h
    obtain ⟨es, hes⟩ := memberValues_of_reads fun e he => ih e he (hentries e he).2
    refine ⟨.dict (Entries.ofList es), ?_⟩
    rw [document, Document.value, hes]
    rfl
  | bytes | instant | object | set => exact fun _ => ⟨_, rfl⟩
  | knot values k =>
    rintro ⟨cs, h⟩
    cases h

/-! ## What is read -/

/-- What is written leniently for one value is read as another. -/
def ReadsAs (v w : Value) : Prop :=
  ∃ text, writeLenient v = .ok text ∧ readChars text.toList = .ok w

theorem readChars_of_writeLenient {v : Value} {text : String} (h : writeLenient v = .ok text)
    {w : Value} (hw : (document v).value = .ok w) : readChars text.toList = .ok w := by
  obtain ⟨cs, hcs, h⟩ := bind_eq_ok_iff.mp h
  cases h
  rw [readChars, String.toList_ofList, (isText_of_chars hcs).readWhole, hw]

theorem readsAs_iff {v w : Value} (h : Writes true v) :
    ReadsAs v w ↔ (document v).value = .ok w := by
  obtain ⟨cs, hcs⟩ := h
  have hwrite : writeLenient v = .ok (String.ofList cs) := by
    rw [writeLenient, hcs]
    rfl
  constructor
  · rintro ⟨text, htext, hread⟩
    obtain ⟨u, hu⟩ := reads_of_writes v ⟨cs, hcs⟩
    rw [readChars_of_writeLenient htext hu] at hread
    cases hread
    exact hu
  · exact fun hw => ⟨_, hwrite, readChars_of_writeLenient hwrite hw⟩

theorem writes_of_writeLenient {v : Value} {text : String} (h : writeLenient v = .ok text) :
    Writes true v := by
  obtain ⟨cs, hcs, -⟩ := bind_eq_ok_iff.mp h
  exact ⟨cs, hcs⟩

theorem ReadsAs.unique {v w w' : Value} (h : ReadsAs v w) (h' : ReadsAs v w') : w = w' := by
  obtain ⟨text, htext, hread⟩ := h
  obtain ⟨text', htext', hread'⟩ := h'
  cases htext.symm.trans htext'
  exact Except.ok.inj (hread.symm.trans hread')

/-- A plain value is read as itself. -/
theorem Plain.readsAs {v : Value} (h : Plain v) : ReadsAs v v := h.readChars_of_writeLenient

/-- Of the values with a JSON text only a text is read as that text. -/
theorem readsAs_text_iff {v : Value} (h : HasText v) (s : String) :
    ReadsAs v (.text s) ↔ v = .text s := by
  constructor
  · intro hread
    have hread := (readsAs_iff (writes_of_hasText h)).mp hread
    cases writable_of_hasText v h with
    | text t =>
      rw [document, Document.value, textOf_units] at hread
      cases hread
      rfl
    | null | bool => cases hread
    | int hlength =>
      rw [document, Document.value, readNumber_int ((short_iff _).mpr hlength)] at hread
      cases hread
    | float x =>
      obtain ⟨y, hy⟩ := floatDocument_value x
      rw [document, hy] at hread
      cases hread
    | list | tuple =>
      obtain ⟨ws, -, hread⟩ := bind_eq_ok_iff.mp hread
      cases hread
    | dict =>
      obtain ⟨es, -, hread⟩ := bind_eq_ok_iff.mp hread
      cases hread
  · rintro rfl
    exact (Plain.text s).readsAs

/-! ## Records -/

/-- The fields are those of a record, each with what it is read as. -/
theorem memberValues_of_fields {fields : List (String × Value)}
    (h : ∀ f ∈ fields, Writes true f.2) :
    ∃ read : List (String × Value),
      memberValues (entryDocuments (Entries.ofFields fields)) = .ok (Entries.ofFields read) ∧
      read.map (·.1) = fields.map (·.1) ∧
      ∀ name v, fields.lookup name = some v → ∃ w, read.lookup name = some w ∧ ReadsAs v w := by
  induction fields with
  | nil => exact ⟨[], rfl, rfl, nofun⟩
  | cons f fs ih =>
    obtain ⟨name, v⟩ := f
    obtain ⟨hv, hfs⟩ := List.forall_mem_cons.mp h
    obtain ⟨w, hw⟩ := reads_of_writes v hv
    obtain ⟨read, hread, hnames, hvalues⟩ := ih hfs
    refine ⟨(name, w) :: read, ?_, by simp [hnames], ?_⟩
    · show (do
        let first ← (document v).value
        let rest ← memberValues (entryDocuments (Entries.ofFields fs))
        .ok ((Value.text (textOf (keyUnits (.text name))), first) :: rest)) = _
      rw [hw, hread, keyUnits_text, textOf_units]
      rfl
    · intro key u hu
      rw [List.lookup_cons] at hu ⊢
      split at hu
      · cases hu
        exact ⟨w, rfl, (readsAs_iff hv).mpr hw⟩
      · exact hvalues key u hu

/-- A record is read as one of the same names, and each of its values as what
is read from the text of that value alone. -/
theorem readChars_record {fields : List (String × Value)} (hnames : (fields.map (·.1)).Nodup)
    {text : String} (h : writeLenient (.record fields) = .ok text) :
    ∃ read : List (String × Value), readChars text.toList = .ok (.record read) ∧
      read.map (·.1) = fields.map (·.1) ∧
      ∀ name v, fields.lookup name = some v → ∃ w, read.lookup name = some w ∧ ReadsAs v w := by
  obtain ⟨read, hread, hsame, hvalues⟩ :=
    memberValues_of_fields ((writes_record_iff fields).mp (writes_of_writeLenient h))
  refine ⟨read, readChars_of_writeLenient h ?_, hsame, hvalues⟩
  show (do
    let entries ← memberValues (entryDocuments (Entries.ofFields fields))
    .ok (Value.dict (Entries.ofList entries))) = _
  rw [hread]
  show Except.ok (Value.dict (Entries.ofList (Entries.ofFields read))) = _
  rw [Entries.ofList_ofFields (hsame ▸ hnames)]
  rfl

theorem isPrintable_of_writeLenient {v : Value} {text : String} (h : writeLenient v = .ok text) :
    IsPrintable text.toList := by
  obtain ⟨cs, hcs, h⟩ := bind_eq_ok_iff.mp h
  cases h
  rw [String.toList_ofList]
  exact writesPrintable true v cs hcs

end Json
end PushRelay
