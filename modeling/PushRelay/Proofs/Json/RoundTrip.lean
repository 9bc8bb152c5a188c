import PushRelay.Proofs.Json.Reading
import PushRelay.Proofs.Json.Text
import PushRelay.Proofs.Json.Writing

/-!
# There and back

Values of the kinds that JSON has itself, to any depth, are read back as they
were written: with the same entries in the same order, and each of its own
type. Doubles are not among them, and neither are tuples, which come back as
lists, nor dictionaries with keys that are no texts.
-/

namespace PushRelay

/-! ## Dictionaries from their entries -/

namespace Entries

/-- An entry whose key is not there yet is put at the end. -/
theorem replace_of_fresh {entries : Entries} {key : Value} (value : Value)
    (h : ∀ e ∈ entries, e.1.equals key = false) :
    replace key value entries = entries ++ [(key, value)] := by
  induction entries with
  | nil => rfl
  | cons e es ih =>
    obtain ⟨he, hes⟩ := List.forall_mem_cons.mp h
    simp [replace, he, ih hes]

/-- The entries of a record, one for each of its fields. -/
def ofFields (fields : List (String × Value)) : Entries :=
  fields.map fun (name, v) => (.text name, v)

/-- If no name comes twice, a record has its fields as they are given. -/
theorem ofList_ofFields {fields : List (String × Value)} (h : (fields.map (·.1)).Nodup) :
    ofList (ofFields fields) = ofFields fields := by
  -- what has been put in already is some fields in front of those that remain
  have hfold : ∀ rest done : List (String × Value), ((done ++ rest).map (·.1)).Nodup →
      (ofFields rest).foldl (fun es e => es.insert e.1 e.2) (ofFields done) =
        ofFields (done ++ rest) := by
    intro rest
    induction rest with
    | nil =>
      intro done _
      simp [ofFields]
    | cons f rest ih =>
      intro done hnames
      obtain ⟨name, v⟩ := f
      have hfresh : ∀ e ∈ ofFields done, e.1.equals (.text name) = false := by
        intro e he
        obtain ⟨f, hf, rfl⟩ := List.mem_map.mp he
        have hne : f.1 ≠ name := by
          rintro rfl
          rw [List.map_append, List.nodup_append] at hnames
          exact hnames.2.2 _ (List.mem_map_of_mem hf) _ List.mem_cons_self rfl
        simpa [Value.equals] using hne
      have hinsert : (ofFields done).insert (.text name) v = ofFields (done ++ [(name, v)]) := by
        show replace _ _ _ = _
        rw [replace_of_fresh v hfresh]
        simp [ofFields]
      show (ofFields rest).foldl _ ((ofFields done).insert (.text name) v) = _
      rw [hinsert, ih (done ++ [(name, v)]) (by simpa using hnames)]
      simp
  exact hfold fields [] (by simpa using h)

end Entries

namespace Json

/-! ## Plain values -/

/-- A value of the kinds that JSON has itself, with integers that are not too
long, and with dictionaries that have texts for keys, each of them once. -/
inductive Plain : Value → Prop where
  | null : Plain .null
  | bool (b : Bool) : Plain (.bool b)
  | int {n : Int} (hlength : n.natAbs < 10 ^ Numeral.maxDigits) : Plain (.int n)
  | text (s : String) : Plain (.text s)
  | list {items : List Value} (hitems : ∀ v ∈ items, Plain v) : Plain (.list items)
  | record {fields : List (String × Value)} (hnames : (fields.map (·.1)).Nodup)
      (hfields : ∀ f ∈ fields, Plain f.2) : Plain (.record fields)

theorem record_injective : Function.Injective Value.record := by
  intro fields fields' h
  refine List.map_injective_iff.mpr ?_ (Value.dict.inj h)
  rintro ⟨name, v⟩ ⟨name', v'⟩ heq
  cases heq
  rfl

/-- A record of distinct names is plain just in case its fields are. -/
theorem plain_record_iff {fields : List (String × Value)} (hnames : (fields.map (·.1)).Nodup) :
    Plain (.record fields) ↔ ∀ f ∈ fields, Plain f.2 := by
  constructor
  · intro h
    generalize hv : Value.record fields = v at h
    cases h with
    | record _ hfields =>
      rw [record_injective hv]
      exact hfields
    | _ => cases hv
  · exact .record hnames

/-- A plain value has a JSON text. -/
theorem Plain.hasText {v : Value} (h : Plain v) : HasText v := by
  induction h with
  | null => exact ⟨_, rfl⟩
  | bool b => exact hasText_bool b
  | int hlength => exact hasText_int hlength
  | text s => exact hasText_text s
  | list _ ih => exact (hasText_list_iff _).mpr ih
  | record _ _ ih => exact (hasText_record_iff _).mpr ih

theorem keyUnits_text (s : String) : keyUnits (.text s) = s.toList.flatMap utf16 := rfl

theorem itemValues_of_documents {items : List Value}
    (h : ∀ v ∈ items, (document v).value = .ok v) :
    itemValues (itemDocuments items) = .ok items := by
  induction items with
  | nil => rfl
  | cons v vs ih =>
    obtain ⟨hv, hvs⟩ := List.forall_mem_cons.mp h
    rw [itemDocuments, itemValues, hv, ih hvs]
    rfl

theorem memberValues_of_documents {fields : List (String × Value)}
    (h : ∀ f ∈ fields, (document f.2).value = .ok f.2) :
    memberValues (entryDocuments (Entries.ofFields fields)) = .ok (Entries.ofFields fields) := by
  induction fields with
  | nil => rfl
  | cons f fs ih =>
    obtain ⟨hf, hfs⟩ := List.forall_mem_cons.mp h
    show (do
      let first ← (document f.2).value
      let rest ← memberValues (entryDocuments (Entries.ofFields fs))
      .ok ((Value.text (textOf (keyUnits (.text f.1))), first) :: rest)) = _
    rw [hf, ih hfs, keyUnits_text, textOf_units]
    rfl

/-- What a plain value is written as has the value itself for its value. -/
theorem Plain.document_value {v : Value} (h : Plain v) : (document v).value = .ok v := by
  induction h with
  | null => rfl
  | bool b => rfl
  | int hlength =>
    rw [document, Document.value, readNumber_int]
    · rfl
    · rw [Nat.length_repr_le_iff (by decide)]
      exact hlength
  | text s => rw [document, Document.value, textOf_units]
  | list _ ih =>
    rw [document, Document.value, itemValues_of_documents ih]
    rfl
  | record hnames _ ih =>
    show (do
      let entries ← memberValues (entryDocuments (Entries.ofFields _))
      .ok (Value.dict (Entries.ofList entries))) = _
    rw [memberValues_of_documents ih]
    show Except.ok (Value.dict (Entries.ofList (Entries.ofFields _))) = _
    rw [Entries.ofList_ofFields hnames]
    rfl

/-- A plain value is read back from its JSON text. -/
theorem Plain.readChars_of_write {v : Value} {text : String} (h : Plain v)
    (hwrite : write v = .ok text) : readChars text.toList = .ok v := by
  unfold readChars
  rw [(isText_of_write hwrite).readWhole, h.document_value]

end Json
end PushRelay
