import Mathlib.Data.List.Nodup
import PushRelay.Proofs.Json.Text
import PushRelay.Proofs.Json.Unambiguity
import PushRelay.Proofs.Json.Writing

/-!
# Which values are written strictly

The writer has words for the doubles that JSON has no numeral for, and it does
not see that two keys of a dictionary are written as the same text. What it
writes for a value without either is a JSON text by the standard, and what it
writes for any other value is none.
-/

namespace PushRelay.Json

/-- All doubles in the value are finite, and the keys of each dictionary in it
are written as different texts. -/
inductive Regular : Value → Prop where
  | null : Regular .null
  | bool (b : Bool) : Regular (.bool b)
  | int (n : Int) : Regular (.int n)
  | float (negative : Bool) (m : Nat) (e : Int) : Regular (.float (.finite negative m e))
  | text (s : String) : Regular (.text s)
  | list {items : List Value} (hitems : ∀ v ∈ items, Regular v) : Regular (.list items)
  | tuple {items : List Value} (hitems : ∀ v ∈ items, Regular v) : Regular (.tuple items)
  | dict {entries : List (Value × Value)} (hkeys : (entries.map fun e => keyText e.1).Nodup)
      (hvalues : ∀ e ∈ entries, Regular e.2) : Regular (.dict entries)

/-! ## Part by part -/

theorem strict_array_iff {items : List Document} :
    (Document.array items).Strict ↔ ∀ d ∈ items, d.Strict := by
  constructor
  · rintro ⟨⟩
    assumption
  · exact .array

theorem strict_object_iff {members : List (List Nat × Document)} :
    (Document.object members).Strict ↔
      (members.map (·.1)).Nodup ∧ ∀ m ∈ members, m.2.Strict := by
  constructor
  · rintro ⟨⟩
    exact ⟨by assumption, by assumption⟩
  · rintro ⟨hkeys, hmembers⟩
    exact .object hkeys hmembers

theorem regular_list_iff {items : List Value} :
    Regular (.list items) ↔ ∀ v ∈ items, Regular v := by
  constructor
  · rintro ⟨⟩
    assumption
  · exact .list

theorem regular_tuple_iff {items : List Value} :
    Regular (.tuple items) ↔ ∀ v ∈ items, Regular v := by
  constructor
  · rintro ⟨⟩
    assumption
  · exact .tuple

theorem regular_dict_iff {entries : List (Value × Value)} :
    Regular (.dict entries) ↔
      (entries.map fun e => keyText e.1).Nodup ∧ ∀ e ∈ entries, Regular e.2 := by
  constructor
  · rintro ⟨⟩
    exact ⟨by assumption, by assumption⟩
  · rintro ⟨hkeys, hvalues⟩
    exact .dict hkeys hvalues

theorem keyText_record (fields : List (String × Value)) :
    ((fields.map fun (name, v) => (Value.text name, v)).map fun e => keyText e.1) =
      fields.map fun f => .ok f.1.toList := by
  rw [List.map_map]
  rfl

/-- A record of distinct names is regular just in case its fields are. -/
theorem regular_record_iff {fields : List (String × Value)} (hnames : (fields.map (·.1)).Nodup) :
    Regular (.record fields) ↔ ∀ f ∈ fields, Regular f.2 := by
  have hkeys : (fields.map fun f => (Except.ok f.1.toList : Except WriteError _)).Nodup := by
    have hinjective : Function.Injective fun name : String =>
        (Except.ok name.toList : Except WriteError (List Char)) := by
      intro name name' h
      exact String.toList_injective (Except.ok.inj h)
    simpa [Function.comp_def] using hnames.map hinjective
  rw [Value.record, regular_dict_iff, keyText_record, List.forall_mem_map]
  exact and_iff_right hkeys

/-! ## Documents -/

/-- Different texts have different units. -/
theorem keyUnits_ne_iff {k k' : Value} (hk : HasKeyText k) (hk' : HasKeyText k') :
    keyUnits k ≠ keyUnits k' ↔ keyText k ≠ keyText k' := by
  obtain ⟨cs, hcs⟩ := hk
  obtain ⟨cs', hcs'⟩ := hk'
  rw [keyUnits, keyUnits, hcs, hcs']
  constructor
  · intro h heq
    exact h (by rw [heq])
  · intro h heq
    exact h (congrArg Except.ok (flatMap_utf16_injective heq))

theorem nodup_keyUnits_iff {entries : List (Value × Value)}
    (h : ∀ e ∈ entries, HasKeyText e.1) :
    (entries.map fun e => keyUnits e.1).Nodup ↔ (entries.map fun e => keyText e.1).Nodup := by
  rw [List.Nodup, List.pairwise_map, List.Nodup, List.pairwise_map]
  exact List.Pairwise.iff_of_mem fun he he' => keyUnits_ne_iff (h _ he) (h _ he')

/-- By induction on the value; only doubles and the keys of dictionaries can
fail to be strict. -/
theorem document_strict_iff {v : Value} (h : HasText v) : (document v).Strict ↔ Regular v := by
  induction v using Value.induction with
  | null => exact iff_of_true (.word rfl) .null
  | bool b => exact iff_of_true (.word rfl) (.bool b)
  | int n => exact iff_of_true (.number _) (.int n)
  | float x =>
    cases x with
    | nan =>
      refine iff_of_false ?_ ?_
      · rintro ⟨⟨⟩⟩
      · rintro ⟨⟩
    | infinite negative =>
      refine iff_of_false ?_ ?_
      · rintro ⟨⟨⟩⟩
      · rintro ⟨⟩
    | finite negative m e => exact iff_of_true (.number _) (.float negative m e)
  | text s => exact iff_of_true (.text _) (.text s)
  | list items ih =>
    rw [hasText_list_iff] at h
    rw [document, strict_array_iff, itemDocuments_eq_map, List.forall_mem_map, regular_list_iff]
    exact forall₂_congr fun v hv => ih v hv (h v hv)
  | tuple items ih =>
    rw [hasText_tuple_iff] at h
    rw [document, strict_array_iff, itemDocuments_eq_map, List.forall_mem_map, regular_tuple_iff]
    exact forall₂_congr fun v hv => ih v hv (h v hv)
  | dict entries ih =>
    rw [hasText_dict_iff] at h
    rw [document, strict_object_iff, entryDocuments_eq_map, List.forall_mem_map, List.map_map,
      regular_dict_iff]
    refine and_congr (nodup_keyUnits_iff fun e he => (h e he).1) ?_
    exact forall₂_congr fun e he => ih e he (h e he).2
  | _ =>
    -- JSON has no form for the others
    obtain ⟨cs, hcs⟩ := hasText_iff_chars.mp h
    cases hcs

/-- The text that is written for a value is strict just in case the value is
regular. -/
theorem isStrict_iff_regular {v : Value} {text : String} (h : write v = .ok text) :
    IsStrict text.toList ↔ Regular v := by
  rw [(isText_of_write h).isStrict_iff]
  exact document_strict_iff ⟨text, h⟩

end PushRelay.Json
