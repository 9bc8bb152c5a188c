import Mathlib.Data.List.Perm.Subperm
import PushRelay.Proofs.Json.RoundTrip
import PushRelay.Proofs.Message.Fields
import PushRelay.Proofs.Value.Equality

/-!
# Equal records

Two records whose fields may be left out, but come from the same names, are
equal just if each field is equal, or left out of both.
-/

namespace PushRelay

/-! ## Entries -/

theorem record_equals_iff (fields fields' : List (String × Value)) :
    (Value.record fields).equals (.record fields') = true ↔ fields.length = fields'.length ∧
      ∀ f ∈ fields, ∃ f' ∈ fields', f.1 = f'.1 ∧ f.2.equals f'.2 = true := by
  have hlike : ∀ (name : String) (v : Value),
      (∃ e ∈ Entries.ofFields fields', (Value.text name).equals e.1 = true ∧ v.equals e.2 = true) ↔
        ∃ f' ∈ fields', name = f'.1 ∧ v.equals f'.2 = true := by
    simp [Entries.ofFields, Value.text_equals_iff]
  show (Value.dict (Entries.ofFields fields)).equals (.dict (Entries.ofFields fields')) = true ↔ _
  rw [Value.dict_equals_iff, Entries.ofFields, List.length_map, List.forall_mem_map]
  simp only [hlike]
  rw [Entries.ofFields, List.length_map]

theorem Named.mem {names : List String} {fields : List (String × Value)} (h : Named names fields)
    {f : String × Value} (hf : f ∈ fields) : f.1 ∈ names :=
  h.subset (List.mem_map_of_mem hf)

/-- Fields of different names are no more than others with all their names. -/
theorem Named.length_le {names : List String} {fields fields' : List (String × Value)}
    (h : Named names fields) (hnames : names.Nodup)
    (hfields : ∀ f ∈ fields, ∃ f' ∈ fields', f.1 = f'.1) : fields.length ≤ fields'.length := by
  have hsubset : fields.map (·.1) ⊆ fields'.map (·.1) := by
    rintro name hname
    obtain ⟨f, hf, rfl⟩ := List.mem_map.mp hname
    obtain ⟨f', hf', heq⟩ := hfields f hf
    exact heq ▸ List.mem_map_of_mem hf'
  simpa using (List.subperm_of_subset (h.distinct hnames) hsubset).length_le

/-! ## Fields of the same names -/

/-- Two lists of fields with the same names to choose from, and when their
records are equal. -/
structure Paired (names : List String) (fields fields' : List (String × Value))
    (alike : Prop) : Prop where
  left : Named names fields
  right : Named names fields'
  equals_iff : (Value.record fields).equals (.record fields') = true ↔ alike

/-- Both values hold nothing, or they are equal. -/
def EqualIfPresent (v v' : Value) : Prop :=
  v.truthy = false ∧ v'.truthy = false ∨
    v.truthy = true ∧ v'.truthy = true ∧ v.equals v' = true

theorem EqualIfPresent.refl (v : Value) : EqualIfPresent v v := by
  cases h : v.truthy with
  | false => exact .inl ⟨h, h⟩
  | true => exact .inr ⟨h, h, v.equals_refl⟩

namespace Paired

variable (name : String) (v v' : Value)

theorem one : Paired [name] [(name, v)] [(name, v')] (v.equals v' = true) where
  left := .one name v
  right := .one name v'
  equals_iff := by simp [record_equals_iff]

theorem whenPresent :
    Paired [name] (whenPresent name v) (whenPresent name v') (EqualIfPresent v v') where
  left := .whenPresent name v
  right := .whenPresent name v'
  equals_iff := by
    rw [record_equals_iff, EqualIfPresent, PushRelay.whenPresent, PushRelay.whenPresent]
    cases v.truthy <;> cases v'.truthy <;> simp

theorem whenSet : Paired [name] (whenSet name v) (whenSet name v') (v.truthy = v'.truthy) where
  left := .whenSet name v
  right := .whenSet name v'
  equals_iff := by
    rw [record_equals_iff, PushRelay.whenSet, PushRelay.whenSet]
    cases v.truthy <;> cases v'.truthy <;> simp [Value.equals_refl]

/-- The fields of the first record cannot have their likes but among the fields
that share their names. -/
theorem append {names others : List String} {a a' b b' : List (String × Value)} {P Q : Prop}
    (h : Paired names a a' P) (h' : Paired others b b' Q) (hnames : (names ++ others).Nodup) :
    Paired (names ++ others) (a ++ b) (a' ++ b') (P ∧ Q) where
  left := h.left.append h'.left
  right := h.right.append h'.right
  equals_iff := by
    obtain ⟨hnodup, hnodup', hapart⟩ := List.nodup_append.mp hnames
    rw [← h.equals_iff, ← h'.equals_iff]
    simp only [record_equals_iff, List.length_append, List.forall_mem_append]
    constructor
    · rintro ⟨hlength, ha, hb⟩
      -- no like is on the other side: the names there are others
      have ha : ∀ f ∈ a, ∃ f' ∈ a', f.1 = f'.1 ∧ f.2.equals f'.2 = true := by
        intro f hf
        obtain ⟨f', hf', hname, hvalue⟩ := ha f hf
        rcases List.mem_append.mp hf' with hf' | hf'
        · exact ⟨f', hf', hname, hvalue⟩
        · exact absurd hname (hapart _ (h.left.mem hf) _ (h'.right.mem hf'))
      have hb : ∀ f ∈ b, ∃ f' ∈ b', f.1 = f'.1 ∧ f.2.equals f'.2 = true := by
        intro f hf
        obtain ⟨f', hf', hname, hvalue⟩ := hb f hf
        rcases List.mem_append.mp hf' with hf' | hf'
        · exact absurd hname.symm (hapart _ (h.right.mem hf') _ (h'.left.mem hf))
        · exact ⟨f', hf', hname, hvalue⟩
      -- neither side is longer than its like, so no side is shorter either
      have hshort := h.left.length_le hnodup fun f hf => (ha f hf).imp fun _ h => ⟨h.1, h.2.1⟩
      have hshort' := h'.left.length_le hnodup' fun f hf => (hb f hf).imp fun _ h => ⟨h.1, h.2.1⟩
      exact ⟨⟨by omega, ha⟩, by omega, hb⟩
    · rintro ⟨⟨hlength, ha⟩, hlength', hb⟩
      refine ⟨by omega, fun f hf => ?_, fun f hf => ?_⟩
      · exact (ha f hf).imp fun f' h => ⟨List.mem_append_left _ h.1, h.2⟩
      · exact (hb f hf).imp fun f' h => ⟨List.mem_append_right _ h.1, h.2⟩

end Paired

/-! ## Values of the declared types -/

theorem Value.isText_iff {v : Value} : v.isText = true ↔ ∃ s, v = .text s := by
  cases v <;> simp [isText]

theorem equalIfPresent_iff_eq {v v' : Value}
    (hempty : v.truthy = false → v'.truthy = false → v = v')
    (hequals : v.equals v' = true ↔ v = v') : EqualIfPresent v v' ↔ v = v' := by
  constructor
  · rintro (⟨h, h'⟩ | ⟨-, -, h⟩)
    · exact hempty h h'
    · exact hequals.mp h
  · rintro rfl
    exact .refl v

theorem equalIfPresent_text_iff {v v' : Value} (h : v.isText = true) (h' : v'.isText = true) :
    EqualIfPresent v v' ↔ v = v' := by
  obtain ⟨s, rfl⟩ := Value.isText_iff.mp h
  obtain ⟨s', rfl⟩ := Value.isText_iff.mp h'
  refine equalIfPresent_iff_eq (fun hs hs' => ?_) (by simp [Value.text_equals_iff])
  simp only [Value.truthy, Bool.not_eq_false', String.isEmpty_iff] at hs hs'
  rw [hs, hs']

theorem equalIfPresent_int_iff {v v' : Value} (h : ∃ k, v = .int k) (h' : ∃ k, v' = .int k) :
    EqualIfPresent v v' ↔ v = v' := by
  obtain ⟨k, rfl⟩ := h
  obtain ⟨k', rfl⟩ := h'
  refine equalIfPresent_iff_eq (fun hk hk' => ?_) (by simp [Value.int_equals_iff])
  simp only [Value.truthy, bne_eq_false_iff_eq] at hk hk'
  rw [hk, hk']

theorem truthy_bool_iff {v v' : Value} (h : ∃ b, v = .bool b) (h' : ∃ b, v' = .bool b) :
    v.truthy = v'.truthy ↔ v = v' := by
  obtain ⟨b, rfl⟩ := h
  obtain ⟨b', rfl⟩ := h'
  simp [Value.truthy]

end PushRelay
