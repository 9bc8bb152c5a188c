import PushRelay.Proofs.Json.Text
import PushRelay.Proofs.Json.Writing
import PushRelay.Proofs.Value.Knots

/-!
# Writable values

The values that have a JSON text, told by what they are made of. None of them
holds itself.
-/

namespace PushRelay.Json

/-- A value that can be the key of an object. -/
inductive WritableKey : Value → Prop where
  | null : WritableKey .null
  | bool (b : Bool) : WritableKey (.bool b)
  | int {n : Int} (hlength : n.natAbs < 10 ^ Numeral.maxDigits) : WritableKey (.int n)
  | float (x : Binary64) : WritableKey (.float x)
  | text (s : String) : WritableKey (.text s)

/-- A value that is built from null, truth values, integers that are not too
long, doubles and texts by lists, tuples and dictionaries with such keys. -/
inductive Writable : Value → Prop where
  | null : Writable .null
  | bool (b : Bool) : Writable (.bool b)
  | int {n : Int} (hlength : n.natAbs < 10 ^ Numeral.maxDigits) : Writable (.int n)
  | float (x : Binary64) : Writable (.float x)
  | text (s : String) : Writable (.text s)
  | list {items : List Value} (hitems : ∀ v ∈ items, Writable v) : Writable (.list items)
  | tuple {items : List Value} (hitems : ∀ v ∈ items, Writable v) : Writable (.tuple items)
  | dict {entries : Entries} (hkeys : ∀ e ∈ entries, WritableKey e.1)
      (hvalues : ∀ e ∈ entries, Writable e.2) : Writable (.dict entries)

/-! ## Keys -/

theorem short_iff (n : Int) :
    (Nat.repr n.natAbs).length ≤ Numeral.maxDigits ↔ n.natAbs < 10 ^ Numeral.maxDigits :=
  Nat.length_repr_le_iff (by decide)

theorem hasKeyText_iff (k : Value) : HasKeyText k ↔ WritableKey k := by
  constructor
  · rintro ⟨cs, h⟩
    cases k with
    | null => exact .null
    | bool b => exact .bool b
    | int n => exact .int ((short_iff n).mp (intText_eq_ok h).2)
    | float x => exact .float x
    | text s => exact .text s
    | _ => cases h
  · intro h
    cases h with
    | int hlength => exact hasText_iff_chars.mp (hasText_int hlength)
    | _ => exact ⟨_, rfl⟩

/-! ## Values -/

theorem Writable.hasText {v : Value} (h : Writable v) : HasText v := by
  induction h with
  | null => exact ⟨_, rfl⟩
  | bool b => exact hasText_bool b
  | int hlength => exact hasText_int hlength
  | float x => exact ⟨_, rfl⟩
  | text s => exact hasText_text s
  | list _ ih => exact (hasText_list_iff _).mpr ih
  | tuple _ ih => exact (hasText_tuple_iff _).mpr ih
  | dict hkeys _ ih =>
    exact (hasText_dict_iff _).mpr fun e he => ⟨(hasKeyText_iff e.1).mpr (hkeys e he), ih e he⟩

/-- By induction on the value; whatever cannot be written is met on the way. -/
theorem writable_of_hasText (v : Value) (h : HasText v) : Writable v := by
  induction v using Value.induction with
  | null => exact .null
  | bool b => exact .bool b
  | int n => exact .int ((short_iff n).mp ((hasText_int_iff n).mp h))
  | float x => exact .float x
  | text s => exact .text s
  | list items ih => exact .list fun v hv => ih v hv ((hasText_list_iff items).mp h v hv)
  | tuple items ih => exact .tuple fun v hv => ih v hv ((hasText_tuple_iff items).mp h v hv)
  | dict entries ih =>
    have hentries := (hasText_dict_iff entries).mp h
    exact .dict (fun e he => (hasKeyText_iff e.1).mp (hentries e he).1)
      (fun e he => ih e he (hentries e he).2)
  | bytes | instant | object | set | knot =>
    obtain ⟨text, h⟩ := h
    cases h

/-- A knot is never written. Either something goes wrong in one of the containers
on the way along it, and in none before, or a container is met again. -/
theorem chars_knot (lenient : Bool) (values : List Value) (k : Knot) :
    let ahead (n : Nat) := errorAhead values (charFailures lenient values) (Knot.onward^[n] k).loop
    ∃ e, chars lenient (.knot values k) = .error e ∧
      ((∃ n, ahead n = some e ∧ ∀ m < n, ahead m = none) ∨
        e = .circular ∧ ∃ i j, i < j ∧ (∀ m < j, ahead m = none) ∧
          (Knot.onward^[i] k).index = (Knot.onward^[j] k).index) := by
  intro ahead
  refine ⟨knotError values (charFailures lenient values) k, by rw [chars], ?_⟩
  unfold knotError
  cases hfirst : k.firstAlong (errorAhead values (charFailures lenient values)) k.size with
  | some e =>
    obtain ⟨n, -, hfound, hbefore⟩ := Knot.firstAlong_eq_some_iff.mp hfirst
    exact .inl ⟨n, hfound, hbefore⟩
  | none =>
    have hnone := Knot.firstAlong_eq_none_iff.mp hfirst
    obtain ⟨i, j, hlt, hj, hround⟩ := k.comes_round
    exact .inr ⟨rfl, i, j, hlt, fun m hm => hnone m (by omega), hround⟩

/-- Octets are met before a list is met again, but not after. -/
example :
    write .selfDict = .error .circular ∧
      write (.knot [.bytes []] { first := .list [0] 0 [] }) = .error (.unserializable "bytes") ∧
      write (.knot [.bytes []] { first := .list [] 0 [.loose 0] }) = .error .circular :=
  ⟨rfl, rfl, rfl⟩

/-- The writer succeeds just on the writable values. -/
theorem hasText_iff_writable (v : Value) : HasText v ↔ Writable v :=
  ⟨writable_of_hasText v, Writable.hasText⟩

end PushRelay.Json
