import PushRelay.Value.Basic

/-!
# Parts of values

What is true of every value that is true of its parts is true of all values.
-/

namespace PushRelay
namespace Value

/-- The values that a value holds, the keys of a dictionary among them; of a
knot, the loose ones. -/
def parts : Value → List Value
  | .list items | .tuple items | .set items => items
  | .dict entries => entries.flatMap fun e => [e.1, e.2]
  | .knot values _ => values
  | _ => []

theorem sizeOf_part {u v : Value} (h : u ∈ v.parts) : sizeOf u < sizeOf v := by
  unfold parts at h
  split at h
  case h_4 entries =>
    obtain ⟨e, he, hu⟩ := List.mem_flatMap.mp h
    have hsize := List.sizeOf_lt_of_mem he
    obtain ⟨k, w⟩ := e
    simp only [List.mem_cons, List.not_mem_nil, or_false] at hu
    simp only [Prod.mk.sizeOf_spec] at hsize
    rcases hu with rfl | rfl <;> simp <;> omega
  case h_6 => cases h
  all_goals
    have hsize := List.sizeOf_lt_of_mem h
    simp
    omega

/-- A property of all values is proved of each from its parts. -/
@[elab_as_elim]
theorem induction_parts {motive : Value → Prop}
    (whole : ∀ v : Value, (∀ u ∈ v.parts, motive u) → motive v) (v : Value) : motive v :=
  whole v fun u hu =>
    have _ := sizeOf_part hu
    induction_parts whole u
termination_by sizeOf v

/-- The keys of dictionaries, the elements of sets and what is in a knot apart, a
property of all values is proved of the containers from their parts. -/
@[elab_as_elim]
theorem induction {motive : Value → Prop} (null : motive .null)
    (bool : ∀ b, motive (.bool b)) (int : ∀ n, motive (.int n))
    (float : ∀ x, motive (.float x)) (text : ∀ s, motive (.text s))
    (bytes : ∀ octets, motive (.bytes octets)) (instant : ∀ t, motive (.instant t))
    (object : ∀ o, motive (.object o))
    (list : ∀ items, (∀ v ∈ items, motive v) → motive (.list items))
    (tuple : ∀ items, (∀ v ∈ items, motive v) → motive (.tuple items))
    (set : ∀ items, motive (.set items))
    (dict : ∀ entries, (∀ e ∈ entries, motive e.2) → motive (.dict entries))
    (knot : ∀ values k, motive (.knot values k)) (v : Value) : motive v := by
  induction v using Value.induction_parts with
  | whole v ih =>
    cases v with
    | null => exact null
    | bool b => exact bool b
    | int n => exact int n
    | float x => exact float x
    | text s => exact text s
    | bytes octets => exact bytes octets
    | instant t => exact instant t
    | object o => exact object o
    | list items => exact list items ih
    | tuple items => exact tuple items ih
    | set items => exact set items
    | dict entries =>
      exact dict entries fun e he => ih e.2 (List.mem_flatMap.mpr ⟨e, he, by simp⟩)
    | knot values k => exact knot values k

end Value
end PushRelay
