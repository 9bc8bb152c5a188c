import Mathlib.Data.Fintype.Pigeonhole
import Mathlib.Logic.Function.Iterate
import PushRelay.Proofs.Value.Equality
import PushRelay.Value.Shape

/-!
# Knots untied

A knot, untied at the container that it is seen from, is a container that holds
the knot again, seen from somewhere. It is like the knot that it was. Whoever
goes from one container to the next comes round.
-/

namespace PushRelay

/-! ## The way along a knot -/

namespace Knot

variable {α : Type} {found : Loop → Option α} {fuel : Nat} {k : Knot}

theorem index_lt (k : Knot) : k.index < k.size := by
  unfold index
  split
  · assumption
  · exact Nat.succ_pos _

theorem size_iterate (n : Nat) (k : Knot) : (onward^[n] k).size = k.size := by
  induction n generalizing k with
  | zero => rfl
  | succ n ih => exact ih k.onward

/-- There are only so many containers, so one of them is met again. -/
theorem comes_round (k : Knot) :
    ∃ i j, i < j ∧ j ≤ k.size ∧ (onward^[i] k).index = (onward^[j] k).index := by
  have hindex : ∀ n, (onward^[n] k).index < k.size := fun n => by
    rw [← size_iterate n k]
    exact index_lt _
  obtain ⟨i, j, hne, hsame⟩ := Fintype.exists_ne_map_eq_of_card_lt
    (fun n : Fin (k.size + 1) => (⟨(onward^[n] k).index, hindex n⟩ : Fin k.size)) (by simp)
  have hsame := Fin.val_eq_of_eq hsame
  have hi := i.isLt
  have hj := j.isLt
  rcases Nat.lt_or_gt_of_ne (Fin.val_ne_of_ne hne) with hlt | hlt
  · exact ⟨i, j, hlt, by omega, hsame⟩
  · exact ⟨j, i, hlt, by omega, hsame.symm⟩

/-- Nothing is found just if no container on the way has it. -/
theorem firstAlong_eq_none_iff :
    k.firstAlong found fuel = none ↔ ∀ i < fuel, found (onward^[i] k).loop = none := by
  induction fuel generalizing k with
  | zero => simp [firstAlong]
  | succ fuel ih =>
    rw [firstAlong, Option.or_eq_none_iff, ih, Nat.forall_lt_succ_left]
    rfl

/-- What is found is in a container on the way, and in none before. -/
theorem firstAlong_eq_some_iff {a : α} :
    k.firstAlong found fuel = some a ↔ ∃ i < fuel, found (onward^[i] k).loop = some a ∧
      ∀ j < i, found (onward^[j] k).loop = none := by
  induction fuel generalizing k with
  | zero => simp [firstAlong]
  | succ fuel ih =>
    rw [firstAlong, Option.or_eq_some_iff, ih]
    constructor
    · rintro (hhere | ⟨hhere, i, hi, hfound, hbefore⟩)
      · exact ⟨0, Nat.succ_pos _, hhere, by simp⟩
      · refine ⟨i + 1, by omega, hfound, fun j hj => ?_⟩
        cases j with
        | zero => exact hhere
        | succ j => exact hbefore j (by omega)
    · rintro ⟨i, hi, hfound, hbefore⟩
      cases i with
      | zero => exact .inl hfound
      | succ i =>
        exact .inr ⟨hbefore 0 (by omega), i, by omega, hfound,
          fun j hj => hbefore (j + 1) (by omega)⟩

end Knot

/-! ## Containers of a knot -/

namespace Value

@[simp] theorem opened_knot (values : List Value) (k : Knot) :
    (Value.knot values k).opened = untied values k := rfl

/-- A row of strands leads back into the knot. -/
theorem knot_mem_row (values : List Value) (k : Knot) (before : List Nat) (held : Nat)
    (after : List Strand) :
    .knot values (k.seenFrom held) ∈ (Strand.row before held after).map (follow values k) :=
  List.mem_map.mpr ⟨.tied held, by simp [Strand.row], rfl⟩

/-- What a knot can be untied to. -/
theorem untied_cases (values : List Value) (k : Knot) :
    (∃ xs, untied values k = .list xs ∧ ∃ place, .knot values (k.seenFrom place) ∈ xs) ∨
      (∃ xs, untied values k = .tuple xs ∧ ∃ place, .knot values (k.seenFrom place) ∈ xs) ∨
      ∃ es, untied values k = .dict es ∧ es ≠ [] := by
  unfold untied
  cases k.loop with
  | list before held after => exact .inl ⟨_, rfl, held, knot_mem_row values k before held after⟩
  | tuple before held after =>
    exact .inr (.inl ⟨_, rfl, held, knot_mem_row values k before held after⟩)
  | dict before key held after => exact .inr (.inr ⟨_, rfl, by simp [Strand.entries]⟩)

/-- Untying makes no difference. -/
@[simp] theorem untied_equals (values : List Value) (k : Knot) :
    (untied values k).equals (.knot values k) = true := by
  have hrefl := equals_refl (untied values k)
  rcases untied_cases values k with ⟨xs, h, -⟩ | ⟨xs, h, -⟩ | ⟨es, h, -⟩
  all_goals
    rw [h, equals] at hrefl
    rw [h, equals, h]
    exact hrefl

/-- A knot is not null. -/
@[simp] theorem knot_equals_null (values : List Value) (k : Knot) :
    (Value.knot values k).equals .null = false := by
  have hweight : k.size * null.weight = k.others.length + 1 := Nat.mul_one _
  rw [equals, hweight, matchKnot]
  cases k.loop <;> rfl

/-- A container of a knot has as many elements as strands. -/
theorem items?_knot (values : List Value) (k : Knot) :
    ∃ items, (Value.knot values k).items? = some items ∧ items.length = k.loop.width := by
  simp only [items?, opened, untied, Loop.width]
  cases k.loop <;> exact ⟨_, rfl, by simp⟩

/-- The elements of a knot that is a list are not all texts. -/
theorem not_all_text_of_knot {values : List Value} {k : Knot} {items : List Value}
    (h : (Value.knot values k).elements? = some items) : items.all isText = false := by
  rcases untied_cases values k with ⟨xs, hxs, place, hmem⟩ | ⟨xs, hxs, -⟩ | ⟨es, hes, -⟩
  · simp only [elements?, opened_knot, hxs, Option.some.injEq] at h
    exact List.all_eq_false.mpr ⟨_, h ▸ hmem, by simp [isText]⟩
  · simp [elements?, hxs] at h
  · simp [elements?, hes] at h

/-- What is no value or a dictionary; one that holds itself is a knot, and has
entries. -/
theorem null_or_dict {v : Value} (h : v = .null ∨ v.entries?.isSome = true) :
    v = .null ∨ (∃ entries, v = .dict entries) ∨
      ∃ values k e es, v = .knot values k ∧ untied values k = .dict (e :: es) := by
  rcases h with rfl | hdict
  · exact .inl rfl
  cases v with
  | dict entries => exact .inr (.inl ⟨entries, rfl⟩)
  | knot values k =>
    rcases untied_cases values k with ⟨xs, hxs, -⟩ | ⟨xs, hxs, -⟩ | ⟨es, hes, hne⟩
    · simp [entries?, hxs] at hdict
    · simp [entries?, hxs] at hdict
    · obtain ⟨e, rest, rfl⟩ := List.exists_cons_of_ne_nil hne
      exact .inr (.inr ⟨values, k, e, rest, rfl, hes⟩)
  | _ => cases hdict

theorem entries?_knot {values : List Value} {k : Knot} {es : Entries}
    (h : untied values k = .dict es) : (Value.knot values k).entries? = some es := by
  simp [entries?, h]

end Value
end PushRelay
