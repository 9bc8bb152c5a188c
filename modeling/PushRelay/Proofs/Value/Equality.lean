import PushRelay.Proofs.Value.Parts
import PushRelay.Value.Equality

/-!
# What equality comes to

Every value equals itself, at any depth and whatever it holds, and two
dictionaries are equal when they are equally long and every entry of the one
has its like in the other.
-/

namespace PushRelay
namespace Value

/-! ## Containers -/

theorem allAmong_iff (xs ys : List Value) :
    allAmong xs ys = true ↔ ∀ x ∈ xs, ∃ y ∈ ys, x.equals y = true := by
  induction xs with
  | nil => simp [allAmong]
  | cons x xs ih => simp [allAmong, ih]

theorem entriesAmong_iff (es fs : Entries) :
    entriesAmong es fs = true ↔
      ∀ e ∈ es, ∃ f ∈ fs, e.1.equals f.1 = true ∧ e.2.equals f.2 = true := by
  induction es with
  | nil => simp [entriesAmong]
  | cons e es ih =>
    obtain ⟨k, v⟩ := e
    rw [entriesAmong, Bool.and_eq_true, List.any_eq_true, ih, List.forall_mem_cons]
    simp only [Bool.and_eq_true]

theorem dict_equals_iff (es fs : Entries) :
    (Value.dict es).equals (.dict fs) = true ↔ es.length = fs.length ∧
      ∀ e ∈ es, ∃ f ∈ fs, e.1.equals f.1 = true ∧ e.2.equals f.2 = true := by
  rw [equals, Bool.and_eq_true, beq_iff_eq, entriesAmong_iff]

theorem equalsAll_refl {xs : List Value} (h : ∀ x ∈ xs, x.equals x = true) :
    equalsAll xs xs = true := by
  induction xs with
  | nil => rw [equalsAll]
  | cons x xs ih =>
    obtain ⟨hx, hxs⟩ := List.forall_mem_cons.mp h
    rw [equalsAll, hx, ih hxs, Bool.and_self]

/-! ## Knots -/

theorem equalTests_self {xs : List Value} (h : ∀ x ∈ xs, x.equals x = true) :
    matchRows (fun test v => test v) (equalTests xs) xs = true := by
  induction xs with
  | nil => rw [equalTests, matchRows]
  | cons x xs ih =>
    obtain ⟨hx, hxs⟩ := List.forall_mem_cons.mp h
    rw [equalTests, matchRows, hx, ih hxs, Bool.and_self]

/-- A knot that is seen from the same container shows no difference. -/
theorem matchKnot_self {same : List Value → Bool} {values : List Value}
    (h : same values = true) (test : Nat → Value → Bool) (fuel : Nat) (k : Knot) :
    matchKnot same test fuel k (.knot values k) = true := by
  cases fuel with
  | zero => rfl
  | succ fuel => rw [matchKnot, isKnot, beq_self_eq_true, h, Bool.and_self, Bool.true_or]

/-! ## Reflexivity -/

/-- By induction on the parts: each of them has its like in the same place. -/
@[simp] theorem equals_refl (v : Value) : v.equals v = true := by
  induction v using Value.induction_parts with
  | whole v ih =>
    cases v with
    | null => simp [equals]
    | object o => simp [equals]
    | bool b => cases b <;> simp [equals, numbersEqual, toInt?]
    | int n => simp [equals, numbersEqual, toInt?]
    | float x => simp [equals, numbersEqual]
    | text s => simp [equals]
    | bytes octets => simp [equals]
    | instant t =>
      rw [equals, Instant.equals]
      cases t.offset <;> simp
    | list items =>
      rw [equals]
      exact equalsAll_refl ih
    | tuple items =>
      rw [equals]
      exact equalsAll_refl ih
    | set items =>
      rw [equals, beq_self_eq_true, Bool.true_and, allAmong_iff]
      exact fun x hx => ⟨x, hx, ih x hx⟩
    | dict entries =>
      refine (dict_equals_iff _ _).mpr ⟨rfl, fun e he => ⟨e, he, ?_, ?_⟩⟩
      · exact ih e.1 (List.mem_flatMap.mpr ⟨e, he, by simp⟩)
      · exact ih e.2 (List.mem_flatMap.mpr ⟨e, he, by simp⟩)
    | knot values k =>
      rw [equals]
      exact matchKnot_self (equalTests_self ih) _ _ k

/-! ## Scalars -/

@[simp] theorem text_equals_iff (s t : String) :
    (Value.text s).equals (.text t) = true ↔ s = t := by
  rw [equals, beq_iff_eq]

@[simp] theorem int_equals_iff (m n : Int) : (Value.int m).equals (.int n) = true ↔ m = n := by
  simp [equals, numbersEqual, toInt?]

end Value
end PushRelay
