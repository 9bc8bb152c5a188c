import PushRelay.Message.Validation
import PushRelay.Proofs.Json.Text
import PushRelay.Proofs.Value.Knots

/-!
# What the rules let through

What is known of a message, rule by rule, once it has been accepted.
-/

namespace PushRelay

/-! ## Bounds -/

theorem Binary64.belowInt_of_le {x : Binary64} {k n : Int} (hkn : k ≤ n)
    (h : x.belowInt n = false) : x.belowInt k = false := by
  cases x with
  | nan => rfl
  | infinite negative => exact h
  | finite negative mantissa exponent =>
    simp only [belowInt] at h ⊢
    cases hquotient : (Binary64.finite negative mantissa exponent).toQuotient? with
    | none => rfl
    | some quotient =>
      rw [hquotient] at h
      have hmul : k * (quotient.2 : Int) ≤ n * quotient.2 :=
        Int.mul_le_mul_of_nonneg_right hkn (Int.natCast_nonneg _)
      have hnot := of_decide_eq_false h
      exact decide_eq_false (by omega)

/-- A number that is short enough can stand in a sentence. -/
theorem Value.printed_of_toInt? {v : Value} {n : Int} (h : v.toInt? = some n)
    (hshort : n.natAbs < 10 ^ Numeral.maxDigits) : v.printed = .ok v.shown := by
  have hlong : v.hasLong = false := by
    cases v with
    | bool b => rfl
    | int m =>
      cases h
      simpa [hasLong, Numeral.isLong] using (Nat.length_repr_le_iff (by decide)).mpr hshort
    | _ => cases h
  simp [printed, hlong]

/-- A bound that a number keeps, every smaller number keeps. -/
theorem Value.isBelow_of_le {v : Value} {k n : Int} (hkn : k ≤ n)
    (h : v.isBelow n = .ok false) : v.isBelow k = .ok false := by
  unfold isBelow at h ⊢
  split at h
  · simp only [Except.ok.injEq, decide_eq_false_iff_not] at h ⊢
    omega
  · simp only [Except.ok.injEq, decide_eq_false_iff_not] at h ⊢
    omega
  · simp only [Except.ok.injEq] at h ⊢
    exact Binary64.belowInt_of_le hkn h
  · cases h

namespace Message

open Json (HasText)

/-- An accepted message is the one that was given, and every rule holds of
it. -/
theorem validate_eq_ok_iff {message : Option Message} {config : Config} {m : Message} :
    validate message config = .ok m ↔
      message = some m ∧ checkTargets m.targets config = .ok () ∧
        checkTimeToLive m.timeToLive config = .ok () ∧
        checkPriority m.priority config = .ok () ∧
        checkData m.data = .ok () := by
  cases message with
  | none =>
    constructor
    · intro h
      cases h
    · rintro ⟨h, -⟩
      cases h
  | some m' =>
    simp only [validate, bind_eq_ok_iff, Option.some.injEq]
    constructor
    · rintro ⟨⟨⟩, htargets, ⟨⟩, httl, ⟨⟩, hpriority, ⟨⟩, hdata, hm⟩
      cases hm
      exact ⟨rfl, htargets, httl, hpriority, hdata⟩
    · rintro ⟨rfl, htargets, httl, hpriority, hdata⟩
      exact ⟨(), htargets, (), httl, (), hpriority, (), hdata, rfl⟩

/-! ## One rule at a time -/

/-- A value with a length that is neither a text nor octets has as many
elements to go through. -/
theorem items_of_length {targets : Value} {n : Nat} (h : targets.length = .ok n) :
    ∃ ts, targets.items = .ok ts ∧ ts.length = n := by
  cases targets with
  | text s => cases h; exact ⟨_, rfl, by simp [String.length_toList]⟩
  | bytes octets => cases h; exact ⟨_, rfl, by simp⟩
  | list items => cases h; exact ⟨_, rfl, rfl⟩
  | tuple items => cases h; exact ⟨_, rfl, rfl⟩
  | set items => cases h; exact ⟨_, rfl, rfl⟩
  | dict entries => cases h; exact ⟨_, rfl, by simp⟩
  | knot values k =>
    cases h
    obtain ⟨ts, hts, hlength⟩ := Value.items?_knot values k
    exact ⟨ts, by rw [Value.items, hts], hlength⟩
  | _ => cases h

theorem checkTargets_ok {targets : Value} {config : Config}
    (h : checkTargets targets config = .ok ()) :
    ∃ ts, targets.items = .ok ts ∧ targets.length = .ok ts.length ∧ ts ≠ [] := by
  have hlength : ∃ n, targets.length = .ok n ∧ n ≠ 0 := by
    unfold checkTargets at h
    split at h
    · cases h
    · cases h
    · cases h
    · obtain ⟨n, hn, h⟩ := bind_eq_ok_iff.mp h
      refine ⟨n, ?_, ?_⟩
      · cases hl : targets.length with
        | error e => rw [hl] at hn; cases hn
        | ok k => rw [hl] at hn; cases hn; rfl
      · rintro rfl
        cases h
  obtain ⟨n, hn, hpos⟩ := hlength
  obtain ⟨ts, hts, rfl⟩ := items_of_length hn
  refine ⟨ts, hts, hn, ?_⟩
  rintro rfl
  exact hpos rfl

/-- An accepted message has a target, and as many as there are to go
through. -/
theorem targets_of_validated {message : Option Message} {config : Config} {m : Message}
    {ts : List Value} (hv : validate message config = .ok m)
    (hts : m.targets.items = .ok ts) :
    m.targets.length = .ok ts.length ∧ ts ≠ [] := by
  obtain ⟨ts', hts', hlength, hne⟩ := checkTargets_ok (validate_eq_ok_iff.mp hv).2.1
  rw [hts] at hts'
  cases hts'
  exact ⟨hlength, hne⟩

/-- However the refusal would read, a time to live passes just if it is in
bounds. -/
theorem checkTimeToLive_ok_iff {ttl : Value} {config : Config} :
    checkTimeToLive ttl config = .ok () ↔ badTimeToLive ttl config = .ok false := by
  unfold checkTimeToLive
  rcases badTimeToLive ttl config with e | _ | _
  · simp [MessageFailure.ofMisuse, bind, Except.bind]
  · simp [MessageFailure.ofMisuse, bind, Except.bind]
  · cases config.maxTimeToLive.printed <;>
      simp [MessageFailure.ofMisuse, MessageFailure.invalid, bind, Except.bind]

theorem checkPriority_ok {priority : Value} {config : Config}
    (h : checkPriority priority config = .ok ()) : ∃ s, priority = .text s := by
  cases priority with
  | text s => exact ⟨s, rfl⟩
  | _ =>
    obtain ⟨bad, hbad, h⟩ := bind_eq_ok_iff.mp h
    cases hbad
    obtain ⟨allowed, -, h⟩ := bind_eq_ok_iff.mp h
    cases h

theorem checkData_ok_iff {data : Value} :
    checkData data = .ok () ↔ data = .null ∨ HasText data := by
  unfold checkData HasText
  split
  · simp
  · rename_i hdata
    have hpresent : ¬ data = .null := fun h => hdata h
    cases Json.write data with
    | ok text => simp
    | error e => simp [hpresent]

/-! ## Some of the targets -/

/-- The message for other targets. -/
def addressedTo (m : Message) (targets : List Value) : Message :=
  { m with targets := .list targets }

theorem checkTargets_list_iff {ts : List Value} {config : Config} :
    checkTargets (.list ts) config = .ok () ↔
      ts ≠ [] ∧ config.maxTargets.isBelow ts.length = .ok false := by
  have hlength : (Value.list ts).length = .ok ts.length := rfl
  unfold checkTargets
  simp only [hlength, MessageFailure.ofMisuse, bind, Except.bind]
  cases ts with
  | nil => simp [MessageFailure.invalid]
  | cons t ts =>
    generalize config.maxTargets.isBelow (t :: ts).length = below
    rcases below with e | _ | _
    · simp
    · simp
    · cases config.maxTargets.printed <;> simp [MessageFailure.invalid]

/-- Any targets will do that are no more than those of an accepted list. -/
theorem checkTargets_of_fewer {ts us : List Value} {config : Config} (hne : ts ≠ [])
    (hfewer : ts.length ≤ us.length) (h : checkTargets (.list us) config = .ok ()) :
    checkTargets (.list ts) config = .ok () := by
  obtain ⟨-, hbound⟩ := checkTargets_list_iff.mp h
  exact checkTargets_list_iff.mpr ⟨hne, Value.isBelow_of_le (by omega) hbound⟩

theorem validate_addressedTo {m : Message} {config : Config} {ts us : List Value}
    (hv : validate (some m) config = .ok m) (hus : m.targets = .list us) (hne : ts ≠ [])
    (hfewer : ts.length ≤ us.length) :
    validate (some (m.addressedTo ts)) config = .ok (m.addressedTo ts) := by
  obtain ⟨-, htargets, hrest⟩ := validate_eq_ok_iff.mp hv
  rw [hus] at htargets
  exact validate_eq_ok_iff.mpr ⟨rfl, checkTargets_of_fewer hne hfewer htargets, hrest⟩

end Message
end PushRelay
