import Mathlib.Data.List.Basic
import PushRelay.Json.Writer
import PushRelay.Proofs.Json.Unambiguity

/-!
# Numerals

Integers and finite doubles are written as numerals of the grammar, and a
numeral is read as one number whatever follows it. For a double the point to
watch is the zero in front: its shortest decimal never has the coefficient
zero, so its digits begin with another digit.
-/

namespace PushRelay

/-! ## Digits -/

namespace Json

theorem isDigits_repr (n : Nat) : IsDigits (Nat.repr n).toList := by
  rw [Nat.toList_repr]
  exact ⟨Nat.toDigits_ne_nil, fun c hc =>
    Nat.isDigit_of_mem_toDigits (by decide) (by decide) hc⟩

/-- The digits of a number other than zero do not begin with a zero. -/
theorem head?_repr_ne_zero {n : Nat} (h : n ≠ 0) : (Nat.repr n).toList.head? ≠ some '0' := by
  rw [Nat.toList_repr]
  induction n using Nat.strongRecOn with
  | ind n ih =>
    by_cases hsmall : n < 10
    · simp [Nat.toDigits_of_lt_base hsmall, h]
    · rw [Nat.toDigits_of_base_le (by decide) (by omega),
        List.head?_append_of_ne_nil _ Nat.toDigits_ne_nil]
      exact ih (n / 10) (by omega) (by omega)

theorem isWhole_repr (n : Nat) : IsWhole (Nat.repr n).toList := by
  by_cases h : n = 0
  · subst h
    exact .inl rfl
  · exact .inr ⟨isDigits_repr n, head?_repr_ne_zero h⟩

/-- The digits of a number denote that number. -/
theorem ofDigits_repr (n : Nat) : Numeral.ofDigits (Nat.repr n).toList = n := by
  have h := Nat.ofDigitChars_ten_toDigits (n := n)
  rw [Nat.ofDigitChars_eq_foldl] at h
  rw [Nat.toList_repr]
  exact h

/-! ## Reading a numeral -/

theorem Ends.not_digit {rest : List Char} (h : Ends rest) :
    ∀ c ∈ rest.head?, c.isDigit = false := by
  intro c hc
  have hc := h c hc
  simp_all [isNumeric]

theorem spanDigits_append {ds rest : List Char} (hds : ∀ c ∈ ds, c.isDigit = true)
    (hrest : ∀ c ∈ rest.head?, c.isDigit = false) :
    Numeral.spanDigits (ds ++ rest) = (ds, rest) := by
  obtain ⟨htake, hdrop⟩ := takeWhile_append_of_stops hds hrest
  rw [Numeral.spanDigits, htake, hdrop]

theorem wholeDigits?_append {whole rest : List Char} (h : IsWhole whole)
    (hrest : ∀ c ∈ rest.head?, c.isDigit = false) :
    wholeDigits? (whole ++ rest) = some (whole, rest) := by
  rcases h with rfl | ⟨⟨hne, hdigits⟩, hzero⟩
  · simp [wholeDigits?]
  · have hspan := spanDigits_append hdigits hrest
    obtain ⟨d, ds, rfl⟩ := List.exists_cons_of_ne_nil hne
    have hd : d.isDigit = true := hdigits d List.mem_cons_self
    have hd0 : d ≠ '0' := fun h => hzero (by rw [h]; rfl)
    rw [List.cons_append] at hspan ⊢
    simp [wholeDigits?, hd, hd0, hspan]

theorem fractionDigits_append {fraction rest : List Char} (h : IsFraction fraction)
    (hrest : ∀ c ∈ rest.head?, c.isDigit = false ∧ c ≠ '.') :
    fractionDigits (fraction ++ rest) = (fraction.tail, rest) := by
  rcases h with rfl | ⟨ds, rfl, hne, hdigits⟩
  · cases rest with
    | nil => rfl
    | cons c rest => simp [fractionDigits, (hrest c rfl).2]
  · have hspan := spanDigits_append hdigits fun c hc => (hrest c hc).1
    obtain ⟨d, ds, rfl⟩ := List.exists_cons_of_ne_nil hne
    rw [List.cons_append] at hspan
    simp [fractionDigits, hspan]

theorem spanExponent_append {exponent : List Char} (h : IsExponent exponent) :
    ∃ x : Option Int, (x = none ↔ exponent = []) ∧
      ∀ rest, Ends rest → Numeral.spanExponent (exponent ++ rest) = (x, rest) := by
  rcases h with rfl | ⟨mark, sign, ds, rfl, hmark, hsign, hne, hdigits⟩
  · refine ⟨none, by simp, fun rest hrest => ?_⟩
    cases rest with
    | nil => rfl
    | cons c rest =>
      have hc := hrest c rfl
      simp only [isNumeric, Bool.or_eq_false_iff, beq_eq_false_iff_ne] at hc
      simp [Numeral.spanExponent, hc]
  · obtain ⟨d, ds, rfl⟩ := List.exists_cons_of_ne_nil hne
    have hd : d.isDigit = true := hdigits d List.mem_cons_self
    -- a digit is no sign
    have hbare : ∀ rest, Numeral.spanSign (d :: ds ++ rest) = (false, d :: ds ++ rest) := by
      intro rest
      rw [List.cons_append]
      unfold Numeral.spanSign
      split
      · rename_i heq
        cases heq
        cases hd
      · rename_i heq
        cases heq
        cases hd
      · rfl
    have hspan : ∀ rest, Ends rest → Numeral.spanDigits (d :: (ds ++ rest)) = (d :: ds, rest) :=
      fun rest hrest => spanDigits_append hdigits hrest.not_digit
    rcases hsign with rfl | rfl | rfl
    · refine ⟨some (Numeral.ofDigits (d :: ds)), by simp, fun rest hrest => ?_⟩
      have hsign := hbare rest
      rw [List.cons_append] at hsign
      simp [Numeral.spanExponent, hmark, hsign, hspan rest hrest]
    · refine ⟨some (Numeral.ofDigits (d :: ds)), by simp, fun rest hrest => ?_⟩
      simp [Numeral.spanExponent, hmark, Numeral.spanSign, hspan rest hrest]
    · refine ⟨some (-Numeral.ofDigits (d :: ds)), by simp, fun rest hrest => ?_⟩
      simp [Numeral.spanExponent, hmark, Numeral.spanSign, hspan rest hrest]

/-- The number that the parts of a numeral make. -/
def assembled (negative : Bool) (whole fraction : List Char) (exponent : Option Int) :
    Except Fault Value :=
  if fraction.isEmpty && exponent.isNone then
    if Numeral.maxDigits < whole.length then .error (.longInteger whole.length)
    else .ok (.int (if negative then -Numeral.ofDigits whole else Numeral.ofDigits whole))
  else .ok (.float (Numeral.double negative whole fraction (exponent.getD 0)))

/-- What follows the fraction of a numeral, be it an exponent or the end, goes
on with neither digits nor a point. -/
theorem IsExponent.stops {exponent rest : List Char} (h : IsExponent exponent)
    (hrest : Ends rest) :
    ∀ c ∈ (exponent ++ rest).head?, c.isDigit = false ∧ c ≠ '.' := by
  rcases h with rfl | ⟨mark, sign, ds, rfl, hmark, -⟩
  · intro c hc
    have hc := hrest c hc
    simp only [isNumeric, Bool.or_eq_false_iff, beq_eq_false_iff_ne] at hc
    exact ⟨hc.1.1.1.1.1, hc.1.1.1.1.2⟩
  · rintro c ⟨⟩
    rcases hmark with rfl | rfl <;> decide

/-- What follows the digits before the point goes on with none. -/
theorem IsFraction.stops {fraction rest : List Char} (h : IsFraction fraction)
    (hrest : ∀ c ∈ rest.head?, c.isDigit = false ∧ c ≠ '.') :
    ∀ c ∈ (fraction ++ rest).head?, c.isDigit = false := by
  rcases h with rfl | ⟨ds, rfl, -⟩
  · exact fun c hc => (hrest c hc).1
  · rintro c ⟨⟩
    rfl

/-- The sign in front of a numeral. -/
def signText (negative : Bool) : List Char := if negative then ['-'] else []

/-- The number is made of the parts, and nothing after the numeral is touched. -/
theorem readNumber_parts {whole fraction exponent : List Char} (negative : Bool)
    (hwhole : IsWhole whole) (hfraction : IsFraction fraction)
    (hexponent : IsExponent exponent) :
    ∃ x, (x = none ↔ exponent = []) ∧ ∀ rest, Ends rest →
      readNumber (signText negative ++ (whole ++ (fraction ++ (exponent ++ rest)))) =
        (assembled negative whole fraction.tail x).map fun v => (v, rest) := by
  obtain ⟨x, hx, hspan⟩ := spanExponent_append hexponent
  refine ⟨x, hx, fun rest hrest => ?_⟩
  have hafter := hexponent.stops hrest
  have hw := wholeDigits?_append hwhole (hfraction.stops hafter)
  have hf := fractionDigits_append hfraction hafter
  have hx := hspan rest hrest
  -- the first digit is no sign
  obtain ⟨hne, hdigits⟩ := hwhole.digits
  obtain ⟨d, ds, rfl⟩ := List.exists_cons_of_ne_nil hne
  have hd : d ≠ '-' := by
    rintro rfl
    exact absurd (hdigits '-' List.mem_cons_self) (by decide)
  rw [List.cons_append] at hw
  unfold readNumber assembled
  cases negative <;> simp [signText, hw, hf, hx, hd] <;> grind [Except.map]

/-- What is put together from the parts of a numeral is one. -/
theorem IsNumeral.of_parts {cs sign whole fraction exponent : List Char}
    (hsign : sign = [] ∨ sign = ['-']) (hwhole : IsWhole whole) (hfraction : IsFraction fraction)
    (hexponent : IsExponent exponent) (hcs : cs = sign ++ (whole ++ (fraction ++ exponent))) :
    IsNumeral cs := hcs ▸ .mk hsign hwhole hfraction hexponent

/-- What a numeral is read as does not depend on what follows it. -/
theorem IsNumeral.read_append {numeral rest : List Char} (h : IsNumeral numeral)
    (hrest : Ends rest) :
    readNumber (numeral ++ rest) = (readNumber numeral).map fun (v, _) => (v, rest) := by
  have hread : ∃ result : Except Fault Value, ∀ rest, Ends rest →
      readNumber (numeral ++ rest) = result.map fun v => (v, rest) := by
    obtain ⟨hsign, hwhole, hfraction, hexponent⟩ := h
    obtain ⟨negative, rfl⟩ : ∃ negative, _ = signText negative :=
      hsign.elim (⟨false, ·⟩) (⟨true, ·⟩)
    obtain ⟨x, -, hread⟩ := readNumber_parts negative hwhole hfraction hexponent
    exact ⟨_, fun rest hrest => by simpa using hread rest hrest⟩
  obtain ⟨result, hread⟩ := hread
  have hempty := hread [] (by simp [Ends])
  rw [List.append_nil] at hempty
  rw [hread rest hrest, hempty]
  cases result <;> rfl

/-! ## Integers -/

/-- The numeral of an integer. -/
def intNumeral (n : Int) : List Char :=
  signText (decide (n < 0)) ++ (Nat.repr n.natAbs).toList

theorem isNumeral_int (n : Int) : IsNumeral (intNumeral n) := by
  have hsign : signText (decide (n < 0)) = [] ∨ signText (decide (n < 0)) = ['-'] := by
    unfold signText
    split <;> simp
  exact .of_parts hsign (isWhole_repr n.natAbs) (.inl rfl) (.inl rfl) (by simp [intNumeral])

/-- An integer that is not too long is written as its numeral. -/
theorem intText_eq_ok {n : Int} {cs : List Char} (h : intText n = .ok cs) :
    cs = intNumeral n ∧ (Nat.repr n.natAbs).length ≤ Numeral.maxDigits := by
  simp only [intText] at h
  split at h
  · cases h
  · rename_i hshort
    cases h
    constructor
    · unfold intNumeral signText
      split <;> simp_all
    · omega

/-- Its numeral is read as the integer. -/
theorem readNumber_int {n : Int} (h : (Nat.repr n.natAbs).length ≤ Numeral.maxDigits) :
    readNumber (intNumeral n) = .ok (.int n, []) := by
  obtain ⟨x, hx, hread⟩ := readNumber_parts (decide (n < 0)) (isWhole_repr n.natAbs)
    (.inl rfl) (.inl rfl)
  have hread := hread [] (by simp [Ends])
  have hlength : ¬ Numeral.maxDigits < (Nat.repr n.natAbs).toList.length := by
    rw [String.length_toList]
    omega
  have hn : (if decide (n < 0) = true then -(n.natAbs : Int) else n.natAbs) = n := by
    simp only [decide_eq_true_eq]
    split <;> omega
  simp only [List.append_nil, hx.mpr rfl, assembled, hlength, ofDigits_repr, hn] at hread
  rw [intNumeral, hread]
  rfl

end Json

/-! ## Doubles -/

namespace Binary64

/-- Nothing other than zero reads back from zero. -/
theorem readsBack_zero {m : Nat} (hm : m ≠ 0) (e k : Int) : readsBack m e 0 k = false := by
  have hunits : 0 < (Decimal.inUnits (magnitude 1 (e - 2)).1 (magnitude 1 (e - 2)).2 k).1 := by
    have hnum : 0 < (magnitude 1 (e - 2)).1 := by
      unfold magnitude
      split
      · exact Nat.mul_pos Nat.one_pos (Nat.pow_pos (by decide))
      · exact Nat.one_pos
    unfold Decimal.inUnits
    split
    · exact hnum
    · exact Nat.mul_pos hnum (Nat.pow_pos (by decide))
  have hlow : 0 < 4 * m - if m = Nat.pow 2 52 ∧ -1074 < e then 1 else 2 := by
    split <;> omega
  have hlow := Nat.mul_pos hlow hunits
  simp only [readsBack, Nat.zero_mul]
  split
  · rw [decide_eq_false (Nat.not_le.mpr hlow), Bool.false_and]
  · rw [decide_eq_false (Nat.not_lt_zero _), Bool.false_and]

/-- What is found for a number other than zero is not zero. -/
theorem decimalOf?_ne_zero {m : Nat} {e : Int} {digits : Nat} {x : Decimal} (hm : m ≠ 0)
    (h : decimalOf? m e digits = some x) : x.coefficient ≠ 0 := by
  have hback : readsBack m e x.coefficient x.exponent = true := by
    simp only [decimalOf?] at h
    split at h
    · cases h
      assumption
    · split at h
      · cases h
        assumption
      · split at h
        · cases h
          assumption
        · cases h
  intro hzero
  rw [hzero, readsBack_zero hm] at hback
  cases hback

theorem stripZeros_ne_zero (fuel : Nat) {x : Decimal} (h : x.coefficient ≠ 0) :
    (x.stripZeros fuel).coefficient ≠ 0 := by
  induction fuel generalizing x with
  | zero => exact h
  | succ fuel ih =>
    unfold Decimal.stripZeros
    split
    · rename_i hend
      exact ih (by show x.coefficient / 10 ≠ 0; omega)
    · exact h

/-- The decimal of a number other than zero is not zero, if there is one. -/
theorem shortest_ne_zero {m : Nat} (hm : m ≠ 0) (e : Int) :
    (shortest m e).coefficient ≠ 0 ∨ shortest m e = ⟨0, 0⟩ := by
  unfold shortest
  split
  · rename_i x hx
    obtain ⟨i, -, hi⟩ := List.exists_of_findSome?_eq_some hx
    exact .inl (stripZeros_ne_zero 20 (decimalOf?_ne_zero hm hi))
  · exact .inr rfl

end Binary64

namespace Json

open Binary64 (decimalText exponentText)

/-- An exponent is written with a sign and two digits or more. -/
theorem isExponent_exponentText (e : Int) : IsExponent ('e' :: exponentText e) := by
  have hdigits := isDigits_repr e.natAbs
  have hpadded : IsDigits (if (Nat.repr e.natAbs).toList.length < 2
      then '0' :: (Nat.repr e.natAbs).toList else (Nat.repr e.natAbs).toList) := by
    split
    · exact ⟨by simp, List.forall_mem_cons.mpr ⟨rfl, hdigits.2⟩⟩
    · exact hdigits
  exact .inr ⟨'e', [if e < 0 then '-' else '+'], _, rfl, .inl rfl, by split <;> simp, hpadded⟩

/-- Zero is written with a fraction. -/
theorem isNumeral_zero {sign : List Char} (hsign : sign = [] ∨ sign = ['-']) :
    IsNumeral (sign ++ ['0', '.', '0']) :=
  .of_parts hsign (.inl rfl) (.inr ⟨['0'], rfl, isDigits_zero⟩) (.inl rfl) (by simp)

/-- A decimal is written as a numeral: its digits are the whole part, the
fraction or both, with zeros or an exponent to put the point where it
belongs. -/
theorem isNumeral_decimalText {x : Decimal} {sign : List Char}
    (hx : x.coefficient ≠ 0 ∨ x = ⟨0, 0⟩) (hsign : sign = [] ∨ sign = ['-']) :
    IsNumeral (sign ++ decimalText x) := by
  rcases hx with hx | rfl
  · obtain ⟨hne, hdigits⟩ := isDigits_repr x.coefficient
    have hhead := head?_repr_ne_zero hx
    have hzeros : ∀ n, ∀ c ∈ List.replicate n '0', c.isDigit = true := by
      intro n c hc
      rw [List.eq_of_mem_replicate hc]
      rfl
    simp only [decimalText]
    generalize (Nat.repr x.coefficient).toList = digits at *
    generalize (digits.length : Int) + x.exponent = point
    obtain ⟨d, ds, rfl⟩ := List.exists_cons_of_ne_nil hne
    split
    · split
      · -- the point stands before all digits
        exact .of_parts hsign (.inl rfl) (.inr ⟨_, rfl, by simp,
          List.forall_mem_append.mpr ⟨hzeros (-point).toNat, hdigits⟩⟩) (.inl rfl) (by simp)
      · split
        · -- after them
          exact .of_parts hsign (.inr ⟨⟨by simp, List.forall_mem_append.mpr
            ⟨hdigits, hzeros (point.toNat - (d :: ds).length)⟩⟩, by simpa using hhead⟩)
            (.inr ⟨['0'], rfl, isDigits_zero⟩) (.inl rfl) (by simp)
        · -- among them
          rename_i hbefore hafter
          have htake : IsDigits ((d :: ds).take point.toNat) :=
            ⟨by simp; omega, fun c hc => hdigits c (List.mem_of_mem_take hc)⟩
          have hdrop : IsDigits ((d :: ds).drop point.toNat) :=
            ⟨by simpa using hafter, fun c hc => hdigits c (List.mem_of_mem_drop hc)⟩
          have hhead : ((d :: ds).take point.toNat).head? ≠ some '0' := by
            rw [List.head?_take, if_neg (by omega)]
            exact hhead
          exact .of_parts hsign (.inr ⟨htake, hhead⟩) (.inr ⟨_, rfl, hdrop⟩) (.inl rfl) (by simp)
    · -- one digit before the point, an exponent after the others
      obtain ⟨hd, hds⟩ := List.forall_mem_cons.mp hdigits
      have hwhole : IsWhole [d] := .inr ⟨⟨by simp, by simpa using hd⟩, by simpa using hhead⟩
      have hexponent := isExponent_exponentText (point - 1)
      by_cases hempty : ds = []
      · subst hempty
        exact .mk hsign hwhole (.inl rfl) hexponent
      · simpa [hempty] using
          IsNumeral.mk hsign hwhole (.inr ⟨ds, rfl, hempty, hds⟩) hexponent
  · exact isNumeral_zero hsign

/-- A finite double is written as a numeral. -/
theorem isNumeral_finite (negative : Bool) (m : Nat) (e : Int) :
    IsNumeral (floatText (.finite negative m e)) := by
  have hbody : ∀ sign : List Char, sign = [] ∨ sign = ['-'] →
      IsNumeral (sign ++
        if m = 0 then ['0', '.', '0'] else decimalText (Binary64.shortest m e)) := by
    intro sign hsign
    split
    · exact isNumeral_zero hsign
    · rename_i hm
      exact isNumeral_decimalText (Binary64.shortest_ne_zero hm e) hsign
  cases negative with
  | false => simpa [floatText, Binary64.text] using hbody [] (.inl rfl)
  | true => simpa [floatText, Binary64.text] using hbody ['-'] (.inr rfl)

end Json
end PushRelay
