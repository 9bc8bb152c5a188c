import PushRelay.Json.Writer
import PushRelay.Proofs.Json.Grammar

/-!
# Strings

A text is written as a string that spells its UTF-16 units, whatever its
characters are, and a string is read as the text of the units that it spells.
How a unit is spelled, by a character or by an escape, makes no difference to
the reader: what it gives is a function of the units alone.
-/

namespace PushRelay.Json

/-! ## Writing -/

theorem hexValue?_hexDigit : ∀ n < 16, Text.hexValue? (Text.hexDigit n) = some n := by
  decide

/-- The four digits of a unit give that unit back. -/
theorem Literal.of_unitEscape {n : Nat} {units : List Nat} {cs rest : List Char}
    (hn : n < 0x10000) (h : Literal units cs rest) :
    Literal (n :: units) (unitEscape n ++ cs) rest := by
  have hdigit : ∀ k, Text.hexValue? (Text.hexDigit (k % 16)) = some (k % 16) :=
    fun k => hexValue?_hexDigit _ (Nat.mod_lt _ (by decide))
  have hunit := Literal.unit (hdigit (n / 16 / 16 / 16)) (hdigit (n / 16 / 16)) (hdigit (n / 16))
    (hdigit n) h
  have hn : ((n / 16 / 16 / 16 % 16 * 16 + n / 16 / 16 % 16) * 16 + n / 16 % 16) * 16 + n % 16 =
      n := by omega
  rw [hn] at hunit
  exact hunit

theorem toNat_lt (c : Char) : c.toNat < 0xD800 ∨ 0xDFFF < c.toNat ∧ c.toNat < 0x110000 :=
  c.valid

/-- A character is written as something that spells its units. -/
theorem Literal.of_escapeChar (c : Char) {units : List Nat} {cs rest : List Char}
    (h : Literal units cs rest) : Literal (utf16 c ++ units) (escapeChar c ++ cs) rest := by
  by_cases hquote : c = '"'
  · subst c
    exact .escape .quote h
  by_cases hbackslash : c = '\\'
  · subst c
    exact .escape .backslash h
  by_cases hlineFeed : c = '\n'
  · subst c
    exact .escape .lineFeed h
  by_cases hcarriageReturn : c = '\r'
  · subst c
    exact .escape .carriageReturn h
  by_cases htab : c = '\t'
  · subst c
    exact .escape .tab h
  by_cases hformFeed : c = '\x0c'
  · subst c
    exact .escape .formFeed h
  by_cases hbackspace : c = '\x08'
  · subst c
    exact .escape .backspace h
  -- no letter stands for any other character
  have hc := toNat_lt c
  simp only [escapeChar, hquote, hbackslash, hlineFeed, hcarriageReturn, htab, hformFeed,
    hbackspace, if_false]
  by_cases hplain : 0x20 ≤ c.toNat ∧ c.toNat ≤ 0x7E
  · rw [if_pos hplain]
    exact .char hquote hbackslash hplain.1 h
  rw [if_neg hplain]
  by_cases hsmall : c.toNat ≤ 0xFFFF
  · rw [if_pos hsmall, utf16, if_pos hsmall]
    exact .of_unitEscape (by omega) h
  · rw [if_neg hsmall, utf16, if_neg hsmall, List.append_assoc]
    exact .of_unitEscape (by omega) (.of_unitEscape (by omega) h)

/-- A text is written as a string that spells its units. -/
theorem Literal.of_text (text rest : List Char) :
    Literal (text.flatMap utf16) (text.flatMap escapeChar ++ '"' :: rest) rest := by
  induction text with
  | nil => exact .close rest
  | cons c text ih =>
    rw [List.flatMap_cons, List.flatMap_cons, List.append_assoc]
    exact .of_escapeChar c ih

/-! ## Reading -/

/-- The units that a part stands for. -/
def Part.units : Part → List Nat
  | .char c => utf16 c
  | .unit n => [n]

/-- The characters of a row of units. -/
def joinUnits (units : List Nat) : List Char := joinParts (units.map .unit)

theorem joinUnits_pair {u v : Nat} (us : List Nat) (h : (isHigh u && isLow v) = true) :
    joinUnits (u :: v :: us) =
      Char.ofNat (0x10000 + (u - 0xD800) * 0x400 + (v - 0xDC00)) :: joinUnits us := by
  simp only [joinUnits, List.map_cons, joinParts, h, if_true]

/-- A unit that begins no pair stands for a character by itself. -/
theorem joinUnits_single {u : Nat} {us : List Nat}
    (h : ∀ v ∈ us.head?, (isHigh u && isLow v) = false) :
    joinUnits (u :: us) = unitChar u :: joinUnits us := by
  cases us with
  | nil => rfl
  | cons v us =>
    have h := h v rfl
    simp only [joinUnits, List.map_cons, joinParts, h, Bool.false_eq_true, if_false]

/-- The units of a character give it back, whatever follows. -/
theorem joinUnits_utf16 (c : Char) (us : List Nat) :
    joinUnits (utf16 c ++ us) = c :: joinUnits us := by
  have hc := toNat_lt c
  unfold utf16
  split
  · rename_i hsmall
    have hhigh : isHigh c.toNat = false := by
      simp only [isHigh, Bool.and_eq_false_imp, decide_eq_true_eq, decide_eq_false_iff_not]
      omega
    have hlow : isLow c.toNat = false := by
      simp only [isLow, Bool.and_eq_false_imp, decide_eq_true_eq, decide_eq_false_iff_not]
      omega
    have hchar : unitChar c.toNat = c := by
      rw [unitChar, hhigh, hlow]
      exact Char.ofNat_toNat c
    rw [List.singleton_append, joinUnits_single (by simp [hhigh]), hchar]
  · have hpair : (isHigh (0xD800 + (c.toNat - 0x10000) / 0x400) &&
        isLow (0xDC00 + (c.toNat - 0x10000) % 0x400)) = true := by
      simp only [isHigh, isLow, Bool.and_eq_true, decide_eq_true_eq]
      omega
    show joinUnits (_ :: _ :: us) = _
    have hnat : 0x10000 + (0xD800 + (c.toNat - 0x10000) / 0x400 - 0xD800) * 0x400 +
        (0xDC00 + (c.toNat - 0x10000) % 0x400 - 0xDC00) = c.toNat := by omega
    rw [joinUnits_pair us hpair, hnat, Char.ofNat_toNat]

theorem joinUnits_text (text : List Char) : joinUnits (text.flatMap utf16) = text := by
  induction text with
  | nil => rfl
  | cons c text ih => rw [List.flatMap_cons, joinUnits_utf16, ih]

/-- Two texts with the same units are the same. -/
theorem flatMap_utf16_injective {text text' : List Char}
    (h : text.flatMap utf16 = text'.flatMap utf16) : text = text' := by
  rw [← joinUnits_text text, h, joinUnits_text]

/-- No character begins with the second half of a pair. -/
theorem isLow_head_utf16 (c : Char) (us : List Nat) :
    ∀ v ∈ (utf16 c ++ us).head?, isLow v = false := by
  have hc := toNat_lt c
  unfold utf16
  split <;>
  · rintro v ⟨⟩
    simp only [isLow, Bool.and_eq_false_imp, decide_eq_true_eq, decide_eq_false_iff_not]
    omega

/-- The parts of a string are joined as the units that they stand for. -/
theorem joinParts_eq_joinUnits (parts : List Part) :
    joinParts parts = joinUnits (parts.flatMap Part.units) := by
  induction parts using joinParts.induct with
  | case1 => rfl
  | case2 c parts ih =>
    rw [List.flatMap_cons, joinParts, ih]
    exact (joinUnits_utf16 c _).symm
  | case3 u v parts hpair ih =>
    rw [joinParts, if_pos hpair, ih]
    exact (joinUnits_pair _ hpair).symm
  | case4 u v parts hpair ih =>
    rw [joinParts, if_neg hpair, ih]
    refine (joinUnits_single ?_).symm
    rintro v' ⟨⟩
    simpa using hpair
  | case5 u parts hnot ih =>
    have hjoin : joinParts (.unit u :: parts) = unitChar u :: joinParts parts := by
      cases parts with
      | nil => rfl
      | cons p parts =>
        cases p with
        | char c => rfl
        | unit v => exact absurd rfl (hnot v parts)
    rw [hjoin, ih]
    refine (joinUnits_single fun v hv => ?_).symm
    cases parts with
    | nil => cases hv
    | cons p parts =>
      cases p with
      | char c => rw [isLow_head_utf16 c _ v hv, Bool.and_false]
      | unit v => exact absurd rfl (hnot v parts)

/-- What is read before some further parts are read. -/
def Part.before (part : Part) (further : Except Fault (List Part × List Char)) :
    Except Fault (List Part × List Char) :=
  further.map fun (parts, left) => (part :: parts, left)

section

variable {opening rest : List Char}

theorem readParts_close : readParts opening ('"' :: rest) = .ok ([], rest) := by
  simp [readParts.eq_def opening ('"' :: rest)]

theorem readParts_char {c : Char} (hquote : c ≠ '"') (hbackslash : c ≠ '\\')
    (hcontrol : 0x20 ≤ c.toNat) :
    readParts opening (c :: rest) = Part.before (.char c) (readParts opening rest) := by
  have hcontrol : ¬ c.toNat ≤ 0x1F := by omega
  rw [readParts.eq_def]
  simp only [hquote, hbackslash, hcontrol, if_false]
  rfl

theorem readParts_escape {e c : Char} (he : Escape e c) :
    readParts opening ('\\' :: e :: rest) = Part.before (.char c) (readParts opening rest) := by
  rw [readParts.eq_def]
  cases he <;> rfl

theorem readParts_unit {a b c d : Char} {n : Nat} (hn : unit? a b c d = some n)
    (hrest : rest ≠ []) :
    readParts opening ('\\' :: 'u' :: a :: b :: c :: d :: rest) =
      Part.before (.unit n) (readParts opening rest) := by
  rw [readParts.eq_def]
  simp [hn, hrest]
  rfl

end

theorem Literal.ne_nil {units : List Nat} {cs rest : List Char} (h : Literal units cs rest) :
    cs ≠ [] := by
  cases h <;> simp

/-- What a string spells is read. -/
theorem Literal.readParts {units : List Nat} {cs rest : List Char}
    (h : Literal units cs rest) (opening : List Char) :
    ∃ parts, readParts opening cs = .ok (parts, rest) ∧ parts.flatMap Part.units = units := by
  induction h with
  | close rest => exact ⟨[], readParts_close, rfl⟩
  | char hquote hbackslash hcontrol _ ih =>
    obtain ⟨parts, hparts, rfl⟩ := ih
    refine ⟨.char _ :: parts, ?_, rfl⟩
    rw [readParts_char hquote hbackslash hcontrol, hparts]
    rfl
  | @escape e c _ _ _ he _ ih =>
    obtain ⟨parts, hparts, rfl⟩ := ih
    refine ⟨.char c :: parts, ?_, by cases he <;> rfl⟩
    rw [readParts_escape he, hparts]
    rfl
  | unit ha hb hc hd h ih =>
    obtain ⟨parts, hparts, rfl⟩ := ih
    refine ⟨.unit _ :: parts, ?_, rfl⟩
    rw [readParts_unit (by simp [unit?, ha, hb, hc, hd]; rfl) h.ne_nil, hparts]
    rfl

/-- The text of a row of units. -/
def textOf (units : List Nat) : String := String.ofList (joinUnits units)

theorem textOf_units (s : String) : textOf (s.toList.flatMap utf16) = s := by
  rw [textOf, joinUnits_text, String.ofList_toList]

theorem Literal.readString {units : List Nat} {cs rest : List Char}
    (h : Literal units cs rest) : readString cs = .ok (textOf units, rest) := by
  obtain ⟨parts, hparts, hunits⟩ := h.readParts ('"' :: cs)
  unfold Json.readString textOf
  rw [hparts, ← hunits, ← joinParts_eq_joinUnits]
  rfl

end PushRelay.Json
