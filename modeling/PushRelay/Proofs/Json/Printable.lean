import PushRelay.Proofs.Json.Writing
import PushRelay.Proofs.Octets.Ascii

/-!
# What is written is printable

A JSON text is written in one line of printable ASCII, whatever it says. So it
has one octet for each character, and no mark in front of it: as a text and as
octets it is read for what it says.
-/

namespace PushRelay.Json

/-- All characters are of the printable part of ASCII. -/
def IsPrintable (cs : List Char) : Prop := ∀ c ∈ cs, 0x20 ≤ c.toNat ∧ c.toNat ≤ 0x7E

instance (cs : List Char) : Decidable (IsPrintable cs) :=
  List.decidableBAll _ cs

theorem isPrintable_append {cs cs' : List Char} (h : IsPrintable cs) (h' : IsPrintable cs') :
    IsPrintable (cs ++ cs') := List.forall_mem_append.mpr ⟨h, h'⟩

theorem isPrintable_cons {c : Char} {cs : List Char} (hc : 0x20 ≤ c.toNat ∧ c.toNat ≤ 0x7E)
    (h : IsPrintable cs) : IsPrintable (c :: cs) := List.forall_mem_cons.mpr ⟨hc, h⟩

theorem isPrintable_hexText (width n : Nat) : IsPrintable (Text.hexText width n) := by
  have hdigit : ∀ k < 16, 0x20 ≤ (Text.hexDigit k).toNat ∧ (Text.hexDigit k).toNat ≤ 0x7E := by
    decide
  induction width generalizing n with
  | zero => exact List.forall_mem_nil _
  | succ width ih =>
    exact isPrintable_append (ih _)
      (isPrintable_cons (hdigit _ (Nat.mod_lt _ (by decide))) (List.forall_mem_nil _))

theorem isPrintable_unitEscape (n : Nat) : IsPrintable (unitEscape n) :=
  isPrintable_cons (by decide) (isPrintable_cons (by decide) (isPrintable_hexText 4 n))

/-- Whatever is not printable itself is escaped. -/
theorem isPrintable_escapeChar (c : Char) : IsPrintable (escapeChar c) := by
  unfold escapeChar
  iterate 7
    split
    · decide
  split
  · rename_i hplain
    exact isPrintable_cons hplain (List.forall_mem_nil _)
  · split
    · exact isPrintable_unitEscape _
    · exact isPrintable_append (isPrintable_unitEscape _) (isPrintable_unitEscape _)

theorem isPrintable_textLiteral (cs : List Char) : IsPrintable (textLiteral cs) := by
  refine isPrintable_cons (by decide) (isPrintable_append ?_ (by decide))
  intro c hc
  obtain ⟨c', -, hc⟩ := List.mem_flatMap.mp hc
  exact isPrintable_escapeChar c' c hc

theorem isPrintable_numeral {cs : List Char} (h : IsNumeral cs) : IsPrintable cs := by
  intro c hc
  have hc := h.numeric c hc
  simp only [isNumeric, Char.isDigit, Bool.or_eq_true, Bool.and_eq_true, beq_iff_eq,
    decide_eq_true_eq] at hc
  rcases hc with ((((⟨hlow, hhigh⟩ | rfl) | rfl) | rfl) | rfl) | rfl
  · have hlow := UInt32.le_iff_toNat_le.mp hlow
    have hhigh := UInt32.le_iff_toNat_le.mp hhigh
    constructor
    · exact Nat.le_trans (by decide) hlow
    · exact Nat.le_trans hhigh (by decide)
  all_goals decide

theorem isPrintable_floatText (x : Binary64) : IsPrintable (floatText x) := by
  cases x with
  | nan => decide
  | infinite negative => cases negative <;> decide
  | finite negative m e => exact isPrintable_numeral (isNumeral_finite negative m e)


theorem isPrintable_intText {n : Int} {cs : List Char} (h : intText n = .ok cs) :
    IsPrintable cs := by
  rw [(intText_eq_ok h).1]
  exact isPrintable_numeral (isNumeral_int n)

/-- What is written for the value is printable. -/
def WritesPrintable (lenient : Bool) (v : Value) : Prop :=
  ∀ cs, chars lenient v = .ok cs → IsPrintable cs

theorem moreItems_printable {lenient : Bool} {items : List Value}
    (hitems : ∀ v ∈ items, WritesPrintable lenient v) :
    ∀ cs, moreItemChars lenient items = .ok cs → IsPrintable cs := by
  induction items with
  | nil =>
    intro cs h
    cases h
    decide
  | cons v vs ih =>
    obtain ⟨hv, hvs⟩ := List.forall_mem_cons.mp hitems
    intro cs h
    rw [moreItemChars] at h
    obtain ⟨first, hfirst, h⟩ := bind_eq_ok_iff.mp h
    obtain ⟨more, hmore, h⟩ := bind_eq_ok_iff.mp h
    cases h
    exact isPrintable_cons (by decide) (isPrintable_cons (by decide)
      (isPrintable_append (hv _ hfirst) (ih hvs _ hmore)))

theorem items_printable {lenient : Bool} {items : List Value}
    (hitems : ∀ v ∈ items, WritesPrintable lenient v) :
    ∀ cs, itemChars lenient items = .ok cs → IsPrintable cs := by
  intro cs h
  cases items with
  | nil =>
    cases h
    decide
  | cons v vs =>
    obtain ⟨hv, hvs⟩ := List.forall_mem_cons.mp hitems
    rw [itemChars] at h
    obtain ⟨first, hfirst, h⟩ := bind_eq_ok_iff.mp h
    obtain ⟨more, hmore, h⟩ := bind_eq_ok_iff.mp h
    cases h
    exact isPrintable_append (hv _ hfirst) (moreItems_printable hvs _ hmore)

/-- A key and what belongs to it. -/
theorem member_printable {key value : List Char} (hvalue : IsPrintable value) :
    IsPrintable (textLiteral key ++ ':' :: ' ' :: value) :=
  isPrintable_append (isPrintable_textLiteral key)
    (isPrintable_cons (by decide) (isPrintable_cons (by decide) hvalue))

theorem moreEntries_printable {lenient : Bool} {entries : List (Value × Value)}
    (hentries : ∀ e ∈ entries, WritesPrintable lenient e.2) :
    ∀ cs, moreEntryChars lenient entries = .ok cs → IsPrintable cs := by
  induction entries with
  | nil =>
    intro cs h
    cases h
    decide
  | cons e es ih =>
    obtain ⟨hv, hes⟩ := List.forall_mem_cons.mp hentries
    intro cs h
    rw [moreEntryChars] at h
    obtain ⟨key, -, h⟩ := bind_eq_ok_iff.mp h
    obtain ⟨value, hvalue, h⟩ := bind_eq_ok_iff.mp h
    obtain ⟨more, hmore, h⟩ := bind_eq_ok_iff.mp h
    cases h
    exact isPrintable_cons (by decide) (isPrintable_cons (by decide)
      (isPrintable_append (member_printable (hv _ hvalue)) (ih hes _ hmore)))

theorem entries_printable {lenient : Bool} {entries : List (Value × Value)}
    (hentries : ∀ e ∈ entries, WritesPrintable lenient e.2) :
    ∀ cs, entryChars lenient entries = .ok cs → IsPrintable cs := by
  intro cs h
  cases entries with
  | nil =>
    cases h
    decide
  | cons e es =>
    obtain ⟨hv, hes⟩ := List.forall_mem_cons.mp hentries
    rw [entryChars] at h
    obtain ⟨key, -, h⟩ := bind_eq_ok_iff.mp h
    obtain ⟨value, hvalue, h⟩ := bind_eq_ok_iff.mp h
    obtain ⟨more, hmore, h⟩ := bind_eq_ok_iff.mp h
    cases h
    exact isPrintable_append (member_printable (hv _ hvalue)) (moreEntries_printable hes _ hmore)

/-- What stands between brackets. -/
theorem bracketed_printable {opening closing : Char} {inner : List Char}
    (hopening : 0x20 ≤ opening.toNat ∧ opening.toNat ≤ 0x7E)
    (hclosing : 0x20 ≤ closing.toNat ∧ closing.toNat ≤ 0x7E) (h : IsPrintable inner) :
    IsPrintable (opening :: inner ++ [closing]) :=
  isPrintable_append (isPrintable_cons hopening h)
    (isPrintable_cons hclosing (List.forall_mem_nil _))

theorem foreignText_printable {lenient : Bool} {v : Value} {cs : List Char}
    (h : foreignText lenient v = .ok cs) : IsPrintable cs := by
  unfold foreignText at h
  split at h
  · cases h
    exact isPrintable_textLiteral _
  · cases h

theorem writesPrintable (lenient : Bool) (v : Value) : WritesPrintable lenient v := by
  induction v using Value.induction with
  | null =>
    intro cs h
    cases h
    decide
  | bool b =>
    intro cs h
    cases h
    cases b <;> decide
  | int n => exact fun cs h => isPrintable_intText h
  | float x =>
    intro cs h
    cases h
    exact isPrintable_floatText x
  | text s =>
    intro cs h
    cases h
    exact isPrintable_textLiteral _
  | list items ih =>
    intro cs h
    rw [chars] at h
    obtain ⟨inner, hinner, h⟩ := bind_eq_ok_iff.mp h
    cases h
    exact bracketed_printable (by decide) (by decide) (items_printable ih _ hinner)
  | tuple items ih =>
    intro cs h
    rw [chars] at h
    obtain ⟨inner, hinner, h⟩ := bind_eq_ok_iff.mp h
    cases h
    exact bracketed_printable (by decide) (by decide) (items_printable ih _ hinner)
  | dict entries ih =>
    intro cs h
    rw [chars] at h
    obtain ⟨inner, hinner, h⟩ := bind_eq_ok_iff.mp h
    cases h
    exact bracketed_printable (by decide) (by decide) (entries_printable ih _ hinner)
  | knot values k =>
    intro cs h
    cases h
  | bytes octets => exact fun cs h => foreignText_printable h
  | instant t => exact fun cs h => foreignText_printable h
  | object o => exact fun cs h => foreignText_printable h
  | set items => exact fun cs h => foreignText_printable h

theorem isPrintable_of_write {v : Value} {text : String} (h : write v = .ok text) :
    IsPrintable text.toList := by
  obtain ⟨cs, hcs, h⟩ := bind_eq_ok_iff.mp h
  cases h
  rw [String.toList_ofList]
  exact writesPrintable false v cs hcs

/-! ## Printable texts are read -/

theorem IsPrintable.isAsciiText {cs : List Char} (h : IsPrintable cs) :
    Octets.IsAsciiText cs := by
  intro c hc
  have hc := h c hc
  omega

theorem IsPrintable.read_text {s : String} (h : IsPrintable s.toList) :
    read (.text s) = readChars s.toList := by
  rw [read, if_neg]
  intro hmark
  obtain ⟨-, hhigh⟩ := h '\ufeff' (List.mem_of_head? hmark)
  exact absurd hhigh (by decide)

theorem IsPrintable.read_octets {s : String} (h : IsPrintable s.toList) :
    read (.bytes (Octets.ofText s)) = readChars s.toList := by
  rw [read, readOctets, Octets.decodeDetected_ofText h.isAsciiText]

end PushRelay.Json
