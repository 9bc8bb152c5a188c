import PushRelay.Proofs.Json.RoundTrip

/-!
# Writing leniently

Lenient writing differs from strict writing only in what it writes for values
that JSON has no form for. So whatever strict writing gives, lenient writing
gives too, and plain values can be read back from it.
-/

namespace PushRelay.Json

/-- What is written strictly is written leniently. -/
def WritesAlike (v : Value) : Prop := ∀ cs, chars false v = .ok cs → chars true v = .ok cs

theorem moreItems_alike {items : List Value} (hitems : ∀ v ∈ items, WritesAlike v)
    {cs : List Char} (h : moreItemChars false items = .ok cs) :
    moreItemChars true items = .ok cs := by
  induction items generalizing cs with
  | nil => exact h
  | cons v vs ih =>
    obtain ⟨hv, hvs⟩ := List.forall_mem_cons.mp hitems
    obtain ⟨first, hfirst, h⟩ := bind_eq_ok_iff.mp h
    obtain ⟨rest, hrest, h⟩ := bind_eq_ok_iff.mp h
    rw [moreItemChars, hv first hfirst, ih hvs hrest]
    exact h

theorem items_alike {items : List Value} (hitems : ∀ v ∈ items, WritesAlike v)
    {cs : List Char} (h : itemChars false items = .ok cs) : itemChars true items = .ok cs := by
  cases items with
  | nil => exact h
  | cons v vs =>
    obtain ⟨hv, hvs⟩ := List.forall_mem_cons.mp hitems
    obtain ⟨first, hfirst, h⟩ := bind_eq_ok_iff.mp h
    obtain ⟨rest, hrest, h⟩ := bind_eq_ok_iff.mp h
    rw [itemChars, hv first hfirst, moreItems_alike hvs hrest]
    exact h

theorem moreEntries_alike {entries : Entries} (hentries : ∀ e ∈ entries, WritesAlike e.2)
    {cs : List Char} (h : moreEntryChars false entries = .ok cs) :
    moreEntryChars true entries = .ok cs := by
  induction entries generalizing cs with
  | nil => exact h
  | cons e es ih =>
    obtain ⟨k, v⟩ := e
    obtain ⟨hv, hes⟩ := List.forall_mem_cons.mp hentries
    obtain ⟨key, hkey, h⟩ := bind_eq_ok_iff.mp h
    obtain ⟨value, hvalue, h⟩ := bind_eq_ok_iff.mp h
    obtain ⟨rest, hrest, h⟩ := bind_eq_ok_iff.mp h
    rw [moreEntryChars, hkey, hv value hvalue, ih hes hrest]
    exact h

theorem entries_alike {entries : Entries} (hentries : ∀ e ∈ entries, WritesAlike e.2)
    {cs : List Char} (h : entryChars false entries = .ok cs) :
    entryChars true entries = .ok cs := by
  cases entries with
  | nil => exact h
  | cons e es =>
    obtain ⟨k, v⟩ := e
    obtain ⟨hv, hes⟩ := List.forall_mem_cons.mp hentries
    obtain ⟨key, hkey, h⟩ := bind_eq_ok_iff.mp h
    obtain ⟨value, hvalue, h⟩ := bind_eq_ok_iff.mp h
    obtain ⟨rest, hrest, h⟩ := bind_eq_ok_iff.mp h
    rw [entryChars, hkey, hv value hvalue, moreEntries_alike hes hrest]
    exact h

/-- By induction on the value; only values without a form are written in
different ways, and strictly not at all. -/
theorem writesAlike (v : Value) : WritesAlike v := by
  induction v using Value.induction with
  | null | bool | int | float | text => exact fun cs h => h
  | list items ih =>
    intro cs h
    rw [chars] at h ⊢
    obtain ⟨inner, hinner, h⟩ := bind_eq_ok_iff.mp h
    rw [items_alike ih hinner]
    exact h
  | tuple items ih =>
    intro cs h
    rw [chars] at h ⊢
    obtain ⟨inner, hinner, h⟩ := bind_eq_ok_iff.mp h
    rw [items_alike ih hinner]
    exact h
  | dict entries ih =>
    intro cs h
    rw [chars] at h ⊢
    obtain ⟨inner, hinner, h⟩ := bind_eq_ok_iff.mp h
    rw [entries_alike ih hinner]
    exact h
  | bytes | instant | object | set | knot =>
    intro cs h
    cases h

theorem writeLenient_of_write {v : Value} {text : String} (h : write v = .ok text) :
    writeLenient v = .ok text := by
  obtain ⟨cs, hcs, h⟩ := bind_eq_ok_iff.mp h
  rw [writeLenient, writesAlike v cs hcs]
  exact h

/-- A plain value is written leniently, and read back from its text. -/
theorem Plain.readChars_of_writeLenient {v : Value} (h : Plain v) :
    ∃ text, writeLenient v = .ok text ∧ readChars text.toList = .ok v := by
  obtain ⟨text, htext⟩ := h.hasText
  exact ⟨text, writeLenient_of_write htext, h.readChars_of_write htext⟩

end PushRelay.Json
