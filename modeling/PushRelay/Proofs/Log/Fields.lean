import PushRelay.Proofs.Json.Shown
import PushRelay.Proofs.Log.Line

/-!
# Where the fields of a line come from

A name may come in from several sides: with the record, with the tags, with an
error and with the attributes that are reported. The line has one field for
each name, with the value that came in last, and what is read from the line is
what is read from that value.
-/

namespace PushRelay
namespace Log

/-! ## The sides that fields come from -/

/-- What a record reports under a name of its own accord. -/
def Record.carried? (r : Record) (name : String) : Option Value :=
  if name ∈ reportedAttributes then r.attributes.lookup name else none

theorem lookup_attributeFields (r : Record) (name : String) :
    (attributeFields r).lookup name = r.carried? name := by
  have hlookup : ∀ names : List String,
      (names.filterMap fun n => (r.attributes.lookup n).map (n, ·)).lookup name =
        if name ∈ names then r.attributes.lookup name else none := by
    intro names
    induction names with
    | nil => rfl
    | cons n names ih =>
      rw [List.filterMap_cons]
      by_cases hname : name = n
      · subst hname
        cases hattribute : r.attributes.lookup name with
        | none =>
          simp only [Option.map_none, ih, hattribute]
          split <;> simp
        | some v => simp
      · cases r.attributes.lookup n with
        | none => simp [ih, hname]
        | some v => simp [Bindings.lookup_cons, ih, hname]
  exact hlookup reportedAttributes

theorem distinct_attributeFields (r : Record) : DistinctNames (attributeFields r) :=
  (named_attributesInOrder r.attributes).distinct (by decide)

theorem named_troubleFields {reported : Reported} {trouble : Bindings}
    (h : troubleFields reported = .ok trouble) : Named ["exception"] trouble := by
  cases reported with
  | nothing =>
    cases h
    exact List.nil_sublist _
  | trouble t =>
    obtain ⟨report, -, h⟩ := bind_eq_ok_iff.mp h
    cases h
    exact .refl _
  | row v =>
    obtain ⟨first, -, h⟩ := bind_eq_ok_iff.mp h
    cases h

section

variable (service withCaller : Value) (now : Instant) (r : Record) (message : String)

theorem named_openingFields :
    Named headNames (openingFields service withCaller now r message) := by
  unfold Named openingFields headNames coreFields callerFields
  split <;> simp

variable {trouble : Bindings}

theorem lookup_lineFields (tags : Tags) (htrouble : Named ["exception"] trouble) (name : String) :
    (lineFields service withCaller now tags r message trouble).lookup name =
      (r.carried? name).or ((trouble.lookup name).or ((tags.fields.lookup name).or
        ((openingFields service withCaller now r message).lookup name))) := by
  rw [lineFields_eq, Bindings.lookup_update (distinct_attributeFields r),
    Bindings.lookup_update (htrouble.distinct (by decide)), Bindings.lookup_update tags.distinct_fields,
    lookup_attributeFields]

theorem distinct_lineFields (tags : Tags) (trouble : Bindings) :
    DistinctNames (lineFields service withCaller now tags r message trouble) := by
  have hopening : DistinctNames (openingFields service withCaller now r message) :=
    (named_openingFields service withCaller now r message).distinct (by decide)
  rw [lineFields_eq]
  exact Bindings.distinct_update (Bindings.distinct_update (Bindings.distinct_update hopening _) _) _

end

end Log
end PushRelay
