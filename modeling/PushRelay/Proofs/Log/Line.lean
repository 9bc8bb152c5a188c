import PushRelay.Log.Setup
import PushRelay.Proofs.Json.Lenient
import PushRelay.Proofs.Message.RoundTrip
import PushRelay.Proofs.Scope.Bindings

/-!
# Structured lines

A structured line has one field for each name: those that every line begins
with, the tags, and what the record reports. As long as no name comes in twice,
nothing replaces anything, and a line of plain values is read back as the
fields that it was made of.
-/

namespace PushRelay
namespace Log

open Json (Plain)

/-! ## Records of a message -/

/-- What a record is by itself, by the names under which something else could
be set in its place. -/
def ownAttributes : List String :=
  ["msg", "args", "getMessage", "exc_info", "levelname", "name", "module", "funcName", "lineno"]

/-- A record of a message that is taken as it is, without an error, and with
nothing set in the place of what it is by itself. -/
structure Record.OfMessage (r : Record) (message : String) : Prop where
  template : r.template = .text message
  args : r.args = []
  trouble : r.trouble = none
  unset : ∀ name ∈ ownAttributes, r.attributes.lookup name = none

namespace Record.OfMessage

variable {r : Record} {message : String}

theorem valueOf (h : r.OfMessage message) {name : String} (hname : name ∈ ownAttributes)
    (own : Value) : r.valueOf name own = own := by
  rw [Record.valueOf, h.unset name hname]
  rfl

theorem messageOf (h : r.OfMessage message) : Log.messageOf r = .ok message := by
  have hmessage : r.message = .ok message := by
    unfold Record.message Record.supply
    rw [h.valueOf (by decide), h.valueOf (by decide), h.template, h.args]
    rfl
  simp only [Log.messageOf, h.unset "getMessage" (by decide), hmessage]

theorem reported (h : r.OfMessage message) : Log.reported r = .ok .nothing := by
  simp only [Log.reported, h.unset "exc_info" (by decide), h.trouble]

end Record.OfMessage

/-- Every attribute is one that lines report. -/
def OnlyReported (attributes : Bindings) : Prop := ∀ f ∈ attributes, f.1 ∈ reportedAttributes

section

variable {site : Site} {message : String} {level : Level} {attributes : Bindings}

theorem lookup_of_reported (h : OnlyReported attributes) {name : String}
    (hname : name ∉ reportedAttributes) : attributes.lookup name = none := by
  refine Bindings.lookup_of_fresh fun hmem => ?_
  obtain ⟨f, hf, rfl⟩ := List.mem_map.mp hmem
  exact hname (h f hf)

theorem ofMessage_recordOf (h : OnlyReported attributes) :
    (recordOf site level message attributes).OfMessage message where
  template := rfl
  args := rfl
  trouble := rfl
  unset name hname := by
    have hapart : ∀ name ∈ ownAttributes, name ∉ reportedAttributes := by decide
    exact lookup_of_reported h (hapart name hname)

theorem Site.line_short (site : Site) : (site.line : Int).natAbs < 10 ^ Numeral.maxDigits := by
  have hshort : site.line < 2 ^ 31 := site.short
  have hlimit : 2 ^ 31 < 10 ^ 10 := by decide
  exact Json.short_of_lt_pow (by omega : (site.line : Int).natAbs < 10 ^ 10) (by decide)

@[simp] theorem rankText_rank (level : Level) : rankText level.rank = level.text := by
  cases level <;> rfl

end

/-! ## The fields of a line -/

/-- The fields that a line begins with. -/
def openingFields (service withCaller : Value) (now : Instant) (r : Record) (message : String) :
    Bindings :=
  coreFields now service r message ++ if withCaller.truthy then callerFields r else []

theorem Record.OfMessage.openingFields_eq {r : Record} {message : String}
    (h : r.OfMessage message) (service withCaller : Value) (now : Instant) :
    openingFields service withCaller now r message =
      [("timestamp", .text now.isoText), ("level", .text (rankText r.rank)),
        ("logger", .text r.logger), ("message", .text message), ("service", service)] ++
      if withCaller.truthy then
        [("module", .text r.module), ("function", r.function), ("line", r.line)]
      else [] := by
  simp only [openingFields, coreFields, callerFields, Record.levelName, Record.loggerName,
    h.valueOf (show "levelname" ∈ ownAttributes by decide),
    h.valueOf (show "name" ∈ ownAttributes by decide),
    h.valueOf (show "module" ∈ ownAttributes by decide),
    h.valueOf (show "funcName" ∈ ownAttributes by decide),
    h.valueOf (show "lineno" ∈ ownAttributes by decide)]

/-- What comes in later replaces what is there already. -/
theorem lineFields_eq (service withCaller : Value) (now : Instant) (tags : Tags) (r : Record)
    (message : String) (trouble : Bindings) :
    lineFields service withCaller now tags r message trouble =
      (((openingFields service withCaller now r message).update tags.fields).update trouble).update
        (attributeFields r) := by
  unfold lineFields openingFields
  split <;> simp

/-- The fields that tell where the record of a message was logged. -/
def siteFields (site : Site) : Bindings :=
  [("module", .text (moduleOf site.path)), ("function", .text site.function),
    ("line", .int site.line)]

/-- The fields that a line for the record of a message begins with. -/
def headFields (service withCaller : Value) (now : Instant) (site : Site) (level : Level)
    (message : String) : Bindings :=
  [("timestamp", .text now.isoText), ("level", .text level.text), ("logger", .text site.logger),
    ("message", .text message), ("service", service)] ++
  if withCaller.truthy then siteFields site else []

/-- The names of those fields. -/
def headNames : List String :=
  ["timestamp", "level", "logger", "message", "service", "module", "function", "line"]

/-- The fields that attributes make, in the order in which they are written. -/
def attributesInOrder (attributes : Bindings) : Bindings :=
  reportedAttributes.filterMap fun name => (attributes.lookup name).map (name, ·)

theorem named_headFields (service withCaller : Value) (now : Instant) (site : Site)
    (level : Level) (message : String) :
    Named headNames (headFields service withCaller now site level message) := by
  unfold Named headFields headNames siteFields
  split <;> simp

theorem lookup_headFields {name : String} (h : name ∉ headNames) (service withCaller : Value)
    (now : Instant) (site : Site) (level : Level) (message : String) :
    (headFields service withCaller now site level message).lookup name = none :=
  Bindings.lookup_of_named (named_headFields ..) h

theorem named_attributesInOrder (attributes : Bindings) :
    Named reportedAttributes (attributesInOrder attributes) := by
  have hsublist : ∀ names : List String,
      Named names (names.filterMap fun name => (attributes.lookup name).map (name, ·)) := by
    intro names
    induction names with
    | nil => exact .refl _
    | cons name names ih =>
      rw [List.filterMap_cons]
      cases attributes.lookup name with
      | none => exact ih.cons name
      | some v => exact ih.cons_cons name
  exact hsublist _

variable {service withCaller : Value} {now : Instant} {tags : Tags} {site : Site} {message : String}
  {level : Level} {attributes : Bindings}

/-- All the fields of a line. -/
def fieldsOf (service withCaller : Value) (now : Instant) (tags : Tags) (site : Site)
    (level : Level) (message : String) (attributes : Bindings) : Bindings :=
  headFields service withCaller now site level message ++ tags.fields ++
    attributesInOrder attributes

/-- Tags whose names no other field has. -/
def TagsApart (tags : Tags) : Prop :=
  ∃ names, Named names tags.fields ∧ (headNames ++ names ++ reportedAttributes).Nodup

theorem distinct_fieldsOf (service withCaller : Value) (now : Instant) (site : Site)
    (level : Level) (message : String) (attributes : Bindings) (htags : TagsApart tags) :
    DistinctNames (fieldsOf service withCaller now tags site level message attributes) := by
  obtain ⟨names, hnames, hnodup⟩ := htags
  exact (((named_headFields ..).append hnames).append (named_attributesInOrder attributes)).distinct
    hnodup

theorem openingFields_recordOf (h : OnlyReported attributes) :
    openingFields service withCaller now (recordOf site level message attributes) message =
      headFields service withCaller now site level message := by
  have hrank : (recordOf site level message attributes).rank = level.rank := rfl
  rw [(ofMessage_recordOf h).openingFields_eq, hrank, rankText_rank]
  rfl

theorem lineFields_recordOf (h : OnlyReported attributes) (htags : TagsApart tags) :
    lineFields service withCaller now tags (recordOf site level message attributes) message [] =
      fieldsOf service withCaller now tags site level message attributes := by
  have hdistinct := distinct_fieldsOf service withCaller now site level message attributes htags
  have hfirst : DistinctNames
      (headFields service withCaller now site level message ++ tags.fields) := by
    have hfront := List.sublist_append_left
      (headFields service withCaller now site level message ++ tags.fields)
      (attributesInOrder attributes)
    exact hdistinct.sublist (hfront.map (·.1))
  rw [lineFields_eq, openingFields_recordOf h, Bindings.update_of_fresh hfirst]
  exact Bindings.update_of_fresh hdistinct

theorem ofMisuse_eq_ok_iff {α : Type} {x : Except Misuse α} {a : α} :
    LineError.ofMisuse x = .ok a ↔ x = .ok a := by
  cases x <;> simp [LineError.ofMisuse]

/-- A line is written of the fields that the message, the error and the tags
make. -/
theorem structuredLine_eq_ok_iff {r : Record} {line : String} :
    structuredLine service withCaller now tags r = .ok line ↔
      ∃ message trouble, messageOf r = .ok message ∧
        (do troubleFields (← reported r)) = .ok trouble ∧
        Json.writeLenient (.record (lineFields service withCaller now tags r message trouble)) =
          .ok line := by
  constructor
  · intro h
    obtain ⟨message, hmessage, h⟩ := bind_eq_ok_iff.mp h
    obtain ⟨trouble, htrouble, h⟩ := bind_eq_ok_iff.mp h
    refine ⟨message, trouble, hmessage, ofMisuse_eq_ok_iff.mp htrouble, ?_⟩
    split at h
    · rename_i hline
      cases h
      exact hline
    · cases h
  · rintro ⟨message, trouble, hmessage, htrouble, hline⟩
    refine bind_eq_ok_iff.mpr ⟨message, hmessage,
      bind_eq_ok_iff.mpr ⟨trouble, ofMisuse_eq_ok_iff.mpr htrouble, ?_⟩⟩
    rw [Bindings.toValue, hline]

/-! ## Lines of plain values -/

/-- What a line has under a name, if it is the JSON text of an object. -/
def field? (line name : String) : Option Value :=
  match Json.readChars line.toList with
  | .ok v => v.at? [name]
  | .error _ => none

/-- The line is the one for some fields, and is read back as them. -/
structure IsLine (fields : Bindings) (line : String) : Prop where
  written : Json.writeLenient (.record fields) = .ok line
  read : Json.readChars line.toList = .ok (.record fields)

theorem IsLine.field?_eq {fields : Bindings} {line : String} (h : IsLine fields line)
    (name : String) : field? line name = fields.lookup name := by
  rw [field?, h.read]
  dsimp only
  rw [Value.at?_record]
  cases fields.lookup name <;> rfl

/-- Whether the line is a warning. -/
def isWarning (line : String) : Bool :=
  match field? line "level" with
  | some (.text text) => text == Level.warning.text
  | _ => false

theorem IsLine.message_eq {line : String}
    (h : IsLine (fieldsOf service withCaller now tags site level message attributes) line) :
    field? line "message" = some (.text message) := by
  rw [h.field?_eq]
  simp [fieldsOf, headFields, List.lookup_cons]

theorem IsLine.level_eq {line : String}
    (h : IsLine (fieldsOf service withCaller now tags site level message attributes) line) :
    field? line "level" = some (.text level.text) := by
  rw [h.field?_eq]
  simp [fieldsOf, headFields, List.lookup_cons]

theorem IsLine.isWarning_iff {line : String}
    (h : IsLine (fieldsOf service withCaller now tags site level message attributes) line) :
    isWarning line = true ↔ level = .warning := by
  rw [isWarning, h.level_eq]
  cases level <;> decide

/-- A line of plain values is written. -/
theorem structuredLine_of_plain (withCaller : Value) (now : Instant) (site : Site)
    (level : Level) (message : String) (h : OnlyReported attributes) (htags : TagsApart tags)
    (hservice : Plain service) (hplainTags : ∀ f ∈ tags.fields, Plain f.2)
    (hplain : ∀ f ∈ attributes, Plain f.2) :
    ∃ line, structuredLine service withCaller now tags
        (recordOf site level message attributes) = .ok line ∧
      IsLine (fieldsOf service withCaller now tags site level message attributes) line := by
  have hhead : ∀ f ∈ headFields service withCaller now site level message, Plain f.2 := by
    unfold headFields siteFields
    split <;> simp [Plain.text, Plain.int site.line_short, hservice]
  have hattributes : ∀ f ∈ attributesInOrder attributes, Plain f.2 := by
    intro f hf
    obtain ⟨name, -, hf⟩ := List.mem_filterMap.mp hf
    obtain ⟨v, hv, rfl⟩ := Option.map_eq_some_iff.mp hf
    exact hplain (name, v) (mem_of_lookup hv)
  have hfields : Plain
      (.record (fieldsOf service withCaller now tags site level message attributes)) := by
    refine .record (distinct_fieldsOf _ _ _ _ _ _ _ htags) ?_
    simp only [fieldsOf, List.forall_mem_append]
    exact ⟨⟨hhead, hplainTags⟩, hattributes⟩
  obtain ⟨line, hline, hread⟩ := hfields.readChars_of_writeLenient
  have hmessage : (recordOf site level message attributes).OfMessage message :=
    ofMessage_recordOf h
  refine ⟨line, structuredLine_eq_ok_iff.mpr ⟨message, [], hmessage.messageOf, ?_, ?_⟩, hline,
    hread⟩
  · rw [hmessage.reported]
    rfl
  · rw [lineFields_recordOf h htags, hline]

/-- What is written of a record is its structured line, unless the logger holds
it back. -/
theorem line?_structured {setup : Setup}
    (hformat : setup.formatter = .structured service withCaller) (now : Instant) (tags : Tags) (r : Record) :
    setup.line? now tags r =
      if setup.enabled r.logger r.rank then
        (structuredLine service withCaller now tags r).toOption
      else none := by
  rw [Setup.line?, hformat]
  rfl

end Log
end PushRelay
