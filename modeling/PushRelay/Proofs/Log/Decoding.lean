import PushRelay.Proofs.Log.Fields

/-!
# Reading structured lines

Whatever a structured line is made of, it is a single line of printable
characters, and an object is read from it that has a member for each of the
fields, with what is read from the text of the value there. There is such a
line for every record and all tags whose values can be shown.
-/

namespace PushRelay
namespace Log

open Json (HasText IsPrintable Plain ReadsAs Showable)

variable {service withCaller : Value} {now : Instant} {tags : Tags} {r : Record}
  {message line : String}

/-! ## What is read from a line -/

/-- A line of printable characters, from which an object is read. -/
structure Decodes (line : String) (read : Bindings) : Prop where
  printable : IsPrintable line.toList
  object : Json.read (.text line) = .ok read.toValue
  distinct : DistinctNames read

/-- Under each name is read what was written for the value that came in last:
with the record, or else with the error, or else with the tags. -/
theorem decodes_of_structuredLine (h : structuredLine service withCaller now tags r = .ok line) :
    ∃ message trouble read, messageOf r = .ok message ∧
      (do troubleFields (← reported r)) = .ok trouble ∧ Decodes line read ∧
      ∀ name v, (r.carried? name).or ((trouble.lookup name).or ((tags.fields.lookup name).or
          ((openingFields service withCaller now r message).lookup name))) = some v →
        ∃ w, read.lookup name = some w ∧ ReadsAs v w := by
  obtain ⟨message, trouble, hmessage, htrouble, hline⟩ := structuredLine_eq_ok_iff.mp h
  have hdistinct := distinct_lineFields service withCaller now r message tags trouble
  have hprintable := Json.isPrintable_of_writeLenient hline
  obtain ⟨read, hread, hnames, hvalues⟩ := Json.readChars_record hdistinct hline
  refine ⟨message, trouble, read, hmessage, htrouble, ⟨hprintable, ?_, ?_⟩, fun name v hv => ?_⟩
  · rw [hprintable.read_text, hread]
    rfl
  · rw [DistinctNames, hnames]
    exact hdistinct
  · obtain ⟨_, -, hfields⟩ := bind_eq_ok_iff.mp htrouble
    refine hvalues name v ?_
    rw [lookup_lineFields _ _ _ _ _ _ (named_troubleFields hfields), hv]

/-! ## Lines that can be written -/

/-- Whatever a record puts into a line by itself can be shown. -/
structure Record.Shows (r : Record) : Prop where
  function : Showable r.function
  line : Showable r.line
  attributes : ∀ f ∈ attributeFields r, Showable f.2

theorem shows_recordOf {site : Site} {level : Level} {attributes : Bindings}
    (h : ∀ f ∈ attributes, Showable f.2) : (recordOf site level message attributes).Shows where
  function := .text site.function
  line := .int site.line_short
  attributes f hf := by
    obtain ⟨name, -, hf⟩ := List.mem_filterMap.mp hf
    obtain ⟨v, hv, rfl⟩ := Option.map_eq_some_iff.mp hf
    exact h (name, v) (mem_of_lookup hv)

theorem showable_openingFields (h : r.OfMessage message) (hshows : r.Shows)
    (hservice : Showable service) :
    ∀ f ∈ openingFields service withCaller now r message, Showable f.2 := by
  rw [h.openingFields_eq]
  split <;> simp [Showable.text, hservice, hshows.function, hshows.line]

theorem exists_structuredLine (h : r.OfMessage message) (hshows : r.Shows)
    (hservice : Showable service) (htags : ∀ f ∈ tags.fields, Showable f.2) (withCaller : Value)
    (now : Instant) : ∃ line, structuredLine service withCaller now tags r = .ok line := by
  have hfields : ∀ f ∈ lineFields service withCaller now tags r message [], Showable f.2 := by
    rw [lineFields_eq]
    refine Bindings.forall_mem_update (Bindings.forall_mem_update ?_ (List.forall_mem_nil _))
      hshows.attributes
    exact Bindings.forall_mem_update (showable_openingFields h hshows hservice) htags
  obtain ⟨cs, hcs⟩ := (Json.writes_record_iff _).mpr fun f hf => (hfields f hf).writes
  refine ⟨String.ofList cs, structuredLine_eq_ok_iff.mpr ⟨message, [], h.messageOf, ?_, ?_⟩⟩
  · rw [h.reported]
    rfl
  · rw [Json.writeLenient, hcs]
    rfl

/-- A line is written for every record of a message, however its text breaks
lines or quotes, and whatever the tags are that can be shown. What is plain is
found in the line again as it is, the tags under every name that the record
does not report itself. -/
theorem format_structured_decodes (h : r.OfMessage message) (hshows : r.Shows)
    (htags : ∀ f ∈ tags.fields, Showable f.2) (service : String) (withCaller : Value)
    (now : Instant) :
    ∃ line read, (Formatter.structured (.text service) withCaller).format now tags r = .ok line ∧
      Decodes line read ∧
      (∀ key v, r.carried? key = none → tags.fields.lookup key = some v → Plain v →
        read.lookup key = some v) ∧
      ∀ key v, r.carried? key = some v →
        ∃ w, read.lookup key = some w ∧ ReadsAs v w ∧ (Plain v → w = v) := by
  obtain ⟨line, hline⟩ := exists_structuredLine h hshows (.text service) htags withCaller now
  obtain ⟨message', trouble, read, -, htrouble, hdecodes, hread⟩ := decodes_of_structuredLine hline
  obtain rfl : trouble = [] := by
    rw [h.reported] at htrouble
    cases htrouble
    rfl
  refine ⟨line, read, hline, hdecodes, fun key v hcarried htag hplain => ?_,
    fun key v hcarried => ?_⟩
  · obtain ⟨w, hw, hreads⟩ := hread key v (by rw [hcarried, htag]; rfl)
    rw [hw, hreads.unique hplain.readsAs]
  · obtain ⟨w, hw, hreads⟩ := hread key v (by rw [hcarried]; rfl)
    exact ⟨w, hw, hreads, fun hplain => hreads.unique hplain.readsAs⟩

/-- A record whose message breaks the line, and that reports a status of its
own. -/
def brokenRecord : Record where
  logger := "a\"b\n"
  rank := 20
  line := .int 42
  template := .text "first\nsecond \\ 100%"
  attributes := [("status_code", .int 503)]

/-- Tags of which some have no form of their own in JSON, and one has the name
of the record's status. -/
def mixedTags : Tags where
  batchId := .text "b1"
  bindings := [
    ("target", .text "\r\n\"\u2028"), ("status_code", .int 1),
    ("nested", .record [("items", .list [.null, .int (-7), .record [("", .bool true)]])]),
    ("odd", .dict [(.float (.finite false 3 (-1)), .bytes [0, 10]), (.null, .set [.object {}])]),
    ("at", .instant ⟨2024, 2, 29, 23, 59, 59, 0, none⟩)]

/-- Under the odd tags and with the broken message the line holds what is plain. -/
theorem brokenRecord_decodes :
    brokenRecord.OfMessage "first\nsecond \\ 100%" ∧ brokenRecord.Shows ∧
    (∀ f ∈ mixedTags.fields, Showable f.2) ∧
    ∃ line read,
      (Formatter.structured (.text "relay\n") (.bool true)).format ⟨2024, 3, 1, 0, 0, 0, 0, some 0⟩
        mixedTags brokenRecord = .ok line ∧
      Decodes line read ∧ read.lookup "target" = some (.text "\r\n\"\u2028") ∧
      read.lookup "nested" =
        some (.record [("items", .list [.null, .int (-7), .record [("", .bool true)]])]) ∧
      read.lookup "status_code" = some (.int 503) := by
  have hint : ∀ n : Int, n.natAbs < 10 ^ 3 → n.natAbs < 10 ^ Numeral.maxDigits := fun n h =>
    Nat.lt_of_lt_of_le h (Nat.pow_le_pow_right (by decide) (by decide))
  have hmessage : brokenRecord.OfMessage "first\nsecond \\ 100%" := ⟨rfl, rfl, rfl, by decide⟩
  have hshows : brokenRecord.Shows :=
    ⟨.null, .int (hint 42 (by decide)), List.forall_mem_singleton.mpr (.int (hint 503 (by decide)))⟩
  have hnested : Plain (.record [("items", .list [.null, .int (-7), .record [("", .bool true)]])]) := by
    have hmember : Plain (.record [("", .bool true)]) :=
      .record (by simp) (List.forall_mem_singleton.mpr (.bool true))
    refine .record (by simp) (List.forall_mem_singleton.mpr (.list ?_))
    simp [Plain.null, Plain.int (hint (-7) (by decide)), hmember]
  have hodd : Showable
      (.dict [(.float (.finite false 3 (-1)), .bytes [0, 10]), (.null, .set [.object {}])]) := by
    refine .dict ?_ ?_
    · simp [Json.WritableKey.float, Json.WritableKey.null]
    · simp [Showable.bytes, Showable.set, Showable.object]
  have htags : ∀ f ∈ mixedTags.fields, Showable f.2 := by
    have hfields : mixedTags.fields = ("batch_id", .text "b1") :: mixedTags.bindings := rfl
    have hnested := (Json.writable_of_hasText _ hnested.hasText).showable
    rw [hfields]
    simp [mixedTags, Showable.text, Showable.int (hint 1 (by decide)), hnested, hodd,
      Showable.instant]
  obtain ⟨line, read, hline, hdecodes, hplain, hcarried⟩ :=
    format_structured_decodes hmessage hshows htags "relay\n" (.bool true)
      ⟨2024, 3, 1, 0, 0, 0, 0, some 0⟩
  refine ⟨hmessage, hshows, htags, line, read, hline, hdecodes, ?_, ?_, ?_⟩
  · exact hplain "target" _ rfl rfl (.text _)
  · exact hplain "nested" _ rfl rfl hnested
  · obtain ⟨w, hw, -, hsame⟩ := hcarried "status_code" (.int 503) rfl
    rw [hw, hsame (.int (hint 503 (by decide)))]

/-- A record that reports a list which holds itself leaves no line. -/
theorem not_every_record_has_line :
    ¬ ∀ (r : Record) (message : String) (tags : Tags) (service : String) (withCaller : Value)
      (now : Instant), r.OfMessage message → (∀ f ∈ tags.fields, Showable f.2) →
      ∃ line, (Formatter.structured (.text service) withCaller).format now tags r = .ok line := by
  intro h
  let r : Record := { brokenRecord with attributes := [("status_code", .selfList)] }
  have hmessage : r.OfMessage "first\nsecond \\ 100%" := ⟨rfl, rfl, rfl, by decide⟩
  obtain ⟨line, hline⟩ := h _ _ {} "relay" (.bool true) (.ofMicros 0) hmessage
    (List.forall_mem_nil _)
  cases hline

end Log
end PushRelay
