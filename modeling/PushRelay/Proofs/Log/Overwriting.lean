import PushRelay.Proofs.Log.Decoding
import PushRelay.Proofs.Scope.Bound

/-!
# Tags that overwrite

Tags may have any name, and those that have the name of a field that every
line begins with take its place. Such a field is kept just in case nothing else
is bound under its name, and for certain if nothing ever was.
-/

namespace PushRelay
namespace Log

open Json (HasText Plain ReadsAs Showable)
open Thread (Run acts origin)

variable {withCaller : Value} {now : Instant} {tags : Tags} {r : Record} {message line : String}

/-- The names of the fields that tell what was logged, by whom, when and how
urgently. -/
def coreNames : List String := ["timestamp", "level", "logger", "message", "service"]

theorem name_mem_coreNames {service : Value} {f : String × Value}
    (hf : f ∈ coreFields now service r message) : f.1 ∈ coreNames :=
  List.mem_map_of_mem (f := (·.1)) hf

theorem coreField_isText {service level logger : String} (hlevel : r.levelName = .text level)
    (hlogger : r.loggerName = .text logger) {f : String × Value}
    (hf : f ∈ coreFields now (.text service) r message) : ∃ s, f.2 = .text s := by
  rw [coreFields, hlevel, hlogger] at hf
  revert f
  simp

/-- What comes in under the name of a core field is a tag, or else the field
itself. -/
theorem incoming_coreField {service : Value} {trouble : Bindings}
    (htrouble : Named ["exception"] trouble) {f : String × Value}
    (hf : f ∈ coreFields now service r message) :
    (r.carried? f.1).or ((trouble.lookup f.1).or ((tags.fields.lookup f.1).or
      ((openingFields service withCaller now r message).lookup f.1))) =
        some ((tags.fields.lookup f.1).getD f.2) := by
  have hapart : ∀ name ∈ coreNames, name ∉ reportedAttributes ∧ name ∉ ["exception"] := by decide
  obtain ⟨hreported, hexception⟩ := hapart f.1 (name_mem_coreNames hf)
  have hcarried : r.carried? f.1 = none := if_neg hreported
  have hopening : (openingFields service withCaller now r message).lookup f.1 = some f.2 :=
    Bindings.lookup_of_mem ((named_openingFields ..).distinct (by decide))
      (List.mem_append_left _ hf)
  rw [hcarried, Bindings.lookup_of_named htrouble hexception, hopening]
  cases tags.fields.lookup f.1 <;> rfl

/-- What is read is the text itself just in case it is what came in. -/
theorem lookup_text_iff {read : Bindings} {name s : String} {tag : Option Value} {w : Value}
    (htag : ∀ v, tag = some v → HasText v) (hw : read.lookup name = some w)
    (hreads : ReadsAs (tag.getD (.text s)) w) :
    read.lookup name = some (.text s) ↔ ∀ v, tag = some v → v = .text s := by
  have hsame : w = .text s ↔ ReadsAs (tag.getD (.text s)) (.text s) :=
    ⟨fun h => h ▸ hreads, hreads.unique⟩
  have htext : HasText (tag.getD (.text s)) := by
    cases tag with
    | none => exact Json.hasText_text s
    | some v => exact htag v rfl
  rw [hw, Option.some_inj, hsame, Json.readsAs_text_iff htext]
  cases tag <;> simp

/-- A line begins with what was logged, by whom, when and how urgently, unless
something else is bound under one of these names; and nothing is unless the
thread has bound it. -/
theorem coreFields_kept_iff {history : List Thread.Step} {t : Thread} (hrun : Run history t)
    (hfresh : (origin history t).tagging.tags = {})
    (hvalues : ∀ a ∈ acts history, ∀ f ∈ a.bindings, HasText f.2)
    {service level logger : String} (hlevel : r.levelName = .text level)
    (hlogger : r.loggerName = .text logger)
    (hline : (Formatter.structured (.text service) withCaller).format now t.tagging.tags r =
      .ok line) :
    ∃ message read, messageOf r = .ok message ∧ Decodes line read ∧
      ∀ f ∈ coreFields now (.text service) r message,
        (read.lookup f.1 = some f.2 ↔ ∀ v, t.tagging.tags.fields.lookup f.1 = some v → v = f.2) ∧
        ((∀ a ∈ acts history, ∀ g ∈ a.bindings, g.1 ≠ f.1) → read.lookup f.1 = some f.2) := by
  obtain ⟨message, trouble, read, hmessage, htrouble, hdecodes, hread⟩ :=
    decodes_of_structuredLine hline
  obtain ⟨_, -, htrouble⟩ := bind_eq_ok_iff.mp htrouble
  refine ⟨message, read, hmessage, hdecodes, fun f hf => ?_⟩
  have hbatch : f.1 ≠ "batch_id" := by
    have hapart : ∀ name ∈ coreNames, name ≠ "batch_id" := by decide
    exact hapart f.1 (name_mem_coreNames hf)
  have hkept : read.lookup f.1 = some f.2 ↔
      ∀ v, t.tagging.tags.fields.lookup f.1 = some v → v = f.2 := by
    obtain ⟨s, hs⟩ := coreField_isText hlevel hlogger hf
    obtain ⟨w, hw, hreads⟩ := hread f.1 _ (incoming_coreField (named_troubleFields htrouble) hf)
    rw [hs] at hreads ⊢
    exact lookup_text_iff (fun v hv => hrun.bound_of_lookup hfresh hvalues hbatch hv) hw hreads
  refine ⟨hkept, fun hnever => hkept.mpr fun v hv => ?_⟩
  have hne := hrun.bound_of_lookup (P := fun g => g.1 ≠ f.1) hfresh hnever hbatch hv
  exact absurd rfl hne

/-- A record of a short message. -/
def plainRecord : Record :=
  recordOf { logger := "test", path := "test", function := "test", line := 42 } .info "hello" []

theorem plainRecord_ofMessage : plainRecord.OfMessage "hello" := ofMessage_recordOf nofun

theorem exists_line_of_plainRecord (h : ∀ f ∈ tags.fields, Showable f.2) :
    ∃ line, (Formatter.structured (.text "fcm-relay") (.bool true)).format (.ofMicros 0) tags
      plainRecord = .ok line :=
  exists_structuredLine plainRecord_ofMessage (shows_recordOf nofun) (.text _) h _ _

/-- A scope that is entered with the level of the record for its own, and in
which a message is bound that is not the record's. -/
theorem core_fields_under_bound_names :
    ∃ history t line read, Run history t ∧ (origin history t).tagging.tags = {} ∧
      acts history = [.bind 0 [("message", .list [.null])], .enter 0,
        .create (.text "b1") [("level", .text "INFO")] 0] ∧
      (∀ a ∈ acts history, ∀ f ∈ a.bindings, HasText f.2) ∧
      (Formatter.structured (.text "fcm-relay") (.bool true)).format (.ofMicros 0) t.tagging.tags
        plainRecord = .ok line ∧
      Decodes line read ∧ read.lookup "level" = some (.text "INFO") ∧
      read.lookup "message" ≠ some (.text "hello") ∧
      read.lookup "service" = some (.text "fcm-relay") := by
  obtain ⟨t, ht⟩ : ∃ t, Thread.afterAll ⟨{}, .numbered, 0, []⟩
      [.bind 0 [("message", .list [.null])], .enter 0,
      .create (.text "b1") [("level", .text "INFO")] 0] = some t := ⟨_, rfl⟩
  obtain ⟨history, h, hacts, horigin⟩ := Thread.exists_run Tagging.Sound.fresh rfl ht
  have hfresh : (origin history t).tagging.tags = {} := by rw [horigin]
  have htags : t.tagging.tags.fields =
      [("batch_id", .text "b1"), ("level", .text "INFO"), ("message", .list [.null])] := by
    cases ht
    rfl
  have hlist : HasText (.list [.null]) := ⟨"[null]", rfl⟩
  have hvalues : ∀ a ∈ acts history, ∀ f ∈ a.bindings, HasText f.2 := by
    simp [hacts, Thread.Act.bindings, hlist, Json.hasText_text]
  have hshowable : ∀ f ∈ t.tagging.tags.fields, Showable f.2 := by
    rw [htags]
    simp [Showable.text, Showable.list, Showable.null]
  obtain ⟨line, hline⟩ := exists_line_of_plainRecord hshowable
  obtain ⟨message, read, hmessage, hdecodes, hcore⟩ :=
    coreFields_kept_iff h hfresh hvalues (r := plainRecord) rfl rfl hline
  cases plainRecord_ofMessage.messageOf.symm.trans hmessage
  rw [htags] at hcore
  simp only [coreFields, List.forall_mem_cons] at hcore
  obtain ⟨-, hlevel, -, hmessage, hservice, -⟩ := hcore
  refine ⟨history, t, line, read, h, hfresh, hacts, hvalues, hline, hdecodes, ?_, ?_, ?_⟩
  · exact hlevel.1.mpr fun v hv => (Option.some.inj hv).symm
  · intro hkept
    cases hmessage.1.mp hkept _ rfl
  · exact hservice.2 (by simp [hacts, Thread.Act.bindings])

/-- A level that is bound in a scope takes the place of the record's level. -/
theorem not_core_fields_kept :
    ¬ ∀ history t, Run history t → (origin history t).tagging.tags = {} →
      (∀ a ∈ acts history, ∀ f ∈ a.bindings, HasText f.2) →
      ∀ (r : Record) (level logger message service : String) (withCaller : Value) (now : Instant)
        (line : String) (read : Bindings), r.levelName = .text level → r.loggerName = .text logger →
      messageOf r = .ok message →
      (Formatter.structured (.text service) withCaller).format now t.tagging.tags r = .ok line →
      Decodes line read → ∀ f ∈ coreFields now (.text service) r message,
        read.lookup f.1 = some f.2 := by
  intro hkept
  obtain ⟨t, ht⟩ : ∃ t, Thread.afterAll ⟨{}, .numbered, 0, []⟩
      [.bind 0 [("level", .text "DEBUG")], .enter 0,
      .create (.text "b1") [] 0] = some t := ⟨_, rfl⟩
  obtain ⟨history, h, hacts, horigin⟩ := Thread.exists_run Tagging.Sound.fresh rfl ht
  have hfresh : (origin history t).tagging.tags = {} := by rw [horigin]
  have htags : t.tagging.tags.fields = [("batch_id", .text "b1"), ("level", .text "DEBUG")] := by
    cases ht
    rfl
  have hvalues : ∀ a ∈ acts history, ∀ f ∈ a.bindings, HasText f.2 := by
    simp [hacts, Thread.Act.bindings, Json.hasText_text]
  have hshowable : ∀ f ∈ t.tagging.tags.fields, Showable f.2 := by
    rw [htags]
    simp [Showable.text]
  obtain ⟨line, hline⟩ := exists_line_of_plainRecord hshowable
  obtain ⟨message, trouble, read, hmessage, htrouble, hdecodes, hread⟩ :=
    decodes_of_structuredLine hline
  obtain ⟨_, -, htrouble⟩ := bind_eq_ok_iff.mp htrouble
  have hlevel : ("level", Value.text "INFO") ∈
      coreFields (.ofMicros 0) (.text "fcm-relay") plainRecord message :=
    List.mem_cons_of_mem _ List.mem_cons_self
  obtain ⟨w, hw, hreads⟩ :=
    hread "level" _ (incoming_coreField (named_troubleFields htrouble) hlevel)
  rw [htags] at hreads
  cases hreads.unique (Plain.text "DEBUG").readsAs
  have hsame := hkept history t h hfresh hvalues _ _ _ _ _ _ _ line read rfl rfl hmessage hline
    hdecodes _ hlevel
  have hdebug := Value.text.inj (Option.some.inj (hw.symm.trans hsame))
  exact absurd hdebug (by decide)

end Log
end PushRelay
