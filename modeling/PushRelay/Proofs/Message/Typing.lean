import PushRelay.Proofs.Message.Payload
import PushRelay.Proofs.Message.Rendering

/-!
# The types of a payload

Four fields of a payload are checked: one of a wrong type is refused, before
anything else is looked at. All other fields go into the message as they come.
So a payload is refused or read as a message of the declared types unless one
of those others is of a wrong type; and of these a notification that holds
something but has no entries is not even read, but misused.
-/

namespace PushRelay

/-! ## Kinds -/

/-- Whatever stands under the name is of a kind. -/
def Entries.Only (entries : Entries) (name : String) (kind : Value → Prop) : Prop :=
  ∀ v, Entries.get? entries name = some v → kind v

/-- A default of the kind changes nothing. -/
theorem Entries.only_iff_getD {entries : Entries} {name : String} {kind : Value → Prop}
    {default : Value} (h : kind default) :
    Entries.Only entries name kind ↔ kind (Entries.getD entries name default) := by
  unfold Entries.Only Entries.getD
  cases Entries.get? entries name <;> simp [h]

/-- No value, or a list of texts. -/
def Value.IsTargets (v : Value) : Prop :=
  v = .null ∨ ∃ ts, v = .list ts ∧ ∀ t ∈ ts, t.isText = true

/-- No value, or a dictionary. -/
def Value.IsData (v : Value) : Prop := v = .null ∨ v.entries?.isSome = true

def Value.IsText (v : Value) : Prop := v.isText = true

def Value.IsInt (v : Value) : Prop := ∃ k, v = .int k

def Value.IsFlag (v : Value) : Prop := ∃ b, v = .bool b

namespace Notification

/-- The names of the fields. -/
def names : List String := ["title", "body", "click_action", "tag"]

/-- A value that holds nothing, or entries of which those of a notification
are texts. -/
def Readable (v : Value) : Prop :=
  v.truthy = true → ∃ entries, v.entries? = some entries ∧
    ∀ name ∈ names, Entries.Only entries name Value.IsText

/-- The notification that entries make. -/
def ofEntries (entries : Entries) : Notification :=
  let get name := Entries.getD entries name (.text "")
  ⟨get "title", get "body", get "click_action", get "tag"⟩

theorem declared_ofEntries_iff (entries : Entries) :
    (ofEntries entries).Declared ↔
      ∀ name ∈ names, Entries.Only entries name Value.IsText := by
  have hempty : Value.IsText (.text "") := rfl
  simp only [names, List.forall_mem_cons, List.not_mem_nil, false_implies, implies_true,
    and_true, Entries.only_iff_getD hempty]
  constructor
  · exact fun h => ⟨h.title, h.body, h.clickAction, h.tag⟩
  · exact fun ⟨htitle, hbody, haction, htag⟩ => ⟨htitle, hbody, haction, htag⟩

/-- A notification is misused, or it is read, and then as one of the declared
types just if the value is readable. -/
theorem ofPayload_cases (v : Value) :
    ¬ Readable v ∧ (∃ e, ofPayload v = .error e) ∨
      ∃ n, ofPayload v = .ok n ∧ (n.Declared ↔ Readable v) := by
  unfold ofPayload Readable Value.lookupTable
  cases htruthy : v.truthy with
  | false => exact .inr ⟨ofEntries [], rfl, by simp [declared_ofEntries_iff, Entries.Only, Entries.get?]⟩
  | true =>
    cases hentries : v.entries? with
    | none => exact .inl ⟨by simp, _, rfl⟩
    | some entries => exact .inr ⟨ofEntries entries, rfl, by simp [declared_ofEntries_iff]⟩

end Notification

namespace Message

/-! ## The checked fields -/

/-- The fields that are checked are of their types, as far as they are
there. -/
structure CheckedFieldsTyped (payload : Entries) : Prop where
  targets : Entries.Only payload "registration_ids" Value.IsTargets
  data : Entries.Only payload "data" Value.IsData
  timeToLive : Entries.Only payload "time_to_live" Value.IsInt
  priority : Entries.Only payload "priority" Value.IsText

/-- The reading ends in a refusal. -/
def Refused {α : Type} (r : Except MessageFailure α) : Prop :=
  ∃ message field, r = .error (.refused (.validation message field))

/-- A field is read as a value of its kind, or it is not of its kind and is
refused. -/
def ReadOrRefused (typed : Prop) (kind : Value → Prop) (r : Except MessageFailure Value) : Prop :=
  typed ∧ (∃ v, r = .ok v ∧ kind v) ∨ ¬ typed ∧ Refused r

theorem ReadOrRefused.of_iff {typed : Prop} {kind : Value → Prop}
    {r : Except MessageFailure Value} (hkind : ∀ v, r = .ok v → typed ∧ kind v)
    (htyped : typed → ∃ v, r = .ok v) (hjudged : Judged r) : ReadOrRefused typed kind r := by
  cases hr : r with
  | ok v => exact .inl ⟨(hkind v hr).1, v, rfl, (hkind v hr).2⟩
  | error e =>
    obtain ⟨message, field, rfl⟩ := hjudged e hr
    refine .inr ⟨fun h => ?_, message, field, rfl⟩
    obtain ⟨v, hv⟩ := htyped h
    cases hr.symm.trans hv

section

variable (payload : Entries)

theorem judged_readTargets (found : Option Value) : Judged (readTargets found) := by
  unfold readTargets
  split
  · exact .ok _
  · exact .ok _
  · split
    · split
      · exact .ok _
      · exact .refused _ _
    · exact .refused _ _

theorem readTargets_reads :
    ReadOrRefused (Entries.Only payload "registration_ids" Value.IsTargets) Value.IsTargets
      (readTargets (Entries.get? payload "registration_ids")) := by
  unfold Entries.Only
  cases Entries.get? payload "registration_ids" with
  | none => exact .inl ⟨nofun, .null, rfl, .inl rfl⟩
  | some v =>
    refine .of_iff (fun w hw => ?_) (fun h => ⟨v, ?_⟩) (judged_readTargets _)
    · obtain ⟨rfl, hkind⟩ := readTargets_eq_ok_iff.mp hw
      exact ⟨fun u hu => Option.some.inj hu ▸ hkind, hkind⟩
    · exact readTargets_eq_ok_iff.mpr ⟨rfl, h v rfl⟩

theorem readData_reads :
    ReadOrRefused (Entries.Only payload "data" Value.IsData) Value.IsData
      (readData (Entries.get? payload "data")) := by
  unfold Entries.Only readData
  split
  · rename_i hfound
    rw [hfound]
    exact .inl ⟨nofun, .null, rfl, .inl rfl⟩
  · rename_i hfound
    rw [hfound]
    exact .inl ⟨fun v hv => .inl (Option.some.inj hv).symm, .null, rfl, .inl rfl⟩
  · rename_i v hnull hfound
    rw [hfound]
    split
    · rename_i hdict
      exact .inl ⟨fun w hw => Option.some.inj hw ▸ .inr hdict, v, rfl, .inr hdict⟩
    · rename_i hdict
      refine .inr ⟨fun h => ?_, _, _, rfl⟩
      rcases h v rfl with rfl | h
      · exact hnull rfl
      · exact hdict h

theorem readTimeToLive_reads :
    ReadOrRefused (Entries.Only payload "time_to_live" Value.IsInt) Value.IsInt
      (readTimeToLive (Entries.getD payload "time_to_live" (.int 0))) := by
  have hzero : Value.IsInt (.int 0) := ⟨0, rfl⟩
  rw [Entries.only_iff_getD hzero]
  refine .of_iff (fun v hv => ?_) (fun h => ?_) ?_
  · obtain ⟨rfl, hint⟩ := readTimeToLive_eq_ok_iff.mp hv
    exact ⟨hint, hint⟩
  · exact ⟨_, readTimeToLive_eq_ok_iff.mpr ⟨rfl, h⟩⟩
  · unfold readTimeToLive
    split
    · exact .ok _
    · exact .refused _ _

theorem readPriority_reads :
    ReadOrRefused (Entries.Only payload "priority" Value.IsText) Value.IsText
      (readPriority (Entries.getD payload "priority" (.text ""))) := by
  have hempty : Value.IsText (.text "") := rfl
  rw [Entries.only_iff_getD hempty]
  refine .of_iff (fun v hv => ?_) (fun h => ?_) ?_
  · obtain ⟨rfl, htext⟩ := readPriority_eq_ok_iff.mp hv
    exact ⟨Value.isText_iff.mpr htext, Value.isText_iff.mpr htext⟩
  · exact ⟨_, readPriority_eq_ok_iff.mpr ⟨rfl, Value.isText_iff.mp h⟩⟩
  · unfold readPriority
    split
    · exact .ok _
    · exact .refused _ _

end

/-! ## The whole payload -/

/-- The fields that are not checked are of their types, as far as they are
there. -/
structure OtherFieldsTyped (payload : Entries) : Prop where
  collapseKey : Entries.Only payload "collapse_key" Value.IsText
  notification : Entries.Only payload "notification" Notification.Readable
  delayWhileIdle : Entries.Only payload "delay_while_idle" Value.IsFlag
  packageName : Entries.Only payload "restricted_package_name" Value.IsText
  dryRun : Entries.Only payload "dry_run" Value.IsFlag

/-- The reading ends in a refusal, or in a message whose fields have the
declared types, and in nothing else. -/
def ReadAsDeclared (r : Except MessageFailure Message) : Prop :=
  Refused r ∨ ∃ m n, r = .ok m ∧ m.targets.IsTargets ∧ m.TypedContent n

/-- The message that a payload makes with what its checked fields and its
notification were read as. -/
def ofFields (payload : Entries) (targets data timeToLive priority : Value) (n : Notification) :
    Message where
  targets
  collapseKey := Entries.getD payload "collapse_key" (.text "")
  notification := .notification n
  data
  delayWhileIdle := Entries.getD payload "delay_while_idle" (.bool false)
  timeToLive
  priority
  packageName := Entries.getD payload "restricted_package_name" (.text "")
  dryRun := Entries.getD payload "dry_run" (.bool false)

/-- Once the checked fields are of their types, only the notification is left
to fail. -/
theorem ofPayload_cases (payload : Entries) :
    ¬ CheckedFieldsTyped payload ∧ Refused (ofPayload (.dict payload)) ∨
      CheckedFieldsTyped payload ∧ ∃ targets data timeToLive priority,
        targets.IsTargets ∧ data.IsData ∧ timeToLive.IsInt ∧ priority.IsText ∧
        ofPayload (.dict payload) =
          (MessageFailure.ofMisuse <| Notification.ofPayload <|
            Entries.getD payload "notification" .null).map
              (ofFields payload targets data timeToLive priority) := by
  have htable : (Value.dict payload).lookupTable = .ok payload := rfl
  unfold ofPayload
  rw [htable]
  simp only [MessageFailure.ofMisuse, bind, Except.bind]
  rcases readTargets_reads payload with
    ⟨htargets, targets, hread, htargetsKind⟩ | ⟨htargets, message, field, hread⟩ <;> rw [hread]
  case inr => exact .inl ⟨fun h => htargets h.targets, message, field, rfl⟩
  rcases readData_reads payload with
    ⟨hdata, data, hread, hdataKind⟩ | ⟨hdata, message, field, hread⟩ <;> rw [hread]
  case inr => exact .inl ⟨fun h => hdata h.data, message, field, rfl⟩
  rcases readTimeToLive_reads payload with
    ⟨httl, ttl, hread, httlKind⟩ | ⟨httl, message, field, hread⟩ <;> rw [hread]
  case inr => exact .inl ⟨fun h => httl h.timeToLive, message, field, rfl⟩
  rcases readPriority_reads payload with
    ⟨hpriority, priority, hread, hpriorityKind⟩ | ⟨hpriority, message, field, hread⟩ <;> rw [hread]
  case inr => exact .inl ⟨fun h => hpriority h.priority, message, field, rfl⟩
  refine .inr ⟨⟨htargets, hdata, httl, hpriority⟩, targets, data, ttl, priority, htargetsKind,
    hdataKind, httlKind, hpriorityKind, ?_⟩
  cases Notification.ofPayload (Entries.getD payload "notification" .null) <;> rfl

theorem typedContent_ofFields_iff {payload : Entries} {targets data timeToLive priority : Value}
    (hdata : data.IsData) (httl : timeToLive.IsInt) (hpriority : priority.IsText)
    {n : Notification}
    (hn : n.Declared ↔ Notification.Readable (Entries.getD payload "notification" .null)) :
    (ofFields payload targets data timeToLive priority n).TypedContent n ↔
      OtherFieldsTyped payload := by
  have hempty : Value.IsText (.text "") := rfl
  have hunset : Value.IsFlag (.bool false) := ⟨false, rfl⟩
  have hnone : Notification.Readable .null := nofun
  constructor
  · intro h
    exact ⟨(Entries.only_iff_getD hempty).mpr h.collapseKey,
      (Entries.only_iff_getD hnone).mpr (hn.mp h.texts),
      (Entries.only_iff_getD hunset).mpr h.delayWhileIdle,
      (Entries.only_iff_getD hempty).mpr h.packageName,
      (Entries.only_iff_getD hunset).mpr h.dryRun⟩
  · intro h
    exact {
      collapseKey := (Entries.only_iff_getD hempty).mp h.collapseKey
      notification := rfl
      texts := hn.mpr ((Entries.only_iff_getD hnone).mp h.notification)
      data := hdata
      delayWhileIdle := (Entries.only_iff_getD hunset).mp h.delayWhileIdle
      timeToLive := httl
      priority := hpriority
      packageName := (Entries.only_iff_getD hempty).mp h.packageName
      dryRun := (Entries.only_iff_getD hunset).mp h.dryRun }

/-- A payload is refused just if a checked field is of a wrong type. If none
is, what becomes of it is as it should be just if no other field is of a wrong
type either. -/
theorem ofPayload_readAsDeclared_iff (payload : Entries) :
    (Refused (ofPayload (.dict payload)) ↔ ¬ CheckedFieldsTyped payload) ∧
    (ReadAsDeclared (ofPayload (.dict payload)) ↔
      (CheckedFieldsTyped payload → OtherFieldsTyped payload)) := by
  rcases ofPayload_cases payload with ⟨hchecked, hrefused⟩ |
    ⟨hchecked, targets, data, ttl, priority, htargets, hdata, httl, hpriority, hread⟩
  · exact ⟨iff_of_true hrefused hchecked, iff_of_true (.inl hrefused) fun h => absurd h hchecked⟩
  have hnone : Notification.Readable .null := nofun
  rcases Notification.ofPayload_cases (Entries.getD payload "notification" .null) with
    ⟨hnotice, e, he⟩ | ⟨n, hn, hdeclared⟩
  · -- the notification is misused
    rw [he] at hread
    have hother : ¬ OtherFieldsTyped payload := fun h =>
      hnotice ((Entries.only_iff_getD hnone).mp h.notification)
    rw [hread]
    refine ⟨iff_of_false ?_ (not_not_intro hchecked), iff_of_false ?_ fun h => hother (h hchecked)⟩
    · rintro ⟨message, field, h⟩
      cases h
    · rintro (⟨message, field, h⟩ | ⟨m, n, h, -⟩) <;> cases h
  · rw [hn] at hread
    have htyped : (ofFields payload targets data ttl priority n).TypedContent n ↔ _ :=
      typedContent_ofFields_iff hdata httl hpriority hdeclared
    have hnotRefused : ¬ Refused (.ok (ofFields payload targets data ttl priority n)) := nofun
    rw [hread]
    refine ⟨iff_of_false hnotRefused (not_not_intro hchecked), ?_⟩
    show ReadAsDeclared (.ok (ofFields payload targets data ttl priority n)) ↔ _
    simp only [hchecked, true_implies, ← htyped]
    constructor
    · rintro (hrefused | ⟨m, n', hm, -, hcontent⟩)
      · exact absurd hrefused hnotRefused
      · cases hm
        cases hcontent.notification
        exact hcontent
    · exact fun hcontent => .inr ⟨_, n, rfl, htargets, hcontent⟩

/-- A payload whose notification is a text is misused, and one with a text for
a flag is read all the same. -/
theorem not_readAsDeclared_of_texts :
    ¬ ReadAsDeclared (ofPayload (.record [("notification", .text "Hello")])) ∧
      ¬ ReadAsDeclared (ofPayload (.record [("delay_while_idle", .text "no")])) := by
  constructor
  · rintro (⟨message, field, h⟩ | ⟨m, n, h, -⟩) <;> cases h
  · rintro (⟨message, field, h⟩ | ⟨m, n, h, -, hcontent⟩)
    · cases h
    · cases h
      obtain ⟨b, hflag⟩ := hcontent.delayWhileIdle
      cases hflag

end Message
end PushRelay
