import PushRelay.Proofs.Message.Declared

/-!
# Whether the data can be written

The data of a message is written twice: alone, when the message is held to the
rules, and within the body for each target. Where everything else in a body is
of its declared type, nothing but the data can fail there, and it fails as it
does alone, with the same error.
-/

namespace PushRelay

open Json (HasText)

/-! ## The error of a record -/

namespace Json

theorem not_error_of_hasText {v : Value} {e : WriteError} (h : HasText v) :
    write v ≠ .error e := by
  obtain ⟨text, htext⟩ := h
  rw [htext]
  exact nofun

theorem write_eq_error_iff {v : Value} {e : WriteError} :
    write v = .error e ↔ chars false v = .error e := by
  rw [write, bind_eq_error_iff]
  constructor
  · rintro (h | ⟨cs, -, h⟩)
    · exact h
    · cases h
  · exact .inl

/-- The entries of a record. -/
private abbrev entriesOf (fields : List (String × Value)) : Entries :=
  fields.map fun (name, v) => (.text name, v)

theorem moreEntryChars_error {fields : List (String × Value)} {e : WriteError}
    (h : moreEntryChars false (entriesOf fields) = .error e) :
    ∃ f ∈ fields, chars false f.2 = .error e := by
  induction fields with
  | nil => cases h
  | cons f fields ih =>
    rcases bind_eq_error_iff.mp h with hkey | ⟨key, -, h⟩
    · cases hkey
    rcases bind_eq_error_iff.mp h with hvalue | ⟨value, -, h⟩
    · exact ⟨f, List.mem_cons_self, hvalue⟩
    rcases bind_eq_error_iff.mp h with hmore | ⟨more, -, h⟩
    · obtain ⟨g, hg, herror⟩ := ih hmore
      exact ⟨g, List.mem_cons_of_mem _ hg, herror⟩
    · cases h

theorem entryChars_error {fields : List (String × Value)} {e : WriteError}
    (h : entryChars false (entriesOf fields) = .error e) :
    ∃ f ∈ fields, chars false f.2 = .error e := by
  cases fields with
  | nil => cases h
  | cons f fields =>
    rcases bind_eq_error_iff.mp h with hkey | ⟨key, -, h⟩
    · cases hkey
    rcases bind_eq_error_iff.mp h with hvalue | ⟨value, -, h⟩
    · exact ⟨f, List.mem_cons_self, hvalue⟩
    rcases bind_eq_error_iff.mp h with hmore | ⟨more, -, h⟩
    · obtain ⟨g, hg, herror⟩ := moreEntryChars_error hmore
      exact ⟨g, List.mem_cons_of_mem _ hg, herror⟩
    · cases h

/-- The names of a record can be written, so its error is that of a field. -/
theorem write_record_error {fields : List (String × Value)} {e : WriteError}
    (h : write (.record fields) = .error e) : ∃ f ∈ fields, write f.2 = .error e := by
  rcases bind_eq_error_iff.mp (write_eq_error_iff.mp h) with h | ⟨inner, -, h⟩
  · obtain ⟨f, hf, herror⟩ := entryChars_error h
    exact ⟨f, hf, write_eq_error_iff.mpr herror⟩
  · cases h

end Json

/-! ## The error of a body -/

section

variable {P : Value → Prop} (hrecord : ∀ fields, (∀ f ∈ fields, P f.2) → P (.record fields))

include hrecord

/-- What passes from the fields to their record passes from the values of a
message to the whole that is written. -/
theorem WireMessage.envelope_of (hflag : P (.bool true)) {w : WireMessage} (htoken : P w.token)
    (hvalues : ∀ v ∈ w.optionalValues, v.truthy = true → P v) : P w.envelope := by
  simp only [optionalValues, List.forall_mem_cons] at hvalues
  obtain ⟨hkey, htitle, hbody, hdata, httl, hpackage, haction, htag, hpriority, -⟩ := hvalues
  have hnotification : P w.notification.toDict := by
    refine hrecord _ (List.forall_mem_append.mpr ⟨?_, ?_⟩)
    · exact (forall_mem_whenPresent_iff P _ _).mpr htitle
    · exact (forall_mem_whenPresent_iff P _ _).mpr hbody
  have hplatform : P w.android.notification.toDict := by
    refine hrecord _ (List.forall_mem_append.mpr ⟨?_, ?_⟩)
    · exact (forall_mem_whenPresent_iff P _ _).mpr haction
    · exact (forall_mem_whenPresent_iff P _ _).mpr htag
  have handroid : P w.android.toDict :=
    hrecord _ (List.forall_mem_cons.mpr
      ⟨hplatform, (forall_mem_whenPresent_iff P _ _).mpr hpriority⟩)
  have hdict : P w.toDict := by
    refine hrecord _ ?_
    simp only [List.forall_mem_append, List.forall_mem_singleton, forall_mem_whenPresent_iff P,
      forall_mem_whenSet_iff P]
    exact ⟨⟨⟨⟨⟨⟨⟨⟨htoken, hkey⟩, hnotification⟩, hdata⟩, fun _ => hflag⟩, httl⟩, hpackage⟩,
      fun _ => hflag⟩, handroid⟩
  exact hrecord _ (List.forall_mem_singleton.mpr hdict)

end

namespace Message

/-- Everything but the targets and the data is of the declared types, and the
time to live is short enough to be written. -/
structure DeclaredBesidesData (m : Message) : Prop where
  collapseKey : m.collapseKey.isText = true
  notification : ∃ n, m.notification = .notification n ∧ n.Declared
  delayWhileIdle : ∃ b, m.delayWhileIdle = .bool b
  timeToLive : ∃ n, m.timeToLive.toInt? = some n ∧ n.natAbs < 10 ^ Numeral.maxDigits
  priority : m.priority.isText = true
  packageName : m.packageName.isText = true
  dryRun : ∃ b, m.dryRun = .bool b

/-- What the two ways of writing the data must come to. -/
structure ChecksAgree (m : Message) (wire : WireMessage) : Prop where
  fails_iff : m.data.truthy = true →
    ((∃ e, checkData m.data = .error e) ↔ ∃ refusal, wire.encode = .error refusal)
  same_refusal : m.data.truthy = true → ∀ e refusal, checkData m.data = .error e →
    wire.encode = .error refusal →
      e = .refused refusal ∧ ∃ text, refusal = .validation (.text text) (.text "data")
  written : m.data.truthy = false → ∃ body, wire.encode = .ok body

theorem hasText_of_toInt? {v : Value} {n : Int} (h : v.toInt? = some n)
    (hn : n.natAbs < 10 ^ Numeral.maxDigits) : HasText v := by
  cases v with
  | bool b => exact Json.hasText_bool b
  | int k =>
    cases h
    exact Json.hasText_int hn
  | _ => cases h

theorem checkData_eq_error_iff {data : Value} {e : MessageFailure} (h : data.truthy = true) :
    checkData data = .error e ↔
      ∃ e', Json.write data = .error e' ∧ e = .refused (unserializable e') := by
  unfold checkData
  split
  · cases h
  · cases Json.write data <;> simp [eq_comm]

/-- All that is written besides the data has a text. -/
theorem DeclaredBesidesData.hasText {m : Message} {n : Notification} {P : Value → Prop}
    (h : m.DeclaredBesidesData) (hn : m.notification = .notification n)
    (hwritten : ∀ v, HasText v → P v) (hdata : m.data.truthy = true → P m.data) (target : Value) :
    ∀ v ∈ (m.wireFor n target).optionalValues, v.truthy = true → P v := by
  obtain ⟨n', hn', hdeclared⟩ := h.notification
  cases hn.symm.trans hn'
  obtain ⟨k, hk, hshort⟩ := h.timeToLive
  have htext : ∀ v : Value, v.isText = true → v.truthy = true → P v :=
    fun v hv _ => hwritten v (hasText_of_isText hv)
  simp only [wireFor, WireMessage.optionalValues, List.forall_mem_cons]
  exact ⟨htext _ h.collapseKey, htext _ hdeclared.title, htext _ hdeclared.body, hdata,
    fun _ => hwritten _ (hasText_of_toInt? hk hshort), htext _ h.packageName,
    htext _ hdeclared.clickAction, htext _ hdeclared.tag, htext _ h.priority,
    List.forall_mem_nil _⟩

/-- The body has the error of the data, and has one just if the data has. -/
theorem DeclaredBesidesData.write_envelope_error_iff {m : Message} {n : Notification}
    (h : m.DeclaredBesidesData) (hn : m.notification = .notification n)
    (hdata : m.data.truthy = true) (t : String) (e : Json.WriteError) :
    Json.write (m.wireFor n (.text t)).envelope = .error e ↔ Json.write m.data = .error e := by
  have hinner : ∀ e', Json.write (m.wireFor n (.text t)).envelope = .error e' →
      Json.write m.data = .error e' := by
    have hwritten : ∀ v, HasText v → ∀ e', Json.write v = .error e' →
        Json.write m.data = .error e' :=
      fun v hv e' herror => absurd herror (Json.not_error_of_hasText hv)
    refine WireMessage.envelope_of ?_ (hwritten _ (Json.hasText_bool true))
      (hwritten _ (Json.hasText_text t)) (h.hasText hn hwritten (fun _ _ => id) _)
    intro fields hfields e' herror
    obtain ⟨f, hf, herror⟩ := Json.write_record_error herror
    exact hfields f hf e' herror
  refine ⟨hinner e, fun herror => ?_⟩
  cases hwhole : Json.write (m.wireFor n (.text t)).envelope with
  | error e' => rw [← herror, hinner e' hwhole]
  | ok text =>
    -- the data has a text if the whole has one
    have hrecord : OfFields HasText := fun fields _ => Json.hasText_record_iff fields
    obtain ⟨-, hvalues⟩ := (WireMessage.envelope_iff hrecord (Json.hasText_bool true) _).mp
      ⟨text, hwhole⟩
    have htext : HasText m.data :=
      hvalues m.data (by simp [WireMessage.optionalValues, wireFor]) hdata
    exact absurd herror (Json.not_error_of_hasText htext)

/-- Data that is there is refused when the body for a target is written just if
the rules refuse it, and both with the same words; without data there is always
a body. -/
theorem DeclaredBesidesData.checks_agree {m : Message} (h : m.DeclaredBesidesData) (t : String) :
    ∃ wire, translate (some m) (.text t) = .ok wire ∧ ChecksAgree m wire := by
  obtain ⟨n, hn, -⟩ := h.notification
  have hnotification : notificationOf m.notification = .ok n := by
    rw [hn]
    rfl
  have hencode : ∀ refusal, (m.wireFor n (.text t)).encode = .error refusal ↔
      ∃ e, Json.write (m.wireFor n (.text t)).envelope = .error e ∧ refusal = unserializable e := by
    intro refusal
    unfold WireMessage.encode
    cases Json.write (m.wireFor n (.text t)).envelope <;> simp [eq_comm]
  refine ⟨_, translate_eq_wireFor hnotification _, ?_, ?_, ?_⟩
  · intro hdata
    simp only [checkData_eq_error_iff hdata, hencode, h.write_envelope_error_iff hn hdata]
    constructor
    · rintro ⟨_, e, herror, -⟩
      exact ⟨_, e, herror, rfl⟩
    · rintro ⟨_, e, herror, -⟩
      exact ⟨_, e, herror, rfl⟩
  · intro hdata e refusal hcheck hbody
    obtain ⟨e', herror, rfl⟩ := (checkData_eq_error_iff hdata).mp hcheck
    obtain ⟨e'', herror', rfl⟩ := (hencode refusal).mp hbody
    rw [h.write_envelope_error_iff hn hdata, herror] at herror'
    cases herror'
    exact ⟨rfl, _, rfl⟩
  · intro hdata
    refine (WireMessage.encode_succeeds_iff _).mpr ⟨Json.hasText_text t, ?_⟩
    refine h.hasText hn (fun v hv => hv) (fun hpresent => ?_) _
    rw [hdata] at hpresent
    cases hpresent

/-- An object deep in the data is refused by both, after what can be written. -/
theorem checks_agree_on_nested_object :
    let m : Message := {
      targets := .list [.text "t1"], timeToLive := .int 60, delayWhileIdle := .bool true,
      data := .record [("n", .int 1), ("parts", .list [.null, .tuple [.object {}]])] }
    ∃ wire, translate (some m) (.text "t1") = .ok wire ∧ ChecksAgree m wire ∧
      wire.encode = .error (.validation (.text ("message data is not JSON serializable: " ++
        "Object of type object is not JSON serializable")) (.text "data")) := by
  intro m
  have hm : m.DeclaredBesidesData := by
    refine ⟨rfl, ⟨_, rfl, rfl, rfl, rfl, rfl⟩, ⟨true, rfl⟩, ⟨60, rfl, ?_⟩, rfl, rfl, ⟨false, rfl⟩⟩
    exact Json.short_of_lt_pow (by decide : 60 < 10 ^ 2) (by decide)
  obtain ⟨wire, hwire, hagree⟩ := hm.checks_agree "t1"
  have hcheck : checkData m.data =
      .error (.refused (unserializable (.unserializable "object"))) := rfl
  obtain ⟨refusal, hbody⟩ := (hagree.fails_iff rfl).mp ⟨_, hcheck⟩
  obtain ⟨hsame, -⟩ := hagree.same_refusal rfl _ _ hcheck hbody
  cases hsame
  exact ⟨wire, hwire, hagree, hbody⟩

end Message
end PushRelay
