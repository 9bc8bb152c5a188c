import PushRelay.Proofs.Json.Printable
import PushRelay.Proofs.Json.RoundTrip
import PushRelay.Proofs.Message.Declared
import PushRelay.Proofs.Octets.Ascii

/-!
# What arrives

The body for a target of a message of plain values is one line of printable
ASCII, and whoever reads it has the wire message that was written, with its
data as the application gave it.
-/

namespace PushRelay

open Json (Plain)

/-! ## Paths -/

theorem Entries.get?_ofFields (fields : List (String × Value)) (name : String) :
    Entries.get? (Entries.ofFields fields) name = fields.lookup name := by
  induction fields with
  | nil => rfl
  | cons f fs ih =>
    obtain ⟨key, v⟩ := f
    have hcons : Entries.get? (Entries.ofFields ((key, v) :: fs)) name =
        if key == name then some v else Entries.get? (Entries.ofFields fs) name := by
      simp only [Entries.get?, Entries.ofFields, List.map_cons, List.find?_cons, Value.isTextOf]
      cases key == name <;> rfl
    rw [hcons, ih, List.lookup_cons, BEq.comm]
    cases name == key <;> rfl

/-- What stands at a path of keys. -/
def Value.at? (v : Value) : (path : List String) → Option Value
  | [] => some v
  | name :: path => do (← Entries.get? (← v.entries?) name).at? path

theorem Value.at?_record (fields : List (String × Value)) (name : String) (path : List String) :
    (Value.record fields).at? (name :: path) = (fields.lookup name).bind (·.at? path) := by
  rw [← Entries.get?_ofFields]
  rfl

/-! ## Wire messages -/

namespace WireMessage

/-- The data stand in the dictionary as they are, unless they hold nothing. -/
theorem toDict_at?_data (w : WireMessage) :
    w.toDict.at? ["data"] = if w.data.truthy then some w.data else none := by
  have hidle := lookup_whenSet (show "data" ≠ "delay_while_idle" by decide) w.delayWhileIdle
  have hdry := lookup_whenSet (show "data" ≠ "dry_run" by decide) w.dryRun
  rw [toDict, Value.at?_record]
  simp [List.lookup_cons, List.lookup_append, lookup_whenPresent, hidle, hdry, Value.at?]

theorem envelope_at?_message (w : WireMessage) (path : List String) :
    w.envelope.at? ("message" :: path) = w.toDict.at? path := by
  rw [envelope, Value.at?_record]
  rfl

/-- The body is printable, and is read as the wire message in its envelope. -/
structure CarriedBy (w : WireMessage) (body : String) : Prop where
  printable : ∀ a ∈ Octets.ofText body, 0x20 ≤ a.toNat ∧ a.toNat ≤ 0x7F
  read : Json.read (.bytes (Octets.ofText body)) = .ok w.envelope

/-- A plain dictionary is written, and the body carries it. -/
theorem carriedBy_of_plain {w : WireMessage} (h : Plain w.envelope) :
    ∃ body, w.encode = .ok body ∧ w.CarriedBy body := by
  obtain ⟨body, hbody⟩ := h.hasText
  have hencode : w.encode = .ok body := by
    rw [encode, hbody]
  have hprintable := Json.isPrintable_of_write hbody
  refine ⟨body, hencode, ?_, ?_⟩
  · rw [Octets.ofText_of_ascii hprintable.isAsciiText]
    refine List.forall_mem_map.mpr fun c hc => ?_
    have hc := hprintable c hc
    rw [Octets.toNat_octet (by omega)]
    omega
  · rw [hprintable.read_octets]
    exact h.readChars_of_write hbody

/-- What two wire messages have in common if they have a body in common. -/
theorem CarriedBy.toDict_eq {w w' : WireMessage} {body : String} (h : w.CarriedBy body)
    (h' : w'.CarriedBy body) : w'.toDict = w.toDict := by
  have henvelope := Except.ok.inj (h'.read.symm.trans h.read)
  simpa [envelope, Value.record] using henvelope

end WireMessage

/-! ## Messages -/

namespace Message

/-- The fields have the declared types, and the data and the time to live are
plain: no double is among the data, and no integer is too long. -/
structure OfPlainValues (m : Message) : Prop extends m.Declared where
  plainTimeToLive : Plain m.timeToLive
  plainData : Plain m.data

theorem plain_of_isText {v : Value} (h : v.isText = true) : Plain v := by
  cases v with
  | text s => exact .text s
  | _ => cases h

theorem OfPlainValues.plain_wire {m : Message} {target : Value} {w : WireMessage}
    (h : m.OfPlainValues) (htarget : target.isText = true)
    (hw : translate (some m) target = .ok w) : Plain w.envelope := by
  obtain ⟨n, hn, hdeclared⟩ := h.notification
  have hnotification : notificationOf m.notification = .ok n := by
    rw [hn]
    rfl
  rw [translate_eq_wireFor hnotification] at hw
  cases hw
  have hrecord : OfFields Plain := fun _ hnames => Json.plain_record_iff hnames
  rw [WireMessage.envelope_iff hrecord (.bool true)]
  have hvalues : ∀ v ∈ (m.wireFor n target).optionalValues, Plain v := by
    simp only [WireMessage.optionalValues, wireFor, List.forall_mem_cons]
    exact ⟨plain_of_isText h.collapseKey, plain_of_isText hdeclared.title,
      plain_of_isText hdeclared.body, h.plainData, h.plainTimeToLive,
      plain_of_isText h.packageName, plain_of_isText hdeclared.clickAction,
      plain_of_isText hdeclared.tag, plain_of_isText h.priority, List.forall_mem_nil _⟩
  exact ⟨plain_of_isText htarget, fun v hv _ => hvalues v hv⟩

/-- What is sent for a target arrives: there is a body, of printable ASCII,
that is read as the wire message in its envelope, with the data as they were
given; and no other wire dictionary has the same body. -/
theorem OfPlainValues.arrives {m : Message} {target : Value} {w : WireMessage}
    (h : m.OfPlainValues) (htarget : target.isText = true)
    (hw : translate (some m) target = .ok w) :
    ∃ body, w.encode = .ok body ∧
      (∀ a ∈ Octets.ofText body, 0x20 ≤ a.toNat ∧ a.toNat ≤ 0x7F) ∧
      Json.read (.bytes (Octets.ofText body)) = .ok w.envelope ∧
      w.envelope.at? ["message", "data"] = (if m.data.truthy then some m.data else none) ∧
      ∀ (m' : Message) (target' : Value) (w' : WireMessage), m'.OfPlainValues →
        target'.isText = true → translate (some m') target' = .ok w' →
        w'.encode = .ok body → w'.toDict = w.toDict := by
  have hplain := h.plain_wire htarget hw
  obtain ⟨body, hbody, hcarried⟩ := WireMessage.carriedBy_of_plain hplain
  have hdata : w.data = m.data := by
    obtain ⟨n, -, hwire⟩ := bind_eq_ok_iff.mp hw
    cases hwire
    rfl
  refine ⟨body, hbody, hcarried.printable, hcarried.read, ?_, ?_⟩
  · rw [WireMessage.envelope_at?_message, WireMessage.toDict_at?_data, hdata]
  · intro m' target' w' h' htarget' hw' hbody'
    obtain ⟨body', hsame, hcarried'⟩ :=
      WireMessage.carriedBy_of_plain (h'.plain_wire htarget' hw')
    rw [hbody'] at hsame
    cases hsame
    exact hcarried.toDict_eq hcarried'

/-- Some data with characters of every kind, and with values in values. -/
def sampleData : Value := .record [
  ("text", .text "\"Grüße\" \\ \x7f\n😀"),
  ("parts", .list [.int (-1), .bool true, .null, .record [("", .list [])]])]

theorem sampleData_plain : Plain sampleData := by
  refine .record (by decide) ?_
  simp only [List.forall_mem_cons]
  refine ⟨.text _, .list ?_, List.forall_mem_nil _⟩
  simp only [List.forall_mem_cons]
  refine ⟨.int ?_, .bool true, .null, .record (by decide) ?_, List.forall_mem_nil _⟩
  · exact Nat.one_lt_pow (by decide) (by decide)
  · simp only [List.forall_mem_cons]
    exact ⟨.list (List.forall_mem_nil _), List.forall_mem_nil _⟩

theorem ofPlainValues_of_data {data : Value} {targets : List Value}
    (htargets : ∀ t ∈ targets, t.isText = true) (hdata : Plain data)
    (hdict : data = .null ∨ data.entries?.isSome = true) : (ofData data targets).OfPlainValues where
  targets := .inr ⟨targets, .inl rfl, htargets⟩
  collapseKey := rfl
  notification := ⟨{}, rfl, rfl, rfl, rfl, rfl⟩
  data := hdict
  delayWhileIdle := ⟨false, rfl⟩
  timeToLive := rfl
  priority := rfl
  packageName := rfl
  dryRun := ⟨false, rfl⟩
  plainTimeToLive := .int (Nat.pow_pos (by decide))
  plainData := hdata

theorem sampleData_arrives :
    let w := (ofData sampleData [.text "first"]).wireFor {} (.text "first")
    ∃ body, w.encode = .ok body ∧ Json.read (.bytes (Octets.ofText body)) = .ok w.envelope ∧
      w.envelope.at? ["message", "data"] = some sampleData := by
  intro w
  have hplain : (ofData sampleData [.text "first"]).OfPlainValues :=
    ofPlainValues_of_data (by decide) sampleData_plain (.inr rfl)
  have hwire : translate (some (ofData sampleData [.text "first"])) (.text "first") = .ok w := rfl
  obtain ⟨body, hbody, -, hread, hdata, -⟩ := OfPlainValues.arrives hplain rfl hwire
  exact ⟨body, hbody, hread, hdata⟩

/-- An empty dictionary is left out, so it does not arrive. -/
theorem not_data_arrives :
    ¬ ∀ (m : Message) (target : Value) (w : WireMessage) (entries : Entries), m.OfPlainValues →
      target.isText = true → translate (some m) target = .ok w → m.data = .dict entries →
      w.envelope.at? ["message", "data"] = some m.data := by
  intro h
  have hempty : Plain (.record []) := .record (by decide) (List.forall_mem_nil _)
  have hplain : (ofData (.dict []) [.text "first"]).OfPlainValues :=
    ofPlainValues_of_data (by decide) hempty (.inr rfl)
  cases h (ofData (.dict []) [.text "first"]) (.text "first") _ [] hplain rfl rfl rfl

end Message
end PushRelay
