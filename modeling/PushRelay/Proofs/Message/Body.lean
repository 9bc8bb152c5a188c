import PushRelay.Proofs.Message.Fields
import PushRelay.Proofs.Message.Validation

/-!
# Bodies

When the body of the request for a target can be written. The rules look at
the data, the priority and the bounds of the time to live; what is written
besides is left to the writing of the body.
-/

namespace PushRelay

open Json (HasText)

/-- The value has a JSON text if it holds something; else it is left out. -/
def Json.HasTextIfPresent (v : Value) : Prop := v.truthy = true → HasText v

/-! ## Wire messages -/

namespace WireMessage

theorem encode_succeeds_iff (w : WireMessage) :
    (∃ body, w.encode = .ok body) ↔
      HasText w.token ∧ ∀ v ∈ w.optionalValues, Json.HasTextIfPresent v := by
  have hwrite : (∃ body, w.encode = .ok body) ↔ HasText w.envelope := by
    unfold encode HasText
    cases Json.write w.envelope <;> simp
  have hrecord : OfFields HasText := fun fields _ => Json.hasText_record_iff fields
  rw [hwrite, envelope_iff hrecord (Json.hasText_bool true)]
  rfl

theorem encode_error {w : WireMessage} {e : RelayError} (h : w.encode = .error e) :
    e.code = .validation := by
  unfold encode at h
  split at h
  · cases h
  · cases h
    rfl

/-- The body that carries a wire message; empty if there is none. -/
def body (w : WireMessage) : String := w.encode.toOption.getD ""

theorem body_of_encode {w : WireMessage} {text : String} (h : w.encode = .ok text) :
    w.body = text := by
  simp [body, h, Except.toOption]

end WireMessage

/-! ## Messages -/

namespace Message

/-- The body of the request that carries a message to one target, if there is
one. -/
def body? (m : Message) (target : Value) : Option String :=
  match translate (some m) target with
  | .ok wire => wire.encode.toOption
  | .error _ => none

theorem translate_eq_wireFor {m : Message} {n : Notification}
    (hn : notificationOf m.notification = .ok n) (target : Value) :
    translate (some m) target = .ok (m.wireFor n target) := by
  simp only [translate, hn]
  rfl

theorem translateAll_eq_map {m : Message} {ts : List Value} {n : Notification}
    (hts : m.targets.items = .ok ts) (hn : notificationOf m.notification = .ok n) :
    m.translateAll = .ok (ts.map (m.wireFor n)) := by
  have hall : ∀ us : List Value, us.mapM (fun target => translate (some m) target) =
      (.ok (us.map (m.wireFor n)) : Except Misuse (List WireMessage)) := by
    intro us
    induction us with
    | nil => rfl
    | cons u us ih =>
      rw [List.mapM_cons, translate_eq_wireFor hn, ih]
      rfl
  show (do
    let targets ← m.targets.items
    targets.mapM fun target => translate (some m) target) = _
  rw [hts]
  exact hall ts

/-- If there are wire messages for an accepted message, there is a
notification. -/
theorem wires_of_translateAll {m : Message} {config : Config} {wires : List WireMessage}
    (hv : validate (some m) config = .ok m) (h : m.translateAll = .ok wires) :
    ∃ ts n, m.targets.items = .ok ts ∧ notificationOf m.notification = .ok n ∧
      wires = ts.map (m.wireFor n) := by
  obtain ⟨ts, hts, -, hne⟩ := checkTargets_ok (validate_eq_ok_iff.mp hv).2.1
  cases hn : notificationOf m.notification with
  | ok n =>
    rw [translateAll_eq_map hts hn] at h
    cases h
    exact ⟨ts, n, hts, rfl, rfl⟩
  | error e =>
    -- the first target is translated, and fails
    cases ts with
    | nil => exact absurd rfl hne
    | cons t ts =>
      unfold translateAll at h
      rw [hts] at h
      obtain ⟨us, hus, h⟩ := bind_eq_ok_iff.mp h
      cases hus
      rw [List.mapM_cons] at h
      obtain ⟨w, hw, -⟩ := bind_eq_ok_iff.mp h
      simp only [translate, hn] at hw
      cases hw

theorem body?_eq_some {m : Message} {n : Notification} {target : Value} {text : String}
    (hn : notificationOf m.notification = .ok n) (h : m.body? target = some text) :
    (m.wireFor n target).encode = .ok (m.wireFor n target).body ∧
      text = (m.wireFor n target).body := by
  simp only [body?, translate_eq_wireFor hn] at h
  cases hencode : (m.wireFor n target).encode with
  | error e =>
    rw [hencode] at h
    cases h
  | ok written =>
    rw [hencode] at h
    cases h
    rw [WireMessage.body_of_encode hencode]
    exact ⟨rfl, rfl⟩

theorem mapM_body?_of_encode {m : Message} {n : Notification} {ts : List Value}
    (hn : notificationOf m.notification = .ok n)
    (h : ∀ t ∈ ts, (m.wireFor n t).encode = .ok (m.wireFor n t).body) :
    ts.mapM m.body? = some (ts.map fun t => (m.wireFor n t).body) := by
  induction ts with
  | nil => rfl
  | cons t ts ih =>
    obtain ⟨hfirst, hrest⟩ := List.forall_mem_cons.mp h
    have hbody : m.body? t = some (m.wireFor n t).body := by
      simp only [body?, translate_eq_wireFor hn, hfirst]
      rfl
    rw [List.mapM_cons, hbody, ih hrest]
    rfl

/-- If there is a body for each of some targets, then there is a notification,
and the bodies are those of the wire messages. -/
theorem bodies_of_mapM {m : Message} {ts : List Value} {bodies : List String}
    (hne : ts ≠ []) (h : ts.mapM m.body? = some bodies) :
    ∃ n, notificationOf m.notification = .ok n ∧
      bodies = ts.map (fun t => (m.wireFor n t).body) ∧
      ∀ t ∈ ts, (m.wireFor n t).encode = .ok (m.wireFor n t).body := by
  cases hn : notificationOf m.notification with
  | error e =>
    -- without a notification no target has a body
    have hnone : ∀ t, m.body? t = none := by
      intro t
      simp only [body?, translate, hn]
      rfl
    cases ts with
    | nil => exact absurd rfl hne
    | cons t ts =>
      rw [List.mapM_cons, hnone] at h
      cases h
  | ok n =>
    refine ⟨n, rfl, ?_⟩
    clear hne
    induction ts generalizing bodies with
    | nil =>
      cases h
      exact ⟨rfl, List.forall_mem_nil _⟩
    | cons t ts ih =>
      rw [List.mapM_cons] at h
      obtain ⟨text, htext, h⟩ := Option.bind_eq_some_iff.mp h
      obtain ⟨texts, htexts, h⟩ := Option.bind_eq_some_iff.mp h
      cases h
      obtain ⟨hencode, rfl⟩ := body?_eq_some hn htext
      obtain ⟨rfl, hall⟩ := ih htexts
      exact ⟨rfl, List.forall_mem_cons.mpr ⟨hencode, hall⟩⟩

/-- The values of a message that are written for each target and that no rule
asks a text of. -/
def unchecked (m : Message) (n : Notification) : List Value := [
  m.collapseKey, n.title, n.body, n.clickAction, n.tag, m.packageName, m.timeToLive]

/-- Whatever is written for a target has a text, as far as the rules do not
see to it. -/
def Sendable (m : Message) : Prop :=
  ∀ ts n, m.targets.items = .ok ts → notificationOf m.notification = .ok n →
    (∀ t ∈ ts, HasText t) ∧ ∀ v ∈ m.unchecked n, Json.HasTextIfPresent v

/-- For an accepted message, whether there is a body depends on the unchecked
values alone. -/
theorem wireFor_encode_succeeds_iff {m : Message} {config : Config}
    (hv : validate (some m) config = .ok m) (n : Notification) (target : Value) :
    (∃ body, (m.wireFor n target).encode = .ok body) ↔
      HasText target ∧ ∀ v ∈ m.unchecked n, Json.HasTextIfPresent v := by
  obtain ⟨-, -, -, hpriority, hdata⟩ := validate_eq_ok_iff.mp hv
  obtain ⟨s, hs⟩ := checkPriority_ok hpriority
  have hpriority : Json.HasTextIfPresent m.priority := fun _ => hs ▸ Json.hasText_text s
  have hdata : Json.HasTextIfPresent m.data := by
    intro hpresent
    rcases checkData_ok_iff.mp hdata with hnull | htext
    · rw [hnull] at hpresent
      cases hpresent
    · exact htext
  rw [WireMessage.encode_succeeds_iff]
  simp only [wireFor, WireMessage.optionalValues, unchecked, List.forall_mem_cons]
  grind

theorem sendable_iff_encode_succeeds {m : Message} {config : Config}
    (hv : validate (some m) config = .ok m) :
    m.Sendable ↔
      ∀ ts n, m.targets.items = .ok ts → notificationOf m.notification = .ok n →
        ∀ t ∈ ts, ∃ body, (m.wireFor n t).encode = .ok body := by
  constructor
  · intro h ts n hts hn t ht
    obtain ⟨htargets, hothers⟩ := h ts n hts hn
    exact (wireFor_encode_succeeds_iff hv n t).mpr ⟨htargets t ht, hothers⟩
  · intro h ts n hts hn
    have hboth : ∀ t ∈ ts, HasText t ∧ ∀ v ∈ m.unchecked n, Json.HasTextIfPresent v :=
      fun t ht => (wireFor_encode_succeeds_iff hv n t).mp (h ts n hts hn t ht)
    -- an accepted message has a target, and the other values are written for it
    obtain ⟨t, ht⟩ := List.exists_mem_of_ne_nil ts (targets_of_validated hv hts).2
    exact ⟨fun t ht => (hboth t ht).1, (hboth t ht).2⟩

end Message
end PushRelay
