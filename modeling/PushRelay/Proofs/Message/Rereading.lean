import Mathlib.Data.List.Forall2
import PushRelay.Proofs.Message.Payload
import PushRelay.Proofs.Message.Rendering

/-!
# Rereading

The message that is read back from a payload need not equal the one that was
rendered, but it has the same payload, means the same to every target, and is
accepted wherever the first one was. Of the messages of the declared types
those come back as they were whose targets are none or a list, and whose data
are not empty.
-/

namespace PushRelay
namespace Message

/-! ## The same payload -/

theorem targetList_eq_ok_iff {m : Message} {targets : Value} :
    m.targetList = .ok targets ↔ m.targets = .null ∧ targets = .null ∨
      m.targets ≠ .null ∧ ∃ ts, m.targets.items = .ok ts ∧ targets = .list ts := by
  unfold targetList
  split
  · rename_i hnull
    simp [hnull, eq_comm]
  · rename_i hpresent
    have hpresent : m.targets ≠ .null := hpresent
    cases m.targets.items with
    | error e => simp [hpresent]
    | ok ts =>
      show Except.ok (Value.list ts) = Except.ok targets ↔ _
      simp [hpresent, eq_comm]

/-- The fields that hold nothing are left out again, and the others are as
they were. -/
theorem reread_payloadFields (m : Message) (targets targets' : Value) (n : Notification) :
    (m.reread targets n).payloadFields targets' n = m.payloadFields targets' n := by
  simp only [payloadFields, reread, Value.copied_orDefault_null, Value.copied_copied]
  rw [whenPresent_orDefault rfl, whenPresent_orDefault rfl, whenPresent_orDefault rfl,
    whenPresent_orDefault rfl, whenPresent_orDefault rfl]
  rfl

section

variable {m : Message} {targets : Value} {n : Notification}
  (hdata : m.data = .null ∨ m.data.entries?.isSome = true) (htargets : m.targetList = .ok targets)

include hdata in
theorem reread_data :
    (m.reread targets n).data = .null ∨ (m.reread targets n).data.entries?.isSome = true := by
  unfold reread Value.orDefault
  dsimp only
  split
  · rcases Value.copied_cases m.data with hm | ⟨values, k, e, es, -, -, hm⟩ <;> rw [hm]
    · exact hdata
    · exact .inr rfl
  · exact .inl rfl

include htargets in
theorem reread_targetList : (m.reread targets n).targetList = .ok targets := by
  rcases targetList_eq_ok_iff.mp htargets with ⟨-, rfl⟩ | ⟨-, ts, -, rfl⟩ <;> rfl

include hdata htargets in
theorem reread_toPayload :
    (m.reread targets n).toPayload = .ok (.record (m.payloadFields targets n)) := by
  rw [toPayload_eq_ok_iff (reread_data hdata)]
  exact ⟨targets, n, reread_targetList htargets, rfl, by rw [reread_payloadFields]⟩

end

end Message

/-! ## The same wire messages -/

theorem EqualIfPresent.orDefault {v v' default : Value} (hdefault : default.truthy = false)
    (htruthy : v.truthy = v'.truthy) (hequals : v.equals v' = true) :
    EqualIfPresent (v.orDefault default) v' := by
  unfold EqualIfPresent
  rw [Value.orDefault_of_empty hdefault, htruthy]
  cases h : v'.truthy with
  | false => exact .inl ⟨rfl, rfl⟩
  | true =>
    rw [Value.orDefault, htruthy, h]
    exact .inr ⟨rfl, rfl, hequals⟩

namespace Message

theorem reread_alike (m : Message) (targets : Value) (n : Notification) (target : Value) :
    ((m.reread targets n).wireFor n target).Alike (m.wireFor n target) where
  token := target.equals_refl
  collapseKey := .orDefault rfl rfl (Value.equals_refl _)
  title := .refl _
  body := .refl _
  data := .orDefault rfl m.data.copied_truthy m.data.copied_equals
  delayWhileIdle := rfl
  timeToLive := .orDefault rfl rfl (Value.equals_refl _)
  packageName := .orDefault rfl rfl (Value.equals_refl _)
  dryRun := rfl
  clickAction := .refl _
  tag := .refl _
  priority := .orDefault rfl rfl (Value.equals_refl _)

/-! ## The same judgement -/

theorem checkTimeToLive_ok {ttl : Value} {config : Config}
    (h : checkTimeToLive ttl config = .ok ()) : ∃ k, ttl = .int k := by
  have hgood := checkTimeToLive_ok_iff.mp h
  cases ttl with
  | int k => exact ⟨k, rfl⟩
  | _ => cases hgood

/-- The targets in a list are as many as they were. -/
theorem checkTargets_listed {targets : Value} {ts : List Value} {config : Config}
    (hts : targets.items = .ok ts) (h : checkTargets targets config = .ok ()) :
    checkTargets (.list ts) config = .ok () := by
  obtain ⟨ts', hts', hlength, -⟩ := checkTargets_ok h
  cases hts.symm.trans hts'
  unfold checkTargets at h
  split at h
  · cases h
  · cases h
  · cases h
  · rw [hlength] at h
    exact h

/-- Data that can be written are not copied, and null data stay null. -/
theorem checkData_reread {m : Message} {targets : Value} {n : Notification}
    (h : checkData m.data = .ok ()) : checkData (m.reread targets n).data = .ok () := by
  have hcopied : m.data.copied = m.data := by
    rcases checkData_ok_iff.mp h with hnull | ⟨text, htext⟩
    · rw [hnull]
      rfl
    · cases hm : m.data with
      | knot values k =>
        rw [hm] at htext
        cases htext
      | _ => rfl
  show checkData (m.data.copied.orDefault .null) = .ok ()
  rw [hcopied, Value.orDefault]
  split
  · exact h
  · rfl

/-- Every rule that holds of the message holds of the one that is read back. -/
theorem reread_validated {m : Message} {targets : Value} {n : Notification} {config : Config}
    (htargets : m.targetList = .ok targets) (h : validate (some m) config = .ok m) :
    validate (some (m.reread targets n)) config = .ok (m.reread targets n) := by
  obtain ⟨-, hchecked, httl, hpriority, hdata⟩ := validate_eq_ok_iff.mp h
  refine validate_eq_ok_iff.mpr ⟨rfl, ?_, ?_, ?_, checkData_reread hdata⟩
  · rcases targetList_eq_ok_iff.mp htargets with ⟨hnull, -⟩ | ⟨-, ts, hts, rfl⟩
    · rw [hnull] at hchecked
      cases hchecked
    · exact checkTargets_listed hts hchecked
  · obtain ⟨k, hk⟩ := checkTimeToLive_ok httl
    simpa only [reread, hk, Value.orDefault_int] using httl
  · obtain ⟨s, hs⟩ := checkPriority_ok hpriority
    simpa only [reread, hs, Value.orDefault_text] using hpriority

/-- One message is rendered as the same payload as another, its wire messages
have equal dictionaries, and it is accepted whenever the other is. -/
structure KeepsMeaning (m m2 : Message) (payload : Value) : Prop where
  payload : m2.toPayload = .ok payload
  wires : m.targets ≠ .null → ∃ ws ws2, m.translateAll = .ok ws ∧ m2.translateAll = .ok ws2 ∧
    List.Forall₂ (fun w w2 => w2.toDict.equals w.toDict = true) ws ws2
  accepted : ∀ config, validate (some m) config = .ok m → validate (some m2) config = .ok m2

/-- Whatever stands in the fields of a message, its data apart: what is read
back from its payload, if anything is, keeps its meaning. -/
theorem ofPayload_keepsMeaning {m m2 : Message} {payload : Value}
    (hdata : m.data = .null ∨ m.data.entries?.isSome = true) (hp : m.toPayload = .ok payload)
    (hread : ofPayload payload = .ok m2) : m.KeepsMeaning m2 payload := by
  obtain ⟨targets, n, htargets, hn, rfl⟩ := (toPayload_eq_ok_iff hdata).mp hp
  obtain ⟨-, -, -, rfl⟩ :=
    ((renderedAs_payloadFields m targets n).ofPayload_eq_ok_iff hdata).mp hread
  refine ⟨reread_toPayload hdata htargets, fun hpresent => ?_, fun config h =>
    reread_validated htargets h⟩
  obtain ⟨hnull, -⟩ | ⟨-, ts, hts, rfl⟩ := targetList_eq_ok_iff.mp htargets
  · exact absurd hnull hpresent
  have hnotice : notificationOf m.notification = .ok n := by
    rw [hn]
    rfl
  -- both are translated for the same targets, one by one
  refine ⟨_, _, translateAll_eq_map hts hnotice, translateAll_eq_map rfl rfl, ?_⟩
  rw [List.forall₂_map_left_iff, List.forall₂_map_right_iff, List.forall₂_same]
  exact fun t _ => (WireMessage.toDict_equals_iff _ _).mpr (reread_alike m _ n t)

/-- Two targets in a tuple, a key that is an empty list, empty data and a flag
that is a text: what is read back is another message, but no less valid. -/
theorem odd_message_keepsMeaning :
    let m : Message := {
        targets := .tuple [.text "t1", .text "t2"], collapseKey := .list [], data := .dict [],
        delayWhileIdle := .text "yes", timeToLive := .int 60,
        dryRun := .float (.finite true 0 (-1074)) };
    ∃ payload m2, m.toPayload = .ok payload ∧ ofPayload payload = .ok m2 ∧
      m2.equals m = false ∧ m.KeepsMeaning m2 payload ∧ validate (some m2) {} = .ok m2 := by
  intro m
  let targets : Value := .list [.text "t1", .text "t2"]
  have hlist : m.targetList = .ok targets := rfl
  have hdata : m.data = .null ∨ m.data.entries?.isSome = true := .inr rfl
  have hpayload := (toPayload_eq_ok_iff hdata).mpr ⟨_, _, hlist, rfl, rfl⟩
  have hread := ((renderedAs_payloadFields m targets {}).ofPayload_eq_ok_iff hdata).mpr
    ⟨.inr ⟨_, rfl, by simp [Value.isText]⟩, ⟨60, rfl⟩, ⟨"", rfl⟩, rfl⟩
  have hkept := ofPayload_keepsMeaning hdata hpayload hread
  refine ⟨_, _, hpayload, hread, ?_, hkept, hkept.accepted {} rfl⟩
  simp [equals, fields, m, reread, Value.equalsAll, Value.equals, Value.numbersEqual, Value.toInt?]

/-! ## The same message -/

/-- The targets are texts in a row, or the letters of a text. -/
def TargetsInRow (targets : Value) : Prop :=
  (∃ ts, (targets = .list ts ∨ targets = .tuple ts) ∧ ∀ t ∈ ts, t.isText = true) ∨
    ∃ s, targets = .text s

theorem TypedContent.reread_eq {m : Message} {n : Notification} (h : m.TypedContent n)
    (targets : Value) :
    m.reread targets n = { m with targets, data := m.data.copied.orDefault .null } := by
  obtain ⟨key, hkey⟩ := Value.isText_iff.mp h.collapseKey
  obtain ⟨idle, hidle⟩ := h.delayWhileIdle
  obtain ⟨ttl, httl⟩ := h.timeToLive
  obtain ⟨priority, hpriority⟩ := Value.isText_iff.mp h.priority
  obtain ⟨package, hpackage⟩ := Value.isText_iff.mp h.packageName
  obtain ⟨dry, hdry⟩ := h.dryRun
  simp only [reread, hkey, hidle, httl, hpriority, hpackage, hdry, h.notification,
    Value.orDefault_text, Value.orDefault_int, Value.truthy]

theorem equals_readdressed_iff (m : Message) (targets data : Value) :
    ({ m with targets, data } : Message).equals m = true ↔
      targets.equals m.targets = true ∧ data.equals m.data = true := by
  have hnotice : m.notification.equals m.notification = true := by
    cases m.notification <;> simp [Notice.equals, Notification.equals, Value.equals_refl]
  simp [equals, hnotice, fields, Value.equalsAll, Value.equals_refl]

/-- Such targets come back as a list. -/
theorem TargetsInRow.items {targets : Value} (h : TargetsInRow targets) :
    targets ≠ .null ∧ ∃ ts, targets.items = .ok ts ∧ (∀ t ∈ ts, t.isText = true) ∧
      ((Value.list ts).equals targets = true ↔ ∃ us, targets = .list us) := by
  rcases h with ⟨ts, rfl | rfl, htexts⟩ | ⟨s, rfl⟩
  · refine ⟨by simp, ts, rfl, htexts, ?_⟩
    simp [Value.equals_refl]
  · refine ⟨by simp, ts, rfl, htexts, ?_⟩
    simp [Value.equals, Value.numbersEqual, Value.toInt?]
  · refine ⟨by simp, _, rfl, List.forall_mem_map.mpr fun _ _ => rfl, ?_⟩
    simp [Value.equals, Value.numbersEqual, Value.toInt?]

theorem targetList_of_typed {m : Message} (h : m.targets = .null ∨ TargetsInRow m.targets) :
    ∃ targets, m.targetList = .ok targets ∧
      (targets = .null ∨ ∃ ts, targets = .list ts ∧ ∀ t ∈ ts, t.isText = true) ∧
      (targets.equals m.targets = true ↔ m.targets = .null ∨ ∃ ts, m.targets = .list ts) := by
  simp only [targetList_eq_ok_iff]
  rcases h with hnull | hrow
  · exact ⟨.null, .inl ⟨hnull, rfl⟩, .inl rfl, by simp [hnull, Value.equals_refl]⟩
  · obtain ⟨hpresent, ts, hts, htexts, hsame⟩ := hrow.items
    refine ⟨.list ts, .inr ⟨hpresent, ts, hts, rfl⟩, .inr ⟨ts, rfl, htexts⟩, ?_⟩
    simp [hsame, hpresent]

theorem copied_equals_iff {data : Value} (h : data = .null ∨ data.entries?.isSome = true) :
    (data.copied.orDefault .null).equals data = true ↔ data ≠ .dict [] := by
  rcases Value.null_or_dict h with rfl | ⟨entries, rfl⟩ | ⟨values, k, e, es, rfl, hes⟩
  · have hnull : (Value.null.copied.orDefault .null).equals .null = true := Value.equals_refl _
    simp [hnull]
  · cases entries with
    | nil =>
      show Value.null.equals (.dict []) = true ↔ _
      simp [Value.equals, Value.numbersEqual, Value.toInt?]
    | cons e es =>
      have hcopied := Value.copied_equals (.dict (e :: es))
      exact iff_of_true hcopied (by simp)
  · have hcopied := Value.copied_equals (.knot values k)
    rw [Value.orDefault, if_pos (by rw [Value.copied_truthy]; rfl)]
    exact iff_of_true hcopied (by simp)

/-- A message of the declared types can be read back from its payload, and is
the same just if its targets are none or a list and its data not empty. -/
theorem TypedContent.read_back {m : Message} {n : Notification} (h : m.TypedContent n)
    (htargets : m.targets = .null ∨ TargetsInRow m.targets) :
    ∃ payload m2, m.toPayload = .ok payload ∧ ofPayload payload = .ok m2 ∧
      (m2.equals m = true ↔
        (m.targets = .null ∨ ∃ ts, m.targets = .list ts) ∧ m.data ≠ .dict []) := by
  obtain ⟨targets, hlist, htexts, hsame⟩ := targetList_of_typed htargets
  refine ⟨_, _, (toPayload_eq_ok_iff h.data).mpr ⟨targets, n, hlist, h.notification, rfl⟩,
    ((renderedAs_payloadFields m targets n).ofPayload_eq_ok_iff h.data).mpr
      ⟨htexts, ?_, ?_, rfl⟩, ?_⟩
  · obtain ⟨k, hk⟩ := h.timeToLive
    exact ⟨k, by rw [hk, Value.orDefault_int]⟩
  · obtain ⟨s, hs⟩ := Value.isText_iff.mp h.priority
    exact ⟨s, by rw [hs, Value.orDefault_text]⟩
  · rw [h.reread_eq, equals_readdressed_iff, hsame, copied_equals_iff h.data]

/-- The same texts in a list come back as they are, in a tuple as something
else. -/
theorem showing_read_back :
    let n : Notification := { title := .text "Hello" }
    let texts : List Value := [.text "t1", .text "t2"]
    (∃ payload m2, (showing n (.list texts) .null).toPayload = .ok payload ∧
      ofPayload payload = .ok m2 ∧ m2.equals (showing n (.list texts) .null) = true) ∧
    (∃ payload m2, (showing n (.tuple texts) .null).toPayload = .ok payload ∧
      ofPayload payload = .ok m2 ∧ m2.equals (showing n (.tuple texts) .null) = false) := by
  intro n texts
  have hn : n.Declared := ⟨rfl, rfl, rfl, rfl⟩
  have htexts : ∀ t ∈ texts, t.isText = true := by simp [texts, Value.isText]
  constructor
  · have htyped : (showing n (.list texts) .null).TypedContent n :=
      typedContent_showing hn (.inl rfl) (.list texts)
    obtain ⟨payload, m2, hpayload, hread, hsame⟩ :=
      TypedContent.read_back htyped (.inr (.inl ⟨texts, .inl rfl, htexts⟩))
    exact ⟨payload, m2, hpayload, hread, hsame.mpr ⟨.inr ⟨texts, rfl⟩, by simp [showing]⟩⟩
  · have htyped : (showing n (.tuple texts) .null).TypedContent n :=
      typedContent_showing hn (.inl rfl) (.tuple texts)
    obtain ⟨payload, m2, hpayload, hread, hsame⟩ :=
      TypedContent.read_back htyped (.inr (.inl ⟨texts, .inr rfl, htexts⟩))
    refine ⟨payload, m2, hpayload, hread, Bool.eq_false_iff.mpr fun h => ?_⟩
    obtain ⟨hnull | ⟨_, hlist⟩, -⟩ := hsame.mp h
    · cases hnull
    · cases hlist

end Message
end PushRelay
