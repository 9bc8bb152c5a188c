import PushRelay.Proofs.Message.Records
import PushRelay.Proofs.Message.RoundTrip

/-!
# Payloads, written and read

A payload is written without the fields that hold nothing, and what a payload
does not have is read as a default. So what is read back from the payload of a
message is that message, with defaults for whatever held nothing.
-/

namespace PushRelay

/-! ## Defaults -/

namespace Value

/-- The value, if it holds something. -/
def ifAny (v : Value) : Option Value := if v.truthy then some v else none

/-- The value, or a default if it holds nothing. -/
def orDefault (v default : Value) : Value := if v.truthy then v else default

/-- The value, copied if it is a dictionary. -/
def copied (v : Value) : Value := (v.entries?.map .dict).getD v

theorem orDefault_of_empty {default : Value} (h : default.truthy = false) (v : Value) :
    (v.orDefault default).truthy = v.truthy := by
  unfold orDefault
  split <;> simp_all

@[simp] theorem copied_copied (v : Value) : v.copied.copied = v.copied := by
  unfold copied
  cases h : v.entries? with
  | none => exact congrArg (fun e => (e.map Value.dict).getD v) h
  | some entries => rfl

/-- A dictionary that holds itself is untied by copying it; nothing else is
changed. -/
theorem copied_cases (v : Value) : v.copied = v ∨
    ∃ values k e es, v = .knot values k ∧ untied values k = .dict (e :: es) ∧
      v.copied = .dict (e :: es) := by
  unfold copied
  cases hentries : v.entries? with
  | none => exact .inl rfl
  | some entries =>
    rcases null_or_dict (.inr (by rw [hentries]; rfl)) with
      rfl | ⟨es, rfl⟩ | ⟨values, k, e, es, rfl, hes⟩
    · cases hentries
    · cases hentries
      exact .inl rfl
    · rw [entries?_knot hes] at hentries
      cases hentries
      exact .inr ⟨values, k, e, es, rfl, hes, rfl⟩

@[simp] theorem copied_truthy (v : Value) : v.copied.truthy = v.truthy := by
  rcases copied_cases v with h | ⟨values, k, e, es, rfl, -, h⟩
  · rw [h]
  · rw [h]
    rfl

/-- A copy of a dictionary that holds itself has that one for an entry. -/
@[simp] theorem copied_equals (v : Value) : v.copied.equals v = true := by
  rcases copied_cases v with h | ⟨values, k, e, es, rfl, hes, h⟩
  · rw [h]
    exact equals_refl v
  · rw [h, ← hes]
    exact untied_equals values k

theorem copied_orDefault_null (v : Value) :
    (v.orDefault .null).copied = v.copied.orDefault .null := by
  unfold orDefault
  rw [copied_truthy]
  split <;> rfl

@[simp] theorem orDefault_int (k : Int) : (Value.int k).orDefault (.int 0) = .int k := by
  unfold orDefault
  split
  · rfl
  · simp_all [truthy]

@[simp] theorem orDefault_text (s : String) : (Value.text s).orDefault (.text "") = .text s := by
  unfold orDefault
  split
  · rfl
  · simp_all [truthy]

theorem getD_ifAny {entries : Entries} {name : String} {v : Value}
    (h : Entries.get? entries name = v.ifAny) (default : Value) :
    Entries.getD entries name default = v.orDefault default := by
  rw [Entries.getD, h, ifAny, orDefault]
  split <;> rfl

end Value

theorem whenPresent_orDefault {default : Value} (h : default.truthy = false) (name : String)
    (v : Value) : whenPresent name (v.orDefault default) = whenPresent name v := by
  unfold whenPresent
  rw [Value.orDefault_of_empty h]
  split
  · simp_all [Value.orDefault]
  · rfl

@[simp] theorem Notification.ofPayload_toPayload (n : Notification) :
    Notification.ofPayload n.toPayload = .ok n := rfl

namespace Message

/-! ## The payload -/

/-- The fields of the payload of a message. -/
def payloadFields (m : Message) (targets : Value) (n : Notification) : List (String × Value) :=
  [("registration_ids", targets), ("notification", n.toPayload)] ++
  whenPresent "collapse_key" m.collapseKey ++ whenPresent "data" m.data.copied ++
  whenSet "delay_while_idle" m.delayWhileIdle ++ whenPresent "time_to_live" m.timeToLive ++
  whenPresent "priority" m.priority ++ whenPresent "restricted_package_name" m.packageName ++
  whenSet "dry_run" m.dryRun

/-- Data that are none or a dictionary go into the payload as a copy. -/
theorem dataFields_eq {m : Message} (hdata : m.data = .null ∨ m.data.entries?.isSome = true) :
    m.dataFields = .ok (whenPresent "data" m.data.copied) := by
  unfold dataFields
  rcases Value.null_or_dict hdata with hm | ⟨entries, hm⟩ | ⟨values, k, e, es, hm, hes⟩ <;>
    rw [hm]
  · rfl
  · cases entries <;> rfl
  · simp only [Value.toDict, Value.copied, Value.entries?_knot hes]
    rfl

theorem toPayload_eq_ok_iff {m : Message} {p : Value}
    (hdata : m.data = .null ∨ m.data.entries?.isSome = true) :
    m.toPayload = .ok p ↔ ∃ targets n, m.targetList = .ok targets ∧
      m.notification = .notification n ∧ p = .record (m.payloadFields targets n) := by
  have hnotice : ∀ v, m.noticePayload = .ok v ↔
      ∃ n, m.notification = .notification n ∧ v = n.toPayload := by
    intro v
    unfold noticePayload
    cases m.notification <;> simp [eq_comm]
  unfold toPayload
  simp only [bind_eq_ok_iff, dataFields_eq hdata, hnotice, Except.ok.injEq]
  constructor
  · rintro ⟨targets, htargets, _, ⟨n, hn, rfl⟩, _, rfl, rfl⟩
    exact ⟨targets, n, htargets, hn, rfl⟩
  · rintro ⟨targets, n, htargets, hn, rfl⟩
    exact ⟨targets, htargets, _, ⟨n, hn, rfl⟩, _, rfl, rfl⟩

/-! ## The message that is read back -/

/-- The message with everything that holds nothing replaced by a default. -/
def reread (m : Message) (targets : Value) (n : Notification) : Message where
  targets
  collapseKey := m.collapseKey.orDefault (.text "")
  notification := .notification n
  data := m.data.copied.orDefault .null
  delayWhileIdle := .bool m.delayWhileIdle.truthy
  timeToLive := m.timeToLive.orDefault (.int 0)
  priority := m.priority.orDefault (.text "")
  packageName := m.packageName.orDefault (.text "")
  dryRun := .bool m.dryRun.truthy

/-- A copy of the data is read as they are, or as none. -/
theorem readData_copied {data : Value} (hdata : data = .null ∨ data.entries?.isSome = true) :
    readData data.copied.ifAny = .ok (data.copied.orDefault .null) := by
  rcases Value.null_or_dict hdata with rfl | ⟨entries, rfl⟩ | ⟨values, k, e, es, rfl, hes⟩
  · rfl
  · cases entries <;> rfl
  · rw [Value.copied, Value.entries?_knot hes]
    rfl

theorem readTargets_eq_ok_iff {v targets : Value} :
    readTargets (some v) = .ok targets ↔ targets = v ∧
      (v = .null ∨ ∃ ts, v = .list ts ∧ ∀ t ∈ ts, t.isText = true) := by
  have hlist : ∀ ts : List Value, readTargets (some (.list ts)) = .ok targets ↔
      targets = .list ts ∧ ∀ t ∈ ts, t.isText = true := by
    intro ts
    show (if ts.all Value.isText then Except.ok (Value.list ts) else _) = _ ↔ _
    rw [← List.all_eq_true]
    split
    · rename_i htexts
      simp [htexts, eq_comm]
    · rename_i htexts
      simp [htexts, MessageFailure.invalid]
  cases v with
  | null =>
    show Except.ok Value.null = .ok targets ↔ _
    rw [Except.ok.injEq, eq_comm]
    simp only [true_or, and_true]
  | list ts => simp [hlist]
  | knot values k =>
    cases hitems : (Value.knot values k).elements? with
    | none => simp [readTargets, hitems, MessageFailure.invalid]
    | some items =>
      simp [readTargets, hitems, Value.not_all_text_of_knot hitems, MessageFailure.invalid]
  | _ => simp [readTargets, Value.elements?, Value.opened, MessageFailure.invalid]

theorem readTimeToLive_eq_ok_iff {v ttl : Value} :
    readTimeToLive v = .ok ttl ↔ ttl = v ∧ ∃ k, v = .int k := by
  cases v <;> simp [readTimeToLive, MessageFailure.invalid, eq_comm]

theorem readPriority_eq_ok_iff {v priority : Value} :
    readPriority v = .ok priority ↔ priority = v ∧ ∃ s, v = .text s := by
  cases v <;> simp [readPriority, MessageFailure.invalid, eq_comm]

/-- What a payload of a message has under each name. -/
structure RenderedAs (m : Message) (targets : Value) (n : Notification) (entries : Entries) :
    Prop where
  targets : Entries.get? entries "registration_ids" = some targets
  notification : Entries.get? entries "notification" = some n.toPayload
  collapseKey : Entries.get? entries "collapse_key" = m.collapseKey.ifAny
  data : Entries.get? entries "data" = m.data.copied.ifAny
  delayWhileIdle : Entries.get? entries "delay_while_idle" =
    if m.delayWhileIdle.truthy then some (.bool true) else none
  timeToLive : Entries.get? entries "time_to_live" = m.timeToLive.ifAny
  priority : Entries.get? entries "priority" = m.priority.ifAny
  packageName : Entries.get? entries "restricted_package_name" = m.packageName.ifAny
  dryRun : Entries.get? entries "dry_run" = if m.dryRun.truthy then some (.bool true) else none

theorem renderedAs_payloadFields (m : Message) (targets : Value) (n : Notification) :
    m.RenderedAs targets n (Entries.ofFields (m.payloadFields targets n)) := by
  constructor <;>
  simp [Entries.get?_ofFields, payloadFields, List.lookup_append, List.lookup_cons,
    lookup_whenPresent, lookup_whenSet_iff, Value.ifAny]

/-- What can be read back, and as what. -/
theorem RenderedAs.ofPayload_eq_ok_iff {m m2 : Message} {targets : Value} {n : Notification}
    {entries : Entries} (h : m.RenderedAs targets n entries)
    (hdata : m.data = .null ∨ m.data.entries?.isSome = true) :
    ofPayload (.dict entries) = .ok m2 ↔
      (targets = .null ∨ ∃ ts, targets = .list ts ∧ ∀ t ∈ ts, t.isText = true) ∧
      (∃ k, m.timeToLive.orDefault (.int 0) = .int k) ∧
      (∃ s, m.priority.orDefault (.text "") = .text s) ∧ m2 = m.reread targets n := by
  have hread : readData (Entries.get? entries "data") = .ok (m.data.copied.orDefault .null) := by
    rw [h.data]
    exact readData_copied hdata
  have hnotice : Notification.ofPayload (Entries.getD entries "notification" .null) = .ok n := by
    rw [Entries.getD, h.notification]
    exact n.ofPayload_toPayload
  have hkey := Value.getD_ifAny h.collapseKey (.text "")
  have httl := Value.getD_ifAny h.timeToLive (.int 0)
  have hpriority := Value.getD_ifAny h.priority (.text "")
  have hpackage := Value.getD_ifAny h.packageName (.text "")
  have hidle : Entries.getD entries "delay_while_idle" (.bool false) =
      .bool m.delayWhileIdle.truthy := by
    rw [Entries.getD, h.delayWhileIdle]
    split <;> simp_all
  have hdry : Entries.getD entries "dry_run" (.bool false) = .bool m.dryRun.truthy := by
    rw [Entries.getD, h.dryRun]
    split <;> simp_all
  have htable : (Value.dict entries).lookupTable = .ok entries := rfl
  -- only the targets, the time to live and the priority can be refused
  simp only [ofPayload, bind_eq_ok_iff, htable, MessageFailure.ofMisuse, Except.ok.injEq,
    exists_eq_left', h.targets, hread, hnotice, hkey, hpackage, hidle, hdry, httl, hpriority,
    readTargets_eq_ok_iff, readTimeToLive_eq_ok_iff, readPriority_eq_ok_iff]
  constructor
  · rintro ⟨_, ⟨rfl, htargets⟩, _, ⟨rfl, httl⟩, _, ⟨rfl, hpriority⟩, rfl⟩
    exact ⟨htargets, httl, hpriority, rfl⟩
  · rintro ⟨htargets, httl, hpriority, rfl⟩
    exact ⟨_, ⟨rfl, htargets⟩, _, ⟨rfl, httl⟩, _, ⟨rfl, hpriority⟩, rfl⟩

end Message
end PushRelay
