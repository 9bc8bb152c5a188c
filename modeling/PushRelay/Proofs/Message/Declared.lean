import PushRelay.Proofs.Message.Body

/-!
# Messages of the declared types

The fields of a message are meant to hold values of certain types, and the
limits of a configuration are meant to be numbers. Of a message that keeps to
its types the rules, under the default limits, are the only judges: it is
accepted or refused, nothing is misused, and whatever has been accepted can be
written for every target.
-/

namespace PushRelay

open Json (HasText)

/-- The limits that messages are held to are the default ones. -/
structure Config.DefaultLimits (config : Config) : Prop where
  maxTargets : config.maxTargets = ({} : Config).maxTargets
  maxTimeToLive : config.maxTimeToLive = ({} : Config).maxTimeToLive
  allowedPriorities : config.allowedPriorities = ({} : Config).allowedPriorities

/-- The fields of a notification are texts. -/
structure Notification.Declared (n : Notification) : Prop where
  title : n.title.isText = true
  body : n.body.isText = true
  clickAction : n.clickAction.isText = true
  tag : n.tag.isText = true

namespace Message

/-- The fields of a message have the types that are declared for them. The
truth values count as integers. -/
structure Declared (m : Message) : Prop where
  targets : m.targets = .null ∨
    ∃ ts, (m.targets = .list ts ∨ m.targets = .tuple ts) ∧ ∀ t ∈ ts, t.isText = true
  collapseKey : m.collapseKey.isText = true
  notification : ∃ n, m.notification = .notification n ∧ n.Declared
  data : m.data = .null ∨ m.data.entries?.isSome = true
  delayWhileIdle : ∃ b, m.delayWhileIdle = .bool b
  timeToLive : m.timeToLive.toInt?.isSome = true
  priority : m.priority.isText = true
  packageName : m.packageName.isText = true
  dryRun : ∃ b, m.dryRun = .bool b

/-! ## Nothing is misused -/

/-- If the rules do not accept, they refuse. -/
def Judged {α : Type} (r : Except MessageFailure α) : Prop :=
  ∀ e, r = .error e → ∃ message field, e = .refused (.validation message field)

theorem Judged.ok {α : Type} (a : α) : Judged (.ok a) := by
  intro e he
  cases he

theorem Judged.refused {α : Type} (message field : Value) :
    Judged (.error (.refused (.validation message field)) : Except MessageFailure α) := by
  intro e he
  cases he
  exact ⟨message, field, rfl⟩

theorem Judged.bind {α β : Type} {x : Except MessageFailure α}
    {f : α → Except MessageFailure β} (hx : Judged x) (hf : ∀ a, Judged (f a)) :
    Judged (x >>= f) := by
  cases x with
  | error e =>
    intro e' he
    cases he
    exact hx e rfl
  | ok a => exact hf a

section

variable {config : Config} (hlimits : config.DefaultLimits)

include hlimits

theorem judged_targets {targets : Value} {n : Nat} (hlength : targets.length = .ok n) :
    Judged (checkTargets targets config) := by
  unfold checkTargets
  split
  · exact .refused _ _
  · exact .refused _ _
  · exact .refused _ _
  · rw [hlength, hlimits.maxTargets]
    show Judged (if n = 0 then _ else _)
    split
    · exact .refused _ _
    · show Judged (if decide _ = true then _ else _)
      split
      · exact .refused _ _
      · exact .ok ()

/-- The bounds that a refusal names can be written. -/
theorem limits_printed :
    config.maxTargets.printed = .ok config.maxTargets.shown ∧
      config.maxTimeToLive.printed = .ok config.maxTimeToLive.shown := by
  rw [hlimits.maxTargets, hlimits.maxTimeToLive]
  constructor
  · exact Value.printed_of_toInt? rfl (Json.short_of_lt_pow (k := 4) (by decide) (by decide))
  · exact Value.printed_of_toInt? rfl (Json.short_of_lt_pow (k := 7) (by decide) (by decide))

theorem judged_timeToLive (ttl : Value) : Judged (checkTimeToLive ttl config) := by
  have hbad : ∃ bad, badTimeToLive ttl config = .ok bad := by
    unfold badTimeToLive
    rw [hlimits.maxTimeToLive]
    split
    · split
      · exact ⟨true, rfl⟩
      · exact ⟨_, rfl⟩
    · exact ⟨true, rfl⟩
  obtain ⟨bad, hbad⟩ := hbad
  unfold checkTimeToLive
  rw [hbad, (limits_printed hlimits).2]
  cases bad with
  | true => exact .refused _ _
  | false => exact .ok ()

theorem judged_priority (priority : Value) :
    Judged (checkPriority priority config) := by
  have hbad : ∃ bad, badPriority priority config = .ok bad := by
    unfold badPriority
    rw [hlimits.allowedPriorities]
    split
    · split
      · exact ⟨false, rfl⟩
      · exact ⟨_, rfl⟩
    · exact ⟨true, rfl⟩
  obtain ⟨bad, hbad⟩ := hbad
  unfold checkPriority
  rw [hbad, hlimits.allowedPriorities]
  cases bad with
  | true => exact .refused _ _
  | false => exact .ok ()

end

theorem judged_data (data : Value) : Judged (checkData data) := by
  unfold checkData
  split
  · exact .ok ()
  · split
    · exact .ok ()
    · exact .refused _ _

/-- A message of the declared types is accepted or refused. -/
theorem Declared.judged {m : Message} {config : Config} (h : m.Declared)
    (hlimits : config.DefaultLimits) : Judged (validate (some m) config) := by
  have htargets : Judged (checkTargets m.targets config) := by
    rcases h.targets with hnull | ⟨ts, hts | hts, -⟩
    · rw [hnull]
      exact .refused _ _
    · exact judged_targets hlimits (n := ts.length) (by rw [hts]; rfl)
    · exact judged_targets hlimits (n := ts.length) (by rw [hts]; rfl)
  unfold validate
  refine htargets.bind fun _ => ?_
  refine (judged_timeToLive hlimits _).bind fun _ => ?_
  refine (judged_priority hlimits _).bind fun _ => ?_
  exact (judged_data m.data).bind fun _ => .ok m

/-! ## What has been accepted can be written -/

theorem hasText_of_isText {v : Value} (h : v.isText = true) : HasText v := by
  cases v with
  | text s => exact Json.hasText_text s
  | _ => cases h

/-- A time to live within the default bounds has few digits. -/
theorem hasText_of_checkTimeToLive {ttl : Value} {config : Config}
    (hlimits : config.DefaultLimits) (h : checkTimeToLive ttl config = .ok ()) :
    HasText ttl := by
  have hgood := checkTimeToLive_ok_iff.mp h
  unfold badTimeToLive at hgood
  rw [hlimits.maxTimeToLive] at hgood
  split at hgood
  · rename_i n
    split at hgood
    · cases hgood
    · rename_i hnonneg
      have hbelow : ¬ (PushRelay.maxTimeToLive : Int) < n := by
        intro habove
        have hdecide : decide ((PushRelay.maxTimeToLive : Int) < n) = false :=
          Except.ok.inj hgood
        rw [decide_eq_true habove] at hdecide
        cases hdecide
      have hmax : PushRelay.maxTimeToLive < 10 ^ 7 := by decide
      have hshort : n.natAbs < 10 ^ 7 := by omega
      exact Json.hasText_int (Json.short_of_lt_pow hshort (by decide))
  · cases hgood

theorem Declared.sendable {m : Message} {config : Config} (h : m.Declared)
    (hlimits : config.DefaultLimits) (hv : validate (some m) config = .ok m) :
    m.Sendable := by
  obtain ⟨-, -, httl, -⟩ := validate_eq_ok_iff.mp hv
  intro ts n hts hn
  obtain ⟨n', hn', hdeclared⟩ := h.notification
  have hsame : n = n' := by
    rw [hn'] at hn
    exact (Except.ok.inj hn).symm
  subst hsame
  constructor
  · rcases h.targets with hnull | ⟨us, hus, hall⟩
    · rw [hnull] at hts
      cases hts
    · have husts : us = ts := by
        rcases hus with hus | hus
        · rw [hus] at hts
          exact Except.ok.inj hts
        · rw [hus] at hts
          exact Except.ok.inj hts
      subst husts
      exact fun t ht => hasText_of_isText (hall t ht)
  · have htext : ∀ v : Value, v.isText = true → Json.HasTextIfPresent v :=
      fun v hv _ => hasText_of_isText hv
    simp only [unchecked, List.forall_mem_cons]
    exact ⟨htext _ h.collapseKey, htext _ hdeclared.title, htext _ hdeclared.body,
      htext _ hdeclared.clickAction, htext _ hdeclared.tag, htext _ h.packageName,
      fun _ => hasText_of_checkTimeToLive hlimits httl, List.forall_mem_nil _⟩

/-- An accepted message of the declared types has a body for each of its
targets. -/
theorem Declared.bodies {m : Message} {config : Config} (h : m.Declared)
    (hlimits : config.DefaultLimits) (hv : validate (some m) config = .ok m) :
    ∃ ts n, m.targets.items = .ok ts ∧ notificationOf m.notification = .ok n ∧
      ∀ w ∈ ts.map (m.wireFor n), w.encode = .ok w.body := by
  obtain ⟨ts, hts, -, -⟩ := checkTargets_ok (validate_eq_ok_iff.mp hv).2.1
  obtain ⟨n, hn, -⟩ := h.notification
  have hnotification : notificationOf m.notification = .ok n := by
    rw [hn]
    rfl
  refine ⟨ts, n, hts, hnotification, ?_⟩
  intro w hw
  obtain ⟨t, ht, rfl⟩ := List.mem_map.mp hw
  obtain ⟨body, hbody⟩ := (sendable_iff_encode_succeeds hv).mp (h.sendable hlimits hv)
    ts n hts hnotification t ht
  rw [hbody, WireMessage.body_of_encode hbody]

end Message
end PushRelay
