import PushRelay.Proofs.Json.Writable
import PushRelay.Proofs.Message.Validation

/-!
# The meaning of the rules

Under limits that are whole numbers, and priorities that are texts, a message
is accepted just if it keeps every rule, and else refused because of the field
of the first rule that it breaks. Only targets that cannot be counted are not
judged at all.
-/

namespace PushRelay

/-! ## Limits -/

/-- Limits that are what they are meant to be. -/
structure Limits where
  maxTargets : Int
  maxTimeToLive : Int
  priorities : List String

/-- The configuration has these limits, and the bounds are short enough to be
written in a refusal. A truth value counts as the number that it is. -/
structure Config.HasLimits (config : Config) (l : Limits) : Prop where
  maxTargets : config.maxTargets.toInt? = some l.maxTargets
  maxTargets_short : l.maxTargets.natAbs < 10 ^ Numeral.maxDigits
  maxTimeToLive : config.maxTimeToLive.toInt? = some l.maxTimeToLive
  maxTimeToLive_short : l.maxTimeToLive.natAbs < 10 ^ Numeral.maxDigits
  allowedPriorities : config.allowedPriorities = .tuple (l.priorities.map .text)

theorem Value.isBelow_of_toInt? {v : Value} {n : Int} (h : v.toInt? = some n) (k : Int) :
    v.isBelow k = .ok (decide (n < k)) := by
  cases v with
  | bool b => cases h; rfl
  | int m => cases h; rfl
  | _ => cases h

theorem Value.containsText_tuple (texts : List String) (s : String) :
    (Value.tuple (texts.map .text)).containsText s = .ok (decide (s ∈ texts)) := by
  have hany : (texts.map Value.text).any (·.isTextOf s) = decide (s ∈ texts) := by
    rw [List.any_map, ← List.contains_eq_mem, List.contains_eq_any_beq]
    exact congrArg texts.any (funext fun t => BEq.comm)
  exact congrArg Except.ok hany

theorem Value.textsFrom_map (texts : List String) (index : Nat) :
    textsFrom index (texts.map .text) = .ok texts := by
  induction texts generalizing index with
  | nil => rfl
  | cons t ts ih =>
    rw [List.map_cons, textsFrom, ih]
    rfl

theorem Value.joined_tuple (texts : List String) :
    (Value.tuple (texts.map .text)).joined = .ok (", ".intercalate texts) := by
  show (do return ", ".intercalate (← textsFrom 0 (texts.map .text)) : Except Misuse String) = _
  rw [textsFrom_map]
  rfl

namespace Message

/-! ## Rules -/

/-- The targets are there, are neither a text nor octets, and are at least one
and no more than allowed. -/
structure TargetsKept (l : Limits) (targets : Value) : Prop where
  present : targets ≠ .null
  notText : ∀ s, targets ≠ .text s
  notOctets : ∀ octets, targets ≠ .bytes octets
  counted : ∃ n : Nat, targets.length = .ok n ∧ 1 ≤ n ∧ (n : Int) ≤ l.maxTargets

/-- The time to live is a number, and no truth value, within bounds. -/
def TimeToLiveKept (l : Limits) (ttl : Value) : Prop :=
  ∃ n, ttl = .int n ∧ 0 ≤ n ∧ n ≤ l.maxTimeToLive

/-- The priority is an empty text or one of those allowed. -/
def PriorityKept (l : Limits) (priority : Value) : Prop :=
  ∃ s, priority = .text s ∧ (s = "" ∨ s ∈ l.priorities)

/-- There are no data, or they are made of what can be written. -/
def DataKept (data : Value) : Prop := data = .null ∨ Json.Writable data

/-- What a message is held to, in this order. -/
inductive Rule where
  | presence
  | targets
  | timeToLive
  | priority
  | data
  deriving DecidableEq, Repr

namespace Rule

/-- The field that a rule is about; the first is about the message itself. -/
def field : Rule → Value
  | .presence => .null
  | .targets => .text "targets"
  | .timeToLive => .text "time_to_live"
  | .priority => .text "priority"
  | .data => .text "data"

/-- The rules that come before a rule. -/
def earlier : Rule → List Rule
  | .presence => []
  | .targets => [.presence]
  | .timeToLive => [.presence, .targets]
  | .priority => [.presence, .targets, .timeToLive]
  | .data => [.presence, .targets, .timeToLive, .priority]

/-- What may be a message keeps the rule. If there is none, only the first rule
has something to say. -/
def KeptBy (l : Limits) : Option Message → Rule → Prop
  | none, rule => rule ≠ .presence
  | some _, .presence => True
  | some m, .targets => TargetsKept l m.targets
  | some m, .timeToLive => TimeToLiveKept l m.timeToLive
  | some m, .priority => PriorityKept l m.priority
  | some m, .data => DataKept m.data

/-- The rule is the first that is broken. -/
def FirstBroken (l : Limits) (message : Option Message) (rule : Rule) : Prop :=
  ¬ rule.KeptBy l message ∧ ∀ before ∈ rule.earlier, before.KeptBy l message

end Rule

/-- The targets are something without a length. -/
def Uncounted (targets : Value) : Prop := targets ≠ .null ∧ ∀ n, targets.length ≠ .ok n

/-! ## One rule at a time -/

/-- A check that passes if something is kept, and else refuses because of a
field. -/
def Decides (kept : Prop) (field : Value) (check : Except MessageFailure Unit) : Prop :=
  kept ∧ check = .ok () ∨
    ¬ kept ∧ ∃ text, check = .error (.refused (.validation (.text text) field))

theorem Decides.of_iff {kept : Prop} {field : Value} {check : Except MessageFailure Unit}
    {b : Bool} {text : String} (hb : b = false ↔ kept)
    (hcheck : check = if b then MessageFailure.invalid text field else .ok ()) :
    Decides kept field check := by
  cases b with
  | false => exact .inl ⟨hb.mp rfl, hcheck⟩
  | true => exact .inr ⟨fun h => Bool.noConfusion (hb.mpr h), text, hcheck⟩

section

variable {config : Config} {l : Limits} (hlimits : config.HasLimits l)

include hlimits

theorem decides_targets {targets : Value} (hcounted : ¬ Uncounted targets) :
    Decides (TargetsKept l targets) Rule.targets.field (checkTargets targets config) := by
  unfold checkTargets
  split
  · exact .inr ⟨fun h => h.present rfl, _, rfl⟩
  · exact .inr ⟨fun h => h.notText _ rfl, _, rfl⟩
  · exact .inr ⟨fun h => h.notOctets _ rfl, _, rfl⟩
  · rename_i hpresent htext hoctets
    obtain ⟨n, hn⟩ : ∃ n, targets.length = .ok n := by
      by_contra hnone
      exact hcounted ⟨hpresent, fun n hn => hnone ⟨n, hn⟩⟩
    have hbelow := Value.isBelow_of_toInt? hlimits.maxTargets n
    have hkept : TargetsKept l targets ↔ 1 ≤ n ∧ (n : Int) ≤ l.maxTargets := by
      constructor
      · rintro ⟨-, -, -, n', hn', h⟩
        cases hn.symm.trans hn'
        exact h
      · exact fun h => ⟨hpresent, htext, hoctets, n, hn, h⟩
    rw [hn]
    show Decides _ _ (if n = 0 then _ else _)
    split
    · rename_i hzero
      exact .inr ⟨fun h => absurd (hkept.mp h).1 (by omega), _, rfl⟩
    · rw [hbelow, Value.printed_of_toInt? hlimits.maxTargets hlimits.maxTargets_short]
      refine .of_iff ?_ rfl
      rw [hkept, decide_eq_false_iff_not]
      omega

theorem decides_timeToLive (ttl : Value) :
    Decides (TimeToLiveKept l ttl) Rule.timeToLive.field (checkTimeToLive ttl config) := by
  have hbad : ∃ bad, badTimeToLive ttl config = .ok bad ∧
      (bad = false ↔ TimeToLiveKept l ttl) := by
    unfold badTimeToLive TimeToLiveKept
    split
    · rename_i n
      split
      · refine ⟨true, rfl, by simp; omega⟩
      · rw [Value.isBelow_of_toInt? hlimits.maxTimeToLive]
        exact ⟨_, rfl, by simp; omega⟩
    · rename_i hint
      exact ⟨true, rfl, by simpa using fun n hn => (hint n hn).elim⟩
  obtain ⟨bad, hbad, hkept⟩ := hbad
  unfold checkTimeToLive
  rw [hbad, Value.printed_of_toInt? hlimits.maxTimeToLive hlimits.maxTimeToLive_short]
  exact .of_iff hkept rfl

theorem decides_priority (priority : Value) :
    Decides (PriorityKept l priority) Rule.priority.field (checkPriority priority config) := by
  have hbad : ∃ bad, badPriority priority config = .ok bad ∧
      (bad = false ↔ PriorityKept l priority) := by
    unfold badPriority PriorityKept
    split
    · rename_i s
      split
      · rename_i hempty
        exact ⟨false, rfl, by simpa using .inl (String.isEmpty_iff.mp hempty)⟩
      · rename_i hempty
        rw [hlimits.allowedPriorities, Value.containsText_tuple]
        exact ⟨_, rfl, by simp [String.isEmpty_iff.not.mp hempty]⟩
    · rename_i htext
      exact ⟨true, rfl, by simpa using fun s hs => (htext s hs).elim⟩
  obtain ⟨bad, hbad, hkept⟩ := hbad
  unfold checkPriority
  rw [hbad, hlimits.allowedPriorities, Value.joined_tuple]
  exact .of_iff hkept rfl

end

theorem decides_data (data : Value) :
    Decides (DataKept data) Rule.data.field (checkData data) := by
  unfold checkData
  split
  · exact .inl ⟨.inl rfl, rfl⟩
  · rename_i hpresent
    cases hwrite : Json.write data with
    | ok text => exact .inl ⟨.inr ((Json.hasText_iff_writable data).mp ⟨text, hwrite⟩), rfl⟩
    | error e =>
      refine .inr ⟨?_, _, rfl⟩
      rintro (hnull | hwritable)
      · exact hpresent hnull
      · obtain ⟨text, htext⟩ := (Json.hasText_iff_writable data).mpr hwritable
        cases hwrite.symm.trans htext

/-- What targets without a length come to. -/
theorem checkTargets_of_uncounted {targets : Value} (h : Uncounted targets) (config : Config) :
    checkTargets targets config = .error (.misused (.noLength targets.qualifiedTypeName)) := by
  obtain ⟨hpresent, hlength⟩ := h
  cases targets with
  | null => exact absurd rfl hpresent
  | bool | int | float | instant | object => rfl
  | _ => exact absurd rfl (hlength _)

/-! ## All rules in their order -/

/-- What becomes of a message under some limits. -/
structure JudgedBy (l : Limits) (message : Option Message)
    (verdict : Except MessageFailure Message) : Prop where
  accepted_iff : ∀ m, verdict = .ok m ↔ message = some m ∧ ∀ rule, Rule.KeptBy l message rule
  refused : (∃ rule, ¬ Rule.KeptBy l message rule) →
    (∀ m, message = some m → ¬ Uncounted m.targets) →
      ∃ (rule : Rule) (text : String), rule.FirstBroken l message ∧
        verdict = .error (.refused (.validation (.text text) rule.field))
  misused : ∀ m, message = some m → Uncounted m.targets →
    ∃ e : Misuse, verdict = .error (.misused e) ∧ e.className = "TypeError"

/-- Either every rule is kept, and the message accepted, or the first that is
broken is the reason why it is refused. -/
theorem validate_decides {config : Config} {l : Limits} (hlimits : config.HasLimits l)
    {m : Message} (hcounted : ¬ Uncounted m.targets) :
    (∀ rule, Rule.KeptBy l (some m) rule) ∧ validate (some m) config = .ok m ∨
      ∃ (rule : Rule) (text : String), rule.FirstBroken l (some m) ∧
        validate (some m) config = .error (.refused (.validation (.text text) rule.field)) := by
  -- each rule is checked only if those before it are kept
  simp only [validate]
  rcases decides_targets hlimits hcounted with ⟨htargets, hcheck⟩ | ⟨htargets, text, hcheck⟩
  case inr =>
    rw [hcheck]
    exact .inr ⟨.targets, text, ⟨htargets, by simp [Rule.earlier, Rule.KeptBy]⟩, rfl⟩
  rw [hcheck]
  rcases decides_timeToLive hlimits m.timeToLive with ⟨httl, hcheck⟩ | ⟨httl, text, hcheck⟩
  case inr =>
    rw [hcheck]
    exact .inr ⟨.timeToLive, text, ⟨httl, by simp [Rule.earlier, Rule.KeptBy, htargets]⟩, rfl⟩
  rw [hcheck]
  rcases decides_priority hlimits m.priority with ⟨hpriority, hcheck⟩ | ⟨hpriority, text, hcheck⟩
  case inr =>
    rw [hcheck]
    exact .inr ⟨.priority, text,
      ⟨hpriority, by simp [Rule.earlier, Rule.KeptBy, htargets, httl]⟩, rfl⟩
  rw [hcheck]
  rcases decides_data m.data with ⟨hdata, hcheck⟩ | ⟨hdata, text, hcheck⟩
  case inr =>
    rw [hcheck]
    exact .inr ⟨.data, text,
      ⟨hdata, by simp [Rule.earlier, Rule.KeptBy, htargets, httl, hpriority]⟩, rfl⟩
  rw [hcheck]
  refine .inl ⟨fun rule => ?_, rfl⟩
  cases rule with
  | presence => trivial
  | targets => exact htargets
  | timeToLive => exact httl
  | priority => exact hpriority
  | data => exact hdata

/-- What the rules mean, for whatever stands in the fields of a message. -/
theorem validate_judgedBy {config : Config} {l : Limits} (hlimits : config.HasLimits l)
    (message : Option Message) : JudgedBy l message (validate message config) := by
  cases message with
  | none =>
    have hbroken : ¬ Rule.presence.KeptBy l none := fun h => h rfl
    refine ⟨fun m => ?_, fun _ _ => ⟨.presence, _, ⟨hbroken, by simp [Rule.earlier]⟩, rfl⟩, ?_⟩
    · simp [validate, MessageFailure.invalid]
    · rintro m ⟨⟩
  | some m =>
    by_cases hcounted : Uncounted m.targets
    · have hverdict : validate (some m) config =
          .error (.misused (.noLength m.targets.qualifiedTypeName)) := by
        simp only [validate, checkTargets_of_uncounted hcounted config]
        rfl
      have hbroken : ¬ ∀ rule, Rule.KeptBy l (some m) rule := by
        intro hkept
        obtain ⟨n, hn, -⟩ := (hkept .targets : TargetsKept l m.targets).counted
        exact hcounted.2 n hn
      rw [hverdict]
      refine ⟨fun m' => ?_, fun _ h => absurd hcounted (h m rfl), ?_⟩
      · simp [hbroken]
      · rintro _ ⟨⟩ -
        exact ⟨_, rfl, rfl⟩
    · have hmisused : ∀ m', some m = some m' → ¬ Uncounted m'.targets := by
        rintro _ ⟨⟩
        exact hcounted
      rcases validate_decides hlimits hcounted with
        ⟨hkept, hverdict⟩ | ⟨rule, text, hfirst, hverdict⟩
      · rw [hverdict]
        refine ⟨fun m' => ?_, fun hbroken _ => ?_, fun m' hm h => absurd h (hmisused m' hm)⟩
        · simp [hkept]
        · obtain ⟨rule, h⟩ := hbroken
          exact absurd (hkept rule) h
      · rw [hverdict]
        have hbroken : ¬ ∀ rule, Rule.KeptBy l (some m) rule := fun hkept => hfirst.1 (hkept rule)
        refine ⟨fun m' => ?_, fun _ _ => ⟨rule, text, hfirst, rfl⟩,
          fun m' hm h => absurd h (hmisused m' hm)⟩
        simp [hbroken]

/-- The limits of the default configuration. -/
def defaultLimits : Limits := ⟨PushRelay.maxTargets, PushRelay.maxTimeToLive, ["high", "normal"]⟩

theorem hasLimits_default : ({} : Config).HasLimits defaultLimits where
  maxTargets := rfl
  maxTargets_short := Json.short_of_lt_pow (k := 4) (by decide) (by decide)
  maxTimeToLive := rfl
  maxTimeToLive_short := Json.short_of_lt_pow (k := 7) (by decide) (by decide)
  allowedPriorities := rfl

/-- A truth value is no time to live, and that is said before all else that is
wrong; data with a tuple, a NaN and a key that is null are accepted; and a
number has no length. -/
theorem judged_by_default_limits :
    (let m : Message := {
        targets := .tuple [.null], timeToLive := .bool true, priority := .text "urgent",
        data := .object {} }
      ∃ text, validate (some m) {} =
        .error (.refused (.validation (.text text) (.text "time_to_live")))) ∧
    (let m : Message := {
        targets := .set [.text "t1"], timeToLive := .int 60,
        data := .dict [(.null, .tuple [.float .nan])] };
      validate (some m) {} = .ok m) ∧
    (let m : Message := { targets := .int 1, timeToLive := .int (-1) }
      ∃ e : Misuse, validate (some m) {} = .error (.misused e) ∧ e.className = "TypeError") := by
  refine ⟨?_, ?_, ?_⟩
  · intro m
    have htargets : Rule.targets.KeptBy defaultLimits (some m) :=
      ⟨nofun, nofun, nofun, 1, rfl, by decide, by decide⟩
    have httl : ¬ Rule.timeToLive.KeptBy defaultLimits (some m) := nofun
    have hcounted : ∀ m', some m = some m' → ¬ Uncounted m'.targets := by
      rintro _ ⟨⟩ h
      exact h.2 1 rfl
    obtain ⟨rule, text, hfirst, hverdict⟩ :=
      (validate_judgedBy hasLimits_default (some m)).refused ⟨_, httl⟩ hcounted
    cases rule with
    | presence => exact absurd trivial hfirst.1
    | targets => exact absurd htargets hfirst.1
    | timeToLive => exact ⟨text, hverdict⟩
    | priority | data => exact absurd (hfirst.2 .timeToLive (by simp [Rule.earlier])) httl
  · intro m
    refine ((validate_judgedBy hasLimits_default (some m)).accepted_iff m).mpr ⟨rfl, ?_⟩
    rintro (_ | _ | _ | _ | _)
    · trivial
    · exact ⟨nofun, nofun, nofun, 1, rfl, by decide, by decide⟩
    · exact ⟨60, rfl, by decide, by decide⟩
    · exact ⟨"", rfl, .inl rfl⟩
    · refine .inr (.dict ?_ ?_)
      · exact List.forall_mem_singleton.mpr .null
      · exact List.forall_mem_singleton.mpr (.tuple (List.forall_mem_singleton.mpr (.float .nan)))
  · intro m
    exact (validate_judgedBy hasLimits_default (some m)).misused m rfl ⟨nofun, nofun⟩

theorem isLong_of_pow : Numeral.isLong (10 ^ Numeral.maxDigits : Nat) = true := by
  rw [Numeral.isLong, decide_eq_true_iff, ← Nat.not_le, Nat.length_repr_le_iff (by decide),
    Int.natAbs_natCast]
  exact Nat.lt_irrefl _

/-- A bound of too many digits cannot be named in the refusal of a time to
live. -/
theorem checkTimeToLive_of_long {config : Config} {limit : Int}
    (hlimit : config.maxTimeToLive = .int limit) (hlong : Numeral.isLong limit = true)
    {ttl : Int} (hnegative : ttl < 0) :
    checkTimeToLive (.int ttl) config = .error (.misused .longInteger) := by
  have hbad : badTimeToLive (.int ttl) config = .ok true := if_pos hnegative
  have hprinted : config.maxTimeToLive.printed = .error .longInteger := by
    rw [hlimit]
    exact if_pos hlong
  unfold checkTimeToLive
  rw [hbad, hprinted]
  rfl

/-- Under such a bound a number below zero is not refused as a time to live. -/
theorem not_judged_under_long_limit :
    let limit : Int := (10 ^ Numeral.maxDigits : Nat)
    let config : Config := { maxTimeToLive := .int limit }
    let l : Limits := { defaultLimits with maxTimeToLive := limit }
    let m : Message := { targets := .list [.text "t1"], timeToLive := .int (-1) }
    config.maxTargets.toInt? = some l.maxTargets ∧
      config.maxTimeToLive.toInt? = some l.maxTimeToLive ∧
      config.allowedPriorities = .tuple (l.priorities.map .text) ∧
      ¬ JudgedBy l (some m) (validate (some m) config) := by
  intro limit config l m
  refine ⟨rfl, rfl, rfl, fun hjudged => ?_⟩
  have hverdict : validate (some m) config = .error (.misused .longInteger) := by
    have htargets : checkTargets m.targets config = .ok () := rfl
    have httl : checkTimeToLive m.timeToLive config = .error (.misused .longInteger) :=
      checkTimeToLive_of_long rfl isLong_of_pow (by decide)
    simp only [validate, htargets, httl]
    rfl
  have hcounted : ∀ m', some m = some m' → ¬ Uncounted m'.targets := by
    rintro _ ⟨⟩ h
    exact h.2 1 rfl
  have hbroken : ¬ Rule.timeToLive.KeptBy l (some m) := by
    rintro ⟨n, hn, hnonneg, -⟩
    cases hn
    exact absurd hnonneg (by decide)
  obtain ⟨rule, text, -, hrefused⟩ := hjudged.refused ⟨_, hbroken⟩ hcounted
  cases hverdict.symm.trans hrefused

end Message
end PushRelay
