import Mathlib.Data.List.Forall2
import PushRelay.Proofs.Delivery.Restoration
import PushRelay.Proofs.Log.Line
import PushRelay.Proofs.Number.Magnitude
import PushRelay.Proofs.Scope.BatchId

/-!
# What attempts report

With structured lines, an attempt that fails leaves one warning behind, with
its outcome and the tags of its own scope in it and nothing else; an attempt
that succeeds leaves none. So the warnings of a traversal are those of its
failed outcomes, in their order.
-/

namespace PushRelay

open Json (Plain)

namespace Delivery

open Client (deliveryLogger failureSite targetCount outcomeAttributes)
open Log (IsLine OnlyReported TagsApart isWarning)

/-- No span of time between two moments has too many digits to be written. -/
theorem Session.natAbs_milliseconds_lt (start stop : Binary64) :
    (Session.milliseconds start stop).natAbs < 10 ^ Numeral.maxDigits := by
  have hlimit : ∀ k < Numeral.maxDigits, 2 ^ k < 10 ^ Numeral.maxDigits := fun k hk =>
    Nat.lt_of_le_of_lt (Nat.pow_le_pow_left (by decide) k) (Nat.pow_lt_pow_right (by decide) hk)
  unfold Session.milliseconds
  cases h : ((stop.sub start).scaleBy 1000).truncate? with
  | none => exact Nat.pow_pos (by decide)
  | some k =>
    exact Nat.lt_of_le_of_lt (Binary64.natAbs_truncate_le (Binary64.bounded_scaleBy _ _) h)
      (hlimit _ (by decide))

/-! ## The tags of a scope -/

/-- The tags of a batch of so many targets, of which the one that is delivered
to may be bound. -/
def tagsFor (id : String) (count : Nat) (target : Option Value) : Tags :=
  ⟨.text id, targetCount count ++ (target.map fun v => ("target", v)).toList⟩

section

variable {id : String} {count : Nat} {target : Option Value}

theorem fields_tagsFor (hid : (Value.text id).truthy = true) :
    (tagsFor id count target).fields =
      ("batch_id", .text id) :: (tagsFor id count target).bindings := by
  rw [Tags.fields, tagsFor, if_pos hid]
  cases target <;> simp [targetCount, Bindings.update, Bindings.put]

theorem tagsApart_tagsFor (hid : (Value.text id).truthy = true) :
    TagsApart (tagsFor id count target) := by
  refine ⟨["batch_id", "target_count", "target"], ?_, by decide⟩
  rw [fields_tagsFor hid]
  cases target <;> simp [Named, tagsFor, targetCount]

theorem plain_tagsFor (hid : (Value.text id).truthy = true)
    (hcount : count < 10 ^ Numeral.maxDigits) (htarget : ∀ v ∈ target, Value.isText v = true) :
    ∀ f ∈ (tagsFor id count target).fields, Plain f.2 := by
  rw [fields_tagsFor hid]
  have hplain : Plain (.int count) := .int hcount
  cases target with
  | none => simp [tagsFor, targetCount, Plain.text, hplain]
  | some v =>
    have hv := Message.plain_of_isText (htarget v rfl)
    simp [tagsFor, targetCount, Plain.text, hplain, hv]

end

/-- The session is in the scope of a batch of so many targets, of which the one
that is delivered to may be bound. -/
structure Session.InScope (s : Session) (id : String) (count : Nat) (target : Option Value) :
    Prop where
  named : (Value.text id).truthy = true
  countable : count < 10 ^ Numeral.maxDigits
  texts : ∀ v ∈ target, Value.isText v = true
  tags : s.tagging.tags = tagsFor id count target

section

variable {s t : Session} {id : String} {count : Nat} {target : Option Value} {v : Value}

theorem Session.InScope.of_tags (h : s.InScope id count target)
    (htags : t.tagging.tags = s.tagging.tags) : t.InScope id count target :=
  ⟨h.named, h.countable, h.texts, htags.trans h.tags⟩

/-- A target takes the place of the one before. -/
theorem Session.InScope.bind (h : s.InScope id count target) (hv : v.isText = true) :
    (s.bind [("target", v)]).InScope id count (some v) where
  named := h.named
  countable := h.countable
  texts := by
    intro w hw
    cases hw
    exact hv
  tags := by
    show Tags.mk s.tagging.tags.batchId (s.tagging.tags.bindings.update _) = _
    rw [h.tags]
    cases target <;> simp [tagsFor, targetCount, Bindings.update, Bindings.put]

end

/-! ## Lines -/

/-- Lines are structured, warnings are not held back, and every response has a
status that is short enough to be written. -/
structure Surroundings.Reports (env : Surroundings) (setup : Log.Setup)
    (service withCaller : Value) : Prop where
  logging : env.logging = some setup
  format : setup.formatter = .structured service withCaller
  rank : setup.rank ≤ Log.Level.warning.rank
  service : Plain service
  statuses : ∀ n r, (env.answers n).reply = .response r →
    r.status.natAbs < 10 ^ Numeral.maxDigits

theorem enabled_iff_of_site {site : Log.Site} (hsite : site.logger = deliveryLogger)
    (setup : Log.Setup) (level : Log.Level) :
    setup.enabled site.logger level.rank = true ↔ setup.rank ≤ level.rank := by
  have hloud : (Log.ancestors (Log.nameParts deliveryLogger).reverse).any
      Log.quietLoggers.contains = false := by decide
  have hpositive : 0 < level.rank := by cases level <;> decide
  simp [Log.Setup.enabled, Log.Setup.rankOf, hsite, hloud, hpositive]

section

variable {env : Surroundings} {setup : Log.Setup} {service withCaller : Value} {s : Session}
  {id : String} {count : Nat} {target : Option Value} {site : Log.Site} {level : Log.Level}
  {message : String} {attributes : Bindings}

/-- What the line of a record is, if it leaves one, is all that is added. -/
theorem Session.log_eq (s : Session) (env : Surroundings) (site : Log.Site) (level : Log.Level)
    (message : String) (attributes : Bindings) :
    s.log env site level message attributes =
      { s with lines := s.lines ++ (env.logging.bind
        (·.line? s.now s.tagging.tags (Log.recordOf site level message attributes))).toList } := by
  unfold Session.log
  dsimp only
  cases env.logging.bind
      (·.line? s.now s.tagging.tags (Log.recordOf site level message attributes)) with
  | none => simp
  | some line => rfl

theorem log_of_held_back (h : env.Reports setup service withCaller)
    (hsite : site.logger = deliveryLogger) (hlevel : ¬ setup.rank ≤ level.rank) :
    s.log env site level message attributes = s := by
  rw [Session.log_eq, h.logging, Option.bind_some, Log.line?_structured h.format, if_neg]
  · simp
  · exact fun henabled => hlevel ((enabled_iff_of_site hsite setup level).mp henabled)

theorem log_of_enabled (h : env.Reports setup service withCaller)
    (hsite : site.logger = deliveryLogger) (hlevel : setup.rank ≤ level.rank)
    (hs : s.InScope id count target)
    (hattributes : OnlyReported attributes) (hplain : ∀ f ∈ attributes, Plain f.2)
    (message : String) :
    ∃ line, s.log env site level message attributes =
        { s with lines := s.lines ++ [line] } ∧
      IsLine (Log.fieldsOf service withCaller s.now (tagsFor id count target) site level
        message attributes) line := by
  obtain ⟨line, hwritten, hline⟩ := Log.structuredLine_of_plain withCaller s.now site
    level message hattributes (tagsApart_tagsFor hs.named) h.service
    (plain_tagsFor hs.named hs.countable hs.texts) hplain
  refine ⟨line, ?_, hline⟩
  rw [Session.log_eq, h.logging, hs.tags, Option.bind_some, Log.line?_structured h.format, if_pos,
    hwritten]
  · rfl
  · exact (enabled_iff_of_site hsite setup level).mpr hlevel

end

/-- From `s` to `t` nothing is bound, and no warning is logged. -/
structure Session.Quiet (s t : Session) : Prop where
  tagging : t.tagging = s.tagging
  lines : ∃ quiet, t.lines = s.lines ++ quiet ∧ ∀ line ∈ quiet, isWarning line = false

section

variable {env : Surroundings} {setup : Log.Setup} {service withCaller : Value} {s t u : Session}
  {id : String} {count : Nat} {target : Option Value} {site : Log.Site} {level : Log.Level}

theorem Session.Quiet.of_lines (htagging : t.tagging = s.tagging) (hlines : t.lines = s.lines) :
    s.Quiet t :=
  ⟨htagging, [], by rw [hlines, List.append_nil], List.forall_mem_nil _⟩

theorem Session.Quiet.trans (h : s.Quiet t) (h' : t.Quiet u) : s.Quiet u := by
  obtain ⟨quiet, hquiet, hnone⟩ := h.lines
  obtain ⟨more, hmore, hnone'⟩ := h'.lines
  refine ⟨h'.tagging.trans h.tagging, quiet ++ more, ?_, List.forall_mem_append.mpr ⟨hnone, hnone'⟩⟩
  rw [hmore, hquiet, List.append_assoc]

/-- What is logged at another level is no warning. -/
theorem log_quiet (h : env.Reports setup service withCaller) (hs : s.InScope id count target)
    (hsite : site.logger = deliveryLogger) (hlevel : level ≠ .warning) (message : String) :
    s.Quiet (s.log env site level message []) := by
  refine ⟨Session.log_tagging .., ?_⟩
  by_cases hrank : setup.rank ≤ level.rank
  · obtain ⟨line, hlog, hline⟩ := log_of_enabled h hsite hrank hs (List.forall_mem_nil _)
      (List.forall_mem_nil _) message
    refine ⟨[line], by rw [hlog], List.forall_mem_singleton.mpr ?_⟩
    exact Bool.eq_false_iff.mpr fun hwarning => hlevel (hline.isWarning_iff.mp hwarning)
  · rw [log_of_held_back h hsite hrank]
    exact ⟨[], (List.append_nil _).symm, List.forall_mem_nil _⟩

end

/-! ## Warnings -/

/-- What the warning about an outcome has after the fields that every line
begins with. -/
def reportFields (id : String) (count : Nat) (o : TargetOutcome) : Bindings :=
  [("batch_id", .text id), ("target_count", .int count), ("target", o.target),
    ("status_code", o.statusCode), ("latency_ms", o.latency), ("error_code", o.errorCode)]

/-- The fields of the warning about an outcome. -/
def warningFields (service withCaller : Value) (now : Instant) (id : String) (count : Nat)
    (o : TargetOutcome) : Bindings :=
  Log.headFields service withCaller now failureSite .warning
    s!"Delivery failed: {o.errorMessage.shown}" ++ reportFields id count o

/-- The line is the warning about an outcome: it has the outcome, the batch and
the number of targets, and nothing from outside the batch. -/
structure TellsOf (service withCaller : Value) (id : String) (count : Nat) (line : String)
    (o : TargetOutcome) : Prop where
  isLine : ∃ now, o.timestamp = .instant now ∧
    IsLine (warningFields service withCaller now id count o) line
  target : Log.field? line "target" = some o.target
  errorCode : Log.field? line "error_code" = some o.errorCode
  statusCode : Log.field? line "status_code" = some o.statusCode
  latency : Log.field? line "latency_ms" = some o.latency
  targetCount : Log.field? line "target_count" = some (.int count)
  batchId : Log.field? line "batch_id" = some (.text id)

section

variable {service withCaller : Value} {now : Instant} {id line : String} {count : Nat}
  {o : TargetOutcome}

theorem fieldsOf_warning (hid : (Value.text id).truthy = true) :
    Log.fieldsOf service withCaller now (tagsFor id count (some o.target)) failureSite .warning
      s!"Delivery failed: {o.errorMessage.shown}" (outcomeAttributes o) =
      warningFields service withCaller now id count o := by
  have hattributes : Log.attributesInOrder (outcomeAttributes o) =
      [("status_code", o.statusCode), ("latency_ms", o.latency), ("error_code", o.errorCode)] :=
    rfl
  rw [Log.fieldsOf, fields_tagsFor hid, hattributes, warningFields, List.append_assoc]
  rfl

theorem TellsOf.of_isLine (htimestamp : o.timestamp = .instant now)
    (h : IsLine (warningFields service withCaller now id count o) line) :
    TellsOf service withCaller id count line o := by
  have hreport : ∀ name, name ∉ Log.headNames →
      Log.field? line name = (reportFields id count o).lookup name := by
    intro name hname
    rw [h.field?_eq, warningFields, List.lookup_append, Log.lookup_headFields hname]
    rfl
  exact {
    isLine := ⟨now, htimestamp, h⟩
    target := hreport "target" (by decide)
    errorCode := hreport "error_code" (by decide)
    statusCode := hreport "status_code" (by decide)
    latency := hreport "latency_ms" (by decide)
    targetCount := hreport "target_count" (by decide)
    batchId := hreport "batch_id" (by decide) }

theorem onlyReported_outcomeAttributes (o : TargetOutcome) :
    OnlyReported (outcomeAttributes o) := by
  simp [OnlyReported, outcomeAttributes, Log.reportedAttributes]

/-- What is logged of an outcome is the warning about it. -/
theorem log_warning {env : Surroundings} {setup : Log.Setup} {s : Session}
    (h : env.Reports setup service withCaller) (hs : s.InScope id count (some o.target))
    (htimestamp : o.timestamp = .instant s.now)
    (hplain : ∀ f ∈ outcomeAttributes o, Plain f.2) :
    ∃ line, s.log env failureSite .warning s!"Delivery failed: {o.errorMessage.shown}"
        (outcomeAttributes o) = { s with lines := s.lines ++ [line] } ∧
      isWarning line = true ∧ TellsOf service withCaller id count line o := by
  have hsite : failureSite.logger = deliveryLogger := rfl
  obtain ⟨line, hlog, hline⟩ := log_of_enabled h hsite h.rank hs (onlyReported_outcomeAttributes o)
    hplain s!"Delivery failed: {o.errorMessage.shown}"
  have hwarning := hline.isWarning_iff.mpr rfl
  rw [fieldsOf_warning hs.named] at hline
  exact ⟨line, hlog, hwarning, .of_isLine htimestamp hline⟩

end

namespace Client

variable {c : Client} {env : Surroundings} {setup : Log.Setup} {service withCaller : Value}
  {token : BearerToken} {wire : WireMessage} {wires : List WireMessage} {s t : Session}
  {id : String} {count : Nat} {target : Option Value}

/-! ## One target -/

theorem post_quiet (c : Client) (env : Surroundings) (token : BearerToken) (body : String)
    (s : Session) : s.Quiet (c.post env token body s).2 := by
  unfold post
  split
  · exact .of_lines rfl rfl
  · split
    · exact .of_lines rfl rfl
    · exact .of_lines rfl rfl

/-- A delivery by itself warns of nothing. -/
theorem deliver_quiet (h : env.Reports setup service withCaller) (hs : s.InScope id count target)
    (c : Client) (token : BearerToken) (wire : WireMessage) :
    s.Quiet (c.deliver env token wire s).2 := by
  unfold deliver
  split
  · exact .of_lines rfl rfl
  · rename_i body _
    have hpost := post_quiet c env token body s
    split
    · rename_i hrun
      rw [hrun] at hpost
      exact hpost
    · rename_i reply t hrun
      rw [hrun] at hpost
      split
      · exact hpost
      · exact hpost.trans (log_quiet h (hs.of_tags (congrArg _ hpost.tagging)) rfl (by decide) _)

/-- A status that is recorded is short enough to be written. -/
theorem plain_status_of_deliver (h : env.Reports setup service withCaller) {failure : Failure}
    {e : RelayError} (hrun : c.deliver env token wire s = (.error failure, t))
    (he : recorded? failure = some e) : Plain (e.status?.getD .null) := by
  rcases deliver_cases c env token wire s with
    ⟨failure', hrun', hunwritten⟩ |
    ⟨a, body, u, -, -, -, -, ⟨v, -, hrun'⟩ | ⟨failure', hjudge, hrun'⟩⟩
  · rw [hrun] at hrun'
    cases hrun'
    rw [recorded?_of_unwritten hunwritten] at he
    cases he
  · rw [hrun] at hrun'
    cases hrun'
  · rw [hrun] at hrun'
    cases hrun'
    obtain ⟨rfl, -⟩ := recorded?_eq_some_iff.mp he
    have hreports := reports_of_judge hjudge
    cases hreply : (env.answers s.requests.length).reply with
    | failed raised =>
      rw [hreply] at hreports
      obtain ⟨message, rfl⟩ := hreports
      exact .null
    | response r =>
      rw [hreply] at hreports
      obtain ⟨message, body, -, rfl⟩ := hreports
      exact .int (h.statuses _ r hreply)

/-- The outcomes are what the lines since `s` warn of: of those that failed, and
in their order. -/
structure Warned (service withCaller : Value) (id : String) (count : Nat) (s : Session)
    (outcomes : List TargetOutcome) (t : Session) : Prop where
  inScope : ∃ target, t.InScope id count target
  lines : ∃ written, t.lines = s.lines ++ written ∧
    List.Forall₂ (TellsOf service withCaller id count) (written.filter isWarning)
      (outcomes.filter fun o => !o.success.truthy)

section

variable {o : TargetOutcome} {os : List TargetOutcome}

/-- There is nothing to warn of when all went well. -/
theorem Warned.of_quiet (hs : s.InScope id count target) (h : s.Quiet t)
    (hos : ∀ o ∈ os, o.success.truthy = true) : Warned service withCaller id count s os t := by
  obtain ⟨quiet, hlines, hnone⟩ := h.lines
  refine ⟨⟨target, hs.of_tags (congrArg _ h.tagging)⟩, quiet, hlines, ?_⟩
  rw [List.filter_eq_nil_iff.mpr fun line hline => by simp [hnone line hline],
    List.filter_eq_nil_iff.mpr fun o ho => by simp [hos o ho]]
  exact .nil

theorem Warned.trans {u : Session} {ps : List TargetOutcome}
    (h : Warned service withCaller id count s os t)
    (h' : Warned service withCaller id count t ps u) :
    Warned service withCaller id count s (os ++ ps) u := by
  obtain ⟨written, hwritten, htells⟩ := h.lines
  obtain ⟨more, hmore, htells'⟩ := h'.lines
  refine ⟨h'.inScope, written ++ more, ?_, ?_⟩
  · rw [hmore, hwritten, List.append_assoc]
  · rw [List.filter_append, List.filter_append]
    exact List.rel_append htells htells'

theorem warned_of_failed (h : env.Reports setup service withCaller)
    (hs : s.InScope id count (some o.target)) (ho : ¬ o.success.truthy = true)
    (htimestamp : o.timestamp = .instant s.now) (hplain : ∀ f ∈ outcomeAttributes o, Plain f.2) :
    Warned service withCaller id count s [o]
      (s.log env failureSite .warning s!"Delivery failed: {o.errorMessage.shown}"
        (outcomeAttributes o)) := by
  obtain ⟨line, hlog, hwarning, htells⟩ := log_warning h hs htimestamp hplain
  refine ⟨⟨_, hs.of_tags (congrArg _ (Session.log_tagging ..))⟩, [line], by rw [hlog], ?_⟩
  rw [List.filter_cons_of_pos hwarning, List.filter_cons_of_pos (by simpa using ho)]
  exact .cons htells .nil

/-- An attempt warns of its outcome if it failed, and of nothing else. -/
theorem attempt_warned (h : env.Reports setup service withCaller)
    (hs : s.InScope id count (some wire.token))
    (hrun : c.attempt env token wire s = (.ok o, t)) :
    Warned service withCaller id count s [o] t := by
  have hquiet := deliver_quiet h hs c token wire
  rcases hdeliver : c.deliver env token wire s with ⟨failure | result, u⟩
  · rw [hdeliver] at hquiet
    cases he : recorded? failure with
    | none =>
      rw [attempt_of_passed hdeliver he] at hrun
      cases hrun
    | some e =>
      obtain ⟨o', hattempt, ho, htimestamp, hlatency⟩ := attempt_eq_of_recorded hdeliver he
      rw [hrun] at hattempt
      cases hattempt
      have hu : u.InScope id count (some o.target) :=
        ho.target ▸ hs.of_tags (congrArg _ hquiet.tagging)
      have hplain : ∀ f ∈ outcomeAttributes o, Plain f.2 := by
        have hstatus := plain_status_of_deliver h hdeliver he
        have hspan := Plain.int (Session.natAbs_milliseconds_lt s.seconds u.seconds)
        simp [outcomeAttributes, ho.errorCode, ho.statusCode, hlatency, Plain.text, hstatus, hspan]
      exact (Warned.of_quiet hs hquiet (List.forall_mem_nil _)).trans
        (warned_of_failed h hu ho.not_truthy htimestamp hplain)
  · rw [hdeliver] at hquiet
    simp only [attempt, hdeliver] at hrun
    cases hrun
    exact .of_quiet hs hquiet (List.forall_mem_singleton.mpr rfl)

/-- The warnings of a traversal are those of its attempts. -/
theorem attempts_warned (h : env.Reports setup service withCaller)
    (hs : s.InScope id count target) (hwires : ∀ w ∈ wires, Value.isText w.token = true)
    (hrun : traverse (c.attempt env token) wires s = (.ok os, t)) :
    Warned service withCaller id count s os t ∧ os.length = wires.length := by
  induction wires generalizing s target os with
  | nil =>
    cases hrun
    exact ⟨.of_quiet hs (.of_lines rfl rfl) (List.forall_mem_nil _), rfl⟩
  | cons wire rest ih =>
    obtain ⟨o, ps, u, rfl, hstep, hrest⟩ := traverse_cons_eq_ok hrun
    have hbound := hs.bind (hwires wire List.mem_cons_self)
    have hfirst := attempt_warned h hbound hstep
    obtain ⟨target', hu⟩ := hfirst.inScope
    obtain ⟨hmore, hlength⟩ :=
      ih hu (fun w hw => hwires w (List.mem_cons_of_mem _ hw)) hrest
    refine ⟨?_, congrArg (· + 1) hlength⟩
    -- binding a target logs nothing
    obtain ⟨written, hwritten, htells⟩ := (hfirst.trans hmore).lines
    exact ⟨hmore.inScope, written, hwritten, htells⟩

end

end Client
end Delivery
end PushRelay
