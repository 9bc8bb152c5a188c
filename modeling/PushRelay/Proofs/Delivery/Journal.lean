import PushRelay.Proofs.Delivery.Ids
import PushRelay.Proofs.Delivery.Reporting

/-!
# The lines of best-effort sends

What was logged of a best-effort send can be matched with its outcomes: there
is one warning for each target that failed, in the order of the targets, and
at the end the numbers. All of these lines have the id of the send, which no
other send of the session has, and nothing that was bound around the sends is
in them.
-/

namespace PushRelay

/-- The targets of a message are texts, and there are not so many that their
number could not be written, as there are of no sequence in memory. -/
structure Message.TextTargets (m : Message) : Prop where
  texts : ∀ ts, m.targets.items = .ok ts → ∀ t ∈ ts, Value.isText t = true
  countable : ∀ ts, m.targets.items = .ok ts → ts.length < 10 ^ Numeral.maxDigits

namespace Delivery

open Client (countSite deliveryLogger tokenSite targetCount)
open Log (IsLine isWarning)

/-! ## One send -/

/-- The lines of a batch tell of its outcomes: a warning for each that failed, in
their order, and at last their numbers, unless only warnings are written. -/
structure AccountFor (setup : Log.Setup) (service withCaller : Value) (id : String)
    (outcomes : List TargetOutcome) (written : List String) : Prop where
  warnings : List.Forall₂ (TellsOf service withCaller id outcomes.length)
    (written.filter isWarning) (outcomes.filter fun o => !o.success.truthy)
  last : setup.rank ≤ Log.Level.info.rank →
    let delivered := (outcomes.filter (·.success.truthy)).length
    ∃ line, written.getLast? = some line ∧
      Log.field? line "message" =
        some (.text s!"Delivered message to {delivered}/{outcomes.length} target(s)") ∧
      Log.field? line "level" = some (.text "INFO") ∧
      Log.field? line "batch_id" = some (.text id)

/-- The lines between two sessions are those of a best-effort send that came to
some outcomes: what the exchange of credentials may log for debugging, with the
tags from outside, and then the lines of the batch. -/
structure LogsOutcomes (setup : Log.Setup) (service withCaller : Value)
    (message : Option Message) (id : String) (outcomes : List TargetOutcome) (s t : Session) :
    Prop where
  targets : ∃ m, message = some m ∧ m.targets.length = .ok outcomes.length
  lines : ∃ exchanged written, t.lines = s.lines ++ exchanged ++ written ∧
    (∀ line ∈ exchanged, ∃ now text, setup.line? now s.tagging.tags
      (Log.recordOf tokenSite .debug text []) = some line) ∧
    AccountFor setup service withCaller id outcomes written

/-- Only lines and tags matter. -/
theorem LogsOutcomes.of_lines {setup : Log.Setup} {service withCaller : Value}
    {message : Option Message} {id : String} {outcomes : List TargetOutcome}
    {s s' t t' : Session} (h : LogsOutcomes setup service withCaller message id outcomes s t)
    (hs : s'.lines = s.lines) (htags : s'.tagging.tags = s.tagging.tags)
    (ht : t'.lines = t.lines) :
    LogsOutcomes setup service withCaller message id outcomes s' t' := by
  obtain ⟨htargets, hlines⟩ := h
  rw [← hs, ← ht, ← htags] at hlines
  exact ⟨htargets, hlines⟩

namespace Client

variable {c : Client} {env : Surroundings} {setup : Log.Setup} {service withCaller : Value}
  {message : Option Message} {credentials : Value} {s t : Session} {m : Message}
  {token : BearerToken} {wires : List WireMessage} {id : String} {count : Nat}
  {target : Option Value} {outcomes : List TargetOutcome}

/-- A token that was exchanged is all that is logged before the scope. -/
theorem fetch_lines (hlogging : env.logging = some setup) (c : Client) (credentials : Value)
    (s : Session) :
    ∃ exchanged, (c.fetch env credentials s).2.lines = s.lines ++ exchanged ∧
      ∀ line ∈ exchanged, ∃ now text, setup.line? now s.tagging.tags
        (Log.recordOf tokenSite .debug text []) = some line := by
  have hnothing : s.lines = s.lines ++ [] ∧ ∀ line ∈ ([] : List String), ∃ now text,
      setup.line? now s.tagging.tags (Log.recordOf tokenSite .debug text []) = some line :=
    ⟨(List.append_nil _).symm, List.forall_mem_nil _⟩
  unfold fetch
  split
  · dsimp only
    split <;> exact ⟨[], hnothing⟩
  · dsimp only
    split
    · exact ⟨[], hnothing⟩
    · rw [Session.log_eq, hlogging]
      refine ⟨_, rfl, fun line hline => ?_⟩
      exact ⟨_, _, Option.mem_toList.mp hline⟩

theorem start_inScope (hcount : count < 10 ^ Numeral.maxDigits) :
    (c.start env credentials s count).InScope (s.nextId env) count none where
  named := env.ids.truthy_text _
  countable := hcount
  texts := by simp
  tags := by
    show Tags.mk (.text (env.ids.text ((c.fetch env credentials s).2.batches + 1))) _ = _
    rw [fetch_batches]
    rfl

/-- A run that came to its outcomes is concluded with their numbers. -/
theorem concluded_accounts (scope : Scope) (h : env.Reports setup service withCaller)
    (hrun : Warned service withCaller id outcomes.length s outcomes t) :
    ∃ written, (concluded env (outcomesLine scope) (.ok outcomes, t)).2.lines =
        s.lines ++ written ∧
      AccountFor setup service withCaller id outcomes written := by
  obtain ⟨written, hwritten, htells⟩ := hrun.lines
  obtain ⟨target, hscope⟩ := hrun.inScope
  show ∃ written, (t.log env countSite .info (outcomesLine scope outcomes t).text []).lines = _ ∧ _
  have hsite : countSite.logger = deliveryLogger := rfl
  by_cases hrank : setup.rank ≤ Log.Level.info.rank
  · obtain ⟨line, hlog, hline⟩ := log_of_enabled h hsite hrank hscope (List.forall_mem_nil _)
      (List.forall_mem_nil _) (outcomesLine scope outcomes t).text
    have hquiet : ¬ isWarning line = true := fun hwarning => by
      cases hline.isWarning_iff.mp hwarning
    have hid : Log.field? line "batch_id" = some (.text id) := by
      rw [hline.field?_eq, Log.fieldsOf, fields_tagsFor hscope.named, List.append_assoc,
        List.lookup_append, Log.lookup_headFields (by decide)]
      rfl
    refine ⟨written ++ [line], ?_, ?_,
      fun _ => ⟨line, List.getLast?_concat, hline.message_eq, hline.level_eq, hid⟩⟩
    · rw [hlog, ← List.append_assoc, ← hwritten]
    · rw [List.filter_append, List.filter_cons_of_neg hquiet, List.filter_nil, List.append_nil]
      exact htells
  · rw [log_of_held_back h hsite hrank]
    exact ⟨written, hwritten, htells, fun hlow => absurd hlow hrank⟩

/-- A best-effort send that comes to outcomes logs them. -/
theorem sendEach_logs (h : env.Reports setup service withCaller)
    (htexts : ∀ m, message = some m → m.TextTargets)
    (hok : (c.sendEach env message credentials s).1 = .ok outcomes) :
    LogsOutcomes setup service withCaller message (s.nextId env) outcomes s
      (c.sendEach env message credentials s).2 := by
  rcases sendEach_cases c env message credentials s with
    hearly | ⟨m, token, wires, t, hreaches⟩
  · exact absurd hok (hearly.not_ok outcomes)
  · obtain ⟨made, hgrown⟩ := (attempts_make c env token wires t).grown
    obtain ⟨scope, heq⟩ := overTargets_eq_of_reaches (fun token => traverse (c.attempt env token))
      outcomesLine hreaches hgrown
    rw [sendEach_eq_overTargets, heq] at hok ⊢
    obtain ⟨u, hrun⟩ : ∃ u, traverse (c.attempt env token) wires t = (.ok outcomes, u) :=
      ⟨_, Prod.ext hok rfl⟩
    obtain ⟨ts, n, rfl, hts, hcount, -, rfl, rfl⟩ := hreaches.targets
    have hm := htexts m rfl
    have hwires : ∀ w ∈ ts.map (m.wireFor n), Value.isText w.token = true := by
      rw [List.forall_mem_map]
      exact hm.texts ts hts
    obtain ⟨hwarned, hlength⟩ :=
      attempts_warned h (start_inScope (hm.countable ts hts)) hwires hrun
    rw [List.length_map] at hlength
    rw [← hlength] at hwarned hcount
    obtain ⟨written, hwritten, haccount⟩ := concluded_accounts scope h hwarned
    obtain ⟨exchanged, hexchanged, hdebug⟩ := fetch_lines h.logging c credentials s
    refine ⟨⟨m, rfl, hcount⟩, exchanged, written, ?_, hdebug, haccount⟩
    rw [hrun, ← hexchanged]
    show (concluded env (outcomesLine scope) (.ok outcomes, u)).2.lines = _
    rw [hwritten]
    rfl

/-! ## One step -/

/-- Only best-effort sends come to outcomes. -/
theorem perform_eq_outcomes {task : Task}
    (h : (c.perform env task s).1 = .ok (.outcomes outcomes)) :
    ∃ message credentials, task = .send .each message credentials ∧
      (c.sendEach env message credentials s).1 = .ok outcomes := by
  cases task with
  | close => cases h
  | send manner message credentials =>
    cases manner with
    | all =>
      obtain ⟨results, -, hresults⟩ := map_eq_ok_iff.mp h
      cases hresults
    | first =>
      obtain ⟨result, -, hresult⟩ := map_eq_ok_iff.mp h
      cases hresult
    | each =>
      obtain ⟨outcomes, hsend, houtcomes⟩ := map_eq_ok_iff.mp h
      cases houtcomes
      exact ⟨message, credentials, rfl, hsend⟩

/-- A step that comes to outcomes logs them, under an id that it uses up. -/
theorem step_logs {step : Step} (h : env.Reports setup service withCaller)
    (htexts : ∀ m credentials, step.task = .send .each (some m) credentials → m.TextTargets)
    (hok : (c.step env step s).1 = .ok (.outcomes outcomes)) :
    ∃ message credentials, step.task = .send .each message credentials ∧
      LogsOutcomes setup service withCaller message (s.nextId env) outcomes s (c.step env step s).2 ∧
      s.batches < (c.step env step s).2.batches := by
  rw [step_eq] at hok ⊢
  obtain ⟨message, credentials, htask, hsend⟩ := perform_eq_outcomes hok
  have hafter : (c.perform env step.task (s.later step.pause)).2 =
      (c.sendEach env message credentials (s.later step.pause)).2 := by
    rw [htask]
    rfl
  have hlogs : LogsOutcomes setup service withCaller message (s.nextId env) outcomes s
      (c.sendEach env message credentials (s.later step.pause)).2 :=
    (sendEach_logs h (fun m hm => htexts m credentials (hm ▸ htask)) hsend).of_lines rfl rfl rfl
  have hused : s.batches < (c.sendEach env message credentials (s.later step.pause)).2.batches :=
    (sendEach_usesId c env message credentials (s.later step.pause)).2 outcomes hsend
  rw [← hafter] at hlogs hused
  refine ⟨message, credentials, htask, ?_, ?_⟩
  · dsimp only
    split
    · exact hlogs.of_lines rfl rfl (close_lines ..)
    · exact hlogs
  · dsimp only
    split
    · rw [close_batches]
      exact hused
    · exact hused

end Client

/-! ## Runs -/

/-- A step of an application with scopes of its own. Before the step it may
enter and leave them and bind names, which sets tags and uses up ids. -/
structure TaggedStep extends Step where
  retag : Tagging → Tagging := id
  ids : Nat := 0

/-- The session with the tags under which a step is taken. -/
def Session.under (s : Session) (step : TaggedStep) : Session :=
  { s with batches := s.batches + step.ids, tagging := step.retag s.tagging }

namespace Client

/-- Takes one step after the other, each under tags of its own. -/
def runTagged (c : Client) (env : Surroundings) :
    List TaggedStep → Session → List (Except Failure Yield) × Session
  | [], s => ([], s)
  | step :: rest, s =>
    let (result, s) := c.step env step.toStep (s.under step)
    let (results, s) := c.runTagged env rest s
    (result :: results, s)

/-- The session after so many steps. -/
def sessionAfter (c : Client) (env : Surroundings) (steps : List TaggedStep) (s : Session)
    (i : Nat) : Session :=
  (c.runTagged env (steps.take i) s).2

/-- The step of a number is a best-effort send that begins in one session and
ends, with outcomes, in another. -/
structure ReturnsAt (c : Client) (env : Surroundings) (steps : List TaggedStep) (s : Session)
    (i : Nat) (message : Option Message) (outcomes : List TargetOutcome) (begun ended : Session) :
    Prop where
  begun : ∃ step credentials, steps[i]? = some step ∧
    step.task = .send .each message credentials ∧ begun = (c.sessionAfter env steps s i).under step
  ended : ended = c.sessionAfter env steps s (i + 1)
  yielded : (c.runTagged env steps s).1[i]? = some (.ok (.outcomes outcomes))

variable {c : Client} {env : Surroundings} {setup : Log.Setup} {service withCaller : Value}
  {message : Option Message} {outcomes : List TargetOutcome} {s : Session}
  {step : TaggedStep} {steps rest before after : List TaggedStep} {i j : Nat}

theorem runTagged_cons (c : Client) (env : Surroundings) (step : TaggedStep)
    (rest : List TaggedStep) (s : Session) :
    c.runTagged env (step :: rest) s =
      ((c.step env step.toStep (s.under step)).1 ::
          (c.runTagged env rest (c.step env step.toStep (s.under step)).2).1,
        (c.runTagged env rest (c.step env step.toStep (s.under step)).2).2) := rfl

/-- What a run yields at a number is what the step of that number comes to. -/
theorem step_of_yield {result : Except Failure Yield}
    (h : (c.runTagged env steps s).1[i]? = some result) (hstep : steps[i]? = some step) :
    c.step env step.toStep ((c.sessionAfter env steps s i).under step) =
      (result, c.sessionAfter env steps s (i + 1)) := by
  induction steps generalizing s i with
  | nil => cases hstep
  | cons first rest ih =>
    rw [runTagged_cons] at h
    cases i with
    | zero =>
      cases h
      cases hstep
      rfl
    | succ i => exact ih h hstep

section

variable {begun ended : Session}

/-- A best-effort send that comes to outcomes logs them, and uses its id up. -/
theorem ReturnsAt.logs (hi : c.ReturnsAt env steps s i message outcomes begun ended)
    (h : env.Reports setup service withCaller)
    (htexts : ∀ step ∈ steps, ∀ m credentials,
      step.task = .send .each (some m) credentials → m.TextTargets) :
    LogsOutcomes setup service withCaller message (begun.nextId env) outcomes begun ended ∧
      begun.batches < ended.batches := by
  obtain ⟨⟨step, credentials, hstep, htask, rfl⟩, rfl, hyield⟩ := hi
  have hrun := step_of_yield hyield hstep
  obtain ⟨message', credentials', htask', hlogs⟩ :=
    step_logs h (htexts step (List.mem_of_getElem? hstep)) (congrArg Prod.fst hrun)
  rw [htask] at htask'
  cases htask'
  rw [hrun] at hlogs
  exact hlogs

end

end Client
end Delivery
end PushRelay
